import DatabaseGateway.Client.ScriptedHost
import DatabaseGateway.Proofs.Client.Answers
import DatabaseGateway.Proofs.Client.Custody

/-!
What a guest's call puts on the wire.

A call goes out as the bytes of its request, in as many sends as the host takes for it, and nothing
else goes out (`Inquiry.ask_goesOut`). Whether these bytes are read as the request is another
matter: texts are ended by a zero byte, parameters are counted in sixteen bits and frames have a
largest size, and none of this is looked at before the bytes are sent (`request_on_wire`).
-/

namespace DatabaseGateway.Client

open Wire

variable {σ : Type}

def HostEvent.accepted : HostEvent → Bytes
  | sent _ data (.ok n) => data.take n
  | _ => []

/-- What went on between two states of a host with a record: calls with one handle, in which the
host took `bytes`, in their order. -/
def Sends (h : Handle) (w : σ × List HostEvent) (bytes : Bytes) (w' : σ × List HostEvent) : Prop :=
  ∃ events, w'.2 = w.2 ++ events ∧ (∀ e ∈ events, e.handle? = some h) ∧
    events.flatMap HostEvent.accepted = bytes

section Sends

variable {cap : Capability σ} {h : Handle} {w w' w'' : σ × List HostEvent} {bytes bytes' : Bytes}

theorem Sends.refl : Sends h w [] w := ⟨[], by simp, by simp, rfl⟩

theorem Sends.trans (hfirst : Sends h w bytes w') (hsecond : Sends h w' bytes' w'') :
    Sends h w (bytes ++ bytes') w'' := by
  obtain ⟨events, hlog, hown, rfl⟩ := hfirst
  obtain ⟨events', hlog', hown', rfl⟩ := hsecond
  refine ⟨events ++ events', by rw [hlog', hlog, List.append_assoc], ?_, List.flatMap_append⟩
  intro e hmem
  exact (List.mem_append.1 hmem).elim (hown e) (hown' e)

theorem Sends.silently (hfirst : Sends h w bytes w') (hsecond : Sends h w' [] w'') :
    Sends h w bytes w'' := by
  simpa using hfirst.trans hsecond

theorem sends_send {data : Bytes} {answer : Except GatewayError Nat}
    (hran : cap.recorded.send h data w = (answer, w')) :
    Sends h w (HostEvent.sent h data answer).accepted w' := by
  cases hran
  exact ⟨[.sent h data _], rfl, by simp [HostEvent.handle?], List.flatMap_singleton ..⟩

theorem sends_recv {most : Nat} {answer : Except GatewayError Bytes}
    (hran : cap.recorded.recv h most w = (answer, w')) : Sends h w [] w' := by
  cases hran
  exact ⟨[.received h most _], rfl, by simp [HostEvent.handle?], rfl⟩

theorem sends_close {answer : Except GatewayError Unit}
    (hran : cap.recorded.close h w = (answer, w')) : Sends h w [] w' := by
  cases hran
  exact ⟨[.closed h _], rfl, by simp [HostEvent.handle?], rfl⟩

namespace Connection

variable {c c' : Connection}

/-- A send leaves the handle as it is, and what the host takes is the start of the data: as much as
the result says, and nothing if it is an error. -/
theorem send_sends {data : Bytes} {result : Except ClientError Nat}
    (hran : c.send cap.recorded data w = (result, c', w')) :
    c'.handle = c.handle ∧ Sends c.handle w (data.take (result.toOption.getD 0)) w' := by
  unfold send at hran
  split at hran
  · cases hran
    exact ⟨rfl, .refl⟩
  · split at hran
    · next hanswer =>
        cases hran
        exact ⟨rfl, sends_send hanswer⟩
    · next hanswer =>
        cases hran
        exact ⟨rfl, (sends_send hanswer).silently (sends_close rfl)⟩

/-- What is sent in full goes out in its order: all of it, or a start of it before the failure. -/
theorem sendAll_sends {data : Bytes} {result : Except ClientError Unit}
    (hran : c.sendAll cap.recorded data w = (result, c', w')) :
    c'.handle = c.handle ∧ ∃ bytes, Sends c.handle w bytes w' ∧ bytes <+: data ∧
      (result = .ok () → bytes = data) := by
  fun_induction sendAll cap.recorded c data w with
  | case1 c w =>
      cases hran
      exact ⟨rfl, [], .refl, List.nil_prefix, fun _ => rfl⟩
  | case2 c w b bs e c₁ w₁ hsent =>
      cases hran
      obtain ⟨hsame, hsends⟩ := send_sends hsent
      exact ⟨hsame, [], hsends, List.nil_prefix, by simp⟩
  | case3 c w b bs c₁ w₁ hsent =>
      cases hran
      obtain ⟨hsame, hsends⟩ := send_sends hsent
      exact ⟨hsame, [], hsends.silently (hsame ▸ sends_close rfl), List.nil_prefix, by simp⟩
  | case4 c w b bs n c₁ w₁ hsent ih =>
      obtain ⟨hsame, hsends⟩ := send_sends hsent
      obtain ⟨hsame', bytes, hsends', hstart, hall⟩ := ih hran
      rw [hsame] at hsame' hsends'
      have hcut : (b :: bs).take (n + 1) ++ bs.drop n = b :: bs :=
        List.take_append_drop (n + 1) (b :: bs)
      have hstart' : (b :: bs).take (n + 1) ++ bytes <+: (b :: bs).take (n + 1) ++ bs.drop n :=
        (List.prefix_append_right_inj _).2 hstart
      rw [hcut] at hstart'
      exact ⟨hsame', _, hsends.trans hsends', hstart', fun hdone => hall hdone ▸ hcut⟩

theorem recv_sends {most : Nat} {result : Except ClientError Bytes}
    (hran : c.recv cap.recorded most w = (result, c', w')) :
    c'.handle = c.handle ∧ Sends c.handle w [] w' := by
  unfold recv at hran
  split at hran
  · cases hran
    exact ⟨rfl, .refl⟩
  · split at hran
    · next hanswer =>
        cases hran
        exact ⟨rfl, sends_recv hanswer⟩
    · next hanswer =>
        cases hran
        exact ⟨rfl, (sends_recv hanswer).silently (sends_close rfl)⟩

end Connection

namespace Session

variable {α β : Type} {s s' : Session}

theorem sendAll_sends {data : Bytes} {result : Except ClientError Unit}
    (hran : s.sendAll cap.recorded data w = (result, s', w')) :
    s'.connection.handle = s.connection.handle ∧ ∃ bytes,
      Sends s.connection.handle w bytes w' ∧ bytes <+: data ∧ (result = .ok () → bytes = data) := by
  cases hran
  exact Connection.sendAll_sends rfl

def Waits (s : Session) (w : σ × List HostEvent) : Session × σ × List HostEvent → Prop :=
  fun (s', w') => s'.connection.handle = s.connection.handle ∧ Sends s.connection.handle w [] w'

theorem Waits.trans {s₁ : Session} {w₁ : σ × List HostEvent} {x : Session × σ × List HostEvent}
    (hfirst : Waits s w (s₁, w₁)) (hsecond : Waits s₁ w₁ x) : Waits s w x := by
  obtain ⟨hown, hbefore⟩ := hfirst
  obtain ⟨hsame, hsends⟩ := hsecond
  exact ⟨hsame.trans hown, hbefore.silently (hown ▸ hsends)⟩

theorem Waits.receive {answer : Except ClientError Bytes} {x x' : Session × σ × List HostEvent}
    (hwaits : Waits s w x) (hheard : receive cap.recorded x = (answer, x')) : Waits s w x' := by
  obtain ⟨s₁, w₁⟩ := x
  obtain ⟨s₂, w₂⟩ := x'
  obtain ⟨c, hreceived, rfl⟩ := receive_eq_iff.1 hheard
  exact hwaits.trans (Connection.recv_sends hreceived)

theorem Waits.abandon (hwaits : Waits s w (s', w')) :
    Waits s w ({ s' with connection := (s'.connection.abandon cap.recorded w').1 },
      (s'.connection.abandon cap.recorded w').2) :=
  hwaits.trans ⟨rfl, sends_close rfl⟩

/-- A conversation sends nothing if handling its messages does not. -/
theorem converse_waits {op : Operation} {handle : Handling α β (σ × List HostEvent)} {state : α}
    {result : Except ClientError β}
    (hquiet : ∀ message state s w turn s' w', handle message state s w = (turn, s', w') →
      Waits s w (s', w'))
    (hran : converse cap.recorded op handle state s w = (result, s', w')) : Waits s w (s', w') := by
  have hstep {message state turn} {x x' : Session × σ × List HostEvent} (hwaits : Waits s w x)
      (hhandled : handle.handler message state x = (turn, x')) : Waits s w x' :=
    hwaits.trans (hquiet _ _ _ _ _ _ _ hhandled)
  have hkeeps : Keeps (receive cap.recorded) handle.handler (fun _ => Waits s w)
      (fun _ => Waits s w) :=
    { more := hstep
      finished := hstep
      garbled := id
      broken := Waits.receive
      hungUp := Waits.receive
      fed := Waits.receive }
  have hstart : Waits s w (s, w) := ⟨rfl, .refl⟩
  have hended := hkeeps.converse (cap.recorded.patience w) s.decoder state hstart
  rcases hwire : Wire.converse (receive cap.recorded) handle.handler (cap.recorded.patience w)
    s.decoder state (s, w) with ⟨ending, d, s₁, w₁⟩
  rw [hwire] at hended
  rw [converse_eq hwire] at hran
  cases ending with
  | finished | broken =>
      cases hran
      exact hended
  | garbled | hungUp =>
      cases hran
      exact Waits.abandon hended

theorem readResults_waits {op : Operation} {result : Except ClientError (List QueryResult)}
    (hran : readResults cap.recorded op s w = (result, s', w')) : Waits s w (s', w') := by
  refine converse_waits ?_ hran
  intro message g s w turn s' w' hhandled
  dsimp only at hhandled
  split at hhandled <;> cases hhandled
  · exact ⟨rfl, .refl⟩
  · exact Waits.abandon ⟨rfl, .refl⟩
  · exact ⟨rfl, .refl⟩

/-- Some data goes out in a call: all of it, or a start of it if the call fails. -/
def GoesOut (data : Bytes) (s : Session) (w : σ × List HostEvent) (result : Except ClientError α)
    (s' : Session) (w' : σ × List HostEvent) : Prop :=
  ∃ bytes, Sends s.connection.handle w bytes w' ∧ bytes <+: data ∧
    (bytes = data ∨ (∃ e, result = .error e) ∧ s'.connection.closed = true)

theorem GoesOut.map {data : Bytes} {result : Except ClientError α} (f : α → β)
    (hout : GoesOut data s w result s' w') : GoesOut data s w (result.map f) s' w' := by
  obtain ⟨bytes, hsends, hstart, hall | ⟨⟨e, rfl⟩, hisClosed⟩⟩ := hout
  · exact ⟨bytes, hsends, hstart, .inl hall⟩
  · exact ⟨bytes, hsends, hstart, .inr ⟨⟨e, rfl⟩, hisClosed⟩⟩

theorem goesOut_of_failed {data : Bytes} {e : ClientError}
    (hfailed : s.sendAll cap.recorded data w = (.error e, s', w')) :
    GoesOut data s w (.error e : Except ClientError α) s' w' := by
  obtain ⟨-, bytes, hsends, hstart, -⟩ := sendAll_sends hfailed
  exact ⟨bytes, hsends, hstart, .inr ⟨⟨e, rfl⟩, closed_of_sendAll hfailed⟩⟩

theorem goesOut_of_waits {data : Bytes} {result : Except ClientError α} {s₁ : Session}
    {w₁ : σ × List HostEvent} (hsent : s.sendAll cap.recorded data w = (.ok (), s₁, w₁))
    (hwaits : Waits s₁ w₁ (s', w')) : GoesOut data s w result s' w' := by
  obtain ⟨hsame, bytes, hsends, hstart, hall⟩ := sendAll_sends hsent
  exact ⟨bytes, hsends.silently (hsame ▸ hwaits.2), hstart, .inl (hall rfl)⟩

theorem simpleQuery_goesOut {sql : String} {result : Except ClientError (List QueryResult)}
    (hran : simpleQuery cap.recorded sql s w = (result, s', w')) :
    GoesOut (FrontendMessage.query sql).encode s w result s' w' := by
  unfold simpleQuery at hran
  split at hran
  · next hsent =>
      cases hran
      exact goesOut_of_failed hsent
  · next hsent => exact goesOut_of_waits hsent (readResults_waits hran)

theorem query_goesOut {sql : String} {params : List (Option String)}
    {result : Except ClientError QueryResult}
    (hran : query cap.recorded sql params s w = (result, s', w')) :
    GoesOut (FrontendMessage.encodeAll (FrontendMessage.describedQuery sql params)) s w result s'
      w' := by
  unfold query at hran
  extract_lets request at hran
  split at hran
  · next hsent =>
      cases hran
      exact goesOut_of_failed hsent
  · next s₁ w₁ hsent =>
      rcases hread : s₁.readResults cap.recorded .query w₁ with ⟨results, s₂, w₂⟩
      rw [hread] at hran
      cases hran
      exact goesOut_of_waits hsent (readResults_waits hread)

end Session

namespace Inquiry

variable {q : Inquiry} {s s' : Session}

def request : Inquiry → List FrontendMessage
  | simpleQuery sql => [.query sql]
  | query sql params | execute sql params => FrontendMessage.describedQuery sql params

/-- A call goes out as its request. -/
theorem ask_goesOut {result : Except ClientError Output}
    (hran : q.ask cap.recorded s w = (result, s', w')) :
    Session.GoesOut (FrontendMessage.encodeAll q.request) s w result s' w' := by
  cases q with
  | simpleQuery sql =>
      rcases hasked : s.simpleQuery cap.recorded sql w with ⟨answer, s₁, w₁⟩
      simp only [ask, hasked] at hran
      cases hran
      have hone : FrontendMessage.encodeAll [.query sql] = (FrontendMessage.query sql).encode :=
        List.flatMap_singleton ..
      rw [request, hone]
      exact (Session.simpleQuery_goesOut hasked).map _
  | query sql params =>
      rcases hasked : s.query cap.recorded sql params w with ⟨answer, s₁, w₁⟩
      simp only [ask, hasked] at hran
      cases hran
      exact (Session.query_goesOut hasked).map _
  | execute sql params =>
      rcases hasked : s.query cap.recorded sql params w with ⟨answer, s₁, w₁⟩
      simp only [ask, Session.execute, hasked] at hran
      cases hran
      exact ((Session.query_goesOut hasked).map _).map _

/-- A request that the wire can carry: there is no zero byte in the statement, the parameters can be
counted, and no message is too large. -/
def Expressible : Inquiry → Prop
  | simpleQuery sql => NulFree sql ∧ (Text.encode sql).length + 1 ≤ defaultMaxFrameSize
  | query sql params | execute sql params =>
    NulFree sql ∧ (Text.encode sql).length + 4 ≤ defaultMaxFrameSize ∧ params.length ≤ maxCount ∧
      (params.flatMap fun p => putValue (p.map Text.encode)).length + 8 ≤ defaultMaxFrameSize

instance : DecidablePred Expressible
  | simpleQuery _ | query .. | execute .. => inferInstanceAs (Decidable (_ ∧ _))

theorem representable_parse_iff {sql : String} :
    (FrontendMessage.parse "" sql []).Representable ↔
      NulFree sql ∧ (Text.encode sql).length + 4 ≤ defaultMaxFrameSize := by
  have hsize : (FrontendMessage.parse "" sql []).payload.length = (Text.encode sql).length + 4 := by
    have hnone : Text.encode "" = [] := rfl
    simp [FrontendMessage.payload, putText, putCount, hnone]
  have hworded : (FrontendMessage.parse "" sql []).Worded ↔ NulFree sql := by
    have hnone : NulFree "" := by decide
    simp [FrontendMessage.Worded, hnone]
  rw [FrontendMessage.representable_iff, hsize, hworded]

theorem representable_bindTexts_iff {values : List (Option Bytes)} :
    (FrontendMessage.bindTexts "" "" values).Representable ↔
      values.length ≤ maxCount ∧ (values.flatMap putValue).length + 8 ≤ defaultMaxFrameSize := by
  have hsize : (FrontendMessage.bindTexts "" "" values).payload.length =
      (values.flatMap putValue).length + 8 := by
    have hnone : Text.encode "" = [] := rfl
    simp [FrontendMessage.bindTexts, FrontendMessage.payload, FrontendMessage.putFormats, putText,
      putCount, hnone]
    omega
  have hworded : (FrontendMessage.bindTexts "" "" values).Worded ↔ values.length ≤ maxCount := by
    have hnone : NulFree "" := by decide
    simp [FrontendMessage.bindTexts, FrontendMessage.Worded, hnone]
  rw [FrontendMessage.representable_iff, hsize, hworded]

theorem expressible_iff : q.Expressible ↔ ∀ m ∈ q.request, m.Representable := by
  have hothers : (FrontendMessage.describe 'P'.toUInt8 "").Representable ∧
      (FrontendMessage.execute "" 0).Representable ∧ FrontendMessage.sync.Representable := by
    decide
  cases q with
  | simpleQuery sql =>
      simp [request, FrontendMessage.representable_iff, FrontendMessage.Worded, Expressible,
        FrontendMessage.payload, putText]
  | query sql params | execute sql params =>
      simp [request, FrontendMessage.describedQuery, representable_parse_iff,
        representable_bindTexts_iff, hothers, Expressible, and_assoc, List.flatMap_map]

/-- A call puts on the wire what it asks: it fails and nothing goes out, or what goes out is read as
its request. -/
def AsksInFull (q : Inquiry) (result : Except ClientError Output) (bytes : Bytes) : Prop :=
  (∃ e, result = .error e) ∧ bytes = [] ∨
    FrontendMessage.parseAll bytes = .ok ⟨q.request, bytes.length⟩

theorem encodeAll_request_ne_nil : FrontendMessage.encodeAll q.request ≠ [] := by
  cases q <;> exact nofun

end Inquiry

end Sends

/-- Nothing goes out in a call but its request, in its order: all of it, unless the call fails and
closes the session. What goes out is what the call asks exactly if all of it does and the wire can
carry it, or if nothing goes out. As long as the wire can carry a request, whatever goes out is read
as its first messages. -/
theorem request_on_wire (cap : Capability σ) (q : Inquiry) (s : Session)
    (w : σ × List HostEvent) :
    match q.ask cap.recorded s w with
    | (result, s', w') => ∃ bytes, Sends s.connection.handle w bytes w' ∧
        bytes <+: FrontendMessage.encodeAll q.request ∧
        (bytes = FrontendMessage.encodeAll q.request ∨
          (∃ e, result = .error e) ∧ s'.connection.closed = true) ∧
        (q.AsksInFull result bytes ↔
          bytes = [] ∨ bytes = FrontendMessage.encodeAll q.request ∧ q.Expressible) ∧
        (q.Expressible → ∃ k n, FrontendMessage.parseAll bytes = .ok ⟨q.request.take k, n⟩) := by
  rcases hran : q.ask cap.recorded s w with ⟨result, s', w'⟩
  obtain ⟨bytes, hsends, hstart, hending⟩ := Inquiry.ask_goesOut hran
  refine ⟨bytes, hsends, hstart, hending, ?_, ?_⟩
  · rw [Inquiry.AsksInFull, FrontendMessage.parseAll_eq_iff hstart, Inquiry.expressible_iff]
    refine ⟨Or.imp_left And.right, Or.imp_left fun hnone => ⟨?_, hnone⟩⟩
    -- A request is never empty, so that a call in which nothing goes out has failed.
    exact (hending.resolve_left fun hall => Inquiry.encodeAll_request_ne_nil (hall ▸ hnone)).1
  · intro hexpressible
    obtain ⟨k, n, hread, -⟩ :=
      FrontendMessage.parseAll_of_prefix (Inquiry.expressible_iff.1 hexpressible) hstart
    exact ⟨k, n, hread⟩

theorem Serves.recorded {cap : Capability σ} {Ahead : Bytes → σ → Prop}
    (hserves : Serves cap Ahead) : Serves cap.recorded fun stream w => Ahead stream w.1 where
  send := by
    rintro stream ⟨world, log⟩ handle data hsome hahead
    obtain ⟨n, world', hsent, hahead'⟩ := hserves.send handle data hsome hahead
    exact ⟨n, (world', _), by simp only [Capability.recorded, hsent]; rfl, hahead'⟩
  recv := by
    rintro stream ⟨world, log⟩ handle hahead hsome
    obtain ⟨b, bs, stream', world', hbytes, hreceived, hahead'⟩ := hserves.recv handle hahead hsome
    exact ⟨b, bs, stream', (world', _), hbytes, by simp only [Capability.recorded, hreceived]; rfl,
      hahead'⟩
  patience := hserves.patience

/-- The end of a statement, behind a zero byte, becomes the types of parameters. -/
theorem exists_not_asksInFull :
    let q : Inquiry := .execute "DELETE FROM t\x00\x00\x04 WHERE id = 7" []
    let heard : List FrontendMessage :=
      [.parse "" "DELETE FROM t" [0x20574845, 0x52452069, 0x64203d20, 0x37000000],
        .bind "" "" [] [] [], .describe 80 "", .execute "" 0, .sync]
    let reply : Response :=
      ⟨[.parseComplete, .bindComplete, .commandComplete "DELETE 3"], .idle⟩
    let host : ScriptedHost × List HostEvent := ({ recvs := [.ok reply.encode] }, [])
    ∃ s' host' bytes,
      q.ask ScriptedHost.capability.recorded { connection := { handle := 7 } } host =
        (.ok (.rows 3), s', host') ∧
      Sends 7 host bytes host' ∧ FrontendMessage.parseAll bytes = .ok ⟨heard, bytes.length⟩ ∧
      ¬ q.AsksInFull (.ok (.rows 3)) bytes := by
  intro q heard reply host
  have hahead : ScriptedHost.Ahead reply.encode host.1 :=
    ⟨rfl, [reply.encode], by decide +kernel, List.append_nil _, rfl⟩
  have hinStep : InStep (fun stream w => ScriptedHost.Ahead stream w.1) (reply.encode ++ [])
      { connection := { handle := 7 } } host :=
    ⟨rfl, Decoder.sound_of_missing_eq_zero rfl, rfl, reply.encode, hahead,
      (List.append_nil _).symm⟩
  obtain ⟨s', host', hasked, -⟩ :=
    q.ask_inStep ScriptedHost.serves.recorded (by decide +kernel) hinStep
  have htold : q.answer reply = .ok (.rows 3) := by decide +kernel
  rw [htold] at hasked
  obtain ⟨bytes, hsends, -, hall | ⟨⟨e, hfailed⟩, -⟩⟩ := Inquiry.ask_goesOut hasked
  · have hspelled : FrontendMessage.encodeAll q.request = FrontendMessage.encodeAll heard := by
      decide +kernel
    have hrepresentable : ∀ m ∈ heard, m.Representable := by decide +kernel
    have hread := FrontendMessage.parseAll_encodeAll hrepresentable
    rw [← hspelled, ← hall] at hread
    refine ⟨s', host', bytes, hasked, hsends, hread, ?_⟩
    rintro (⟨⟨e, hfailed⟩, -⟩ | hasIs)
    · cases hfailed
    · rw [hread, Except.ok.injEq, Parsed.mk.injEq] at hasIs
      exact absurd hasIs.1 (by decide +kernel)
  · cases hfailed

end DatabaseGateway.Client
