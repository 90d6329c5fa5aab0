import DatabaseGateway.Client.ScriptedHost
import DatabaseGateway.Client.Slot
import DatabaseGateway.Proofs.Client.Response
import DatabaseGateway.Proofs.Client.Session

/-!
A session and its server stay in step: every call gets the reply to it, however the replies are cut
into pieces, and a session that could not tell where its reply ends is closed.

What a session has before it, in its decoder and on its host together, is a row of replies
(`InStep`). A call takes exactly the first of them, whether it reports results or the server's
error (`Inquiry.ask_inStep`). Any other failure closes the connection (`Inquiry.closed_of_error`).
-/

namespace DatabaseGateway.Client

open Wire

variable {σ : Type}

/-- A host that accepts what is sent, in parts or at once, and gives a stream piece by piece.
`Ahead stream` holds of worlds in which `stream` is still to come. -/
structure Serves (cap : Capability σ) (Ahead : Bytes → σ → Prop) : Prop where
  send : ∀ {stream world} handle data, data ≠ [] → Ahead stream world →
    ∃ n world', cap.send handle data world = (.ok (n + 1), world') ∧ Ahead stream world'
  recv : ∀ {stream world} handle, Ahead stream world → stream ≠ [] →
    ∃ b bs stream' world', stream = b :: bs ++ stream' ∧
      cap.recv handle receiveSize world = (.ok (b :: bs), world') ∧ Ahead stream' world'
  patience : ∀ {stream world}, Ahead stream world → stream.length ≤ cap.patience world

inductive Inquiry where
  | simpleQuery (sql : String)
  | query (sql : String) (params : List (Option String))
  | execute (sql : String) (params : List (Option String))

namespace Inquiry

def ask (cap : Capability σ) (q : Inquiry) (s : Session) (world : σ) :
    Except ClientError Output × Session × σ :=
  match q with
  | simpleQuery sql =>
    let (result, s, world) := s.simpleQuery cap sql world
    (result.map .results, s, world)
  | query sql params =>
    let (result, s, world) := s.query cap sql params world
    (result.map .result, s, world)
  | execute sql params =>
    let (result, s, world) := s.execute cap sql params world
    (result.map .rows, s, world)

/-- What a call makes of the results of its reply: all of them, the first one or an empty one, or
the row count of that one. -/
def output : Inquiry → List QueryResult → Output
  | simpleQuery _, results => .results results
  | query .., results => .result (results.head?.getD {})
  | execute .., results => .rows (results.head?.getD {}).rowsAffected

/-- What a call has to give for a reply: its results, unless it reports an error. -/
def answer (q : Inquiry) (r : Response) : Except ClientError Output :=
  match r.error? with
  | some report => .error (.ofReport .query report)
  | none => .ok (q.output r.results)

end Inquiry

/-- An open session that has `stream` before it, in its decoder and on its host together. -/
structure InStep (Ahead : Bytes → σ → Prop) (stream : Bytes) (s : Session) (world : σ) : Prop where
  isOpen : s.connection.closed = false
  sound : s.decoder.Sound
  limit : s.decoder.limit = defaultMaxFrameSize
  ahead : ∃ coming, Ahead coming world ∧ s.decoder.buffer ++ coming = stream

section InStep

variable {cap : Capability σ} {Ahead : Bytes → σ → Prop} {s : Session} {world : σ}
  {stream after : Bytes}

theorem Serves.sendAll (hserves : Serves cap Ahead) {c : Connection} (hopen : c.closed = false)
    (data : Bytes) (hahead : Ahead stream world) :
    ∃ world', c.sendAll cap data world = (.ok (), c, world') ∧ Ahead stream world' := by
  induction h : data.length using Nat.strongRecOn generalizing data world with
  | ind size ih =>
      cases data with
      | nil => exact ⟨world, by rw [Connection.sendAll], hahead⟩
      | cons b bs =>
          obtain ⟨n, world₁, hsent, hahead⟩ :=
            hserves.send c.handle _ (List.cons_ne_nil b bs) hahead
          have hsent' : c.send cap (b :: bs) world = (.ok (n + 1), c, world₁) := by
            simp [Connection.send, hopen, hsent]
          have hfewer : (bs.drop n).length < size := by
            rw [← h, List.length_drop, List.length_cons]
            omega
          obtain ⟨world', hrest, hahead⟩ := ih _ hfewer (bs.drop n) hahead rfl
          refine ⟨world', ?_, hahead⟩
          rw [Connection.sendAll, hsent']
          exact hrest

theorem Serves.gives (hserves : Serves cap Ahead) (hopen : s.connection.closed = false) :
    Gives (Session.receive cap) fun stream x => x.1 = s ∧ Ahead stream x.2 := by
  rintro stream ⟨s', world⟩ ⟨(rfl : s' = s), hahead⟩ hsome
  obtain ⟨b, bs, stream', world', hbytes, hreceived, hahead'⟩ :=
    hserves.recv s'.connection.handle hahead hsome
  have hreceived' : s'.connection.recv cap receiveSize world =
      (.ok (b :: bs), s'.connection, world') := by
    simp [Connection.recv, hopen, hreceived]
  exact ⟨b, bs, stream', (s', world'), hbytes,
    Session.receive_eq_iff.2 ⟨s'.connection, hreceived', rfl⟩, rfl, hahead'⟩

/-- If the stream before a session begins with frames that lead its conversation to an end, the
conversation takes these and leaves what is behind them. The session is changed by the last message
alone. -/
theorem converse_inStep {γ β : Type} {op : Operation} {handle : Session.Handling γ β σ}
    {moves : BackendMessage → γ → γ → Prop} {state state' : γ} {fs : List Frame} {last : Frame}
    {message : BackendMessage} {result : Except ClientError β} (s₁ : Session)
    (hserves : Serves cap Ahead)
    (hinStep : InStep Ahead (fs.flatMap Frame.encode ++ (last.encode ++ after)) s world)
    (hlegal : ∀ f ∈ fs, f.Legal defaultMaxFrameSize) (hlegalLast : last.Legal defaultMaxFrameSize)
    (hleads : Leads moves fs state state')
    (hread : BackendMessage.decode last.tag last.payload = .ok (some message))
    (hgoes : ∀ m st st' w, moves m st st' → handle m st s w = (.more st', s, w))
    (hends : ∀ w, handle message state' s w = (.done result, s₁, w))
    (hsame : s₁.connection = s.connection) :
    ∃ s' world', Session.converse cap op handle state s world = (result, s', world') ∧
      s'.status = s₁.status ∧ InStep Ahead after s' world' := by
  obtain ⟨hopen, hsound, hlimit, coming, hahead, hbytes⟩ := hinStep
  rw [← hlimit] at hlegal hlegalLast
  let Now (stream : Bytes) (x : Session × σ) : Prop := x.1 = s ∧ Ahead stream x.2
  let Then (stream : Bytes) (x : Session × σ) : Prop := x.1 = s₁ ∧ Ahead stream x.2
  have hgoes' m st st' stream x (hmove : moves m st st') (hnow : Now stream x) :
      ∃ x', handle.handler m st x = (.more st', x') ∧ Now stream x' := by
    obtain ⟨s', w⟩ := x
    obtain ⟨(rfl : s' = s), hahead⟩ := hnow
    exact ⟨(s', w), hgoes _ _ _ w hmove, rfl, hahead⟩
  have hends' stream x (hnow : Now stream x) :
      ∃ x', handle.handler message state' x = (.done result, x') ∧ Then stream x' := by
    obtain ⟨s', w⟩ := x
    obtain ⟨(rfl : s' = s), hahead⟩ := hnow
    exact ⟨(s₁, w), hends w, rfl, hahead⟩
  have hnow : Now coming (s, world) := ⟨rfl, hahead⟩
  obtain ⟨n, hfew, rest, coming', ⟨s', world'⟩, hcourse, hbehind, rfl, hahead'⟩ :=
    Course.of_leads (hserves.gives hopen) hgoes' hends' hlegal hlegalLast hleads hread hnow hbytes
  have hpatient : n ≤ cap.patience world := Nat.le_trans hfew (hserves.patience hahead)
  obtain ⟨d, hran, hsound', hlimit', rfl⟩ := hcourse.converse hsound hpatient
  refine ⟨{ s' with decoder := d }, world', Session.converse_eq hran, rfl, ?_⟩
  exact ⟨hsame ▸ hopen, hsound', hlimit'.trans hlimit, coming', hahead', hbehind⟩

theorem representable_readyForQuery (status : TransactionStatus) :
    (BackendMessage.readyForQuery status).Representable defaultMaxFrameSize := by
  cases status <;> decide

def Response.outcome (r : Response) : Except ClientError (List QueryResult) :=
  match r.error? with
  | some report => .error (.ofReport .query report)
  | none => .ok r.results

theorem readResults_inStep (hserves : Serves cap Ahead) {r : Response} (hproper : r.Proper)
    (hinStep : InStep Ahead (r.encode ++ after) s world) :
    ∃ s' world', s.readResults cap .query world = (r.outcome, s', world') ∧
      s'.status = some r.status ∧ InStep Ahead after s' world' := by
  obtain ⟨g, hleads, hreflects⟩ := Reflects.nil.leads hproper
  have hready := representable_readyForQuery r.status
  rw [Response.encode, ← BackendMessage.flatMap_encode_map_frame, List.append_assoc] at hinStep
  refine converse_inStep { s with status := some r.status } hserves hinStep ?_ hready.legal hleads
    hready.decode_frame ?_ ?_ rfl
  · simpa using fun m hmem => (hproper m hmem).1.legal
  · intro m g g' w hmove
    simp only [hmove]
  · intro w
    have hresults : g.results.reverse = r.results := hreflects.results
    have herror : g.error = r.error? := hreflects.error
    simp only [Gathering.take, hresults, herror]
    rfl

/-! ### Calls -/

theorem Session.sendAll_inStep (hserves : Serves cap Ahead) (hinStep : InStep Ahead stream s world)
    (data : Bytes) :
    ∃ world', s.sendAll cap data world = (.ok (), s, world') ∧ InStep Ahead stream s world' := by
  obtain ⟨hopen, hsound, hlimit, coming, hahead, hbytes⟩ := hinStep
  obtain ⟨world', hsent, hahead⟩ := hserves.sendAll hopen data hahead
  refine ⟨world', ?_, hopen, hsound, hlimit, coming, hahead, hbytes⟩
  rw [Session.sendAll, hsent]

theorem simpleQuery_inStep (hserves : Serves cap Ahead) {r : Response} (hproper : r.Proper)
    (hinStep : InStep Ahead (r.encode ++ after) s world) (sql : String) :
    ∃ s' world', s.simpleQuery cap sql world = (r.outcome, s', world') ∧
      s'.status = some r.status ∧ InStep Ahead after s' world' := by
  obtain ⟨world₁, hsent, hinStep⟩ :=
    Session.sendAll_inStep hserves hinStep (FrontendMessage.query sql).encode
  rw [Session.simpleQuery, hsent]
  exact readResults_inStep hserves hproper hinStep

theorem query_inStep (hserves : Serves cap Ahead) {r : Response} (hproper : r.Proper)
    (hinStep : InStep Ahead (r.encode ++ after) s world) (sql : String)
    (params : List (Option String)) :
    ∃ s' world', s.query cap sql params world =
        (r.outcome.map fun results => results.head?.getD {}, s', world') ∧
      s'.status = some r.status ∧ InStep Ahead after s' world' := by
  obtain ⟨world₁, hsent, hinStep⟩ := Session.sendAll_inStep hserves hinStep
    (FrontendMessage.encodeAll (FrontendMessage.describedQuery sql params))
  obtain ⟨s', world', hread, hrest⟩ := readResults_inStep hserves hproper hinStep
  refine ⟨s', world', ?_, hrest⟩
  simp only [Session.query, hsent, hread]

/-- A call takes the first reply before the session, and gives what it says. -/
theorem Inquiry.ask_inStep (hserves : Serves cap Ahead) {r : Response} (hproper : r.Proper)
    (hinStep : InStep Ahead (r.encode ++ after) s world) (q : Inquiry) :
    ∃ s' world', q.ask cap s world = (q.answer r, s', world') ∧ s'.status = some r.status ∧
      InStep Ahead after s' world' := by
  cases q with
  | simpleQuery sql =>
      obtain ⟨s', world', hasked, hrest⟩ := simpleQuery_inStep hserves hproper hinStep sql
      refine ⟨s', world', ?_, hrest⟩
      simp only [ask, hasked, answer, Response.outcome]
      cases r.error? <;> rfl
  | query sql params =>
      obtain ⟨s', world', hasked, hrest⟩ := query_inStep hserves hproper hinStep sql params
      refine ⟨s', world', ?_, hrest⟩
      simp only [ask, hasked, answer, Response.outcome]
      cases r.error? <;> rfl
  | execute sql params =>
      obtain ⟨s', world', hasked, hrest⟩ := query_inStep hserves hproper hinStep sql params
      refine ⟨s', world', ?_, hrest⟩
      simp only [ask, Session.execute, hasked, answer, Response.outcome]
      cases r.error? <;> rfl

end InStep

/-! ### Failures -/

/-- An error is the server's, or the connection is closed. -/
def Settles {α : Type} (result : Except ClientError α) (c : Connection) : Prop :=
  ∀ e, result = .error e → (∃ error, e.cause = .server error) ∨ c.closed = true

section Failures

variable {α β : Type} {cap : Capability σ} {c c' : Connection} {s s' : Session} {world world' : σ}

theorem Settles.map {result : Except ClientError α} (hsettles : Settles result c) (f : α → β) :
    Settles (result.map f) c := by
  rintro e hfailed
  cases result with
  | error e' =>
      cases hfailed
      exact hsettles e rfl
  | ok a => cases hfailed

theorem Connection.closed_of_send {data : Bytes} {e : ClientError}
    (hfailed : c.send cap data world = (.error e, c', world')) : c'.closed = true := by
  unfold send at hfailed
  split at hfailed
  · next hisClosed =>
      cases hfailed
      exact hisClosed
  · split at hfailed <;> cases hfailed
    rfl

theorem Connection.closed_of_recv {most : Nat} {e : ClientError}
    (hfailed : c.recv cap most world = (.error e, c', world')) : c'.closed = true := by
  unfold recv at hfailed
  split at hfailed
  · next hisClosed =>
      cases hfailed
      exact hisClosed
  · split at hfailed <;> cases hfailed
    rfl

theorem Connection.closed_of_sendAll {data : Bytes} {e : ClientError}
    (hfailed : c.sendAll cap data world = (.error e, c', world')) : c'.closed = true := by
  fun_induction sendAll cap c data world with
  | case1 => cases hfailed
  | case2 c w b bs e' c₁ w₁ hsent =>
      cases hfailed
      exact closed_of_send hsent
  | case3 =>
      cases hfailed
      rfl
  | case4 c w b bs n c₁ w₁ hsent ih => exact ih hfailed

namespace Session

theorem closed_of_sendAll {data : Bytes} {e : ClientError}
    (hfailed : s.sendAll cap data world = (.error e, s', world')) :
    s'.connection.closed = true := by
  unfold sendAll at hfailed
  rcases hsent : s.connection.sendAll cap data world with ⟨result, c, w⟩
  rw [hsent] at hfailed
  cases hfailed
  exact Connection.closed_of_sendAll hsent

def Settled : Ending (Except ClientError β) ClientError → Session → Prop
  | .finished result, s => Settles result s.connection
  | .broken _, s => s.connection.closed = true
  | .garbled _, _ | .hungUp, _ => True

/-- A conversation settles if its last message does. -/
theorem converse_settles {op : Operation} {handle : Handling α β σ} {state : α}
    {result : Except ClientError β}
    (hlast : ∀ message state s w result s' w',
      handle message state s w = (.done result, s', w') → Settles result s'.connection)
    (hran : converse cap op handle state s world = (result, s', world')) :
    Settles result s'.connection := by
  have hkeeps : Keeps (receive cap) handle.handler (fun _ _ => True)
      (fun ending x => Settled ending x.1) :=
    { more := fun _ _ => trivial
      finished := by
        rintro message st ⟨s, w⟩ result ⟨s', w'⟩ - hended
        exact hlast _ _ _ _ _ _ _ hended
      garbled := fun _ => trivial
      broken := by
        rintro _ ⟨s, w⟩ e ⟨s', w'⟩ - hheard
        obtain ⟨c, hreceived, rfl⟩ := receive_eq_iff.1 hheard
        exact Connection.closed_of_recv hreceived
      hungUp := fun _ _ => trivial
      fed := fun _ _ => trivial }
  rcases hwire : Wire.converse (receive cap) handle.handler (cap.patience world) s.decoder state
    (s, world) with ⟨ending, d, s₁, w₁⟩
  have hended : match Wire.converse (receive cap) handle.handler (cap.patience world) s.decoder
      state (s, world) with | (ending, _, x) => Settled ending x.1 := hkeeps.converse _ _ _ trivial
  rw [hwire] at hended
  rw [converse_eq hwire] at hran
  cases ending with
  | finished result' =>
      cases hran
      exact hended
  | broken e =>
      cases hran
      exact fun _ _ => .inr hended
  | garbled | hungUp =>
      cases hran
      exact fun _ _ => .inr rfl

theorem readResults_settles {op : Operation} {result : Except ClientError (List QueryResult)}
    (hran : readResults cap op s world = (result, s', world')) : Settles result s'.connection := by
  refine converse_settles ?_ hran
  intro message g s w result s' w' hended
  dsimp only at hended
  split at hended <;> cases hended
  · exact fun _ _ => .inr rfl
  · split
    · rintro _ ⟨⟩
      exact .inl ⟨_, rfl⟩
    · exact nofun

theorem simpleQuery_settles {sql : String} {result : Except ClientError (List QueryResult)}
    (hran : simpleQuery cap sql s world = (result, s', world')) : Settles result s'.connection := by
  unfold simpleQuery at hran
  split at hran
  · next hsent =>
      cases hran
      exact fun _ _ => .inr (closed_of_sendAll hsent)
  · exact readResults_settles hran

theorem query_settles {sql : String} {params : List (Option String)}
    {result : Except ClientError QueryResult}
    (hran : query cap sql params s world = (result, s', world')) :
    Settles result s'.connection := by
  unfold query at hran
  extract_lets request at hran
  split at hran
  · next hsent =>
      cases hran
      exact fun _ _ => .inr (closed_of_sendAll hsent)
  · next s₁ w₁ hsent =>
      rcases hread : s₁.readResults cap .query w₁ with ⟨results, s₂, w₂⟩
      rw [hread] at hran
      cases hran
      exact (readResults_settles hread).map _

theorem sendAll_of_closed {data : Bytes} (hisClosed : s.connection.closed = true)
    (hsome : data ≠ []) :
    s.sendAll cap data world = (.error (.alreadyClosed .send), s, world) := by
  cases data with
  | nil => exact absurd rfl hsome
  | cons b bs =>
      have hrefused : s.connection.send cap (b :: bs) world =
          (.error (.alreadyClosed .send), s.connection, world) := by
        rw [Connection.send, if_pos hisClosed]
      rw [sendAll, Connection.sendAll, hrefused]

end Session

namespace Inquiry

variable {q : Inquiry}

/-- A call that fails settles: with the server's error, or the connection is closed. -/
theorem ask_settles {result : Except ClientError Output}
    (hran : q.ask cap s world = (result, s', world')) : Settles result s'.connection := by
  cases q with
  | simpleQuery sql =>
      rcases hasked : s.simpleQuery cap sql world with ⟨answer, s₁, w₁⟩
      simp only [ask, hasked] at hran
      cases hran
      exact (Session.simpleQuery_settles hasked).map _
  | query sql params =>
      rcases hasked : s.query cap sql params world with ⟨answer, s₁, w₁⟩
      simp only [ask, hasked] at hran
      cases hran
      exact (Session.query_settles hasked).map _
  | execute sql params =>
      rcases hasked : s.query cap sql params world with ⟨answer, s₁, w₁⟩
      simp only [ask, Session.execute, hasked] at hran
      cases hran
      exact ((Session.query_settles hasked).map _).map _

/-- A call on a closed session fails at once, and neither the session nor the host hears of it. -/
theorem ask_of_closed (hisClosed : s.connection.closed = true) :
    q.ask cap s world = (.error (.alreadyClosed .send), s, world) := by
  have hrefused {data : Bytes} (hsome : data ≠ []) :
      s.sendAll cap data world = (.error (.alreadyClosed .send), s, world) :=
    Session.sendAll_of_closed hisClosed hsome
  cases q with
  | simpleQuery sql =>
      simp only [ask, Session.simpleQuery, hrefused (FrontendMessage.encode_ne_nil _)]
      rfl
  | query sql params =>
      have hsome : FrontendMessage.encodeAll (FrontendMessage.describedQuery sql params) ≠ [] :=
        nofun
      simp only [ask, Session.query, hrefused hsome]
      rfl
  | execute sql params =>
      have hsome : FrontendMessage.encodeAll (FrontendMessage.describedQuery sql params) ≠ [] :=
        nofun
      simp only [ask, Session.execute, Session.query, hrefused hsome]
      rfl

end Inquiry

end Failures

/-! ### Calls in a row -/

/-- What a guest sees of a call: the answer, and the session's transaction status and whether it is
closed afterwards. -/
structure Outcome where
  answer : Except ClientError Output
  status : Option TransactionStatus
  closed : Bool
  deriving DecidableEq

def askAll (cap : Capability σ) : List Inquiry → Session → σ → List Outcome × Session × σ
  | [], s, world => ([], s, world)
  | q :: qs, s, world =>
    let (answer, s, world) := q.ask cap s world
    let (outcomes, s', world) := askAll cap qs s world
    (⟨answer, s.status, s.connection.closed⟩ :: outcomes, s', world)

def Inquiry.outcome (q : Inquiry) (r : Response) : Outcome := ⟨q.answer r, some r.status, false⟩

/-- Every call takes the reply to it, and the next one finds the session in step. -/
theorem askAll_inStep {cap : Capability σ} {Ahead : Bytes → σ → Prop} (hserves : Serves cap Ahead)
    {qs : List Inquiry} {rs : List Response} (heach : qs.length = rs.length)
    (hproper : ∀ r ∈ rs, r.Proper) {s : Session} {world : σ} {after : Bytes}
    (hinStep : InStep Ahead (rs.flatMap Response.encode ++ after) s world) :
    ∃ s' world', askAll cap qs s world = (List.zipWith Inquiry.outcome qs rs, s', world') ∧
      InStep Ahead after s' world' := by
  induction qs generalizing rs s world with
  | nil =>
      obtain rfl := List.length_eq_zero_iff.1 heach.symm
      exact ⟨s, world, rfl, hinStep⟩
  | cons q qs ih =>
      cases rs with
      | nil => cases heach
      | cons r rs =>
          obtain ⟨hfirst, hproper⟩ := List.forall_mem_cons.1 hproper
          rw [List.flatMap_cons, List.append_assoc] at hinStep
          obtain ⟨s₁, world₁, hasked, hstatus, hinStep⟩ := q.ask_inStep hserves hfirst hinStep
          obtain ⟨s', world', hothers, hrest⟩ := ih (Nat.succ.inj heach) hproper hinStep
          refine ⟨s', world', ?_, hrest⟩
          simp only [askAll, hasked, hothers, hstatus, hinStep.isOpen, List.zipWith_cons_cons,
            Inquiry.outcome]

/-- A host that has accepted everything so far, and still has some pieces to give, none of them
empty. -/
def ScriptedHost.Ahead (stream : Bytes) (host : ScriptedHost) : Prop :=
  host.sends = [] ∧ ∃ pieces : List Bytes, (∀ piece ∈ pieces, piece ≠ []) ∧
    pieces.flatten = stream ∧ host.recvs = pieces.map .ok

theorem ScriptedHost.pending_of_pieces {pieces : List Bytes} {host : ScriptedHost}
    (hrecvs : host.recvs = pieces.map .ok) : host.pending = pieces.flatten.length := by
  have hcounted (n : Nat) (pieces : List Bytes) :
      pieces.foldl (fun n piece => n + piece.length) n = n + pieces.flatten.length := by
    induction pieces generalizing n with
    | nil => rfl
    | cons piece pieces ih => simp [ih, Nat.add_assoc]
  rw [pending, hrecvs, List.foldl_map, hcounted, Nat.zero_add]

/-- A scripted host can give any stream in any pieces. -/
theorem ScriptedHost.serves : Serves capability Ahead where
  send := by
    rintro stream host handle data hsome ⟨haccepts, pieces, hnonempty, hbytes, hrecvs⟩
    cases data with
    | nil => exact absurd rfl hsome
    | cons b bs =>
        refine ⟨bs.length, host.record (.send handle (b :: bs)), ?_, haccepts, pieces, hnonempty,
          hbytes, hrecvs⟩
        simp [capability, send, record, haccepts]
  recv := by
    rintro stream host handle ⟨haccepts, pieces, hnonempty, rfl, hrecvs⟩ hsome
    cases pieces with
    | nil => exact absurd rfl hsome
    | cons piece pieces =>
        obtain ⟨hfirst, hothers⟩ := List.forall_mem_cons.1 hnonempty
        obtain ⟨b, bs, rfl⟩ := List.exists_cons_of_ne_nil hfirst
        -- What is not asked for stays as a piece of its own.
        let kept := (b :: bs).drop receiveSize
        let left := if kept.isEmpty then pieces else kept :: pieces
        have hsame : kept ++ pieces.flatten = left.flatten := by
          simp only [left]
          split
          · next hnone => rw [List.isEmpty_iff.1 hnone, List.nil_append]
          · rfl
        refine ⟨b, bs.take (receiveSize - 1), left.flatten,
          { host.record (.recv handle receiveSize) with recvs := left.map .ok }, ?_, ?_, haccepts,
          left, ?_, rfl, rfl⟩
        · rw [← hsame, List.flatten_cons, ← List.append_assoc]
          exact congrArg (· ++ _) (List.take_append_drop receiveSize (b :: bs)).symm
        · simp only [capability, recv, record, hrecvs, List.map_cons, left]
          split <;> rfl
        · simp only [left]
          split
          · exact hothers
          · next hrest => exact List.forall_mem_cons.2 ⟨by simpa using hrest, hothers⟩
  patience := by
    rintro stream host ⟨-, pieces, -, rfl, hrecvs⟩
    exact Nat.le_of_eq (pending_of_pieces hrecvs).symm

/-- Calls that are made one after the other get the replies to them, one each, in whatever pieces
these arrive: the k-th call gives what the k-th reply says, with the session open behind it and in
the status that ends the reply. A call that fails for another reason than the server's error leaves
the session closed, so that no other call reads what was left of its reply. -/
theorem session_in_step {cap : Capability σ} {Ahead : Bytes → σ → Prop} (hserves : Serves cap Ahead)
    (qs : List Inquiry) (rs : List Response) (heach : qs.length = rs.length)
    (hproper : ∀ r ∈ rs, r.Proper) (s : Session) (world : σ) (after : Bytes)
    (hinStep : InStep Ahead (rs.flatMap Response.encode ++ after) s world) :
    (∃ s' world', askAll cap qs s world = (List.zipWith Inquiry.outcome qs rs, s', world') ∧
      InStep Ahead after s' world') ∧
    ∀ (τ : Type) (cap : Capability τ) (q : Inquiry) (s s' : Session) (world world' : τ) e,
      q.ask cap s world = (.error e, s', world') → (∀ error, e.cause ≠ .server error) →
      s'.connection.closed = true ∧ ∀ later : Inquiry,
        later.ask cap s' world' = (.error (.alreadyClosed .send), s', world') := by
  refine ⟨askAll_inStep hserves heach hproper hinStep, ?_⟩
  intro τ cap q s s' world world' e hfailed hother
  obtain ⟨error, hreported⟩ | hisClosed := Inquiry.ask_settles hfailed e rfl
  · exact absurd hreported (hother error)
  · exact ⟨hisClosed, fun later => Inquiry.ask_of_closed hisClosed⟩

def rowThenError : List Response :=
  [⟨[.rowDescription [{ name := "id", typeOid := 23 }], .dataRow [some ['7'.toUInt8]],
      .commandComplete "SELECT 1"], .inTransaction⟩,
    ⟨[.errorResponse (.ofParts "ERROR" "42601" "syntax error")], .failed⟩]

/-- Two calls whose replies are cut in the middle of a message, and a host that refuses a third. -/
theorem session_in_step_two_replies :
    let stream := rowThenError.flatMap Response.encode
    let pieces := [stream.take 9, (stream.drop 9).take 60, stream.drop 69]
    let s : Session := { connection := { handle := 7 } }
    (∃ s' host', askAll ScriptedHost.capability [.simpleQuery "TABLE t", .execute "TABEL t" []] s
        { recvs := pieces.map .ok } =
      ([⟨.ok (.results [{ columns := ["id"], rows := [[some "7"]], tag := "SELECT 1" }]),
          some .inTransaction, false⟩,
        ⟨.error ⟨.query, .server ⟨"ERROR", "42601", "syntax error", none, none⟩⟩,
          some .failed, false⟩], s', host')) ∧
    ∃ e s' host', Inquiry.ask ScriptedHost.capability (.simpleQuery "TABLE t") s
        { sends := [.error (.closed "gone")] } = (.error e, s', host') ∧
      s'.connection.closed = true := by
  intro stream pieces s
  have hahead : ScriptedHost.Ahead stream { recvs := pieces.map .ok } :=
    ⟨rfl, pieces, by decide +kernel, by decide +kernel, rfl⟩
  have hinStep : InStep ScriptedHost.Ahead (stream ++ []) s { recvs := pieces.map .ok } :=
    ⟨rfl, Decoder.sound_of_missing_eq_zero rfl, rfl, stream, hahead, (List.append_nil _).symm⟩
  obtain ⟨⟨s₁, host₁, hasked, -⟩, hcloses⟩ := session_in_step ScriptedHost.serves
    [.simpleQuery "TABLE t", .execute "TABEL t" []] rowThenError rfl (by decide +kernel) s _ []
    hinStep
  have hread : List.zipWith Inquiry.outcome [.simpleQuery "TABLE t", .execute "TABEL t" []]
      rowThenError =
        [⟨.ok (.results [{ columns := ["id"], rows := [[some "7"]], tag := "SELECT 1" }]),
            some .inTransaction, false⟩,
          ⟨.error ⟨.query, .server ⟨"ERROR", "42601", "syntax error", none, none⟩⟩,
            some .failed, false⟩] := by
    decide +kernel
  obtain ⟨s₂, host₂, hrefused⟩ : ∃ s' host', s.sendAll ScriptedHost.capability
      (FrontendMessage.query "TABLE t").encode { sends := [.error (.closed "gone")] } =
        (.error ⟨.send, .host (.closed "gone")⟩, s', host') := by
    obtain ⟨b, bs, hbytes⟩ :=
      List.exists_cons_of_ne_nil (FrontendMessage.encode_ne_nil (.query "TABLE t"))
    rw [Session.sendAll, hbytes, Connection.sendAll]
    exact ⟨_, _, rfl⟩
  have hfailed : Inquiry.ask ScriptedHost.capability (.simpleQuery "TABLE t") s
      { sends := [.error (.closed "gone")] } =
        (.error ⟨.send, .host (.closed "gone")⟩, s₂, host₂) := by
    simp only [Inquiry.ask, Session.simpleQuery, hrefused]
    rfl
  have hunserved (answer : ServerError) :
      (⟨.send, .host (.closed "gone")⟩ : ClientError).cause ≠ .server answer := by
    intro hsame
    cases hsame
  exact ⟨⟨s₁, host₁, hread ▸ hasked⟩, _, s₂, host₂, hfailed,
    (hcloses _ _ _ _ _ _ _ _ hfailed hunserved).1⟩

end DatabaseGateway.Client
