import DatabaseGateway.Client.Slot
import DatabaseGateway.Proofs.Client.Custody
import DatabaseGateway.Proofs.Client.Session

/-!
How the operations of a guest treat the handles they are given.

A connection that is open stands for its handle; one that is closed stands for nothing. Every
operation is fit for what its object stands for, before and after (`Conducted`), and a call to the
host that fails is what the operation reports. A failure is followed by a close that does not look
whether the connection was closed before, so that the operations on the way there have to know that
it was not.
-/

namespace DatabaseGateway.Client

open Wire

variable {σ α β : Type}

/-- What went on between two states of a host with a record: it is fit for the handles before and
after, and whatever failed, a close apart, is what the guest is told. -/
def Conducted (w : σ × List HostEvent) (held : Multiset Handle) (Told : ClientError → Prop)
    (held' : Multiset Handle) (w' : σ × List HostEvent) : Prop :=
  ∃ events, w'.2 = w.2 ++ events ∧ Custody held events held' ∧
    ∀ e ∈ events, ∀ failure, e.failure? = some failure → Told failure

def Tells (result : Except ClientError α) (failure : ClientError) : Prop := result = .error failure

abbrev Fine : ClientError → Prop := Tells (.ok ())

namespace Conducted

variable {w w' w'' : σ × List HostEvent} {held held' held'' : Multiset Handle}
  {Told Told' : ClientError → Prop} {cap : Capability σ} {h : Handle}

theorem refl : Conducted w held Told held w :=
  ⟨[], by simp, .nil, by simp⟩

theorem mono (hconducted : Conducted w held Told held' w') (hweaker : ∀ e, Told e → Told' e) :
    Conducted w held Told' held' w' := by
  obtain ⟨events, hlog, hcustody, htold⟩ := hconducted
  exact ⟨events, hlog, hcustody, fun e hmem failure hfailed =>
    hweaker _ (htold e hmem failure hfailed)⟩

theorem append (hfirst : Conducted w held Told held' w')
    (hsecond : Conducted w' held' Told' held'' w'') :
    Conducted w held (fun e => Told e ∨ Told' e) held'' w'' := by
  obtain ⟨events, hlog, hcustody, htold⟩ := hfirst
  obtain ⟨events', hlog', hcustody', htold'⟩ := hsecond
  refine ⟨events ++ events', by rw [hlog', hlog, List.append_assoc], hcustody.append hcustody', ?_⟩
  intro e hmem failure hfailed
  obtain hmem | hmem := List.mem_append.1 hmem
  · exact .inl (htold e hmem failure hfailed)
  · exact .inr (htold' e hmem failure hfailed)

theorem trans {a : α} (hfirst : Conducted w held (Tells (.ok a)) held' w')
    (hsecond : Conducted w' held' Told held'' w'') : Conducted w held Told held'' w'' :=
  (hfirst.append hsecond).mono fun _ htold => htold.resolve_left nofun

theorem lastly (hfirst : Conducted w held Told held' w')
    (hlast : Conducted w' held' Fine held'' w'') : Conducted w held Told held'' w'' :=
  (hfirst.append hlast).mono fun _ htold => htold.resolve_right nofun

theorem ok {a : α} (hconducted : Conducted w held (Tells (.ok a)) held' w') :
    Conducted w held Told held' w' :=
  hconducted.trans refl

theorem error {e : ClientError}
    (hconducted : Conducted w held (Tells (.error e : Except ClientError α)) held' w') :
    Conducted w held (Tells (.error e : Except ClientError β)) held' w' :=
  hconducted.mono fun _ htold => by cases htold; rfl

theorem map {result : Except ClientError α} (f : α → β)
    (hconducted : Conducted w held (Tells result) held' w') :
    Conducted w held (Tells (result.map f)) held' w' :=
  hconducted.mono fun _ htold => by cases htold; rfl

theorem beside (others : Multiset Handle) (hconducted : Conducted w held Told held' w') :
    Conducted w (held + others) Told (held' + others) w' := by
  obtain ⟨events, hlog, hcustody, htold⟩ := hconducted
  exact ⟨events, hlog, hcustody.beside others, htold⟩

theorem step {e : HostEvent} (hlog : w'.2 = w.2 ++ [e]) (hcustody : Custody held [e] held')
    (htold : ∀ failure, e.failure? = some failure → Told failure) :
    Conducted w held Told held' w' :=
  ⟨[e], hlog, hcustody, fun _ hmem => List.mem_singleton.1 hmem ▸ htold⟩

theorem connected {request : ConnectConfig} {answer : Except GatewayError Handle}
    (hran : cap.recorded.connect request w = (answer, w')) :
    Conducted w held (Tells (answer.mapError fun e => ⟨.connect, .host e⟩))
      (answer.toOption.elim held (· ::ₘ held)) w' := by
  have hlog : w'.2 = w.2 ++ [.connected request answer] := by cases hran; rfl
  cases answer with
  | error e => exact step hlog (.refused .nil) (by rintro _ ⟨⟩; rfl)
  | ok h => exact step hlog (.given .nil) nofun

theorem sent {data : Bytes} {answer : Except GatewayError Nat} (hholds : h ∈ held)
    (hran : cap.recorded.send h data w = (answer, w')) :
    Conducted w held (Tells (answer.mapError fun e => ⟨.send, .host e⟩)) held w' := by
  have hlog : w'.2 = w.2 ++ [.sent h data answer] := by cases hran; rfl
  cases answer with
  | error e => exact step hlog (.sent hholds .nil) (by rintro _ ⟨⟩; rfl)
  | ok n => exact step hlog (.sent hholds .nil) nofun

theorem received {most : Nat} {answer : Except GatewayError Bytes} (hholds : h ∈ held)
    (hran : cap.recorded.recv h most w = (answer, w')) :
    Conducted w held (Tells (answer.mapError fun e => ⟨.recv, .host e⟩)) held w' := by
  have hlog : w'.2 = w.2 ++ [.received h most answer] := by cases hran; rfl
  cases answer with
  | error e => exact step hlog (.received hholds .nil) (by rintro _ ⟨⟩; rfl)
  | ok n => exact step hlog (.received hholds .nil) nofun

theorem closed {answer : Except GatewayError Unit}
    (hran : cap.recorded.close h w = (answer, w')) : Conducted w (h ::ₘ held) Told held w' := by
  have hlog : w'.2 = w.2 ++ [.closed h answer] := by cases hran; rfl
  exact step hlog (.closed .nil) nofun

end Conducted

def Connection.held (c : Connection) : Multiset Handle := if c.closed then 0 else {c.handle}

namespace Connection

variable {cap : Capability σ} {c c' : Connection} {w w' w₀ : σ × List HostEvent}

theorem held_of_open (hopen : c.closed = false) : c.held = {c.handle} := by
  simp [held, hopen]

theorem held_of_closed (hisClosed : c.closed = true) : c.held = 0 := by
  simp [held, hisClosed]

theorem openWith_conducted {config : ClientConfig} {result : Except ClientError Connection}
    (hran : openWith cap.recorded config w = (result, w')) :
    Conducted w 0 (Tells result) (result.toOption.elim 0 held) w' := by
  unfold openWith at hran
  split at hran
  · cases hran
    exact .refl
  · split at hran
    · next hanswer =>
        cases hran
        exact (Conducted.connected hanswer).error
    · next hanswer =>
        cases hran
        exact (Conducted.connected hanswer).ok

/-- After a failure of an open connection its handle is closed, and the failure is what is told. -/
theorem abandon_conducted {held : Multiset Handle} {Told : ClientError → Prop}
    (hopen : c.closed = false) (hconducted : Conducted w₀ held Told c.held w) :
    Conducted w₀ held Told (c.abandon cap.recorded w).1.held (c.abandon cap.recorded w).2 := by
  rw [held_of_open hopen] at hconducted
  exact hconducted.lastly (.closed rfl)

theorem send_conducted {data : Bytes} {result : Except ClientError Nat}
    (hran : c.send cap.recorded data w = (result, c', w')) :
    Conducted w c.held (Tells result) c'.held w' := by
  unfold send at hran
  split at hran
  · cases hran
    exact .refl
  · next hopen =>
      have hopen := Bool.eq_false_iff.2 hopen
      have hholds : c.handle ∈ c.held := by simp [held_of_open hopen]
      split at hran
      · next hanswer =>
          cases hran
          exact .sent hholds hanswer
      · next hanswer =>
          cases hran
          exact abandon_conducted hopen (.sent hholds hanswer)

/-- A send succeeds on open connections only, and leaves them as they are. -/
theorem open_of_send {data : Bytes} {n : Nat}
    (hran : c.send cap.recorded data w = (.ok n, c', w')) : c.closed = false ∧ c' = c := by
  unfold send at hran
  split at hran
  · cases hran
  · next hopen =>
      split at hran <;> cases hran
      exact ⟨Bool.eq_false_iff.2 hopen, rfl⟩

theorem sendAll_conducted {data : Bytes} {result : Except ClientError Unit}
    (hran : c.sendAll cap.recorded data w = (result, c', w')) :
    Conducted w c.held (Tells result) c'.held w' := by
  fun_induction sendAll cap.recorded c data w with
  | case1 c w =>
      cases hran
      exact .refl
  | case2 c w b bs e c₁ w₁ hsent =>
      cases hran
      exact (send_conducted hsent).error
  | case3 c w b bs c₁ w₁ hsent =>
      obtain ⟨hopen, rfl⟩ := open_of_send hsent
      cases hran
      exact abandon_conducted hopen (send_conducted hsent).ok
  | case4 c w b bs n c₁ w₁ hsent ih => exact (send_conducted hsent).trans (ih hran)

theorem open_of_sendAll {data : Bytes} (hsome : data ≠ [])
    (hran : c.sendAll cap.recorded data w = (.ok (), c', w')) : c.closed = false ∧ c' = c := by
  fun_induction sendAll cap.recorded c data w with
  | case1 => exact absurd rfl hsome
  | case2 | case3 => cases hran
  | case4 c w b bs n c₁ w₁ hsent ih =>
      obtain ⟨hopen, rfl⟩ := open_of_send hsent
      refine ⟨hopen, ?_⟩
      obtain hnone | hmore := eq_or_ne (bs.drop n) []
      · rw [hnone, sendAll] at hran
        cases hran
        rfl
      · exact (ih hmore hran).2

theorem recv_conducted {most : Nat} {result : Except ClientError Bytes}
    (hran : c.recv cap.recorded most w = (result, c', w')) :
    Conducted w c.held (Tells result) c'.held w' := by
  unfold recv at hran
  split at hran
  · cases hran
    exact .refl
  · next hopen =>
      have hopen := Bool.eq_false_iff.2 hopen
      have hholds : c.handle ∈ c.held := by simp [held_of_open hopen]
      split at hran
      · next hanswer =>
          cases hran
          exact .received hholds hanswer
      · next hanswer =>
          cases hran
          exact abandon_conducted hopen (.received hholds hanswer)

theorem open_of_recv {most : Nat} {bytes : Bytes} (hopen : c.closed = false)
    (hran : c.recv cap.recorded most w = (.ok bytes, c', w')) : c'.closed = false := by
  unfold recv at hran
  split at hran
  · cases hran
  · split at hran <;> cases hran
    exact hopen

theorem close_conducted {result : Except ClientError Unit}
    (hran : c.close cap.recorded w = (result, c', w')) :
    Conducted w c.held (Tells result) c'.held w' ∧ c'.held = 0 := by
  unfold close at hran
  split at hran
  · next hisClosed =>
      cases hran
      exact ⟨.refl, held_of_closed hisClosed⟩
  · next hopen =>
      cases hran
      rw [held_of_open (Bool.eq_false_iff.2 hopen)]
      exact ⟨.closed rfl, rfl⟩

theorem drop_conducted : Conducted w c.held Fine 0 (c.drop cap.recorded w) := by
  unfold drop
  split
  · next hisClosed =>
      rw [held_of_closed hisClosed]
      exact .refl
  · next hopen =>
      rw [held_of_open (Bool.eq_false_iff.2 hopen)]
      exact .closed rfl

end Connection

namespace Session

variable {cap : Capability σ} {s s' : Session} {w w' w₀ : σ × List HostEvent}

theorem sendAll_conducted {data : Bytes} {result : Except ClientError Unit}
    (hran : s.sendAll cap.recorded data w = (result, s', w')) :
    Conducted w s.connection.held (Tells result) s'.connection.held w' := by
  cases hran
  exact Connection.sendAll_conducted rfl

theorem open_of_sendAll {data : Bytes} (hsome : data ≠ [])
    (hran : s.sendAll cap.recorded data w = (.ok (), s', w')) : s'.connection.closed = false := by
  unfold sendAll at hran
  generalize hsent : s.connection.sendAll cap.recorded data w = answer at hran
  obtain ⟨result, c, w₁⟩ := answer
  cases hran
  obtain ⟨hopen, rfl⟩ := Connection.open_of_sendAll hsome hsent
  exact hopen

theorem receive_conducted {answer : Except ClientError Bytes}
    (hran : receive cap.recorded (s, w) = (answer, s', w')) :
    Conducted w s.connection.held (Tells answer) s'.connection.held w' := by
  obtain ⟨c, hheard, rfl⟩ := receive_eq_iff.1 hran
  exact Connection.recv_conducted hheard

theorem open_of_receive {bytes : Bytes} (hopen : s.connection.closed = false)
    (hran : receive cap.recorded (s, w) = (.ok bytes, s', w')) : s'.connection.closed = false := by
  obtain ⟨c, hheard, rfl⟩ := receive_eq_iff.1 hran
  exact Connection.open_of_recv hopen hheard

def Handles (handle : Handling α β (σ × List HostEvent)) : Prop :=
  ∀ message state s w turn s' w', s.connection.closed = false →
    handle message state s w = (turn, s', w') →
    match turn with
    | .more _ => s'.connection.closed = false ∧
      Conducted w s.connection.held Fine s'.connection.held w'
    | .done result => Conducted w s.connection.held (Tells result) s'.connection.held w'

def Going (w : σ × List HostEvent) (held : Multiset Handle) :
    Session × σ × List HostEvent → Prop := fun (s, w') =>
  s.connection.closed = false ∧ Conducted w held Fine s.connection.held w'

def Ends (w : σ × List HostEvent) (held : Multiset Handle) :
    Ending (Except ClientError β) ClientError → Session × σ × List HostEvent → Prop
  | .finished result, (s, w') => Conducted w held (Tells result) s.connection.held w'
  | .broken e, (s, w') => Conducted w held (Tells (.error e : Except ClientError β))
      s.connection.held w'
  | .garbled _, x | .hungUp, x => Going w held x

theorem Handles.keeps {handle : Handling α β (σ × List HostEvent)} (handles : Handles handle)
    (w : σ × List HostEvent) (held : Multiset Handle) :
    Keeps (receive cap.recorded) handle.handler (fun _ => Going w held) (Ends w held) where
  more := by
    rintro message state ⟨s₁, w₁⟩ state' ⟨s₂, w₂⟩ ⟨hopen, hsince⟩ hstep
    obtain ⟨hstill, hconducted⟩ := handles _ _ _ _ _ _ _ hopen hstep
    exact ⟨hstill, hsince.trans hconducted⟩
  finished := by
    rintro message state ⟨s₁, w₁⟩ result ⟨s₂, w₂⟩ ⟨hopen, hsince⟩ hlast
    exact hsince.trans (handles _ _ _ _ _ _ _ hopen hlast)
  garbled := id
  broken := by
    rintro _ ⟨s₁, w₁⟩ e ⟨s₂, w₂⟩ ⟨hopen, hsince⟩ hheard
    exact hsince.trans (receive_conducted hheard).error
  hungUp := by
    rintro _ ⟨s₁, w₁⟩ bytes ⟨s₂, w₂⟩ ⟨hopen, hsince⟩ hheard
    exact ⟨open_of_receive hopen hheard, hsince.trans (receive_conducted hheard).ok⟩
  fed := by
    rintro _ ⟨s₁, w₁⟩ bytes ⟨s₂, w₂⟩ ⟨hopen, hsince⟩ hheard
    exact ⟨open_of_receive hopen hheard, hsince.trans (receive_conducted hheard).ok⟩

theorem converse_conducted {op : Operation} {handle : Handling α β (σ × List HostEvent)}
    {state : α} {result : Except ClientError β} (handles : Handles handle)
    (hopen : s.connection.closed = false)
    (hran : converse cap.recorded op handle state s w = (result, s', w')) :
    Conducted w s.connection.held (Tells result) s'.connection.held w' := by
  have hstart : Going w s.connection.held (s, w) := ⟨hopen, .refl⟩
  have hkeeps : Keeps (receive cap.recorded) handle.handler _ _ := handles.keeps w s.connection.held
  have hended := hkeeps.converse (cap.recorded.patience w) s.decoder state hstart
  rcases hwire : Wire.converse (receive cap.recorded) handle.handler (cap.recorded.patience w)
    s.decoder state (s, w) with ⟨ending, d, s₁, w₁⟩
  rw [hwire] at hended
  rw [converse_eq hwire] at hran
  cases ending with
  | finished result' =>
      cases hran
      exact hended
  | broken e =>
      cases hran
      exact hended
  | garbled e =>
      cases hran
      exact Connection.abandon_conducted hended.1 hended.2.ok
  | hungUp =>
      cases hran
      exact Connection.abandon_conducted hended.1 hended.2.ok

theorem readResults_conducted {op : Operation} {result : Except ClientError (List QueryResult)}
    (hopen : s.connection.closed = false)
    (hran : readResults cap.recorded op s w = (result, s', w')) :
    Conducted w s.connection.held (Tells result) s'.connection.held w' := by
  refine converse_conducted ?_ hopen hran
  intro message g s w turn s' w' hopen hran
  dsimp only at hran
  split at hran <;> cases hran
  · exact ⟨hopen, .refl⟩
  · exact Connection.abandon_conducted hopen .refl
  · exact .refl

/-- What is sent as a request is never empty, so that a request that was sent leaves the session
open for its replies. -/
theorem request_conducted {data : Bytes} (hsome : data ≠ [])
    (hsent : s.sendAll cap.recorded data w = (.ok (), s', w')) :
    s'.connection.closed = false ∧ Conducted w s.connection.held Fine s'.connection.held w' :=
  ⟨open_of_sendAll hsome hsent, sendAll_conducted hsent⟩

theorem simpleQuery_conducted {sql : String} {result : Except ClientError (List QueryResult)}
    (hran : simpleQuery cap.recorded sql s w = (result, s', w')) :
    Conducted w s.connection.held (Tells result) s'.connection.held w' := by
  unfold simpleQuery at hran
  split at hran
  · next hsent =>
      cases hran
      exact (sendAll_conducted hsent).error
  · next hsent =>
      obtain ⟨hopen, hsent⟩ := request_conducted (FrontendMessage.encode_ne_nil _) hsent
      exact hsent.trans (readResults_conducted hopen hran)

theorem query_conducted {sql : String} {params : List (Option String)}
    {result : Except ClientError QueryResult}
    (hran : query cap.recorded sql params s w = (result, s', w')) :
    Conducted w s.connection.held (Tells result) s'.connection.held w' := by
  unfold query at hran
  extract_lets request at hran
  split at hran
  · next hsent =>
      cases hran
      exact (sendAll_conducted hsent).error
  · next s₁ w₁ hsent =>
      have hsome : FrontendMessage.encodeAll request ≠ [] := nofun
      obtain ⟨hopen, hsent⟩ := request_conducted hsome hsent
      rcases hread : s₁.readResults cap.recorded .query w₁ with ⟨results, s₂, w₂⟩
      rw [hread] at hran
      cases hran
      exact hsent.trans ((readResults_conducted hopen hread).map _)

theorem execute_conducted {sql : String} {params : List (Option String)}
    {result : Except ClientError Nat}
    (hran : execute cap.recorded sql params s w = (result, s', w')) :
    Conducted w s.connection.held (Tells result) s'.connection.held w' := by
  unfold execute at hran
  rcases hasked : s.query cap.recorded sql params w with ⟨answer, s₁, w₁⟩
  rw [hasked] at hran
  cases hran
  exact (query_conducted hasked).map _

theorem startupMessage_handles (config : ClientConfig) :
    Handles fun message (_ : Unit) s world =>
      startupMessage cap.recorded config message s world := by
  intro message _ s w turn s' w' hopen hran
  dsimp only [startupMessage] at hran
  split at hran
  · cases hran
    exact ⟨hopen, .refl⟩
  · split at hran
    · cases hran
      exact Connection.abandon_conducted hopen .refl
    · split at hran
      · next hsent =>
          cases hran
          exact sendAll_conducted hsent
      · next hsent =>
          cases hran
          exact request_conducted (FrontendMessage.encode_ne_nil _) hsent
  · cases hran
    exact Connection.abandon_conducted hopen .refl
  · cases hran
    exact ⟨hopen, .refl⟩
  · cases hran
    exact Connection.abandon_conducted hopen .refl
  · cases hran
    exact .refl
  · cases hran
    exact ⟨hopen, .refl⟩

theorem startup_conducted {config : ClientConfig} {result : Except ClientError Unit}
    (hran : startup cap.recorded config s w = (result, s', w')) :
    Conducted w s.connection.held (Tells result) s'.connection.held w' := by
  unfold startup at hran
  split at hran
  · next hsent =>
      cases hran
      exact (sendAll_conducted hsent).error
  · next hsent =>
      have hsome : StartupPacket.encodeLogin config.username config.database ≠ [] := nofun
      obtain ⟨hopen, hsent⟩ := request_conducted hsome hsent
      exact hsent.trans (converse_conducted (startupMessage_handles config) hopen hran)

theorem connect_conducted {config : ClientConfig} {result : Except ClientError Session}
    (hran : connect cap.recorded config w = (result, w')) :
    Conducted w 0 (Tells result) (result.toOption.elim 0 fun s => s.connection.held) w' := by
  unfold connect at hran
  split at hran
  · cases hran
    exact .refl
  · rcases hopened : Connection.openWith cap.recorded config w with ⟨connection, w₁⟩
    rw [hopened] at hran
    have hconducted := Connection.openWith_conducted hopened
    cases hran
    cases connection with
    | error e => exact hconducted.error
    | ok c => exact hconducted.ok

theorem connectWithStartup_conducted {config : ClientConfig} {result : Except ClientError Session}
    (hran : connectWithStartup cap.recorded config w = (result, w')) :
    Conducted w 0 (Tells result) (result.toOption.elim 0 fun s => s.connection.held) w' := by
  unfold connectWithStartup at hran
  split at hran
  · next hopened =>
      cases hran
      exact connect_conducted hopened
  · next hopened =>
      have hopened := connect_conducted hopened
      split at hran
      · next hbegun =>
          cases hran
          exact hopened.trans (startup_conducted hbegun).ok
      · next hbegun =>
          cases hran
          exact hopened.trans ((startup_conducted hbegun).lastly Connection.drop_conducted).error

end Session

def Slot.held : Slot → Multiset Handle
  | empty => 0
  | connection c => c.held
  | session s => s.connection.held

namespace Slot

variable {cap : Capability σ} {slot slot' : Slot} {w w' : σ × List HostEvent}
  {result : Except Refusal Output}

def Reveals (result : Except Refusal Output) (failure : ClientError) : Prop :=
  result = .error (.failed failure)

theorem drop_conducted : Conducted w slot.held Fine 0 (slot.drop cap.recorded w) := by
  cases slot with
  | empty => exact .refl
  | connection c => exact Connection.drop_conducted
  | session s => exact Connection.drop_conducted

/-- What is opened is held besides what the variable holds, until that is let go of. -/
theorem replace_conducted {opened : Except ClientError α} {wrap : α → Slot}
    {answersFor : α → Multiset Handle} {w₀ : σ × List HostEvent}
    (hwrapped : ∀ a, (wrap a).held = answersFor a)
    (hconducted : Conducted w₀ 0 (Tells opened) (opened.toOption.elim 0 answersFor) w)
    (hran : replace cap.recorded slot (opened.map wrap, w) = (result, slot', w')) :
    Conducted w₀ slot.held (Reveals result) slot'.held w' := by
  have hboth := hconducted.beside slot.held
  rw [Multiset.zero_add] at hboth
  cases opened with
  | error e =>
      cases hran
      change Conducted w₀ slot.held _ (0 + slot.held) w at hboth
      rw [Multiset.zero_add] at hboth
      exact hboth.mono fun _ htold => by cases htold; rfl
  | ok a =>
      cases hran
      change Conducted w₀ slot.held _ (answersFor a + slot.held) w at hboth
      have hdropped : Conducted w (slot.held + (wrap a).held) Fine (0 + (wrap a).held)
          (slot.drop cap.recorded w) := drop_conducted.beside _
      rw [Multiset.zero_add, Multiset.add_comm, hwrapped] at hdropped
      rw [hwrapped]
      exact hboth.trans hdropped.ok

/-- A call on a connection treats the handles as the connection's operation does. -/
theorem onConnection_conducted {op : Connection → σ × List HostEvent →
      Except ClientError α × Connection × σ × List HostEvent}
    {call : Connection → σ × List HostEvent →
      Except ClientError Output × Connection × σ × List HostEvent} {f : α → Output}
    (hcalled : ∀ c w, call c w = ((op c w).1.map f, (op c w).2))
    (hconducts : ∀ {c w result c' w'}, op c w = (result, c', w') →
      Conducted w c.held (Tells result) c'.held w')
    (hran : onConnection slot w call = (result, slot', w')) :
    Conducted w slot.held (Reveals result) slot'.held w' := by
  cases slot with
  | empty | session =>
      cases hran
      exact .refl
  | connection c =>
      rcases hanswer : op c w with ⟨answered, c', w''⟩
      simp only [onConnection, hcalled, hanswer] at hran
      cases hran
      exact (hconducts hanswer).mono fun _ htold => by cases htold; rfl

theorem onSession_conducted {op : Session → σ × List HostEvent →
      Except ClientError α × Session × σ × List HostEvent}
    {call : Session → σ × List HostEvent →
      Except ClientError Output × Session × σ × List HostEvent} {f : α → Output}
    (hcalled : ∀ s w, call s w = ((op s w).1.map f, (op s w).2))
    (hconducts : ∀ {s w result s' w'}, op s w = (result, s', w') →
      Conducted w s.connection.held (Tells result) s'.connection.held w')
    (hran : onSession slot w call = (result, slot', w')) :
    Conducted w slot.held (Reveals result) slot'.held w' := by
  cases slot with
  | empty | connection =>
      cases hran
      exact .refl
  | session s =>
      rcases hanswer : op s w with ⟨answered, s', w''⟩
      simp only [onSession, hcalled, hanswer] at hran
      cases hran
      exact (hconducts hanswer).mono fun _ htold => by cases htold; rfl

theorem reads_conducted {α : Type} {answer : α} {s s' : Session} {w w' : σ × List HostEvent}
    {result : Except ClientError α} (hread : (.ok answer, s, w) = (result, s', w')) :
    Conducted w s.connection.held (Tells result) s'.connection.held w' := by
  cases hread
  exact .refl

theorem perform_conducted {action : Action}
    (hran : perform cap.recorded action slot w = (result, slot', w')) :
    Conducted w slot.held (Reveals result) slot'.held w' := by
  unfold perform at hran
  cases action with
  | openConnection config =>
      rcases hopened : Connection.openWith cap.recorded config w with ⟨c, w₁⟩
      simp only [hopened] at hran
      exact replace_conducted (fun _ => rfl) (Connection.openWith_conducted hopened) hran
  | openSession config =>
      rcases hopened : Session.connect cap.recorded config w with ⟨s, w₁⟩
      simp only [hopened] at hran
      exact replace_conducted (fun _ => rfl) (Session.connect_conducted hopened) hran
  | startSession config =>
      rcases hopened : Session.connectWithStartup cap.recorded config w with ⟨s, w₁⟩
      simp only [hopened] at hran
      exact replace_conducted (fun _ => rfl) (Session.connectWithStartup_conducted hopened) hran
  | send data => exact onConnection_conducted (fun _ _ => rfl) Connection.send_conducted hran
  | sendAll data => exact onConnection_conducted (fun _ _ => rfl) Connection.sendAll_conducted hran
  | recv most => exact onConnection_conducted (fun _ _ => rfl) Connection.recv_conducted hran
  | close =>
      exact onConnection_conducted (fun _ _ => rfl)
        (fun hran => (Connection.close_conducted hran).1) hran
  | drop =>
      cases hran
      exact drop_conducted.ok
  | toSession =>
      cases slot with
      | connection c =>
          cases hran
          exact .refl
      | empty | session =>
          cases hran
          exact drop_conducted.ok
  | toConnection =>
      cases slot with
      | session s =>
          cases hran
          exact .refl
      | empty | connection =>
          cases hran
          exact drop_conducted.ok
  | closeSession =>
      cases slot with
      | session s =>
          rcases hclosed : s.connection.close cap.recorded w with ⟨answer, c, w₁⟩
          simp only [Session.close, hclosed] at hran
          cases hran
          obtain ⟨hconducted, hgone⟩ := Connection.close_conducted hclosed
          rw [hgone] at hconducted
          exact hconducted.mono fun _ htold => by cases htold; rfl
      | empty | connection =>
          cases hran
          exact drop_conducted.ok
  | simpleQuery sql => exact onSession_conducted (fun _ _ => rfl) Session.simpleQuery_conducted hran
  | query sql params => exact onSession_conducted (fun _ _ => rfl) Session.query_conducted hran
  | execute sql params => exact onSession_conducted (fun _ _ => rfl) Session.execute_conducted hran
  | parameter name => exact onSession_conducted (fun _ _ => rfl) reads_conducted hran
  | status => exact onSession_conducted (fun _ _ => rfl) reads_conducted hran

end Slot

end DatabaseGateway.Client
