import DatabaseGateway.Proofs.Client.Answers
import DatabaseGateway.Proofs.Client.Release

/-!
A connection that was closed stays closed.

A call on a connection closes it if it is a close, or if it fails for another reason than what the
server reports (`shut_of_failure`). From then on a guest may do what it likes with the connection,
on its own or in a session: nothing of it reaches the host (`perform_of_shut`, `act_of_shut`). All
calls on it fail as on a closed connection but one: to send all of no bytes succeeds, since there
is nothing to send (`closed_for_good`).
-/

namespace DatabaseGateway.Client

variable {σ : Type}

def Action.opens : Action → Bool
  | .openConnection _ | .openSession _ | .startSession _ => true
  | _ => false

/-- What a call comes to on a connection that is closed. -/
def Action.onClosed : Action → Except Refusal Output
  | .sendAll [] => .ok .nothing
  | .recv _ => .error (.failed (.alreadyClosed .recv))
  | .close | .closeSession => .error (.failed (.alreadyClosed .close))
  | _ => .error (.failed (.alreadyClosed .send))

theorem Action.onClosed_eq_error {action : Action} (hsome : action ≠ .sendAll []) :
    ∃ e, action.onClosed = .error (.failed e) ∧ e.isClosed = true := by
  unfold onClosed
  split
  · exact absurd rfl hsome
  all_goals exact ⟨_, rfl, rfl⟩

namespace Slot

def connection? : Slot → Option Connection
  | empty => none
  | connection c => some c
  | session s => some s.connection

/-- There is no open connection in the variable. -/
def Shut (slot : Slot) : Prop := ∀ c ∈ slot.connection?, c.closed = true

instance (slot : Slot) : Decidable slot.Shut :=
  inferInstanceAs (Decidable (∀ c ∈ slot.connection?, c.closed = true))

/-- Whether an action is a call on the connection in the variable. -/
def takes : Slot → Action → Bool
  | connection _, .send _ | connection _, .sendAll _ | connection _, .recv _
  | connection _, .close | session _, .simpleQuery _ | session _, .query _ _
  | session _, .execute _ _ | session _, .closeSession => true
  | _, _ => false

/-- A call fails as on a closed connection, and the host does not hear of it. -/
def Refuses (cap : Capability σ) (slot : Slot) (action : Action) : Prop :=
  ∀ w, ∃ e slot', slot.perform cap.recorded action w = (.error (.failed e), slot', w) ∧
    e.isClosed = true

end Slot

/-! ### Calls on closed connections -/

namespace Connection

variable {cap : Capability σ} {c : Connection}

theorem send_of_closed (hisClosed : c.closed = true) (data : Bytes) (world : σ) :
    c.send cap data world = (.error (.alreadyClosed .send), c, world) := by
  rw [send, if_pos hisClosed]

theorem recv_of_closed (hisClosed : c.closed = true) (most : Nat) (world : σ) :
    c.recv cap most world = (.error (.alreadyClosed .recv), c, world) := by
  rw [recv, if_pos hisClosed]

theorem close_of_closed (hisClosed : c.closed = true) (world : σ) :
    c.close cap world = (.error (.alreadyClosed .close), c, world) := by
  rw [close, if_pos hisClosed]

theorem drop_of_closed (hisClosed : c.closed = true) (world : σ) : c.drop cap world = world := by
  rw [drop, if_pos hisClosed]

theorem sendAll_nil (c : Connection) (world : σ) :
    c.sendAll cap [] world = (.ok (), c, world) := by
  rw [sendAll]

theorem sendAll_of_closed (hisClosed : c.closed = true) (b : UInt8) (bs : Bytes) (world : σ) :
    c.sendAll cap (b :: bs) world = (.error (.alreadyClosed .send), c, world) := by
  rw [sendAll, send_of_closed hisClosed]

theorem closed_of_close {result : Except ClientError Unit} {c' : Connection} {world world' : σ}
    (hran : c.close cap world = (result, c', world')) : c'.closed = true := by
  unfold close at hran
  split at hran
  · next hisClosed =>
      cases hran
      exact hisClosed
  · cases hran
    rfl

end Connection

namespace Slot

variable {cap : Capability σ} {slot slot' : Slot} {action : Action} {world world' : σ}
  {result : Except Refusal Output}

theorem shut_empty : Shut .empty := nofun

theorem shut_connection {c : Connection} : (connection c).Shut ↔ c.closed = true := by
  simp [Shut, connection?]

theorem shut_session {s : Session} : (session s).Shut ↔ s.connection.closed = true := by
  simp [Shut, connection?]

theorem drop_of_shut (hshut : slot.Shut) : slot.drop cap world = world := by
  cases slot with
  | empty => rfl
  | connection c => exact Connection.drop_of_closed (shut_connection.1 hshut) world
  | session s => exact Connection.drop_of_closed (shut_session.1 hshut) world

/-- An action does not reach the host and leaves no open connection. If it is a call on a
connection, it comes to what it comes to on a closed one. -/
def Idles (cap : Capability σ) (slot : Slot) (action : Action) (world : σ) : Prop :=
  ∃ result slot', slot.perform cap action world = (result, slot', world) ∧ slot'.Shut ∧
    (slot.takes action = true → result = action.onClosed)

theorem Idles.aside (hran : slot.perform cap action world = (result, slot', world))
    (hshut : slot'.Shut) (hother : slot.takes action = false) : Idles cap slot action world := by
  refine ⟨result, slot', hran, hshut, fun htaken => ?_⟩
  rw [hother] at htaken
  cases htaken

theorem idles_of_empty (hstays : action.opens = false) : Idles cap .empty action world := by
  cases action with
  | openConnection | openSession | startSession => cases hstays
  | _ => exact .aside rfl shut_empty rfl

theorem idles_of_connection {c : Connection} (hisClosed : c.closed = true)
    (hstays : action.opens = false) : Idles cap (connection c) action world := by
  have hshut : (connection c).Shut := shut_connection.2 hisClosed
  cases action with
  | openConnection | openSession | startSession => cases hstays
  | send data =>
      refine ⟨_, _, ?_, hshut, fun _ => rfl⟩
      simp only [perform, onConnection, Connection.send_of_closed hisClosed]
      rfl
  | sendAll data =>
      refine ⟨_, _, ?_, hshut, fun _ => rfl⟩
      cases data with
      | nil =>
          simp only [perform, onConnection, Connection.sendAll_nil]
          rfl
      | cons b bs =>
          simp only [perform, onConnection, Connection.sendAll_of_closed hisClosed]
          rfl
  | recv most =>
      refine ⟨_, _, ?_, hshut, fun _ => rfl⟩
      simp only [perform, onConnection, Connection.recv_of_closed hisClosed]
      rfl
  | close =>
      refine ⟨_, _, ?_, hshut, fun _ => rfl⟩
      simp only [perform, onConnection, Connection.close_of_closed hisClosed]
      rfl
  | drop | toConnection =>
      refine .aside (?_ : _ = (.ok .nothing, .empty, world)) shut_empty rfl
      simp only [perform, drop_of_shut hshut]
  | closeSession =>
      refine .aside (?_ : _ = (.error .noSession, .empty, world)) shut_empty rfl
      simp only [perform, drop_of_shut hshut]
  | toSession => exact .aside rfl (shut_session.2 hisClosed) rfl
  | simpleQuery | query | execute | parameter | status => exact .aside rfl hshut rfl

end Slot

def Inquiry.action : Inquiry → Action
  | simpleQuery sql => .simpleQuery sql
  | query sql params => .query sql params
  | execute sql params => .execute sql params

namespace Slot

variable {cap : Capability σ} {slot slot' : Slot} {action : Action} {world world' : σ}
  {result : Except Refusal Output}

theorem perform_inquiry (cap : Capability σ) (q : Inquiry) (s : Session) (world : σ) :
    perform cap q.action (session s) world =
      ((q.ask cap s world).1.mapError .failed, session (q.ask cap s world).2.1,
        (q.ask cap s world).2.2) := by
  cases q <;> rfl

theorem exists_session_of_takes {q : Inquiry} (htaken : slot.takes q.action = true) :
    ∃ s, slot = session s := by
  cases slot with
  | session s => exact ⟨s, rfl⟩
  | empty | connection => cases q <;> cases htaken

theorem idles_of_inquiry {q : Inquiry} {s : Session} (hisClosed : s.connection.closed = true) :
    Idles cap (session s) q.action world := by
  refine ⟨.error (.failed (.alreadyClosed .send)), session s, ?_, shut_session.2 hisClosed, ?_⟩
  · rw [perform_inquiry, Inquiry.ask_of_closed hisClosed]
    rfl
  · cases q <;> exact fun _ => rfl

theorem idles_of_session {s : Session} (hisClosed : s.connection.closed = true)
    (hstays : action.opens = false) : Idles cap (session s) action world := by
  have hshut : (session s).Shut := shut_session.2 hisClosed
  cases action with
  | openConnection | openSession | startSession => cases hstays
  | simpleQuery sql => exact idles_of_inquiry (q := .simpleQuery sql) hisClosed
  | query sql params => exact idles_of_inquiry (q := .query sql params) hisClosed
  | execute sql params => exact idles_of_inquiry (q := .execute sql params) hisClosed
  | closeSession =>
      refine ⟨_, .empty, ?_, shut_empty, fun _ => rfl⟩
      simp only [perform, Session.close, Connection.close_of_closed hisClosed]
      rfl
  | drop | toSession =>
      refine .aside (?_ : _ = (.ok .nothing, .empty, world)) shut_empty rfl
      simp only [perform, drop_of_shut hshut]
  | toConnection => exact .aside rfl (shut_connection.2 hisClosed) rfl
  | send | sendAll | recv | close => exact .aside rfl hshut rfl
  | parameter | status => exact .aside rfl hshut rfl

/-- Whatever is done with a closed connection, other than to open a new one in its place. -/
theorem idles_of_shut (hshut : slot.Shut) (hstays : action.opens = false) :
    Idles cap slot action world := by
  cases slot with
  | empty => exact idles_of_empty hstays
  | connection c => exact idles_of_connection (shut_connection.1 hshut) hstays
  | session s => exact idles_of_session (shut_session.1 hshut) hstays

/-! ### Calls that close -/

theorem shut_of_onConnection {α : Type} {e : ClientError}
    {op : Connection → σ → Except ClientError α × Connection × σ}
    {call : Connection → σ → Except ClientError Output × Connection × σ} {f : α → Output}
    (hcalled : ∀ c w, call c w = ((op c w).1.map f, (op c w).2))
    (hcloses : ∀ {c w e c' w'}, op c w = (.error e, c', w') → c'.closed = true)
    (hfailed : onConnection slot world call = (.error (.failed e), slot', world')) :
    slot'.Shut := by
  cases slot with
  | empty | session => cases hfailed
  | connection c =>
      rcases hran : op c world with ⟨answer, c', w⟩
      simp only [onConnection, hcalled, hran] at hfailed
      cases answer with
      | ok a => cases hfailed
      | error e' =>
          cases hfailed
          exact shut_connection.2 (hcloses hran)

/-- A call of a session that fails closes the connection, unless it is the server that reports an
error. -/
theorem shut_of_inquiry {q : Inquiry} {s : Session} {e : ClientError}
    (hfailed : perform cap q.action (session s) world = (.error (.failed e), slot', world'))
    (hother : ∀ error, e.cause ≠ .server error) : slot'.Shut := by
  rw [perform_inquiry] at hfailed
  rcases hran : q.ask cap s world with ⟨answer, s', w⟩
  rw [hran] at hfailed
  cases answer with
  | ok a => cases hfailed
  | error e' =>
      cases hfailed
      obtain ⟨error, hreported⟩ | hisClosed := Inquiry.ask_settles hran e rfl
      · exact absurd hreported (hother error)
      · exact shut_session.2 hisClosed

theorem shut_of_close (htaken : slot.takes action = true) (hcloses : action.isClose = true)
    (hran : slot.perform cap action world = (result, slot', world')) : slot'.Shut := by
  cases action with
  | close =>
      cases slot with
      | empty | session => cases htaken
      | connection c =>
          rcases hclosed : c.close cap world with ⟨answer, c', w⟩
          simp only [perform, onConnection, hclosed] at hran
          cases hran
          exact shut_connection.2 (Connection.closed_of_close hclosed)
  | closeSession =>
      cases slot with
      | empty | connection => cases htaken
      | session s =>
          cases hran
          exact shut_empty
  | _ => cases hcloses

/-- A call on a connection leaves it closed if it fails, unless it is the server that reports an
error. -/
theorem shut_of_failure {e : ClientError} (htaken : slot.takes action = true)
    (hfailed : slot.perform cap action world = (.error (.failed e), slot', world'))
    (hother : ∀ error, e.cause ≠ .server error) : slot'.Shut := by
  cases action with
  | send data =>
      unfold perform at hfailed
      exact shut_of_onConnection (fun _ _ => rfl) Connection.closed_of_send hfailed
  | sendAll data =>
      unfold perform at hfailed
      exact shut_of_onConnection (fun _ _ => rfl) Connection.closed_of_sendAll hfailed
  | recv most =>
      unfold perform at hfailed
      exact shut_of_onConnection (fun _ _ => rfl) Connection.closed_of_recv hfailed
  | close | closeSession => exact shut_of_close htaken rfl hfailed
  | simpleQuery sql =>
      obtain ⟨s, rfl⟩ := exists_session_of_takes (q := .simpleQuery sql) htaken
      exact shut_of_inquiry (q := .simpleQuery sql) hfailed hother
  | query sql params =>
      obtain ⟨s, rfl⟩ := exists_session_of_takes (q := .query sql params) htaken
      exact shut_of_inquiry (q := .query sql params) hfailed hother
  | execute sql params =>
      obtain ⟨s, rfl⟩ := exists_session_of_takes (q := .execute sql params) htaken
      exact shut_of_inquiry (q := .execute sql params) hfailed hother
  | _ => cases slot <;> cases htaken

theorem stays_of_takes (htaken : slot.takes action = true) : action.opens = false := by
  cases action with
  | openConnection | openSession | startSession => cases slot <;> cases htaken
  | _ => rfl

/-- Of the calls on a closed connection only one is not refused: to send all of no bytes. -/
theorem refuses_iff (hshut : slot.Shut) (htaken : slot.takes action = true)
    (w : σ × List HostEvent) : Refuses cap slot action ↔ action ≠ .sendAll [] := by
  have hidles (w : σ × List HostEvent) : Idles cap.recorded slot action w :=
    idles_of_shut hshut (stays_of_takes htaken)
  constructor
  · rintro hrefuses rfl
    obtain ⟨e, slot', hfailed, -⟩ := hrefuses w
    obtain ⟨result, slot'', hran, -, hclosed⟩ := hidles w
    rw [hran, hclosed htaken] at hfailed
    cases hfailed
  · intro hsome w
    obtain ⟨result, slot', hran, -, hclosed⟩ := hidles w
    obtain ⟨e, hfailed, hisClosed⟩ := Action.onClosed_eq_error hsome
    exact ⟨e, slot', by rw [hran, hclosed htaken, hfailed], hisClosed⟩

end Slot

/-! ### Histories -/

variable {n : Nat}

/-- A variable without an open connection is without one until one is opened there. -/
theorem act_of_shut {cap : Capability σ} {vars : Fin n → Slot} {i : Fin n}
    {later : List (Fin n × Action)} {world : σ} (hshut : (vars i).Shut)
    (hstays : ∀ deed ∈ later, deed.1 = i → deed.2.opens = false) :
    ((act cap later vars world).1 i).Shut := by
  induction later generalizing vars world with
  | nil => exact hshut
  | cons deed later ih =>
      obtain ⟨j, action⟩ := deed
      obtain ⟨hnow, hstays⟩ := List.forall_mem_cons.1 hstays
      rcases hdone : (vars j).perform cap action world with ⟨result, slot, w⟩
      simp only [act, hdone]
      refine ih ?_ hstays
      obtain rfl | hother := eq_or_ne i j
      · have hidles : Slot.Idles cap (vars _) action world := Slot.idles_of_shut hshut (hnow rfl)
        obtain ⟨_, slot', hran, hshut', -⟩ := hidles
        obtain ⟨-, rfl, -⟩ : _ ∧ slot = slot' ∧ w = world := by
          simpa using hdone.symm.trans hran
        rwa [Function.update_self]
      · rwa [Function.update_of_ne hother]

/-- A call on a connection closes it if it is a close, or if it fails and it is not the server that
reports an error. A variable whose connection is closed may be used in any way, among all other
things that a guest does: until another connection is opened in its place, no call on it reaches
the host, and each of them is refused as on a closed connection, unless it is to send all of no
bytes. -/
theorem closed_for_good (cap : Capability σ) :
    (∀ slot action w result slot' w', slot.takes action = true →
      Slot.perform cap.recorded action slot w = (result, slot', w') →
      (action.isClose = true ∨
        ∃ e, result = .error (.failed e) ∧ ∀ error, e.cause ≠ .server error) → slot'.Shut) ∧
    ∀ (vars : Fin n → Slot) w i later, (vars i).Shut →
      (∀ deed ∈ later, deed.1 = i → deed.2.opens = false) →
      let slot := (act cap.recorded later vars w).1 i
      ∀ action, slot.takes action = true →
        (∀ w', ∃ slot', slot.perform cap.recorded action w' = (action.onClosed, slot', w')) ∧
        (slot.Refuses cap action ↔ action ≠ .sendAll []) := by
  refine ⟨?_, ?_⟩
  · rintro slot action w result slot' w' htaken hran (hcloses | ⟨e, rfl, hother⟩)
    · exact Slot.shut_of_close htaken hcloses hran
    · exact Slot.shut_of_failure htaken hran hother
  · intro vars w i later hshut hstays slot action htaken
    have hshut : slot.Shut := act_of_shut hshut hstays
    refine ⟨fun w' => ?_, Slot.refuses_iff hshut htaken w⟩
    have hidles : Slot.Idles cap.recorded slot action w' :=
      Slot.idles_of_shut hshut (Slot.stays_of_takes htaken)
    obtain ⟨result, slot', hran, -, hclosed⟩ := hidles
    exact ⟨slot', by rw [hran, hclosed htaken]⟩

/-- A receive fails and closes the connection. After that another one is opened, and a query on the
first one is refused. -/
theorem closed_for_good_query :
    let cap := ScriptedHost.capability
    let host : ScriptedHost := { recvs := [.error (.timeout "slow")] }
    let opens := .openConnection { host := "db", database := "shop", username := "app" }
    let first : List (Fin 2 × Action) := [(0, opens)]
    let opened := act cap.recorded first (fun _ => .empty) (host, [])
    let reached := act cap.recorded [(0, .recv 16)] opened.1 opened.2
    let later := [(1, opens), (0, .toSession), (1, .send [1])]
    let slot := (act cap.recorded later reached.1 reached.2).1 0
    (reached.1 0).Shut ∧ slot.Refuses cap (.simpleQuery "SELECT 1") := by
  intro cap host opens first opened reached later slot
  have hfailed : (opened.1 0).perform cap.recorded (.recv 16) opened.2 =
      (.error (.failed ⟨.recv, .host (.timeout "slow")⟩), reached.1 0, reached.2) := rfl
  have hshut : (reached.1 0).Shut :=
    (closed_for_good (n := 2) cap).1 _ _ _ _ _ _ rfl hfailed (.inr ⟨_, rfl, nofun⟩)
  have hstays : ∀ deed ∈ later, deed.1 = 0 → deed.2.opens = false := by decide
  have htaken : slot.takes (.simpleQuery "SELECT 1") = true := by decide
  exact ⟨hshut, ((closed_for_good cap).2 _ _ 0 later hshut hstays _ htaken).2.2 nofun⟩

/-- On a connection that was closed, to send all of no bytes is not refused. -/
theorem exists_not_refuses :
    let deeds : List (Fin 1 × Action) :=
      [(0, .openConnection { host := "db", database := "shop", username := "app" }), (0, .close)]
    let slot := (act ScriptedHost.capability.recorded deeds (fun _ => .empty) ({}, [])).1 0
    slot = .connection { handle := 42, closed := true } ∧ slot.takes (.sendAll []) = true ∧
      ¬ slot.Refuses ScriptedHost.capability (.sendAll []) := by
  intro deeds slot
  have hclosed : slot = .connection { handle := 42, closed := true } := by decide
  refine ⟨hclosed, by decide, ?_⟩
  rw [hclosed, Slot.refuses_iff (by decide) rfl ({}, [])]
  exact fun hsome => hsome rfl

end DatabaseGateway.Client
