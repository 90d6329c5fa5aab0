import DatabaseGateway.Proofs.Client.Requests

/-!
How data goes out over a host that may accept less than it is offered, nothing, or claim to have
accepted more.

Each send offers what has not been accepted yet, until nothing is left or the host refuses
(`Connection.Sending`, which has one rule for each of these). So what is accepted is the data
itself, each byte once and in its order, or a start of it on a connection that is closed
(`sendAll_delivers_once`).
-/

namespace DatabaseGateway.Client

variable {σ : Type}

/-- Sends of one piece of data on a handle, in turn: what was accepted before each of them, and what
it offers, are together the data. -/
def InTurn (h : Handle) (data : Bytes) (sends : List HostEvent) : Prop :=
  ∀ before e after, sends = before ++ e :: after → ∃ offered answer, e = .sent h offered answer ∧
    before.flatMap HostEvent.accepted ++ offered = data

namespace InTurn

variable {h : Handle} {data behind : Bytes} {answer : Except GatewayError Nat}
  {sends : List HostEvent}

theorem nil : InTurn h data [] := by
  intro before e after hsplit
  simp at hsplit

theorem cons (hlater : InTurn h behind sends)
    (hcut : (HostEvent.sent h data answer).accepted ++ behind = data) :
    InTurn h data (.sent h data answer :: sends) := by
  intro before e after hsplit
  obtain ⟨rfl, hfirst⟩ | ⟨before, rfl, hrest⟩ := List.cons_eq_append_iff.1 hsplit
  · cases hfirst
    exact ⟨data, answer, rfl, rfl⟩
  · obtain ⟨offered, answer', rfl, hwhole⟩ := hlater before e after hrest
    exact ⟨offered, answer', rfl, by rw [List.flatMap_cons, List.append_assoc, hwhole, hcut]⟩

end InTurn

/-- The error that an answer to a send stands for, if there is something to send. -/
def refusal? : Except GatewayError Nat → Option ClientError
  | .error e => some ⟨.send, .host e⟩
  | .ok 0 => some ⟨.send, .host (.closed "host accepted no bytes")⟩
  | .ok (_ + 1) => none

/-- A host that refuses what it is offered has accepted nothing of it. -/
theorem accepted_of_refusal {h : Handle} {data : Bytes} {answer : Except GatewayError Nat}
    {e : ClientError} (hrefused : refusal? answer = some e) :
    (HostEvent.sent h data answer).accepted = [] := by
  cases answer with
  | error => rfl
  | ok n =>
      cases n with
      | zero => rfl
      | succ => cases hrefused

namespace Connection

/-- The calls by which data is sent in full, with the result and the connection afterwards. -/
inductive Sending (c : Connection) :
    Bytes → List HostEvent → Except ClientError Unit → Connection → Prop
  /-- Nothing is left. -/
  | done : Sending c [] [] (.ok ()) c
  /-- The host refuses what is left, and the connection is closed. -/
  | refused {data : Bytes} {answer : Except GatewayError Nat} {e : ClientError}
      (left : data ≠ []) (refused : refusal? answer = some e) (closing : Except GatewayError Unit) :
      Sending c data [.sent c.handle data answer, .closed c.handle closing] (.error e)
        { c with closed := true }
  /-- The host accepts a part of what is left, and the rest is sent. -/
  | partly {data : Bytes} {n : Nat} {events : List HostEvent} {result : Except ClientError Unit}
      {c' : Connection} (left : data ≠ []) (rest : Sending c (data.drop (n + 1)) events result c') :
      Sending c data (.sent c.handle data (.ok (n + 1)) :: events) result c'

section Sending

variable {cap : Capability σ} {c c' : Connection} {w w' : σ × List HostEvent} {data : Bytes}
  {events : List HostEvent} {result : Except ClientError Unit}

/-- A send on an open connection is one call, and a second one that closes if the first failed. -/
theorem send_of_open (hopen : c.closed = false) {answer : Except ClientError Nat}
    (hran : c.send cap.recorded data w = (answer, c', w')) :
    (∃ n, answer = .ok n ∧ c' = c ∧ w'.2 = w.2 ++ [.sent c.handle data (.ok n)]) ∨
    (∃ e closing, answer = .error ⟨.send, .host e⟩ ∧ c' = { c with closed := true } ∧
      w'.2 = w.2 ++ [.sent c.handle data (.error e), .closed c.handle closing]) := by
  rcases hasked : cap.send c.handle data w.1 with ⟨e | n, world⟩
  · simp only [send, hopen, Capability.recorded, hasked] at hran
    cases hran
    exact .inr ⟨e, (cap.close c.handle world).1, rfl, rfl, List.append_assoc ..⟩
  · simp only [send, hopen, Capability.recorded, hasked] at hran
    cases hran
    exact .inl ⟨n, rfl, rfl, rfl⟩

theorem sendAll_sending (hopen : c.closed = false)
    (hran : c.sendAll cap.recorded data w = (result, c', w')) :
    ∃ events, w'.2 = w.2 ++ events ∧ Sending c data events result c' := by
  fun_induction sendAll cap.recorded c data w with
  | case1 c w =>
      cases hran
      exact ⟨[], by simp, .done⟩
  | case2 c w b bs e c₁ w₁ hsent =>
      cases hran
      obtain ⟨_, hanswer, -⟩ | ⟨e', closing, hanswer, rfl, hlog⟩ := send_of_open hopen hsent
      · cases hanswer
      · cases hanswer
        exact ⟨_, hlog, .refused (List.cons_ne_nil _ _) rfl closing⟩
  | case3 c w b bs c₁ w₁ hsent =>
      cases hran
      obtain ⟨n, hanswer, rfl, hlog⟩ | ⟨_, _, hanswer, -⟩ := send_of_open hopen hsent
      · cases hanswer
        let closing := (cap.close c₁.handle w₁.1).1
        have hclosed : (c₁.abandon cap.recorded w₁).2.2 =
            w.2 ++ [.sent c₁.handle (b :: bs) (.ok 0), .closed c₁.handle closing] := by
          rw [List.append_cons, ← hlog]
          rfl
        exact ⟨_, hclosed, .refused (List.cons_ne_nil _ _) rfl closing⟩
      · cases hanswer
  | case4 c w b bs n c₁ w₁ hsent ih =>
      obtain ⟨n', hanswer, rfl, hlog⟩ | ⟨_, _, hanswer, -⟩ := send_of_open hopen hsent
      · cases hanswer
        obtain ⟨events, hlog', hrest⟩ := ih hopen hran
        exact ⟨_, by rw [hlog', hlog, List.append_assoc]; rfl, .partly (List.cons_ne_nil _ _) hrest⟩
      · cases hanswer

theorem Sending.of_ok (hsending : Sending c data events (.ok ()) c') :
    c' = c ∧ InTurn c.handle data events ∧ events.length ≤ data.length ∧
      events.flatMap HostEvent.accepted = data := by
  generalize hok : (.ok () : Except ClientError Unit) = result at hsending
  induction hsending with
  | done => exact ⟨rfl, .nil, Nat.le_refl _, rfl⟩
  | refused => cases hok
  | @partly data n events _ _ hleft _ ih =>
      obtain ⟨rfl, hlater, hfew, hall⟩ := ih hok
      refine ⟨rfl, hlater.cons (List.take_append_drop ..), ?_, ?_⟩
      · rw [List.length_drop] at hfew
        have hsome := List.length_pos_of_ne_nil hleft
        rw [List.length_cons]
        omega
      · rw [List.flatMap_cons, hall]
        exact List.take_append_drop ..

theorem Sending.of_error {e : ClientError} (hsending : Sending c data events (.error e) c') :
    c'.closed = true ∧ ∃ before left answer closing,
      events = before ++ [.sent c.handle left answer] ++ [.closed c.handle closing] ∧
      left ≠ [] ∧ refusal? answer = some e ∧
      InTurn c.handle data (before ++ [.sent c.handle left answer]) ∧
      before.length < data.length := by
  generalize hfailed : (.error e : Except ClientError Unit) = result at hsending
  induction hsending with
  | done => cases hfailed
  | @refused data answer _ hleft hrefused closing =>
      cases hfailed
      have hnothing : (HostEvent.sent c.handle data answer).accepted = [] :=
        accepted_of_refusal hrefused
      exact ⟨rfl, [], data, answer, closing, rfl, hleft, hrefused,
        InTurn.nil.cons (by rw [hnothing, List.nil_append]), List.length_pos_of_ne_nil hleft⟩
  | @partly data n events _ _ hsome _ ih =>
      obtain ⟨hclosed, before, left, answer, closing, rfl, hmore, hrefused, hlater, hfew⟩ :=
        ih hfailed
      refine ⟨hclosed, _ :: before, left, answer, closing, rfl, hmore, hrefused,
        hlater.cons (List.take_append_drop ..), ?_⟩
      rw [List.length_drop] at hfew
      rw [List.length_cons]
      omega

end Sending

end Connection

/-- Sending data in full on an open connection takes at most as many sends as there are bytes, each
of which offers what was not accepted before. If it succeeds, what was accepted is the data, and
nothing else has reached the host. If it fails, the last send was refused, the connection is closed,
and what was accepted is a start of the data. -/
theorem sendAll_delivers_once (cap : Capability σ) {c : Connection} (hopen : c.closed = false)
    (data : Bytes) (w : σ × List HostEvent) :
    ∃ sends, InTurn c.handle data sends ∧ sends.length ≤ data.length ∧
      match c.sendAll cap.recorded data w with
      | (.ok (), c', w') =>
        c' = c ∧ w'.2 = w.2 ++ sends ∧ sends.flatMap HostEvent.accepted = data
      | (.error e, c', w') =>
        c'.closed = true ∧ (∃ closing, w'.2 = w.2 ++ sends ++ [.closed c.handle closing]) ∧
        (∃ left answer, sends.getLast? = some (.sent c.handle left answer) ∧
          refusal? answer = some e ∧ left ≠ [] ∧
          sends.flatMap HostEvent.accepted ++ left = data) := by
  rcases hran : c.sendAll cap.recorded data w with ⟨result, c', w'⟩
  obtain ⟨events, hlog, hsending⟩ := Connection.sendAll_sending hopen hran
  cases result with
  | ok _ =>
      obtain ⟨rfl, hinTurn, hfew, hall⟩ := hsending.of_ok
      exact ⟨events, hinTurn, hfew, rfl, hlog, hall⟩
  | error e =>
      obtain ⟨hclosed, before, left, answer, closing, rfl, hmore, hrefused, hinTurn, hfew⟩ :=
        hsending.of_error
      obtain ⟨_, _, hlast, hcut⟩ := hinTurn before _ [] rfl
      cases hlast
      have hfew : (before ++ [HostEvent.sent c.handle left answer]).length ≤ data.length := by
        rwa [List.length_append]
      refine ⟨_, hinTurn, hfew, hclosed, ⟨closing, by rw [hlog, ← List.append_assoc]⟩, left, answer,
        List.getLast?_concat .., hrefused, hmore, ?_⟩
      rw [List.flatMap_append, List.flatMap_singleton, accepted_of_refusal hrefused,
        List.append_nil, hcut]

/-- A host that accepts two bytes of five, and then claims to have accepted nine. -/
theorem sendAll_delivers_once_overcount :
    let c : Connection := { handle := 7 }
    let host : ScriptedHost × List HostEvent := ({ sends := [.ok (some 2), .ok (some 9)] }, [])
    let sends : List HostEvent := [.sent 7 [1, 2, 3, 4, 5] (.ok 2), .sent 7 [3, 4, 5] (.ok 9)]
    c.closed = false ∧
      (∃ host', c.sendAll ScriptedHost.capability.recorded [1, 2, 3, 4, 5] host =
        (.ok (), c, host') ∧ host'.2 = sends) ∧
      InTurn 7 [1, 2, 3, 4, 5] sends ∧ sends.flatMap HostEvent.accepted = [1, 2, 3, 4, 5] := by
  intro c host sends
  have hran : ∃ host', c.sendAll ScriptedHost.capability.recorded [1, 2, 3, 4, 5] host =
      (.ok (), c, host') ∧ host'.2 = sends := by
    simp [c, host, sends, Connection.sendAll, Connection.send, Capability.recorded,
      ScriptedHost.capability, ScriptedHost.send, ScriptedHost.record, Except.map]
  obtain ⟨host', hdone, hlog⟩ := hran
  obtain ⟨sends', hinTurn, -, houtcome⟩ :=
    sendAll_delivers_once ScriptedHost.capability (c := c) rfl [1, 2, 3, 4, 5] host
  rw [hdone] at houtcome
  obtain ⟨-, hlog', hall⟩ := houtcome
  obtain rfl : sends' = sends := hlog'.symm.trans hlog
  exact ⟨rfl, ⟨host', hdone, hlog⟩, hinTurn, hall⟩

end DatabaseGateway.Client
