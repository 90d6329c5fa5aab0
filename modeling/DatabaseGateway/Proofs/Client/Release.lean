import Mathlib.Algebra.BigOperators.Fin
import DatabaseGateway.Client.ScriptedHost
import DatabaseGateway.Proofs.Client.Conduct

/-!
Whatever a guest does, and however its host answers, every handle is given back exactly once.

A guest has any number of variables and acts on one of them at a time. What it holds in all of them
together is what it was given and has not closed (`act_conducted`), so that nothing is held once all
variables are let go of. How the host answers a close that follows a failure is not seen by anyone
(`perform_answeringClose`).
-/

namespace DatabaseGateway

variable {σ : Type}

/-- A host that answers closes in another way. -/
def Capability.answeringClose (cap : Capability σ)
    (answer : Handle → σ → Except GatewayError Unit) : Capability σ :=
  { cap with close := fun h world => (answer h world, (cap.close h world).2) }

namespace Client

open Wire

/-! ### The answers to closes -/

section AnsweringClose

variable {cap : Capability σ} {answer : Handle → σ → Except GatewayError Unit} {c : Connection}
  {s : Session} {world : σ}

theorem Connection.sendAll_answeringClose {data : Bytes} :
    c.sendAll (cap.answeringClose answer) data world = c.sendAll cap data world := by
  fun_induction sendAll cap c data world with
  | case1 => rw [sendAll]
  | case2 c w b bs e c₁ w₁ hsent =>
      have hsent' : c.send (cap.answeringClose answer) (b :: bs) w = (.error e, c₁, w₁) := hsent
      rw [sendAll, hsent']
  | case3 c w b bs c₁ w₁ hsent =>
      have hsent' : c.send (cap.answeringClose answer) (b :: bs) w = (.ok 0, c₁, w₁) := hsent
      rw [sendAll, hsent']
      rfl
  | case4 c w b bs n c₁ w₁ hsent ih =>
      have hsent' : c.send (cap.answeringClose answer) (b :: bs) w = (.ok (n + 1), c₁, w₁) := hsent
      rw [sendAll, hsent']
      exact ih

namespace Session

theorem sendAll_answeringClose {data : Bytes} :
    s.sendAll (cap.answeringClose answer) data world = s.sendAll cap data world := by
  simp only [sendAll, Connection.sendAll_answeringClose]

theorem readResults_answeringClose {op : Operation} :
    s.readResults (cap.answeringClose answer) op world = s.readResults cap op world :=
  rfl

theorem simpleQuery_answeringClose {sql : String} :
    s.simpleQuery (cap.answeringClose answer) sql world = s.simpleQuery cap sql world := by
  simp only [simpleQuery, sendAll_answeringClose, readResults_answeringClose]

theorem query_answeringClose {sql : String} {params : List (Option String)} :
    s.query (cap.answeringClose answer) sql params world = s.query cap sql params world := by
  simp only [query, sendAll_answeringClose, readResults_answeringClose]

theorem execute_answeringClose {sql : String} {params : List (Option String)} :
    s.execute (cap.answeringClose answer) sql params world = s.execute cap sql params world := by
  simp only [execute, query_answeringClose]

theorem startupMessage_answeringClose {config : ClientConfig} :
    startupMessage (cap.answeringClose answer) config = startupMessage cap config := by
  funext message s world
  simp only [startupMessage, sendAll_answeringClose]
  rfl

theorem startup_answeringClose {config : ClientConfig} :
    s.startup (cap.answeringClose answer) config world = s.startup cap config world := by
  simp only [startup, sendAll_answeringClose, startupMessage_answeringClose]
  rfl

theorem connectWithStartup_answeringClose {config : ClientConfig} :
    connectWithStartup (cap.answeringClose answer) config world =
      connectWithStartup cap config world := by
  simp only [connectWithStartup, startup_answeringClose]
  rfl

end Session

def Action.isClose : Action → Bool
  | .close | .closeSession => true
  | _ => false

theorem Slot.perform_answeringClose {action : Action} {slot : Slot}
    (hother : action.isClose = false) :
    slot.perform (cap.answeringClose answer) action world = slot.perform cap action world := by
  cases action with
  | close | closeSession => cases hother
  | openConnection | openSession | send | recv | drop | toSession | toConnection | parameter
  | status => rfl
  | startSession =>
      simp only [perform, Session.connectWithStartup_answeringClose]
      rfl
  | sendAll => simp only [perform, Connection.sendAll_answeringClose]
  | simpleQuery => simp only [perform, Session.simpleQuery_answeringClose]
  | query => simp only [perform, Session.query_answeringClose]
  | execute => simp only [perform, Session.execute_answeringClose]

end AnsweringClose

/-! ### What a guest holds -/

variable {n : Nat}

/-- Carries actions out one after the other, each on one of a guest's variables. -/
def act (cap : Capability σ) : List (Fin n × Action) → (Fin n → Slot) → σ → (Fin n → Slot) × σ
  | [], vars, world => (vars, world)
  | (i, action) :: deeds, vars, world =>
    let (_, slot, world) := (vars i).perform cap action world
    act cap deeds (Function.update vars i slot) world

def heldBy (vars : Fin n → Slot) : Multiset Handle := ∑ i, (vars i).held

def dropAll : List (Fin n × Action) := (List.finRange n).map fun i => (i, .drop)

/-- What a host sees of a guest that starts with nothing, does something, and lets go of everything
at last. -/
def guestLog (cap : Capability σ) (deeds : List (Fin n × Action)) (world : σ) : List HostEvent :=
  (act cap.recorded (deeds ++ dropAll) (fun _ => .empty) (world, [])).2.2

section Guest

variable {cap : Capability σ} {vars vars' : Fin n → Slot} {deeds : List (Fin n × Action)}
  {w w' : σ × List HostEvent}

theorem heldBy_update (i : Fin n) (slot : Slot) :
    heldBy (Function.update vars i slot) =
      slot.held + ∑ j ∈ Finset.univ.erase i, (vars j).held := by
  rw [heldBy, ← Finset.add_sum_erase _ _ (Finset.mem_univ i), Function.update_self]
  congr 1
  refine Finset.sum_congr rfl fun j hmem => ?_
  rw [Function.update_of_ne (Finset.ne_of_mem_erase hmem)]

theorem act_custody (hran : act cap.recorded deeds vars w = (vars', w')) :
    ∃ events, w'.2 = w.2 ++ events ∧ Custody (heldBy vars) events (heldBy vars') := by
  induction deeds generalizing vars w with
  | nil =>
      cases hran
      exact ⟨[], by simp, .nil⟩
  | cons deed deeds ih =>
      obtain ⟨i, action⟩ := deed
      rcases hdone : (vars i).perform cap.recorded action w with ⟨result, slot, w₁⟩
      simp only [act, hdone] at hran
      obtain ⟨events, hlog, hcustody, -⟩ := Slot.perform_conducted hdone
      obtain ⟨events', hlog', hcustody'⟩ := ih hran
      have hwhole := hcustody.beside (∑ j ∈ Finset.univ.erase i, (vars j).held)
      rw [← heldBy_update, ← heldBy_update, Function.update_eq_self] at hwhole
      exact ⟨events ++ events', by rw [hlog', hlog, List.append_assoc], hwhole.append hcustody'⟩

theorem act_append (first second : List (Fin n × Action)) {world : σ} :
    act cap (first ++ second) vars world =
      act cap second (act cap first vars world).1 (act cap first vars world).2 := by
  induction first generalizing vars world with
  | nil => rfl
  | cons deed first ih => exact ih

theorem act_drops (is : List (Fin n)) (i : Fin n) {world : σ} :
    (act cap (is.map fun i => (i, .drop)) vars world).1 i = if i ∈ is then .empty else vars i := by
  induction is generalizing vars world with
  | nil => rfl
  | cons j is ih =>
      refine ih.trans ?_
      by_cases hhere : i = j
      · simp [hhere]
      · simp [hhere]

theorem guestLog_custody {world : σ} : Custody 0 (guestLog cap deeds world) 0 := by
  rcases hran : act cap.recorded (deeds ++ dropAll) (fun _ => .empty) (world, []) with ⟨vars, w⟩
  obtain ⟨events, hlog, hcustody⟩ := act_custody hran
  have hnone : heldBy vars = 0 := by
    refine Finset.sum_eq_zero fun i _ => ?_
    have hdropped := congrFun (congrArg Prod.fst hran) i
    rw [act_append, dropAll, act_drops, if_pos (List.mem_finRange i)] at hdropped
    rw [show vars i = .empty from hdropped.symm, Slot.held]
  rw [hnone, show heldBy (fun _ : Fin n => Slot.empty) = 0 from Finset.sum_const_zero] at hcustody
  rwa [guestLog, hran, hlog]

end Guest

/-- A guest does anything, on any number of variables and with any host, and lets go of everything
at last. If the host gave out no handle twice, each of them is closed exactly once, and not used
before it was given out nor after it was closed. A call that failed is what its action reports,
and no report but that of a close depends on how the host answers closes. -/
theorem handles_closed_once (cap : Capability σ) (deeds : List (Fin n × Action)) (world : σ)
    (hdistinct : (handlesGiven (guestLog cap deeds world)).Nodup) :
    (∀ h ∈ handlesGiven (guestLog cap deeds world), ClosedOnce h (guestLog cap deeds world)) ∧
    (∀ action slot w result slot' w',
      Slot.perform cap.recorded action slot w = (result, slot', w') →
      ∃ events, w'.2 = w.2 ++ events ∧ ∀ e ∈ events, ∀ failure,
        e.failure? = some failure → result = .error (.failed failure)) ∧
    ∀ answer action slot world, action.isClose = false →
      Slot.perform (cap.answeringClose answer) action slot world =
        Slot.perform cap action slot world := by
  refine ⟨fun h hgiven => ?_, fun action slot w result slot' w' hran => ?_, ?_⟩
  · exact guestLog_custody.closedOnce (by simpa using hdistinct) hgiven (Multiset.notMem_zero h)
  · obtain ⟨events, hlog, -, htold⟩ := Slot.perform_conducted hran
    exact ⟨events, hlog, htold⟩
  · exact fun _ _ _ _ hother => Slot.perform_answeringClose hother

def twoConnections : List (Fin 2 × Action) :=
  let config : ClientConfig := { host := "db", database := "shop", username := "app" }
  [(0, .openConnection config), (1, .openConnection config), (0, .send [1]), (1, .close)]

def failingHost : ScriptedHost :=
  { connects := [.ok (some 7), .ok (some 9)], sends := [.error (.timeout "slow")]
    closes := [.error (.closed "gone")] }

theorem handles_closed_once_failing :
    let log := guestLog ScriptedHost.capability twoConnections failingHost
    handlesGiven log = [7, 9] ∧ ∀ h ∈ handlesGiven log, ClosedOnce h log := by
  intro log
  have hgiven : handlesGiven log = [7, 9] := by decide
  have hdistinct : (handlesGiven log).Nodup := by rw [hgiven]; decide
  exact ⟨hgiven, (handles_closed_once _ _ _ hdistinct).1⟩

end Client

end DatabaseGateway
