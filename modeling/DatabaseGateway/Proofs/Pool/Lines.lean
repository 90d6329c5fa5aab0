import DatabaseGateway.Link.Basic
import DatabaseGateway.Network.Basic
import DatabaseGateway.Proofs.Pool.Confinement
import DatabaseGateway.Proofs.Pool.Renewal

/-!
The line that a connection runs over. The log of a gateway has every call on a connection with the
reply to it. These contacts are all that the state of the line depends on, as far as the network
decides it, so that the state is followed along them (`Line`). What the gateway does with a
connection is seen apart from what a line can do.
-/

namespace DatabaseGateway

/-- A call on a connection, with how it ended. -/
inductive Contact where
  | opened
  | sent (data : Bytes) (result : Except GatewayError Nat)
  | received (most : Nat) (result : Except GatewayError Bytes)
  | checked (reset probe passed : Bool)
  /-- A check that was given up. -/
  | overrun
  deriving DecidableEq

def Demand.contact? (socket : Nat) : Demand → Reply → Option Contact
  | dial .., .dialed (.ok opened) => if opened = socket then some .opened else none
  | send called data, .sent result => if called = socket then some (.sent data result) else none
  | recv called most, .received result =>
    if called = socket then some (.received most result) else none
  | check checked reset probe, .checked passed =>
    if checked = socket then some (.checked reset probe passed) else none
  | check checked .., .overrun => if checked = socket then some .overrun else none
  | _, _ => none

def Move.contact? (socket : Nat) : Move → Option Contact
  | resume _ demand reply _ _ => demand.contact? socket reply
  | begin _ | attach | settle .. => none

/-- The calls on a connection so far, the latest first. -/
def Traffic.contacts (t : Traffic) (socket : Nat) : List Contact :=
  t.log.filterMap (Move.contact? socket)

/-! ### Contacts in one step -/

section Step

variable {g : Gateway} {op : Operation} {now : Instant} {reply : Reply} {opened : List Nat}
  {socket : Nat}

theorem Demand.Admits.contact?_eq_none {demand : Demand} (hadmits : demand.Admits opened reply)
    (hold : socket ∈ opened) (huncalled : demand.socket? ≠ some socket) :
    demand.contact? socket reply = none := by
  cases hadmits with
  | connected hfresh =>
      refine if_neg ?_
      rintro rfl
      exact hfresh hold
  | checked | checkOverrun | sent | received =>
      exact if_neg fun hsame => huncalled (congrArg some hsame)
  | nothing | notice | pause | refused | dialOverrun => rfl

theorem Operation.reaches_of_called (hcalled : (op.demand g).socket? = some socket) :
    op.Reaches g socket := by
  cases hdemand : op.demand g with
  | send | recv =>
      rw [hdemand] at hcalled
      exact .inr (op.guestSocket?_demand (hdemand ▸ hcalled))
  | check checked reset probe =>
      rw [hdemand] at hcalled
      cases hcalled
      obtain ⟨standing, conn, hhands, hsame, -⟩ := op.demand_check hdemand
      exact .inl ⟨standing, conn, hhands, hsame⟩
  | nothing | dial | notice | pause =>
      rw [hdemand] at hcalled
      cases hcalled

/-- A connection that has been opened before has no contact with an operation that does not reach
it. -/
theorem Operation.contact?_eq_none (hadmits : (op.demand g).Admits opened reply)
    (hold : socket ∈ opened) (hapart : ¬ op.Reaches g socket) :
    (op.move g now reply).contact? socket = none :=
  hadmits.contact?_eq_none hold fun hcalled => hapart (reaches_of_called hcalled)

theorem Operation.contact?_checked {passed : Bool} {standing : Standing} {conn : PooledConnection}
    (hadmits : (op.demand g).Admits opened (.checked passed))
    (hstands : op.standing? = some (standing, conn)) :
    ∃ reset probe, standing.Checked g reset probe ∧
      (op.move g now (.checked passed)).contact? conn.socket =
        some (.checked reset probe passed) := by
  cases hdemand : op.demand g with
  | check socket reset probe =>
      obtain ⟨standing', conn', hstands', rfl, hchecked⟩ := op.demand_check hdemand
      cases hstands.symm.trans hstands'
      refine ⟨reset, probe, hchecked, ?_⟩
      rw [move, hdemand]
      exact if_pos rfl
  | _ =>
      rw [hdemand] at hadmits
      cases hadmits

end Step

namespace Traffic

variable {t t' : Traffic} {m : Move} {socket : Nat}

theorem contacts_cons (hlog : t'.log = m :: t.log) (hnone : m.contact? socket = none) :
    t'.contacts socket = t.contacts socket := by
  unfold contacts
  rw [hlog, List.filterMap_cons_none hnone]

theorem contacts_cons_some (hlog : t'.log = m :: t.log) {c : Contact}
    (hsome : m.contact? socket = some c) : t'.contacts socket = c :: t.contacts socket := by
  unfold contacts
  rw [hlog, List.filterMap_cons_some hsome]

end Traffic

/-! ### Lines -/

variable {σ : Type}

/-- Carries a check out from its beginning to its end. -/
def Network.vet (n : Network σ) (socket : Nat) (timeout : Duration) (reset probe : Bool)
    (world : σ) : Reply × σ :=
  let (begun, world) := n.check socket timeout reset probe world
  n.complete timeout begun.value world

/-- A link that has been opened, as a network of its own. -/
def Link.network (l : Link) (t : Transport σ) : Network σ where
  beginDial _ _ _ world := ({ value := 0 }, world)
  endDial _ world := (.ok (), world)
  reset _ timeout world := l.reset t timeout world
  beginProbe _ _ world := ({ value := () }, world)
  endProbe _ timeout world := l.ping t timeout world
  send _ data world := t.send data world
  recv _ most world := t.recv most world
  close _ world := l.close t world

/-- The state of a connection's line after contacts, of which the latest comes first. A new line is
in any state, and so is one whose check was given up. `Left` holds of the line whenever a guest has
left the connection. -/
inductive Line (n : Network σ) (socket : Nat) (timeout : Duration) (Left : σ → Prop) :
    List Contact → σ → Prop
  | opened {cs : List Contact} {world : σ} : Line n socket timeout Left (.opened :: cs) world
  | sent {cs : List Contact} {world world' : σ} {data : Bytes} {result : Except GatewayError Nat}
      (line : Line n socket timeout Left cs world)
      (sends : n.send socket data world = (result, world')) :
      Line n socket timeout Left (.sent data result :: cs) world'
  | received {cs : List Contact} {world world' : σ} {most : Nat}
      {result : Except GatewayError Bytes} (line : Line n socket timeout Left cs world)
      (receives : n.recv socket most world = (result, world')) :
      Line n socket timeout Left (.received most result :: cs) world'
  | checked {cs : List Contact} {world world' : σ} {reset probe passed : Bool}
      (line : Line n socket timeout Left cs world) (left : reset = true → Left world)
      (vets : n.vet socket timeout reset probe world = (.checked passed, world')) :
      Line n socket timeout Left (.checked reset probe passed :: cs) world'
  | overrun {cs : List Contact} {world : σ} : Line n socket timeout Left (.overrun :: cs) world

end DatabaseGateway
