import DatabaseGateway.Proofs.Pool.Edit
import DatabaseGateway.Proofs.Pool.Invariant

/-!
The accounts of a pool. Its count is made up of the connections that wait, those that a sweep has
taken out, those behind live handles, and the slots of requests and returns that are under way. So
what is taken off a count has always been counted, and a request that is turned away from a full
pool is turned away for a reason.
-/

namespace DatabaseGateway

/-! ### Slots in flight -/

/-- Whether a request has a slot that it has neither handed out nor given back: it has taken a
connection out to probe it, or has room for one that is dialed, not yet registered, or rejected. -/
def Checkout.occupies : Checkout → Bool
  | .probing _ | .discarding | .dialing | .refunding _ | .entering _ => true
  | .screen | .locate | .inspect | .await => false

def CheckIns.slots (key : PoolKey) (c : CheckIns) : Nat :=
  (c.current :: c.waiting).countP fun r => r.key = key

/-- How many slots of a pool an operation in flight occupies. What a sweep has taken out is not
among them, since the pool itself counts that. -/
def Operation.slots (key : PoolKey) : Operation → Nat
  | .checkout order stage => if stage.occupies ∧ order.key = key then 1 else 0
  | .returning returns _ => returns.slots key
  | .drain (.returning _ returns) => returns.slots key
  | .drain _ | .exchange .. | .release _ | .teardown _ | .reap .. | .sweep .. | .guarded ..
  | .retire _ => 0

def Traffic.slots (t : Traffic) (key : PoolKey) : Nat := (t.flights.map (Operation.slots key)).sum

/-- How many live handles of a key still have their connection. -/
def Gateway.inHands (g : Gateway) (key : PoolKey) : Nat :=
  g.registry.entries.countP fun x => x.2.item = key ∧ (g.held? x.1).isSome

def Duty.returns (key : PoolKey) : Duty → Nat
  | cell r => if r.key = key then 1 else 0
  | line .. | room _ | probe _ => 0

theorem Duty.tally_returns_cells (key : PoolKey) (returns : List Returned) :
    tally (Duty.returns key) ↑(returns.map cell) = returns.countP fun r => r.key = key := by
  rw [tally_coe, List.map_map]
  induction returns with
  | nil => rfl
  | cons r returns ih =>
      rw [List.map_cons, List.sum_cons, ih, List.countP_cons, Nat.add_comm]
      simp [Duty.returns]

theorem Checkout.slots_eq (key : PoolKey) (order : Order) (stage : Checkout) :
    (Operation.checkout order stage).slots key =
      Duty.tally (Duty.fills key) (stage.duties order) := by
  unfold Operation.slots
  cases stage <;> simp [occupies, duties, Duty.fills]

theorem CheckIn.fills_add_returns (key : PoolKey) (r : Returned) (stage : CheckIn) :
    Duty.tally (Duty.fills key) (stage.duties r) + Duty.tally (Duty.returns key) (stage.duties r) =
      if r.key = key then 1 else 0 := by
  cases stage with
  | settling conn => cases conn <;> simp [duties, Duty.fills, Duty.returns]
  | taking | judging | checking => simp [duties, Duty.fills, Duty.returns]

theorem CheckIns.slots_eq (key : PoolKey) (c : CheckIns) :
    c.slots key =
      Duty.tally (Duty.fills key) c.duties + Duty.tally (Duty.returns key) c.duties := by
  have hstage := CheckIn.fills_add_returns key c.current c.stage
  have hwaiting := Duty.tally_returns_cells key c.waiting
  have hfills := Duty.tally_returned (f := Duty.fills key) (fun _ => rfl) c.waiting
  unfold slots duties
  rw [List.countP_cons, Duty.tally_add, Duty.tally_add, hfills, hwaiting]
  simp only [decide_eq_true_eq]
  omega

theorem CheckIns.tally_probes (key : PoolKey) (c : CheckIns) :
    Duty.tally (Duty.probes key) c.duties = 0 := by
  unfold duties
  rw [Duty.tally_add, Duty.tally_returned fun _ => rfl]
  cases c.stage with
  | settling conn => cases conn <;> simp [CheckIn.duties, Duty.probes]
  | taking | judging | checking => simp [CheckIn.duties, Duty.probes]

theorem CheckIns.slots_add_probes (key : PoolKey) (c : CheckIns) :
    c.slots key + Duty.tally (Duty.probes key) c.duties =
      Duty.tally (Duty.fills key) c.duties + Duty.tally (Duty.returns key) c.duties := by
  rw [c.tally_probes, c.slots_eq, Nat.add_zero]

/-- Every slot that is filled is counted once: as a slot in flight or as a probe. -/
theorem Operation.slots_add_probes (key : PoolKey) (op : Operation) :
    op.slots key + Duty.tally (Duty.probes key) op.duties =
      Duty.tally (Duty.fills key) op.duties + Duty.tally (Duty.returns key) op.duties := by
  cases op with
  | checkout order stage =>
      rw [Checkout.slots_eq]
      cases stage <;> simp [duties, Checkout.duties, Duty.probes, Duty.returns]
  | returning returns answer => exact returns.slots_add_probes key
  | drain stage =>
      cases stage with
      | returning seized returns => exact returns.slots_add_probes key
      | announce | poll | pause | seize | survey | clear => rfl
  | sweep removed stage =>
      cases stage with
      | probing => simp [slots, duties, Sweep.duties, Duty.fills, Duty.probes, Duty.returns]
      | settling conn =>
          cases conn <;>
            simp [slots, duties, Sweep.duties, Duty.fills, Duty.probes, Duty.returns]
      | survey | enter | pick => rfl
  | exchange | release | teardown | reap | guarded | retire => rfl

theorem Traffic.slots_add_probes (t : Traffic) (key : PoolKey) :
    t.slots key + Duty.tally (Duty.probes key) t.duties =
      Duty.tally (Duty.fills key) t.duties + Duty.tally (Duty.returns key) t.duties := by
  simp only [tally_duties, slots, ← List.sum_map_add, Operation.slots_add_probes]

/-! ### Handles that hold connections -/

theorem Duty.countP_tally_cells (key : PoolKey) (D : Multiset Duty) :
    (tally cells D).countP (fun x => x.2 = key) = tally (Duty.returns key) D := by
  induction D using Multiset.induction_on with
  | empty => rfl
  | cons d D ih =>
      rw [tally_cons, tally_cons, Multiset.countP_add, ih]
      cases d with
      | cell r =>
          congr 1
          exact (Multiset.countP_cons (fun x : Handle × PoolKey => x.2 = key) (r.handle, r.key)
            0).trans (Nat.zero_add _)
      | line | room | probe => rfl

theorem Tabled.inHands_eq {g : Gateway} {D : Multiset Duty} (h : Tabled g D) (key : PoolKey) :
    g.inHands key = g.registry.entries.countP fun x => x.2.item = key := by
  unfold Gateway.inHands
  apply List.countP_congr
  intro x hx
  obtain ⟨conn, hconn, -⟩ := h.held?_of_entry hx
  simp [hconn]

/-- What handles hold is behind live handles or on its way back. -/
theorem Tabled.heldFor_eq {g : Gateway} {D : Multiset Duty} (h : Tabled g D) (key : PoolKey) :
    g.heldFor key = g.inHands key + Duty.tally (Duty.returns key) D := by
  have hcount := congrArg (Multiset.countP fun x => x.2 = key) h.entries
  rw [Multiset.countP_add, Duty.countP_tally_cells, Multiset.coe_countP, Multiset.coe_countP,
    List.countP_map, List.countP_map] at hcount
  rw [h.inHands_eq]
  exact hcount

theorem Traffic.Invariant.balance {t : Traffic} (h : t.Invariant) {key : PoolKey} {pool : Pool}
    (hpool : t.gateway.pool? key = some pool) :
    pool.total = pool.idle.length + pool.probing + t.gateway.inHands key + t.slots key := by
  have htotal := h.coherent.counted.total key
  have hprobing := h.coherent.counted.probing key
  have hheld := h.coherent.tabled.heldFor_eq key
  have hslots := t.slots_add_probes key
  rw [Gateway.poolAt_of_pool? hpool] at htotal hprobing
  omega

/-! ### What is taken off -/

/-- What a change takes off the figures of a pool waits in the pool, fills it, or is a probe. -/
def PoolEdit.Covered (e : PoolEdit) (key : PoolKey) (pool : Pool) (D : Multiset Duty) : Prop :=
  e.deducts pool ≤ pool.idle.length + Duty.tally (Duty.fills key) D ∧
    e.ends ≤ Duty.tally (Duty.probes key) D

section Covered

variable {g : Gateway} {now : Instant} {key : PoolKey} {e : PoolEdit}

theorem Checkout.edit_covered {order : Order} {stage : Checkout}
    (h : stage.edit order = some (key, e)) (pool : Pool) :
    e.Covered key pool (stage.duties order) := by
  cases stage with
  | inspect =>
      cases h
      exact ⟨Nat.zero_le _, Nat.le_refl _⟩
  | discarding | refunding =>
      cases h
      exact ⟨by simp [PoolEdit.deducts, duties, Duty.fills], Nat.zero_le _⟩
  | screen | locate | await | probing | dialing | entering => cases h

theorem CheckIn.edit_covered {r : Returned} {stage : CheckIn}
    (h : stage.edit g now r = some (key, e)) (pool : Pool) :
    e.Covered key pool (stage.duties r) := by
  cases stage with
  | settling conn =>
      cases conn with
      | none =>
          cases h
          exact ⟨by simp [PoolEdit.deducts, duties, Duty.fills], Nat.zero_le _⟩
      | some conn =>
          unfold edit at h
          dsimp only at h
          split at h
          · cases h
            exact ⟨by simp [PoolEdit.deducts, duties, Duty.fills], Nat.zero_le _⟩
          · cases h
            exact ⟨Nat.zero_le _, Nat.zero_le _⟩
  | taking | judging | checking => cases h

theorem CheckIns.edit_covered {c : CheckIns} (h : c.stage.edit g now c.current = some (key, e))
    (pool : Pool) : e.Covered key pool c.duties := by
  obtain ⟨hdeducts, hends⟩ := CheckIn.edit_covered h pool
  unfold PoolEdit.Covered duties
  rw [Duty.tally_add, Duty.tally_add]
  exact ⟨by omega, by omega⟩

theorem Reap.edit_covered {stage : Reap} (h : stage.edit g now = some (key, e)) (pool : Pool) :
    e.Covered key pool 0 := by
  cases stage with
  | survey => cases h
  | collect pools =>
      cases pools with
      | nil => cases h
      | cons key' pools =>
          cases h
          exact ⟨List.length_filter_le _ _, Nat.le_refl _⟩

theorem Sweep.edit_covered {stage : Sweep} (h : stage.edit g = some (key, e)) (pool : Pool) :
    e.Covered key pool stage.duties := by
  cases stage with
  | pick key' rounds pools =>
      cases rounds with
      | zero => cases h
      | succ rounds =>
          cases h
          exact ⟨Nat.zero_le _, Nat.le_refl _⟩
  | settling conn key' rounds pools =>
      cases conn with
      | none =>
          cases h
          exact ⟨by simp [PoolEdit.deducts, duties, Duty.fills],
            by simp [PoolEdit.ends, duties, Duty.probes]⟩
      | some conn =>
          unfold edit at h
          dsimp only at h
          split at h
          · cases h
            exact ⟨by simp [PoolEdit.deducts, duties, Duty.fills],
              by simp [PoolEdit.ends, duties, Duty.probes]⟩
          · cases h
            exact ⟨Nat.zero_le _, by simp [PoolEdit.ends, duties, Duty.probes]⟩
  | survey | enter | probing => cases h

theorem Drain.edit_covered {stage : Drain} (h : stage.edit g now = some (key, e)) (pool : Pool) :
    e.Covered key pool stage.duties := by
  cases stage with
  | returning seized returns => exact CheckIns.edit_covered h pool
  | clear seized pools =>
      cases pools with
      | nil => cases h
      | cons key' pools =>
          cases h
          exact ⟨Nat.le_refl _, Nat.le_refl _⟩
  | announce | poll | pause | seize | survey => cases h

theorem Operation.edit_covered {op : Operation} (h : op.edit g now = some (key, e)) (pool : Pool) :
    e.Covered key pool op.duties := by
  cases op with
  | checkout order stage => exact Checkout.edit_covered h pool
  | returning returns answer => exact CheckIns.edit_covered h pool
  | reap closed stage => exact Reap.edit_covered h pool
  | sweep removed stage => exact Sweep.edit_covered h pool
  | drain stage => exact Drain.edit_covered h pool
  | exchange | release | teardown | guarded | retire => cases h

end Covered

theorem Traffic.tally_le {t : Traffic} {op : Operation} (hop : op ∈ t.flights) (f : Duty → Nat) :
    Duty.tally f op.duties ≤ Duty.tally f t.duties := by
  obtain ⟨before, after, hflights⟩ := List.append_of_mem hop
  rw [duties_of_flights hflights, Duty.tally_add]
  exact Nat.le_add_right _ _

theorem Traffic.Invariant.covered {t : Traffic} (h : t.Invariant) {key : PoolKey} {pool : Pool}
    (hpool : t.gateway.pool? key = some pool) {op : Operation} (hop : op ∈ t.flights)
    {now : Instant} {e : PoolEdit} (hedit : op.edit t.gateway now = some (key, e)) :
    e.deducts pool ≤ pool.total ∧ e.ends ≤ pool.probing := by
  obtain ⟨hdeducts, hends⟩ := Operation.edit_covered hedit pool
  have hfills := Traffic.tally_le hop (Duty.fills key)
  have hprobes := Traffic.tally_le hop (Duty.probes key)
  have htotal := h.coherent.counted.total key
  have hprobing := h.coherent.counted.probing key
  rw [Gateway.poolAt_of_pool? hpool] at htotal hprobing
  exact ⟨by omega, by omega⟩

/-! ### Capacities -/

/-- The request that looks for the pool of a key in this move, and makes it if there is none. -/
def Move.locates? (key : PoolKey) : Move → Option Order
  | resume (.checkout order .locate) _ _ _ _ => if order.key = key then some order else none
  | _ => none

/-- The request that made the pool of a key: the first one that looked for it. -/
def Traffic.founder? (t : Traffic) (key : PoolKey) : Option Order :=
  t.log.reverse.findSome? (Move.locates? key)

def PoolConfig.capacityFor (config : PoolConfig) (order : Order) : Nat :=
  min order.request.poolSize.toNat config.maxSize

/-- Every pool has the capacity that its first request has given it. -/
structure Founded (config : PoolConfig) (t : Traffic) : Prop where
  config_eq : t.gateway.config = config
  capacity : ∀ key,
    (t.gateway.pool? key).map (·.capacity) = (t.founder? key).map config.capacityFor

theorem Traffic.founder?_cons (t : Traffic) (m : Move) (key : PoolKey) :
    (m :: t.log).reverse.findSome? (Move.locates? key) =
      (t.founder? key).or (m.locates? key) := by
  rw [List.reverse_cons, List.findSome?_append]
  unfold founder?
  cases hm : m.locates? key <;> simp [hm]

theorem Move.locates?_resume {op : Operation} (hop : ∀ order, op ≠ .checkout order .locate)
    (key : PoolKey) (demand : Demand) (reply : Reply) (next : Next Operation Operation.Result)
    (closed : List PooledConnection) :
    (resume op demand reply next closed).locates? key = none := by
  unfold locates?
  split
  · next heq =>
      cases heq
      exact absurd rfl (hop _)
  · rfl

theorem Gateway.capacity_ensurePool (g : Gateway) (key key' : PoolKey) (size : Nat) :
    ((g.ensurePool key size).pool? key').map (·.capacity) =
      ((g.pool? key').map (·.capacity)).or
        (if key = key' then some (min size g.config.maxSize) else none) := by
  rw [pool?_ensurePool]
  by_cases heq : key' = key
  · subst heq
    rw [if_pos rfl, if_pos rfl]
    cases g.pool? key' <;> rfl
  · rw [if_neg heq, if_neg (Ne.symm heq), Option.or_none]

theorem Gateway.capacity_edited (g : Gateway) (edit : Option (PoolKey × PoolEdit))
    (key : PoolKey) :
    ((g.edited edit).pool? key).map (·.capacity) = (g.pool? key).map (·.capacity) := by
  rw [pool?_edited]
  cases edit with
  | none => rfl
  | some x =>
      dsimp only
      split
      · cases g.pool? key <;> simp
      · rfl

theorem Traffic.Step.founded {config : PoolConfig} {t t' : Traffic} (hstep : Step t t')
    (h : Founded config t) : Founded config t' := by
  obtain ⟨gained, lost, hshift, -⟩ := hstep.shift
  refine ⟨hshift.config_eq.trans h.config_eq, fun key => ?_⟩
  cases hstep with
  | begin | attach | settle =>
      rw [founder?, founder?_cons]
      show _ = ((t.founder? key).or none).map config.capacityFor
      rw [Option.or_none]
      exact h.capacity key
  | @resume before after op now reply hflights hadmits =>
      rw [founder?]
      show _ = ((_ :: t.log).reverse.findSome? (Move.locates? key)).map config.capacityFor
      rw [founder?_cons]
      -- Only a request that looks for its pool makes one, and only then the log names a founder.
      by_cases hop : ∃ order, op = .checkout order .locate
      · obtain ⟨order, rfl⟩ := hop
        show ((t.gateway.ensurePool order.key order.request.poolSize.toNat).pool? key).map
          (·.capacity) = ((t.founder? key).or
            (if order.key = key then some order else none)).map config.capacityFor
        rw [Gateway.capacity_ensurePool, h.capacity, h.config_eq, Option.map_or]
        split <;> rfl
      · have hop' : ∀ order, op ≠ .checkout order .locate := fun order heq => hop ⟨order, heq⟩
        rw [Move.locates?_resume hop', Option.or_none, ← h.capacity]
        show ((op.resume t.gateway now reply).gateway.pool? key).map (·.capacity) = _
        rw [op.pool?_resume hop', Gateway.capacity_edited]

theorem Traffic.Reachable.founded {config : PoolConfig} {t : Traffic} (h : Reachable config t) :
    Founded config t := by
  induction h with
  | refl => exact ⟨rfl, fun _ => rfl⟩
  | tail _ hstep ih => exact hstep.founded ih

/-! ### Requests that are turned away -/

def Pool.fullMessage (key : PoolKey) (pool : Pool) : String :=
  let locator := key.text
  s!"{locator} ({pool.total}/{pool.capacity} connections in use)"

/-- A pool that gives a request neither a connection nor room, nor hope for either, has no
connection that waits or is probed, and no room. -/
theorem Pool.acquire_full {pool pool' : Pool} (h : pool.acquire = (.full, pool')) :
    pool.idle = [] ∧ pool.probing = 0 ∧ pool.capacity ≤ pool.total ∧
      pool' = { pool with exhausted := pool.exhausted + 1 } := by
  unfold acquire at h
  split at h
  · cases h
  · next hlast =>
      split at h
      · cases h
      · next hroom =>
          split at h
          · cases h
          · next hswept =>
              cases h
              exact ⟨List.getLast?_eq_none_iff.mp hlast, by omega, by omega, rfl⟩

/-- Where a request is answered that the gateway has no connection for it. -/
theorem Checkout.resume_poolExhausted {g : Gateway} {now : Instant} {order : Order} {reply : Reply}
    {stage : Checkout} {message : String}
    (h : (stage.resume g now order reply).next = .done (.error (.poolExhausted message))) :
    stage = .refunding (.poolExhausted message) ∨
      (stage = .inspect ∧ ∃ pool, g.pool? order.key = some pool ∧ pool.idle = [] ∧
        pool.probing = 0 ∧ pool.capacity ≤ pool.total ∧ message = pool.fullMessage order.key) := by
  cases stage with
  | screen =>
      -- A request that is refused at once is faulty, which is another kind of error.
      unfold resume at h
      dsimp only at h
      split at h
      · next e hvalidate =>
          cases h
          unfold ConnectConfig.validate at hvalidate
          split at hvalidate <;> cases hvalidate
      · split at h <;> cases h
  | inspect =>
      unfold resume at h
      dsimp only at h
      split at h
      · cases h
      · next pool hpool =>
          unfold inspectPool at h
          rcases hacquire : pool.acquire with ⟨acquired, pool'⟩
          rw [hacquire] at h
          cases acquired with
          | full =>
              obtain ⟨hidle, hprobing, hcapacity, rfl⟩ := Pool.acquire_full hacquire
              cases h
              exact .inr ⟨rfl, pool, hpool, hidle, hprobing, hcapacity, rfl⟩
          | idle | room | swept => cases h
  | refunding e =>
      cases h
      exact .inl rfl
  | entering conn =>
      unfold resume at h
      dsimp only at h
      split at h <;> cases h
  | locate | await | probing | discarding | dialing => cases h

/-! ### The accounts -/

/-- The accounts of one pool of a gateway under traffic. -/
structure Traffic.Accounts (config : PoolConfig) (t : Traffic) (key : PoolKey) (pool : Pool) :
    Prop where
  balance : pool.total =
    pool.idle.length + pool.probing + t.gateway.inHands key + t.slots key
  within : pool.total ≤ pool.capacity
  capacity : ∃ order, t.founder? key = some order ∧
    pool.capacity = min order.request.poolSize.toNat config.maxSize
  /-- The step of an operation that changes the pool takes off only what has been counted: no
  subtraction is cut down. -/
  exact : ∀ op ∈ t.flights, ∀ now reply e, op.edit t.gateway now = some (key, e) →
    (op.resume t.gateway now reply).gateway.pool? key = some (e.apply pool) ∧
      e.deducts pool ≤ pool.total ∧
      (e.apply pool).total + e.deducts pool = pool.total + e.adds pool ∧
      e.ends ≤ pool.probing ∧
      (e.apply pool).probing + e.ends = pool.probing + e.begins pool
  /-- A step of any other operation leaves the pool as it is. -/
  untouched : ∀ op ∈ t.flights, ∀ now reply, (∀ e, op.edit t.gateway now ≠ some (key, e)) →
    (op.resume t.gateway now reply).gateway.pool? key = some pool
  /-- The figure of the connections in use is not cut down either. -/
  active : pool.stats.active + pool.idle.length = pool.total
  quiet : t.flights = [] → pool.probing = 0 ∧
    pool.total = pool.idle.length +
      t.gateway.registry.entries.countP fun x => x.2.item = key

theorem Operation.ne_locate_of_edit {op : Operation} {g : Gateway} {now : Instant}
    {x : PoolKey × PoolEdit} (h : op.edit g now = some x) (order : Order) :
    op ≠ .checkout order .locate := by
  rintro rfl
  cases h

theorem Traffic.Reachable.accounts {config : PoolConfig} {t : Traffic} (h : Reachable config t)
    {key : PoolKey} {pool : Pool} (hpool : t.gateway.pool? key = some pool) :
    t.Accounts config key pool := by
  have hinv := h.invariant
  have hbalance := hinv.balance hpool
  have hpoolAt := Gateway.poolAt_of_pool? hpool
  refine ⟨hbalance, ?_, ?_, ?_, fun op _ now reply => op.pool?_resume_untouched hpool, ?_, ?_⟩
  · have hcapacity := hinv.coherent.counted.capacity key
    rw [hpoolAt] at hcapacity
    exact hcapacity
  · have hcapacity := h.founded.capacity key
    rw [hpool] at hcapacity
    obtain ⟨order, hfounder, heq⟩ := Option.map_eq_some_iff.mp hcapacity.symm
    exact ⟨order, hfounder, heq.symm⟩
  · intro op hop now reply e hedit
    obtain ⟨hdeducts, hends⟩ := hinv.covered hpool hop hedit
    refine ⟨?_, hdeducts, ?_, hends, ?_⟩
    · rw [op.pool?_resume (Operation.ne_locate_of_edit hedit), hedit, Gateway.pool?_edited]
      simp [hpool]
    · rw [e.total_apply]
      omega
    · rw [e.probing_apply]
      omega
  · show pool.total - pool.idle.length + pool.idle.length = pool.total
    omega
  · intro hflights
    have hprobing := hinv.coherent.counted.probing key
    rw [hpoolAt, duties, hflights] at hprobing
    have hslots : t.slots key = 0 := by
      rw [slots, hflights]
      rfl
    have hhands := hinv.coherent.tabled.inHands_eq key
    refine ⟨hprobing, ?_⟩
    rw [← hhands]
    rw [hslots, show pool.probing = 0 from hprobing] at hbalance
    exact hbalance

/-- Slot accounting. In every state that a gateway can come to, the accounts of every pool are in
order. And a request that is told that the gateway has no connection for it either gives back the
room it had, because no handle could be issued or the server said so, or it has looked into a pool
all of whose connections are in use at that moment. -/
theorem slot_accounting {config : PoolConfig} {t : Traffic} (h : Traffic.Reachable config t) :
    (∀ key pool, t.gateway.pool? key = some pool → t.Accounts config key pool) ∧
      ∀ order stage now reply message, .checkout order stage ∈ t.flights →
        (Checkout.resume t.gateway now order reply stage).next =
          .done (.error (.poolExhausted message)) →
        stage = .refunding (.poolExhausted message) ∨
          (stage = .inspect ∧ ∃ pool, t.gateway.pool? order.key = some pool ∧ pool.idle = [] ∧
            pool.probing = 0 ∧ pool.total = pool.capacity ∧
            pool.capacity = t.gateway.inHands order.key + t.slots order.key ∧
            message = pool.fullMessage order.key) := by
  refine ⟨fun key pool hpool => h.accounts hpool, ?_⟩
  intro order stage now reply message _ hnext
  rcases Checkout.resume_poolExhausted hnext with hstage | ⟨hstage, pool, hpool, hidle, hprobing,
    hcapacity, hmessage⟩
  · exact .inl hstage
  · have haccounts := h.accounts hpool
    have hbalance := haccounts.balance
    have htotal : pool.total = pool.capacity := Nat.le_antisymm haccounts.within hcapacity
    refine .inr ⟨hstage, pool, hpool, hidle, hprobing, htotal, ?_, hmessage⟩
    rw [hidle, List.length_nil, hprobing] at hbalance
    omega

def fullPoolRun (request : ConnectConfig) : List Traffic.Turn :=
  [.begin (.checkout ⟨1, request⟩ .screen), .resume 0 0 .proceed, .resume 0 0 .proceed,
    .resume 0 0 .proceed, .resume 0 0 (.dialed (.ok 0)), .resume 0 0 .proceed,
    .begin (.checkout ⟨2, request⟩ .screen), .resume 0 0 .proceed, .resume 0 0 .proceed]

theorem slot_accounting_full_pool :
    ∃ t pool, (Traffic.init { maxSize := 1 }).play? (fullPoolRun sampleRequest) = some t ∧
      t.gateway.pool? (.ofConfig sampleRequest) = some pool ∧
      t.Accounts { maxSize := 1 } (.ofConfig sampleRequest) pool ∧ pool.capacity = 1 ∧
      t.gateway.inHands (.ofConfig sampleRequest) + t.slots (.ofConfig sampleRequest) = 1 := by
  have hplay : (Traffic.init { maxSize := 1 }).play? (fullPoolRun sampleRequest) = some
      (((Traffic.init { maxSize := 1 }).play? (fullPoolRun sampleRequest)).get rfl) := rfl
  obtain ⟨haccounts, hexhausted⟩ := slot_accounting (Traffic.reachable_of_play? .refl hplay)
  obtain hstage | ⟨-, pool, hpool, -, -, -, hslots, -⟩ :=
    hexhausted ⟨2, sampleRequest⟩ .inspect 0 .proceed _ (by decide) rfl
  · cases hstage
  · have hcapacity : pool.capacity = 1 :=
      Option.some.inj (congrArg (Option.map Pool.capacity) hpool).symm
    exact ⟨_, pool, hplay, hpool, haccounts _ pool hpool, hcapacity, hslots ▸ hcapacity⟩

end DatabaseGateway
