import DatabaseGateway.Proofs.Pool.Accounting
import DatabaseGateway.Proofs.Pool.Course
import DatabaseGateway.Proofs.Pool.Credentials
import DatabaseGateway.Proofs.Pool.Ledger
import DatabaseGateway.Proofs.Pool.Renewal
import Mathlib.Data.List.DropRight

/-!
How a request is served from beginning to end, when nothing else is under way. It takes the
connections that wait from the one that came back last, closes those that fail their probe, and is
given the first that passes; if none does, one is dialed, as long as there is room. `Served` says
what this comes to for the pool, the table of handles and everything else, and which calls reach the
servers; `checkout_served` is the theorem.

The stages of a request get a lemma each, in the order of their definition. The connections that
fail their probe are the loop of a request, and `runsTo_inspect_failed` is the induction on it: what
is known of the pool behind them is enough for all that follows.
-/

namespace DatabaseGateway

namespace Gateway

def setPool (g : Gateway) (key : PoolKey) (pool : Pool) : Gateway := g.updatePool key fun _ => pool

variable {g : Gateway} {key : PoolKey} {pool pool' : Pool}

theorem pool?_setPool (hpresent : g.pool? key = some pool) :
    (g.setPool key pool').pool? key = some pool' := by
  rw [setPool, pool?_updatePool, if_pos rfl, hpresent, Option.map_some]

theorem updatePool_setPool (f : Pool → Pool) :
    (g.setPool key pool).updatePool key f = g.setPool key (f pool) :=
  updatePool_updatePool g key _ f

theorem setPool_setPool : (g.setPool key pool).setPool key pool' = g.setPool key pool' :=
  updatePool_setPool fun _ => pool'

theorem setPool_self (hnodup : g.keys.Nodup) (hpresent : g.pool? key = some pool) :
    g.setPool key pool = g := by
  refine congrArg (fun pools => { g with pools }) ((List.map_congr_left ?_).trans (List.map_id _))
  rintro ⟨k, p⟩ hmem
  by_cases hhere : k = key
  · subst hhere
    obtain rfl : p = pool := Option.some.inj ((lookup_of_mem hnodup hmem).symm.trans hpresent)
    exact if_pos rfl
  · exact if_neg hhere

def handOut (g : Gateway) (registry : Registry PoolKey) (handle : Handle) (conn : PooledConnection)
    (now : Instant) : Gateway :=
  { g with
    registry
    held := g.held ++ [(handle, { conn with holding := .checkedOut, lastUsed := now })] }

theorem issue_eq_handOut {registry : Registry PoolKey} {owner : InstanceId} {handle : Handle}
    {conn : PooledConnection}
    (hinserted : g.registry.insert owner conn.key = .ok (handle, registry))
    (now : Instant) :
    g.issue owner { conn with holding := .checkedOut, lastUsed := now } =
      .ok (handle, g.handOut registry handle conn now) := by
  unfold issue
  rw [hinserted]
  rfl

end Gateway

/-! ### The stages of a request -/

namespace Checkout

section Stages

variable {f : Forecast} {opened : List Nat} {g : Gateway} {order : Order} {pool : Pool}
  {conn : PooledConnection} {idle : List PooledConnection} {effects : List Effect}
  {after : Instant → Gateway} {result : Operation.Result}

theorem runsTo_screen (hvalid : order.request.validate = .ok ()) (hserving : g.draining = false)
    (hrest : RunsTo f opened (g.ensurePool order.key order.request.poolSize.toNat)
      (.checkout order .inspect) effects after result) :
    RunsTo f opened g (.checkout order .screen) effects after result := by
  have hlocate : RunsTo f opened g (.checkout order .locate) effects after result :=
    .quiet rfl (fun _ => rfl) hrest
  refine .quiet rfl (fun now => ?_) hlocate
  simp [Operation.resume, Checkout.resume, Progress.lift, hvalid, hserving]

theorem runsTo_screen_invalid {e : GatewayError} (hinvalid : order.request.validate = .error e) :
    RunsTo f opened g (.checkout order .screen) [] (fun _ => g) (.error e) := by
  refine .done rfl fun now => ?_
  simp [Operation.resume, Checkout.resume, Progress.lift, hinvalid, Except.map]

theorem runsTo_screen_draining (hvalid : order.request.validate = .ok ())
    (hdraining : g.draining = true) :
    RunsTo f opened g (.checkout order .screen) [] (fun _ => g) (.error drainingError) := by
  refine .done rfl fun now => ?_
  simp [Operation.resume, Checkout.resume, Progress.lift, hvalid, hdraining, Except.map]

/-- The connection that came back last is taken out to be probed. -/
theorem runsTo_inspect_idle (hpresent : g.pool? order.key = some pool)
    (hprobes : g.config.probeOnCheckout = true) (hlast : pool.idle = idle ++ [conn])
    (hrest : RunsTo f opened (g.setPool order.key { pool with idle })
      (.checkout order (.probing conn)) effects after result) :
    RunsTo f opened g (.checkout order .inspect) effects after result := by
  refine .quiet rfl (fun now => ?_) hrest
  simp [Operation.resume, Checkout.resume, Checkout.inspectPool, Progress.lift, hpresent,
    Pool.acquire, hlast, hprobes, Gateway.setPool]

theorem runsTo_inspect_room (hpresent : g.pool? order.key = some pool) (hempty : pool.idle = [])
    (hroom : pool.total < pool.capacity)
    (hrest : RunsTo f opened (g.setPool order.key { pool with total := pool.total + 1 })
      (.checkout order .dialing) effects after result) :
    RunsTo f opened g (.checkout order .inspect) effects after result := by
  refine .quiet rfl (fun now => ?_) hrest
  simp [Operation.resume, Checkout.resume, Checkout.inspectPool, Progress.lift, hpresent,
    Pool.acquire, hempty, hroom, Gateway.setPool]

theorem runsTo_inspect_full (hpresent : g.pool? order.key = some pool) (hempty : pool.idle = [])
    (hfull : pool.capacity ≤ pool.total) (hquiet : pool.probing = 0) :
    RunsTo f opened g (.checkout order .inspect) []
      (fun _ => g.setPool order.key { pool with exhausted := pool.exhausted + 1 })
      (.error (fullError order.key pool)) := by
  refine .done rfl fun now => ?_
  simp [Operation.resume, Checkout.resume, Checkout.inspectPool, Progress.lift, hpresent,
    Pool.acquire, hempty, Nat.not_lt.2 hfull, hquiet, Gateway.setPool, Except.map, fullError]

theorem demand_probing (hhealthy : conn.healthy = true) :
    Operation.demand g (.checkout order (.probing conn)) = .check conn.socket false true := by
  simp [Operation.demand, Checkout.demand, PooledConnection.check, hhealthy]

theorem runsTo_probing_passes (hhealthy : conn.healthy = true)
    (hpasses : f.passes conn.socket = true)
    (hrest : RunsTo f opened g (.checkout order (.entering conn)) effects after result) :
    RunsTo f opened g (.checkout order (.probing conn))
      (.called (.check conn.socket false true) :: effects) after result := by
  have hsettles : f.Settles opened (.check conn.socket false true)
      (.checked (f.passes conn.socket)) := Forecast.settles_check _ _ _
  rw [hpasses] at hsettles
  exact .stage (demand_probing hhealthy) hsettles (fun _ => rfl) fun _ => hrest

/-- A connection that fails its probe is closed and taken off the count, and the pool is looked into
again. -/
theorem runsTo_probing_fails (hhealthy : conn.healthy = true)
    (hfails : f.passes conn.socket = false)
    (hrest : RunsTo f opened (g.updatePool order.key .forget) (.checkout order .inspect) effects
      after result) :
    RunsTo f opened g (.checkout order (.probing conn))
      (.called (.check conn.socket false true) :: .closed conn.socket :: effects) after result := by
  have hsettles : f.Settles opened (.check conn.socket false true)
      (.checked (f.passes conn.socket)) := Forecast.settles_check _ _ _
  rw [hfails] at hsettles
  have hdiscarding : RunsTo f opened g (.checkout order .discarding) effects after result :=
    .quiet rfl (fun _ => rfl) hrest
  exact .stage (demand_probing hhealthy) hsettles (fun _ => rfl) fun _ => hdiscarding

section Handing

variable {handle : Handle} {registry : Registry PoolKey}

theorem runsTo_entering
    (hinserted : g.registry.insert order.owner conn.key = .ok (handle, registry)) :
    RunsTo f opened g (.checkout order (.entering conn)) [] (g.handOut registry handle conn)
      (.ok (.handle handle)) := by
  refine .done rfl fun now => ?_
  simp only [Operation.resume, Checkout.resume, Gateway.issue_eq_handOut hinserted]
  rfl

theorem runsTo_dialing {socket : Nat} (hdialed : f.dialed = .ok socket) (hfresh : socket ∉ opened)
    (hinserted : g.registry.insert order.owner order.key = .ok (handle, registry)) :
    RunsTo f opened g (.checkout order .dialing) [.called (.dial order.key order.request.password)]
      (fun now => g.handOut registry handle { socket, key := order.key, lastUsed := now } now)
      (.ok (.handle handle)) := by
  have hsettles : f.Settles opened (.dial order.key order.request.password) (.dialed f.dialed) := by
    refine Forecast.settles_dial (fun s h => ?_) _ _
    rw [hdialed] at h
    cases h
    exact hfresh
  rw [hdialed] at hsettles
  have hresume : ∀ now, (Operation.checkout order .dialing).resume g now (.dialed (.ok socket)) =
      { gateway := g
        next := .stage (.checkout order (.entering { socket, key := order.key, lastUsed := now })) }
      := fun _ => rfl
  exact .stage rfl hsettles hresume fun _ => runsTo_entering hinserted

theorem runsTo_dialing_error {g₁ : Gateway} {e : GatewayError} (hdialed : f.dialed = .error e)
    (hrefunded : g.updatePool order.key .forget = g₁) :
    RunsTo f opened g (.checkout order .dialing) [.called (.dial order.key order.request.password)]
      (fun _ => g₁) (.error e) := by
  subst hrefunded
  have hsettles : f.Settles opened (.dial order.key order.request.password) (.dialed f.dialed) :=
    Forecast.settles_dial (fun s h => by rw [hdialed] at h; cases h) _ _
  rw [hdialed] at hsettles
  have hresume : ∀ now, (Operation.checkout order .dialing).resume g now (.dialed (.error e)) =
      { gateway := g, next := .stage (.checkout order (.refunding e)) } := fun _ => rfl
  exact .stage rfl hsettles hresume fun _ => .done rfl fun _ => rfl

end Handing

/-! ### Connections that fail their probe -/

def discarded (conn : PooledConnection) : List Effect :=
  [.called (.check conn.socket false true), .closed conn.socket]

/-- The connections that fail their probe are taken off, from the one that came back last. -/
theorem runsTo_inspect_failed {failed : List PooledConnection} {first : Pool}
    (hpresent : g.pool? order.key = some first) (hprobes : g.config.probeOnCheckout = true)
    (hwaits : pool.idle = idle ++ failed) (hhealthy : ∀ c ∈ failed, c.healthy = true)
    (hfails : ∀ c ∈ failed, f.passes c.socket = false)
    (hrest : RunsTo f opened
      (g.setPool order.key { pool with idle, total := pool.total - failed.length })
      (.checkout order .inspect) effects after result) :
    RunsTo f opened (g.setPool order.key pool) (.checkout order .inspect)
      (failed.reverse.flatMap discarded ++ effects) after result := by
  induction failed using List.reverseRecOn generalizing pool with
  | nil =>
      obtain rfl : pool.idle = idle := by simpa using hwaits
      exact hrest
  | append_singleton failed conn ih =>
      obtain ⟨hhealthy, hhealthy'⟩ := List.forall_mem_append.1 hhealthy
      obtain ⟨hfails, hfails'⟩ := List.forall_mem_append.1 hfails
      rw [← List.append_assoc] at hwaits
      rw [List.length_append, List.length_singleton, Nat.add_comm, ← Nat.sub_sub] at hrest
      rw [List.reverse_append, List.reverse_singleton, List.singleton_append]
      have hlater := @ih { pool with idle := idle ++ failed, total := pool.total - 1 } rfl
        hhealthy hfails hrest
      refine runsTo_inspect_idle (Gateway.pool?_setPool hpresent) hprobes hwaits
        (runsTo_probing_fails (hhealthy' conn (List.mem_singleton_self _))
          (hfails' conn (List.mem_singleton_self _)) ?_)
      rw [Gateway.setPool_setPool, Gateway.updatePool_setPool]
      exact hlater

end Stages

end Checkout

/-! ### What a request finds -/

/-- The connections of a pool that fail their probe and have come back after the last one that
passes. -/
def Pool.failing (pool : Pool) (f : Forecast) : List PooledConnection :=
  pool.idle.rtakeWhile fun conn => !f.passes conn.socket

/-- A pool of which no operation has a connection in its hands. -/
structure Pool.AtRest (pool : Pool) (key : PoolKey) : Prop where
  probing : pool.probing = 0
  counted : pool.idle.length ≤ pool.total
  within : pool.total ≤ pool.capacity
  key_eq : ∀ conn ∈ pool.idle, conn.key = key
  healthy : ∀ conn ∈ pool.idle, conn.healthy = true

namespace Pool

variable {pool : Pool} {f : Forecast} {conn : PooledConnection}

theorem fails_of_mem_failing (hmem : conn ∈ pool.failing f) : f.passes conn.socket = false := by
  simpa using List.mem_rtakeWhile_imp hmem

theorem mem_idle_of_mem_failing (hmem : conn ∈ pool.failing f) : conn ∈ pool.idle :=
  (List.rtakeWhile_suffix _ _).subset hmem

theorem AtRest.length_failing_le {key : PoolKey} (hatRest : pool.AtRest key) (f : Forecast) :
    (pool.failing f).length ≤ pool.total :=
  (List.rtakeWhile_suffix _ _).length_le.trans hatRest.counted

theorem failing_eq_idle (hfails : ∀ conn ∈ pool.idle, f.passes conn.socket = false) :
    pool.failing f = pool.idle :=
  List.rtakeWhile_eq_self_iff.2 fun conn hmem => by rw [hfails conn hmem]; rfl

/-- The last that passes stands between those that have come back before it and those that fail. -/
theorem exists_idle_eq (hpasses : ∃ conn ∈ pool.idle, f.passes conn.socket = true) :
    ∃ older conn, pool.idle = older ++ conn :: pool.failing f ∧ f.passes conn.socket = true := by
  let fails : PooledConnection → Bool := fun conn => !f.passes conn.socket
  have hleft : pool.idle.rdropWhile fails ≠ [] := by
    obtain ⟨conn, hmem, hpasses⟩ := hpasses
    intro hempty
    simpa [fails, hpasses] using List.rdropWhile_eq_nil_iff.1 hempty conn hmem
  have hlast := List.rdropWhile_last_not fails pool.idle hleft
  refine ⟨(pool.idle.rdropWhile fails).dropLast, (pool.idle.rdropWhile fails).getLast hleft, ?_,
    by simpa [fails] using hlast⟩
  rw [List.append_cons, List.dropLast_append_getLast hleft]
  exact List.rdropWhile_append_rtakeWhile.symm

end Pool

namespace Traffic

variable {config : PoolConfig} {t : Traffic} {key : PoolKey} {pool : Pool}

theorem Reachable.pool_atRest (h : Reachable config t) (halone : t.flights = [])
    (hpresent : t.gateway.pool? key = some pool) : pool.AtRest key where
  probing := ((h.accounts hpresent).quiet halone).1
  counted := by
    rw [((h.accounts hpresent).quiet halone).2]
    exact Nat.le_add_right _ _
  within := (h.accounts hpresent).within
  key_eq := h.invariant.coherent.keyed.idle key pool hpresent
  healthy conn hmem := (h.tended.idle key pool hpresent conn hmem).2.1

theorem Reachable.exists_pool_atRest (h : Reachable config t) (halone : t.flights = [])
    (key : PoolKey) (size : Nat) :
    ∃ pool, (t.gateway.ensurePool key size).pool? key = some pool ∧ pool.AtRest key := by
  rw [Gateway.pool?_ensurePool, if_pos rfl]
  cases hpresent : t.gateway.pool? key with
  | some pool => exact ⟨pool, rfl, h.pool_atRest halone hpresent⟩
  | none => exact ⟨_, rfl, rfl, Nat.le_refl _, Nat.zero_le _, by simp, by simp⟩

/-- The table has room for one more handle, which has not been issued before. -/
theorem Reachable.exists_insert (h : Reachable config t)
    (hslots : t.gateway.registry.size < Handle.slotBound)
    (hgenerations : t.gateway.registry.nextGeneration < Handle.generationBound)
    (owner : InstanceId) (key : PoolKey) :
    ∃ handle registry, handle ∉ t.issued ∧
      t.gateway.registry.insert owner key = .ok (handle, registry) := by
  have hsound := h.invariant.coherent.tabled.sound
  rw [hsound.size_eq] at hslots
  rcases hsound.insert_eq owner key with
    ⟨hused, -⟩ | ⟨-, htaken, -⟩ | ⟨-, -, ⟨handle, registry⟩, hok⟩
  · exact absurd hgenerations (Nat.not_lt.2 hused)
  · exact absurd hslots (Nat.not_lt.2 htaken)
  · refine ⟨handle, registry, fun hissued => ?_, hok⟩
    have holder := h.ledger.generation handle hissued
    rw [hsound.insert_generation hok] at holder
    exact Nat.lt_irrefl _ holder

end Traffic

/-- A pool that has just been made has room. So one that is full has been there before. -/
theorem Gateway.ensurePool_of_full {g : Gateway} {key : PoolKey} {size : Nat} {pool : Pool}
    (hpresent : (g.ensurePool key size).pool? key = some pool) (hfull : pool.total = pool.capacity)
    (hroom : 0 < min size g.config.maxSize) : g.ensurePool key size = g := by
  rw [pool?_ensurePool, if_pos rfl] at hpresent
  cases hfound : g.pool? key with
  | some old =>
      unfold ensurePool
      rw [hfound]
  | none =>
      rw [hfound] at hpresent
      cases hpresent
      exact absurd hfull (Nat.ne_of_lt hroom)

/-! ### The courses of a request -/

/-- A request comes to this, and to nothing else. -/
def Traffic.Serves (t : Traffic) (order : Order) (f : Forecast) (effects : List Effect)
    (after : Instant → Gateway) (result : Operation.Result) : Prop :=
  RunsTo f t.opened t.gateway (.checkout order .screen) effects after result

/-- What a request comes to that finds this pool in this state. -/
structure Served (t : Traffic) (order : Order) (f : Forecast) (g : Gateway) (pool : Pool) :
    Prop where
  /-- Connections that fail have been counted: no subtraction below is cut down. -/
  counted : (pool.failing f).length ≤ pool.total
  within : pool.total ≤ pool.capacity
  /-- If one passes, it is handed out; those before it stay as they are. -/
  reused : (∃ conn ∈ pool.idle, f.passes conn.socket = true) →
    ∃ older conn handle registry, pool.idle = older ++ conn :: pool.failing f ∧
      f.passes conn.socket = true ∧ handle ∉ t.issued ∧
      t.gateway.registry.insert order.owner order.key = .ok (handle, registry) ∧
      t.Serves order f
        ((pool.failing f).reverse.flatMap Checkout.discarded ++
          [.called (.check conn.socket false true)])
        ((g.setPool order.key
          { pool with idle := older, total := pool.total - (pool.failing f).length }).handOut
            registry handle conn)
        (.ok (.handle handle))
  /-- If none passes and there is room, one is dialed, once. -/
  connected : (∀ conn ∈ pool.idle, f.passes conn.socket = false) →
    pool.failing f ≠ [] ∨ pool.total < pool.capacity →
    ∀ socket, f.dialed = .ok socket → socket ∉ t.opened → ∃ handle registry, handle ∉ t.issued ∧
      t.gateway.registry.insert order.owner order.key = .ok (handle, registry) ∧
      t.Serves order f
        ((pool.failing f).reverse.flatMap Checkout.discarded ++
          [.called (.dial order.key order.request.password)])
        (fun now => (g.setPool order.key
          { pool with idle := [], total := pool.total - (pool.failing f).length + 1 }).handOut
            registry handle { socket, key := order.key, lastUsed := now } now)
        (.ok (.handle handle))
  /-- If the dial fails, the request fails with it, and its room is given back. -/
  refused : (∀ conn ∈ pool.idle, f.passes conn.socket = false) →
    pool.failing f ≠ [] ∨ pool.total < pool.capacity → ∀ e, f.dialed = .error e →
      t.Serves order f
        ((pool.failing f).reverse.flatMap Checkout.discarded ++
          [.called (.dial order.key order.request.password)])
        (fun _ => g.setPool order.key
          { pool with idle := [], total := pool.total - (pool.failing f).length })
        (.error e)
  /-- A full pool turns the request away, and counts that. -/
  turnedAway : pool.idle = [] → pool.total = pool.capacity →
    g = t.gateway ∧ (Checkout.fullError order.key pool).kind = .poolExhausted ∧
      t.Serves order f []
        (fun _ => t.gateway.setPool order.key { pool with exhausted := pool.exhausted + 1 })
        (.error (Checkout.fullError order.key pool))

namespace Checkout

section Courses

variable {f : Forecast} {opened : List Nat} {g : Gateway} {order : Order} {pool : Pool}
  {idle : List PooledConnection} {effects : List Effect} {after : Instant → Gateway}
  {result : Operation.Result} {handle : Handle} {registry : Registry PoolKey}
  (hnodup : g.keys.Nodup) (hpresent : g.pool? order.key = some pool)
  (hatRest : pool.AtRest order.key)
  (hprobes : g.config.probeOnCheckout = true)

include hnodup hpresent hatRest hprobes

/-- Up to the first connection that passes, if any, a request has one course. -/
theorem runsTo_inspect_failing (hwaits : pool.idle = idle ++ pool.failing f)
    (hlater : RunsTo f opened
      (g.setPool order.key { pool with idle, total := pool.total - (pool.failing f).length })
      (.checkout order .inspect) effects after result) :
    RunsTo f opened g (.checkout order .inspect)
      ((pool.failing f).reverse.flatMap discarded ++ effects) after result := by
  have hrun := runsTo_inspect_failed hpresent hprobes hwaits
    (fun conn hmem => hatRest.healthy conn (Pool.mem_idle_of_mem_failing hmem))
    (fun conn => Pool.fails_of_mem_failing) hlater
  rwa [Gateway.setPool_self hnodup hpresent] at hrun

theorem runsTo_inspect_reused {older : List PooledConnection} {conn : PooledConnection}
    (hwaits : pool.idle = older ++ conn :: pool.failing f) (hpasses : f.passes conn.socket = true)
    (hinserted : g.registry.insert order.owner order.key = .ok (handle, registry)) :
    RunsTo f opened g (.checkout order .inspect)
      ((pool.failing f).reverse.flatMap discarded ++ [.called (.check conn.socket false true)])
      ((g.setPool order.key
        { pool with idle := older, total := pool.total - (pool.failing f).length }).handOut
          registry handle conn)
      (.ok (.handle handle)) := by
  have hmem : conn ∈ pool.idle := by simp [hwaits]
  rw [← hatRest.key_eq conn hmem] at hinserted
  rw [List.append_cons] at hwaits
  refine runsTo_inspect_failing hnodup hpresent hatRest hprobes hwaits
    (runsTo_inspect_idle (Gateway.pool?_setPool hpresent) hprobes rfl
      (runsTo_probing_passes (hatRest.healthy conn hmem) hpasses ?_))
  rw [Gateway.setPool_setPool]
  exact runsTo_entering hinserted

section Dialing

variable (hfails : ∀ conn ∈ pool.idle, f.passes conn.socket = false)
  (hroom : pool.failing f ≠ [] ∨ pool.total < pool.capacity)

include hfails hroom

theorem runsTo_inspect_none
    (hlater : RunsTo f opened
      (g.setPool order.key
        { pool with idle := [], total := pool.total - (pool.failing f).length + 1 })
      (.checkout order .dialing) effects after result) :
    RunsTo f opened g (.checkout order .inspect)
      ((pool.failing f).reverse.flatMap discarded ++ effects) after result := by
  have hwaits : pool.idle = [] ++ pool.failing f := (Pool.failing_eq_idle hfails).symm
  refine runsTo_inspect_failing hnodup hpresent hatRest hprobes hwaits
    (runsTo_inspect_room (Gateway.pool?_setPool hpresent) rfl ?_ ?_)
  · have hcounted := hatRest.length_failing_le f
    have hwithin := hatRest.within
    rcases hroom with hfewer | hroom
    · have hfewer := List.length_pos_iff.2 hfewer
      show pool.total - (pool.failing f).length < pool.capacity
      omega
    · exact (Nat.sub_le _ _).trans_lt hroom
  · rw [Gateway.setPool_setPool]
    exact hlater

theorem runsTo_inspect_connected {socket : Nat} (hdialed : f.dialed = .ok socket)
    (hfresh : socket ∉ opened)
    (hinserted : g.registry.insert order.owner order.key = .ok (handle, registry)) :
    RunsTo f opened g (.checkout order .inspect)
      ((pool.failing f).reverse.flatMap discarded ++
        [.called (.dial order.key order.request.password)])
      (fun now => (g.setPool order.key
        { pool with idle := [], total := pool.total - (pool.failing f).length + 1 }).handOut
          registry handle { socket, key := order.key, lastUsed := now } now)
      (.ok (.handle handle)) :=
  runsTo_inspect_none hnodup hpresent hatRest hprobes hfails hroom
    (runsTo_dialing hdialed hfresh hinserted)

theorem runsTo_inspect_refused {e : GatewayError} (hdialed : f.dialed = .error e) :
    RunsTo f opened g (.checkout order .inspect)
      ((pool.failing f).reverse.flatMap discarded ++
        [.called (.dial order.key order.request.password)])
      (fun _ => g.setPool order.key
        { pool with idle := [], total := pool.total - (pool.failing f).length })
      (.error e) := by
  refine runsTo_inspect_none hnodup hpresent hatRest hprobes hfails hroom
    (runsTo_dialing_error hdialed ?_)
  exact Gateway.updatePool_setPool _

end Dialing

end Courses

end Checkout

/-- Serving a request. Nothing else is under way, and the world replies within the deadlines, so
that a request has one course. A faulty request is refused, whatever the gateway does, and every
request is refused once the gateway drains; no pool is made for them. Any other request finds its
pool, or one that is made for it, and is served from there as `Served` says. -/
theorem checkout_served {config : PoolConfig} {t : Traffic} (h : Traffic.Reachable config t)
    (halone : t.flights = []) (order : Order) (f : Forecast) :
    (∀ e, order.request.validate = .error e →
      e.kind = .invalidConfig ∧ t.Serves order f [] (fun _ => t.gateway) (.error e)) ∧
    (order.request.validate = .ok () → t.gateway.draining = true →
      Checkout.drainingError.kind = .connectionRefused ∧
        t.Serves order f [] (fun _ => t.gateway) (.error Checkout.drainingError)) ∧
    (order.request.validate = .ok () → t.gateway.draining = false →
      0 < config.maxSize → config.probeOnCheckout = true →
      t.gateway.registry.size < Handle.slotBound →
      t.gateway.registry.nextGeneration < Handle.generationBound →
      ∃ g pool, g = t.gateway.ensurePool order.key order.request.poolSize.toNat ∧
        g.pool? order.key = some pool ∧ Served t order f g pool) := by
  refine ⟨fun e hinvalid => ⟨?_, Checkout.runsTo_screen_invalid hinvalid⟩,
    fun hvalid hdraining => ⟨rfl, Checkout.runsTo_screen_draining hvalid hdraining⟩,
    fun hvalid hserving hceiling hprobes hslots hgenerations => ?_⟩
  · unfold ConnectConfig.validate at hinvalid
    split at hinvalid <;> cases hinvalid
    rfl
  obtain ⟨pool, hpresent, hatRest⟩ :=
    h.exists_pool_atRest halone order.key order.request.poolSize.toNat
  obtain ⟨handle, registry, hunissued, hinserted⟩ :=
    h.exists_insert hslots hgenerations order.owner order.key
  have hnodup : (t.gateway.ensurePool order.key order.request.poolSize.toNat).keys.Nodup :=
    Gateway.nodup_keys_ensurePool h.invariant.coherent.keyed.keys _
  rw [← h.founded.config_eq] at hceiling hprobes
  rw [← Gateway.config_ensurePool t.gateway order.key order.request.poolSize.toNat] at hprobes
  have hinserted' := hinserted
  rw [← Gateway.registry_ensurePool t.gateway order.key order.request.poolSize.toNat] at hinserted'
  refine ⟨_, pool, rfl, hpresent, hatRest.length_failing_le f, hatRest.within, ?_, ?_, ?_, ?_⟩
  · intro hone
    obtain ⟨older, conn, hwaits, hpasses⟩ := Pool.exists_idle_eq hone
    exact ⟨older, conn, handle, registry, hwaits, hpasses, hunissued, hinserted,
      Checkout.runsTo_screen hvalid hserving
        (Checkout.runsTo_inspect_reused hnodup hpresent hatRest hprobes hwaits hpasses hinserted')⟩
  · intro hfails hroom socket hdialed hfresh
    exact ⟨handle, registry, hunissued, hinserted, Checkout.runsTo_screen hvalid hserving
      (Checkout.runsTo_inspect_connected hnodup hpresent hatRest hprobes hfails hroom hdialed hfresh
        hinserted')⟩
  · intro hfails hroom e hdialed
    exact Checkout.runsTo_screen hvalid hserving
      (Checkout.runsTo_inspect_refused hnodup hpresent hatRest hprobes hfails hroom hdialed)
  · intro hempty hfull
    have hthere := Gateway.ensurePool_of_full hpresent hfull ?_
    · refine ⟨hthere, rfl, Checkout.runsTo_screen hvalid hserving ?_⟩
      rw [hthere] at hpresent ⊢
      exact Checkout.runsTo_inspect_full hpresent hempty hfull.ge hatRest.probing
    · exact Nat.lt_min.2 ⟨ConnectConfig.poolSize_pos hvalid, hceiling⟩

/-- Two guests have got a connection each and have given it back. -/
def twoWaitingRun : List Traffic.Turn :=
  [.begin (.checkout ⟨1, sampleRequest⟩ .screen), .resume 0 0 .proceed, .resume 0 0 .proceed,
    .resume 0 0 .proceed, .resume 0 0 (.dialed (.ok 0)), .resume 0 0 .proceed,
    .begin (.checkout ⟨2, sampleRequest⟩ .screen), .resume 0 0 .proceed, .resume 0 0 .proceed,
    .resume 0 0 .proceed, .resume 0 0 (.dialed (.ok 1)), .resume 0 0 .proceed,
    .begin (.release (Handle.make 0 1)), .resume 0 0 .proceed, .resume 0 0 .proceed,
    .resume 0 0 .proceed, .resume 0 0 (.checked true), .resume 0 0 .proceed,
    .begin (.release (Handle.make 1 2)), .resume 0 0 .proceed, .resume 0 0 .proceed,
    .resume 0 0 .proceed, .resume 0 0 (.checked true), .resume 0 0 .proceed]

/-- The connection that came back last is dead, and the next guest gets the other one. -/
theorem checkout_served_older :
    ∃ t t' after, (Traffic.init {}).play? twoWaitingRun = some t ∧
      t.gateway.pools.map (·.2.idle.map (·.socket)) = [[0, 1]] ∧
      t.Serves ⟨3, sampleRequest⟩ ⟨(· == 0), .ok 2⟩
        [.called (.check 1 false true), .closed 1, .called (.check 0 false true)] after
        (.ok (.handle (Handle.make 1 3))) ∧
      Traffic.Reachable {} t' ∧ t'.gateway = after 7 ∧ t'.flights = [] ∧
      (after 7).pools.map (·.2.stats) = [{ active := 1, idle := 0, total := 1 }] ∧
      (after 7).held.map (fun (handle, conn) => (handle, conn.socket)) =
        [(Handle.make 1 3, 0)] := by
  have hplay : (Traffic.init {}).play? twoWaitingRun =
      some (((Traffic.init {}).play? twoWaitingRun).get rfl) := rfl
  have hreachable := Traffic.reachable_of_play? .refl hplay
  obtain ⟨-, -, hserves⟩ := checkout_served hreachable rfl ⟨3, sampleRequest⟩ ⟨(· == 0), .ok 2⟩
  obtain ⟨g, pool, rfl, hpresent, hserved⟩ :=
    hserves rfl rfl (by decide) rfl (by decide) (by decide)
  let older : PooledConnection := { socket := 0, key := .ofConfig sampleRequest, lastUsed := 0 }
  let newer : PooledConnection := { socket := 1, key := .ofConfig sampleRequest, lastUsed := 0 }
  obtain rfl : { capacity := 10, idle := [older, newer], total := 2 } = pool :=
    Option.some.inj hpresent
  obtain ⟨before, conn, handle, registry, hwaits, -, -, hinserted, hrun⟩ :=
    hserved.reused ⟨older, by simp, rfl⟩
  have hfirst := congrArg (Except.map Prod.fst) hinserted
  cases hfirst
  obtain ⟨rfl, hsame⟩ := List.append_inj' (show [] ++ [older, newer] = before ++ [conn, newer] from
    hwaits) rfl
  cases hsame
  have hinitial : Operation.Initial (.checkout ⟨3, sampleRequest⟩ .screen) := .call (.checkout _)
  obtain ⟨t', hreachable', hgateway, hflights⟩ := hrun.reachable hreachable rfl hinitial 7
  exact ⟨_, t', _, hplay, rfl, hrun, hreachable', hgateway, hflights, rfl, rfl⟩

end DatabaseGateway
