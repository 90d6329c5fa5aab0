import DatabaseGateway.Proofs.Pool.Service
import DatabaseGateway.Proofs.Pool.Transcript

/-!
What maintenance does, when nothing else is under way. Reaping and sweeping both leave a part of the
connections that wait and take the others out: `Gateway.retain` is all that happens to the state,
and only the test for what stays differs. A connection stays in a reaping if it has not waited for
too long, and in a sweep if it passes its probe.

A sweep takes the connections of a pool out at the front and puts those that pass back at the end,
as many times as there were connections when it came to the pool. `runsTo_pick` is the induction on
these rounds: the connections that are still to be probed stand in front of those that have passed.
Both operations go through the pools in the same way, with those that are done in front of those
that are to be done.
-/

namespace DatabaseGateway

/-- The connections that wait and do not stay are taken out of a pool, and off its count. -/
def Pool.retain (pool : Pool) (stays : PooledConnection → Bool) : Pool :=
  { pool with
    idle := pool.idle.filter stays
    total := pool.total - (pool.idle.filter fun conn => !stays conn).length }

namespace Gateway

/-- The connections that wait, pool by pool, the first one of a pool the longest. -/
def waiting (g : Gateway) : List PooledConnection := g.pools.flatMap (·.2.idle)

def retain (g : Gateway) (stays : PooledConnection → Bool) : Gateway :=
  { g with pools := g.pools.map fun x => (x.1, x.2.retain stays) }

/-- No connection is on its way anywhere, and connections are handed out. -/
structure AtRest (g : Gateway) : Prop where
  serving : g.draining = false
  keys : g.keys.Nodup
  pools : ∀ x ∈ g.pools, x.2.AtRest x.1
  distinct : (g.waiting.map (·.socket)).Nodup

end Gateway

/-- A connection has not waited for too long yet, at the time at which its pool is looked at. -/
def PooledConnection.fresh (timeout : Duration) (clock : PoolKey → Instant)
    (conn : PooledConnection) : Bool :=
  !Pool.expired (clock conn.key) timeout conn

def Forecast.spares (f : Forecast) (conn : PooledConnection) : Bool := f.passes conn.socket

def Sweep.probed (f : Forecast) (conn : PooledConnection) : List Effect :=
  .called (.check conn.socket false true) :: if f.spares conn then [] else [.closed conn.socket]

/-- Sweeps, one after the other, each with its own replies. No connection is opened in them. -/
inductive Swept (opened : List Nat) : Gateway → List Effect → Gateway → Prop
  | none {g : Gateway} : Swept opened g [] g
  | more {g g₁ g' : Gateway} {f : Forecast} {effects effects' : List Effect}
      {result : Operation.Result} (sweep : Runs f opened g (.sweep 0 .survey) effects g₁ result)
      (rest : Swept opened g₁ effects' g') : Swept opened g (effects ++ effects') g'

/-! ### What stays -/

namespace Pool

variable {pool : Pool} {key : PoolKey} {stays : PooledConnection → Bool}

/-- The count goes down by the connections that are taken out. -/
theorem AtRest.total_retain (h : pool.AtRest key) (stays : PooledConnection → Bool) :
    (pool.retain stays).total + (pool.idle.filter fun conn => !stays conn).length = pool.total := by
  have hsplit := List.length_eq_length_filter_add stays (l := pool.idle)
  have hcounted := h.counted
  simp only [retain]
  omega

theorem AtRest.retain (h : pool.AtRest key) (stays : PooledConnection → Bool) :
    (pool.retain stays).AtRest key where
  probing := h.probing
  counted := by
    have hsplit := List.length_eq_length_filter_add stays (l := pool.idle)
    have hcounted := h.counted
    simp only [Pool.retain]
    omega
  within := (Nat.sub_le _ _).trans h.within
  key_eq conn hmem := h.key_eq conn (List.mem_of_mem_filter hmem)
  healthy conn hmem := h.healthy conn (List.mem_of_mem_filter hmem)

end Pool

namespace Gateway

variable {g : Gateway} {stays stays' : PooledConnection → Bool}

theorem waiting_retain : (g.retain stays).waiting = g.waiting.filter stays := by
  simp [waiting, retain, Pool.retain, List.flatMap_map, List.filter_flatMap]

@[simp] theorem keys_retain : (g.retain stays).keys = g.keys := by
  simp [keys, retain]

theorem AtRest.retain (h : g.AtRest) (stays : PooledConnection → Bool) :
    (g.retain stays).AtRest where
  serving := h.serving
  keys := by
    rw [keys_retain]
    exact h.keys
  pools x hmem := by
    obtain ⟨y, hthere, rfl⟩ := List.mem_map.1 hmem
    exact (h.pools y hthere).retain stays
  distinct := by
    rw [waiting_retain]
    exact h.distinct.sublist (List.filter_sublist.map _)

theorem pool?_of_pools {before after : List (PoolKey × Pool)} {key : PoolKey} {pool : Pool}
    (hkeys : g.keys.Nodup) (hpools : g.pools = before ++ (key, pool) :: after) :
    g.pool? key = some pool :=
  lookup_of_mem hkeys (by simp [hpools])

/-- A pool is replaced where it stands. -/
theorem setPool_of_pools {before after : List (PoolKey × Pool)} {key : PoolKey} {pool : Pool}
    (hkeys : g.keys.Nodup) (hpools : g.pools = before ++ (key, pool) :: after) (pool' : Pool) :
    g.setPool key pool' = { g with pools := before ++ (key, pool') :: after } := by
  have hapart : ∀ x ∈ before ++ after, x.1 ≠ key := by
    rw [Gateway.keys, hpools, List.map_append, List.map_cons] at hkeys
    have honce := (List.nodup_middle.1 hkeys).notMem
    rw [← List.map_append] at honce
    intro x hmem hhere
    exact honce (List.mem_map.2 ⟨x, hmem, hhere⟩)
  have hsame : ∀ l ⊆ before ++ after,
      l.map (fun x : PoolKey × Pool => if x.1 = key then (x.1, pool') else (x.1, x.2)) = l := by
    intro l hsub
    refine (List.map_congr_left fun x hmem => ?_).trans (List.map_id l)
    exact if_neg (hapart x (hsub hmem))
  unfold setPool updatePool
  rw [hpools, List.map_append, List.map_cons, hsame before (List.subset_append_left _ _),
    hsame after (List.subset_append_right _ _)]
  simp

end Gateway

theorem Traffic.Reachable.atRest {config : PoolConfig} {t : Traffic}
    (h : Traffic.Reachable config t) (halone : t.flights = [])
    (hserving : t.gateway.draining = false) :
    t.gateway.AtRest where
  serving := hserving
  keys := h.invariant.coherent.keyed.keys
  pools x hmem := h.pool_atRest halone (lookup_of_mem h.invariant.coherent.keyed.keys hmem)
  distinct := by
    have hnodup :
        (↑(t.gateway.pools.flatMap fun x => x.2.idle.map (·.socket)) : Multiset Nat).Nodup :=
      h.invariant.placed_nodup.1.1
    rw [Multiset.coe_nodup] at hnodup
    rwa [Gateway.waiting, List.map_flatMap]

/-! ### A sweep -/

namespace Sweep

variable {f : Forecast} {opened : List Nat} {g : Gateway} {key : PoolKey} {first pool : Pool}
  {conn : PooledConnection} {removed rounds : Nat} {keys : List PoolKey} {effects : List Effect}
  {after : Instant → Gateway} {result : Operation.Result}

theorem runsTo_pick_conn {idle : List PooledConnection} (hpresent : g.pool? key = some pool)
    (hwaits : pool.idle = conn :: idle)
    (hrest : RunsTo f opened (g.setPool key { pool with idle, probing := pool.probing + 1 })
      (.sweep removed (.probing conn key rounds keys)) effects after result) :
    RunsTo f opened g (.sweep removed (.pick key (rounds + 1) keys)) effects after result := by
  refine .quiet rfl (fun now => ?_) hrest
  simp [Operation.resume, Sweep.resume, Progress.lift, hpresent, Pool.beginProbe, hwaits,
    Gateway.setPool]

theorem demand_probing (hhealthy : conn.healthy = true) :
    Operation.demand g (.sweep removed (.probing conn key rounds keys)) =
      .check conn.socket false true := by
  simp [Operation.demand, Sweep.demand, PooledConnection.check, hhealthy]

/-- A connection that passes its probe is put back at the end. -/
theorem runsTo_probing_passes (hhealthy : conn.healthy = true) (hserving : g.draining = false)
    (hpasses : f.spares conn = true)
    (hrest : RunsTo f opened (g.updatePool key (·.endProbe.park conn))
      (.sweep removed (.pick key rounds keys)) effects after result) :
    RunsTo f opened g (.sweep removed (.probing conn key rounds keys))
      (.called (.check conn.socket false true) :: effects) after result := by
  have hsettles : f.Settles opened (.check conn.socket false true)
      (.checked (f.spares conn)) := Forecast.settles_check _ _ _
  rw [hpasses] at hsettles
  have hsettling : RunsTo f opened g (.sweep removed (.settling (some conn) key rounds keys))
      effects after result := by
    refine .notifying rfl (fun now => ?_) hrest
    simp [Operation.resume, Sweep.resume, Progress.lift, hserving]
  exact .stage (demand_probing hhealthy) hsettles (fun _ => rfl) fun _ => hsettling

/-- A connection that fails its probe is closed, taken off the count, and counted as removed. -/
theorem runsTo_probing_fails (hhealthy : conn.healthy = true) (hfails : f.spares conn = false)
    (hrest : RunsTo f opened (g.updatePool key (·.endProbe.forget))
      (.sweep (removed + 1) (.pick key rounds keys)) effects after result) :
    RunsTo f opened g (.sweep removed (.probing conn key rounds keys))
      (.called (.check conn.socket false true) :: .closed conn.socket :: effects) after result := by
  have hsettles : f.Settles opened (.check conn.socket false true)
      (.checked (f.spares conn)) := Forecast.settles_check _ _ _
  rw [hfails] at hsettles
  have hsettling : RunsTo f opened g (.sweep removed (.settling none key rounds keys))
      effects after result :=
    .notifying rfl (fun _ => rfl) hrest
  exact .stage (demand_probing hhealthy) hsettles (fun _ => rfl) fun _ => hsettling

/-- The rounds in one pool. The connections that have passed wait behind those that are still to be
probed. -/
theorem runsTo_pick {first : Pool} {waiting kept : List PooledConnection}
    (hpresent : g.pool? key = some first) (hserving : g.draining = false)
    (hhealthy : ∀ c ∈ waiting, c.healthy = true) (hwaits : pool.idle = waiting ++ kept)
    (hrest : RunsTo f opened
      (g.setPool key { pool with
        idle := kept ++ waiting.filter f.spares
        total := pool.total - (waiting.filter fun conn => !f.spares conn).length })
      (.sweep (removed + (waiting.filter fun conn => !f.spares conn).length) (.enter keys))
      effects after result) :
    RunsTo f opened (g.setPool key pool) (.sweep removed (.pick key waiting.length keys))
      (waiting.flatMap (probed f) ++ effects) after result := by
  induction waiting generalizing pool kept removed with
  | nil =>
      obtain rfl : pool.idle = kept := hwaits
      rw [List.filter_nil, List.append_nil] at hrest
      exact .quiet rfl (fun _ => rfl) hrest
  | cons conn waiting ih =>
      obtain ⟨hhere, hlater⟩ := List.forall_mem_cons.1 hhealthy
      refine runsTo_pick_conn (Gateway.pool?_setPool hpresent) hwaits ?_
      rw [Gateway.setPool_setPool, List.flatMap_cons, probed]
      by_cases hpasses : f.spares conn
      · rw [List.filter_cons_of_pos hpasses, List.filter_cons_of_neg (by simpa using hpasses),
          List.append_cons] at hrest
        rw [if_pos hpasses]
        refine runsTo_probing_passes hhere hserving hpasses ?_
        rw [Gateway.updatePool_setPool]
        exact @ih { pool with idle := waiting ++ kept ++ [conn] } removed (kept ++ [conn]) hlater
          (List.append_assoc _ _ _) hrest
      · rw [List.filter_cons_of_neg hpasses, List.filter_cons_of_pos (by simpa using hpasses),
          List.length_cons, Nat.add_comm _ 1, ← Nat.add_assoc, ← Nat.sub_sub] at hrest
        rw [if_neg hpasses]
        refine runsTo_probing_fails hhere (by simpa using hpasses) ?_
        rw [Gateway.updatePool_setPool]
        exact @ih { pool with idle := waiting ++ kept, total := pool.total - 1 } (removed + 1) kept
          hlater rfl hrest

/-- The pools that are still to be swept, behind those that have been. -/
theorem runsTo_enter {before todo : List (PoolKey × Pool)} (hserving : g.draining = false)
    (hnodup : g.keys.Nodup) (hpools : g.pools = before ++ todo)
    (hatRest : ∀ x ∈ todo, x.2.AtRest x.1) :
    RunsTo f opened g (.sweep removed (.enter (todo.map (·.1))))
      ((todo.flatMap (·.2.idle)).flatMap (probed f))
      (fun _ => { g with
        pools := before ++ todo.map fun x => (x.1, x.2.retain f.spares) })
      (.ok (.count (removed +
        ((todo.flatMap (·.2.idle)).filter fun conn => !f.spares conn).length))) := by
  induction todo generalizing g before removed with
  | nil =>
      rw [List.append_nil] at hpools
      simp only [List.map_nil, List.append_nil, ← hpools]
      exact .done rfl fun _ => rfl
  | cons x todo ih =>
      obtain ⟨key, pool⟩ := x
      obtain ⟨hhere, hlater⟩ := List.forall_mem_cons.1 hatRest
      have hpresent := Gateway.pool?_of_pools hnodup hpools
      have hswept := Gateway.setPool_of_pools hnodup hpools (pool.retain f.spares)
      rw [List.append_cons] at hswept
      have hkeys : (g.setPool key (pool.retain f.spares)).keys.Nodup := by
        rw [Gateway.setPool, Gateway.keys_updatePool]
        exact hnodup
      have hrest := @ih (g.setPool key (pool.retain f.spares))
        (removed + (pool.idle.filter fun conn => !f.spares conn).length)
        (before ++ [(key, pool.retain f.spares)]) hserving hkeys (by rw [hswept]) hlater
      have hpick := runsTo_pick hpresent hserving hhere.healthy (List.append_nil _).symm hrest
      rw [Gateway.setPool_self hnodup hpresent] at hpick
      rw [List.flatMap_cons, List.flatMap_append, List.filter_append, List.length_append,
        ← Nat.add_assoc, List.map_cons, List.map_cons, List.append_cons]
      refine .quiet rfl (fun _ => ?_) hpick
      simp [Operation.resume, Sweep.resume, Progress.lift, hpresent]

/-- A sweep, from its beginning to its end. -/
theorem runsTo_survey (hatRest : g.AtRest) :
    RunsTo f opened g (.sweep 0 .survey) (g.waiting.flatMap (probed f))
      (fun _ => g.retain f.spares)
      (.ok (.count (g.waiting.filter fun conn => !f.spares conn).length)) := by
  have henter :=
    @runsTo_enter f opened g 0 [] g.pools hatRest.serving hatRest.keys rfl hatRest.pools
  rw [Nat.zero_add] at henter
  exact .quiet rfl (fun _ => rfl) henter

end Sweep

/-! ### Reaping -/

namespace Pool

variable {pool : Pool} {key : PoolKey} {stays stays' : PooledConnection → Bool}

theorem retain_congr (hsame : ∀ conn ∈ pool.idle, stays conn = stays' conn) :
    pool.retain stays = pool.retain stays' := by
  have hgone : ∀ conn ∈ pool.idle, (!stays conn) = !stays' conn := fun conn hmem => by
    rw [hsame conn hmem]
  rw [retain, retain, List.filter_congr hsame, List.filter_congr hgone]

theorem AtRest.reap_eq (hatRest : pool.AtRest key) (timeout : Duration)
    (clock : PoolKey → Instant) :
    pool.reap (clock key) timeout =
      (pool.idle.filter fun conn => !conn.fresh timeout clock,
        pool.retain (·.fresh timeout clock)) := by
  have hstays : ∀ conn ∈ pool.idle,
      (!expired (clock key) timeout conn) = conn.fresh timeout clock := fun conn hmem => by
    rw [PooledConnection.fresh, hatRest.key_eq conn hmem]
  have hgone : ∀ conn ∈ pool.idle,
      expired (clock key) timeout conn = !conn.fresh timeout clock := fun conn hmem => by
    rw [← hstays conn hmem, Bool.not_not]
  rw [reap, Pool.retain, List.filter_congr hstays, List.filter_congr hgone]

end Pool

namespace Reap

variable {opened : List Nat} {g g' : Gateway} {closed : Nat} {acts : List Act}
  {result : Operation.Result}

/-- What comes of pools that are reaped one after the other, each at its own time. -/
inductive Reaped (timeout : Duration) : List (PoolKey × Pool) → List PooledConnection →
    List (PoolKey × Pool) → Prop
  | nil : Reaped timeout [] [] []
  | cons {key : PoolKey} {pool : Pool} {pools left : List (PoolKey × Pool)}
      {gone : List PooledConnection} (now : Instant) (rest : Reaped timeout pools gone left) :
      Reaped timeout ((key, pool) :: pools) ((pool.reap now timeout).1 ++ gone)
        ((key, (pool.reap now timeout).2) :: left)

/-- The times can be given beforehand, pool by pool. -/
theorem reaped_iff {timeout : Duration} {pools left : List (PoolKey × Pool)}
    {gone : List PooledConnection} (hnodup : (pools.map (·.1)).Nodup)
    (hatRest : ∀ x ∈ pools, x.2.AtRest x.1) :
    Reaped timeout pools gone left ↔
      ∃ clock, gone = (pools.flatMap (·.2.idle)).filter (fun conn => !conn.fresh timeout clock) ∧
        left = pools.map fun x => (x.1, x.2.retain (·.fresh timeout clock)) := by
  constructor
  · intro hreaped
    induction hreaped with
    | nil => exact ⟨fun _ => 0, rfl, rfl⟩
    | @cons key pool pools left gone now hrest ih =>
        have hhere : pool.AtRest key := hatRest (key, pool) List.mem_cons_self
        have hlater := (List.forall_mem_cons.1 hatRest).2
        rw [List.map_cons, List.nodup_cons] at hnodup
        obtain ⟨clock, rfl, rfl⟩ := ih hnodup.2 hlater
        -- The key of this pool is none of the later ones, so its time can be entered.
        let clock' := Function.update clock key now
        have hentered : clock' key = now := Function.update_self key now clock
        have hsame : ∀ x ∈ pools, ∀ conn ∈ x.2.idle,
            conn.fresh timeout clock' = conn.fresh timeout clock := by
          intro x hmem conn hwaits
          have hother : x.1 ≠ key := fun h => hnodup.1 (List.mem_map.2 ⟨x, hmem, h⟩)
          have hkept : clock' x.1 = clock x.1 := Function.update_of_ne hother now clock
          rw [PooledConnection.fresh, PooledConnection.fresh, (hlater x hmem).key_eq conn hwaits,
            hkept]
        have hreap := hhere.reap_eq timeout clock'
        rw [hentered] at hreap
        refine ⟨clock', ?_, ?_⟩
        · rw [hreap, List.flatMap_cons, List.filter_append]
          congr 1
          apply List.filter_congr
          intro conn hmem
          obtain ⟨x, hmem, hwaits⟩ := List.mem_flatMap.1 hmem
          rw [hsame x hmem conn hwaits]
        · rw [hreap, List.map_cons]
          congr 1
          apply List.map_congr_left
          intro x hmem
          rw [Pool.retain_congr (hsame x hmem)]
  · rintro ⟨clock, rfl, rfl⟩
    induction pools with
    | nil => exact .nil
    | cons x pools ih =>
        obtain ⟨key, pool⟩ := x
        obtain ⟨hhere, hlater⟩ := List.forall_mem_cons.1 hatRest
        rw [List.map_cons, List.nodup_cons] at hnodup
        have hcons : Reaped timeout ((key, pool) :: pools) _ _ :=
          .cons (clock key) (ih hnodup.2 hlater)
        rw [hhere.reap_eq timeout clock] at hcons
        rw [List.flatMap_cons, List.filter_append]
        exact hcons

/-- The pools that are still to be reaped, behind those that have been. -/
theorem performs_collect_iff {before todo : List (PoolKey × Pool)} (hnodup : g.keys.Nodup)
    (hpools : g.pools = before ++ todo) :
    Performs opened g (.reap closed (.collect (todo.map (·.1)))) acts g' result ↔
      ∃ gone left, Reaped g.config.idleTimeout todo gone left ∧ acts = closings gone ∧
        g' = { g with pools := before ++ left } ∧ result = .ok (.count (closed + gone.length)) := by
  induction todo generalizing g before closed acts with
  | nil =>
      have hends : ∀ now, (Operation.reap closed (.collect [])).resume g now .proceed =
          { gateway := g, next := .done (.ok (.count closed)) } := fun _ => rfl
      rw [List.append_nil] at hpools
      rw [List.map_nil, performs_done_iff rfl hends]
      constructor
      · rintro ⟨rfl, ⟨-, rfl⟩, rfl⟩
        exact ⟨[], [], .nil, rfl, by rw [List.append_nil, ← hpools], rfl⟩
      · rintro ⟨gone, left, ⟨⟩, rfl, rfl, rfl⟩
        exact ⟨rfl, ⟨0, by rw [List.append_nil, ← hpools]⟩, rfl⟩
  | cons x todo ih =>
      obtain ⟨key, pool⟩ := x
      have hpresent := Gateway.pool?_of_pools hnodup hpools
      have hgoes : ∀ now, (Operation.reap closed (.collect (key :: todo.map (·.1)))).resume g now
          .proceed =
          { gateway := g.setPool key (pool.reap now g.config.idleTimeout).2
            next := .stage (.reap (closed + (pool.reap now g.config.idleTimeout).1.length)
              (.collect (todo.map (·.1))))
            closed := (pool.reap now g.config.idleTimeout).1 } := by
        intro now
        simp [Operation.resume, Reap.resume, Progress.lift, hpresent, Gateway.setPool]
      have hrest : ∀ now later,
          Performs opened (g.setPool key (pool.reap now g.config.idleTimeout).2)
            (.reap (closed + (pool.reap now g.config.idleTimeout).1.length)
              (.collect (todo.map (·.1)))) later g' result ↔
          ∃ gone left, Reaped g.config.idleTimeout todo gone left ∧ later = closings gone ∧
            g' = { g with
              pools := before ++ [(key, (pool.reap now g.config.idleTimeout).2)] ++ left } ∧
            result = .ok (.count
              (closed + (pool.reap now g.config.idleTimeout).1.length + gone.length)) := by
        intro now later
        have hreaped :=
          Gateway.setPool_of_pools hnodup hpools (pool.reap now g.config.idleTimeout).2
        have hkeys : (g.setPool key (pool.reap now g.config.idleTimeout).2).keys.Nodup := by
          rw [Gateway.setPool, Gateway.keys_updatePool]
          exact hnodup
        rw [List.append_cons] at hreaped
        exact ih hkeys (by rw [hreaped])
      rw [List.map_cons, performs_quiet_iff rfl]
      constructor
      · rintro ⟨now, later, hcontinues, rfl⟩
        rw [hgoes] at hcontinues ⊢
        obtain ⟨gone, left, hreaped, rfl, rfl, rfl⟩ := (hrest now later).1 hcontinues
        refine ⟨_, _, .cons now hreaped, List.map_append.symm, ?_, ?_⟩
        · rw [List.append_cons before _ left]
        · rw [List.length_append, Nat.add_assoc]
      · rintro ⟨_, _, hreaped, rfl, rfl, rfl⟩
        cases hreaped with
        | @cons _ _ _ left gone now hreaped =>
            refine ⟨now, closings gone, ?_, ?_⟩
            · rw [hgoes]
              refine (hrest now _).2 ⟨gone, left, hreaped, rfl, ?_, ?_⟩
              · rw [List.append_cons before _ left]
              · rw [List.length_append, Nat.add_assoc]
            · rw [hgoes]
              exact List.map_append

/-- A reaping, from its beginning to its end. -/
theorem performs_survey_iff (hatRest : g.AtRest) :
    Performs opened g (.reap 0 .survey) acts g' result ↔
      ∃ clock, acts = closings (g.waiting.filter fun conn =>
          !conn.fresh g.config.idleTimeout clock) ∧
        g' = g.retain (·.fresh g.config.idleTimeout clock) ∧
        result = .ok (.count (g.waiting.filter fun conn =>
          !conn.fresh g.config.idleTimeout clock).length) := by
  have hsurvey : ∀ now, (Operation.reap 0 .survey).resume g now .proceed =
      { gateway := g, next := .stage (.reap 0 (.collect g.keys)) } := fun _ => rfl
  have hcollect := @performs_collect_iff opened g g' 0 acts result [] g.pools hatRest.keys rfl
  rw [performs_next_iff rfl hsurvey, Gateway.keys, hcollect]
  constructor
  · rintro ⟨gone, left, hreaped, rfl, rfl, rfl⟩
    obtain ⟨clock, rfl, rfl⟩ := (reaped_iff hatRest.keys hatRest.pools).1 hreaped
    exact ⟨clock, rfl, rfl, by rw [Nat.zero_add]; rfl⟩
  · rintro ⟨clock, rfl, rfl, rfl⟩
    refine ⟨_, _, (reaped_iff hatRest.keys hatRest.pools).2 ⟨clock, rfl, rfl⟩, rfl, rfl, ?_⟩
    rw [Nat.zero_add]
    rfl

end Reap

/-! ### Maintenance -/

namespace Swept

variable {opened : List Nat} {g g' : Gateway} {effects : List Effect}

/-- Sweeps leave a part of the connections that wait and close the others. -/
theorem exists_retain (hswept : Swept opened g effects g') (hatRest : g.AtRest) :
    ∃ stays, g'.waiting = g.waiting.filter stays ∧ g'.config = g.config ∧ g'.AtRest ∧
      ∀ conn ∈ g.waiting, stays conn = false → .closed conn.socket ∈ effects := by
  induction hswept with
  | none => exact ⟨fun _ => true, (List.filter_true _).symm, rfl, hatRest, fun _ _ => nofun⟩
  | @more g g₁ g' f effects effects' result hsweep hrest ih =>
      obtain ⟨rfl, ⟨-, rfl⟩, -⟩ := (Sweep.runsTo_survey hatRest).only hsweep
      obtain ⟨stays, hwaiting, hconfig, hatRest', hclosed⟩ := ih (hatRest.retain f.spares)
      rw [Gateway.waiting_retain] at hwaiting hclosed
      rw [List.filter_filter] at hwaiting
      refine ⟨_, hwaiting, hconfig, hatRest', fun conn hmem hgone => ?_⟩
      rw [List.mem_append]
      cases hspared : f.spares conn with
      | true =>
          rw [hspared, Bool.and_true] at hgone
          exact .inr (hclosed conn (List.mem_filter.2 ⟨hmem, hspared⟩) hgone)
      | false =>
          refine .inl (List.mem_flatMap.2 ⟨conn, hmem, ?_⟩)
          simp [Sweep.probed, hspared]

end Swept

/-- Maintenance of the pools, in a state in which nothing else is under way. -/
structure Upkeep (opened : List Nat) (timeout : Duration) (g : Gateway) : Prop where
  /-- Every connection waits once. -/
  distinct : (g.waiting.map (·.socket)).Nodup
  /-- The count of a pool goes down by the connections that are taken out. -/
  counted : ∀ key pool, g.pool? key = some pool → ∀ stays,
    (pool.retain stays).total + (pool.idle.filter fun conn => !stays conn).length = pool.total
  /-- Reaping closes what has waited for too long, at the time at which its pool is looked at, and
  leaves everything else as it is. -/
  reaps : ∀ acts g' result, Performs opened g (.reap 0 .survey) acts g' result ↔
    ∃ clock, acts = closings (g.waiting.filter fun conn => !conn.fresh timeout clock) ∧
      g' = g.retain (·.fresh timeout clock) ∧
      result = .ok (.count (g.waiting.filter fun conn => !conn.fresh timeout clock).length)
  /-- A sweep probes every connection that waits, closes those that fail, and leaves everything else
  as it is. -/
  sweeps : ∀ f, RunsTo f opened g (.sweep 0 .survey) (g.waiting.flatMap (Sweep.probed f))
    (fun _ => g.retain f.spares)
    (.ok (.count (g.waiting.filter fun conn => !f.spares conn).length))

theorem Gateway.AtRest.upkeep {g : Gateway} (hatRest : g.AtRest) (opened : List Nat) :
    Upkeep opened g.config.idleTimeout g where
  distinct := hatRest.distinct
  counted key pool hpresent := (hatRest.pools (key, pool) (mem_of_lookup hpresent)).total_retain
  reaps _ _ _ := Reap.performs_survey_iff hatRest
  sweeps _ := Sweep.runsTo_survey hatRest

/-- Maintenance while nothing else is under way and connections are handed out, after any number of
sweeps. A connection that has not been used for the idle timeout is gone after a reaping, however
many sweeps came before it: one of them has closed it, or the reaping does. -/
theorem maintenance_retains {config : PoolConfig} {t : Traffic} (h : Traffic.Reachable config t)
    (halone : t.flights = []) (hserving : t.gateway.draining = false) {effects : List Effect}
    {g : Gateway} (hswept : Swept t.opened t.gateway effects g) :
    Upkeep t.opened config.idleTimeout g ∧ ∀ clock, ∀ conn ∈ t.gateway.waiting,
      conn.fresh config.idleTimeout clock = false →
        (.closed conn.socket ∈ effects ∨
          conn ∈ g.waiting.filter fun conn => !conn.fresh config.idleTimeout clock) ∧
        conn ∉ (g.retain (·.fresh config.idleTimeout clock)).waiting := by
  obtain ⟨stays, hwaiting, hsame, hatRest, hclosed⟩ :=
    hswept.exists_retain (h.atRest halone hserving)
  have hupkeep := hatRest.upkeep t.opened
  rw [hsame, h.founded.config_eq] at hupkeep
  refine ⟨hupkeep, fun clock conn hmem hstale => ⟨?_, ?_⟩⟩
  · cases hstayed : stays conn with
    | false => exact .inl (hclosed conn hmem hstayed)
    | true =>
        refine .inr (List.mem_filter.2 ⟨?_, by rw [hstale]; rfl⟩)
        rw [hwaiting]
        exact List.mem_filter.2 ⟨hmem, hstayed⟩
  · intro hleft
    rw [Gateway.waiting_retain] at hleft
    rw [(List.mem_filter.1 hleft).2] at hstale
    cases hstale

/-- Two connections wait. A sweep probes both and closes the one that fails; the other one is closed
in the reaping after that, when it has not been used for the idle timeout. -/
theorem maintenance_retains_none :
    ∃ t g g', (Traffic.init {}).play? twoWaitingRun = some t ∧
      t.gateway.waiting.map (·.socket) = [0, 1] ∧
      Swept t.opened t.gateway
        [.called (.check 0 false true), .called (.check 1 false true), .closed 1] g ∧
      Upkeep t.opened ({} : PoolConfig).idleTimeout g ∧
      Performs t.opened g (.reap 0 .survey) [.closed 0] g' (.ok (.count 1)) ∧
      g'.pools.map (·.2.stats) = [{}] := by
  have hplay : (Traffic.init {}).play? twoWaitingRun =
      some (((Traffic.init {}).play? twoWaitingRun).get rfl) := rfl
  have hreachable := Traffic.reachable_of_play? .refl hplay
  let f : Forecast := ⟨(· == 0), .ok 2⟩
  have hsweep := (maintenance_retains hreachable rfl rfl .none).1.sweeps f
  have hswept := Swept.more (hsweep.runs 0) .none
  have hupkeep := (maintenance_retains hreachable rfl rfl hswept).1
  have hreap := (hupkeep.reaps _ _ _).2
    ⟨fun _ => ({} : PoolConfig).idleTimeout.nanos, rfl, rfl, rfl⟩
  exact ⟨_, _, _, hplay, rfl, hswept, hupkeep, hreap, rfl⟩

end DatabaseGateway
