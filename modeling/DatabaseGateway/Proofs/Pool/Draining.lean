import DatabaseGateway.Proofs.Pool.Credentials
import DatabaseGateway.Proofs.Pool.Exposure
import DatabaseGateway.Proofs.Pool.Standing

/-!
Draining. From its first step on, new requests are refused and connections that come back are
closed. Then the handles are taken out of the table and the pools are emptied, each of them once. A
request that was past its first stage when draining began is not asked again: it may still be
answered with a handle, after draining has come to its end. So there are at most as many handles
left as there were such requests, and if there was none, all pools stay empty.
-/

namespace DatabaseGateway

/-- Whether an operation is a request past its first stage. -/
def Operation.late : Operation → Bool
  | checkout _ .screen => false
  | checkout .. => true
  | _ => false

def Traffic.late (t : Traffic) : Nat := t.flights.countP Operation.late

def Move.drained : Move → Bool
  | resume (.drain _) _ _ (.done _) _ => true
  | _ => false

def Traffic.drained (t : Traffic) : Bool := t.log.any Move.drained

/-- Connections wait in no other pools than these. -/
def Gateway.IdleWithin (g : Gateway) (keys : List PoolKey) : Prop :=
  ∀ key pool, g.pool? key = some pool → pool.idle ≠ [] → key ∈ keys

section Resume

variable {g : Gateway} {now : Instant} {reply : Reply}

/-! ### Requests -/

theorem Operation.resume_screen_of_draining (h : g.draining = true) (order : Order) (now : Instant)
    (reply : Reply) :
    ∃ e, (checkout order .screen).resume g now reply =
        { gateway := g, next := .done (.error e) } ∧
      (order.request.validate = .ok () → e = Checkout.drainingError) := by
  unfold resume Checkout.resume
  dsimp only
  cases hvalidate : order.request.validate with
  | error e => exact ⟨e, rfl, fun hvalid => by cases hvalid⟩
  | ok =>
      rw [if_pos h]
      exact ⟨Checkout.drainingError, rfl, fun _ => rfl⟩

theorem Operation.Initial.not_late {op : Operation} (h : op.Initial) : ¬ op.late := by
  cases h with
  | call call => cases call <;> simp [ofCall, Operation.late]
  | guarded | retire => simp [Operation.late]

/-- No request gets past its first stage while the gateway drains. -/
theorem Operation.contained_of_draining (op : Operation) (h : g.draining = true)
    (owners : InstanceId → Bool) : op.Contained g owners late where
  issuing order conn heq _ := heq ▸ rfl
  passing now reply op' hnext hlate := by
    cases follows_resume hnext with
    | checkout order stage stage' =>
        cases stage with
        | screen =>
            obtain ⟨e, hresume, -⟩ := resume_screen_of_draining h order now reply
            rw [hresume] at hnext
            cases hnext
        | _ => rfl
    | guarded owner call => cases call <;> cases hlate
    | _ => cases hlate

/-! ### Pools -/

/-- Nothing is put into a pool while the gateway drains. -/
theorem Operation.idleWithin_resume {keys : List PoolKey} (op : Operation)
    (hdraining : g.draining = true) (h : g.IdleWithin keys) :
    (op.resume g now reply).gateway.IdleWithin keys := by
  intro key pool' hpool' hidle
  obtain ⟨conn, hconn⟩ := List.exists_mem_of_ne_nil _ hidle
  rcases op.mem_idle_resume_puts hpool' hconn with ⟨pool, hpool, hold⟩ | ⟨e, hedit, hputs⟩
  · exact h key pool hpool (List.ne_nil_of_mem hold)
  · have hnot := (standing?_of_puts hedit hputs).1
    rw [hdraining] at hnot
    cases hnot

/-- What holds in a stage of draining: the gateway drains, and the pools that have been dealt with
are empty. -/
def Drain.Upheld (g : Gateway) : Drain → Prop
  | .announce => True
  | .clear _ pools => g.draining = true ∧ g.IdleWithin pools
  | .poll _ | .pause .. | .seize | .returning .. | .survey _ => g.draining = true

theorem Drain.Upheld.mono {g' : Gateway} {stage : Drain} (h : stage.Upheld g)
    (hdraining : g.draining = true → g'.draining = true)
    (hidle : g.draining = true → ∀ keys, g.IdleWithin keys → g'.IdleWithin keys) :
    stage.Upheld g' := by
  cases stage with
  | announce => trivial
  | clear seized pools => exact ⟨hdraining h.1, hidle h.1 pools h.2⟩
  | poll | pause | seize | returning | survey => exact hdraining h

def Drain.UpheldAfter (p : Progress Drain Nat) : Prop :=
  match p.next with
  | .stage stage => stage.Upheld p.gateway
  | .done _ => p.gateway.draining = true ∧ p.gateway.IdleWithin []

theorem Drain.Upheld.clear {seized : Nat} {key : PoolKey} {pools : List PoolKey}
    (h : (Drain.clear seized (key :: pools)).Upheld g) :
    UpheldAfter ((Drain.clear seized (key :: pools)).resume g now reply) := by
  obtain ⟨hdraining, hidle⟩ := h
  unfold Drain.resume
  dsimp only
  split
  · next hpool =>
      refine ⟨hdraining, fun key' pool' hpool' hne => ?_⟩
      rcases List.mem_cons.mp (hidle key' pool' hpool' hne) with rfl | hmem
      · have hnone : g.pool? key' = some pool' := hpool'
        rw [hpool] at hnone
        cases hnone
      · exact hmem
  · next pool hpool =>
      refine ⟨hdraining, fun key' pool' hpool' hne => ?_⟩
      have hupdate : (g.updatePool key fun _ => pool.empty.2).pool? key' = some pool' := hpool'
      rw [Gateway.pool?_updatePool] at hupdate
      split at hupdate
      · -- This is the pool that has been emptied.
        obtain ⟨_, -, rfl⟩ := Option.map_eq_some_iff.mp hupdate
        exact absurd rfl hne
      · next hkey => exact (List.mem_cons.mp (hidle key' pool' hupdate hne)).resolve_left hkey

theorem Drain.Upheld.resume {stage : Drain} (h : stage.Upheld g) :
    UpheldAfter (stage.resume g now reply) := by
  cases stage with
  | announce => exact rfl
  | poll deadline =>
      unfold Drain.resume
      dsimp only
      split <;> exact h
  | pause deadline wakeAt => exact h
  | seize =>
      unfold Drain.resume UpheldAfter
      dsimp only
      split <;> exact h
  | returning seized returns =>
      have hframe : { (returns.stage.resume g now returns.current reply).gateway with
          pools := g.pools, held := g.held } = g := returns.stage.resume_frame returns.current
      have hdraining := (congrArg Gateway.draining hframe).trans h
      unfold Drain.resume UpheldAfter Progress.lift
      dsimp only
      cases (returns.resume g now reply).next <;> exact hdraining
  | survey seized =>
      exact ⟨h, fun key pool hpool _ => Gateway.mem_keys_iff.mpr ⟨pool, hpool⟩⟩
  | clear seized pools =>
      cases pools with
      | nil => exact h
      | cons key pools => exact clear h

theorem Operation.Initial.drain {op : Operation} (h : op.Initial) {stage : Drain}
    (hop : op = .drain stage) : stage = .announce := by
  cases h with
  | call call =>
      cases call <;> cases hop
      rfl
  | guarded | retire => cases hop

theorem Operation.upheld_resume {op : Operation} {stage : Drain}
    (h : ∀ stage, op = drain stage → stage.Upheld g)
    (hnext : drain stage ∈ (op.resume g now reply).next.stages) :
    stage.Upheld (op.resume g now reply).gateway := by
  generalize heq : drain stage = op' at hnext
  cases follows_resume hnext with
  | drain stage₀ stage₁ =>
      cases heq
      have hupheld : Drain.UpheldAfter (stage₀.resume g now reply) := (h stage₀ rfl).resume
      rcases Progress.mem_stages_lift hnext with ⟨s, hs, hmem⟩ | ⟨r, -, hmem⟩
      · cases List.mem_singleton.mp hmem
        unfold Drain.UpheldAfter at hupheld
        rw [hs] at hupheld
        exact hupheld
      · cases hmem
  | guarded owner call =>
      cases call <;> cases heq
      trivial
  | _ => cases heq

theorem Operation.idleWithin_of_done {stage : Drain} (h : stage.Upheld g) {r : Operation.Result}
    (hnext : ((drain stage).resume g now reply).next = .done r) :
    ((drain stage).resume g now reply).gateway.draining = true ∧
      ((drain stage).resume g now reply).gateway.IdleWithin [] := by
  have hupheld : Drain.UpheldAfter (stage.resume g now reply) := h.resume
  unfold Drain.UpheldAfter at hupheld
  unfold resume Progress.lift at hnext
  dsimp only at hnext
  split at hnext
  · cases hnext
  · next n hn =>
      rw [hn] at hupheld
      exact hupheld

end Resume

namespace Traffic

variable {config : PoolConfig} {t t' : Traffic}

/-- Draining under way does what it has said, and draining that has come to its end has done it. -/
structure Drains (t : Traffic) : Prop where
  stages : ∀ stage, .drain stage ∈ t.flights → stage.Upheld t.gateway
  drained : t.drained → t.gateway.draining = true ∧ t.gateway.IdleWithin []

theorem Step.drains (hstep : Step t t') (h : t.Drains) : t'.Drains := by
  cases hstep with
  | @begin op hinitial =>
      refine ⟨fun stage hmem => ?_, h.drained⟩
      rcases List.mem_append.mp hmem with hmem | hmem
      · exact h.stages stage hmem
      · rw [hinitial.drain (List.mem_singleton.mp hmem).symm]
        trivial
  | attach => exact ⟨h.stages, h.drained⟩
  | settle => exact ⟨h.stages, h.drained⟩
  | @resume before after op now reply hflights hadmits =>
      have hop : op ∈ t.flights := mem_flights hflights
      have hold : ∀ stage, .drain stage ∈ t.flights →
          stage.Upheld (op.resume t.gateway now reply).gateway := by
        intro stage hmem
        exact (h.stages stage hmem).mono op.draining_resume
          fun hdraining keys => op.idleWithin_resume hdraining
      refine ⟨fun stage hmem => ?_, fun hdrained => ?_⟩
      · rcases mem_flights_resume hflights hmem with hmem | hmem
        · exact hold stage hmem
        · exact Operation.upheld_resume (fun stage heq => h.stages stage (heq ▸ hop)) hmem
      · rcases (Bool.or_eq_true _ _).mp hdrained with hnow | hbefore
        · unfold Move.drained at hnow
          split at hnow
          · next heq =>
              obtain ⟨rfl, -, -, hnext, -⟩ := Move.resume.inj heq
              exact Operation.idleWithin_of_done (h.stages _ hop) hnext
          · cases hnow
        · obtain ⟨hdraining, hidle⟩ := h.drained hbefore
          exact ⟨op.draining_resume hdraining, op.idleWithin_resume hdraining hidle⟩

theorem Reachable.drains (h : Reachable config t) : t.Drains := by
  induction h with
  | refl => exact ⟨fun _ hmem => (nomatch hmem), fun hdrained => (nomatch hdrained)⟩
  | tail _ hstep ih => exact hstep.drains ih

/-! ### What is left after draining -/

/-- The live handles of some instances and the requests past their first stage only become fewer
while the gateway drains. -/
theorem Reachable.exposure_late_le (h : Reachable config t) (hdraining : t.gateway.draining = true)
    (hsteps : Relation.ReflTransGen Step t t') (owners : InstanceId → Bool) :
    t'.exposure owners Operation.late ≤ t.exposure owners Operation.late := by
  refine exposure_le_of_steps h hsteps (fun t₁ hsteps₁ op _ => ?_)
    fun op hinitial _ => hinitial.not_late
  exact op.contained_of_draining (draining_of_steps hsteps₁ hdraining) owners

theorem Reachable.late_le (h : Reachable config t) (hdraining : t.gateway.draining = true)
    (hsteps : Relation.ReflTransGen Step t t') : t'.late ≤ t.late := by
  have hle := h.exposure_late_le hdraining hsteps fun _ => false
  simpa [exposure, Gateway.handlesOf, late] using hle

theorem Reachable.live_add_late_le (h : Reachable config t) (hdraining : t.gateway.draining = true)
    (hsteps : Relation.ReflTransGen Step t t') :
    t'.gateway.registry.entries.length + t'.late ≤ t.gateway.registry.entries.length + t.late := by
  have hle := h.exposure_late_le hdraining hsteps fun _ => true
  simpa [exposure, Gateway.handlesOf, late] using hle

/-- The gateway drains, and that many handles may be left over. -/
structure Drainage (t : Traffic) (late : Nat) : Prop where
  /-- Requests without faults are refused for this reason. -/
  refused : ∀ order now reply, order.request.validate = .ok () →
    (Operation.checkout order .screen).resume t.gateway now reply =
      { gateway := t.gateway, next := .done (.error Checkout.drainingError) }
  bounded : t.gateway.registry.entries.length + t.late ≤ late
  /-- If none is, then no request in flight is answered with a handle. -/
  unanswered : late = 0 → ∀ order stage, .checkout order stage ∈ t.flights →
    ∀ now reply handle, ((Operation.checkout order stage).resume t.gateway now reply).next ≠
      .done (.ok (.handle handle))
  /-- Once draining has come to its end, no connection waits, and what is still counted is on its
  way through an operation in flight or behind a handle that is left over. -/
  emptied : t.drained → ∀ key pool, t.gateway.pool? key = some pool →
    pool.idle = [] ∧ pool.total = pool.probing + t.gateway.inHands key + t.slots key
  settled : t.drained → t.flights = [] → ∀ key pool, t.gateway.pool? key = some pool →
    pool.idle = [] ∧
      pool.total = t.gateway.registry.entries.countP fun x => x.2.item = key

/-- Draining lets nobody pass, and takes all handles out of the table. -/
theorem late_resume_drain {before after : List Operation} {stage : Drain} {now : Instant}
    {reply : Reply} (hflights : t.flights = before ++ .drain stage :: after) :
    (t.resume before (.drain stage) after now reply).late = t.late := by
  refine countP_flights_resume hflights (by simp [Operation.late]) fun op hnext => ?_
  rcases Progress.mem_stages_lift hnext with ⟨s, -, hmem⟩ | ⟨r, -, hmem⟩
  · rw [List.mem_singleton.mp hmem]
    simp [Operation.late]
  · cases hmem

theorem entries_resume_seize (t : Traffic) (before after : List Operation) (now : Instant)
    (reply : Reply) :
    (t.resume before (.drain .seize) after now reply).gateway.registry.entries = [] := by
  have hyields := t.gateway.registry.drainAll_yields
  rw [t.gateway.registry.drainAll_taken] at hyields
  have hlength := hyields.entries.length_eq
  rw [List.length_append] at hlength
  apply List.eq_nil_of_length_eq_zero
  show t.gateway.registry.drainAll.2.entries.length = 0
  omega

theorem Reachable.idle_of_drained (h : Reachable config t) (hdrained : t.drained) {key : PoolKey}
    {pool : Pool} (hpool : t.gateway.pool? key = some pool) : pool.idle = [] := by
  by_contra hidle
  have hmem := (h.drains.drained hdrained).2 key pool hpool hidle
  cases hmem

theorem screen_of_late_eq_zero (hlate : t.late = 0) {order : Order} {stage : Checkout}
    (hop : .checkout order stage ∈ t.flights) : stage = .screen := by
  have hnot := List.countP_eq_zero.mp hlate _ hop
  cases stage with
  | screen => rfl
  | _ => exact absurd rfl hnot

end Traffic

/-- Draining. Requests are refused from the first step on. After the handles have been taken out of
the table, the live handles at any time are at most as many as there were requests past their first
stage when draining began; if there was none, there is never a handle again. And when draining has
come to its end, no connection waits, and a pool counts nothing but what operations in flight and
the handles that are left over have. -/
theorem drain_closes {config : PoolConfig} {t₀ t t' : Traffic} (h : Traffic.Reachable config t₀)
    {before₀ after₀ before after : List Operation} {now₀ now : Instant}
    (hannounce : t₀.flights = before₀ ++ .drain .announce :: after₀)
    (hsteps₀ : Relation.ReflTransGen Traffic.Step
      (t₀.resume before₀ (.drain .announce) after₀ now₀ .proceed) t)
    (hseize : t.flights = before ++ .drain .seize :: after)
    (hsteps : Relation.ReflTransGen Traffic.Step
      (t.resume before (.drain .seize) after now .proceed) t') : t'.Drainage t₀.late := by
  have hstep₀ : Traffic.Step t₀ (t₀.resume before₀ (.drain .announce) after₀ now₀ .proceed) :=
    .resume hannounce .nothing
  have hreach₀ := h.tail hstep₀
  have hreach := hreach₀.trans hsteps₀
  have hdraining : t.gateway.draining = true := Traffic.draining_of_steps hsteps₀ rfl
  have hstep : Traffic.Step t (t.resume before (.drain .seize) after now .proceed) :=
    .resume hseize .nothing
  have hreach' := (hreach.tail hstep).trans hsteps
  have hdraining' := Traffic.draining_of_steps hsteps (hstep.draining hdraining)
  -- The table is empty after the handles have been taken out, so only late requests count.
  have hlate : t.late ≤ t₀.late := by
    have hle := Traffic.Reachable.late_le hreach₀ rfl hsteps₀
    rwa [Traffic.late_resume_drain hannounce] at hle
  have hbounded : t'.gateway.registry.entries.length + t'.late ≤ t₀.late := by
    have hle := Traffic.Reachable.live_add_late_le (hreach.tail hstep) (hstep.draining hdraining)
      hsteps
    rw [Traffic.entries_resume_seize, Traffic.late_resume_drain hseize, List.length_nil,
      zero_add] at hle
    exact Nat.le_trans hle hlate
  refine ⟨fun order now reply hvalid => ?_, hbounded, ?_, ?_, ?_⟩
  · obtain ⟨e, hresume, he⟩ := Operation.resume_screen_of_draining hdraining' order now reply
    rw [hresume, he hvalid]
  · intro hzero order stage hop now reply handle hnext
    obtain rfl := Traffic.screen_of_late_eq_zero (by omega) hop
    obtain ⟨e, hresume, -⟩ := Operation.resume_screen_of_draining hdraining' order now reply
    rw [hresume] at hnext
    cases hnext
  · intro hdrained key pool hpool
    have hidle := Traffic.Reachable.idle_of_drained hreach' hdrained hpool
    have hbalance := (Traffic.Reachable.accounts hreach' hpool).balance
    rw [hidle, List.length_nil, zero_add] at hbalance
    exact ⟨hidle, hbalance⟩
  · intro hdrained hflights key pool hpool
    have hidle := Traffic.Reachable.idle_of_drained hreach' hdrained hpool
    have hquiet := ((Traffic.Reachable.accounts hreach' hpool).quiet hflights).2
    rw [hidle, List.length_nil, zero_add] at hquiet
    exact ⟨hidle, hquiet⟩

/-- A guest has a connection, another one waits in its pool, and draining is about to begin. -/
def undrainedRun : List Traffic.Turn :=
  [.begin (.checkout ⟨1, sampleRequest⟩ .screen), .resume 0 0 .proceed, .resume 0 0 .proceed,
    .resume 0 0 .proceed, .resume 0 0 (.dialed (.ok 0)), .resume 0 0 .proceed,
    .begin (.checkout ⟨2, sampleRequest⟩ .screen), .resume 0 0 .proceed, .resume 0 0 .proceed,
    .resume 0 0 .proceed, .resume 0 0 (.dialed (.ok 1)), .resume 0 0 .proceed,
    .begin (.release (Handle.make 1 2)), .resume 0 0 .proceed, .resume 0 0 .proceed,
    .resume 0 0 .proceed, .resume 0 0 (.checked true), .resume 0 0 .proceed,
    .begin (.drain .announce)]

def patientRun : List Traffic.Turn :=
  [.resume 0 0 .proceed, .resume 0 0 .proceed, .resume 0 100000000000 .proceed]

def emptiedRun : List Traffic.Turn :=
  [.resume 0 0 .proceed, .resume 0 0 .proceed, .resume 0 0 .proceed, .resume 0 0 .proceed,
    .resume 0 0 .proceed, .resume 0 0 .proceed]

theorem drain_closes_two :
    ∃ t₀ t t', (Traffic.init {}).play? undrainedRun = some t₀ ∧
      (t₀.resume [] (.drain .announce) [] 0 .proceed).play? patientRun = some t ∧
      (t.resume [] (.drain .seize) [] 0 .proceed).play? emptiedRun = some t' ∧
      t'.Drainage 0 ∧ t'.drained ∧ t'.flights = [] ∧ t'.ended = [1, 0] ∧
      t'.gateway.stats (.ofConfig sampleRequest) = {} := by
  let t₀ := ((Traffic.init {}).play? undrainedRun).get (by decide +kernel)
  let t₁ := t₀.resume [] (.drain .announce) [] 0 .proceed
  let t := (t₁.play? patientRun).get (by decide +kernel)
  let t₂ := t.resume [] (.drain .seize) [] 0 .proceed
  let t' := (t₂.play? emptiedRun).get (by decide +kernel)
  have hplay₀ : (Traffic.init {}).play? undrainedRun = some t₀ := (Option.some_get _).symm
  have hplay : t₁.play? patientRun = some t := (Option.some_get _).symm
  have hplay' : t₂.play? emptiedRun = some t' := (Option.some_get _).symm
  have hannounce : t₀.flights = [] ++ .drain .announce :: [] := by decide +kernel
  have hseize : t.flights = [] ++ .drain .seize :: [] := by decide +kernel
  have hlate : t₀.late = 0 := by decide +kernel
  have hdrainage := drain_closes (Traffic.reachable_of_play? .refl hplay₀) hannounce
    (Traffic.steps_of_play? hplay) hseize (Traffic.steps_of_play? hplay')
  rw [hlate] at hdrainage
  refine ⟨t₀, t, t', hplay₀, hplay, hplay', hdrainage, ?_, ?_, ?_, ?_⟩
  · decide +kernel
  · decide +kernel
  · decide +kernel
  · decide +kernel

/-- A request gets past its first stage, and only then draining begins. It has come to its end when
the request is answered with a handle. -/
def lateCheckoutRun : List Traffic.Turn :=
  [.begin (.checkout ⟨1, sampleRequest⟩ .screen), .resume 0 0 .proceed, .begin (.drain .announce),
    .resume 1 0 .proceed, .resume 1 0 .proceed, .resume 1 0 .proceed, .resume 1 0 .proceed,
    .resume 1 0 .proceed, .resume 0 0 .proceed, .resume 0 0 .proceed,
    .resume 0 0 (.dialed (.ok 0)), .resume 0 0 .proceed]

/-- Draining is final: when it has come to its end and all is at rest, there is no handle, and no
connection waits or is counted. -/
def Traffic.DrainsForGood (t : Traffic) : Prop :=
  t.drained → t.flights = [] → t.gateway.registry.entries = [] ∧
    ∀ key pool, t.gateway.pool? key = some pool → pool.idle = [] ∧ pool.total = 0

/-- After draining has come to its end, a request is answered with a handle, which is live when all
is at rest. -/
theorem exists_not_drainsForGood :
    ∃ t, (Traffic.init {}).play? lateCheckoutRun = some t ∧ Traffic.Reachable {} t ∧
      t.gateway.draining = true ∧ t.drained ∧ t.flights = [] ∧
      t.log.findIdx Move.drained = 4 ∧
      t.handout? = some (⟨1, sampleRequest⟩, Handle.make 0 1) ∧
      t.gateway.stats (.ofConfig sampleRequest) = { active := 1, total := 1 } ∧
      ¬ t.DrainsForGood := by
  have hplay : (Traffic.init {}).play? lateCheckoutRun =
      some (((Traffic.init {}).play? lateCheckoutRun).get rfl) := rfl
  refine ⟨_, hplay, Traffic.reachable_of_play? .refl hplay, by decide, by decide, rfl, by decide,
    by decide, by decide, ?_⟩
  intro h
  have hnone := (h (by decide) rfl).1
  cases hnone

end DatabaseGateway
