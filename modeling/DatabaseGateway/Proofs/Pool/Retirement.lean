import DatabaseGateway.Proofs.Pool.Accounting
import DatabaseGateway.Proofs.Pool.Confinement
import DatabaseGateway.Proofs.Pool.Exposure
import DatabaseGateway.Proofs.Pool.Ownership

/-!
The end of a guest instance. Its host refuses all further calls, and the handles that it has are
taken out of the table once. A request that was past the guard by then is not asked again: it may
still be answered with a handle, and nobody takes that handle back. So an instance keeps at most as
many handles as it had such requests, and if it had none, it leaves nothing.
-/

namespace DatabaseGateway

/-! ### Requests in the name of an instance -/

/-- Whether an operation is a request in the name of an instance, past the guard of its host. -/
def Operation.seeks (owner : InstanceId) : Operation → Bool
  | checkout order _ => order.owner == owner
  | _ => false

def Traffic.seeking (t : Traffic) (owner : InstanceId) : Nat :=
  t.flights.countP (Operation.seeks owner)

/-- The request that is made in a move past all hosts. -/
def Move.direct? : Move → Option Order
  | begin (.checkout order .screen) => some order
  | _ => none

/-- Nobody but the instance itself, through its host, has asked for connections in its name. -/
def Traffic.Hosted (t : Traffic) (owner : InstanceId) : Prop :=
  ∀ order ∈ t.log.filterMap Move.direct?, order.owner ≠ owner

instance (t : Traffic) (owner : InstanceId) : Decidable (t.Hosted owner) :=
  inferInstanceAs (Decidable (∀ order ∈ t.log.filterMap Move.direct?, order.owner ≠ owner))

def Move.gives? (owner : InstanceId) : Move → Option Nat
  | resume (.checkout order (.entering conn)) _ _ (.done (.ok (.handle _))) _ =>
    if order.owner = owner then some conn.socket else none
  | _ => none

theorem Move.gives?_eq_some {m : Move} {owner : InstanceId} {socket : Nat}
    (h : m.gives? owner = some socket) : ∃ order conn demand reply handle closed,
      m = resume (.checkout order (.entering conn)) demand reply (.done (.ok (.handle handle)))
        closed ∧ order.owner = owner ∧ conn.socket = socket := by
  unfold gives? at h
  split at h
  · next order conn demand reply handle closed =>
      split at h
      · next howner =>
          exact ⟨order, conn, demand, reply, handle, closed, rfl, howner, Option.some.inj h⟩
      · cases h
  · cases h

def Traffic.given (t : Traffic) (owner : InstanceId) : List Nat :=
  t.log.filterMap (Move.gives? owner)

theorem Operation.Initial.not_seeks {op : Operation} (h : op.Initial) {owner : InstanceId}
    (hhosted : ∀ order, op = checkout order .screen → order.owner ≠ owner) : ¬ op.seeks owner := by
  cases h with
  | call call =>
      cases call with
      | checkout order => simpa [ofCall, seeks] using hhosted order rfl
      | use | release | teardown | reap | sweep | drain => simp [ofCall, seeks]
  | guarded | retire => simp [seeks]

theorem Operation.Initial.own {op : Operation} (h : op.Initial) {guest : InstanceId} {order : Order}
    (hop : op = .guarded guest (.checkout order)) : order.owner = guest := by
  cases h with
  | call call => cases call <;> cases hop
  | guarded owner call hown =>
      obtain ⟨rfl, rfl⟩ := Operation.guarded.inj hop
      exact hown order rfl
  | retire => cases hop

theorem Operation.Follows.ne_guarded {op op' : Operation} (h : op.Follows op') (guest : InstanceId)
    (call : Call) : op' ≠ .guarded guest call := by
  intro heq
  cases h with
  | guarded owner call => cases call <;> cases heq
  | _ => cases heq

/-- A request is past the guard of its host if it was so before, or the guard has just let it
through. -/
theorem Operation.Follows.seeks {op op' : Operation} (h : op.Follows op') {owner : InstanceId}
    (hseeks : op'.seeks owner) : op.seeks owner ∨
      ∃ guest order, op = .guarded guest (.checkout order) ∧ order.owner = owner := by
  cases h with
  | checkout => exact .inl hseeks
  | guarded guest call =>
      cases call with
      | checkout order =>
          refine .inr ⟨guest, order, rfl, ?_⟩
          simpa [ofCall, Operation.seeks] using hseeks
      | use | release | teardown | reap | sweep | drain => cases hseeks
  | _ => cases hseeks

theorem Gateway.openHandles_eq (g : Gateway) (owner : InstanceId) :
    g.openHandles owner = g.handlesOf (· == owner) :=
  g.registry.countOwnedBy_eq owner

/-- The end of an instance takes all its handles out of the table. -/
theorem Operation.handlesOf_teardown (g : Gateway) (owner : InstanceId) (now : Instant)
    (reply : Reply) :
    ((teardown owner).resume g now reply).gateway.handlesOf (· == owner) = 0 := by
  have hyields := g.registry.drainOwner_yields owner
  rw [g.registry.drainOwner_taken] at hyields
  show (g.registry.drainOwner owner).2.entries.countP (fun x => x.2.owner == owner) = 0
  rw [hyields.filter.countP_eq, List.countP_filter, List.countP_eq_zero]
  intro x _
  simp

namespace Traffic

variable {config : PoolConfig} {t t' : Traffic} {owner : InstanceId}

theorem Reachable.own (h : Reachable config t) {guest : InstanceId} {order : Order}
    (hop : .guarded guest (.checkout order) ∈ t.flights) : order.owner = guest := by
  induction h with
  | refl => cases hop
  | tail _ hstep ih =>
      cases hstep with
      | begin hinitial =>
          rcases List.mem_append.mp hop with hop | hop
          · exact ih hop
          · exact hinitial.own (List.mem_singleton.mp hop).symm
      | attach | settle => exact ih hop
      | resume hflights hadmits =>
          rcases mem_flights_resume hflights hop with hop | hop
          · exact ih hop
          · exact absurd rfl ((Operation.follows_resume hop).ne_guarded guest (.checkout order))

/-- Once an instance is torn down, no request of it gets past the guard. -/
theorem Reachable.contained (h : Reachable config t) (hgone : owner ∈ t.gateway.tornDown)
    {op : Operation} (hop : op ∈ t.flights) :
    op.Contained t.gateway (· == owner) (Operation.seeks owner) where
  issuing order conn heq howner := heq ▸ howner
  passing now reply op' hnext hseeks := by
    refine ((Operation.follows_resume hnext).seeks hseeks).resolve_right ?_
    rintro ⟨guest, order, rfl, rfl⟩
    obtain rfl := h.own hop
    -- The guard refuses the request, so there is no next stage.
    simp [Operation.resume, hgone, Next.stages] at hnext

/-- The handles of an instance and its requests in flight only become fewer after it is torn
down. -/
theorem Reachable.openHandles_add_seeking_le (h : Reachable config t)
    (hgone : owner ∈ t.gateway.tornDown) (hsteps : Relation.ReflTransGen Step t t')
    (hhosted : t'.Hosted owner) :
    t'.gateway.openHandles owner + t'.seeking owner ≤
      t.gateway.openHandles owner + t.seeking owner := by
  rw [Gateway.openHandles_eq, Gateway.openHandles_eq]
  refine exposure_le_of_steps h hsteps (fun t₁ hsteps₁ op hop => ?_) fun op hinitial hbegin => ?_
  · exact Reachable.contained (h.trans hsteps₁) (tornDown_of_steps hsteps₁ hgone) hop
  · exact hinitial.not_seeks fun order heq => hhosted order
      (List.mem_filterMap.mpr ⟨_, hbegin, heq ▸ rfl⟩)

/-! ### What an instance leaves behind -/

theorem Reachable.opened_of_given (h : Reachable config t) {socket : Nat}
    (hsocket : socket ∈ t.given owner) : socket ∈ t.opened := by
  induction h with
  | refl => cases hsocket
  | @tail t₁ t₂ hreach hstep ih =>
      have hopened : t₁.opened ⊆ t₂.opened :=
        ((log_suffix (.single hstep)).sublist.flatMap Move.opened).subset
      cases hstep with
      | begin | attach | settle => exact ih hsocket
      | @resume before after op now reply hflights hadmits =>
          obtain ⟨m, hm, hgives⟩ := List.mem_filterMap.mp hsocket
          rcases List.mem_cons.mp hm with rfl | hm
          · obtain ⟨order, conn, demand, reply', handle, closed, hmove, -, rfl⟩ :=
              Move.gives?_eq_some hgives
            obtain ⟨rfl, -, -, -, -⟩ := Move.resume.inj hmove
            have hline : .line order.key conn ∈ t₁.duties :=
              mem_duties (mem_flights hflights) (Multiset.mem_singleton_self _)
            exact hopened ((Reachable.invariant hreach).opened_of_line hline)
          · exact hopened (ih (List.mem_filterMap.mpr ⟨m, hm, hgives⟩))

/-- What has become of a connection that an instance has been given, when all is at rest: it is
gone, or waits for the next guest, or belongs to another guest by now, or goes with the check that
it was left to. -/
inductive LeftBy (t : Traffic) (owner : InstanceId) (socket : Nat) : Prop
  | ended (ended : socket ∈ t.ended)
  | idle {key : PoolKey} (site : (.idle key, socket) ∈ t.sites)
  | passed {handle : Handle} {entry : Entry PoolKey} (site : (.handle handle, socket) ∈ t.sites)
      (live : t.gateway.registry.find? handle = some entry) (other : entry.owner ≠ owner)
  | stray {index : Nat} (site : (.stray index, socket) ∈ t.sites)

theorem Invariant.leftBy (h : t.Invariant) (hflights : t.flights = [])
    (hnone : ∀ x ∈ t.gateway.registry.entries, x.2.owner ≠ owner) {socket : Nat}
    (hsocket : socket ∈ t.opened) : t.LeftBy owner socket := by
  by_cases hended : socket ∈ t.ended
  · exact .ended hended
  · have hlive : socket ∈ t.live := List.mem_filter.mpr ⟨hsocket, by simpa using hended⟩
    obtain ⟨⟨site, socket⟩, hsite, rfl⟩ := List.mem_map.mp (h.sites_perm.mem_iff.mpr hlive)
    rcases List.mem_append.mp hsite with hplaced | hstray
    · obtain ⟨p, hp, heq⟩ := List.mem_map.mp hplaced
      obtain ⟨rfl, rfl⟩ := Prod.mk.inj heq
      have hflight : t.flightPlacements = [] := by simp [flightPlacements, hflights]
      rw [placements, hflight, List.append_nil] at hp
      rcases List.mem_append.mp hp with hidle | hhandle
      · obtain ⟨⟨key, pool⟩, -, hconn⟩ := List.mem_flatMap.mp hidle
        obtain ⟨conn, -, rfl⟩ := List.mem_map.mp hconn
        exact .idle hsite
      · obtain ⟨⟨handle, entry⟩, hentry, hconn⟩ := List.mem_flatMap.mp hhandle
        obtain ⟨conn, -, rfl⟩ := List.mem_map.mp hconn
        exact .passed hsite (h.coherent.tabled.sound.find?_eq_some_iff.mpr hentry)
          (hnone _ hentry)
    · obtain ⟨⟨socket', index⟩, -, heq⟩ := List.mem_map.mp hstray
      obtain ⟨rfl, rfl⟩ := Prod.mk.inj heq
      exact .stray hsite

/-- An instance has no handle, and when all is at rest it has no connection and no room in a
pool. -/
structure LeavesNothing (t : Traffic) (owner : InstanceId) : Prop where
  handles : t.gateway.openHandles owner = 0
  connections : t.flights = [] → ∀ socket ∈ t.given owner, t.LeftBy owner socket
  slots : t.flights = [] → ∀ key pool, t.gateway.pool? key = some pool →
    pool.total = pool.idle.length +
      t.gateway.registry.entries.countP fun x => x.2.item = key ∧ x.2.owner ≠ owner

/-- An instance without handles has nothing else. -/
theorem Reachable.leavesNothing (h : Reachable config t)
    (hhandles : t.gateway.openHandles owner = 0) : t.LeavesNothing owner := by
  have hnone : ∀ x ∈ t.gateway.registry.entries, x.2.owner ≠ owner := by
    rw [Gateway.openHandles_eq, Gateway.handlesOf, List.countP_eq_zero] at hhandles
    intro x hx howner
    exact hhandles x hx (by simpa using howner)
  refine ⟨hhandles, fun hflights socket hsocket => ?_, fun hflights key pool hpool => ?_⟩
  · exact h.invariant.leftBy hflights hnone (h.opened_of_given hsocket)
  · rw [((h.accounts hpool).quiet hflights).2]
    congr 1
    apply List.countP_congr
    intro x hx
    simp [hnone x hx]

/-! ### The end of an instance -/

/-- An instance has been torn down, and that many handles may be left over. -/
structure Retirement (t : Traffic) (owner : InstanceId) (late : Nat) : Prop where
  /-- Its host refuses every call. -/
  refused : ∀ call, (Operation.guarded owner call).Refused t.gateway
  /-- Handles are taken from it once and for all. -/
  once : ∀ now reply, (Operation.retire owner).resume t.gateway now reply =
    { gateway := t.gateway, next := .done (.ok (.count 0)) }
  bounded : t.gateway.openHandles owner + t.seeking owner ≤ late
  reclaimed : t.gateway.openHandles owner = 0 → t.LeavesNothing owner

theorem seeking_resume_teardown {before after : List Operation} {now : Instant} {reply : Reply}
    (hflights : t.flights = before ++ .teardown owner :: after) :
    (t.resume before (.teardown owner) after now reply).seeking owner = t.seeking owner := by
  refine countP_flights_resume hflights (by simp [Operation.seeks]) fun op hnext hseeks => ?_
  rcases (Operation.follows_resume hnext).seeks hseeks with h | ⟨_, _, h, _⟩ <;> cases h

end Traffic

/-- The end of an instance. After its handles have been taken out of the table, its host refuses all
calls, and the handles it has again at any time are at most as many as it had requests in flight by
then. If it had none it never has a handle again, and it leaves no connection behind and no room in
a pool that is not given back. -/
theorem teardown_reclaims {config : PoolConfig} {t t' : Traffic} (h : Traffic.Reachable config t)
    {before after : List Operation} {owner : InstanceId} {now : Instant}
    (hflights : t.flights = before ++ .teardown owner :: after)
    (hgone : owner ∈ t.gateway.tornDown)
    (hsteps : Relation.ReflTransGen Traffic.Step
      (t.resume before (.teardown owner) after now .proceed) t')
    (hhosted : t'.Hosted owner) : t'.Retirement owner (t.seeking owner) := by
  have hstep : Traffic.Step t (t.resume before (.teardown owner) after now .proceed) :=
    .resume hflights .nothing
  have hgone' : owner ∈ t'.gateway.tornDown :=
    Traffic.tornDown_of_steps hsteps (hstep.tornDown hgone)
  refine ⟨fun call => Operation.Barred.refused hgone', fun now' reply => ?_, ?_, ?_⟩
  · simp [Operation.resume, hgone']
  · -- The handles are gone after the step, so only the requests in flight count from then on.
    have hhandles :
        (t.resume before (.teardown owner) after now .proceed).gateway.openHandles owner = 0 := by
      rw [Gateway.openHandles_eq]
      exact Operation.handlesOf_teardown t.gateway owner now .proceed
    have hle := Traffic.Reachable.openHandles_add_seeking_le (h.tail hstep) (hstep.tornDown hgone)
      hsteps hhosted
    rwa [hhandles, Traffic.seeking_resume_teardown hflights, zero_add] at hle
  · exact Traffic.Reachable.leavesNothing ((h.tail hstep).trans hsteps)

def retiredRun : List Traffic.Turn :=
  [.attach, .begin (.guarded 1 (.checkout ⟨1, sampleRequest⟩)), .resume 0 0 .proceed,
    .resume 0 0 .proceed, .resume 0 0 .proceed, .resume 0 0 .proceed, .resume 0 0 (.dialed (.ok 0)),
    .resume 0 0 .proceed, .begin (.retire 1), .resume 0 0 .proceed]

def reclaimedRun : List Traffic.Turn :=
  [.resume 0 0 .proceed, .resume 0 0 .proceed, .resume 0 0 (.checked true), .resume 0 0 .proceed]

theorem teardown_reclaims_guest :
    ∃ t t', (Traffic.init {}).play? retiredRun = some t ∧ t.gateway.openHandles 1 = 1 ∧
      (t.resume [] (.teardown 1) [] 0 .proceed).play? reclaimedRun = some t' ∧
      t'.Retirement 1 0 ∧ t'.LeavesNothing 1 ∧ t'.flights = [] ∧
      t'.gateway.stats (.ofConfig sampleRequest) = { idle := 1, total := 1 } := by
  let t := ((Traffic.init {}).play? retiredRun).get (by decide +kernel)
  let t₁ := t.resume [] (.teardown 1) [] 0 .proceed
  let t' := (t₁.play? reclaimedRun).get (by decide +kernel)
  have hplay : (Traffic.init {}).play? retiredRun = some t := (Option.some_get _).symm
  have hplay' : t₁.play? reclaimedRun = some t' := (Option.some_get _).symm
  have hflights : t.flights = [] ++ .teardown 1 :: [] := by decide +kernel
  have hseeking : t.seeking 1 = 0 := by decide +kernel
  have hretirement := teardown_reclaims (Traffic.reachable_of_play? .refl hplay) hflights
    (by decide +kernel) (Traffic.steps_of_play? hplay') (by decide +kernel)
  rw [hseeking] at hretirement
  refine ⟨t, t', hplay, ?_, hplay', hretirement, hretirement.reclaimed ?_, ?_, ?_⟩
  · decide +kernel
  · decide +kernel
  · decide +kernel
  · decide +kernel

/-- A guest is torn down while a request of it is past the guard of its host. The request is
answered with a handle after that. -/
def lateRequestRun : List Traffic.Turn :=
  [.attach, .begin (.guarded 1 (.checkout ⟨1, sampleRequest⟩)), .resume 0 0 .proceed,
    .begin (.retire 1), .resume 1 0 .proceed, .resume 1 0 .proceed, .resume 0 0 .proceed,
    .resume 0 0 .proceed, .resume 0 0 .proceed, .resume 0 0 (.dialed (.ok 0)), .resume 0 0 .proceed]

/-- All calls have returned, the guest can make no more, and a handle of it is live and has its room
in the pool. -/
theorem exists_not_leavesNothing :
    ∃ t, (Traffic.init {}).play? lateRequestRun = some t ∧ Traffic.Reachable {} t ∧ t.Hosted 1 ∧
      t.flights = [] ∧
      (∃ demand reply closed,
        .resume (.teardown 1) demand reply (.done (.ok (.count 0))) closed ∈ t.log) ∧
      (∀ call, (Operation.guarded 1 call).Refused t.gateway) ∧
      t.gateway.openHandles 1 = 1 ∧
      t.gateway.stats (.ofConfig sampleRequest) = { active := 1, total := 1 } ∧
      ¬ t.LeavesNothing 1 := by
  have hplay : (Traffic.init {}).play? lateRequestRun =
      some (((Traffic.init {}).play? lateRequestRun).get rfl) := rfl
  have hhandles : (((Traffic.init {}).play? lateRequestRun).get rfl).gateway.openHandles 1 = 1 := by
    decide +kernel
  refine ⟨_, hplay, Traffic.reachable_of_play? .refl hplay, ?_, rfl, ?_, ?_, hhandles, ?_, ?_⟩
  · decide +kernel
  · exact ⟨.nothing, .proceed, [], List.mem_of_getElem? (i := 5) rfl⟩
  · exact fun call => Operation.Barred.refused (List.mem_singleton.mpr rfl)
  · decide +kernel
  · intro h
    rw [h.handles] at hhandles
    cases hhandles

end DatabaseGateway
