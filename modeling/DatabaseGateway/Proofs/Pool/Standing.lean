import DatabaseGateway.Proofs.Pool.Edit
import DatabaseGateway.Proofs.Pool.Tenure

/-!
How a connection gets from one guest to the next. What is known of a connection depends on where it
is: in a pool, behind a handle, or at some stage of an operation. The lemmas say where a connection
can have been before a step, given where it is after the step.
-/

namespace DatabaseGateway

/-- How far a connection is on its way from one guest to the next. -/
inductive Standing where
  /-- It waits for the next guest, or is being probed and would wait otherwise. -/
  | waiting
  /-- It is about to be handed out. -/
  | ready
  /-- It is in a guest's hands, or as the guest has left it. -/
  | used
  /-- It is known not to be broken, and its session is being brought back to the start. -/
  | unbroken
  /-- Its session has been brought back to the start. -/
  | renewed
  deriving DecidableEq

def Checkout.standing? : Checkout → Option (Standing × PooledConnection)
  | probing conn => some (.waiting, conn)
  | entering conn => some (.ready, conn)
  | screen | locate | inspect | await | discarding | dialing | refunding _ => none

def CheckIn.standing? : CheckIn → Option (Standing × PooledConnection)
  | judging conn => some (.used, conn)
  | checking conn => some (.unbroken, conn)
  | settling conn => conn.map fun conn => (.renewed, conn)
  | taking => none

def Sweep.standing? : Sweep → Option (Standing × PooledConnection)
  | probing conn _ _ _ => some (.waiting, conn)
  | settling conn _ _ _ => conn.map fun conn => (.waiting, conn)
  | survey | enter _ | pick .. => none

/-- The connection that an operation has in its hands, and how far it is. -/
def Operation.standing? : Operation → Option (Standing × PooledConnection)
  | checkout _ stage => stage.standing?
  | sweep _ stage => stage.standing?
  | returning returns _ | drain (.returning _ returns) => returns.stage.standing?
  | drain _ | exchange .. | release _ | teardown _ | reap .. | guarded .. | retire _ => none

theorem Checkout.line_of_standing? {order : Order} {stage : Checkout} {standing : Standing}
    {conn : PooledConnection} (h : stage.standing? = some (standing, conn)) :
    .line order.key conn ∈ stage.duties order := by
  cases stage with
  | probing | entering =>
      cases h
      exact Multiset.mem_singleton_self _
  | screen | locate | inspect | await | discarding | dialing | refunding => cases h

theorem CheckIn.line_of_standing? {r : Returned} {stage : CheckIn} {standing : Standing}
    {conn : PooledConnection} (h : stage.standing? = some (standing, conn)) :
    .line r.key conn ∈ stage.duties r := by
  cases stage with
  | judging | checking =>
      cases h
      exact Multiset.mem_singleton_self _
  | settling conn =>
      obtain ⟨conn, rfl, heq⟩ := Option.map_eq_some_iff.mp h
      cases heq
      exact Multiset.mem_singleton_self _
  | taking => cases h

theorem Sweep.line_of_standing? {stage : Sweep} {standing : Standing} {conn : PooledConnection}
    (h : stage.standing? = some (standing, conn)) : ∃ key, .line key conn ∈ stage.duties := by
  cases stage with
  | probing conn key =>
      cases h
      exact ⟨key, Multiset.mem_add.mpr (.inl (Multiset.mem_singleton_self _))⟩
  | settling conn key =>
      obtain ⟨conn, rfl, heq⟩ := Option.map_eq_some_iff.mp h
      cases heq
      exact ⟨key, Multiset.mem_add.mpr (.inl (Multiset.mem_singleton_self _))⟩
  | survey | enter | pick => cases h

theorem Operation.line_of_standing? {op : Operation} {standing : Standing} {conn : PooledConnection}
    (h : op.standing? = some (standing, conn)) : ∃ key, .line key conn ∈ op.duties := by
  cases op with
  | checkout order stage => exact ⟨order.key, Checkout.line_of_standing? h⟩
  | returning returns answer => exact ⟨_, Multiset.mem_add.mpr (.inl (CheckIn.line_of_standing? h))⟩
  | sweep removed stage => exact Sweep.line_of_standing? h
  | drain stage =>
      cases stage with
      | returning seized returns =>
          exact ⟨_, Multiset.mem_add.mpr (.inl (CheckIn.line_of_standing? h))⟩
      | announce | poll | pause | seize | survey | clear => cases h
  | exchange | release | teardown | reap | guarded | retire => cases h

section Resume

variable {g : Gateway} {now : Instant} {reply : Reply}

/-! ### Into a pool -/

def PoolEdit.puts : PoolEdit → Option PooledConnection
  | park conn | restore conn => some conn
  | acquire | forget | reap .. | beginProbe | discard | empty => none

theorem PoolEdit.mem_idle_apply {e : PoolEdit} {p : Pool} {conn : PooledConnection}
    (h : conn ∈ (e.apply p).idle) : conn ∈ p.idle ∨ e.puts = some conn := by
  cases e with
  | acquire =>
      left
      rcases p.acquire_cases with ⟨last, -, heq⟩ | ⟨-, heq⟩ | heq | heq
      · rw [apply, heq] at h
        exact List.mem_of_mem_dropLast h
      all_goals
        rw [apply, heq] at h
        exact h
  | park conn' | restore conn' =>
      rcases List.mem_append.mp h with h | h
      · exact .inl h
      · exact .inr (congrArg some (List.mem_singleton.mp h).symm)
  | reap now timeout => exact .inl (List.mem_of_mem_filter h)
  | beginProbe =>
      left
      unfold apply Pool.beginProbe at h
      dsimp only at h
      split at h
      · exact h
      · next heq =>
          rw [heq]
          exact List.mem_cons_of_mem _ h
  | forget | discard => exact .inl h
  | empty => cases h

theorem CheckIn.standing?_of_puts {r : Returned} {stage : CheckIn} {key : PoolKey} {e : PoolEdit}
    {conn : PooledConnection} (hedit : stage.edit g now r = some (key, e))
    (hputs : e.puts = some conn) : g.draining = false ∧ stage.demand g = .nothing ∧ ∃ conn',
      stage.standing? = some (.renewed, conn') ∧
        conn = { conn' with holding := .idle, lastUsed := now } := by
  cases stage with
  | settling conn? =>
      cases conn? with
      | none =>
          cases hedit
          cases hputs
      | some conn' =>
          unfold edit at hedit
          dsimp only at hedit
          split at hedit
          · cases hedit
            cases hputs
          · next hdraining =>
              cases hedit
              exact ⟨by simpa using hdraining, rfl, conn', rfl, (Option.some.inj hputs).symm⟩
  | taking | judging | checking => cases hedit

/-- A connection that is put into a pool was waiting before, or has been brought back to its start.
The network is not needed for that. None is put there while the gateway drains. -/
theorem Operation.standing?_of_puts {op : Operation} {key : PoolKey} {e : PoolEdit}
    {conn : PooledConnection} (hedit : op.edit g now = some (key, e)) (hputs : e.puts = some conn) :
    g.draining = false ∧ op.demand g = .nothing ∧ (op.standing? = some (.waiting, conn) ∨
      ∃ conn', op.standing? = some (.renewed, conn') ∧
        conn = { conn' with holding := .idle, lastUsed := now }) := by
  cases op with
  | checkout order stage =>
      cases stage with
      | inspect | discarding | refunding =>
          cases hedit
          cases hputs
      | screen | locate | await | probing | dialing | entering => cases hedit
  | returning returns answer =>
      obtain ⟨hdraining, hdemand, hrenewed⟩ := CheckIn.standing?_of_puts hedit hputs
      exact ⟨hdraining, hdemand, .inr hrenewed⟩
  | reap closed stage =>
      cases stage with
      | survey => cases hedit
      | collect pools =>
          cases pools with
          | nil => cases hedit
          | cons =>
              cases hedit
              cases hputs
  | sweep removed stage =>
      cases stage with
      | pick key' rounds pools =>
          cases rounds with
          | zero => cases hedit
          | succ =>
              cases hedit
              cases hputs
      | settling conn? key' rounds pools =>
          cases conn? with
          | none =>
              cases hedit
              cases hputs
          | some conn' =>
              unfold edit Sweep.edit at hedit
              dsimp only at hedit
              split at hedit
              · cases hedit
                cases hputs
              · next hdraining =>
                  cases hedit
                  cases hputs
                  exact ⟨by simpa using hdraining, rfl, .inl rfl⟩
      | survey | enter | probing => cases hedit
  | drain stage =>
      cases stage with
      | returning seized returns =>
          obtain ⟨hdraining, hdemand, hrenewed⟩ := CheckIn.standing?_of_puts hedit hputs
          exact ⟨hdraining, hdemand, .inr hrenewed⟩
      | clear seized pools =>
          cases pools with
          | nil => cases hedit
          | cons =>
              cases hedit
              cases hputs
      | announce | poll | pause | seize | survey => cases hedit
  | exchange | release | teardown | guarded | retire => cases hedit

/-- A connection that waits after a step has waited before, or the step puts it into the pool. -/
theorem Operation.mem_idle_resume_puts {op : Operation} {key : PoolKey} {pool' : Pool}
    {conn : PooledConnection} (hpool' : (op.resume g now reply).gateway.pool? key = some pool')
    (hconn : conn ∈ pool'.idle) :
    (∃ pool, g.pool? key = some pool ∧ conn ∈ pool.idle) ∨
      ∃ e, op.edit g now = some (key, e) ∧ e.puts = some conn := by
  by_cases hlocate : ∃ order, op = .checkout order .locate
  · left
    obtain ⟨order, rfl⟩ := hlocate
    have hensure : (g.ensurePool order.key order.request.poolSize.toNat).pool? key = some pool' :=
      hpool'
    rw [Gateway.pool?_ensurePool] at hensure
    split at hensure
    · next hkey =>
        subst hkey
        obtain rfl := Option.some.inj hensure
        cases hpool : g.pool? order.key with
        | none =>
            -- A new pool is empty.
            rw [hpool] at hconn
            cases hconn
        | some pool =>
            rw [hpool] at hconn
            exact ⟨pool, rfl, hconn⟩
    · exact ⟨pool', hensure, hconn⟩
  · rw [op.pool?_resume fun order heq => hlocate ⟨order, heq⟩, Gateway.pool?_edited] at hpool'
    split at hpool'
    · next key' e hedit =>
        split at hpool'
        · next hkey =>
            subst hkey
            obtain ⟨pool, hpool, rfl⟩ := Option.map_eq_some_iff.mp hpool'
            rcases PoolEdit.mem_idle_apply hconn with hold | hputs
            · exact .inl ⟨pool, hpool, hold⟩
            · exact .inr ⟨e, hedit, hputs⟩
        · exact .inl ⟨pool', hpool', hconn⟩
    · exact .inl ⟨pool', hpool', hconn⟩

theorem Operation.mem_idle_resume {op : Operation} {key : PoolKey} {pool' : Pool}
    {conn : PooledConnection} (hpool' : (op.resume g now reply).gateway.pool? key = some pool')
    (hconn : conn ∈ pool'.idle) :
    (∃ pool, g.pool? key = some pool ∧ conn ∈ pool.idle) ∨
      op.standing? = some (.waiting, conn) ∨ ∃ conn', op.standing? = some (.renewed, conn') ∧
        conn = { conn' with holding := .idle, lastUsed := now } := by
  rcases op.mem_idle_resume_puts hpool' hconn with hold | ⟨e, hedit, hputs⟩
  · exact .inl hold
  · exact .inr (Operation.standing?_of_puts hedit hputs).2.2

/-! ### Behind a handle -/

theorem CheckIn.held_resume_subset (r : Returned) (stage : CheckIn) :
    (stage.resume g now r reply).gateway.held ⊆ g.held := by
  cases stage with
  | taking =>
      unfold resume
      dsimp only
      split
      · exact List.Subset.refl _
      · exact List.filter_subset_self _
  | judging conn =>
      unfold resume
      dsimp only
      split <;> exact List.Subset.refl _
  | checking conn => exact List.Subset.refl _
  | settling conn =>
      cases conn with
      | none => exact List.Subset.refl _
      | some conn =>
          unfold resume
          dsimp only
          split <;> exact List.Subset.refl _

theorem Drain.held_resume_subset (stage : Drain) :
    (stage.resume g now reply).gateway.held ⊆ g.held := by
  cases stage with
  | returning seized returns =>
      exact CheckIn.held_resume_subset returns.current returns.stage
  | clear seized pools =>
      cases pools with
      | nil => exact List.Subset.refl _
      | cons key pools =>
          unfold resume
          dsimp only
          split <;> exact List.Subset.refl _
  | poll deadline =>
      unfold resume
      dsimp only
      split <;> exact List.Subset.refl _
  | announce | pause | seize | survey => exact List.Subset.refl _

theorem Checkout.mem_held_resume {order : Order} {stage : Checkout}
    {x : Handle × PooledConnection} (h : x ∈ (stage.resume g now order reply).gateway.held) :
    x ∈ g.held ∨ ∃ conn, stage = .entering conn ∧
      (stage.resume g now order reply).next = .done (.ok x.1) ∧
      x.2 = { conn with holding := .checkedOut, lastUsed := now } := by
  by_cases hstage : ∃ conn, stage = .entering conn
  · obtain ⟨conn, rfl⟩ := hstage
    unfold resume at h ⊢
    dsimp only at h ⊢
    split at h
    · next handle g' hissue =>
        obtain ⟨registry, -, rfl⟩ := Gateway.issue_eq_ok hissue
        rcases List.mem_append.mp h with hold | hnew
        · exact .inl hold
        · obtain rfl := List.mem_singleton.mp hnew
          exact .inr ⟨conn, rfl, rfl, rfl⟩
    · exact .inl h
  · have hframe : { (stage.resume g now order reply).gateway with pools := g.pools } = g :=
      stage.resume_frame order fun conn heq => hstage ⟨conn, heq⟩
    exact .inl (congrArg Gateway.held hframe ▸ h)

/-- A transfer leaves its marks on the connection that the handle has. -/
theorem Exchange.mem_held_resume {handle : Handle} {stage : Exchange}
    {x : Handle × PooledConnection} (h : x ∈ (stage.resume g now handle reply).gateway.held) :
    (x ∈ g.held ∧ (stage = .transfer → x.1 = handle → g.held? handle = none)) ∨
      ∃ conn, stage = .transfer ∧ x.1 = handle ∧ (handle, conn) ∈ g.held ∧
        x.2 = { conn with
          lastUsed := now, healthy := conn.healthy && (Exchange.outcome reply).2 } := by
  unfold resume at h
  cases stage with
  | fetch =>
      left
      refine ⟨?_, by rintro ⟨⟩⟩
      dsimp only at h
      split at h <;> exact h
  | transfer =>
      dsimp only at h
      split at h
      · next hnone => exact .inl ⟨h, fun _ _ => hnone⟩
      · obtain ⟨⟨handle', conn⟩, hconn, rfl⟩ := List.mem_map.mp h
        dsimp only
        by_cases heq : handle' = handle
        · subst heq
          rw [if_pos rfl]
          exact .inr ⟨conn, rfl, rfl, hconn, rfl⟩
        · rw [if_neg heq]
          exact .inl ⟨hconn, fun _ hsame => absurd hsame heq⟩

/-- A connection behind a handle after a step was there before, has just been used, or has just been
handed out. -/
theorem Operation.mem_held_resume {op : Operation} {x : Handle × PooledConnection}
    (h : x ∈ (op.resume g now reply).gateway.held) :
    (x ∈ g.held ∧ ∀ use, op = exchange x.1 use .transfer → g.held? x.1 = none) ∨
      (∃ use conn, op = exchange x.1 use .transfer ∧ (x.1, conn) ∈ g.held ∧
        x.2 = { conn with
          lastUsed := now, healthy := conn.healthy && (Exchange.outcome reply).2 }) ∨
      ∃ order conn, op = checkout order (.entering conn) ∧
        (op.resume g now reply).next = .done (.ok (.handle x.1)) ∧
        x.2 = { conn with holding := .checkedOut, lastUsed := now } := by
  cases op with
  | checkout order stage =>
      obtain hold | ⟨conn, rfl, hnext, hentered⟩ := Checkout.mem_held_resume h
      · exact .inl ⟨hold, by rintro _ ⟨⟩⟩
      · refine .inr (.inr ⟨order, conn, rfl, ?_, hentered⟩)
        rw [resume, Progress.lift, hnext]
        rfl
  | exchange handle use stage =>
      obtain ⟨hold, hnone⟩ | ⟨conn, rfl, rfl, hused⟩ := Exchange.mem_held_resume h
      · refine .inl ⟨hold, fun use' heq => ?_⟩
        injection heq with hhandle _ hstage
        exact hhandle ▸ hnone hstage hhandle.symm
      · exact .inr (.inl ⟨use, conn, rfl, hused⟩)
  | release handle =>
      unfold resume at h
      dsimp only at h
      split at h <;> exact .inl ⟨h, by rintro _ ⟨⟩⟩
  | teardown owner => exact .inl ⟨h, by rintro _ ⟨⟩⟩
  | returning returns answer =>
      exact .inl ⟨CheckIn.held_resume_subset returns.current returns.stage h,
        by rintro _ ⟨⟩⟩
  | reap closed stage =>
      have hframe : { (stage.resume g now closed).gateway with pools := g.pools } = g :=
        stage.resume_frame closed
      exact .inl ⟨congrArg Gateway.held hframe ▸ h, by rintro _ ⟨⟩⟩
  | sweep removed stage =>
      have hframe : { (stage.resume g removed reply).gateway with pools := g.pools } = g :=
        stage.resume_frame removed
      exact .inl ⟨congrArg Gateway.held hframe ▸ h, by rintro _ ⟨⟩⟩
  | drain stage => exact .inl ⟨stage.held_resume_subset h, by rintro _ ⟨⟩⟩
  | guarded owner call =>
      unfold resume at h
      dsimp only at h
      split at h <;> exact .inl ⟨h, by rintro _ ⟨⟩⟩
  | retire owner =>
      unfold resume at h
      dsimp only at h
      split at h <;> exact .inl ⟨h, by rintro _ ⟨⟩⟩

/-! ### Into the hands of an operation -/

/-- Where the connection comes from that an operation has in its hands after a step. -/
inductive Operation.Arrives (g : Gateway) (op : Operation) (reply : Reply) :
    Standing → PooledConnection → Prop
  | picked {standing : Standing} {key : PoolKey} {pool : Pool} {conn : PooledConnection}
      (hstanding : standing = .waiting ∨ standing = .ready ∧ g.config.probeOnCheckout = false)
      (hpool : g.pool? key = some pool) (hconn : conn ∈ pool.idle) :
      Arrives g op reply standing conn
  | taken {returns : CheckIns} {conn : PooledConnection} (hop : op.checkIns? = some returns)
      (hheld : g.held? returns.current.handle = some conn) : Arrives g op reply .used conn
  | opened {conn : PooledConnection} (hopened : conn.socket ∈ reply.opened) :
      Arrives g op reply .ready conn
  | passed {standing : Standing} {conn : PooledConnection}
      (hstanding : standing = .waiting ∨ standing = .ready)
      (hop : op.standing? = some (.waiting, conn)) (hreply : reply = .checked true) :
      Arrives g op reply standing conn
  | judged {conn : PooledConnection} (hop : op.standing? = some (.used, conn))
      (healthy : conn.healthy = true) : Arrives g op reply .unbroken conn
  | checked {conn : PooledConnection} (hop : op.standing? = some (.unbroken, conn))
      (hreply : reply = .checked true) : Arrives g op reply .renewed conn

theorem PooledConnection.survivor_eq_some {conn conn' : PooledConnection}
    (h : conn.survivor reply = some conn') : conn' = conn ∧ reply = .checked true := by
  unfold survivor at h
  split at h
  · exact ⟨(Option.some.inj h).symm, rfl⟩
  · cases h

theorem Checkout.arrives {order : Order} {stage stage' : Checkout}
    (hnext : (stage.resume g now order reply).next = .stage stage') {standing : Standing}
    {conn : PooledConnection} (h : stage'.standing? = some (standing, conn)) :
    (Operation.checkout order stage).Arrives g reply standing conn := by
  cases stage with
  | screen =>
      unfold resume at hnext
      dsimp only at hnext
      split at hnext
      · cases hnext
      · split at hnext <;> cases hnext
        cases h
  | inspect =>
      unfold resume at hnext
      dsimp only at hnext
      split at hnext
      · cases hnext
        cases h
      · next pool hpool =>
          unfold inspectPool at hnext
          rcases pool.acquire_cases with ⟨last, hlast, heq⟩ | ⟨-, heq⟩ | heq | heq
          · -- The connection is probed first, or handed out as it is.
            have hmem := List.mem_of_getLast? hlast
            simp only [heq] at hnext
            split at hnext <;> cases hnext <;> cases h
            · exact .picked (.inl rfl) hpool hmem
            · next hprobe => exact .picked (.inr ⟨rfl, by simpa using hprobe⟩) hpool hmem
          · rw [heq] at hnext
            cases hnext
            cases h
          · rw [heq] at hnext
            cases hnext
            cases h
          · rw [heq] at hnext
            cases hnext
  | probing conn' =>
      unfold resume at hnext
      dsimp only at hnext
      split at hnext <;> cases hnext
      · next hsurvivor =>
          obtain ⟨rfl, hreply⟩ := PooledConnection.survivor_eq_some hsurvivor
          cases h
          exact .passed (.inr rfl) rfl hreply
      · cases h
  | dialing =>
      unfold resume at hnext
      dsimp only at hnext
      split at hnext <;> cases hnext <;> cases h
      exact .opened (List.mem_singleton_self _)
  | entering conn' =>
      unfold resume at hnext
      dsimp only at hnext
      split at hnext <;> cases hnext
      cases h
  | locate | await | discarding =>
      cases hnext
      cases h
  | refunding => cases hnext

theorem CheckIn.arrives {op : Operation} {returns : CheckIns} {stage' : CheckIn}
    (hop : op.checkIns? = some returns) (hstanding : op.standing? = returns.stage.standing?)
    (hnext : (returns.stage.resume g now returns.current reply).next = .stage stage')
    {standing : Standing} {conn : PooledConnection}
    (h : stage'.standing? = some (standing, conn)) : op.Arrives g reply standing conn := by
  cases hstage : returns.stage with
  | taking =>
      rw [hstage] at hnext
      unfold resume at hnext
      dsimp only at hnext
      split at hnext <;> cases hnext
      next hheld =>
        cases h
        exact .taken hop hheld
  | judging conn' =>
      rw [hstage] at hnext hstanding
      unfold resume at hnext
      dsimp only at hnext
      split at hnext <;> cases hnext
      · cases h
      · next hsound =>
          cases h
          simp only [Bool.or_eq_true, Bool.not_eq_true', not_or, Bool.not_eq_false] at hsound
          exact .judged hstanding hsound.1
  | checking conn' =>
      rw [hstage] at hnext hstanding
      cases hnext
      obtain ⟨conn'', hsurvivor, heq⟩ := Option.map_eq_some_iff.mp h
      obtain ⟨rfl, hreply⟩ := PooledConnection.survivor_eq_some hsurvivor
      cases heq
      exact .checked hstanding hreply
  | settling conn? =>
      rw [hstage] at hnext
      cases conn? with
      | none => cases hnext
      | some conn' =>
          unfold resume at hnext
          dsimp only at hnext
          split at hnext <;> cases hnext

theorem CheckIns.standing?_ofList? {l : List Returned} {returns : CheckIns}
    (h : ofList? l = some returns) : returns.stage.standing? = none := by
  cases l with
  | nil => cases h
  | cons => cases h; rfl

theorem CheckIns.arrives {op : Operation} {returns returns' : CheckIns}
    (hop : op.checkIns? = some returns) (hstanding : op.standing? = returns.stage.standing?)
    (hnext : (returns.resume g now reply).next = .stage returns') {standing : Standing}
    {conn : PooledConnection} (h : returns'.stage.standing? = some (standing, conn)) :
    op.Arrives g reply standing conn := by
  have hmem : returns' ∈ (returns.resume g now reply).next.stages := by
    rw [hnext]
    exact List.mem_singleton_self _
  rcases Progress.mem_stages_lift hmem with ⟨stage, hstage, hs⟩ | ⟨u, -, hu⟩
  · rw [List.mem_singleton.mp hs] at h
    exact CheckIn.arrives hop hstanding hstage h
  · split at hu
    · next hof =>
        rw [List.mem_singleton.mp hu, standing?_ofList? hof] at h
        cases h
    · cases hu

theorem Sweep.arrives {removed removed' : Nat} {stage stage' : Sweep}
    (hnext : (stage.resume g removed reply).next = .stage (removed', stage')) {standing : Standing}
    {conn : PooledConnection} (h : stage'.standing? = some (standing, conn)) :
    (Operation.sweep removed stage).Arrives g reply standing conn := by
  cases stage with
  | survey =>
      cases hnext
      cases h
  | enter pools =>
      cases pools with
      | nil => cases hnext
      | cons key pools =>
          unfold resume at hnext
          dsimp only at hnext
          split at hnext <;> cases hnext <;> cases h
  | pick key rounds pools =>
      cases rounds with
      | zero =>
          cases hnext
          cases h
      | succ rounds =>
          unfold resume at hnext
          dsimp only at hnext
          split at hnext <;> cases hnext <;> cases h
          next hprobe =>
            obtain ⟨pool, hpool, hbegin⟩ := Option.map_eq_some_iff.mp hprobe
            refine .picked (.inl rfl) hpool ?_
            unfold Pool.beginProbe at hbegin
            split at hbegin <;> cases hbegin
            next hidle =>
              rw [hidle]
              exact List.mem_cons_self
  | probing conn' key rounds pools =>
      cases hnext
      obtain ⟨conn'', hsurvivor, heq⟩ := Option.map_eq_some_iff.mp h
      obtain ⟨rfl, hreply⟩ := PooledConnection.survivor_eq_some hsurvivor
      cases heq
      exact .passed (.inl rfl) rfl hreply
  | settling conn? key rounds pools =>
      cases conn? with
      | none =>
          cases hnext
          cases h
      | some conn' =>
          unfold resume at hnext
          dsimp only at hnext
          split at hnext <;> cases hnext <;> cases h

theorem Drain.arrives {stage stage' : Drain}
    (hnext : (stage.resume g now reply).next = .stage stage') {standing : Standing}
    {conn : PooledConnection} (h : (Operation.drain stage').standing? = some (standing, conn)) :
    (Operation.drain stage).Arrives g reply standing conn := by
  cases stage with
  | returning seized returns =>
      rw [resume, Progress.lift] at hnext
      dsimp only at hnext
      split at hnext <;> cases hnext
      · next hreturns => exact CheckIns.arrives rfl rfl hreturns h
      · cases h
  | seize =>
      unfold resume at hnext
      dsimp only at hnext
      split at hnext <;> cases hnext
      · next hof =>
          have hnone := CheckIns.standing?_ofList? hof
          rw [Operation.standing?, hnone] at h
          cases h
      · cases h
  | poll deadline =>
      unfold resume at hnext
      dsimp only at hnext
      split at hnext <;> cases hnext <;> cases h
  | clear seized pools =>
      cases pools with
      | nil => cases hnext
      | cons key pools =>
          unfold resume at hnext
          dsimp only at hnext
          split at hnext <;> cases hnext <;> cases h
  | announce | pause | survey =>
      cases hnext
      cases h

theorem Operation.standing?_takeBack (taken : List (Handle × Entry PoolKey)) (answer : Answer)
    {op : Operation} (hop : op ∈ (takeBack taken answer).stages) : op.standing? = none := by
  unfold takeBack at hop
  split at hop
  · next hof =>
      rw [List.mem_singleton.mp hop]
      exact CheckIns.standing?_ofList? hof
  · cases hop

/-- The connection in the hands of an operation after a step comes from a pool, from a handle, from
the network, or from the stage before. -/
theorem Operation.arrives {op op' : Operation} (hnext : op' ∈ (op.resume g now reply).next.stages)
    {standing : Standing} {conn : PooledConnection} (h : op'.standing? = some (standing, conn)) :
    op.Arrives g reply standing conn := by
  cases op with
  | checkout order stage =>
      rcases Progress.mem_stages_lift hnext with ⟨stage', hstage, hs⟩ | ⟨r, -, hr⟩
      · rw [List.mem_singleton.mp hs] at h
        exact Checkout.arrives hstage h
      · cases hr
  | returning returns answer =>
      rcases Progress.mem_stages_lift hnext with ⟨returns', hreturns, hs⟩ | ⟨r, -, hr⟩
      · rw [List.mem_singleton.mp hs] at h
        exact CheckIns.arrives rfl rfl hreturns h
      · cases hr
  | sweep removed stage =>
      rcases Progress.mem_stages_lift hnext with ⟨⟨removed', stage'⟩, hstage, hs⟩ | ⟨r, -, hr⟩
      · rw [List.mem_singleton.mp hs] at h
        exact Sweep.arrives hstage h
      · cases hr
  | drain stage =>
      rcases Progress.mem_stages_lift hnext with ⟨stage', hstage, hs⟩ | ⟨r, -, hr⟩
      · rw [List.mem_singleton.mp hs] at h
        exact Drain.arrives hstage h
      · cases hr
  | release handle =>
      unfold resume at hnext
      dsimp only at hnext
      split at hnext
      · cases hnext
      · next entry registry _ =>
          rw [standing?_takeBack [(handle, entry)] .done hnext] at h
          cases h
  | teardown owner =>
      have hnone : op'.standing? = none := standing?_takeBack _ _ hnext
      rw [hnone] at h
      cases h
  | exchange handle use stage =>
      cases follows_resume hnext
      cases h
  | reap closed stage =>
      cases follows_resume hnext
      cases h
  | guarded owner call =>
      cases follows_resume hnext
      cases call <;> cases h
  | retire owner =>
      cases follows_resume hnext
      cases h

end Resume

/-! ### Checks -/

theorem PooledConnection.check_eq {conn : PooledConnection} {reset reset' probe probe' : Bool}
    {socket : Nat} (h : conn.check reset probe = .check socket reset' probe') :
    conn.socket = socket ∧ reset = reset' ∧ probe = probe' := by
  unfold check at h
  split at h
  · injection h with hsocket hreset hprobe
    exact ⟨hsocket, hreset, hprobe⟩
  · cases h

/-- How a connection is checked: its session is brought back to the start when it is taken back, and
it is probed while it waits. -/
inductive Standing.Checked (g : Gateway) : Standing → (reset probe : Bool) → Prop
  | back : Checked g .unbroken true g.config.probeOnCheckin
  | waits : Checked g .waiting false true

theorem CheckIn.demand_check {g : Gateway} {stage : CheckIn} {socket : Nat} {reset probe : Bool}
    (h : stage.demand g = .check socket reset probe) :
    ∃ standing conn, stage.standing? = some (standing, conn) ∧ conn.socket = socket ∧
      standing.Checked g reset probe := by
  cases stage with
  | checking conn =>
      obtain ⟨hsocket, rfl, rfl⟩ := PooledConnection.check_eq h
      exact ⟨.unbroken, conn, rfl, hsocket, .back⟩
  | taking | judging | settling => cases h

/-- What is checked is a connection in the hands of the operation. -/
theorem Operation.demand_check {g : Gateway} {op : Operation} {socket : Nat} {reset probe : Bool}
    (h : op.demand g = .check socket reset probe) :
    ∃ standing conn, op.standing? = some (standing, conn) ∧ conn.socket = socket ∧
      standing.Checked g reset probe := by
  cases op with
  | checkout order stage =>
      cases stage with
      | probing conn =>
          obtain ⟨hsocket, rfl, rfl⟩ := PooledConnection.check_eq h
          exact ⟨.waiting, conn, rfl, hsocket, .waits⟩
      | screen | locate | inspect | await | discarding | dialing | refunding | entering => cases h
  | exchange handle use stage =>
      cases stage with
      | fetch => cases h
      | transfer =>
          unfold demand Exchange.demand at h
          dsimp only at h
          split at h
          · cases h
          · next conn _ =>
              rcases Exchange.call_cases g.config conn use with heq | ⟨_, heq⟩ | ⟨_, heq⟩ <;>
                · rw [heq] at h
                  cases h
  | returning returns answer => exact CheckIn.demand_check h
  | sweep removed stage =>
      cases stage with
      | probing conn =>
          obtain ⟨hsocket, rfl, rfl⟩ := PooledConnection.check_eq h
          exact ⟨.waiting, conn, rfl, hsocket, .waits⟩
      | survey | enter | pick | settling => cases h
  | drain stage =>
      cases stage with
      | returning seized returns => exact CheckIn.demand_check h
      | announce | poll | pause | seize | survey | clear => cases h
  | release | teardown | reap | guarded | retire => cases h

/-- Only a connection that is being taken back is brought back to the start. -/
theorem Operation.demand_reset {g : Gateway} {op : Operation} {socket : Nat} {probe : Bool}
    (h : op.demand g = .check socket true probe) :
    ∃ conn, op.standing? = some (.unbroken, conn) ∧ conn.socket = socket := by
  obtain ⟨standing, conn, hstanding, hsocket, hchecked⟩ := op.demand_check h
  cases hchecked
  exact ⟨conn, hstanding, hsocket⟩

theorem CheckIn.demand_unbroken {stage : CheckIn} {conn : PooledConnection}
    (h : stage.standing? = some (.unbroken, conn)) (hhealthy : conn.healthy = true) (g : Gateway) :
    stage.demand g = .check conn.socket true g.config.probeOnCheckin := by
  cases stage with
  | checking conn' =>
      cases h
      exact if_pos hhealthy
  | settling conn? =>
      obtain ⟨conn', -, heq⟩ := Option.map_eq_some_iff.mp h
      cases heq
  | taking | judging => cases h

theorem Operation.demand_unbroken {op : Operation} {conn : PooledConnection}
    (h : op.standing? = some (.unbroken, conn)) (hhealthy : conn.healthy = true) (g : Gateway) :
    op.demand g = .check conn.socket true g.config.probeOnCheckin := by
  cases op with
  | checkout order stage => cases stage <;> cases h
  | returning returns answer => exact CheckIn.demand_unbroken h hhealthy g
  | sweep removed stage =>
      cases stage with
      | settling conn? =>
          obtain ⟨conn', -, heq⟩ := Option.map_eq_some_iff.mp h
          cases heq
      | survey | enter | pick | probing => cases h
  | drain stage =>
      cases stage with
      | returning seized returns => exact CheckIn.demand_unbroken h hhealthy g
      | announce | poll | pause | seize | survey | clear => cases h
  | exchange | release | teardown | reap | guarded | retire => cases h

end DatabaseGateway
