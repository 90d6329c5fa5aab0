import DatabaseGateway.Proofs.Pool.Frame
import DatabaseGateway.Proofs.Pool.Invariant

/-!
The life of a handle, step by step. A handle is issued; it is taken out of the table by a release,
by the end of its instance or by draining; and then its connection is taken from it. What a move
says about handles is read off the operation and its next stage, and `HandleStep` balances that with
what the step does to the shared state.
-/

namespace DatabaseGateway

namespace Operation

def issued : Operation → Next Operation Result → List Handle
  | checkout .., .done (.ok (.handle h)) => [h]
  | _, _ => []

def checkIns? : Operation → Option CheckIns
  | returning returns _ | drain (.returning _ returns) => some returns
  | _ => none

def released : Operation → Next Operation Result → List Handle
  | release h, .stage _ => [h]
  | _, _ => []

def seized : Operation → Next Operation Result → List Handle
  | teardown _, .stage op | drain .seize, .stage op =>
    (op.checkIns?.map fun c => (c.current :: c.waiting).map (·.handle)).getD []
  | _, _ => []

end Operation

def CheckIns.taken (c : CheckIns) : List Returned :=
  match c.stage with
  | .taking => [c.current]
  | .judging _ | .checking _ | .settling _ => []

/-- The handles that are out of the table and still have their connections. -/
def CheckIns.outstanding (c : CheckIns) : List Returned := c.taken ++ c.waiting

namespace Operation

def taken (op : Operation) : List Handle :=
  (op.checkIns?.map fun c => c.taken.map (·.handle)).getD []

def outstanding (op : Operation) : List Handle :=
  (op.checkIns?.map fun c => c.outstanding.map (·.handle)).getD []

/-- The handle of a release that has been accepted and not answered yet. -/
def releasing : Operation → List Handle
  | returning returns .done => [returns.current.handle]
  | _ => []

def answered : Operation → Next Operation Result → List Handle
  | returning returns .done, .done (.ok .done) => [returns.current.handle]
  | _, _ => []

end Operation

namespace Move

def issued : Move → List Handle
  | resume op _ _ next _ => op.issued next
  | begin _ | attach | settle .. => []

def released : Move → List Handle
  | resume op _ _ next _ => op.released next
  | begin _ | attach | settle .. => []

def seized : Move → List Handle
  | resume op _ _ next _ => op.seized next
  | begin _ | attach | settle .. => []

def taken : Move → List Handle
  | resume op _ _ _ _ => op.taken
  | begin _ | attach | settle .. => []

def answered : Move → List Handle
  | resume op _ _ next _ => op.answered next
  | begin _ | attach | settle .. => []

end Move

namespace Traffic

def issued (t : Traffic) : List Handle := t.log.flatMap Move.issued

def released (t : Traffic) : List Handle := t.log.flatMap Move.released

def seized (t : Traffic) : List Handle := t.log.flatMap Move.seized

def taken (t : Traffic) : List Handle := t.log.flatMap Move.taken

def answered (t : Traffic) : List Handle := t.log.flatMap Move.answered

def outstanding (t : Traffic) : List Handle := t.flights.flatMap Operation.outstanding

def releasing (t : Traffic) : List Handle := t.flights.flatMap Operation.releasing

end Traffic

/-! ### One step -/

section Resume

variable {g : Gateway} {now : Instant} {reply : Reply}

theorem Checkout.resume_ne_ok (order : Order) (stage : Checkout)
    (hstage : ∀ conn, stage ≠ .entering conn) (handle : Handle) :
    (stage.resume g now order reply).next ≠ .done (.ok handle) := by
  intro h
  cases stage with
  | entering conn => exact hstage conn rfl
  | screen =>
      unfold resume at h
      dsimp only at h
      split at h
      · cases h
      · split at h <;> cases h
  | inspect =>
      unfold resume at h
      dsimp only at h
      split at h
      · cases h
      · next pool hpool =>
          unfold inspectPool at h
          rcases hacquire : pool.acquire with ⟨acquired, pool'⟩
          rw [hacquire] at h
          cases acquired <;> cases h
  | locate | await | probing | discarding | dialing | refunding => cases h

/-- A request issues the handle it is answered with, and otherwise leaves the table alone. -/
theorem Checkout.resume_registry (order : Order) (stage : Checkout) :
    (∃ handle key, (stage.resume g now order reply).next = .done (.ok handle) ∧
        g.registry.insert order.owner key =
          .ok (handle, (stage.resume g now order reply).gateway.registry)) ∨
      ((∀ handle, (stage.resume g now order reply).next ≠ .done (.ok handle)) ∧
        (stage.resume g now order reply).gateway.registry = g.registry) := by
  by_cases hstage : ∃ conn, stage = .entering conn
  · obtain ⟨conn, rfl⟩ := hstage
    unfold resume
    dsimp only
    split
    · next handle g' hissue =>
        obtain ⟨registry, hinsert, rfl⟩ := Gateway.issue_eq_ok hissue
        exact .inl ⟨handle, conn.key, rfl, hinsert⟩
    · refine .inr ⟨fun _ h => ?_, rfl⟩
      cases h
  · have hne : ∀ conn, stage ≠ .entering conn := fun conn heq => hstage ⟨conn, heq⟩
    have hframe : { (stage.resume g now order reply).gateway with pools := g.pools } = g :=
      stage.resume_frame order hne
    have hregistry := congrArg Gateway.registry hframe
    exact .inr ⟨stage.resume_ne_ok order hne, hregistry⟩

/-! ### The laws of one step -/

/-- What a step does to handles: those in the table, those on their way back, and the releases that
have not been answered. -/
structure HandleStep (g : Gateway) (op : Operation) (p : Progress Operation Operation.Result) :
    Prop where
  table : (↑(g.registry.entries.map (·.1)) : Multiset Handle) + ↑(op.issued p.next) =
    ↑(p.gateway.registry.entries.map (·.1)) + (↑(op.released p.next) + ↑(op.seized p.next))
  outstanding : (↑op.outstanding : Multiset Handle) +
      (↑(op.released p.next) + ↑(op.seized p.next)) =
    ↑(p.next.stages.flatMap Operation.outstanding) + ↑op.taken
  releasing : (↑op.releasing : Multiset Handle) + ↑(op.released p.next) =
    ↑(p.next.stages.flatMap Operation.releasing) + ↑(op.answered p.next)

theorem Operation.releasing_of_checkIns? {op : Operation} (h : op.checkIns? = none) :
    op.releasing = [] := by
  cases op with
  | returning => cases h
  | _ => rfl

/-- A step of an operation that neither takes handles out nor has any of them. -/
theorem HandleStep.quiet {op : Operation} {p : Progress Operation Operation.Result}
    (hregistry : p.gateway.registry = g.registry) (hissued : op.issued p.next = [])
    (hreleased : op.released p.next = []) (hseized : op.seized p.next = [])
    (hcheckIns : op.checkIns? = none) (hnext : ∀ op' ∈ p.next.stages, op'.checkIns? = none)
    (hreleasing : op.releasing = []) (hanswered : op.answered p.next = []) :
    HandleStep g op p := by
  have houtstanding : p.next.stages.flatMap Operation.outstanding = [] := by
    rw [List.flatMap_eq_nil_iff]
    intro op' hop'
    rw [Operation.outstanding, hnext op' hop']
    rfl
  have hreleases : p.next.stages.flatMap Operation.releasing = [] := by
    rw [List.flatMap_eq_nil_iff]
    exact fun op' hop' => Operation.releasing_of_checkIns? (hnext op' hop')
  refine ⟨?_, ?_, ?_⟩
  · rw [hregistry, hissued, hreleased, hseized]
    rfl
  · rw [houtstanding, hreleased, hseized, Operation.outstanding, Operation.taken, hcheckIns]
    rfl
  · rw [hreleases, hreleasing, hreleased, hanswered]

theorem Progress.checkIns?_lift {σ ρ : Type} {p : Progress σ ρ} {onStage : σ → Operation}
    {onDone : ρ → Operation.Result} (hstage : ∀ s, (onStage s).checkIns? = none) :
    ∀ op ∈ (p.lift (fun s => .stage (onStage s)) fun r => .done (onDone r)).next.stages,
      op.checkIns? = none := by
  intro op hop
  rcases mem_stages_lift hop with ⟨s, -, hs⟩ | ⟨r, -, hr⟩
  · rw [List.mem_singleton.mp hs]
    exact hstage s
  · cases hr

theorem Operation.checkout_resume_registry (order : Order) (stage : Checkout) :
    (∃ handle key,
        ((checkout order stage).resume g now reply).next = .done (.ok (.handle handle)) ∧
        g.registry.insert order.owner key =
          .ok (handle, ((checkout order stage).resume g now reply).gateway.registry)) ∨
      ((checkout order stage).issued ((checkout order stage).resume g now reply).next = [] ∧
        ((checkout order stage).resume g now reply).gateway.registry = g.registry) := by
  rcases stage.resume_registry order with ⟨handle, key, hdone, hinsert⟩ | ⟨hne, hregistry⟩
  · refine .inl ⟨handle, key, ?_, hinsert⟩
    rw [resume, Progress.lift, hdone]
    rfl
  · refine .inr ⟨?_, hregistry⟩
    rw [resume, Progress.lift]
    cases hnext : (stage.resume g now order reply).next with
    | stage s => rfl
    | done result =>
        cases result with
        | error e => rfl
        | ok handle => exact absurd hnext (hne handle)

theorem Operation.checkout_handleStep (hr : g.registry.Sound) (order : Order) (stage : Checkout) :
    HandleStep g (checkout order stage) ((checkout order stage).resume g now reply) := by
  rcases checkout_resume_registry order stage with ⟨handle, key, hnext, hinsert⟩ |
    ⟨hissued, hregistry⟩
  · refine ⟨?_, ?_, ?_⟩
    · rw [hnext]
      have hentries := (hr.insert_entries hinsert).map (·.1)
      show _ = (↑(((checkout order stage).resume g now reply).gateway.registry.entries.map (·.1)) :
        Multiset Handle) + 0
      rw [Multiset.coe_eq_coe.mpr hentries, List.map_cons, ← Multiset.cons_coe,
        ← Multiset.singleton_add, add_zero, add_comm]
      rfl
    · rw [hnext]
      rfl
    · rw [hnext]
      rfl
  · exact .quiet hregistry hissued rfl rfl rfl (Progress.checkIns?_lift fun _ => rfl) rfl rfl

/-- Returns that go on have fewer handles outstanding, if they take a connection, and the same ones
otherwise. -/
theorem CheckIns.outstanding_resume (c : CheckIns) :
    c.outstanding = c.taken ++ (c.resume g now reply).next.stages.flatMap CheckIns.outstanding := by
  rcases c.resume_next with ⟨stage, hstage, hnext⟩ | ⟨current, waiting, hwaiting, hnext⟩ |
    ⟨hwaiting, hnext⟩
  · rw [hnext, outstanding]
    congr 1
    cases stage with
    | taking => exact absurd rfl hstage
    | judging | checking | settling => simp [Next.stages, outstanding, taken]
  · rw [hnext, outstanding, hwaiting]
    simp [Next.stages, outstanding, taken]
  · rw [hnext, outstanding, hwaiting]
    rfl

/-- The handles that are outstanding after a step of returns, whatever the returns are part of. -/
theorem CheckIns.outstanding_lift (op : Operation) (returns : CheckIns)
    {onStage : CheckIns → Next Operation Operation.Result}
    {onDone : Unit → Next Operation Operation.Result} (hop : op.checkIns? = some returns)
    (hstage : ∀ c, (onStage c).stages.flatMap Operation.outstanding =
      c.outstanding.map (·.handle))
    (hdone : (onDone ()).stages.flatMap Operation.outstanding = []) :
    (↑op.outstanding : Multiset Handle) + (0 + 0) =
      ↑(((returns.resume g now reply).lift onStage onDone).next.stages.flatMap
        Operation.outstanding) + ↑op.taken := by
  have houtstanding : op.outstanding = op.taken ++
      ((returns.resume g now reply).lift onStage onDone).next.stages.flatMap
        Operation.outstanding := by
    rw [Operation.outstanding, Operation.taken, hop]
    show returns.outstanding.map (·.handle) = returns.taken.map (·.handle) ++ _
    rw [returns.outstanding_resume (g := g), List.map_append, Progress.lift]
    congr 1
    cases hnext : (returns.resume g now reply).next with
    | stage c => simpa [Next.stages, hnext] using (hstage c).symm
    | done r => simpa [Next.stages, hnext] using hdone.symm
  rw [houtstanding, ← Multiset.coe_add, add_zero, add_zero, add_comm]

theorem Operation.returning_handleStep (returns : CheckIns) (answer : Answer)
    (hsingle : answer = .done → returns.waiting = []) :
    HandleStep g (returning returns answer) ((returning returns answer).resume g now reply) := by
  have hframe : { (returns.stage.resume g now returns.current reply).gateway with
      pools := g.pools, held := g.held } = g := returns.stage.resume_frame returns.current
  have hregistry := congrArg Gateway.registry hframe
  refine ⟨?_, ?_, ?_⟩
  · exact congrArg (fun r : Registry PoolKey => (↑(r.entries.map (·.1)) : Multiset Handle) + 0)
      hregistry.symm
  · refine CheckIns.outstanding_lift (returning returns answer) returns rfl (fun c => ?_) rfl
    simp [Next.stages, outstanding, checkIns?]
  · rw [resume, Progress.lift]
    cases answer with
    | done =>
        have hwaiting := hsingle rfl
        rcases returns.resume_next (g := g) with ⟨stage, -, hnext⟩ | ⟨current, waiting, hcons, -⟩ |
          ⟨-, hnext⟩
        · rw [hnext]
          rfl
        · rw [hwaiting] at hcons
          cases hcons
        · rw [hnext]
          rfl
    | handle | usage | count =>
        cases (returns.resume g now reply).next with
        | stage c => rfl
        | done r => rfl

theorem Registry.Yields.handles {r r' : Registry PoolKey}
    {taken : List (Handle × Entry PoolKey)} (h : r.Yields taken r') :
    (↑(r.entries.map (·.1)) : Multiset Handle) =
      ↑(r'.entries.map (·.1)) + ↑(taken.map (·.1)) := by
  rw [Multiset.coe_eq_coe.mpr (h.entries.map _), List.map_append, ← Multiset.coe_add, add_comm]

/-- A step that takes handles out of the table, which are on their way back from then on. -/
theorem HandleStep.seize {op : Operation} {p : Progress Operation Operation.Result}
    {taken : List (Handle × Entry PoolKey)} (hyields : g.registry.Yields taken p.gateway.registry)
    (hissued : op.issued p.next = []) (hreleased : op.released p.next = [])
    (hseized : op.seized p.next = taken.map (·.1))
    (hnext : p.next.stages.flatMap Operation.outstanding = taken.map (·.1))
    (hcheckIns : op.checkIns? = none) (hreleasing : op.releasing = [])
    (hreleases : p.next.stages.flatMap Operation.releasing = [])
    (hanswered : op.answered p.next = []) : HandleStep g op p := by
  refine ⟨?_, ?_, ?_⟩
  · rw [hissued, hreleased, hseized, hyields.handles, Multiset.coe_nil, add_zero, zero_add]
  · rw [hreleased, hseized, hnext, Operation.outstanding, Operation.taken, hcheckIns, add_comm]
    rfl
  · rw [hreleasing, hreleases, hreleased, hanswered]

theorem Operation.teardown_handleStep (owner : InstanceId) :
    HandleStep g (teardown owner) ((teardown owner).resume g now reply) := by
  have hyields := g.registry.drainOwner_yields owner
  unfold resume
  dsimp only
  cases htaken : (g.registry.drainOwner owner).1 with
  | nil =>
      rw [htaken] at hyields
      exact .seize hyields rfl rfl rfl rfl rfl rfl rfl rfl
  | cons x taken =>
      rw [htaken] at hyields
      refine .seize hyields rfl rfl ?_ ?_ rfl rfl rfl rfl
      · simp [seized, takeBack, CheckIns.ofList?, CheckIns.returned, checkIns?]
      · simp [Next.stages, takeBack, CheckIns.ofList?, CheckIns.returned, outstanding, checkIns?,
          CheckIns.outstanding, CheckIns.taken]

theorem Operation.drain_handleStep (stage : Drain) :
    HandleStep g (drain stage) ((drain stage).resume g now reply) := by
  cases stage with
  | seize =>
      -- All handles are seized at once; whether any were decides where draining goes on.
      have hyields := g.registry.drainAll_yields
      unfold resume Drain.resume Progress.lift
      dsimp only
      cases htaken : g.registry.drainAll.1 with
      | nil =>
          rw [htaken] at hyields
          exact .seize hyields rfl rfl rfl rfl rfl rfl rfl rfl
      | cons x taken =>
          rw [htaken] at hyields
          refine .seize hyields rfl rfl ?_ ?_ rfl rfl rfl rfl
          · simp [seized, CheckIns.ofList?, CheckIns.returned, checkIns?]
          · simp [Next.stages, CheckIns.ofList?, CheckIns.returned, outstanding, checkIns?,
              CheckIns.outstanding, CheckIns.taken]
  | returning seized returns =>
      have hframe : { (returns.stage.resume g now returns.current reply).gateway with
          pools := g.pools, held := g.held } = g := returns.stage.resume_frame returns.current
      have hregistry := congrArg Gateway.registry hframe
      -- Draining lifts the returns twice. Once is enough.
      have hlift : (drain (.returning seized returns)).resume g now reply =
          (returns.resume g now reply).lift (fun c => .stage (drain (.returning seized c)))
            fun _ => .stage (drain (.survey seized)) := by
        unfold resume Drain.resume Progress.lift
        dsimp only
        cases (returns.resume g now reply).next <;> rfl
      rw [hlift]
      refine ⟨?_, ?_, ?_⟩
      · exact congrArg
          (fun r : Registry PoolKey => (↑(r.entries.map (·.1)) : Multiset Handle) + 0)
          hregistry.symm
      · refine CheckIns.outstanding_lift (drain (.returning seized returns)) returns rfl
          (fun c => ?_) rfl
        simp [Next.stages, outstanding, checkIns?]
      · unfold Progress.lift
        cases (returns.resume g now reply).next <;> rfl
  | announce | pause | survey =>
      refine .quiet rfl rfl rfl rfl rfl (fun op hop => ?_) rfl rfl
      rw [List.mem_singleton.mp hop]
      rfl
  | poll deadline =>
      unfold resume Drain.resume
      dsimp only
      split <;> refine .quiet rfl rfl rfl rfl rfl (fun op hop => ?_) rfl rfl <;>
        rw [List.mem_singleton.mp hop] <;> rfl
  | clear seized pools =>
      cases pools with
      | nil => exact .quiet rfl rfl rfl rfl rfl (fun _ h => by cases h) rfl rfl
      | cons key pools =>
          unfold resume Drain.resume
          dsimp only
          split <;> refine .quiet rfl rfl rfl rfl rfl (fun op hop => ?_) rfl rfl <;>
            rw [List.mem_singleton.mp hop] <;> rfl

theorem Operation.handleStep (hr : g.registry.Sound) (op : Operation)
    (hsingle : ∀ returns, op = returning returns .done → returns.waiting = []) :
    HandleStep g op (op.resume g now reply) := by
  cases op with
  | checkout order stage => exact checkout_handleStep hr order stage
  | exchange handle use stage =>
      have hframe : { (stage.resume g now handle reply).gateway with held := g.held } = g :=
        stage.resume_frame handle
      have hregistry := congrArg Gateway.registry hframe
      exact .quiet hregistry rfl rfl rfl rfl (Progress.checkIns?_lift fun _ => rfl) rfl rfl
  | release handle =>
      unfold resume
      dsimp only
      split
      · exact .quiet rfl rfl rfl rfl rfl (fun _ h => by cases h) rfl rfl
      · next entry registry hremove =>
          have htable := (Registry.remove_yields hremove).handles
          refine ⟨?_, rfl, rfl⟩
          show (↑(g.registry.entries.map (·.1)) : Multiset Handle) + 0 =
            ↑(registry.entries.map (·.1)) + (↑[handle] + 0)
          rw [htable, add_zero, add_zero]
          rfl
  | teardown owner => exact teardown_handleStep owner
  | returning returns answer =>
      exact returning_handleStep returns answer fun hanswer => hsingle returns (hanswer ▸ rfl)
  | reap closed stage =>
      have hframe : { (stage.resume g now closed).gateway with pools := g.pools } = g :=
        stage.resume_frame closed
      have hregistry := congrArg Gateway.registry hframe
      exact .quiet hregistry rfl rfl rfl rfl (Progress.checkIns?_lift fun _ => rfl) rfl rfl
  | sweep removed stage =>
      have hframe : { (stage.resume g removed reply).gateway with pools := g.pools } = g :=
        stage.resume_frame removed
      have hregistry := congrArg Gateway.registry hframe
      exact .quiet hregistry rfl rfl rfl rfl (Progress.checkIns?_lift fun _ => rfl) rfl rfl
  | drain stage => exact drain_handleStep stage
  | guarded owner call =>
      unfold resume
      dsimp only
      split
      · exact .quiet rfl rfl rfl rfl rfl (fun _ h => by cases h) rfl rfl
      · refine .quiet rfl rfl rfl rfl rfl ?_ rfl rfl
        intro op hop
        rw [List.mem_singleton.mp hop]
        cases call <;> rfl
  | retire owner =>
      unfold resume
      dsimp only
      split
      · exact .quiet rfl rfl rfl rfl rfl (fun _ h => by cases h) rfl rfl
      · refine .quiet rfl rfl rfl rfl rfl ?_ rfl rfl
        intro op hop
        rw [List.mem_singleton.mp hop]
        rfl

end Resume

end DatabaseGateway
