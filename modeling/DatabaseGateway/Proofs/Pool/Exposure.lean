import DatabaseGateway.Proofs.Pool.Frame
import DatabaseGateway.Proofs.Pool.Invariant

/-!
How many handles there are and may still be. Handles are issued to requests in flight and to nobody
else. So once no new request gets past its first stage, the live handles and the requests that are
past it only become fewer. There are two ways to get there: the gateway drains, or the instance that
asks has been torn down.
-/

namespace DatabaseGateway

/-! ### What a step alters besides pools -/

/-- A gateway with the pools, and what handles hold, as they are in another one. -/
def Gateway.rebased (g g₀ : Gateway) : Gateway := { g with pools := g₀.pools, held := g₀.held }

/-- What the step of an operation alters, other than pools and what handles hold. -/
inductive Operation.Alters (g : Gateway) (op : Operation) (next : Next Operation Operation.Result) :
    Gateway → Prop
  | nothing : Alters g op next g
  /-- A request in its last stage is answered with a new handle. -/
  | issue {order : Order} {conn : PooledConnection} {handle : Handle} {key : PoolKey}
      {registry : Registry PoolKey} (operation : op = checkout order (.entering conn))
      (answer : next = .done (.ok (.handle handle)))
      (insert : g.registry.insert order.owner key = .ok (handle, registry)) :
      Alters g op next { g with registry }
  /-- Handles are taken out of the table. -/
  | take {taken : List (Handle × Entry PoolKey)} {registry : Registry PoolKey}
      (yields : g.registry.Yields taken registry) : Alters g op next { g with registry }
  | drain (operation : op = drain .announce) : Alters g op next { g with draining := true }
  | retire {owner : InstanceId} (operation : op = retire owner) :
      Alters g op next { g with tornDown := owner :: g.tornDown }

namespace Operation.Alters

variable {g g' : Gateway} {op : Operation} {next : Next Operation Operation.Result}

theorem of_eq (h : g' = g) : op.Alters g next g' := h ▸ .nothing

theorem draining (h : op.Alters g next g') (hdraining : g.draining = true) :
    g'.draining = true := by
  cases h with
  | drain => rfl
  | nothing | issue | take | retire => exact hdraining

theorem tornDown (h : op.Alters g next g') : g.tornDown ⊆ g'.tornDown := by
  cases h with
  | retire => exact List.subset_cons_self _ g.tornDown
  | nothing | issue | take | drain => exact List.Subset.refl _

theorem registry (h : op.Alters g next g') :
    (∃ order conn handle key, op = checkout order (.entering conn) ∧
        next = .done (.ok (.handle handle)) ∧
        g.registry.insert order.owner key = .ok (handle, g'.registry)) ∨
      ∃ taken, g.registry.Yields taken g'.registry := by
  cases h with
  | issue hoperation hanswer hinsert => exact .inl ⟨_, _, _, _, hoperation, hanswer, hinsert⟩
  | take hyields => exact .inr ⟨_, hyields⟩
  | nothing | drain | retire => exact .inr ⟨[], .refl g.registry⟩

end Operation.Alters

section Resume

variable {g : Gateway} {now : Instant} {reply : Reply}

theorem Operation.checkout_alters (order : Order) (stage : Checkout) :
    (checkout order stage).Alters g ((checkout order stage).resume g now reply).next
      (((checkout order stage).resume g now reply).gateway.rebased g) := by
  by_cases hstage : ∃ conn, stage = .entering conn
  · obtain ⟨conn, rfl⟩ := hstage
    unfold resume Checkout.resume Progress.lift
    dsimp only
    cases hissue : g.issue order.owner { conn with holding := .checkedOut, lastUsed := now } with
    | ok x =>
        obtain ⟨handle, g'⟩ := x
        obtain ⟨registry, hinsert, rfl⟩ := Gateway.issue_eq_ok hissue
        exact .issue rfl rfl hinsert
    | error => exact .nothing
  · have hframe : { (stage.resume g now order reply).gateway with pools := g.pools } = g :=
      stage.resume_frame order fun conn heq => hstage ⟨conn, heq⟩
    exact .of_eq (congrArg (fun x : Gateway => { x with held := g.held }) hframe)

theorem Operation.drain_alters (stage : Drain) :
    (drain stage).Alters g ((drain stage).resume g now reply).next
      (((drain stage).resume g now reply).gateway.rebased g) := by
  cases stage with
  | announce => exact .drain rfl
  | seize => exact .take g.registry.drainAll_yields
  | poll deadline =>
      refine .of_eq ?_
      show ((Drain.poll deadline).resume g now reply).gateway.rebased g = g
      unfold Drain.resume
      dsimp only
      split <;> rfl
  | returning seized returns =>
      have hframe : { (returns.stage.resume g now returns.current reply).gateway with
          pools := g.pools, held := g.held } = g := returns.stage.resume_frame returns.current
      exact .of_eq hframe
  | clear seized pools =>
      cases pools with
      | nil => exact .nothing
      | cons key pools =>
          refine .of_eq ?_
          show ((Drain.clear seized (key :: pools)).resume g now reply).gateway.rebased g = g
          unfold Drain.resume
          dsimp only
          split <;> rfl
  | pause | survey => exact .nothing

theorem Operation.alters_resume (op : Operation) (g : Gateway) (now : Instant) (reply : Reply) :
    op.Alters g (op.resume g now reply).next ((op.resume g now reply).gateway.rebased g) := by
  cases op with
  | checkout order stage => exact checkout_alters order stage
  | exchange handle use stage =>
      have hframe : { (stage.resume g now handle reply).gateway with held := g.held } = g :=
        stage.resume_frame handle
      exact .of_eq (congrArg (fun x : Gateway => { x with pools := g.pools }) hframe)
  | release handle =>
      unfold resume
      dsimp only
      split
      · exact .nothing
      · next hremove => exact .take (Registry.remove_yields hremove)
  | teardown owner => exact .take (g.registry.drainOwner_yields owner)
  | returning returns answer =>
      have hframe : { (returns.stage.resume g now returns.current reply).gateway with
          pools := g.pools, held := g.held } = g := returns.stage.resume_frame returns.current
      exact .of_eq hframe
  | reap closed stage =>
      have hframe : { (stage.resume g now closed).gateway with pools := g.pools } = g :=
        stage.resume_frame closed
      exact .of_eq (congrArg (fun x : Gateway => { x with held := g.held }) hframe)
  | sweep removed stage =>
      have hframe : { (stage.resume g removed reply).gateway with pools := g.pools } = g :=
        stage.resume_frame removed
      exact .of_eq (congrArg (fun x : Gateway => { x with held := g.held }) hframe)
  | drain stage => exact drain_alters stage
  | guarded owner call =>
      unfold resume
      dsimp only
      split <;> exact .nothing
  | retire owner =>
      unfold resume
      dsimp only
      split
      · exact .nothing
      · exact .retire rfl

/-- A gateway that drains goes on draining. -/
theorem Operation.draining_resume (op : Operation) (h : g.draining = true) :
    (op.resume g now reply).gateway.draining = true :=
  (op.alters_resume g now reply).draining h

theorem Operation.tornDown_resume (op : Operation) :
    g.tornDown ⊆ (op.resume g now reply).gateway.tornDown :=
  (op.alters_resume g now reply).tornDown

end Resume

namespace Traffic

variable {config : PoolConfig} {t t' : Traffic}

theorem Step.draining (hstep : Step t t') (h : t.gateway.draining = true) :
    t'.gateway.draining = true := by
  cases hstep with
  | begin | attach | settle => exact h
  | @resume before after op now reply hflights hadmits => exact op.draining_resume h

theorem Step.tornDown (hstep : Step t t') : t.gateway.tornDown ⊆ t'.gateway.tornDown := by
  cases hstep with
  | begin | attach | settle => exact List.Subset.refl _
  | @resume before after op now reply hflights hadmits => exact op.tornDown_resume

theorem draining_of_steps (hsteps : Relation.ReflTransGen Step t t')
    (h : t.gateway.draining = true) : t'.gateway.draining = true := by
  induction hsteps with
  | refl => exact h
  | tail _ hstep ih => exact hstep.draining ih

theorem tornDown_of_steps (hsteps : Relation.ReflTransGen Step t t') :
    t.gateway.tornDown ⊆ t'.gateway.tornDown := by
  induction hsteps with
  | refl => exact List.Subset.refl _
  | tail _ hstep ih => exact List.Subset.trans ih hstep.tornDown

end Traffic

/-! ### Handles that are there, and handles that are still to come -/

def Gateway.handlesOf (g : Gateway) (owners : InstanceId → Bool) : Nat :=
  g.registry.entries.countP fun x => owners x.2.owner

/-- The live handles of some of the instances, together with the operations in flight that may still
issue one to them. -/
def Traffic.exposure (t : Traffic) (owners : InstanceId → Bool) (pending : Operation → Bool) :
    Nat :=
  t.gateway.handlesOf owners + t.flights.countP pending

/-- An operation issues a handle to one of the instances only if it is pending, and it is pending
after a step only if it was before. -/
structure Operation.Contained (g : Gateway) (owners : InstanceId → Bool)
    (pending : Operation → Bool) (op : Operation) : Prop where
  issuing : ∀ order conn, op = checkout order (.entering conn) → owners order.owner →
    pending op
  passing : ∀ now reply, ∀ op' ∈ (op.resume g now reply).next.stages, pending op' → pending op

theorem Operation.Contained.exposure_le {g : Gateway} {owners : InstanceId → Bool}
    {pending : Operation → Bool} {op : Operation} (h : op.Contained g owners pending)
    (hr : g.registry.Sound) (now : Instant) (reply : Reply) :
    (op.resume g now reply).gateway.handlesOf owners +
        (op.resume g now reply).next.stages.countP pending ≤
      g.handlesOf owners + [op].countP pending := by
  rcases (op.alters_resume g now reply).registry with
    ⟨order, conn, handle, key, hop, hnext, hinsert⟩ | ⟨taken, hyields⟩
  · -- A handle is there in place of the request that was answered with it.
    have hentries := (hr.insert_entries hinsert).countP_eq fun x => owners x.2.owner
    have hhandles : (op.resume g now reply).gateway.handlesOf owners =
        g.handlesOf owners + if owners order.owner then 1 else 0 := by
      rw [List.countP_cons] at hentries
      exact hentries
    rw [hhandles, hnext, List.countP_singleton]
    have hissuing := h.issuing order conn hop
    show _ + 0 ≤ _
    split
    · next howner => simp [hissuing howner]
    · omega
  · have hentries := hyields.entries.countP_eq fun x => owners x.2.owner
    have hhandles : (op.resume g now reply).gateway.handlesOf owners ≤ g.handlesOf owners := by
      rw [List.countP_append] at hentries
      exact Nat.le_trans (Nat.le_add_left _ _) (Nat.le_of_eq hentries.symm)
    have hstages : (op.resume g now reply).next.stages.countP pending ≤ [op].countP pending := by
      cases hnext : (op.resume g now reply).next with
      | done r => exact Nat.zero_le _
      | stage op' =>
          have hpassing := h.passing now reply op' (hnext ▸ List.mem_singleton.mpr rfl)
          simp only [Next.stages, List.countP_singleton]
          split
          · next hpending => simp [hpassing hpending]
          · exact Nat.zero_le _
    omega

namespace Traffic

variable {config : PoolConfig} {t t' : Traffic} {owners : InstanceId → Bool}
  {pending : Operation → Bool}

/-- The step of an operation that is not pending, before it or after it, leaves their number as it
is. -/
theorem countP_flights_resume {before after : List Operation} {op : Operation} {now : Instant}
    {reply : Reply} (hflights : t.flights = before ++ op :: after) (hop : ¬ pending op)
    (hnext : ∀ op' ∈ (op.resume t.gateway now reply).next.stages, ¬ pending op') :
    (t.resume before op after now reply).flights.countP pending = t.flights.countP pending := by
  have hstages := List.countP_eq_zero.mpr hnext
  show (before ++ (op.resume t.gateway now reply).next.stages ++ after).countP pending = _
  rw [hflights, List.countP_append, List.countP_append, hstages, List.countP_append,
    List.countP_cons_of_neg hop]
  rfl

theorem Step.exposure_le (hstep : Step t t') (hinv : t.Invariant)
    (hcontained : ∀ op ∈ t.flights, op.Contained t.gateway owners pending)
    (hbegin : ∀ op, op.Initial → .begin op ∈ t'.log → ¬ pending op) :
    t'.exposure owners pending ≤ t.exposure owners pending := by
  cases hstep with
  | @begin op hinitial =>
      have hop := hbegin op hinitial List.mem_cons_self
      show t.gateway.handlesOf owners + (t.flights ++ [op]).countP pending ≤
        t.gateway.handlesOf owners + t.flights.countP pending
      rw [List.countP_append, List.countP_singleton, if_neg hop]
      exact Nat.le_refl _
  | attach | settle => exact Nat.le_refl _
  | @resume before after op now reply hflights hadmits =>
      have hop := hcontained op (mem_flights hflights)
      have hle := hop.exposure_le hinv.coherent.tabled.sound now reply
      have hbefore : t.flights.countP pending =
          before.countP pending + [op].countP pending + after.countP pending := by
        rw [hflights, List.countP_append, ← List.singleton_append, List.countP_append]
        omega
      show (op.resume t.gateway now reply).gateway.handlesOf owners +
          (before ++ (op.resume t.gateway now reply).next.stages ++ after).countP pending ≤
        t.gateway.handlesOf owners + t.flights.countP pending
      rw [hbefore, List.countP_append, List.countP_append]
      omega

/-- As long as nothing that is not pending becomes so, the live handles and the operations that may
still issue one only become fewer. -/
theorem exposure_le_of_steps (h : Reachable config t) (hsteps : Relation.ReflTransGen Step t t')
    (hcontained : ∀ t₁, Relation.ReflTransGen Step t t₁ → ∀ op ∈ t₁.flights,
      op.Contained t₁.gateway owners pending)
    (hbegin : ∀ op, op.Initial → .begin op ∈ t'.log → ¬ pending op) :
    t'.exposure owners pending ≤ t.exposure owners pending := by
  induction hsteps with
  | refl => exact Nat.le_refl _
  | @tail t₁ t₂ hsteps hstep ih =>
      have hlog := log_suffix (.single hstep)
      have hfirst := ih fun op hinitial hmem => hbegin op hinitial (hlog.subset hmem)
      have hinv := Reachable.invariant (h.trans hsteps)
      exact Nat.le_trans (hstep.exposure_le hinv (hcontained t₁ hsteps) hbegin) hfirst

end Traffic

end DatabaseGateway
