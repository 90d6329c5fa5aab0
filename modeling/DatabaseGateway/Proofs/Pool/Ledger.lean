import DatabaseGateway.Proofs.Pool.Tenure

/-!
The ledger of handles. A handle is issued once, taken out of the table at most once, and its
connection is taken from it at most once. The log of the moves tells which handles have come how
far, and the ledger is the proof that the log and the state agree.
-/

namespace DatabaseGateway

/-! ### The ledger -/

/-- The log agrees with the state: a handle that has been issued is in the table or has been taken
out of it; one that has been taken out is outstanding or its connection has been taken from it; and
a release that took a handle out goes on or has been answered. -/
structure Ledger (t : Traffic) : Prop where
  table : (↑t.issued : Multiset Handle) =
    ↑(t.gateway.registry.entries.map (·.1)) + (↑t.released + ↑t.seized)
  outstanding : (↑t.released + ↑t.seized : Multiset Handle) = ↑t.outstanding + ↑t.taken
  releasing : (↑t.released : Multiset Handle) = ↑t.releasing + ↑t.answered
  nodup : t.issued.Nodup
  generation : ∀ h ∈ t.issued, h.generation < t.gateway.registry.nextGeneration
  single : ∀ returns, .returning returns .done ∈ t.flights → returns.waiting = []

/-- What is issued has the generation that was due. -/
theorem Operation.issued_generation {g : Gateway} (hr : g.registry.Sound) {now : Instant}
    {reply : Reply} {op : Operation} {h : Handle}
    (hissued : h ∈ op.issued (op.resume g now reply).next) :
    op.issued (op.resume g now reply).next = [h] ∧
      h.generation = g.registry.nextGeneration ∧
      (op.resume g now reply).gateway.registry.nextGeneration = g.registry.nextGeneration + 1 := by
  cases op with
  | checkout order stage =>
      rcases checkout_resume_registry order stage with ⟨handle, key, hnext, hinsert⟩ |
        ⟨hnone, -⟩
      · rw [hnext] at hissued ⊢
        obtain rfl := List.mem_singleton.mp hissued
        exact ⟨rfl, hr.insert_generation hinsert, Registry.insert_nextGeneration hinsert⟩
      · rw [hnone] at hissued
        cases hissued
  | _ => cases hissued

theorem Operation.single_resume {g : Gateway} {now : Instant} {reply : Reply} {op : Operation}
    (hsingle : ∀ returns, op = returning returns .done → returns.waiting = [])
    {returns : CheckIns}
    (hnext : returning returns .done ∈ (op.resume g now reply).next.stages) :
    returns.waiting = [] := by
  generalize hop' : returning returns .done = op' at hnext
  cases follows_resume hnext with
  | goesOn c =>
      cases hop'
      exact hsingle c rfl
  | takesNext _ hwaiting =>
      cases hop'
      have hnil := hsingle _ rfl
      rw [hwaiting] at hnil
      cases hnil
  | release =>
      cases hop'
      rfl
  | guarded owner call => cases call <;> cases hop'
  | _ => cases hop'

theorem Operation.Initial.checkIns? {op : Operation} (h : op.Initial) : op.checkIns? = none := by
  cases h with
  | call call => cases call <;> rfl
  | guarded => rfl
  | retire => rfl

theorem Operation.Initial.outstanding {op : Operation} (h : op.Initial) : op.outstanding = [] := by
  rw [Operation.outstanding, h.checkIns?]
  rfl

namespace Traffic

variable {config : PoolConfig} {t t' : Traffic}

theorem balance_step {M : Type} [AddCommMonoid M] {x x' i o y rest : M} (hstep : x + i = x' + o)
    (h : y = x + rest) : i + y = x' + (o + rest) := by
  rw [h, ← add_assoc, add_comm i, hstep, add_assoc]

theorem flatMap_flights {α : Type} (f : Operation → List α) (before after : List Operation)
    (ops : List Operation) : (↑((before ++ ops ++ after).flatMap f) : Multiset α) =
      ↑(ops.flatMap f) + ↑((before ++ after).flatMap f) := by
  rw [List.flatMap_append, List.flatMap_append, List.flatMap_append, ← Multiset.coe_add,
    ← Multiset.coe_add, ← Multiset.coe_add]
  abel

theorem Step.ledger (hstep : Step t t') (hinv : t.Invariant) (h : Ledger t) : Ledger t' := by
  cases hstep with
  | @begin op hinitial =>
      have hflights : ∀ {f : Operation → List Handle}, f op = [] →
          (t.flights ++ [op]).flatMap f = t.flights.flatMap f := by
        intro f hf
        simp [hf]
      refine ⟨h.table, ?_, ?_, h.nodup, h.generation, ?_⟩
      · show _ = (↑((t.flights ++ [op]).flatMap Operation.outstanding) : Multiset Handle) + _
        rw [hflights hinitial.outstanding]
        exact h.outstanding
      · show _ = (↑((t.flights ++ [op]).flatMap Operation.releasing) : Multiset Handle) + _
        rw [hflights (Operation.releasing_of_checkIns? hinitial.checkIns?)]
        exact h.releasing
      · intro returns hmem
        rcases List.mem_append.mp hmem with hmem | hmem
        · exact h.single returns hmem
        · rw [← List.mem_singleton.mp hmem] at hinitial
          cases hinitial.checkIns?
  | attach => exact ⟨h.table, h.outstanding, h.releasing, h.nodup, h.generation, h.single⟩
  | @resume before after op now reply hflights hadmits =>
      have hsound := hinv.coherent.tabled.sound
      have hsingle : ∀ returns, op = .returning returns .done → returns.waiting = [] := by
        rintro returns rfl
        exact h.single returns (mem_flights hflights)
      have hop : HandleStep t.gateway op (op.resume t.gateway now reply) :=
        op.handleStep hsound hsingle
      -- Each account is balanced by the step of `op` alone; the rest stands on both sides.
      have hbefore : ∀ f : Operation → List Handle, (↑(t.flights.flatMap f) : Multiset Handle) =
          ↑(f op) + ↑((before ++ after).flatMap f) := by
        intro f
        rw [hflights, ← List.singleton_append, ← List.append_assoc, flatMap_flights]
        simp
      refine ⟨?_, ?_, ?_, ?_, ?_, ?_⟩
      · have hrest := balance_step hop.table h.table
        show (↑(op.issued _ ++ t.issued) : Multiset Handle) =
          ↑((op.resume t.gateway now reply).gateway.registry.entries.map (·.1)) +
            (↑(op.released _ ++ t.released) + ↑(op.seized _ ++ t.seized))
        rw [← Multiset.coe_add, hrest, ← Multiset.coe_add, ← Multiset.coe_add]
        abel
      · have hrest := h.outstanding
        rw [outstanding, hbefore, add_assoc] at hrest
        have hrest := balance_step hop.outstanding hrest
        show (↑(op.released _ ++ t.released) + ↑(op.seized _ ++ t.seized) : Multiset Handle) =
          ↑((before ++ (op.resume t.gateway now reply).next.stages ++ after).flatMap
            Operation.outstanding) + ↑(op.taken ++ t.taken)
        rw [flatMap_flights, ← Multiset.coe_add, ← Multiset.coe_add, ← Multiset.coe_add,
          add_add_add_comm, hrest]
        abel
      · have hrest := h.releasing
        rw [releasing, hbefore, add_assoc] at hrest
        have hrest := balance_step hop.releasing hrest
        show (↑(op.released _ ++ t.released) : Multiset Handle) =
          ↑((before ++ (op.resume t.gateway now reply).next.stages ++ after).flatMap
            Operation.releasing) + ↑(op.answered _ ++ t.answered)
        rw [flatMap_flights, ← Multiset.coe_add, ← Multiset.coe_add, hrest]
        abel
      · show (op.issued (op.resume t.gateway now reply).next ++ t.issued).Nodup
        cases hissued : op.issued (op.resume t.gateway now reply).next with
        | nil => exact h.nodup
        | cons x xs =>
            -- A new handle has the generation that was due, and all others are older.
            obtain ⟨hone, hgeneration, -⟩ := Operation.issued_generation hsound
              (hissued ▸ List.mem_cons_self)
            rw [hissued] at hone
            rw [hone, List.singleton_append, List.nodup_cons]
            refine ⟨fun hmem => ?_, h.nodup⟩
            have hlt := h.generation x hmem
            omega
      · show ∀ x ∈ op.issued (op.resume t.gateway now reply).next ++ t.issued,
          x.generation < (op.resume t.gateway now reply).gateway.registry.nextGeneration
        intro x hx
        rcases List.mem_append.mp hx with hx | hx
        · obtain ⟨-, hgeneration, hnext⟩ := Operation.issued_generation hsound hx
          omega
        · have hle := Shift.nextGeneration_le (op.resume_shifts now hadmits)
          exact Nat.lt_of_lt_of_le (h.generation x hx) hle
      · intro returns hmem
        rcases mem_flights_resume hflights hmem with hmem | hmem
        · exact h.single returns hmem
        · exact Operation.single_resume hsingle hmem
  | settle => exact ⟨h.table, h.outstanding, h.releasing, h.nodup, h.generation, h.single⟩

theorem Reachable.ledger (h : Reachable config t) : Ledger t := by
  induction h with
  | refl => exact ⟨rfl, rfl, rfl, .nil, by simp [issued, init], by simp [init]⟩
  | tail hreach hstep ih => exact hstep.ledger (Reachable.invariant hreach) ih

/-! ### Reading the ledger -/

end Traffic

theorem CheckIns.tally_cells (c : CheckIns) :
    Duty.tally Duty.cells c.duties = ↑(c.outstanding.map fun r => (r.handle, r.key)) := by
  have hwaiting : Duty.tally Duty.cells ↑(c.waiting.map Duty.cell) =
      ↑(c.waiting.map fun r => (r.handle, r.key)) := by
    rw [Duty.tally_coe]
    induction c.waiting with
    | nil => rfl
    | cons r waiting ih =>
        rw [List.map_cons, List.map_cons, List.sum_cons, ih]
        rfl
  unfold outstanding duties taken
  rw [Duty.tally_add, hwaiting]
  cases c.stage with
  | settling conn => cases conn <;> simp [CheckIn.duties, Duty.cells]
  | taking | judging | checking => simp [CheckIn.duties, Duty.cells]

theorem Operation.tally_cells (op : Operation) :
    (Duty.tally Duty.cells op.duties).map (·.1) = ↑op.outstanding := by
  have hcheckIns : ∀ c : CheckIns, (Duty.tally Duty.cells c.duties).map (·.1) =
      (↑(c.outstanding.map (·.handle)) : Multiset Handle) := by
    intro c
    rw [c.tally_cells, Multiset.map_coe, List.map_map]
    rfl
  cases op with
  | checkout order stage => cases stage <;> simp [duties, Checkout.duties, Duty.cells] <;> rfl
  | returning returns answer => exact hcheckIns returns
  | drain stage =>
      cases stage with
      | returning seized returns => exact hcheckIns returns
      | announce | poll | pause | seize | survey | clear => rfl
  | sweep removed stage =>
      cases stage with
      | settling conn => cases conn <;> simp [duties, Sweep.duties, Duty.cells] <;> rfl
      | survey | enter | pick => rfl
      | probing =>
          simp [duties, Sweep.duties, Duty.cells]
          rfl
  | exchange | release | teardown | reap | guarded | retire => rfl

namespace Traffic

variable {config : PoolConfig} {t : Traffic}

theorem outstanding_eq (t : Traffic) :
    (Duty.tally Duty.cells t.duties).map (·.1) = ↑t.outstanding := by
  rw [tally_duties, outstanding]
  induction t.flights with
  | nil => rfl
  | cons op flights ih =>
      rw [List.map_cons, List.sum_cons, Multiset.map_add, ih, op.tally_cells, List.flatMap_cons,
        ← Multiset.coe_add]

/-- A handle that has been issued still has its connection, or it has been taken from it. -/
theorem Invariant.issued_eq (hinv : t.Invariant) (h : Ledger t) :
    (↑t.issued : Multiset Handle) = ↑(t.gateway.held.map (·.1)) + ↑t.taken := by
  have hheld := congrArg (Multiset.map (·.1)) hinv.coherent.tabled.entries
  rw [Multiset.map_add, Multiset.map_coe, Multiset.map_coe, List.map_map, List.map_map,
    outstanding_eq] at hheld
  rw [h.table, h.outstanding, ← add_assoc]
  exact congrArg (· + (↑t.taken : Multiset Handle)) hheld.symm

/-- A handle that was taken out of the table is not live any more. -/
theorem Reachable.dead_of_removed (h : Reachable config t) {handle : Handle}
    (hremoved : handle ∈ t.released ∨ handle ∈ t.seized) :
    t.gateway.registry.find? handle = none := by
  have hnodup : (↑t.issued : Multiset Handle).Nodup := h.ledger.nodup
  rw [h.ledger.table, Multiset.nodup_add] at hnodup
  rw [h.invariant.coherent.tabled.sound.find?_eq_none_iff]
  intro hlive
  exact Multiset.disjoint_left.mp hnodup.2.2 hlive (Multiset.mem_add.mpr hremoved)

/-- A handle that has been issued is live until it is taken out of the table. -/
theorem Reachable.removed_of_dead (h : Reachable config t) {handle : Handle}
    (hissued : handle ∈ t.issued) (hdead : t.gateway.registry.find? handle = none) :
    handle ∈ t.released ∨ handle ∈ t.seized := by
  rw [h.invariant.coherent.tabled.sound.find?_eq_none_iff] at hdead
  have hmem : handle ∈ (↑t.issued : Multiset Handle) := hissued
  rw [h.ledger.table, Multiset.mem_add, Multiset.mem_add] at hmem
  exact hmem.resolve_left hdead

/-- A handle that has been issued and is not live any more will never be live again. -/
theorem Reachable.dead_forever (h : Reachable config t) {handle : Handle}
    (hissued : handle ∈ t.issued) (hdead : t.gateway.registry.find? handle = none)
    (hsteps : Relation.ReflTransGen Step t t') : t'.gateway.registry.find? handle = none := by
  have hremoved : handle ∈ t'.released ∨ handle ∈ t'.seized := by
    have hsuffix := log_suffix hsteps
    rcases h.removed_of_dead hissued hdead with hmem | hmem
    · exact .inl ((hsuffix.sublist.flatMap Move.released).subset hmem)
    · exact .inr ((hsuffix.sublist.flatMap Move.seized).subset hmem)
  exact Reachable.dead_of_removed (h.trans hsteps) hremoved

theorem Reachable.emptied (h : Reachable config t) {handle : Handle} (htaken : handle ∈ t.taken) :
    t.gateway.registry.find? handle = none ∧ t.gateway.held? handle = none := by
  constructor
  · have hremoved : handle ∈ (↑t.released + ↑t.seized : Multiset Handle) := by
      rw [h.ledger.outstanding]
      exact Multiset.mem_add.mpr (.inr htaken)
    exact h.dead_of_removed (Multiset.mem_add.mp hremoved)
  · have hnodup : (↑t.issued : Multiset Handle).Nodup := h.ledger.nodup
    rw [h.invariant.issued_eq h.ledger, Multiset.nodup_add] at hnodup
    apply Option.eq_none_iff_forall_ne_some.mpr
    intro conn hlookup
    have hmem : (handle, conn) ∈ t.gateway.held := mem_of_lookup hlookup
    exact Multiset.disjoint_left.mp hnodup.2.2 (List.mem_map_of_mem (f := (·.1)) hmem) htaken

theorem Reachable.mem_taken (h : Reachable config t) {handle : Handle}
    (hremoved : handle ∈ t.released ∨ handle ∈ t.seized)
    (hlookup : t.gateway.held? handle = none) : handle ∈ t.taken := by
  have hledger := h.ledger
  have htable := congrArg (Multiset.count handle) hledger.table
  have hheld := congrArg (Multiset.count handle) (h.invariant.issued_eq hledger)
  simp only [Multiset.count_add, Multiset.coe_count] at htable hheld
  have hpos : 0 < t.released.count handle + t.seized.count handle := by
    rcases hremoved with hmem | hmem
    · have := List.count_pos_iff.mpr hmem
      omega
    · have := List.count_pos_iff.mpr hmem
      omega
  have hnone : (t.gateway.held.map (·.1)).count handle = 0 := by
    rw [List.count_eq_zero]
    intro hmem
    obtain ⟨x, hx, rfl⟩ := List.mem_map.mp hmem
    have hsome : t.gateway.held? x.1 = some x.2 :=
      lookup_of_mem h.invariant.coherent.tabled.handles hx
    rw [hsome] at hlookup
    cases hlookup
  apply List.count_pos_iff.mp
  omega

end Traffic

end DatabaseGateway
