import DatabaseGateway.Proofs.Pool.Conservation
import DatabaseGateway.Proofs.Pool.Steps

/-!
The invariant of a gateway under traffic. A step of one operation is a shift beside the duties of
all other operations, so the laws about shifts hold in every state that can be reached.
-/

namespace DatabaseGateway

theorem Operation.Initial.duties {op : Operation} (h : op.Initial) : op.duties = 0 := by
  cases h with
  | call call => exact ofCall_duties call
  | guarded => rfl
  | retire => rfl

theorem Next.duties_stages (next : Next Operation Operation.Result) :
    (next.stages.map Operation.duties).sum = next.duties Operation.duties := by
  cases next with
  | stage op => simp [stages, Next.duties]
  | done result => rfl

theorem Reply.opened_nodup (reply : Reply) : reply.opened.Nodup := by
  unfold opened
  split <;> simp

theorem Demand.Admits.fresh {opened : List Nat} {demand : Demand} {reply : Reply}
    (h : demand.Admits opened reply) : ∀ socket ∈ reply.opened, socket ∉ opened := by
  intro socket hsocket
  cases h with
  | connected hfresh =>
      rw [Reply.opened, List.mem_singleton] at hsocket
      exact hsocket ▸ hfresh
  | nothing | notice | pause | refused | dialOverrun | checked | checkOverrun | sent | received =>
      cases hsocket

theorem Move.opened_resume (op : Operation) (demand : Demand) (reply : Reply)
    (next : Next Operation Operation.Result) (closed : List PooledConnection) :
    (Move.resume op demand reply next closed).opened = reply.opened := by
  cases reply with
  | dialed result => cases result <;> rfl
  | proceed | checked | overrun | sent | received => rfl

namespace Traffic

variable {config : PoolConfig} {t t' : Traffic}

theorem duties_resume {before after : List Operation} {op : Operation} {now : Instant}
    {reply : Reply} :
    (t.resume before op after now reply).duties =
      (op.resume t.gateway now reply).next.duties Operation.duties +
        ((before ++ after).map Operation.duties).sum := by
  unfold duties resume
  dsimp only
  rw [List.map_append, List.map_append, List.sum_append, List.sum_append, Next.duties_stages,
    List.map_append, List.sum_append]
  abel

theorem duties_of_flights {before after : List Operation} {op : Operation}
    (h : t.flights = before ++ op :: after) :
    t.duties = op.duties + ((before ++ after).map Operation.duties).sum := by
  unfold duties
  rw [h, List.map_append, List.map_cons, List.sum_append, List.sum_cons, List.map_append,
    List.sum_append]
  abel

theorem mem_duties {op : Operation} (hop : op ∈ t.flights) {d : Duty} (hd : d ∈ op.duties) :
    d ∈ t.duties := by
  obtain ⟨before, after, hflights⟩ := List.append_of_mem hop
  rw [duties_of_flights hflights]
  exact Multiset.mem_add.mpr (.inl hd)

theorem tally_duties {M : Type} [AddCommMonoid M] (t : Traffic) (f : Duty → M) :
    Duty.tally f t.duties = (t.flights.map fun op => Duty.tally f op.duties).sum := by
  unfold duties
  induction t.flights with
  | nil => rfl
  | cons op flights ih => rw [List.map_cons, List.sum_cons, Duty.tally_add, ih]; rfl

/-- Every step shifts the shared state and the duties of all operations. What it opens is new, and
what it loses is gone or left to a check. -/
theorem Step.shift (h : Step t t') :
    ∃ gained lost : List Nat, Shift t.gateway t.duties ↑gained ↑lost t'.gateway t'.duties ∧
      t'.opened = gained ++ t.opened ∧ gained.Nodup ∧ (∀ socket ∈ gained, socket ∉ t.opened) ∧
      (↑t'.strays + ↑t'.ended : Multiset Nat) = ↑lost + (↑t.strays + ↑t.ended) := by
  cases h with
  | @begin op hinitial =>
      refine ⟨[], [], ?_, rfl, .nil, by simp, (zero_add _).symm⟩
      have hduties : Traffic.duties { t with
          flights := t.flights ++ [op], log := .begin op :: t.log } = t.duties := by
        simp [duties, hinitial.duties]
      rw [hduties]
      exact .rest t.gateway t.duties
  | attach =>
      refine ⟨[], [], ?_, rfl, .nil, by simp, (zero_add _).symm⟩
      -- The number of guests is no concern of any operation.
      have hflag := (Shift.flag (g := t.gateway) t.gateway.draining (t.gateway.instances + 1)
        t.gateway.tornDown).frame t.duties
      rw [zero_add] at hflag
      exact hflag
  | @resume before after op now reply hflights hadmits =>
      have hshifts := op.resume_shifts now hadmits
      refine ⟨reply.opened, (op.resume t.gateway now reply).closed.map (·.socket) ++
        (op.demand t.gateway).strayed reply, ?_, ?_, reply.opened_nodup, hadmits.fresh, ?_⟩
      · rw [duties_of_flights hflights, duties_resume, ← Multiset.coe_add]
        exact hshifts.frame _
      · rw [← Move.opened_resume op (op.demand t.gateway) reply]
        rfl
      · -- What is lost has been closed or is left to a check.
        show (↑(t.strays ++ (op.demand t.gateway).strayed reply) +
          ↑((op.resume t.gateway now reply).closed.map (·.socket) ++ t.ended) : Multiset Nat) = _
        rw [← Multiset.coe_add, ← Multiset.coe_add, ← Multiset.coe_add]
        abel
  | @settle before after socket passed hstrays =>
      refine ⟨[], [], .rest _ _, rfl, .nil, by simp, ?_⟩
      show (↑(before ++ after) + ↑([socket] ++ t.ended) : Multiset Nat) = 0 + (↑t.strays + ↑t.ended)
      rw [hstrays, ← Multiset.coe_add, ← Multiset.coe_add, ← Multiset.coe_add,
        ← Multiset.cons_coe, ← Multiset.cons_coe, ← Multiset.singleton_add,
        ← Multiset.singleton_add, Multiset.coe_nil]
      abel

/-- A step is a move, and what the move opens has not been opened before. -/
theorem Step.log (h : Step t t') :
    ∃ m, t'.log = m :: t.log ∧ ∀ socket ∈ m.opened, socket ∉ t.opened := by
  cases h with
  | begin => exact ⟨_, rfl, fun _ hsocket => nomatch hsocket⟩
  | attach => exact ⟨_, rfl, fun _ hsocket => nomatch hsocket⟩
  | resume _ hadmits =>
      refine ⟨_, rfl, fun socket hsocket => hadmits.fresh socket ?_⟩
      rwa [Move.opened_resume] at hsocket
  | settle => exact ⟨_, rfl, fun _ hsocket => nomatch hsocket⟩

theorem log_suffix (h : Relation.ReflTransGen Step t t') : t.log <:+ t'.log := by
  induction h with
  | refl => exact List.suffix_refl _
  | tail _ hstep ih =>
      obtain ⟨m, hlog, -⟩ := hstep.log
      rw [hlog]
      exact ih.trans (List.suffix_cons m _)

/-- What holds of every state that a gateway can come to. -/
structure Invariant (t : Traffic) : Prop where
  coherent : Coherent t.gateway t.duties
  opened : t.opened.Nodup
  /-- Every connection that has been opened is in one place, or left to a check, or gone. -/
  accounted : (↑t.opened : Multiset Nat) = t.gateway.placed t.duties + (↑t.strays + ↑t.ended)

theorem init_invariant (config : PoolConfig) : (init config).Invariant where
  coherent := {
    tabled := ⟨Registry.sound_empty, .nil, by simp [init], rfl⟩
    keyed := ⟨.nil, by simp [init, Gateway.pool?], by simp [init, duties]⟩
    counted := ⟨fun _ => rfl, fun _ => rfl, fun _ => Nat.le_refl _⟩ }
  opened := .nil
  accounted := rfl

theorem Step.invariant (hstep : Step t t') (h : t.Invariant) : t'.Invariant := by
  obtain ⟨gained, lost, hshift, hopened, hnodup, hfresh, hlost⟩ := hstep.shift
  have hcoherent : Coherent t.gateway (t.duties + 0) := (add_zero t.duties).symm ▸ h.coherent
  have hplaced := hshift.placed 0 hcoherent
  have hcoherent' := hshift.coherent 0 hcoherent
  simp only [add_zero] at hplaced hcoherent'
  refine ⟨hcoherent', ?_, ?_⟩
  · rw [hopened, List.nodup_append]
    exact ⟨hnodup, h.opened, fun a ha b hb hab => hfresh a ha (hab ▸ hb)⟩
  · calc (↑t'.opened : Multiset Nat)
        = t.gateway.placed t.duties + ↑gained + (↑t.strays + ↑t.ended) := by
          rw [hopened, ← Multiset.coe_add, h.accounted]
          abel
      _ = t'.gateway.placed t'.duties + (↑t'.strays + ↑t'.ended) := by
          rw [hplaced, hlost]
          abel

/-- No connection is in two places. -/
theorem Invariant.placed_nodup (h : t.Invariant) :
    (t.gateway.idleSockets.Nodup ∧ t.gateway.heldSockets.Nodup ∧
      Disjoint t.gateway.idleSockets t.gateway.heldSockets) ∧
    (Duty.tally Duty.sockets t.duties).Nodup ∧
      Disjoint (t.gateway.idleSockets + t.gateway.heldSockets)
        (Duty.tally Duty.sockets t.duties) := by
  have hopened : (↑t.opened : Multiset Nat).Nodup := h.opened
  rw [h.accounted, Multiset.nodup_add] at hopened
  have hplaced := hopened.1
  rwa [Gateway.placed, Multiset.nodup_add, Multiset.nodup_add] at hplaced

theorem Invariant.opened_of_placed (h : t.Invariant) {socket : Nat}
    (hsocket : socket ∈ t.gateway.placed t.duties) : socket ∈ t.opened := by
  have hmem : socket ∈ (↑t.opened : Multiset Nat) := by
    rw [h.accounted]
    exact Multiset.mem_add.mpr (.inl hsocket)
  exact hmem

theorem Invariant.opened_of_line (h : t.Invariant) {key : PoolKey} {conn : PooledConnection}
    (hline : .line key conn ∈ t.duties) : conn.socket ∈ t.opened :=
  h.opened_of_placed (Multiset.mem_add.mpr (.inr (Duty.mem_sockets hline)))

theorem Reachable.invariant (h : Reachable config t) : t.Invariant := by
  induction h with
  | refl => exact init_invariant config
  | tail _ hstep ih => exact hstep.invariant ih

end Traffic

end DatabaseGateway
