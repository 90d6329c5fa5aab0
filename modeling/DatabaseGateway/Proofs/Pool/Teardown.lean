import DatabaseGateway.Proofs.Pool.Standing
import DatabaseGateway.Proofs.Pool.Transcript

/-!
The teardown of an instance and the releases of its handles, one after the other, come to the same.

The two differ in their order: a teardown takes all handles out of the table first and takes the
connections back afterwards, and with releases the one follows on the other for each handle. The
table does not look at pools and connections, and taking a connection back does not look at the
table (`TakenBack.withRegistry`), so the orders can be exchanged. What comes of the connections is
said once, by `TakenAllBack`, and both programs are shown to come to it.
-/

namespace DatabaseGateway

/-! ### The table -/

namespace Registry

variable {α : Type} {r r' : Registry α}

inductive Removes : Registry α → List (Handle × Entry α) → Registry α → Prop
  | nil {r : Registry α} : Removes r [] r
  | cons {r r₁ r' : Registry α} {handle : Handle} {entry : Entry α}
      {taken : List (Handle × Entry α)} (removed : r.remove handle = .ok (entry, r₁))
      (rest : Removes r₁ taken r') : Removes r ((handle, entry) :: taken) r'

theorem remove_of_vacate {handle : Handle} {entry : Entry α} (hfound : r.find? handle = some entry)
    (hvacate : r.vacate handle.slot = some (entry, r')) : r.remove handle = .ok (entry, r') := by
  simp [remove, hfound, hvacate]

/-- To empty slots at once is to take their handles out one after the other. -/
theorem Sound.removes_vacateAll (hr : r.Sound) (slots : List Nat) :
    r.Removes (r.vacateAll slots).1 (r.vacateAll slots).2 := by
  induction slots generalizing r with
  | nil => exact .nil
  | cons slot slots ih =>
      unfold vacateAll
      split
      · exact ih hr
      · next entry r₁ hvacate =>
          obtain ⟨hthere, -⟩ := vacate_eq_some hvacate
          have hremoved : r.remove (Handle.make slot entry.generation) = .ok (entry, r₁) := by
            apply remove_of_vacate
            · exact hr.find?_eq_some_iff.2 (mem_entries.2 ⟨slot, hthere, rfl⟩)
            · rw [Handle.slot_make (hr.slot_lt hthere), hvacate]
          exact .cons hremoved (ih (hr.vacate hvacate))

theorem Sound.slots_pairwise (hr : r.Sound) : (r.entries.map (·.1.slot)).Pairwise (· < ·) := by
  rw [List.pairwise_map, entries, List.pairwise_filterMap]
  refine List.pairwise_lt_range.imp fun {slot slot'} hlt x hx y hy => ?_
  obtain ⟨hthere, hx⟩ := entryAt_eq_some_iff.1 hx
  obtain ⟨hthere', hy⟩ := entryAt_eq_some_iff.1 hy
  rw [hx, hy, Handle.slot_make (hr.slot_lt hthere), Handle.slot_make (hr.slot_lt hthere')]
  exact hlt

end Registry

/-! ### Taking connections back -/

def PooledConnection.settle (now : Instant) : Option PooledConnection → Pool → Pool
  | none => .forget
  | some conn => (·.park { conn with holding := .idle, lastUsed := now })

/-- The connection of a handle is taken back: it is closed at once, or checked and then kept or
closed, as the reply says. -/
inductive TakenBack (opened : List Nat) (g : Gateway) (r : Returned) (conn : PooledConnection) :
    List Act → Gateway → Prop
  | discarded (unfit : conn.healthy = false ∨ g.draining = true) :
      TakenBack opened g r conn [.closed conn.socket]
        ((g.takeHeld r.handle).updatePool r.key .forget)
  | checked {reply : Reply} (healthy : conn.healthy = true) (serving : g.draining = false)
      (admits : (Demand.check conn.socket true g.config.probeOnCheckin).Admits opened reply)
      (now : Instant) :
      TakenBack opened g r conn
        (.called (.check conn.socket true g.config.probeOnCheckin) reply ::
          closings (conn.casualty reply))
        ((g.takeHeld r.handle).updatePool r.key
          (PooledConnection.settle now (conn.survivor reply)))

inductive TakenAllBack (opened : List Nat) : Gateway → List (Returned × PooledConnection) →
    List Act → Gateway → Prop
  | nil {g : Gateway} : TakenAllBack opened g [] [] g
  | cons {g g₁ g' : Gateway} {r : Returned} {conn : PooledConnection}
      {work : List (Returned × PooledConnection)} {first later : List Act}
      (taken : TakenBack opened g r conn first g₁) (rest : TakenAllBack opened g₁ work later g') :
      TakenAllBack opened g ((r, conn) :: work) (first ++ later) g'

/-- All calls are checks of connections that have come back, with these replies, by the number of
the connection. -/
def ChecksOnly (replies : Nat → Reply) (acts : List Act) : Prop :=
  ∀ demand reply, .called demand reply ∈ acts →
    ∃ socket probe, demand = .check socket true probe ∧ reply = replies socket

structure Gateway.Holds (g : Gateway) (work : List (Returned × PooledConnection)) : Prop where
  distinct : (work.map (·.1.handle)).Nodup
  held : ∀ x ∈ work, g.held? x.1.handle = some x.2

def Operation.serve (returns : List Returned) (answer : Answer) : Next Operation Result :=
  match CheckIns.ofList? returns with
  | some returns => .stage (.returning returns answer)
  | none => .done (.ok answer)

namespace TakenBack

variable {opened : List Nat} {g g' : Gateway} {r : Returned} {conn : PooledConnection}
  {acts : List Act}

theorem withRegistry (htaken : TakenBack opened g r conn acts g') (registry : Registry PoolKey) :
    TakenBack opened { g with registry } r conn acts { g' with registry } := by
  cases htaken with
  | discarded hunfit => exact .discarded hunfit
  | checked hhealthy hserving hadmits now =>
      refine .checked ?_ ?_ ?_ now
      · exact hhealthy
      · exact hserving
      · exact hadmits

theorem frame (htaken : TakenBack opened g r conn acts g') :
    { g' with pools := g.pools, held := g.held } = g := by
  cases htaken <;> rfl

theorem registry_eq (htaken : TakenBack opened g r conn acts g') : g'.registry = g.registry := by
  cases htaken <;> rfl

/-- What other handles hold stays as it is. -/
theorem held?_eq (htaken : TakenBack opened g r conn acts g') {handle : Handle}
    (hother : handle ≠ r.handle) : g'.held? handle = g.held? handle := by
  have hsame : (g.takeHeld r.handle).held? handle = g.held? handle := by
    rw [Gateway.held?_takeHeld, if_neg hother]
  cases htaken <;> exact hsame

theorem holds {work : List (Returned × PooledConnection)}
    (htaken : TakenBack opened g r conn acts g') (hholds : g.Holds ((r, conn) :: work)) :
    g'.Holds work := by
  obtain ⟨hdistinct, hheld⟩ := hholds
  rw [List.map_cons, List.nodup_cons] at hdistinct
  refine ⟨hdistinct.2, fun x hmem => ?_⟩
  have hother : x.1.handle ≠ r.handle := fun h => hdistinct.1 (List.mem_map.2 ⟨x, hmem, h⟩)
  rw [htaken.held?_eq hother]
  exact hheld x (List.mem_cons_of_mem _ hmem)

theorem openedIn_eq (htaken : TakenBack opened g r conn acts g') : openedIn acts = [] := by
  cases htaken with
  | discarded hunfit => rfl
  | checked hhealthy hserving hadmits now =>
      rw [openedIn_eq_nil_iff, List.forall_mem_cons, ← openedIn_eq_nil_iff]
      refine ⟨?_, openedIn_closings _⟩
      cases hadmits <;> rfl

/-- Whatever its check says, a connection can be taken back. -/
theorem exists_of_replies {replies : Nat → Reply}
    (hfit : ∀ socket probe, (Demand.check socket true probe).Admits opened (replies socket))
    (g : Gateway) (r : Returned) (conn : PooledConnection) :
    ∃ acts g', TakenBack opened g r conn acts g' ∧ ChecksOnly replies acts := by
  by_cases hunfit : conn.healthy = false ∨ g.draining = true
  · exact ⟨_, _, .discarded hunfit, by simp [ChecksOnly]⟩
  · obtain ⟨hhealthy, hserving⟩ : conn.healthy = true ∧ g.draining = false := by
      simpa using hunfit
    refine ⟨_, _, .checked hhealthy hserving (hfit conn.socket _) 0, fun demand reply hmem => ?_⟩
    rcases List.mem_cons.1 hmem with hsame | hclosed
    · obtain ⟨rfl, rfl⟩ := Act.called.inj hsame
      exact ⟨_, _, rfl, rfl⟩
    · obtain ⟨_, -, ⟨⟩⟩ := List.mem_map.1 hclosed

end TakenBack

/-! ### The stages of a check-in -/

namespace CheckIn

variable {opened : List Nat} {g g' : Gateway} {r : Returned} {conn : PooledConnection}
  {returns : List Returned} {answer : Answer} {acts : List Act} {result : Operation.Result}

def onward (r : Returned) (returns : List Returned) (answer : Answer) :
    Next CheckIn Unit → Next Operation Operation.Result
  | .stage stage => .stage (.returning { current := r, stage, waiting := returns } answer)
  | .done _ => Operation.serve returns answer

theorem resume_returning (g : Gateway) (now : Instant) (reply : Reply) (stage : CheckIn) :
    (Operation.returning { current := r, stage, waiting := returns } answer).resume g now reply =
      { gateway := (stage.resume g now r reply).gateway
        next := onward r returns answer (stage.resume g now r reply).next
        closed := (stage.resume g now r reply).closed
        notifies := (stage.resume g now r reply).notifies } := by
  simp only [Operation.resume, CheckIns.resume, Progress.lift]
  cases (stage.resume g now r reply).next with
  | stage stage' => rfl
  | done => cases returns <;> rfl

theorem performs_settling_iff {survivor : Option PooledConnection}
    (hserving : survivor = none ∨ g.draining = false) :
    Performs opened g
        (.returning { current := r, stage := .settling survivor, waiting := returns } answer)
        acts g' result ↔
      ∃ now, Continues opened (g.updatePool r.key (PooledConnection.settle now survivor))
        (Operation.serve returns answer) acts g' result := by
  have hsettled : ∀ now, CheckIn.resume g now r .proceed (.settling survivor) =
      { gateway := g.updatePool r.key (PooledConnection.settle now survivor)
        next := .done () } := by
    intro now
    cases survivor with
    | none => rfl
    | some conn =>
        have hserving : g.draining = false := hserving.resolve_left nofun
        simp [CheckIn.resume, hserving, PooledConnection.settle]
  rw [performs_quiet_iff rfl]
  simp only [resume_returning, hsettled, onward]
  constructor
  · rintro ⟨now, later, hcontinues, rfl⟩
    exact ⟨now, hcontinues⟩
  · rintro ⟨now, hcontinues⟩
    exact ⟨now, acts, hcontinues, rfl⟩

/-- The connection is checked first. -/
theorem performs_checking_iff (hhealthy : conn.healthy = true) (hserving : g.draining = false) :
    Performs opened g
        (.returning { current := r, stage := .checking conn, waiting := returns } answer)
        acts g' result ↔
      ∃ reply now later,
        (Demand.check conn.socket true g.config.probeOnCheckin).Admits opened reply ∧
        Continues opened (g.updatePool r.key (PooledConnection.settle now (conn.survivor reply)))
          (Operation.serve returns answer) later g' result ∧
        acts = .called (.check conn.socket true g.config.probeOnCheckin) reply ::
          closings (conn.casualty reply) ++ later := by
  have hdemanded : Operation.demand g
      (.returning { current := r, stage := .checking conn, waiting := returns } answer) =
      .check conn.socket true g.config.probeOnCheckin := by
    simp [Operation.demand, CheckIn.demand, PooledConnection.check, hhealthy]
  have htold : ∀ reply,
      (Demand.check conn.socket true g.config.probeOnCheckin).Admits opened reply →
        reply.opened = [] := by
    intro reply hadmits
    cases hadmits <;> rfl
  rw [performs_iff, hdemanded]
  simp only [resume_returning, CheckIn.resume, onward, Continues,
    performs_settling_iff (.inr hserving)]
  constructor
  · rintro ⟨now, reply, later, hadmits, ⟨now', hcontinues⟩, rfl⟩
    rw [htold reply hadmits] at hcontinues
    exact ⟨reply, now', later, hadmits, hcontinues, rfl⟩
  · rintro ⟨reply, now, later, hadmits, hcontinues, rfl⟩
    refine ⟨now, reply, later, hadmits, ⟨now, ?_⟩, rfl⟩
    rw [htold reply hadmits]
    exact hcontinues

/-- Whether a connection is worth a check is seen first. -/
theorem performs_judging_iff :
    Performs opened (g.takeHeld r.handle)
        (.returning { current := r, stage := .judging conn, waiting := returns } answer)
        acts g' result ↔
      ∃ first g₁ later, TakenBack opened g r conn first g₁ ∧
        Continues opened g₁ (Operation.serve returns answer) later g' result ∧
        acts = first ++ later := by
  by_cases hunfit : conn.healthy = false ∨ g.draining = true
  · have hjudged : ∀ now, (Operation.returning
        { current := r, stage := .judging conn, waiting := returns } answer).resume
          (g.takeHeld r.handle) now .proceed =
        { gateway := g.takeHeld r.handle
          next := .stage (.returning
            { current := r, stage := .settling none, waiting := returns } answer)
          closed := [conn] } := by
      intro now
      have hunfit : conn.healthy = false ∨ (g.takeHeld r.handle).draining = true := hunfit
      simp [resume_returning, CheckIn.resume, hunfit, onward]
    simp only [performs_stage_iff rfl hjudged, performs_settling_iff (.inl rfl)]
    constructor
    · rintro ⟨later, ⟨now, hcontinues⟩, rfl⟩
      exact ⟨_, _, later, .discarded hunfit, hcontinues, rfl⟩
    · rintro ⟨first, g₁, later, htaken, hcontinues, rfl⟩
      cases htaken with
      | discarded _ => exact ⟨later, ⟨0, hcontinues⟩, rfl⟩
      | checked hhealthy hserving _ _ => simp [hhealthy, hserving] at hunfit
  · obtain ⟨hhealthy, hserving⟩ : conn.healthy = true ∧ g.draining = false := by
      simpa using hunfit
    have hserving' : (g.takeHeld r.handle).draining = false := hserving
    have hjudged : ∀ now, (Operation.returning
        { current := r, stage := .judging conn, waiting := returns } answer).resume
          (g.takeHeld r.handle) now .proceed =
        { gateway := g.takeHeld r.handle
          next := .stage (.returning
            { current := r, stage := .checking conn, waiting := returns } answer) } := by
      intro now
      simp [resume_returning, CheckIn.resume, hhealthy, hserving', onward]
    rw [performs_next_iff rfl hjudged, performs_checking_iff hhealthy hserving']
    constructor
    · rintro ⟨reply, now, later, hadmits, hcontinues, rfl⟩
      exact ⟨_, _, later, .checked hhealthy hserving hadmits now, hcontinues, rfl⟩
    · rintro ⟨first, g₁, later, htaken, hcontinues, rfl⟩
      cases htaken with
      | discarded hbroken => exact absurd hbroken hunfit
      | checked _ _ hadmits now => exact ⟨_, now, later, hadmits, hcontinues, rfl⟩

theorem performs_taking_iff (hheld : g.held? r.handle = some conn) :
    Performs opened g (.returning { current := r, waiting := returns } answer) acts g' result ↔
      ∃ first g₁ later, TakenBack opened g r conn first g₁ ∧
        Continues opened g₁ (Operation.serve returns answer) later g' result ∧
        acts = first ++ later := by
  have htaking : ∀ now,
      (Operation.returning { current := r, waiting := returns } answer).resume g now .proceed =
        { gateway := g.takeHeld r.handle
          next := .stage (.returning
            { current := r, stage := .judging conn, waiting := returns } answer) } := by
    intro now
    simp [resume_returning, CheckIn.resume, hheld, onward]
  rw [performs_next_iff rfl htaking, performs_judging_iff]

end CheckIn

/-- Handles that are out of the table are served one after the other. -/
theorem continues_serve_iff {opened : List Nat} {g g' : Gateway}
    {work : List (Returned × PooledConnection)} (hholds : g.Holds work) {answer : Answer}
    {acts : List Act} {result : Operation.Result} :
    Continues opened g (Operation.serve (work.map (·.1)) answer) acts g' result ↔
      result = .ok answer ∧ TakenAllBack opened g work acts g' := by
  induction work generalizing g acts with
  | nil =>
      constructor
      · rintro ⟨rfl, rfl, rfl⟩
        exact ⟨rfl, .nil⟩
      · rintro ⟨rfl, ⟨⟩⟩
        exact ⟨rfl, rfl, rfl⟩
  | cons x work ih =>
      obtain ⟨r, conn⟩ := x
      have hheld : g.held? r.handle = some conn := hholds.held (r, conn) List.mem_cons_self
      refine (CheckIn.performs_taking_iff hheld).trans ?_
      constructor
      · rintro ⟨first, g₁, later, htaken, hcontinues, rfl⟩
        obtain ⟨rfl, hrest⟩ := (ih (htaken.holds hholds)).1 hcontinues
        exact ⟨rfl, .cons htaken hrest⟩
      · rintro ⟨rfl, hall⟩
        cases hall with
        | cons htaken hrest =>
            exact ⟨_, _, _, htaken, (ih (htaken.holds hholds)).2 ⟨rfl, hrest⟩, rfl⟩

/-! ### Releases -/

namespace Operation

variable {opened : List Nat} {g g' : Gateway} {acts : List Act} {result : Result}

theorem performs_release_iff {handle : Handle} {entry : Entry PoolKey}
    {registry : Registry PoolKey} {conn : PooledConnection}
    (hremoved : g.registry.remove handle = .ok (entry, registry))
    (hheld : g.held? handle = some conn) :
    Performs opened g (.release handle) acts g' result ↔
      result = .ok .done ∧
        TakenBack opened { g with registry } ⟨handle, entry.item⟩ conn acts g' := by
  have hreleased : ∀ now, (Operation.release handle).resume g now .proceed =
      { gateway := { g with registry }
        next := .stage (.returning { current := ⟨handle, entry.item⟩ } .done) } := by
    intro now
    simp [Operation.resume, hremoved, takeBack, CheckIns.returned, CheckIns.ofList?]
  have hheld : ({ g with registry } : Gateway).held? handle = some conn := hheld
  rw [performs_next_iff rfl hreleased, CheckIn.performs_taking_iff hheld]
  constructor
  · rintro ⟨first, g₁, later, htaken, ⟨rfl, rfl, rfl⟩, rfl⟩
    rw [List.append_nil]
    exact ⟨rfl, htaken⟩
  · rintro ⟨rfl, htaken⟩
    exact ⟨acts, g', [], htaken, ⟨rfl, rfl, rfl⟩, (List.append_nil acts).symm⟩

/-- Handles are released one after the other. -/
theorem performsAll_release_iff {taken : List (Handle × Entry PoolKey)}
    {registry : Registry PoolKey} {work : List (Returned × PooledConnection)}
    {results : List Result} (hremoves : g.registry.Removes taken registry)
    (hreturned : work.map (·.1) = CheckIns.returned taken) (hholds : g.Holds work) :
    PerformsAll opened g (taken.map fun x => .release x.1) acts g' results ↔
      results = taken.map (fun _ => .ok .done) ∧
        TakenAllBack opened { g with registry } work acts g' := by
  induction taken generalizing g acts results work with
  | nil =>
      cases hremoves
      obtain rfl : work = [] := List.map_eq_nil_iff.1 hreturned
      rw [List.map_nil, List.map_nil, performsAll_nil_iff]
      constructor
      · rintro ⟨rfl, rfl, rfl⟩
        exact ⟨rfl, .nil⟩
      · rintro ⟨rfl, ⟨⟩⟩
        exact ⟨rfl, rfl, rfl⟩
  | cons x taken ih =>
      obtain ⟨handle, entry⟩ := x
      match hremoves, work, hreturned with
      | @Registry.Removes.cons _ _ r₁ _ _ _ _ hremoved hremoves, (r, conn) :: work, hreturned =>
        obtain ⟨rfl, hothers⟩ := List.cons.inj hreturned
        have hheld : g.held? handle = some conn := hholds.held _ List.mem_cons_self
        have hholds' : ({ g with registry := r₁ } : Gateway).Holds _ :=
          ⟨hholds.distinct, hholds.held⟩
        -- A release leaves the table to the later ones as the removal has left it.
        have hlater : ∀ {acts₁ acts₂ g₁ results},
            TakenBack opened { g with registry := r₁ } ⟨handle, entry.item⟩ conn acts₁ g₁ →
            (PerformsAll (openedIn acts₁ ++ opened) g₁ (taken.map fun x => .release x.1) acts₂ g'
                results ↔
              results = taken.map (fun _ => .ok .done) ∧
                TakenAllBack opened { g₁ with registry } work acts₂ g') := by
          intro acts₁ acts₂ g₁ results hfirst
          rw [hfirst.openedIn_eq]
          exact ih (hfirst.registry_eq ▸ hremoves) hothers (hfirst.holds hholds')
        rw [List.map_cons, List.map_cons, performsAll_cons_iff]
        constructor
        · rintro ⟨acts₁, g₁, _, acts₂, _, hperforms, hrest, rfl, rfl⟩
          obtain ⟨rfl, hfirst⟩ := (performs_release_iff hremoved hheld).1 hperforms
          obtain ⟨rfl, hall⟩ := (hlater hfirst).1 hrest
          exact ⟨rfl, .cons (hfirst.withRegistry registry) hall⟩
        · rintro ⟨rfl, hall⟩
          cases hall with
          | @cons _ g₁ _ _ _ _ acts₁ acts₂ hfirst hrest =>
              have hfirst' := hfirst.withRegistry r₁
              have htable : g₁.registry = registry := hfirst.registry_eq
              have hsame : ({ g₁ with registry } : Gateway) = g₁ := by rw [← htable]
              refine ⟨acts₁, { g₁ with registry := r₁ }, _, acts₂, _,
                (performs_release_iff hremoved hheld).2 ⟨rfl, hfirst'⟩,
                (hlater hfirst').2 ⟨rfl, ?_⟩,
                rfl, rfl⟩
              rw [hsame]
              exact hrest

end Operation

/-! ### What stays as it is -/

/-- Connections have come back to a pool: some are kept, behind those that wait, and some are lost
to it. -/
def Pool.receive (p : Pool) (kept : List PooledConnection) (lost : Nat) : Pool :=
  { p with idle := p.idle ++ kept, total := p.total - lost }

def Gateway.Receives (g g' : Gateway) (work : List (Returned × PooledConnection)) : Prop :=
  ∀ key, ∃ kept lost, g'.pool? key = (g.pool? key).map (·.receive kept lost) ∧
    kept.length + lost = work.countP (·.1.key = key) ∧
    ∀ conn ∈ kept, ∃ x ∈ work, x.1.key = key ∧
      ∃ now, conn = { x.2 with holding := .idle, lastUsed := now }

theorem Pool.receive_nil (p : Pool) : p.receive [] 0 = p := by
  simp [Pool.receive]

theorem Pool.receive_receive (p : Pool) (kept kept' : List PooledConnection) (lost lost' : Nat) :
    (p.receive kept lost).receive kept' lost' = p.receive (kept ++ kept') (lost + lost') := by
  simp [Pool.receive, Nat.sub_sub]

theorem Gateway.receives_settle (g : Gateway) (r : Returned) (conn : PooledConnection)
    (now : Instant) {survivor : Option PooledConnection}
    (hsame : survivor = none ∨ survivor = some conn) :
    g.Receives ((g.takeHeld r.handle).updatePool r.key (PooledConnection.settle now survivor))
      [(r, conn)] := by
  intro key
  have hpool : ((g.takeHeld r.handle).updatePool r.key
      (PooledConnection.settle now survivor)).pool? key =
      if key = r.key then (g.pool? key).map (PooledConnection.settle now survivor)
      else g.pool? key := by
    rw [pool?_updatePool]
    split
    · next hhere => rw [hhere]; rfl
    · rfl
  rw [hpool]
  by_cases hhere : key = r.key
  · subst hhere
    rcases hsame with rfl | rfl
    · have hlost : PooledConnection.settle now none = (·.receive [] 1) := by
        funext p
        simp [PooledConnection.settle, Pool.forget, Pool.receive]
      exact ⟨[], 1, by rw [if_pos rfl, hlost], by simp, by simp⟩
    · exact ⟨[{ conn with holding := .idle, lastUsed := now }], 0,
        by simp [PooledConnection.settle, Pool.park, Pool.receive], by simp, by simp⟩
  · exact ⟨[], 0, by simp [hhere, Pool.receive_nil], by simp [Ne.symm hhere], by simp⟩

theorem TakenBack.receives {opened : List Nat} {g g' : Gateway} {r : Returned}
    {conn : PooledConnection} {acts : List Act} (htaken : TakenBack opened g r conn acts g') :
    g.Receives g' [(r, conn)] := by
  cases htaken with
  | discarded hunfit => exact g.receives_settle r conn 0 (.inl rfl)
  | @checked reply hhealthy hserving hadmits now =>
      apply g.receives_settle r conn now
      cases hsurvives : conn.survivor reply with
      | none => exact .inl rfl
      | some conn' => exact .inr (congrArg some (PooledConnection.survivor_eq_some hsurvives).1)

namespace TakenAllBack

variable {opened : List Nat} {g g' : Gateway} {work : List (Returned × PooledConnection)}
  {acts : List Act}

theorem frame (hall : TakenAllBack opened g work acts g') :
    { g' with pools := g.pools, held := g.held } = g := by
  induction hall with
  | nil => rfl
  | @cons g _ _ _ _ _ _ _ htaken _ ih =>
      exact (congrArg (fun g' => { g' with pools := g.pools, held := g.held }) ih).trans
        htaken.frame

theorem held?_eq (hall : TakenAllBack opened g work acts g') {handle : Handle}
    (hother : handle ∉ work.map (·.1.handle)) : g'.held? handle = g.held? handle := by
  induction hall with
  | nil => rfl
  | cons htaken _ ih =>
      rw [List.map_cons, List.mem_cons, not_or] at hother
      rw [ih hother.2, htaken.held?_eq hother.1]

theorem receives (hall : TakenAllBack opened g work acts g') : g.Receives g' work := by
  induction hall with
  | nil => exact fun key => ⟨[], 0, by simp [Pool.receive_nil], rfl, by simp⟩
  | @cons g g₁ g' r conn work _ _ htaken _ ih =>
      intro key
      obtain ⟨kept, lost, hpool, hcount, hback⟩ := htaken.receives key
      obtain ⟨kept', lost', hpool', hcount', hback'⟩ := ih key
      refine ⟨kept ++ kept', lost + lost', ?_, ?_, ?_⟩
      · rw [hpool', hpool, Option.map_map]
        congr 1
        funext p
        exact p.receive_receive kept kept' lost lost'
      · rw [List.countP_cons, ← hcount', List.length_append]
        rw [List.countP_singleton] at hcount
        omega
      · intro conn' hmem
        rcases List.mem_append.1 hmem with hmem | hmem
        · obtain ⟨x, hmem, hrest⟩ := hback conn' hmem
          exact ⟨x, List.mem_singleton.1 hmem ▸ List.mem_cons_self, hrest⟩
        · obtain ⟨x, hmem, hrest⟩ := hback' conn' hmem
          exact ⟨x, List.mem_cons_of_mem _ hmem, hrest⟩

/-- Whatever the checks say, connections can be taken back. -/
theorem exists_of_replies {replies : Nat → Reply}
    (hfit : ∀ socket probe, (Demand.check socket true probe).Admits opened (replies socket))
    (g : Gateway) (work : List (Returned × PooledConnection)) :
    ∃ acts g', TakenAllBack opened g work acts g' ∧ ChecksOnly replies acts := by
  induction work generalizing g with
  | nil => exact ⟨[], g, .nil, fun _ _ => nofun⟩
  | cons x work ih =>
      obtain ⟨r, conn⟩ := x
      obtain ⟨first, g₁, htaken, htold⟩ := TakenBack.exists_of_replies hfit g r conn
      obtain ⟨later, g', hall, htold'⟩ := ih g₁
      refine ⟨_, g', .cons htaken hall, fun demand reply hmem => ?_⟩
      exact (List.mem_append.1 hmem).elim (htold demand reply) (htold' demand reply)

end TakenAllBack

/-! ### The handles of an instance -/

namespace Gateway

variable {g g' : Gateway} {owner : InstanceId}

def openOf (g : Gateway) (owner : InstanceId) : List Returned :=
  CheckIns.returned (g.registry.entries.filter fun x => x.2.owner == owner)

def holdings (g : Gateway) (owner : InstanceId) : List (Returned × PooledConnection) :=
  (g.openOf owner).filterMap fun r => (g.held? r.handle).map (r, ·)

theorem length_openOf (g : Gateway) (owner : InstanceId) :
    (g.openOf owner).length = g.openHandles owner := by
  rw [openHandles, Registry.countOwnedBy_eq, List.countP_eq_length_filter]
  exact List.length_map ..

theorem returned_drainOwner (g : Gateway) (owner : InstanceId) :
    CheckIns.returned (g.registry.drainOwner owner).1 = g.openOf owner := by
  rw [Registry.drainOwner_taken, openOf]

theorem map_handle_openOf (g : Gateway) (owner : InstanceId) :
    (g.openOf owner).map (·.handle) = (g.registry.drainOwner owner).1.map (·.1) := by
  rw [← returned_drainOwner, CheckIns.returned, List.map_map]
  rfl

theorem mem_openOf_iff (hsound : g.registry.Sound) {handle : Handle} :
    handle ∈ (g.openOf owner).map (·.handle) ↔
      ∃ entry, g.registry.find? handle = some entry ∧ entry.owner = owner := by
  simp only [map_handle_openOf, Registry.drainOwner_taken, List.mem_map, List.mem_filter,
    beq_iff_eq, hsound.find?_eq_some_iff]
  constructor
  · rintro ⟨⟨_, entry⟩, ⟨hmem, howned⟩, rfl⟩
    exact ⟨entry, hmem, howned⟩
  · rintro ⟨entry, hmem, howned⟩
    exact ⟨(handle, entry), ⟨hmem, howned⟩, rfl⟩

theorem map_holdings {D : Multiset Duty} (htabled : Tabled g D) (owner : InstanceId) :
    (g.holdings owner).map (·.1) = g.openOf owner := by
  have hfound : ∀ r ∈ g.openOf owner, (g.held? r.handle).map (fun _ => r) = some r := by
    intro r hmem
    obtain ⟨x, howned, rfl⟩ := List.mem_map.1 hmem
    obtain ⟨conn, hheld, -⟩ := htabled.held?_of_entry (List.mem_of_mem_filter howned)
    rw [hheld]
    rfl
  calc (g.holdings owner).map (·.1)
      = (g.openOf owner).filterMap fun r => (g.held? r.handle).map fun _ => r := by
        rw [holdings, List.map_filterMap]
        congr 1
        funext r
        rw [Option.map_map]
        rfl
    _ = (g.openOf owner).filterMap some := List.filterMap_congr hfound
    _ = g.openOf owner := List.filterMap_some

theorem holds_holdings {D : Multiset Duty} (htabled : Tabled g D) (owner : InstanceId) :
    g.Holds (g.holdings owner) where
  distinct := by
    have handles : (g.holdings owner).map (·.1.handle) = (g.openOf owner).map (·.handle) := by
      rw [← map_holdings htabled, List.map_map]
      rfl
    rw [handles, map_handle_openOf, Registry.drainOwner_taken]
    exact htabled.sound.handles_nodup.sublist (List.filter_sublist.map _)
  held := by
    rintro ⟨r, conn⟩ hmem
    obtain ⟨r', -, hfound⟩ := List.mem_filterMap.1 hmem
    obtain ⟨conn', hheld, ⟨⟩⟩ := Option.map_eq_some_iff.1 hfound
    exact hheld

end Gateway

/-! ### A teardown and the releases it comes to -/

section Programs

variable {opened : List Nat} {g g' : Gateway} {D : Multiset Duty} {owner : InstanceId}
  {acts : List Act}

/-- A teardown takes all handles out of the table, and then takes their connections back. -/
theorem performs_teardown_iff (htabled : Tabled g D) {result : Operation.Result} :
    Performs opened g (.teardown owner) acts g' result ↔
      result = .ok (.count (g.openHandles owner)) ∧
        TakenAllBack opened { g with registry := (g.registry.drainOwner owner).2 }
          (g.holdings owner) acts g' := by
  obtain ⟨hdistinct, hheld⟩ := Gateway.holds_holdings htabled owner
  have hholds : ({ g with registry := (g.registry.drainOwner owner).2 } : Gateway).Holds
      (g.holdings owner) := ⟨hdistinct, hheld⟩
  have htorn : ∀ now, (Operation.teardown owner).resume g now .proceed =
      { gateway := { g with registry := (g.registry.drainOwner owner).2 }
        next :=
          Operation.serve ((g.holdings owner).map (·.1)) (.count (g.openHandles owner)) } := by
    intro now
    rw [Gateway.map_holdings htabled, ← Gateway.length_openOf, ← Gateway.returned_drainOwner,
      CheckIns.returned, List.length_map]
    rfl
  rw [← continues_serve_iff hholds, performs_quiet_iff rfl]
  simp only [htorn]
  constructor
  · rintro ⟨now, later, hcontinues, rfl⟩
    exact hcontinues
  · exact fun hcontinues => ⟨0, acts, hcontinues, rfl⟩

/-- So do the releases of the handles, in the end. -/
theorem performsAll_releases_iff (htabled : Tabled g D) {results : List Operation.Result} :
    PerformsAll opened g ((g.openOf owner).map fun r => .release r.handle) acts g' results ↔
      results = (g.openOf owner).map (fun _ => .ok .done) ∧
        TakenAllBack opened { g with registry := (g.registry.drainOwner owner).2 }
          (g.holdings owner) acts g' := by
  have hreturned := (Gateway.map_holdings htabled owner).trans (g.returned_drainOwner owner).symm
  have hreleases := @Operation.performsAll_release_iff opened g g' acts _ _ _ results
    (htabled.sound.removes_vacateAll _) hreturned (Gateway.holds_holdings htabled owner)
  rw [← Gateway.returned_drainOwner, CheckIns.returned, List.map_map, List.map_map]
  exact hreleases

end Programs

/-- A teardown leaves everything alone that does not belong to the instance. -/
structure Gateway.Spares (g g' : Gateway) (owner : InstanceId) : Prop where
  frame : { g' with pools := g.pools, registry := g.registry, held := g.held } = g
  /-- The handles of other instances stay as they are, live and dead ones. -/
  entries : ∀ handle, (∀ entry, g.registry.find? handle = some entry → entry.owner ≠ owner) →
    g'.registry.find? handle = g.registry.find? handle ∧ g'.held? handle = g.held? handle
  /-- To a pool, nothing happens but that connections of the instance come back. -/
  pools : g.Receives g' (g.holdings owner)

/-- What taking the connections of an instance back leaves alone, once its handles are gone. -/
theorem Gateway.spares_of_takenAllBack {opened : List Nat} {g g' : Gateway} {owner : InstanceId}
    {acts : List Act} (hsound : g.registry.Sound)
    (hreturned : (g.holdings owner).map (·.1) = g.openOf owner)
    (hall : TakenAllBack opened { g with registry := (g.registry.drainOwner owner).2 }
      (g.holdings owner) acts g') :
    g.Spares g' owner where
  frame := congrArg (fun g' : Gateway => { g' with registry := g.registry }) hall.frame
  entries handle hforeign := by
    have hother : handle ∉ (g.openOf owner).map (·.handle) := by
      rw [mem_openOf_iff hsound]
      rintro ⟨entry, hfound, howned⟩
      exact hforeign entry hfound howned
    have huntaken : handle ∉ (g.registry.drainOwner owner).1.map (·.1) := by
      rwa [← map_handle_openOf]
    have hunheld : handle ∉ (g.holdings owner).map (·.1.handle) := by
      rwa [← hreturned, List.map_map] at hother
    have hregistry : g'.registry = (g.registry.drainOwner owner).2 :=
      congrArg Gateway.registry hall.frame
    rw [hregistry]
    exact ⟨(g.registry.drainOwner_yields owner).find?_eq hsound huntaken, hall.held?_eq hunheld⟩
  pools := hall.receives

/-- The teardown of an instance, when nothing comes in between. -/
structure TearsDown (opened : List Nat) (g : Gateway) (owner : InstanceId) : Prop where
  /-- The open handles are those in the table that belong to the instance. -/
  live : ∀ handle, handle ∈ (g.openOf owner).map (·.handle) ↔
    ∃ entry, g.registry.find? handle = some entry ∧ entry.owner = owner
  inOrder : ((g.openOf owner).map (·.handle.slot)).Pairwise (· < ·)
  /-- The teardown does what the releases of these handles do, one after the other: the servers see
  the same and the state is the same at the end. It gives their number. -/
  same : ∀ acts g' result, Performs opened g (.teardown owner) acts g' result ↔
    result = .ok (.count (g.openHandles owner)) ∧
      PerformsAll opened g ((g.openOf owner).map fun r => .release r.handle) acts g'
        ((g.openOf owner).map fun _ => .ok .done)
  /-- None of the releases is refused. -/
  released : ∀ acts g' results,
    PerformsAll opened g ((g.openOf owner).map fun r => .release r.handle) acts g' results →
      results = (g.openOf owner).map fun _ => .ok .done
  /-- The teardown comes to its end, whatever the checks of the connections say. -/
  ends : ∀ replies : Nat → Reply,
    (∀ socket probe, (Demand.check socket true probe).Admits opened (replies socket)) →
      ∃ acts g', Performs opened g (.teardown owner) acts g'
        (.ok (.count (g.openHandles owner))) ∧ ChecksOnly replies acts
  spares : ∀ acts g' result, Performs opened g (.teardown owner) acts g' result → g.Spares g' owner

/-- Tearing an instance down is releasing its open handles, in any state that can be reached. -/
theorem teardown_eq_releases {config : PoolConfig} {t : Traffic}
    (h : Traffic.Reachable config t) (owner : InstanceId) :
    TearsDown t.opened t.gateway owner := by
  have htabled := h.invariant.coherent.tabled
  have hsound := htabled.sound
  have hreleases := fun acts g' results =>
    @performsAll_releases_iff t.opened t.gateway g' _ owner acts htabled results
  refine ⟨fun handle => Gateway.mem_openOf_iff hsound, ?_, fun acts g' result => ?_,
    fun acts g' results hall => ((hreleases acts g' results).1 hall).1, fun replies hfit => ?_,
    fun acts g' result hperforms => ?_⟩
  · have hslots : (t.gateway.openOf owner).map (·.handle.slot) =
        (t.gateway.registry.entries.filter fun x => x.2.owner == owner).map (·.1.slot) := by
      rw [Gateway.openOf, CheckIns.returned, List.map_map]
      rfl
    rw [hslots]
    exact hsound.slots_pairwise.sublist (List.filter_sublist.map _)
  · rw [performs_teardown_iff htabled, hreleases acts g', and_iff_right rfl]
  · obtain ⟨acts, g', hall, htold⟩ :=
      TakenAllBack.exists_of_replies hfit _ (t.gateway.holdings owner)
    exact ⟨acts, g', (performs_teardown_iff htabled).2 ⟨rfl, hall⟩, htold⟩
  · exact Gateway.spares_of_takenAllBack hsound (Gateway.map_holdings htabled owner)
      ((performs_teardown_iff htabled).1 hperforms).2

/-- An instance has two connections, to different databases, and another instance has one. -/
def threeHeldRun : List Traffic.Turn :=
  [.begin (.checkout ⟨1, sampleRequest⟩ .screen), .resume 0 0 .proceed, .resume 0 0 .proceed,
    .resume 0 0 .proceed, .resume 0 0 (.dialed (.ok 0)), .resume 0 0 .proceed,
    .begin (.checkout ⟨2, sampleRequest⟩ .screen), .resume 0 0 .proceed, .resume 0 0 .proceed,
    .resume 0 0 .proceed, .resume 0 0 (.dialed (.ok 1)), .resume 0 0 .proceed,
    .begin (.checkout ⟨1, { sampleRequest with database := "other" }⟩ .screen),
    .resume 0 0 .proceed, .resume 0 0 .proceed, .resume 0 0 .proceed,
    .resume 0 0 (.dialed (.ok 2)), .resume 0 0 .proceed]

def oneKept (probe : Bool) : List Act :=
  [.called (.check 0 true probe) (.checked true), .called (.check 2 true probe) (.checked false),
    .closed 2]

theorem teardown_eq_releases_two :
    ∃ t g', (Traffic.init {}).play? threeHeldRun = some t ∧ TearsDown t.opened t.gateway 1 ∧
      Performs t.opened t.gateway (.teardown 1) (oneKept true) g' (.ok (.count 2)) ∧
      PerformsAll t.opened t.gateway [.release (Handle.make 0 1), .release (Handle.make 2 3)]
        (oneKept true) g' [.ok .done, .ok .done] ∧
      g'.openHandles 1 = 0 ∧ g'.openHandles 2 = 1 ∧
      g'.pools.map (·.2.stats) = [{ active := 1, idle := 1, total := 2 }, {}] := by
  let t := ((Traffic.init {}).play? threeHeldRun).get (by decide +kernel)
  have hplay : (Traffic.init {}).play? threeHeldRun = some t := (Option.some_get _).symm
  have hreachable := Traffic.reachable_of_play? .refl hplay
  have htearsDown := teardown_eq_releases hreachable 1
  let kept : PooledConnection :=
    { socket := 0, key := .ofConfig sampleRequest, holding := .checkedOut, lastUsed := 0 }
  let lost : PooledConnection :=
    { kept with socket := 2, key := .ofConfig { sampleRequest with database := "other" } }
  have hcount : t.gateway.openHandles 1 = 2 := by decide +kernel
  have handles : t.gateway.openOf 1 =
      [⟨Handle.make 0 1, kept.key⟩, ⟨Handle.make 2 3, lost.key⟩] := by
    decide +kernel
  have hholdings : t.gateway.holdings 1 =
      [(⟨Handle.make 0 1, kept.key⟩, kept), (⟨Handle.make 2 3, lost.key⟩, lost)] := by
    decide +kernel
  have hserving : t.gateway.draining = false := by decide +kernel
  have hprobe : t.gateway.config.probeOnCheckin = true := by decide +kernel
  let g : Gateway := { t.gateway with registry := (t.gateway.registry.drainOwner 1).2 }
  have hpasses := @TakenBack.checked t.opened g ⟨Handle.make 0 1, kept.key⟩ kept (.checked true) rfl
    hserving .checked 0
  have hfails := fun g₁ hserving => @TakenBack.checked t.opened g₁ ⟨Handle.make 2 3, lost.key⟩ lost
    (.checked false) rfl hserving .checked 0
  have hall := TakenAllBack.cons hpasses (.cons (hfails _ hserving) .nil)
  rw [← hholdings] at hall
  have hperforms : Performs t.opened t.gateway (.teardown 1)
      (oneKept t.gateway.config.probeOnCheckin) _ (.ok (.count (t.gateway.openHandles 1))) :=
    (performs_teardown_iff (Traffic.Reachable.invariant hreachable).coherent.tabled).2 ⟨rfl, hall⟩
  rw [hprobe] at hperforms
  have hreleases := ((htearsDown.same _ _ _).1 hperforms).2
  rw [handles] at hreleases
  rw [hcount] at hperforms
  refine ⟨t, _, hplay, htearsDown, hperforms, hreleases, ?_, ?_, ?_⟩
  · decide +kernel
  · decide +kernel
  · decide +kernel

end DatabaseGateway
