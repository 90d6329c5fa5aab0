import DatabaseGateway.Proofs.Pool.Solo

/-!
Operations with one course. What the world will say is foretold: which connections pass a probe, and
what comes of a dial. `RunsTo` is the judgment for an operation that then has one course: it can run
through, and however it does, it has these effects on the servers, leaves this state and comes to
this result. A stage has one reply (`Forecast.Settles`), so the judgment has one rule for a stage
that leads to another one and one for a stage that is the last, and a course is put together from
its end.

A forecast lets no deadline pass. Of calls on behalf of guests it says nothing.
-/

namespace DatabaseGateway

/-- What the world will say to a request, within the deadlines. A request probes no connection twice
and dials once, so this is all it is told. -/
structure Forecast where
  /-- Whether a connection passes its probe. -/
  passes : Nat → Bool
  /-- What comes of a dial. -/
  dialed : Except GatewayError Nat

namespace Forecast

def Tells (f : Forecast) : Demand → Reply → Prop
  | .check socket _ _, reply => reply = .checked (f.passes socket)
  | .dial _ _, reply => reply = .dialed f.dialed
  | _, _ => True

/-- A demand has this reply and no other. -/
def Settles (f : Forecast) (opened : List Nat) (demand : Demand) (reply : Reply) : Prop :=
  ∀ r, demand.Admits opened r ∧ f.Tells demand r ↔ r = reply

variable {f : Forecast} {opened : List Nat}

theorem settles_nothing : f.Settles opened .nothing .proceed := by
  intro r
  constructor
  · rintro ⟨hadmits, -⟩
    cases hadmits
    rfl
  · rintro rfl
    exact ⟨.nothing, trivial⟩

theorem settles_check (socket : Nat) (reset probe : Bool) :
    f.Settles opened (.check socket reset probe) (.checked (f.passes socket)) := by
  intro r
  constructor
  · exact And.right
  · rintro rfl
    exact ⟨.checked, rfl⟩

theorem settles_dial (hfresh : ∀ socket, f.dialed = .ok socket → socket ∉ opened) (key : PoolKey)
    (password : Option String) :
    f.Settles opened (.dial key password) (.dialed f.dialed) := by
  intro r
  constructor
  · exact And.right
  · rintro rfl
    refine ⟨?_, rfl⟩
    cases hdialed : f.dialed with
    | error e => exact .refused
    | ok socket => exact .connected (hfresh socket hdialed)

end Forecast

def Move.Foretold (f : Forecast) : Move → Prop
  | .resume _ demand reply _ _ => f.Tells demand reply
  | .begin _ | .attach | .settle .. => True

/-! ### What the servers get to know -/

inductive Effect where
  | called (demand : Demand)
  | closed (socket : Nat)
  deriving DecidableEq

def Demand.effects : Demand → List Effect
  | nothing | notice | pause _ => []
  | demand => [.called demand]

/-- A connection that is closed after a call is closed after the reply. -/
def Move.effects : Move → List Effect
  | resume _ demand _ _ closed => demand.effects ++ closed.map fun conn => .closed conn.socket
  | begin _ | attach | settle .. => []

def effectsOf (moves : List Move) : List Effect := moves.reverse.flatMap Move.effects

theorem effectsOf_append_singleton (moves : List Move) (m : Move) :
    effectsOf (moves ++ [m]) = m.effects ++ effectsOf moves := by
  simp [effectsOf]

/-! ### Operations with one course -/

def Runs (f : Forecast) (opened : List Nat) (g : Gateway) (op : Operation) (effects : List Effect)
    (g' : Gateway) (result : Operation.Result) : Prop :=
  ∃ moves, Solo opened g op moves g' result ∧ (∀ m ∈ moves, m.Foretold f) ∧
    effectsOf moves = effects

/-- An operation can run through, and however it does, it comes to the same. Only the time at which
it is over makes a difference to the state. -/
structure RunsTo (f : Forecast) (opened : List Nat) (g : Gateway) (op : Operation)
    (effects : List Effect) (after : Instant → Gateway) (result : Operation.Result) : Prop where
  runs : ∀ now, Runs f opened g op effects (after now) result
  only : ∀ {effects' g' result'}, Runs f opened g op effects' g' result' →
    effects' = effects ∧ (∃ now, g' = after now) ∧ result' = result

namespace RunsTo

variable {f : Forecast} {opened : List Nat} {g g₁ : Gateway} {op op' : Operation}
  {demand : Demand} {reply : Reply} {closed : List PooledConnection} {effects : List Effect}
  {after : Instant → Gateway} {result : Operation.Result}

/-- A stage that leads to another one, whether or not it tells those who wait for a probe. The time
may stand in what follows, but it must not matter there. -/
theorem step {next : Instant → Operation} (hdemanded : op.demand g = demand)
    (hsettles : f.Settles opened demand reply)
    (hleaves : ∀ now, (op.resume g now reply).gateway = g₁)
    (hgoes : ∀ now, (op.resume g now reply).next = .stage (next now))
    (hcloses : ∀ now, (op.resume g now reply).closed = closed)
    (hrest : ∀ now, RunsTo f (reply.opened ++ opened) g₁ (next now) effects after result) :
    RunsTo f opened g op
      (demand.effects ++ closed.map (fun conn => .closed conn.socket) ++ effects) after result := by
  subst hdemanded
  refine ⟨fun now => ?_, ?_⟩
  · obtain ⟨moves, hsolo, htold, rfl⟩ := (hrest now).runs now
    obtain ⟨hadmits, htells⟩ := (hsettles reply).2 rfl
    rw [← hleaves now] at hsolo
    refine ⟨_, .step now reply _ hadmits rfl (hgoes now) hsolo,
      List.forall_mem_append.2 ⟨htold, List.forall_mem_singleton.2 htells⟩, ?_⟩
    rw [effectsOf_append_singleton, Move.effects, hcloses]
  · rintro _ g' result' ⟨_, hsolo, htold, rfl⟩
    cases hsolo with
    | last now r p hadmits hresumed hended =>
        obtain rfl := (hsettles r).1 ⟨hadmits, htold _ (List.mem_singleton_self _)⟩
        subst hresumed
        rw [hgoes] at hended
        cases hended
    | step now r p hadmits hresumed honward hsolo =>
        obtain ⟨htold', hhere⟩ := List.forall_mem_append.1 htold
        obtain rfl := (hsettles r).1 ⟨hadmits, hhere _ (List.mem_singleton_self _)⟩
        subst hresumed
        rw [hleaves] at hsolo
        obtain rfl := Next.stage.inj ((hgoes now).symm.trans honward)
        obtain ⟨rfl, hends⟩ := (hrest now).only ⟨_, hsolo, htold', rfl⟩
        refine ⟨?_, hends⟩
        rw [effectsOf_append_singleton, Move.effects, hcloses]

theorem stage {next : Instant → Operation} (hdemanded : op.demand g = demand)
    (hsettles : f.Settles opened demand reply)
    (hresume : ∀ now, op.resume g now reply =
      { gateway := g₁, next := .stage (next now), closed })
    (hrest : ∀ now, RunsTo f (reply.opened ++ opened) g₁ (next now) effects after result) :
    RunsTo f opened g op
      (demand.effects ++ closed.map (fun conn => .closed conn.socket) ++ effects) after result :=
  step hdemanded hsettles (fun now => by rw [hresume]) (fun now => by rw [hresume])
    (fun now => by rw [hresume]) hrest

/-- A stage that waits for nothing leads to another one. -/
theorem quiet (hdemanded : op.demand g = .nothing)
    (hresume : ∀ now, op.resume g now .proceed = { gateway := g₁, next := .stage op' })
    (hrest : RunsTo f opened g₁ op' effects after result) :
    RunsTo f opened g op effects after result :=
  stage hdemanded Forecast.settles_nothing hresume fun _ => hrest

/-- A stage that waits for nothing and leads to another one, while it ends a probe. -/
theorem notifying (hdemanded : op.demand g = .nothing)
    (hresume : ∀ now, op.resume g now .proceed =
      { gateway := g₁, next := .stage op', notifies := true })
    (hrest : RunsTo f opened g₁ op' effects after result) :
    RunsTo f opened g op effects after result := by
  have hcloses : ∀ now, (op.resume g now .proceed).closed = [] := fun now => by rw [hresume]
  exact step hdemanded Forecast.settles_nothing (fun now => by rw [hresume])
    (fun now => by rw [hresume]) hcloses fun _ => hrest

theorem done (hdemanded : op.demand g = .nothing)
    (hresume : ∀ now, op.resume g now .proceed =
      { gateway := after now, next := .done result }) :
    RunsTo f opened g op [] after result := by
  refine ⟨fun now => ⟨_, .last now .proceed _ (hdemanded ▸ .nothing) (hresume now) rfl,
    List.forall_mem_singleton.2 (by rw [hdemanded]; trivial), by rw [hdemanded]; rfl⟩, ?_⟩
  rintro _ g' result' ⟨_, hsolo, htold, rfl⟩
  cases hsolo with
  | last now r p hadmits hresumed hended =>
      subst hresumed
      rw [hdemanded] at hadmits ⊢
      cases hadmits
      rw [hresume] at hended ⊢
      cases hended
      exact ⟨rfl, ⟨now, rfl⟩, rfl⟩
  | step now r p hadmits hresumed hgoes =>
      subst hresumed
      rw [hdemanded] at hadmits
      cases hadmits
      rw [hresume] at hgoes
      cases hgoes

/-- What an operation comes to is a state of the gateway in which nothing is under way. -/
theorem reachable {config : PoolConfig} {t : Traffic} (h : Traffic.Reachable config t)
    (halone : t.flights = []) (hinitial : op.Initial)
    (hrun : RunsTo f t.opened t.gateway op effects after result) (now : Instant) :
    ∃ t', Traffic.Reachable config t' ∧ t'.gateway = after now ∧ t'.flights = [] := by
  obtain ⟨_, hsolo, -, -⟩ := hrun.runs now
  obtain ⟨t', h', hgateway, hflights, -⟩ := Solo.run h halone hinitial hsolo
  exact ⟨t', h', hgateway, hflights⟩

end RunsTo

end DatabaseGateway
