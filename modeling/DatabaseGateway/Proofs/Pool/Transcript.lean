import DatabaseGateway.Proofs.Pool.Solo

/-!
What an operation does to the servers and what it is told, in order. `Performs` is the judgment for
an operation that runs through without interruption, whatever the servers reply; `PerformsAll` is
the one for operations that are carried out one after the other. Two programs that have the same
transcripts and leave the same states cannot be told apart by any server.

A stage is opened with one rule, `performs_iff`. The rules for stages that wait for nothing are
cases of it.
-/

namespace DatabaseGateway

/-- What happens between an operation and the servers. -/
inductive Act where
  | called (demand : Demand) (reply : Reply)
  | closed (socket : Nat)

def Demand.acts : Demand → Reply → List Act
  | nothing, _ | notice, _ | pause _, _ => []
  | demand, reply => [.called demand reply]

def closings (closed : List PooledConnection) : List Act :=
  closed.map fun conn => .closed conn.socket

/-- A connection that is closed after a call is closed after the reply. -/
def Move.acts : Move → List Act
  | resume _ demand reply _ closed => demand.acts reply ++ closings closed
  | begin _ | attach | settle .. => []

/-- The acts of moves, of which the latest comes first. -/
def actsOf (moves : List Move) : List Act := moves.reverse.flatMap Move.acts

theorem actsOf_append_singleton (moves : List Move) (m : Move) :
    actsOf (moves ++ [m]) = m.acts ++ actsOf moves := by
  simp [actsOf]

def Act.opened : Act → List Nat
  | called _ reply => reply.opened
  | closed _ => []

def openedIn (acts : List Act) : List Nat := acts.reverse.flatMap Act.opened

theorem openedIn_eq_nil_iff {acts : List Act} :
    openedIn acts = [] ↔ ∀ act ∈ acts, act.opened = [] := by
  simp [openedIn]

theorem openedIn_closings (closed : List PooledConnection) : openedIn (closings closed) = [] := by
  simp [openedIn_eq_nil_iff, closings, Act.opened]

/-- An operation runs through without interruption. -/
def Performs (opened : List Nat) (g : Gateway) (op : Operation) (acts : List Act) (g' : Gateway)
    (result : Operation.Result) : Prop :=
  ∃ moves, Solo opened g op moves g' result ∧ actsOf moves = acts

/-- What follows on a step is nothing, or the rest of the operation. -/
def Continues (opened : List Nat) (g : Gateway) :
    Next Operation Operation.Result → List Act → Gateway → Operation.Result → Prop
  | .done r, acts, g', result => acts = [] ∧ g' = g ∧ result = r
  | .stage op, acts, g', result => Performs opened g op acts g' result

/-- Operations are carried out one after the other, each without interruption. -/
inductive PerformsAll : List Nat → Gateway → List Operation → List Act → Gateway →
    List Operation.Result → Prop
  | nil {opened : List Nat} {g : Gateway} : PerformsAll opened g [] [] g []
  | cons {opened : List Nat} {g g₁ g' : Gateway} {op : Operation} {ops : List Operation}
      {first later : List Act} {result : Operation.Result} {results : List Operation.Result}
      (performs : Performs opened g op first g₁ result)
      (rest : PerformsAll (openedIn first ++ opened) g₁ ops later g' results) :
      PerformsAll opened g (op :: ops) (first ++ later) g' (result :: results)

section Rules

variable {opened : List Nat} {g g₁ g' : Gateway} {op op' : Operation} {acts : List Act}
  {result result' : Operation.Result}

/-- An operation is its next step and what follows on it. -/
theorem performs_iff :
    Performs opened g op acts g' result ↔
      ∃ now reply later, (op.demand g).Admits opened reply ∧
        Continues (reply.opened ++ opened) (op.resume g now reply).gateway
          (op.resume g now reply).next later g' result ∧
        acts = (op.demand g).acts reply ++ closings (op.resume g now reply).closed ++ later := by
  constructor
  · rintro ⟨moves, hsolo, rfl⟩
    cases hsolo with
    | last now reply p hadmits hresumed hended =>
        subst hresumed
        refine ⟨now, reply, [], hadmits, ?_, by simp [actsOf, Move.acts]⟩
        rw [hended]
        exact ⟨rfl, rfl, rfl⟩
    | step now reply p hadmits hresumed hgoes hsolo =>
        subst hresumed
        refine ⟨now, reply, _, hadmits, ?_, actsOf_append_singleton _ _⟩
        rw [hgoes]
        exact ⟨_, hsolo, rfl⟩
  · rintro ⟨now, reply, later, hadmits, hcontinues, rfl⟩
    cases hgoes : (op.resume g now reply).next with
    | done r =>
        rw [hgoes] at hcontinues
        obtain ⟨rfl, rfl, rfl⟩ := hcontinues
        exact ⟨_, .last now reply _ hadmits rfl hgoes, by simp [actsOf, Move.acts]⟩
    | stage op' =>
        rw [hgoes] at hcontinues
        obtain ⟨moves, hsolo, rfl⟩ := hcontinues
        exact ⟨_, .step now reply _ hadmits rfl hgoes hsolo, actsOf_append_singleton _ _⟩

theorem performs_quiet_iff (hdemanded : op.demand g = .nothing) :
    Performs opened g op acts g' result ↔
      ∃ now later, Continues opened (op.resume g now .proceed).gateway
          (op.resume g now .proceed).next later g' result ∧
        acts = closings (op.resume g now .proceed).closed ++ later := by
  rw [performs_iff, hdemanded]
  constructor
  · rintro ⟨now, reply, later, hadmits, hcontinues, rfl⟩
    cases hadmits
    exact ⟨now, later, hcontinues, rfl⟩
  · rintro ⟨now, later, hcontinues, rfl⟩
    exact ⟨now, .proceed, later, .nothing, hcontinues, rfl⟩

/-- A stage that waits for nothing and leads to another one, whatever the time. -/
theorem performs_stage_iff {closed : List PooledConnection} {notifies : Bool}
    (hdemanded : op.demand g = .nothing)
    (hresume : ∀ now, op.resume g now .proceed =
      { gateway := g₁, next := .stage op', closed, notifies }) :
    Performs opened g op acts g' result ↔
      ∃ later, Performs opened g₁ op' later g' result ∧ acts = closings closed ++ later := by
  simp only [performs_quiet_iff hdemanded, hresume, Continues, exists_const]

theorem performs_next_iff {notifies : Bool} (hdemanded : op.demand g = .nothing)
    (hresume : ∀ now, op.resume g now .proceed =
      { gateway := g₁, next := .stage op', notifies }) :
    Performs opened g op acts g' result ↔ Performs opened g₁ op' acts g' result := by
  rw [performs_stage_iff hdemanded hresume]
  constructor
  · rintro ⟨later, hperforms, rfl⟩
    exact hperforms
  · exact fun hperforms => ⟨acts, hperforms, rfl⟩

theorem performs_done_iff {after : Instant → Gateway} {closed : List PooledConnection}
    (hdemanded : op.demand g = .nothing)
    (hresume : ∀ now, op.resume g now .proceed =
      { gateway := after now, next := .done result', closed }) :
    Performs opened g op acts g' result ↔
      acts = closings closed ∧ (∃ now, g' = after now) ∧ result = result' := by
  simp only [performs_quiet_iff hdemanded, hresume, Continues]
  constructor
  · rintro ⟨now, later, ⟨rfl, rfl, rfl⟩, rfl⟩
    exact ⟨List.append_nil _, ⟨now, rfl⟩, rfl⟩
  · rintro ⟨rfl, ⟨now, rfl⟩, rfl⟩
    exact ⟨now, [], ⟨rfl, rfl, rfl⟩, (List.append_nil _).symm⟩

theorem performsAll_nil_iff {results : List Operation.Result} :
    PerformsAll opened g [] acts g' results ↔ acts = [] ∧ g' = g ∧ results = [] := by
  constructor
  · rintro ⟨⟩
    exact ⟨rfl, rfl, rfl⟩
  · rintro ⟨rfl, rfl, rfl⟩
    exact .nil

theorem performsAll_cons_iff {ops : List Operation} {results : List Operation.Result} :
    PerformsAll opened g (op :: ops) acts g' results ↔
      ∃ first g₁ result later rest, Performs opened g op first g₁ result ∧
        PerformsAll (openedIn first ++ opened) g₁ ops later g' rest ∧
        acts = first ++ later ∧ results = result :: rest := by
  constructor
  · rintro ⟨⟩
    exact ⟨_, _, _, _, _, ‹_›, ‹_›, rfl, rfl⟩
  · rintro ⟨first, g₁, result, later, rest, hperforms, hperformsAll, rfl, rfl⟩
    exact .cons hperforms hperformsAll

end Rules

end DatabaseGateway
