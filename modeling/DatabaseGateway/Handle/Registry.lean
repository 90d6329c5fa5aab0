import DatabaseGateway.Error

/-!
Handles and what they stand for.

A handle is a slot of a table together with a generation. Slots are used again; generations never
are, so a handle that is kept after it was closed does not come to mean what later takes its slot.
-/

namespace DatabaseGateway

/-- The number by which a guest names a connection. -/
abbrev Handle := Nat

/-- The number of a guest instance, which owns the handles issued to it. -/
abbrev InstanceId := Nat

namespace Handle

/-- How many slots a table can have: what 24 bits can tell apart. -/
def slotBound : Nat := 0x1000000

/-- How many generations can be told apart, by 40 bits. -/
def generationBound : Nat := 0x10000000000

def make (slot generation : Nat) : Handle := generation * slotBound + slot

def slot (h : Handle) : Nat := h % slotBound

def generation (h : Handle) : Nat := h / slotBound

@[simp] theorem generation_make {slot : Nat} (h : slot < slotBound) (g : Nat) :
    (make slot g).generation = g := by
  unfold make generation
  rw [Nat.add_comm, Nat.add_mul_div_right _ _ (by decide), Nat.div_eq_of_lt h, Nat.zero_add]

@[simp] theorem slot_make {n : Nat} (h : n < slotBound) (g : Nat) : (make n g).slot = n := by
  unfold make slot
  rw [Nat.add_comm, Nat.add_mul_mod_self_right, Nat.mod_eq_of_lt h]

end Handle

structure Entry (α : Type) where
  generation : Nat
  owner : InstanceId
  item : α
  deriving DecidableEq, Repr

/-- The table of live handles. `free` holds the vacant slots, the next one to be used first.
Generation zero is never issued, so that handle zero is never valid. -/
structure Registry (α : Type) where
  slots : Array (Option (Entry α)) := #[]
  free : List Nat := []
  nextGeneration : Nat := 1
  size : Nat := 0
  deriving Repr

namespace Registry

variable {α : Type}

def insert (r : Registry α) (owner : InstanceId) (item : α) :
    Except GatewayError (Handle × Registry α) :=
  let entry := some ⟨r.nextGeneration, owner, item⟩
  if Handle.generationBound ≤ r.nextGeneration then
    .error (.poolExhausted "handle generations exhausted")
  else match r.free with
    | slot :: free =>
      .ok (Handle.make slot r.nextGeneration,
        ⟨r.slots.setIfInBounds slot entry, free, r.nextGeneration + 1, r.size + 1⟩)
    | [] =>
      if Handle.slotBound ≤ r.slots.size then .error (.poolExhausted "handle table is full")
      else
        .ok (Handle.make r.slots.size r.nextGeneration,
          ⟨r.slots.push entry, [], r.nextGeneration + 1, r.size + 1⟩)

def insertAll (r : Registry α) (owner : InstanceId) :
    List α → Except GatewayError (List Handle × Registry α)
  | [] => .ok ([], r)
  | item :: items => do
    let (handle, r) ← r.insert owner item
    let (handles, r) ← insertAll r owner items
    return (handle :: handles, r)

def find? (r : Registry α) (h : Handle) : Option (Entry α) :=
  match r.slots[h.slot]? with
  | some (some entry) => if entry.generation = h.generation then some entry else none
  | _ => none

/-- The error for a handle that is not live: it is closed if it can have been issued, and invalid
otherwise. -/
def deadHandle (r : Registry α) (h : Handle) : GatewayError :=
  if h.generation ≠ 0 && h.generation < r.nextGeneration && h.slot < r.slots.size then
    .handleClosed h
  else .invalidHandle h

def get (r : Registry α) (h : Handle) : Except GatewayError (Entry α) :=
  match r.find? h with
  | some entry => .ok entry
  | none => .error (r.deadHandle h)

def vacate (r : Registry α) (slot : Nat) : Option (Entry α × Registry α) :=
  match r.slots[slot]? with
  | some (some entry) =>
    some (entry, ⟨r.slots.setIfInBounds slot none, slot :: r.free, r.nextGeneration, r.size - 1⟩)
  | _ => none

def remove (r : Registry α) (h : Handle) : Except GatewayError (Entry α × Registry α) :=
  match r.find? h with
  | none => .error (r.deadHandle h)
  | some _ =>
    match r.vacate h.slot with
    | some taken => .ok taken
    | none => .error (r.deadHandle h)

/-- The slots whose entries satisfy a test, in increasing order. -/
def slotsWhere (r : Registry α) (p : Entry α → Bool) : List Nat :=
  (List.range r.slots.size).filter fun i =>
    match r.slots[i]? with
    | some (some entry) => p entry
    | _ => false

def vacateAll (r : Registry α) : List Nat → List (Handle × Entry α) × Registry α
  | [] => ([], r)
  | slot :: slots =>
    match r.vacate slot with
    | none => vacateAll r slots
    | some (entry, r) =>
      let (others, r) := vacateAll r slots
      ((Handle.make slot entry.generation, entry) :: others, r)

def drainOwner (r : Registry α) (owner : InstanceId) : List (Handle × Entry α) × Registry α :=
  r.vacateAll (r.slotsWhere fun entry => entry.owner == owner)

def drainAll (r : Registry α) : List (Handle × Entry α) × Registry α :=
  r.vacateAll (r.slotsWhere fun _ => true)

def countOwnedBy (r : Registry α) (owner : InstanceId) : Nat :=
  r.slots.countP fun slot => slot.any fun entry => entry.owner == owner

def isEmpty (r : Registry α) : Bool := r.size == 0

end Registry

end DatabaseGateway
