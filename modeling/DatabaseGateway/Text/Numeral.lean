/-!
Unsigned decimal numerals: at least one ASCII digit, after at most one plus sign, within a bound.

A number is given up as soon as it reaches the bound, so a numeral costs no more than its length
however large a number it denotes. `digits?_eq_some_iff` says that this is the number itself.
-/

namespace DatabaseGateway.Text

def isDigit (c : Char) : Bool := '0' ≤ c && c ≤ '9'

def digitValue (c : Char) : Nat := c.toNat - '0'.toNat

/-- The number that digits of a base denote behind the digits of `start`. -/
def valueFrom (base start : Nat) (digits : List Nat) : Nat :=
  digits.foldl (fun n d => n * base + d) start

def decimalValue (cs : List Char) : Nat := valueFrom 10 0 (cs.map digitValue)

/-- The number that digits of a base denote behind the digits of `start`, as long as no digit takes
it to the bound. -/
def valueBelow? (base bound start : Nat) : List Nat → Option Nat
  | [] => some start
  | d :: ds =>
    if start * base + d < bound then valueBelow? base bound (start * base + d) ds else none

/-- Reads digits alone, if there are any and the number is below `bound`. -/
def digits? (bound : Nat) (cs : List Char) : Option Nat :=
  if cs.isEmpty || !cs.all isDigit then none else valueBelow? 10 bound 0 (cs.map digitValue)

/-- Reads an unsigned numeral, which may start with a plus sign. -/
def unsigned? (bound : Nat) : List Char → Option Nat
  | '+' :: cs => digits? bound cs
  | cs => digits? bound cs

theorem le_valueFrom {base : Nat} (hb : 0 < base) (start : Nat) (ds : List Nat) :
    start ≤ valueFrom base start ds := by
  induction ds generalizing start with
  | nil => exact Nat.le_refl start
  | cons d ds ih =>
    exact Nat.le_trans (Nat.le_add_right_of_le (Nat.le_mul_of_pos_right start hb)) (ih _)

/-- The bounded value of at least one digit is the value, if that is below the bound. -/
theorem valueBelow?_eq_some_iff {base bound start n : Nat} (hb : 0 < base) {ds : List Nat}
    (hd : ds ≠ []) :
    valueBelow? base bound start ds = some n ↔ valueFrom base start ds = n ∧ n < bound := by
  induction ds generalizing start with
  | nil => exact absurd rfl hd
  | cons d ds ih =>
    have hmore := le_valueFrom hb (start * base + d) ds
    rw [valueBelow?, valueFrom, List.foldl_cons, ← valueFrom]
    cases ds with
    | nil =>
      simp only [valueBelow?, valueFrom, List.foldl_nil]
      split <;> simp <;> omega
    | cons e es =>
      split
      · exact ih (List.cons_ne_nil e es)
      · simp; omega

/-- Exactly the rows of digits that denote a number below the bound are read. -/
theorem digits?_eq_some_iff {bound n : Nat} {cs : List Char} :
    digits? bound cs = some n ↔
      cs ≠ [] ∧ cs.all isDigit ∧ decimalValue cs = n ∧ n < bound := by
  have hcond : (cs.isEmpty || !cs.all isDigit) = false ↔ cs ≠ [] ∧ cs.all isDigit := by
    rw [Bool.or_eq_false_iff, List.isEmpty_eq_false_iff, Bool.not_eq_false']
  rw [← and_assoc, ← hcond, digits?]
  split
  · next hbad => simp [hbad]
  · next hgood =>
      rw [Bool.not_eq_true] at hgood
      have hdigits : cs.map digitValue ≠ [] := mt List.map_eq_nil_iff.1 (hcond.1 hgood).1
      rw [valueBelow?_eq_some_iff (by decide) hdigits, ← decimalValue, and_iff_right hgood]

end DatabaseGateway.Text
