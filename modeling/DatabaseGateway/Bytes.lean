/-!
Byte strings and big-endian words.

A word is written most significant byte first in a fixed number of bytes, and read back as the
number its bytes denote. Main statements: `beValue_be` and `be_beValue`, by which writing and
reading a word of one width undo each other.
-/

namespace DatabaseGateway

/-- A byte string, first byte first. -/
abbrev Bytes := List UInt8

namespace Bytes

/-- How many numbers can be told apart by so many bytes. -/
def capacity : (width : Nat) → Nat
  | 0 => 1
  | width + 1 => capacity width * 256

/-- The low `width` bytes of `n`, most significant first. -/
def be : (width : Nat) → (n : Nat) → Bytes
  | 0, _ => []
  | width + 1, n => UInt8.ofNat (n / capacity width) :: be width n

/-- The number that a byte string denotes, most significant byte first. -/
def beValue (bs : Bytes) : Nat :=
  bs.foldl (fun n b => n * 256 + b.toNat) 0

/-- The number that a byte string denotes, least significant byte first. -/
def leValue : Bytes → Nat
  | [] => 0
  | b :: bs => b.toNat + 256 * leValue bs

theorem capacity_pos (width : Nat) : 0 < capacity width := by
  induction width with
  | zero => decide
  | succ width ih => rw [capacity]; omega

theorem capacity_add (a b : Nat) : capacity (a + b) = capacity a * capacity b := by
  induction b with
  | zero => simp [capacity]
  | succ b ih => rw [Nat.add_succ, capacity, ih, capacity, Nat.mul_assoc]

@[simp] theorem length_be (width n : Nat) : (be width n).length = width := by
  induction width with
  | zero => rfl
  | succ width ih => simp [be, ih]

theorem foldl_be (width n start : Nat) :
    (be width n).foldl (fun n b => n * 256 + b.toNat) start =
      start * capacity width + n % capacity width := by
  induction width generalizing start with
  | zero => simp [be, capacity, Nat.mod_one]
  | succ width ih =>
    have hbyte : (UInt8.ofNat (n / capacity width)).toNat = n / capacity width % 256 := by simp
    rw [be, List.foldl_cons, ih, hbyte, capacity, Nat.mod_mul, Nat.add_mul, Nat.mul_assoc,
      Nat.mul_comm 256, Nat.mul_comm (n / capacity width % 256)]
    omega

theorem beValue_be (width n : Nat) : beValue (be width n) = n % capacity width := by
  simp [beValue, foldl_be]

theorem foldl_start (bs : Bytes) (start : Nat) :
    bs.foldl (fun n b => n * 256 + b.toNat) start =
      start * capacity bs.length + beValue bs := by
  induction bs generalizing start with
  | nil => simp [beValue, capacity]
  | cons b bs ih =>
    have hhere := ih (start * 256 + b.toNat)
    have hzero := ih (0 * 256 + b.toNat)
    simp only [beValue, List.foldl_cons] at *
    rw [hhere, hzero, List.length_cons, capacity, Nat.add_mul, Nat.zero_mul, Nat.zero_add,
      Nat.mul_assoc, Nat.mul_comm 256, Nat.add_assoc]

theorem beValue_cons (b : UInt8) (bs : Bytes) :
    beValue (b :: bs) = b.toNat * capacity bs.length + beValue bs := by
  have h := foldl_start bs (0 * 256 + b.toNat)
  simpa [beValue] using h

theorem beValue_lt (bs : Bytes) : beValue bs < capacity bs.length := by
  induction bs with
  | nil => decide
  | cons b bs ih =>
    have hsmall := b.toNat_lt
    have hstep : (b.toNat + 1) * capacity bs.length ≤ 256 * capacity bs.length :=
      Nat.mul_le_mul_right _ (by omega)
    rw [beValue_cons, List.length_cons, capacity]
    rw [Nat.add_mul] at hstep
    omega

theorem be_add_mul (width high low : Nat) :
    be width (high * capacity width + low) = be width low := by
  suffices hgeneral : ∀ k, k ≤ width → be k (high * capacity width + low) = be k low from
    hgeneral width (Nat.le_refl _)
  intro k hk
  induction k with
  | zero => rfl
  | succ k ih =>
    have hwhole : capacity width = capacity (width - k - 1) * 256 * capacity k := by
      have h := capacity_add (width - (k + 1)) (k + 1)
      rw [Nat.sub_add_cancel hk, capacity, Nat.mul_comm _ 256, ← Nat.mul_assoc] at h
      exact h
    rw [be, be, ih (by omega)]
    congr 1
    apply UInt8.toNat_inj.1
    rw [UInt8.toNat_ofNat', UInt8.toNat_ofNat', hwhole, Nat.add_comm, ← Nat.mul_assoc,
      ← Nat.mul_assoc, Nat.add_mul_div_right _ _ (capacity_pos k), Nat.add_mul_mod_self_right]

theorem be_beValue (bs : Bytes) : be bs.length (beValue bs) = bs := by
  induction bs with
  | nil => rfl
  | cons b bs ih =>
    rw [beValue_cons, List.length_cons, be]
    congr 1
    · apply UInt8.toNat_inj.1
      have hlow := beValue_lt bs
      have hsmall := b.toNat_lt
      rw [UInt8.toNat_ofNat', Nat.add_comm, Nat.add_mul_div_right _ _ (capacity_pos _),
        Nat.div_eq_of_lt hlow]
      omega
    · rw [be_add_mul, ih]

end Bytes

end DatabaseGateway
