import DatabaseGateway.Bytes

/-!
UTF-8: the bytes of a string, the string that bytes spell, and the lossy reading of bytes that
spell none. Main statements: `decode?_encode` and `encode_of_decode?`, by which a byte string is
read exactly when it is the encoding of what it is read as.
-/

namespace DatabaseGateway.Text

def encode (s : String) : Bytes := s.toUTF8.data.toList

def decode? (bs : Bytes) : Option String := String.fromUTF8? ⟨bs.toArray⟩

@[simp] theorem decode?_encode (s : String) : decode? (encode s) = some s := by
  have hvalid : (s.toByteArray).IsValidUTF8 := s.isValidUTF8
  simp [decode?, encode, String.fromUTF8?, String.toUTF8, hvalid, String.fromUTF8]

theorem encode_of_decode? {bs : Bytes} {s : String} (h : decode? bs = some s) :
    encode s = bs := by
  simp only [decode?, String.fromUTF8?] at h
  split at h
  · cases h
    simp [encode, String.toUTF8, String.fromUTF8]
  · cases h

theorem decode?_eq_some_iff {bs : Bytes} {s : String} : decode? bs = some s ↔ bs = encode s :=
  ⟨fun h => (encode_of_decode? h).symm, fun h => h ▸ decode?_encode s⟩

/-- For the first byte of a character of more than one byte, the range of each byte after it. -/
def tailRanges (b : UInt8) : Option (List (UInt8 × UInt8)) :=
  let any := (0x80, 0xbf)
  if 0xc2 ≤ b && b ≤ 0xdf then some [any]
  else if b = 0xe0 then some [(0xa0, 0xbf), any]
  else if b = 0xed then some [(0x80, 0x9f), any]
  else if 0xe1 ≤ b && b ≤ 0xef then some [any, any]
  else if b = 0xf0 then some [(0x90, 0xbf), any, any]
  else if 0xf1 ≤ b && b ≤ 0xf3 then some [any, any, any]
  else if b = 0xf4 then some [(0x80, 0x8f), any, any]
  else none

/-- The bytes that lie in the ranges one after the other, as far as they do, and the rest. -/
def takeTail : List (UInt8 × UInt8) → Bytes → Bytes × Bytes
  | (low, high) :: ranges, b :: bs =>
    if low ≤ b && b ≤ high then
      let (taken, rest) := takeTail ranges bs
      (b :: taken, rest)
    else ([], b :: bs)
  | _, bs => ([], bs)

theorem length_takeTail_le (ranges : List (UInt8 × UInt8)) (bs : Bytes) :
    (takeTail ranges bs).2.length ≤ bs.length := by
  fun_induction takeTail ranges bs with
  | case1 low high ranges b bs _ taken rest h ih =>
    rw [h] at ih
    exact Nat.le_succ_of_le ih
  | case2 => simp
  | case3 => simp

def assemble (lead : UInt8) (tail : Bytes) : Char :=
  let bits := lead.toNat % (64 >>> tail.length)
  Char.ofNat (tail.foldl (fun n b => n * 64 + b.toNat % 64) bits)

/-- The characters that bytes spell, with one U+FFFD for every longest start of a character that
is not followed by the rest of it, and for every byte that starts none. -/
def lossyChars : Bytes → List Char
  | [] => []
  | b :: bs =>
    if b < 0x80 then Char.ofNat b.toNat :: lossyChars bs
    else match tailRanges b with
      | none => '\uFFFD' :: lossyChars bs
      | some ranges =>
        let cut := takeTail ranges bs
        let c := if cut.1.length = ranges.length then assemble b cut.1 else '\uFFFD'
        c :: lossyChars cut.2
termination_by bs => bs.length
decreasing_by
  all_goals first
    | exact Nat.lt_succ_self _
    | exact Nat.lt_succ_of_le (length_takeTail_le _ _)

def lossy (bs : Bytes) : String := String.ofList (lossyChars bs)

end DatabaseGateway.Text
