import DatabaseGateway.Wire.Cursor

/-!
Each reader of a field accepts exactly what the writer of that field writes, and moves behind it.

The statement has one form for every kind of field, `Reader.Reads`, and it goes both ways: from left
to right it says that nothing but the one spelling is accepted, from right to left that what was
written is read back whatever follows it. Readers of whole payloads, which end with the payload,
have the form `Reader.ReadsAll`. A word is its number in big-endian order; a count and a length are
words with a sign, so that half of the numbers they could tell are refused.
-/

namespace DatabaseGateway

namespace Bytes

theorem eq_be_iff {bs : Bytes} {width n : Nat} :
    bs = be width n ↔ bs.length = width ∧ beValue bs = n % capacity width := by
  constructor
  · rintro rfl
    exact ⟨length_be width n, beValue_be width n⟩
  · rintro ⟨rfl, hvalue⟩
    have hlow : be bs.length (n % capacity bs.length) = be bs.length n := by
      have h := be_add_mul bs.length (n / capacity bs.length) (n % capacity bs.length)
      rwa [Nat.mul_comm, Nat.div_add_mod, eq_comm] at h
    rw [← hlow, ← hvalue, be_beValue]

end Bytes

namespace Text

theorem zero_mem_utf8EncodeChar {c : Char} : 0 ∈ String.utf8EncodeChar c ↔ c = '\x00' := by
  have hzero : c = '\x00' ↔ c.val.toNat = 0 := by
    rw [← Char.val_inj, ← UInt32.toNat_inj]
    rfl
  have hbyte (n : Nat) : 0 = UInt8.ofNat n ↔ n % 256 = 0 := by
    rw [← UInt8.toNat_inj, UInt8.toNat_ofNat', eq_comm]
    rfl
  rw [hzero]
  -- Every byte of a longer character has its highest bit set.
  fun_cases String.utf8EncodeChar c with
  | case1 => simp only [List.mem_singleton, hbyte]; omega
  | case2 | case3 | case4 => simp only [List.mem_cons, List.not_mem_nil, or_false, hbyte]; omega

/-- No zero byte but that of the character NUL. -/
theorem zero_mem_encode {s : String} : 0 ∈ encode s ↔ '\x00' ∈ s.toList := by
  have hchars : encode s = s.toList.flatMap String.utf8EncodeChar := by
    rw [encode, String.toUTF8, ← String.utf8Encode_toList, List.utf8Encode]
    simp
  simp [hchars, List.mem_flatMap, zero_mem_utf8EncodeChar]

theorem encode_append (s s' : String) : encode (s ++ s') = encode s ++ encode s' := by
  simp [encode, String.toUTF8]

end Text

namespace Wire

/-- A string that a zero byte can end. -/
def NulFree (s : String) : Prop := '\x00' ∉ s.toList

instance (s : String) : Decidable (NulFree s) := inferInstanceAs (Decidable (¬ _))

theorem nulFree_iff {s : String} : NulFree s ↔ 0 ∉ Text.encode s := by
  rw [NulFree, Text.zero_mem_encode]

def maxCount : Nat := 32767

def lengthBound : Nat := 0x80000000

def Sized (value : Option Bytes) : Prop := ∀ bytes, value = some bytes → bytes.length < lengthBound

theorem toInt_int16 (n : Int16) :
    n.toInt = if n.toUInt16.toNat ≤ maxCount then (n.toUInt16.toNat : Int)
      else n.toUInt16.toNat - 0x10000 := by
  have h := BitVec.toInt_eq_toNat_cond n.toBitVec
  change n.toInt = if 2 * n.toUInt16.toNat < 2 ^ 16 then _ else _ at h
  rw [h, maxCount]
  split <;> split <;> first | rfl | omega

theorem toInt_int32 (n : Int32) :
    n.toInt = if n.toUInt32.toNat < lengthBound then (n.toUInt32.toNat : Int)
      else n.toUInt32.toNat - 0x100000000 := by
  have h := BitVec.toInt_eq_toNat_cond n.toBitVec
  change n.toInt = if 2 * n.toUInt32.toNat < 2 ^ 32 then _ else _ at h
  rw [h, lengthBound]
  split <;> split <;> first | rfl | omega

theorem exists_int16 {n : Nat} (h : n < 0x10000) : ∃ k : Int16, k.toUInt16.toNat = n :=
  ⟨(UInt16.ofNat n).toInt16, by simpa using h⟩

theorem exists_int32 {n : Nat} (h : n < 0x100000000) : ∃ k : Int32, k.toUInt32.toNat = n :=
  ⟨(UInt32.ofNat n).toInt32, by simpa using h⟩

namespace Cursor

/-- From one place to another over the given bytes. -/
def Passes (c : Cursor) (bs : Bytes) (c' : Cursor) : Prop :=
  c.rest = bs ++ c'.rest ∧ c'.offset = c.offset + bs.length

@[simp] theorem passes_nil {c c' : Cursor} : c.Passes [] c' ↔ c' = c := by
  cases c; cases c'
  simp [Passes, eq_comm]

theorem passes_append {c c' : Cursor} {xs ys : Bytes} :
    c.Passes (xs ++ ys) c' ↔ ∃ c₁, c.Passes xs c₁ ∧ c₁.Passes ys c' := by
  constructor
  · rintro ⟨hrest, hoffset⟩
    refine ⟨⟨ys ++ c'.rest, c.offset + xs.length⟩, ⟨?_, rfl⟩, rfl, ?_⟩
    · simpa using hrest
    · simp [hoffset, Nat.add_assoc]
  · rintro ⟨c₁, ⟨hrest, hoffset⟩, hrest', hoffset'⟩
    refine ⟨?_, ?_⟩
    · rw [hrest, hrest', List.append_assoc]
    · simp [hoffset, hoffset', Nat.add_assoc]

theorem passes_cons {c c' : Cursor} {b : UInt8} {ys : Bytes} :
    c.Passes (b :: ys) c' ↔ ∃ c₁, c.Passes [b] c₁ ∧ c₁.Passes ys c' := by
  rw [← passes_append, List.singleton_append]

theorem Passes.length_rest {c c' : Cursor} {bs : Bytes} (h : c.Passes bs c') :
    c.rest.length = bs.length + c'.rest.length := by
  rw [h.1, List.length_append]

end Cursor

namespace Reader

variable {α β : Type} {c c' : Cursor}

/-- A reader of a field accepts what the writer makes of the values it is for, and nothing else. -/
def Reads (r : Reader α) (put : α → Bytes) (ok : α → Prop) : Prop :=
  ∀ c a c', r c = .ok (a, c') ↔ ok a ∧ c.Passes (put a) c'

/-- The same of a reader that goes to the end of the payload. -/
def ReadsAll (r : Reader α) (put : α → Bytes) (ok : α → Prop) : Prop :=
  ∀ c a c', r c = .ok (a, c') ↔ ok a ∧ c.Passes (put a) c' ∧ c'.rest = []

theorem Reads.iff {r : Reader α} {put : α → Bytes} {ok : α → Prop} (h : Reads r put ok) {a : α} :
    r c = .ok (a, c') ↔ ok a ∧ c.Passes (put a) c' :=
  h c a c'

theorem decode_eq_ok_iff_exists {r : Reader α} {message : String} {payload : Bytes} {a : α} :
    decode message r payload = .ok a ↔ ∃ c', r ⟨payload, 0⟩ = .ok (a, c') := by
  simp only [decode]
  split <;> simp_all

theorem exists_passes_iff {payload bs : Bytes} :
    (∃ c', Cursor.Passes ⟨payload, 0⟩ bs c' ∧ c'.rest = []) ↔ payload = bs := by
  constructor
  · rintro ⟨c', hpasses, hdone⟩
    simpa [hdone] using hpasses.1
  · rintro rfl
    exact ⟨⟨[], 0 + payload.length⟩, ⟨by simp, rfl⟩, rfl⟩

theorem decode_eq_ok_iff {r : Reader α} {put : α → Bytes} {ok : α → Prop} (h : ReadsAll r put ok)
    {message : String} {payload : Bytes} {a : α} :
    decode message r payload = .ok a ↔ ok a ∧ payload = put a := by
  rw [decode_eq_ok_iff_exists, ← exists_passes_iff]
  simp only [h _ _ _, exists_and_left]

theorem map_some_eq_ok {x : Except WireError α} {f : α → β} {b : β} :
    x.map (some <| f ·) = .ok (some b) ↔ ∃ a, x = .ok a ∧ f a = b := by
  cases x <;> simp [Except.map]

theorem map_some_ne_none {x : Except WireError α} {f : α → β} :
    x.map (some <| f ·) ≠ .ok none := by
  cases x <;> simp [Except.map]

theorem decode_map_some_eq_ok {r : Reader α} {put : α → Bytes} {ok : α → Prop}
    (h : ReadsAll r put ok) {message : String} {payload : Bytes} {a : α} :
    (decode message r payload).map some = .ok (some a) ↔ ok a ∧ payload = put a := by
  rw [← decode_eq_ok_iff h]
  exact map_some_eq_ok.trans exists_eq_right

/-! ## Sequencing -/

@[simp] theorem bind_eq_ok {r : Reader α} {f : α → Reader β} {b : β} :
    (r >>= f) c = .ok (b, c') ↔ ∃ a c₁, r c = .ok (a, c₁) ∧ f a c₁ = .ok (b, c') := by
  change (r c >>= fun x => f x.1 x.2) = _ ↔ _
  cases h : r c with
  | error e => simp [bind, Except.bind]
  | ok x =>
      obtain ⟨a, c₁⟩ := x
      simp only [Except.ok.injEq, Prod.mk.injEq]
      constructor
      · intro hrun
        exact ⟨a, c₁, ⟨rfl, rfl⟩, hrun⟩
      · rintro ⟨_, _, ⟨rfl, rfl⟩, hrun⟩
        exact hrun

@[simp] theorem pure_eq_ok {a b : α} :
    (pure a : Reader α) c = .ok (b, c') ↔ b = a ∧ c' = c := by
  change Except.ok (a, c) = _ ↔ _
  simp [eq_comm]

@[simp] theorem throw_ne_ok {flaw : Flaw} {b : α} :
    (throw flaw : Reader α) c ≠ .ok (b, c') :=
  nofun

@[simp] theorem get_eq_ok {x : Cursor} :
    (get : Reader Cursor) c = .ok (x, c') ↔ x = c ∧ c' = c := by
  change Except.ok (c, c) = _ ↔ _
  simp [eq_comm]

@[simp] theorem finish_eq_ok {u : Unit} : finish c = .ok (u, c') ↔ c.rest = [] ∧ c' = c := by
  fun_cases finish c with
  | case1 hempty => simp [List.isEmpty_iff.1 hempty, eq_comm]
  | case2 hleft =>
      rw [List.isEmpty_iff] at hleft
      simp [hleft]

theorem finish_pure_eq_ok {a b : α} :
    (do finish; return a : Reader α) c = .ok (b, c') ↔ c.rest = [] ∧ b = a ∧ c' = c := by
  simp only [bind_eq_ok, finish_eq_ok, pure_eq_ok]
  constructor
  · rintro ⟨_, _, ⟨hdone, rfl⟩, rfl, rfl⟩
    exact ⟨hdone, rfl, rfl⟩
  · rintro ⟨hdone, rfl, rfl⟩
    exact ⟨(), c', ⟨hdone, rfl⟩, rfl, rfl⟩

/-! ## Bytes and words -/

theorem take_eq_ok {n : Nat} {bs : Bytes} :
    take n c = .ok (bs, c') ↔ bs.length = n ∧ c.Passes bs c' := by
  simp only [take]
  constructor
  · intro h
    split at h
    · rename_i hall
      cases h
      exact ⟨hall, (List.take_append_drop n c.rest).symm, by rw [hall]⟩
    · cases h
  · rintro ⟨rfl, hrest, hoffset⟩
    simp [hrest, ← hoffset]

theorem byte_reads : Reads byte (fun b => [b]) fun _ => True := by
  intro c b c'
  obtain ⟨rest, offset⟩ := c
  obtain ⟨rest', offset'⟩ := c'
  cases rest with
  | nil => simp [byte, Cursor.Passes]
  | cons x xs =>
      simp [byte, Cursor.Passes, and_assoc, eq_comm]

theorem word_reads {width : Nat} {ofNat : Nat → α} {toNat : α → Nat}
    (hfits : ∀ a, toNat a < Bytes.capacity width)
    (hword : ∀ a n, n < Bytes.capacity width → (a = ofNat n ↔ n = toNat a)) :
    Reads (do return ofNat (Bytes.beValue (← take width))) (fun a => Bytes.be width (toNat a))
      fun _ => True := by
  intro c a c'
  have hspelled (bs : Bytes) : bs.length = width ∧ a = ofNat (Bytes.beValue bs) ↔
      bs = Bytes.be width (toNat a) := by
    rw [Bytes.eq_be_iff, Nat.mod_eq_of_lt (hfits a)]
    refine and_congr_right fun hlength => ?_
    exact hword a _ (hlength ▸ Bytes.beValue_lt bs)
  simp only [bind_eq_ok, take_eq_ok, pure_eq_ok, true_and]
  constructor
  · rintro ⟨bs, c₁, ⟨hlength, hpasses⟩, hvalue, rfl⟩
    rwa [← (hspelled bs).1 ⟨hlength, hvalue⟩]
  · intro hpasses
    obtain ⟨hlength, hvalue⟩ := (hspelled _).2 rfl
    exact ⟨_, c', ⟨hlength, hpasses⟩, hvalue, rfl⟩

theorem word16_reads : Reads word16 (fun n => Bytes.be 2 n.toNat) fun _ => True := by
  refine word_reads (fun n => n.toNat_lt) fun a n hsmall => ?_
  rw [← UInt16.toNat_inj, UInt16.toNat_ofNat', eq_comm, Nat.mod_eq_of_lt]
  exact hsmall

theorem word32_reads : Reads word32 putWord32 fun _ => True := by
  refine word_reads (fun n => n.toNat_lt) fun a n hsmall => ?_
  rw [← UInt32.toNat_inj, UInt32.toNat_ofNat', eq_comm, Nat.mod_eq_of_lt]
  exact hsmall

/-- A field that is kept in another form. -/
theorem Reads.map {r : Reader α} {put : α → Bytes} {ok : α → Prop} (h : Reads r put ok)
    {f : α → β} {g : β → α} (hfg : ∀ b, f (g b) = b) (hgf : ∀ a, g (f a) = a) :
    Reads (do return f (← r)) (fun b => put (g b)) fun b => ok (g b) := by
  intro c b c'
  simp only [bind_eq_ok, pure_eq_ok, h.iff]
  constructor
  · rintro ⟨a, c₁, hread, rfl, rfl⟩
    rwa [hgf]
  · intro hread
    exact ⟨g b, c', hread, (hfg b).symm, rfl⟩

theorem int16_reads : Reads int16 putInt16 fun _ => True :=
  word16_reads.map Int16.toInt16_toUInt16 UInt16.toUInt16_toInt16

theorem int32_reads : Reads int32 putInt32 fun _ => True :=
  word32_reads.map Int32.toInt32_toUInt32 UInt32.toUInt32_toInt32

/-! ## Strings -/

theorem drop_length_takeWhile (p : α → Bool) (xs : List α) :
    xs.drop (xs.takeWhile p).length = xs.dropWhile p := by
  induction xs with
  | nil => rfl
  | cons x xs ih => by_cases h : p x <;> simp [h, ih]

theorem dropWhile_eq_cons_iff {bytes rest : Bytes} {b : UInt8} :
    bytes.dropWhile (· != 0) = b :: rest ↔
      b = 0 ∧ bytes = bytes.takeWhile (· != 0) ++ 0 :: rest := by
  induction bytes with
  | nil => simp
  | cons x xs ih =>
      by_cases h : x = 0
      · simp [h, eq_comm (a := 0) (b := b)]
      · simp [h, ih]

theorem takeWhile_eq_of_not_mem {bytes rest : Bytes} (h : 0 ∉ bytes) :
    (bytes ++ 0 :: rest).takeWhile (· != 0) = bytes := by
  induction bytes with
  | nil => simp
  | cons x xs ih =>
      simp only [List.mem_cons, not_or] at h
      simp [Ne.symm h.1, ih h.2]

theorem text_reads : Reads text putText NulFree := by
  intro c s c'
  rw [nulFree_iff]
  simp only [text, drop_length_takeWhile]
  constructor
  · intro h
    split at h
    · cases h
    · rename_i b rest hfound
      split at h
      · cases h
      · rename_i hread
        cases h
        -- What was taken ends before the first zero byte, so that the text has none.
        obtain ⟨-, hsplit⟩ := dropWhile_eq_cons_iff.1 hfound
        rw [Text.decode?_eq_some_iff] at hread
        refine ⟨fun hzero => ?_, ?_, ?_⟩
        · rw [← hread] at hzero
          simpa using List.all_eq_true.1 List.all_takeWhile 0 hzero
        · simpa [putText, ← hread] using hsplit
        · simp [putText, ← hread, Nat.add_assoc]
  · rintro ⟨hfree, hrest, hoffset⟩
    have htaken : c.rest.takeWhile (· != 0) = Text.encode s := by
      rw [hrest, putText, List.append_assoc]
      exact takeWhile_eq_of_not_mem hfree
    have hleft : c.rest.dropWhile (· != 0) = 0 :: c'.rest := by
      rw [dropWhile_eq_cons_iff, htaken, hrest]
      simp [putText]
    simp only [hleft, htaken, Text.decode?_encode]
    rw [putText, List.length_append, List.length_singleton, ← Nat.add_assoc] at hoffset
    rw [← hoffset]

/-! ## Counts, lengths and lists -/

theorem count_reads : Reads count putCount (· ≤ maxCount) := by
  intro c n c'
  simp only [count, bind_eq_ok, int16_reads.iff, true_and]
  constructor
  · rintro ⟨k, c₁, hpasses, h⟩
    split at h
    · simp at h
    · rename_i hsign
      rw [pure_eq_ok] at h
      obtain ⟨rfl, rfl⟩ := h
      rw [toInt_int16] at hsign ⊢
      split at hsign
      · rename_i hsmall
        rw [if_pos hsmall]
        exact ⟨hsmall, hpasses⟩
      · have := k.toUInt16.toNat_lt
        omega
  · rintro ⟨hsmall, hpasses⟩
    obtain ⟨k, rfl⟩ := exists_int16 (Nat.lt_of_le_of_lt hsmall (by decide))
    refine ⟨k, c', hpasses, ?_⟩
    rw [toInt_int16, if_pos hsmall, if_neg (by omega), pure_eq_ok]
    simp

theorem value_reads : Reads value putValue Sized := by
  intro c v c'
  simp only [value, bind_eq_ok, int32_reads.iff, true_and]
  constructor
  · rintro ⟨k, c₁, hpasses, h⟩
    split at h
    · rename_i hnull
      rw [pure_eq_ok] at h
      obtain ⟨rfl, rfl⟩ := h
      rw [hnull] at hpasses
      exact ⟨by simp [Sized], hpasses⟩
    · split at h
      · simp at h
      · rename_i hsign
        simp only [bind_eq_ok, take_eq_ok, pure_eq_ok] at h
        obtain ⟨bytes, c₂, ⟨hlength, hpasses'⟩, rfl, rfl⟩ := h
        -- Without its sign the length is the number that its word tells.
        rw [toInt_int32] at hsign hlength
        split at hsign
        · rename_i hsmall
          rw [if_pos hsmall, Int.toNat_natCast] at hlength
          refine ⟨fun _ h => by cases h; omega, ?_⟩
          rw [putValue, hlength, Cursor.passes_append]
          exact ⟨c₁, hpasses, hpasses'⟩
        · have := k.toUInt32.toNat_lt
          omega
  · rintro ⟨hsized, hpasses⟩
    cases v with
    | none => exact ⟨-1, c', hpasses, by simp⟩
    | some bytes =>
        have hsmall := hsized bytes rfl
        rw [putValue, Cursor.passes_append] at hpasses
        obtain ⟨c₁, hpasses, hpasses'⟩ := hpasses
        obtain ⟨k, hlength⟩ := exists_int32 (Nat.lt_trans hsmall (by decide))
        have hsign : k.toInt = bytes.length := by rw [toInt_int32, hlength, if_pos hsmall]
        refine ⟨k, c₁, by rwa [putInt32, hlength], ?_⟩
        rw [if_neg, if_neg (by omega)]
        · simp only [bind_eq_ok, take_eq_ok, pure_eq_ok]
          exact ⟨bytes, c', ⟨by omega, hpasses'⟩, rfl, rfl⟩
        · rintro rfl
          cases hsign

theorem sized_of_length {values : List (Option Bytes)}
    (hshort : (values.flatMap putValue).length < lengthBound) : ∀ v ∈ values, Sized v := by
  rintro v hmember bytes rfl
  have hpart : (putValue (some bytes)).length ≤ (values.flatMap putValue).length :=
    (List.sublist_flatten_of_mem (List.mem_map_of_mem hmember)).length_le
  simp only [putValue, List.length_append] at hpart
  omega

theorem many_reads {item : Reader α} {put : α → Bytes} {ok : α → Prop} (h : Reads item put ok)
    {n : Nat} {xs : List α} :
    many item n c = .ok (xs, c') ↔
      xs.length = n ∧ (∀ x ∈ xs, ok x) ∧ c.Passes (xs.flatMap put) c' := by
  induction n generalizing c c' xs with
  | zero =>
      simp only [many, pure_eq_ok, List.length_eq_zero_iff]
      constructor
      · rintro ⟨rfl, rfl⟩
        simp
      · rintro ⟨rfl, -, hpasses⟩
        simpa using hpasses
  | succ n ih =>
      simp only [many, bind_eq_ok, pure_eq_ok, h.iff, ih]
      constructor
      · rintro ⟨x, c₁, ⟨hgood, hpasses⟩, xs', c₂, ⟨hlength, hgoods, hpasses'⟩, rfl, rfl⟩
        refine ⟨by simp [hlength], by simpa using ⟨hgood, hgoods⟩, ?_⟩
        rw [List.flatMap_cons, Cursor.passes_append]
        exact ⟨c₁, hpasses, hpasses'⟩
      · rintro ⟨hlength, hgoods, hpasses⟩
        cases xs with
        | nil => simp at hlength
        | cons x xs =>
            rw [List.flatMap_cons, Cursor.passes_append] at hpasses
            obtain ⟨c₁, hpasses, hpasses'⟩ := hpasses
            simp only [List.mem_cons, forall_eq_or_imp] at hgoods
            exact ⟨x, c₁, ⟨hgoods.1, hpasses⟩, xs, c',
              ⟨by simpa using hlength, hgoods.2, hpasses'⟩, rfl, rfl⟩

def putCounted (put : α → Bytes) (xs : List α) : Bytes := putCount xs.length ++ xs.flatMap put

theorem counted_reads {item : Reader α} {put : α → Bytes} {ok : α → Prop} (h : Reads item put ok) :
    Reads (counted item) (putCounted put) fun xs => xs.length ≤ maxCount ∧ ∀ x ∈ xs, ok x := by
  intro c xs c'
  simp only [counted, bind_eq_ok, count_reads.iff, many_reads h, putCounted, Cursor.passes_append]
  constructor
  · rintro ⟨n, c₁, ⟨hsmall, hpasses⟩, rfl, hgoods, hpasses'⟩
    exact ⟨⟨hsmall, hgoods⟩, c₁, hpasses, hpasses'⟩
  · rintro ⟨⟨hsmall, hgoods⟩, c₁, hpasses, hpasses'⟩
    exact ⟨_, c₁, ⟨hsmall, hpasses⟩, rfl, hgoods, hpasses'⟩

/-! ## Whole payloads -/

theorem Reads.all {r : Reader α} {put : α → Bytes} {ok : α → Prop} (h : Reads r put ok)
    {f : α → β} {put' : β → Bytes} (hspelled : ∀ a, put' (f a) = put a) :
    ReadsAll (do let a ← r; finish; return f a) put' fun b => ∃ a, b = f a ∧ ok a := by
  intro c b c'
  simp only [bind_eq_ok, h.iff, finish_eq_ok, pure_eq_ok]
  constructor
  · rintro ⟨a, c₁, ⟨hgood, hpasses⟩, _, _, ⟨hdone, rfl⟩, rfl, rfl⟩
    exact ⟨⟨a, rfl, hgood⟩, by rwa [hspelled], hdone⟩
  · rintro ⟨⟨a, rfl, hgood⟩, hpasses, hdone⟩
    rw [hspelled] at hpasses
    exact ⟨a, c', ⟨hgood, hpasses⟩, (), c', ⟨hdone, rfl⟩, rfl, rfl⟩

theorem Reads.all₂ {γ : Type} {r : Reader α} {put : α → Bytes} {ok : α → Prop}
    {r' : Reader β} {put' : β → Bytes} {ok' : β → Prop} (h : Reads r put ok)
    (h' : Reads r' put' ok') {f : α → β → γ} {put'' : γ → Bytes}
    (hspelled : ∀ a b, put'' (f a b) = put a ++ put' b) :
    ReadsAll (do let a ← r; let b ← r'; finish; return f a b) put''
      fun x => ∃ a b, x = f a b ∧ ok a ∧ ok' b := by
  intro c x c'
  simp only [bind_eq_ok, h.iff, h'.iff, finish_eq_ok, pure_eq_ok]
  constructor
  · rintro ⟨a, c₁, ⟨hgood, hpasses⟩, b, c₂, ⟨hgood', hpasses'⟩, _, _, ⟨hdone, rfl⟩, rfl, rfl⟩
    refine ⟨⟨a, b, rfl, hgood, hgood'⟩, ?_, hdone⟩
    rw [hspelled, Cursor.passes_append]
    exact ⟨c₁, hpasses, hpasses'⟩
  · rintro ⟨⟨a, b, rfl, hgood, hgood'⟩, hpasses, hdone⟩
    rw [hspelled, Cursor.passes_append] at hpasses
    obtain ⟨c₁, hpasses, hpasses'⟩ := hpasses
    exact ⟨a, c₁, ⟨hgood, hpasses⟩, b, c', ⟨hgood', hpasses'⟩, (), c', ⟨hdone, rfl⟩, rfl, rfl⟩

end Reader

end Wire

end DatabaseGateway
