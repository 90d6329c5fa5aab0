import DatabaseGateway.Duration
import Mathlib.Algebra.GroupWithZero.Nat
import Mathlib.Data.List.Basic
import Mathlib.Data.List.TakeWhile

/-!
Which texts spell a span of time, and which span.

A text spells a number of units if it is a row of digits that is directly followed by the letters of
the unit, with any blanks around them (`Duration.Spells`). There is at most one number and one unit
for a text, since no unit starts with a digit and neither digits nor units are blank. A text is read
exactly if it spells fewer than 2^64 units that make fewer than 2^64 whole seconds; too many seconds
are told apart from everything else that is refused (`reads_spelled`).
-/

namespace DatabaseGateway

namespace Text

variable {cs before body after : List Char}

theorem exists_append_trim (cs : List Char) :
    ∃ before after, cs = before ++ trim cs ++ after ∧ (∀ c ∈ before, isBlank c = true) ∧
      ∀ c ∈ after, isBlank c = true := by
  let kept := cs.dropWhile isBlank
  have hstart : cs = cs.takeWhile isBlank ++ kept := List.takeWhile_append_dropWhile.symm
  have hend : kept = trim cs ++ (kept.reverse.takeWhile isBlank).reverse := by
    rw [trim, trimEnd, ← List.reverse_append, List.takeWhile_append_dropWhile, List.reverse_reverse]
  refine ⟨cs.takeWhile isBlank, (kept.reverse.takeWhile isBlank).reverse, ?_, ?_, ?_⟩
  · rw [List.append_assoc, ← hend]
    exact hstart
  · exact fun c hc => List.mem_takeWhile_imp hc
  · exact fun c hc => List.mem_takeWhile_imp (List.mem_reverse.mp hc)

theorem dropWhile_blank_append (hbefore : ∀ c ∈ before, isBlank c = true)
    (hfirst : ∀ c ∈ body.head?, isBlank c = false) :
    (before ++ body).dropWhile isBlank = body := by
  rw [List.dropWhile_append_of_pos hbefore]
  cases body with
  | nil => rfl
  | cons c body =>
      have hc : isBlank c = false := hfirst c rfl
      exact List.dropWhile_cons_of_neg (by simp [hc])

theorem trim_append (hbefore : ∀ c ∈ before, isBlank c = true)
    (hafter : ∀ c ∈ after, isBlank c = true) (hbody : body ≠ [])
    (hfirst : ∀ c ∈ body.head?, isBlank c = false)
    (hlast : ∀ c ∈ body.getLast?, isBlank c = false) : trim (before ++ body ++ after) = body := by
  have hfirst' : ∀ c ∈ (body ++ after).head?, isBlank c = false := by
    rwa [List.head?_append_of_ne_nil _ hbody]
  have hafter' : ∀ c ∈ after.reverse, isBlank c = true := fun c hc =>
    hafter c (List.mem_reverse.mp hc)
  have hlast' : ∀ c ∈ body.reverse.head?, isBlank c = false := by
    rwa [List.head?_reverse]
  rw [trim, List.append_assoc, dropWhile_blank_append hbefore hfirst', trimEnd,
    List.reverse_append, dropWhile_blank_append hafter' hlast', List.reverse_reverse]

theorem isBlank_of_isDigit {c : Char} (hc : isDigit c = true) : isBlank c = false := by
  simp only [isDigit, Bool.and_eq_true, decide_eq_true_eq, Char.le_def,
    UInt32.le_iff_toNat_le] at hc
  have hn : 48 ≤ c.toNat ∧ c.toNat ≤ 57 := hc
  simp only [isBlank, Bool.or_eq_false_iff, Bool.and_eq_false_iff, decide_eq_false_iff_not,
    beq_eq_false_iff_ne]
  omega

end Text

namespace Duration

open Text (isBlank isDigit decimalValue trim)

inductive TimeUnit where
  | millisecond | second | minute | hour
  deriving DecidableEq, Repr

namespace TimeUnit

def letters : TimeUnit → List Char
  | millisecond => ['m', 's']
  | second => ['s']
  | minute => ['m']
  | hour => ['h']

def nanos : TimeUnit → Nat
  | millisecond => 1000000
  | second => 1000000000
  | minute => 60 * 1000000000
  | hour => 3600 * 1000000000

def span (u : TimeUnit) (n : Nat) : Duration := ⟨n * u.nanos⟩

variable {u u' : TimeUnit}

theorem letters_injective (h : u.letters = u'.letters) : u = u' := by
  cases u <;> cases u' <;> simp_all [letters]

theorem letters_ne_nil (u : TimeUnit) : u.letters ≠ [] := by
  cases u <;> simp [letters]

theorem isBlank_letter {c : Char} (hc : c ∈ u.letters) : isBlank c = false := by
  have hall : u.letters.all (fun c => !isBlank c) := by cases u <;> rfl
  simpa using List.all_eq_true.mp hall c hc

theorem isDigit_letter {c : Char} (hc : c ∈ u.letters) : isDigit c = false := by
  have hall : u.letters.all (fun c => !isDigit c) := by cases u <;> rfl
  simpa using List.all_eq_true.mp hall c hc

def inSeconds : TimeUnit → Nat → Nat
  | millisecond, n => n / 1000
  | second, n => n
  | minute, n => n * 60
  | hour, n => n * 3600

theorem seconds_span (u : TimeUnit) (n : Nat) : (u.span n).seconds = u.inSeconds n := by
  cases u with
  | millisecond =>
      show n * 1000000 / 1000000000 = n / 1000
      omega
  | second =>
      show n * 1000000000 / 1000000000 = n
      omega
  | minute =>
      show n * (60 * 1000000000) / 1000000000 = n * 60
      omega
  | hour =>
      show n * (3600 * 1000000000) / 1000000000 = n * 3600
      omega

end TimeUnit

/-- A text spells a number of units: at least one digit, directly followed by the letters of the
unit, with blanks around them. -/
def Spells (text : String) (n : Nat) (u : TimeUnit) : Prop :=
  ∃ before digits after, text.toList = before ++ (digits ++ u.letters) ++ after ∧
    (∀ c ∈ before, isBlank c = true) ∧ (∀ c ∈ after, isBlank c = true) ∧
    digits ≠ [] ∧ (∀ c ∈ digits, isDigit c = true) ∧ decimalValue digits = n

def shown (text : String) : String := String.ofList (trim text.toList)

/-- The refusal of a text that spells nothing, or a number that does not fit in 64 bits. -/
def unreadable (text : String) : GatewayError :=
  .invalidConfig s!"invalid duration '{shown text}'"

/-- The refusal of a text that spells too many seconds. -/
def outOfRange (text : String) : GatewayError :=
  .invalidConfig s!"duration '{shown text}' is out of range"

section Spells

variable {text : String} {n n' : Nat} {u u' : TimeUnit} {digits : List Char}

theorem takeWhile_digits (hdigits : ∀ c ∈ digits, isDigit c = true) :
    (digits ++ u.letters).takeWhile isDigit = digits := by
  rw [List.takeWhile_append_of_pos hdigits]
  obtain ⟨c, cs, hletters⟩ := List.exists_cons_of_ne_nil u.letters_ne_nil
  have hc : isDigit c = false := u.isDigit_letter (hletters ▸ List.mem_cons_self)
  rw [hletters, List.takeWhile_cons_of_neg (by simp [hc]), List.append_nil]

theorem dropWhile_digits (hdigits : ∀ c ∈ digits, isDigit c = true) :
    (digits ++ u.letters).dropWhile isDigit = u.letters := by
  rw [List.dropWhile_append_of_pos hdigits]
  obtain ⟨c, cs, hletters⟩ := List.exists_cons_of_ne_nil u.letters_ne_nil
  have hc : isDigit c = false := u.isDigit_letter (hletters ▸ List.mem_cons_self)
  rw [hletters, List.dropWhile_cons_of_neg (by simp [hc])]

/-- What a text spells is found by trimming it and cutting it behind its digits. -/
theorem spells_iff : Spells text n u ↔
    (trim text.toList).takeWhile isDigit ≠ [] ∧
      decimalValue ((trim text.toList).takeWhile isDigit) = n ∧
      (trim text.toList).dropWhile isDigit = u.letters := by
  constructor
  · rintro ⟨before, digits, after, hsplit, hbefore, hafter, hsome, hdigits, hvalue⟩
    have htrim : trim text.toList = digits ++ u.letters := by
      rw [hsplit]
      refine Text.trim_append hbefore hafter (by simp [hsome]) (fun c hc => ?_) fun c hc => ?_
      · rw [List.head?_append_of_ne_nil _ hsome] at hc
        exact Text.isBlank_of_isDigit (hdigits c (List.mem_of_mem_head? hc))
      · rw [List.getLast?_append_of_ne_nil _ u.letters_ne_nil] at hc
        exact u.isBlank_letter (List.mem_of_getLast? hc)
    rw [htrim, takeWhile_digits hdigits, dropWhile_digits hdigits]
    exact ⟨hsome, hvalue, rfl⟩
  · rintro ⟨hsome, hvalue, hletters⟩
    obtain ⟨before, after, hsplit, hbefore, hafter⟩ := Text.exists_append_trim text.toList
    refine ⟨before, (trim text.toList).takeWhile isDigit, after, ?_, hbefore, hafter, hsome,
      fun c hc => List.mem_takeWhile_imp hc, hvalue⟩
    rw [← hletters, List.takeWhile_append_dropWhile]
    exact hsplit

/-- A text spells at most one number of one unit. -/
theorem Spells.unique (h : Spells text n u) (h' : Spells text n' u') : n = n' ∧ u = u' := by
  obtain ⟨-, hvalue, hletters⟩ := spells_iff.mp h
  obtain ⟨-, hvalue', hletters'⟩ := spells_iff.mp h'
  exact ⟨hvalue.symm.trans hvalue', TimeUnit.letters_injective (hletters.symm.trans hletters')⟩

theorem unitSeconds?_letters (u : TimeUnit) (hwhole : u ≠ .millisecond) :
    ∃ scale, unitSeconds? u.letters = some scale ∧
      ∀ n, u.inSeconds n = n * scale ∧ u.span n = ofSeconds (n * scale) := by
  cases u with
  | millisecond => exact absurd rfl hwhole
  | second => exact ⟨1, rfl, fun n => ⟨(Nat.mul_one n).symm, by rw [Nat.mul_one]; rfl⟩⟩
  | minute | hour => exact ⟨_, rfl, fun n => ⟨rfl, by rw [ofSeconds, Nat.mul_assoc]; rfl⟩⟩

theorem exists_letters_of_unitSeconds? {letters : List Char} {scale : Nat}
    (h : unitSeconds? letters = some scale) : ∃ u : TimeUnit, letters = u.letters := by
  unfold unitSeconds? at h
  split at h
  · exact ⟨.second, rfl⟩
  · exact ⟨.minute, rfl⟩
  · exact ⟨.hour, rfl⟩
  · cases h

/-- What becomes of a text. -/
inductive Reads (text : String) : Except GatewayError Duration → Prop
  | read {n : Nat} {u : TimeUnit} (spells : Spells text n u) (fits : n < 2 ^ 64)
      (seconds : u.inSeconds n < 2 ^ 64) : Reads text (.ok (u.span n))
  | outOfRange {n : Nat} {u : TimeUnit} (spells : Spells text n u) (fits : n < 2 ^ 64)
      (seconds : 2 ^ 64 ≤ u.inSeconds n) : Reads text (.error (outOfRange text))
  | unreadable (large : ∀ n u, Spells text n u → 2 ^ 64 ≤ n) : Reads text (.error (unreadable text))

theorem Reads.unique {result result' : Except GatewayError Duration} (h : Reads text result)
    (h' : Reads text result') : result = result' := by
  cases h with
  | read hspells hfits hseconds =>
      cases h' with
      | read hspells' =>
          obtain ⟨rfl, rfl⟩ := hspells.unique hspells'
          rfl
      | outOfRange hspells' _ hseconds' =>
          obtain ⟨rfl, rfl⟩ := hspells.unique hspells'
          exact absurd hseconds (Nat.not_lt_of_le hseconds')
      | unreadable hlarge => exact absurd hfits (Nat.not_lt_of_le (hlarge _ _ hspells))
  | outOfRange hspells hfits hseconds =>
      cases h' with
      | read hspells' _ hseconds' =>
          obtain ⟨rfl, rfl⟩ := hspells.unique hspells'
          exact absurd hseconds' (Nat.not_lt_of_le hseconds)
      | outOfRange => rfl
      | unreadable hlarge => exact absurd hfits (Nat.not_lt_of_le (hlarge _ _ hspells))
  | unreadable hlarge =>
      cases h' with
      | read hspells hfits => exact absurd hfits (Nat.not_lt_of_le (hlarge _ _ hspells))
      | outOfRange hspells hfits => exact absurd hfits (Nat.not_lt_of_le (hlarge _ _ hspells))
      | unreadable => rfl

/-- A text that spells a number which fits in 64 bits is judged by its seconds. -/
theorem parse_of_spells (h : Spells text n u) (hfits : n < 2 ^ 64) :
    parse text =
      if u.inSeconds n < 2 ^ 64 then .ok (u.span n) else .error (outOfRange text) := by
  obtain ⟨hsome, hvalue, hletters⟩ := spells_iff.mp h
  have hdigits : ((trim text.toList).takeWhile isDigit).all isDigit = true :=
    List.all_eq_true.mpr fun c hc => List.mem_takeWhile_imp hc
  have hread : Text.digits? numeralBound ((trim text.toList).takeWhile isDigit) = some n :=
    Text.digits?_eq_some_iff.mpr ⟨hsome, hdigits, hvalue, hfits⟩
  unfold parse
  simp only [hread, hletters]
  by_cases hmillis : u = .millisecond
  · subst hmillis
    have hseconds : TimeUnit.millisecond.inSeconds n < 2 ^ 64 :=
      Nat.lt_of_le_of_lt (Nat.div_le_self n 1000) hfits
    rw [if_pos hseconds]
    rfl
  · obtain ⟨scale, hscale, hwhole⟩ := unitSeconds?_letters u hmillis
    have hother : u.letters ≠ ['m', 's'] := fun heq =>
      hmillis (TimeUnit.letters_injective (heq : _ = TimeUnit.letters .millisecond))
    simp only [if_neg hother, hscale, hwhole]
    rfl

theorem parse_of_large (hlarge : ∀ n u, Spells text n u → 2 ^ 64 ≤ n) :
    parse text = .error (unreadable text) := by
  unfold parse
  dsimp only
  cases hread : Text.digits? numeralBound ((trim text.toList).takeWhile isDigit) with
  | none => rfl
  | some n =>
      obtain ⟨hsome, -, hvalue, hfits⟩ := Text.digits?_eq_some_iff.mp hread
      have hnone (u : TimeUnit) : (trim text.toList).dropWhile isDigit ≠ u.letters := fun heq =>
        Nat.not_lt_of_le (hlarge n u (spells_iff.mpr ⟨hsome, hvalue, heq⟩)) hfits
      have hmillis : (trim text.toList).dropWhile isDigit ≠ ['m', 's'] := hnone .millisecond
      have hseconds : unitSeconds? ((trim text.toList).dropWhile isDigit) = none := by
        refine Option.eq_none_iff_forall_ne_some.mpr fun scale hscale => ?_
        obtain ⟨u, hu⟩ := exists_letters_of_unitSeconds? hscale
        exact hnone u hu
      simp only [if_neg hmillis, hseconds]
      rfl

theorem reads_parse (text : String) : Reads text (parse text) := by
  by_cases hspells : ∃ n u, Spells text n u ∧ n < 2 ^ 64
  · obtain ⟨n, u, hspells, hfits⟩ := hspells
    rw [parse_of_spells hspells hfits]
    split
    · next hseconds => exact .read hspells hfits hseconds
    · next hseconds => exact .outOfRange hspells hfits (Nat.le_of_not_lt hseconds)
  · have hlarge : ∀ n u, Spells text n u → 2 ^ 64 ≤ n := fun n u h =>
      Nat.le_of_not_lt fun hfits => hspells ⟨n, u, h, hfits⟩
    rw [parse_of_large hlarge]
    exact .unreadable hlarge

/-- What is read is a number of units that makes fewer than 2^64 seconds. -/
theorem exists_spells_of_parse {d : Duration} (h : parse text = .ok d) :
    ∃ n u, Spells text n u ∧ u.inSeconds n < 2 ^ 64 ∧ d = u.span n := by
  have hreads := reads_parse text
  rw [h] at hreads
  cases hreads with
  | read hspells _ hseconds => exact ⟨_, _, hspells, hseconds, rfl⟩

theorem representable_of_parse {d : Duration} (h : parse text = .ok d) : d.Representable := by
  obtain ⟨n, u, -, hseconds, rfl⟩ := exists_spells_of_parse h
  rw [Representable, u.seconds_span]
  exact hseconds

end Spells

/-- A text is read exactly if it spells a number of units that fits in 64 bits, and so do the whole
seconds of these units; what is read is what it spells. A number that fits with seconds that do not
is refused as out of range, and every other text as invalid. -/
theorem reads_spelled (text : String) :
    (∀ d, parse text = .ok d ↔ ∃ n u, Spells text n u ∧ n < 2 ^ 64 ∧
      u.inSeconds n < 2 ^ 64 ∧ d = u.span n) ∧
    ∀ e, parse text = .error e ↔
      (∃ n u, Spells text n u ∧ n < 2 ^ 64 ∧ 2 ^ 64 ≤ u.inSeconds n ∧ e = outOfRange text) ∨
      (∀ n u, Spells text n u → 2 ^ 64 ≤ n) ∧ e = unreadable text := by
  have hreads := reads_parse text
  refine ⟨fun d => ⟨fun hread => ?_, ?_⟩, fun e => ⟨fun hread => ?_, ?_⟩⟩
  · rw [hread] at hreads
    cases hreads with
    | read hspells hfits hseconds => exact ⟨_, _, hspells, hfits, hseconds, rfl⟩
  · rintro ⟨n, u, hspells, hfits, hseconds, rfl⟩
    exact hreads.unique (.read hspells hfits hseconds)
  · rw [hread] at hreads
    cases hreads with
    | outOfRange hspells hfits hseconds => exact .inl ⟨_, _, hspells, hfits, hseconds, rfl⟩
    | unreadable hlarge => exact .inr ⟨hlarge, rfl⟩
  · rintro (⟨n, u, hspells, hfits, hseconds, rfl⟩ | ⟨hlarge, rfl⟩)
    · exact hreads.unique (.outOfRange hspells hfits hseconds)
    · exact hreads.unique (.unreadable hlarge)

/-- The largest number of hours, and one more. -/
example : parse "\u2003005124095576030431h\n" = .ok (TimeUnit.hour.span 5124095576030431) ∧
    parse "5124095576030432h" = .error (outOfRange "5124095576030432h") := by decide +kernel

end Duration

end DatabaseGateway
