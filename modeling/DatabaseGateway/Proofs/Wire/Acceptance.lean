import Mathlib.Algebra.GroupWithZero.Nat
import DatabaseGateway.Proofs.Wire.Canonical

/-!
Which buffers are accepted. A buffer is accepted exactly if it is a row of complete frames, each of
which is read or passed over, and a rest of which nothing bad can be said yet: it is shorter than a
header, or its header is legal and the body is not all there (`Frame.Waits`). Every other buffer
breaks off at a first frame, and is refused for what is wrong with that one (`Breaks`).

Both are said of the bytes alone, by the number that the length field declares, so that how frames
are split off and in which order they are tested stays on the other side of the statements.
-/

namespace DatabaseGateway.Wire

namespace Frame

variable {limit : Nat} {buffer : Bytes} {e : WireError}

/-- The number that the four bytes of a length field declare. Its highest bit is a sign. -/
def declared (word : Bytes) : Int := (Bytes.beValue word : Int).bmod (Bytes.capacity 4)

inductive Waits (limit : Nat) : Bytes → Prop
  | header {start : Bytes} (short : start.length < headerLength) : Waits limit start
  | body {tag : UInt8} {word start : Bytes} (field : word.length = 4) (legal : 4 ≤ declared word)
      (within : declared word - 4 ≤ limit) (short : start.length < declared word - 4) :
      Waits limit (tag :: word ++ start)

/-- A length field that is refused, whatever follows it. -/
inductive Misdeclared (limit : Nat) : Bytes → WireError → Prop
  | illegal {tag : UInt8} {word rest : Bytes} (field : word.length = 4)
      (negative : declared word < 4) :
      Misdeclared limit (tag :: word ++ rest) (.invalidLength tag (declared word))
  | large {tag : UInt8} {word rest : Bytes} {body : Nat} (field : word.length = 4)
      (length : declared word = body + 4) (excess : limit < body) :
      Misdeclared limit (tag :: word ++ rest) (.frameTooLarge tag body limit)

theorem lengthOf_eq_declared (a b c d : UInt8) : lengthOf a b c d = declared [a, b, c, d] := by
  have hsmall : Bytes.beValue [a, b, c, d] < Bytes.capacity 4 := Bytes.beValue_lt [a, b, c, d]
  have hfour : Bytes.capacity 4 = 0x100000000 := rfl
  rw [lengthOf_eq, declared, Int.bmod, hfour, lengthBound]
  split <;> omega

theorem cons_word_append (tag : UInt8) {word : Bytes} (hfield : word.length = 4) (rest : Bytes) :
    ∃ a b c d, word = [a, b, c, d] ∧ tag :: word ++ rest = tag :: a :: b :: c :: d :: rest := by
  match word, hfield with
  | [a, b, c, d], _ => exact ⟨a, b, c, d, rfl, rfl⟩

theorem split_eq_none_iff : split limit buffer = .ok none ↔ Waits limit buffer := by
  constructor
  · fun_cases split limit buffer with
    | case1 | case2 | case4 => simp
    | case3 tag a b c d rest length hlegal body hwithin payload hshort =>
        intro _
        have hdeclares : length = declared [a, b, c, d] := lengthOf_eq_declared a b c d
        have hsome : payload.length = min body rest.length := List.length_take
        have hfield : [a, b, c, d].length = 4 := rfl
        exact .body hfield (by omega) (by omega) (by omega)
    | case5 buffer hnone =>
        intro _
        rcases buffer with _ | ⟨tag, _ | ⟨a, _ | ⟨b, _ | ⟨c, _ | ⟨d, rest⟩⟩⟩⟩⟩
        · exact .header (by simp [headerLength])
        · exact .header (by simp [headerLength])
        · exact .header (by simp [headerLength])
        · exact .header (by simp [headerLength])
        · exact .header (by simp [headerLength])
        · exact (hnone tag a b c d rest rfl).elim
  · intro hwaits
    cases hwaits with
    | header hshort =>
        fun_cases split limit buffer with
        | case1 | case2 | case3 | case4 => exact absurd hshort (by simp [headerLength])
        | case5 => rfl
    | @body tag word start hfield hlegal hwithin hshort =>
        obtain ⟨a, b, c, d, rfl, hbytes⟩ := cons_word_append tag hfield start
        rw [hbytes, split, lengthOf_eq_declared]
        simp only
        rw [if_neg (by omega), if_neg (by omega), if_pos]
        rw [List.length_take]
        omega

theorem split_eq_error_iff : split limit buffer = .error e ↔ Misdeclared limit buffer e := by
  constructor
  · fun_cases split limit buffer with
    | case3 | case4 | case5 => simp
    | case1 tag a b c d rest length hnegative =>
        rintro ⟨⟩
        have hdeclares : length = declared [a, b, c, d] := lengthOf_eq_declared a b c d
        have hfield : [a, b, c, d].length = 4 := rfl
        rw [hdeclares] at hnegative ⊢
        exact .illegal hfield hnegative
    | case2 tag a b c d rest length hlegal body hlarge =>
        rintro ⟨⟩
        have hdeclares : length = declared [a, b, c, d] := lengthOf_eq_declared a b c d
        have hfield : [a, b, c, d].length = 4 := rfl
        exact .large hfield (by omega) hlarge
  · intro hwrong
    cases hwrong with
    | @illegal tag word rest hfield hnegative =>
        obtain ⟨a, b, c, d, rfl, hbytes⟩ := cons_word_append tag hfield rest
        rw [hbytes, split, lengthOf_eq_declared]
        exact if_pos hnegative
    | @large tag word rest body hfield hlength hexcess =>
        obtain ⟨a, b, c, d, rfl, hbytes⟩ := cons_word_append tag hfield rest
        have hnumber : (declared [a, b, c, d]).toNat - 4 = body := by omega
        rw [hbytes, split, lengthOf_eq_declared]
        simp only [hnumber]
        rw [if_neg (by omega), if_pos hexcess]

end Frame

section Reading

variable {α : Type} {decode : UInt8 → Bytes → Except WireError (Option α)} {limit : Nat}
  {buffer : Bytes} {e : WireError}

/-- What is wrong with the first frame of a buffer. Its length field is enough to refuse it; its
payload is looked at once it is all there. -/
inductive Breaks (decode : UInt8 → Bytes → Except WireError (Option α)) (limit : Nat) :
    Bytes → WireError → Prop
  | length {rest : Bytes} {e : WireError} (wrong : Frame.Misdeclared limit rest e) :
      Breaks decode limit rest e
  | payload {f : Frame} {rest : Bytes} {e : WireError} (legal : f.Legal limit)
      (unreadable : decode f.tag f.payload = .error e) :
      Breaks decode limit (f.encode ++ rest) e

theorem refused_iff_breaks : Refused decode limit buffer e ↔ Breaks decode limit buffer e := by
  constructor
  · rintro (hheader | ⟨f, rest, hsplit, hunreadable⟩)
    · exact .length (Frame.split_eq_error_iff.1 hheader)
    · obtain ⟨hlegal, rfl⟩ := Frame.split_eq_some_iff.1 hsplit
      exact .payload hlegal hunreadable
  · intro hbreaks
    cases hbreaks with
    | length hwrong => exact .inl (Frame.split_eq_error_iff.2 hwrong)
    | payload hlegal hunreadable =>
        exact .inr ⟨_, _, Frame.split_encode_append hlegal, hunreadable⟩

theorem length_flatMap_encode (fs : List Frame) :
    (fs.flatMap Frame.encode).length = (fs.map Frame.size).sum := by
  simp [List.length_flatMap]

theorem parseFrames_eq_ok_iff {p : Parsed α} :
    parseFrames decode limit buffer = .ok p ↔
      ∃ fs rest, Framing decode limit buffer fs p.messages rest ∧ Frame.Waits limit rest ∧
        p.consumed = (fs.map Frame.size).sum := by
  constructor
  · intro hread
    obtain ⟨fs, rest, hframing, hstop, hconsumed⟩ := exists_framing_of_ok hread
    exact ⟨fs, rest, hframing, Frame.split_eq_none_iff.1 hstop,
      by rw [hconsumed, length_flatMap_encode]⟩
  · rintro ⟨fs, rest, hframing, hwaits, hconsumed⟩
    rw [parseFrames_eq_ok hframing (Frame.split_eq_none_iff.2 hwaits), length_flatMap_encode,
      ← hconsumed]

theorem parseFrames_eq_error_iff :
    parseFrames decode limit buffer = .error e ↔
      ∃ fs ms rest, Framing decode limit buffer fs ms rest ∧ Breaks decode limit rest e := by
  constructor
  · intro hfailed
    obtain ⟨fs, ms, rest, hframing, hstop | ⟨e', hrefused⟩⟩ := exists_framing decode limit buffer
    · rw [parseFrames_eq_ok hframing hstop] at hfailed
      cases hfailed
    · rw [parseFrames_eq_error hframing hrefused] at hfailed
      cases hfailed
      exact ⟨fs, ms, rest, hframing, refused_iff_breaks.1 hrefused⟩
  · rintro ⟨fs, ms, rest, hframing, hbreaks⟩
    exact parseFrames_eq_error hframing (refused_iff_breaks.2 hbreaks)

/-- A reader of buffers accepts the framed language of these messages and no more: frames with one
of these letters are read, and all others are passed over. -/
structure ReadsFramed (decode : UInt8 → Bytes → Except WireError (Option α)) (letters : List Char)
    (limit : Nat) (parse : Bytes → Except WireError (Parsed α)) : Prop where
  accepts : ∀ buffer p, parse buffer = .ok p ↔
    ∃ fs rest, Framing decode limit buffer fs p.messages rest ∧ Frame.Waits limit rest ∧
      p.consumed = (fs.map Frame.size).sum
  refuses : ∀ buffer e, parse buffer = .error e ↔
    ∃ fs ms rest, Framing decode limit buffer fs ms rest ∧ Breaks decode limit rest e
  passesOver : ∀ tag payload, decode tag payload = .ok none ↔ tag ∉ letters.map Char.toUInt8

end Reading

theorem BackendMessage.decode_eq_none_iff {tag : UInt8} {payload : Bytes} :
    decode tag payload = .ok none ↔ tag ∉ letters.map Char.toUInt8 := by
  refine ⟨fun hpassed hknown => decode_ne_none hknown hpassed, fun hunknown => ?_⟩
  simp only [letters, List.map_cons, List.map_nil, List.mem_cons, List.not_mem_nil, or_false,
    not_or] at hunknown
  simp [decode, hunknown]

theorem FrontendMessage.decode_eq_none_iff {tag : UInt8} {payload : Bytes} :
    decode tag payload = .ok none ↔ tag ∉ letters.map Char.toUInt8 := by
  refine ⟨fun hpassed hknown => decode_ne_none hknown hpassed, fun hunknown => ?_⟩
  simp only [letters, List.map_cons, List.map_nil, List.mem_cons, List.not_mem_nil, or_false,
    not_or] at hunknown
  simp [decode, hunknown]

/-- Buffers of a server's messages are read as the framed language under any limit, and buffers of a
client's messages under one of 64 MiB. -/
theorem reads_framed :
    (∀ limit, ReadsFramed BackendMessage.decode BackendMessage.letters limit
      (BackendMessage.parse limit)) ∧
    ReadsFramed FrontendMessage.decode FrontendMessage.letters (64 * 1024 * 1024)
      FrontendMessage.parseAll := by
  refine ⟨fun limit => ⟨?_, ?_, ?_⟩, ?_, ?_, ?_⟩
  · exact fun buffer p => parseFrames_eq_ok_iff
  · exact fun buffer e => parseFrames_eq_error_iff
  · exact fun tag payload => BackendMessage.decode_eq_none_iff
  · exact fun buffer p => parseFrames_eq_ok_iff
  · exact fun buffer e => parseFrames_eq_error_iff
  · exact fun tag payload => FrontendMessage.decode_eq_none_iff

end DatabaseGateway.Wire
