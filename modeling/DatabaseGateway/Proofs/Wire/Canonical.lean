import DatabaseGateway.Proofs.Wire.Backend
import DatabaseGateway.Proofs.Wire.Frontend

/-!
Reading loses nothing. What the readers accept besides what the writers write are frames of unknown
tags, login requests of other methods, whose data is dropped, and bodies where none belong.
Where there are none of these, writing what was read gives back the bytes that were read, so that
messages and bytes determine each other.
-/

namespace DatabaseGateway.Wire

namespace BackendMessage

def letters : List Char := ['R', 'S', 'K', 'Z', '1', '2', 'I', 'T', 'D', 'C', 'E', 'N']

/-- A frame of a message that is read in full: its tag is known, the code in front of a login
request is that of a known method, and there is no body where none belongs. -/
@[mk_iff]
structure Plain (f : Frame) : Prop where
  known : f.tag ∈ letters.map Char.toUInt8
  method : f.tag = 'R'.toUInt8 → Bytes.beValue (f.payload.take 4) ∈ [0, 3, 5]
  bodiless : f.tag ∈ ['1', '2', 'I'].map Char.toUInt8 → f.payload = []

instance : DecidablePred Plain := fun f =>
  decidable_of_iff _ (plain_iff f).symm

theorem decode_ne_none {tag : UInt8} {payload : Bytes} (hknown : tag ∈ letters.map Char.toUInt8) :
    decode tag payload ≠ .ok none := by
  fun_cases decode tag payload with
  | case5 | case6 | case7 => simp
  | case13 => simp_all [letters]
  | _ => exact Reader.map_some_ne_none

theorem beValue_putInt32_inj {a b : Int32} :
    Bytes.beValue (putInt32 a) = Bytes.beValue (putInt32 b) ↔ a = b := by
  have hnumber (n : Int32) : Bytes.beValue (putInt32 n) = n.toUInt32.toNat := by
    rw [putInt32, Bytes.beValue_be, Nat.mod_eq_of_lt]
    exact n.toUInt32.toNat_lt
  refine ⟨fun hsame => ?_, fun hsame => by rw [hsame]⟩
  rw [hnumber, hnumber, UInt32.toNat_inj] at hsame
  rw [← Int32.toInt32_toUInt32 a, hsame, Int32.toInt32_toUInt32]

/-- The code of another method is none of the known ones. -/
theorem beValue_putInt32_not_mem {code : Int32} (hother : code ≠ 0 ∧ code ≠ 3 ∧ code ≠ 5) :
    Bytes.beValue (putInt32 code) ∉ [0, 3, 5] := by
  have hcodes : [0, 3, 5] = [0, 3, 5].map fun n => Bytes.beValue (putInt32 n) := by decide
  rw [hcodes]
  simpa [beValue_putInt32_inj, eq_comm] using hother

theorem Plain.eq_payload {f : Frame} {m : BackendMessage} (hplain : Plain f)
    (htag : f.tag = m.letter.toUInt8) (hworded : m.Worded) (hspelled : m.Spelled f.payload) :
    f.payload = m.payload := by
  cases m with
  | authentication a =>
      cases a with
      | other code =>
          obtain ⟨left, hpayload⟩ := hspelled
          have hmethod := hplain.method htag
          rw [← hpayload, List.take_left' (by simp [putInt32])] at hmethod
          exact absurd hmethod (beValue_putInt32_not_mem hworded)
      | _ => exact hspelled
  | parseComplete | bindComplete | emptyQueryResponse =>
      exact hplain.bodiless (by simp [htag, letter])
  | _ => exact hspelled

theorem Plain.faithful {limit : Nat} {f : Frame} (hplain : Plain f) (hlegal : f.Legal limit)
    (m : Option BackendMessage) (hread : decode f.tag f.payload = .ok m) :
    ∃ a, m = some a ∧ frame a = f := by
  cases m with
  | none => exact absurd hread (decode_ne_none hplain.known)
  | some a =>
      have hshort := Nat.lt_of_add_right_lt hlegal.told
      obtain ⟨htag, hworded, hspelled⟩ := (decode_eq_some_iff hshort).1 hread
      have hpayload := hplain.eq_payload htag hworded hspelled
      exact ⟨a, rfl, by rw [frame, ← htag, ← hpayload]⟩

structure ParsesPlainly (limit : Nat) (buffer : Bytes) (p : Parsed BackendMessage) : Prop where
  accepted : parse limit buffer = .ok p
  plain : ∀ f ∈ Frame.frames limit buffer, Plain f

theorem ParsesPlainly.flatMap_encode {limit : Nat} {buffer : Bytes} {p : Parsed BackendMessage}
    (h : ParsesPlainly limit buffer p) : p.messages.flatMap encode = buffer.take p.consumed :=
  flatMap_encode_eq_take h.accepted fun f hf hlegal => (h.plain f hf).faithful hlegal

end BackendMessage

namespace FrontendMessage

def letters : List Char := ['Q', 'P', 'B', 'E', 'D', 'S', 'X', 'p']

/-- A frame of a message that is read in full: its tag is known, and there is no body where none
belongs. -/
@[mk_iff]
structure Plain (f : Frame) : Prop where
  known : f.tag ∈ letters.map Char.toUInt8
  bodiless : f.tag ∈ ['S', 'X'].map Char.toUInt8 → f.payload = []

instance : DecidablePred Plain := fun f =>
  decidable_of_iff _ (plain_iff f).symm

theorem decode_ne_none {tag : UInt8} {payload : Bytes} (hknown : tag ∈ letters.map Char.toUInt8) :
    decode tag payload ≠ .ok none := by
  fun_cases decode tag payload with
  | case6 | case7 => simp
  | case9 => simp_all [letters]
  | _ => exact Reader.map_some_ne_none

theorem Plain.eq_payload {f : Frame} {m : FrontendMessage} (hplain : Plain f)
    (htag : f.tag = m.letter.toUInt8) (hspelled : m.Spelled f.payload) : f.payload = m.payload := by
  cases m with
  | sync | terminate => exact hplain.bodiless (by simp [htag, letter])
  | _ => exact hspelled

theorem Plain.faithful {limit : Nat} {f : Frame} (hplain : Plain f) (hlegal : f.Legal limit)
    (m : Option FrontendMessage) (hread : decode f.tag f.payload = .ok m) :
    ∃ a, m = some a ∧ frame a = f := by
  cases m with
  | none => exact absurd hread (decode_ne_none hplain.known)
  | some a =>
      have hshort := Nat.lt_of_add_right_lt hlegal.told
      obtain ⟨htag, -, hspelled⟩ := (decode_eq_some_iff hshort).1 hread
      have hpayload := hplain.eq_payload htag hspelled
      exact ⟨a, rfl, by rw [frame, ← htag, ← hpayload]⟩

structure ParsesPlainly (buffer : Bytes) (p : Parsed FrontendMessage) : Prop where
  accepted : parseAll buffer = .ok p
  plain : ∀ f ∈ Frame.frames defaultMaxFrameSize buffer, Plain f

theorem ParsesPlainly.encodeAll {buffer : Bytes} {p : Parsed FrontendMessage}
    (h : ParsesPlainly buffer p) : encodeAll p.messages = buffer.take p.consumed :=
  flatMap_encode_eq_take h.accepted fun f hf hlegal => (h.plain f hf).faithful hlegal

end FrontendMessage

/-- Messages are written as the bytes that they were read from, so that different bytes are
different messages. -/
theorem parsing_canonical :
    (∀ limit buffer p, BackendMessage.ParsesPlainly limit buffer p →
      p.messages.flatMap BackendMessage.encode = buffer.take p.consumed) ∧
    (∀ buffer p, FrontendMessage.ParsesPlainly buffer p →
      FrontendMessage.encodeAll p.messages = buffer.take p.consumed) ∧
    (∀ limit limit' buffer buffer' p p', BackendMessage.ParsesPlainly limit buffer p →
      BackendMessage.ParsesPlainly limit' buffer' p' → p.messages = p'.messages →
        buffer.take p.consumed = buffer'.take p'.consumed) ∧
    ∀ buffer buffer' p p', FrontendMessage.ParsesPlainly buffer p →
      FrontendMessage.ParsesPlainly buffer' p' → p.messages = p'.messages →
        buffer.take p.consumed = buffer'.take p'.consumed := by
  refine ⟨fun _ _ _ h => h.flatMap_encode, fun _ _ h => h.encodeAll, ?_, ?_⟩
  · intro limit limit' buffer buffer' p p' h h' hsame
    rw [← h.flatMap_encode, ← h'.flatMap_encode, hsame]
  · intro buffer buffer' p p' h h' hsame
    rw [← h.encodeAll, ← h'.encodeAll, hsame]

theorem row_and_query_give_back_bytes :
    let row : Bytes := [68, 0, 0, 0, 10, 0, 1, 255, 255, 255, 255, 90, 0, 0, 0, 5, 73]
    let query : Bytes := [81, 0, 0, 0, 6, 59, 0, 83, 0, 0, 0, 4]
    BackendMessage.ParsesPlainly 64 (row ++ [90, 0]) ⟨[.dataRow [none], .readyForQuery .idle], 17⟩ ∧
      [BackendMessage.dataRow [none], .readyForQuery .idle].flatMap BackendMessage.encode = row ∧
      FrontendMessage.ParsesPlainly (query ++ [88]) ⟨[.query ";", .sync], 12⟩ ∧
      FrontendMessage.encodeAll [.query ";", .sync] = query := by
  intro row query
  have hsent : Framing BackendMessage.decode 64 (row ++ [90, 0])
      [⟨68, [0, 1, 255, 255, 255, 255]⟩, ⟨90, [73]⟩] [.dataRow [none], .readyForQuery .idle]
      [90, 0] :=
    ⟨by decide, by decide, .cons (m := some (BackendMessage.dataRow [none])) rfl
      (.cons (m := some (BackendMessage.readyForQuery .idle)) rfl .nil)⟩
  have hasked : Framing FrontendMessage.decode defaultMaxFrameSize (query ++ [88])
      [⟨81, [59, 0]⟩, ⟨83, []⟩] [.query ";", .sync] [88] :=
    ⟨by decide, by decide,
      .cons (FrontendMessage.Representable.decode_frame (m := .query ";") (by decide))
        (.cons (m := some FrontendMessage.sync) rfl .nil)⟩
  have hsent' : BackendMessage.ParsesPlainly 64 (row ++ [90, 0])
      ⟨[.dataRow [none], .readyForQuery .idle], 17⟩ := by
    refine ⟨parseFrames_eq_ok hsent rfl, ?_⟩
    rw [hsent.frames_eq, Frame.frames_of_split_none rfl]
    decide
  have hasked' : FrontendMessage.ParsesPlainly (query ++ [88]) ⟨[.query ";", .sync], 12⟩ := by
    refine ⟨parseFrames_eq_ok hasked rfl, ?_⟩
    rw [hasked.frames_eq, Frame.frames_of_split_none rfl]
    decide
  exact ⟨hsent', parsing_canonical.1 _ _ _ hsent', hasked', parsing_canonical.2.1 _ _ hasked'⟩

end DatabaseGateway.Wire
