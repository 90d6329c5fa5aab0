import DatabaseGateway.Wire.Frontend
import DatabaseGateway.Proofs.Wire.Framing

/-!
What a client's messages look like on the wire, said the same way as of a server's:
`FrontendMessage.decode_eq_some_iff` has each message with the payloads that are read as it. Only
the two messages without a body leave a choice there.
-/

namespace DatabaseGateway.Wire

namespace FrontendMessage

/-- The texts of a message can be ended, its lists can be counted, and it describes a statement or a
portal. -/
def Worded : FrontendMessage → Prop
  | query text | password text => NulFree text
  | parse name sql types => NulFree name ∧ NulFree sql ∧ types.length ≤ maxCount
  | bind portal statement formats params results =>
    NulFree portal ∧ NulFree statement ∧ formats.length ≤ maxCount ∧ params.length ≤ maxCount ∧
      results.length ≤ maxCount
  | execute portal _ => NulFree portal
  | describe target name => (target = 'S'.toUInt8 ∨ target = 'P'.toUInt8) ∧ NulFree name
  | sync | terminate => True

instance : DecidablePred Worded
  | query _ | password _ | execute .. => inferInstanceAs (Decidable (NulFree _))
  | parse .. | bind .. | describe .. => inferInstanceAs (Decidable (_ ∧ _))
  | sync | terminate => .isTrue trivial

@[mk_iff]
structure Representable (m : FrontendMessage) : Prop where
  worded : m.Worded
  within : m.payload.length ≤ defaultMaxFrameSize

instance : DecidablePred Representable := fun m =>
  decidable_of_iff _ (representable_iff m).symm

theorem Representable.legal {m : FrontendMessage} (h : m.Representable) :
    m.frame.Legal defaultMaxFrameSize :=
  .of_le h.within (by decide)

def Spelled (m : FrontendMessage) (bytes : Bytes) : Prop :=
  match m with
  | sync | terminate => True
  | m => bytes = m.payload

namespace Reader

open Wire.Reader

theorem query_reads : ReadsAll query FrontendMessage.payload fun m =>
    ∃ sql, m = .query sql ∧ NulFree sql :=
  text_reads.all fun _ => rfl

theorem password_reads : ReadsAll password FrontendMessage.payload fun m =>
    ∃ p, m = .password p ∧ NulFree p :=
  text_reads.all fun _ => rfl

theorem execute_reads : ReadsAll execute FrontendMessage.payload fun m =>
    ∃ portal maxRows, m = .execute portal maxRows ∧ NulFree portal := by
  have hboth : ReadsAll execute FrontendMessage.payload fun m =>
      ∃ portal maxRows, m = .execute portal maxRows ∧ NulFree portal ∧ True :=
    text_reads.all₂ int32_reads fun _ _ => rfl
  simpa using hboth

theorem describe_reads : ReadsAll describe FrontendMessage.payload fun m =>
    ∃ target name, m = .describe target name ∧
      (target = 'S'.toUInt8 ∨ target = 'P'.toUInt8) ∧ NulFree name := by
  intro c m c'
  simp only [describe, bind_eq_ok, byte_reads.iff, true_and]
  constructor
  · rintro ⟨target, c₁, hpasses, h⟩
    split at h
    · rename_i hknown
      simp only [bind_eq_ok, text_reads.iff, finish_eq_ok, pure_eq_ok] at h
      obtain ⟨name, c₂, ⟨hfree, hpasses'⟩, _, _, ⟨hdone, rfl⟩, rfl, rfl⟩ := h
      exact ⟨⟨target, name, rfl, by simpa using hknown, hfree⟩,
        Cursor.passes_append.2 ⟨c₁, hpasses, hpasses'⟩, hdone⟩
    · simp at h
  · rintro ⟨⟨target, name, rfl, hknown, hfree⟩, hpasses, hdone⟩
    obtain ⟨c₁, hpasses, hpasses'⟩ := Cursor.passes_cons.1 hpasses
    refine ⟨target, c₁, hpasses, ?_⟩
    rw [if_pos (by simpa using hknown)]
    simp only [bind_eq_ok, text_reads.iff, finish_eq_ok, pure_eq_ok]
    exact ⟨name, c', ⟨hfree, hpasses'⟩, (), c', ⟨hdone, rfl⟩, rfl, rfl⟩

theorem parse_reads : ReadsAll parse FrontendMessage.payload fun m =>
    ∃ name sql types, m = .parse name sql types ∧
      NulFree name ∧ NulFree sql ∧ types.length ≤ maxCount := by
  intro c m c'
  have hspelled (name sql : String) (types : List UInt32) :
      (FrontendMessage.parse name sql types).payload =
        putText name ++ (putText sql ++ putCounted putWord32 types) := by
    simp [FrontendMessage.payload, putCounted]
  simp only [parse, bind_eq_ok, text_reads.iff, (counted_reads word32_reads).iff, finish_eq_ok,
    pure_eq_ok, implies_true, and_true]
  constructor
  · rintro ⟨name, c₁, ⟨hfree, hp₁⟩, sql, c₂, ⟨hfree', hp₂⟩, types, c₃, ⟨hfew, hp₃⟩, _, _,
      ⟨hdone, rfl⟩, rfl, rfl⟩
    refine ⟨⟨name, sql, types, rfl, hfree, hfree', hfew⟩, ?_, hdone⟩
    simp only [hspelled, Cursor.passes_append]
    exact ⟨c₁, hp₁, c₂, hp₂, hp₃⟩
  · rintro ⟨⟨name, sql, types, rfl, hfree, hfree', hfew⟩, hpasses, hdone⟩
    simp only [hspelled, Cursor.passes_append] at hpasses
    obtain ⟨c₁, hp₁, c₂, hp₂, hp₃⟩ := hpasses
    exact ⟨name, c₁, ⟨hfree, hp₁⟩, sql, c₂, ⟨hfree', hp₂⟩, types, c', ⟨hfew, hp₃⟩, (), c',
      ⟨hdone, rfl⟩, rfl, rfl⟩

theorem bind_reads : ReadsAll bind FrontendMessage.payload fun m =>
    ∃ portal statement formats params results,
      m = .bind portal statement formats params results ∧
        (FrontendMessage.bind portal statement formats params results).Worded ∧
        ∀ v ∈ params, Sized v := by
  intro c m c'
  have hspelled (portal statement : String) (formats : List Int16) (params : List (Option Bytes))
      (results : List Int16) :
      (FrontendMessage.bind portal statement formats params results).payload =
        putText portal ++ (putText statement ++ (putCounted putInt16 formats ++
          (putCounted putValue params ++ putCounted putInt16 results))) := by
    simp [FrontendMessage.payload, putFormats, putCounted]
  simp only [bind, bind_eq_ok, text_reads.iff, (counted_reads int16_reads).iff,
    (counted_reads value_reads).iff, finish_eq_ok, pure_eq_ok, implies_true, and_true]
  constructor
  · rintro ⟨portal, c₁, ⟨hfree, hp₁⟩, statement, c₂, ⟨hfree', hp₂⟩, formats, c₃, ⟨hfew, hp₃⟩,
      params, c₄, ⟨⟨hfew', hsized⟩, hp₄⟩, results, c₅, ⟨hfew'', hp₅⟩, _, _, ⟨hdone, rfl⟩, rfl, rfl⟩
    refine ⟨⟨portal, statement, formats, params, results, rfl, ⟨hfree, hfree', hfew, hfew', hfew''⟩,
      hsized⟩, ?_, hdone⟩
    simp only [hspelled, Cursor.passes_append]
    exact ⟨c₁, hp₁, c₂, hp₂, c₃, hp₃, c₄, hp₄, hp₅⟩
  · rintro ⟨⟨portal, statement, formats, params, results, rfl, ⟨hfree, hfree', hfew, hfew', hfew''⟩,
      hsized⟩, hpasses, hdone⟩
    simp only [hspelled, Cursor.passes_append] at hpasses
    obtain ⟨c₁, hp₁, c₂, hp₂, c₃, hp₃, c₄, hp₄, hp₅⟩ := hpasses
    exact ⟨portal, c₁, ⟨hfree, hp₁⟩, statement, c₂, ⟨hfree', hp₂⟩, formats, c₃, ⟨hfew, hp₃⟩, params,
      c₄, ⟨⟨hfew', hsized⟩, hp₄⟩, results, c', ⟨hfew'', hp₅⟩, (), c', ⟨hdone, rfl⟩, rfl, rfl⟩

end Reader

theorem decode_eq_some_iff {tag : UInt8} {bytes : Bytes} {m : FrontendMessage}
    (hshort : bytes.length < lengthBound) :
    decode tag bytes = .ok (some m) ↔ tag = m.letter.toUInt8 ∧ m.Worded ∧ m.Spelled bytes := by
  constructor
  -- One case for each tag, in the order in which they are tried.
  · fun_cases decode tag bytes with
    | case1 =>
        intro h
        obtain ⟨⟨sql, rfl, hworded⟩, rfl⟩ := (Reader.decode_map_some_eq_ok Reader.query_reads).1 h
        exact ⟨‹_›, hworded, rfl⟩
    | case2 =>
        intro h
        obtain ⟨⟨name, sql, types, rfl, hworded⟩, rfl⟩ :=
          (Reader.decode_map_some_eq_ok Reader.parse_reads).1 h
        exact ⟨‹_›, hworded, rfl⟩
    | case3 =>
        intro h
        obtain ⟨⟨portal, statement, formats, params, results, rfl, hworded, -⟩, rfl⟩ :=
          (Reader.decode_map_some_eq_ok Reader.bind_reads).1 h
        exact ⟨‹_›, hworded, rfl⟩
    | case4 =>
        intro h
        obtain ⟨⟨portal, maxRows, rfl, hworded⟩, rfl⟩ :=
          (Reader.decode_map_some_eq_ok Reader.execute_reads).1 h
        exact ⟨‹_›, hworded, rfl⟩
    | case5 =>
        intro h
        obtain ⟨⟨target, name, rfl, hworded⟩, rfl⟩ :=
          (Reader.decode_map_some_eq_ok Reader.describe_reads).1 h
        exact ⟨‹_›, hworded, rfl⟩
    | case6 | case7 =>
        intro h
        cases h
        exact ⟨‹_›, trivial, trivial⟩
    | case8 =>
        intro h
        obtain ⟨⟨p, rfl, hworded⟩, rfl⟩ := (Reader.decode_map_some_eq_ok Reader.password_reads).1 h
        exact ⟨‹_›, hworded, rfl⟩
    | case9 => simp
  · rintro ⟨rfl, hworded, hspelled⟩
    cases m with
    | query sql =>
        exact (Reader.decode_map_some_eq_ok Reader.query_reads).2 ⟨⟨sql, rfl, hworded⟩, hspelled⟩
    | parse name sql types =>
        exact (Reader.decode_map_some_eq_ok Reader.parse_reads).2
          ⟨⟨name, sql, types, rfl, hworded⟩, hspelled⟩
    | bind portal statement formats params results =>
        cases hspelled
        have hpart : (params.flatMap putValue).length < lengthBound := by
          simp only [payload, List.length_append] at hshort
          omega
        exact (Reader.decode_map_some_eq_ok Reader.bind_reads).2
          ⟨⟨portal, statement, formats, params, results, rfl, hworded,
            Reader.sized_of_length hpart⟩, rfl⟩
    | execute portal maxRows =>
        exact (Reader.decode_map_some_eq_ok Reader.execute_reads).2
          ⟨⟨portal, maxRows, rfl, hworded⟩, hspelled⟩
    | describe target name =>
        exact (Reader.decode_map_some_eq_ok Reader.describe_reads).2
          ⟨⟨target, name, rfl, hworded⟩, hspelled⟩
    | sync | terminate => rfl
    | password p =>
        exact (Reader.decode_map_some_eq_ok Reader.password_reads).2 ⟨⟨p, rfl, hworded⟩, hspelled⟩

theorem spelled_payload (m : FrontendMessage) : m.Spelled m.payload := by
  cases m <;> first | rfl | trivial

theorem Representable.decode_frame {m : FrontendMessage} (h : m.Representable) :
    decode m.frame.tag m.frame.payload = .ok (some m) := by
  have hshort : m.payload.length < lengthBound := Nat.lt_of_add_right_lt h.legal.told
  exact (decode_eq_some_iff hshort).2 ⟨rfl, h.worded, m.spelled_payload⟩

theorem encode_ne_nil (m : FrontendMessage) : m.encode ≠ [] := nofun

theorem flatMap_encode_map_frame (ms : List FrontendMessage) :
    (ms.map frame).flatMap Frame.encode = encodeAll ms := by
  rw [List.flatMap_map]
  rfl

theorem parseAll_encodeAll {ms : List FrontendMessage} (h : ∀ m ∈ ms, m.Representable) :
    parseAll (encodeAll ms) = .ok ⟨ms, (encodeAll ms).length⟩ := by
  have hframing :=
    Framing.of_map (fun m hm => (h m hm).legal) (fun m hm => (h m hm).decode_frame) []
  simpa [parseAll, flatMap_encode_map_frame] using parseFrames_eq_ok hframing rfl

theorem representable_of_parseAll {buffer : Bytes} {p : Parsed FrontendMessage}
    (h : parseAll buffer = .ok p) : ∀ m ∈ p.messages, m.Representable := by
  obtain ⟨fs, rest, hframing, -, -⟩ := exists_framing_of_ok h
  intro m hmem
  obtain ⟨f, hamong, hread⟩ := hframing.conveys.exists_frame hmem
  obtain ⟨hwithin, htold⟩ := hframing.legal f hamong
  obtain ⟨-, hworded, hspelled⟩ := (decode_eq_some_iff (Nat.lt_of_add_right_lt htold)).1 hread
  refine ⟨hworded, ?_⟩
  cases m with
  | sync | terminate => exact Nat.zero_le _
  | _ =>
      rw [← show f.payload = _ from hspelled]
      exact hwithin

/-- What has arrived of messages is read as the first of them, and as all of them only once it is
all there. -/
theorem parseAll_of_prefix {ms : List FrontendMessage} {sent : Bytes}
    (h : ∀ m ∈ ms, m.Representable) (hstart : sent <+: encodeAll ms) :
    ∃ k n, parseAll sent = .ok ⟨ms.take k, n⟩ ∧ (k < ms.length ∨ sent = encodeAll ms) := by
  induction ms generalizing sent with
  | nil =>
      obtain rfl := List.prefix_nil.1 hstart
      exact ⟨0, 0, parseFrames_of_split_none rfl, .inr rfl⟩
  | cons m ms ih =>
      obtain ⟨hfirst, hothers⟩ := List.forall_mem_cons.1 h
      have hwhole : encodeAll (m :: ms) = m.encode ++ encodeAll ms := List.flatMap_cons ..
      rw [hwhole] at hstart ⊢
      by_cases hcomplete : m.encode <+: sent
      · obtain ⟨sent', rfl⟩ := hcomplete
        obtain ⟨k, n, hread, hfew⟩ := ih hothers ((List.prefix_append_right_inj _).1 hstart)
        have hhere : parseAll (m.encode ++ sent') =
            (parseAll sent').map fun p => ⟨m :: p.messages, m.frame.size + p.consumed⟩ :=
          parseFrames_of_split_some (Frame.split_encode_append hfirst.legal) hfirst.decode_frame
        refine ⟨k + 1, m.frame.size + n, by rw [hhere, hread]; rfl, hfew.imp Nat.succ_lt_succ ?_⟩
        rintro rfl
        rfl
      · have harrived : sent <+: m.encode :=
          (List.prefix_or_prefix_of_prefix hstart (List.prefix_append ..)).resolve_right hcomplete
        obtain ⟨missing, hsome, hmessage⟩ := Frame.exists_missing harrived fun hall =>
          hcomplete (hall ▸ List.prefix_rfl)
        have hwaits := Frame.split_of_append_encode hfirst.legal hmessage hsome
        exact ⟨0, 0, parseFrames_of_split_none hwaits, .inl (Nat.succ_pos _)⟩

/-- The start of a row of messages is read as all of them exactly if it is all there and the wire
can carry each of them. -/
theorem parseAll_eq_iff {ms : List FrontendMessage} {sent : Bytes}
    (hstart : sent <+: encodeAll ms) :
    parseAll sent = .ok ⟨ms, sent.length⟩ ↔ sent = encodeAll ms ∧ ∀ m ∈ ms, m.Representable := by
  constructor
  · intro hread
    have hrepresentable : ∀ m ∈ ms, m.Representable := representable_of_parseAll hread
    obtain ⟨k, n, hread', hfew | hall⟩ := parseAll_of_prefix hrepresentable hstart
    · rw [hread, Except.ok.injEq, Parsed.mk.injEq] at hread'
      have hsame := congrArg List.length hread'.1
      rw [List.length_take] at hsame
      omega
    · exact ⟨hall, hrepresentable⟩
  · rintro ⟨rfl, hrepresentable⟩
    exact parseAll_encodeAll hrepresentable

end FrontendMessage

end DatabaseGateway.Wire
