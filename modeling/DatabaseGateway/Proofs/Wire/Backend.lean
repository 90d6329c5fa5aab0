import DatabaseGateway.Wire.Backend
import DatabaseGateway.Proofs.Wire.Framing

/-!
What a server's messages look like on the wire. `BackendMessage.decode_eq_some_iff` says of every
payload which message it is read as, and of every message which payloads are read as it: the one
that is written for it, except that a login request of another method keeps nothing of what comes
behind its code, and that a message without a body is known by its tag alone.
-/

namespace DatabaseGateway.Wire

namespace BackendMessage

/-- The texts of a message can be ended, its lists can be counted, and it is not mistaken for
another message of its tag. -/
def Worded : BackendMessage → Prop
  | authentication (.other code) => code ≠ 0 ∧ code ≠ 3 ∧ code ≠ 5
  | authentication _ | backendKeyData .. | readyForQuery _ => True
  | parseComplete | bindComplete | emptyQueryResponse => True
  | parameterStatus name value => NulFree name ∧ NulFree value
  | rowDescription fields => fields.length ≤ maxCount ∧ ∀ f ∈ fields, NulFree f.name
  | dataRow row => row.length ≤ maxCount
  | commandComplete tag => NulFree tag
  | errorResponse report | noticeResponse report => ∀ x ∈ report, x.1 ≠ 0 ∧ NulFree x.2

instance : DecidablePred Worded
  | authentication (.other _) => inferInstanceAs (Decidable (_ ∧ _ ∧ _))
  | authentication .ok | authentication .cleartextPassword | authentication (.md5Password ..) =>
    .isTrue trivial
  | backendKeyData .. | readyForQuery _ | parseComplete | bindComplete | emptyQueryResponse =>
    .isTrue trivial
  | parameterStatus .. | rowDescription _ => inferInstanceAs (Decidable (_ ∧ _))
  | dataRow _ => inferInstanceAs (Decidable (_ ≤ _))
  | commandComplete _ => inferInstanceAs (Decidable (NulFree _))
  | errorResponse _ | noticeResponse _ => inferInstanceAs (Decidable (∀ x ∈ _, _))

@[mk_iff]
structure Representable (limit : Nat) (m : BackendMessage) : Prop where
  worded : m.Worded
  legal : m.frame.Legal limit

instance {limit : Nat} : DecidablePred (Representable limit) := fun m =>
  decidable_of_iff _ (representable_iff limit m).symm

/-- The payloads that are read as a message. -/
def Spelled (m : BackendMessage) (bytes : Bytes) : Prop :=
  match m with
  | authentication (.other code) => putInt32 code <+: bytes
  | parseComplete | bindComplete | emptyQueryResponse => True
  | m => bytes = m.payload

namespace Reader

open Wire.Reader

variable {c c' : Cursor} {payload : Bytes}

theorem decode_authentication {a : Authentication} :
    Wire.Reader.decode "Authentication" authentication payload = .ok a ↔
      (BackendMessage.authentication a).Worded ∧
        (BackendMessage.authentication a).Spelled payload := by
  rw [decode_eq_ok_iff_exists]
  simp only [authentication, bind_eq_ok, int32_reads.iff, true_and]
  constructor
  · rintro ⟨c', code, c₁, hpasses, h⟩
    split at h
    · obtain ⟨hdone, rfl, rfl⟩ := finish_pure_eq_ok.1 h
      subst code
      exact ⟨trivial, exists_passes_iff.1 ⟨c', hpasses, hdone⟩⟩
    · split at h
      · obtain ⟨hdone, rfl, rfl⟩ := finish_pure_eq_ok.1 h
        subst code
        exact ⟨trivial, exists_passes_iff.1 ⟨c', hpasses, hdone⟩⟩
      · split at h
        · simp only [bind_eq_ok, take_eq_ok, finish_eq_ok] at h
          obtain ⟨salt, c₂, ⟨-, hpasses'⟩, _, _, ⟨hdone, rfl⟩, h⟩ := h
          split at h
          · rw [pure_eq_ok] at h
            obtain ⟨rfl, rfl⟩ := h
            subst code
            have hboth := Cursor.passes_append.2 ⟨c₁, hpasses, hpasses'⟩
            exact ⟨trivial, exists_passes_iff.1 ⟨c', hboth, hdone⟩⟩
          · simp at h
        · rename_i hne₀ hne₃ hne₅
          rw [pure_eq_ok] at h
          obtain ⟨rfl, rfl⟩ := h
          exact ⟨⟨hne₀, hne₃, hne₅⟩, c'.rest, hpasses.1.symm⟩
  · rintro ⟨hworded, hspelled⟩
    cases a with
    | ok =>
        obtain ⟨c', hpasses, hdone⟩ := exists_passes_iff.2 hspelled
        exact ⟨c', 0, c', hpasses, finish_pure_eq_ok.2 ⟨hdone, rfl, rfl⟩⟩
    | cleartextPassword =>
        obtain ⟨c', hpasses, hdone⟩ := exists_passes_iff.2 hspelled
        exact ⟨c', 3, c', hpasses, finish_pure_eq_ok.2 ⟨hdone, rfl, rfl⟩⟩
    | md5Password x y z w =>
        obtain ⟨c', hpasses, hdone⟩ := exists_passes_iff.2 hspelled
        obtain ⟨c₁, hpasses, hpasses'⟩ := Cursor.passes_append.1 hpasses
        refine ⟨c', 5, c₁, hpasses, ?_⟩
        rw [if_neg (by decide), if_neg (by decide), if_pos rfl]
        simp only [bind_eq_ok, take_eq_ok, finish_eq_ok]
        exact ⟨[x, y, z, w], c', ⟨rfl, hpasses'⟩, (), c', ⟨hdone, rfl⟩, rfl⟩
    | other code =>
        obtain ⟨hne₀, hne₃, hne₅⟩ := hworded
        obtain ⟨left, rfl⟩ := hspelled
        refine ⟨⟨left, 0 + (putInt32 code).length⟩, code, ⟨left, 0 + (putInt32 code).length⟩,
          ⟨rfl, rfl⟩, ?_⟩
        rw [if_neg hne₀, if_neg hne₃, if_neg hne₅, pure_eq_ok]
        exact ⟨rfl, rfl⟩

theorem parameterStatus_reads : ReadsAll parameterStatus BackendMessage.payload fun m =>
    ∃ name value, m = .parameterStatus name value ∧ NulFree name ∧ NulFree value :=
  text_reads.all₂ text_reads fun _ _ => rfl

theorem backendKeyData_reads : ReadsAll backendKeyData BackendMessage.payload fun m =>
    ∃ process secret, m = .backendKeyData process secret := by
  have hboth : ReadsAll backendKeyData BackendMessage.payload fun m =>
      ∃ process secret, m = .backendKeyData process secret ∧ True ∧ True :=
    int32_reads.all₂ int32_reads fun _ _ => rfl
  simpa using hboth

theorem ofByte?_eq_some_iff {b : UInt8} {status : TransactionStatus} :
    TransactionStatus.ofByte? b = some status ↔ b = status.toByte := by
  constructor
  · fun_cases TransactionStatus.ofByte? b with
    | case1 | case2 | case3 =>
        rintro ⟨⟩
        assumption
    | case4 => simp
  · rintro rfl
    cases status <;> rfl

theorem readyForQuery_reads : ReadsAll readyForQuery BackendMessage.payload fun m =>
    ∃ status, m = .readyForQuery status := by
  intro c m c'
  simp only [readyForQuery, bind_eq_ok, byte_reads.iff, finish_eq_ok, true_and]
  constructor
  · rintro ⟨b, c₁, hpasses, _, _, ⟨hdone, rfl⟩, hknown⟩
    cases hfound : TransactionStatus.ofByte? b with
    | none => simp [hfound] at hknown
    | some status =>
        rw [hfound, pure_eq_ok] at hknown
        obtain ⟨rfl, rfl⟩ := hknown
        rw [ofByte?_eq_some_iff.1 hfound] at hpasses
        exact ⟨⟨status, rfl⟩, hpasses, hdone⟩
  · rintro ⟨⟨status, rfl⟩, hpasses, hdone⟩
    refine ⟨status.toByte, c', hpasses, (), c', ⟨hdone, rfl⟩, ?_⟩
    rw [ofByte?_eq_some_iff.2 rfl]
    simp

theorem field_reads : Reads field putField fun f => NulFree f.name := by
  intro c f c'
  simp only [field, bind_eq_ok, text_reads.iff, word32_reads.iff, int16_reads.iff,
    int32_reads.iff, pure_eq_ok, true_and, putField, Cursor.passes_append]
  constructor
  · rintro ⟨name, c₁, ⟨hfree, hp₁⟩, table, c₂, hp₂, column, c₃, hp₃, type, c₄, hp₄, length, c₅, hp₅,
      modifier, c₆, hp₆, format, c₇, hp₇, rfl, rfl⟩
    exact ⟨hfree, c₆, ⟨c₅, ⟨c₄, ⟨c₃, ⟨c₂, ⟨c₁, hp₁, hp₂⟩, hp₃⟩, hp₄⟩, hp₅⟩, hp₆⟩, hp₇⟩
  · rintro ⟨hfree, c₆, ⟨c₅, ⟨c₄, ⟨c₃, ⟨c₂, ⟨c₁, hp₁, hp₂⟩, hp₃⟩, hp₄⟩, hp₅⟩, hp₆⟩, hp₇⟩
    exact ⟨f.name, c₁, ⟨hfree, hp₁⟩, _, c₂, hp₂, _, c₃, hp₃, _, c₄, hp₄, _, c₅, hp₅, _, c₆, hp₆, _,
      c', hp₇, rfl, rfl⟩

theorem rowDescription_reads : ReadsAll rowDescription BackendMessage.payload fun m =>
    ∃ fields, m = .rowDescription fields ∧
      fields.length ≤ maxCount ∧ ∀ f ∈ fields, NulFree f.name :=
  (counted_reads field_reads).all fun _ => rfl

theorem dataRow_reads : ReadsAll dataRow BackendMessage.payload fun m =>
    ∃ row, m = .dataRow row ∧ row.length ≤ maxCount ∧ ∀ v ∈ row, Sized v :=
  (counted_reads value_reads).all fun _ => rfl

theorem commandComplete_reads : ReadsAll commandComplete BackendMessage.payload fun m =>
    ∃ tag, m = .commandComplete tag ∧ NulFree tag :=
  text_reads.all fun _ => rfl

theorem putReport_cons (code : UInt8) (value : String) (r : Report) :
    putReport ((code, value) :: r) = [code] ++ (putText value ++ putReport r) := by
  simp [putReport]

/-- The fuel is no bound, as long as there is as much of it as there are bytes. -/
theorem reportFields_eq_ok {fuel : Nat} {r : Report} (henough : c.rest.length ≤ fuel) :
    reportFields fuel c = .ok (r, c') ↔
      (∀ x ∈ r, x.1 ≠ 0 ∧ NulFree x.2) ∧ c.Passes (putReport r) c' := by
  induction fuel generalizing c r with
  | zero =>
      simp only [reportFields, bind_eq_ok, byte_reads.iff, true_and]
      constructor
      · rintro ⟨b, c₁, hpasses, -⟩
        have := hpasses.length_rest
        simp only [List.length_singleton] at this
        omega
      · rintro ⟨-, hpasses⟩
        have := hpasses.length_rest
        simp only [putReport, List.length_append, List.length_singleton] at this
        omega
  | succ fuel ih =>
      simp only [reportFields, bind_eq_ok, byte_reads.iff, true_and]
      constructor
      · rintro ⟨code, c₁, hpasses, h⟩
        split at h
        · rename_i hzero
          rw [pure_eq_ok] at h
          obtain ⟨rfl, rfl⟩ := h
          rw [hzero] at hpasses
          exact ⟨by simp, hpasses⟩
        · rename_i hnonzero
          simp only [bind_eq_ok, text_reads.iff, pure_eq_ok] at h
          obtain ⟨value, c₂, ⟨hfree, hpasses'⟩, others, c₃, h, rfl, rfl⟩ := h
          -- The code alone takes a byte, so that less fuel is enough for the fields behind.
          have hfewer : c₂.rest.length ≤ fuel := by
            have := hpasses.length_rest
            have := hpasses'.length_rest
            simp only [List.length_singleton] at *
            omega
          obtain ⟨hgood, hpasses''⟩ := (ih hfewer).1 h
          refine ⟨by simpa using ⟨⟨hnonzero, hfree⟩, fun a b h => hgood (a, b) h⟩, ?_⟩
          rw [putReport_cons, Cursor.passes_append]
          exact ⟨c₁, hpasses, Cursor.passes_append.2 ⟨c₂, hpasses', hpasses''⟩⟩
      · rintro ⟨hgood, hpasses⟩
        cases r with
        | nil => exact ⟨0, c', hpasses, by simp⟩
        | cons x r =>
            obtain ⟨code, value⟩ := x
            simp only [List.mem_cons, forall_eq_or_imp] at hgood
            obtain ⟨⟨hnonzero, hfree⟩, hgood⟩ := hgood
            rw [putReport_cons, Cursor.passes_append] at hpasses
            obtain ⟨c₁, hpasses, hpasses'⟩ := hpasses
            obtain ⟨c₂, hpasses', hpasses''⟩ := Cursor.passes_append.1 hpasses'
            have hfewer : c₂.rest.length ≤ fuel := by
              have := hpasses.length_rest
              have := hpasses'.length_rest
              simp only [List.length_singleton] at *
              omega
            refine ⟨code, c₁, hpasses, ?_⟩
            rw [if_neg hnonzero]
            simp only [bind_eq_ok, text_reads.iff, pure_eq_ok]
            exact ⟨value, c₂, ⟨hfree, hpasses'⟩, r, c', (ih hfewer).2 ⟨hgood, hpasses''⟩, rfl, rfl⟩

theorem report_reads : ReadsAll report putReport fun r => ∀ x ∈ r, x.1 ≠ 0 ∧ NulFree x.2 := by
  intro c r c'
  simp only [report, bind_eq_ok, get_eq_ok, finish_eq_ok, pure_eq_ok]
  constructor
  · rintro ⟨_, _, ⟨rfl, rfl⟩, fields, c₁, h, _, _, ⟨hdone, rfl⟩, rfl, rfl⟩
    obtain ⟨hgood, hpasses⟩ := (reportFields_eq_ok (Nat.le_refl _)).1 h
    exact ⟨hgood, hpasses, hdone⟩
  · rintro ⟨hgood, hpasses, hdone⟩
    exact ⟨c, c, ⟨rfl, rfl⟩, r, c', (reportFields_eq_ok (Nat.le_refl _)).2 ⟨hgood, hpasses⟩, (), c',
      ⟨hdone, rfl⟩, rfl, rfl⟩

end Reader

theorem decode_eq_some_iff {tag : UInt8} {bytes : Bytes} {m : BackendMessage}
    (hshort : bytes.length < lengthBound) :
    decode tag bytes = .ok (some m) ↔ tag = m.letter.toUInt8 ∧ m.Worded ∧ m.Spelled bytes := by
  constructor
  -- One case for each tag, in the order in which they are tried.
  · fun_cases decode tag bytes with
    | case1 =>
        intro h
        obtain ⟨a, hread, rfl⟩ := Reader.map_some_eq_ok.1 h
        exact ⟨‹_›, Reader.decode_authentication.1 hread⟩
    | case2 =>
        intro h
        obtain ⟨⟨name, value, rfl, hworded⟩, rfl⟩ :=
          (Reader.decode_map_some_eq_ok Reader.parameterStatus_reads).1 h
        exact ⟨‹_›, hworded, rfl⟩
    | case3 =>
        intro h
        obtain ⟨⟨process, secret, rfl⟩, rfl⟩ :=
          (Reader.decode_map_some_eq_ok Reader.backendKeyData_reads).1 h
        exact ⟨‹_›, trivial, rfl⟩
    | case4 =>
        intro h
        obtain ⟨⟨status, rfl⟩, rfl⟩ := (Reader.decode_map_some_eq_ok Reader.readyForQuery_reads).1 h
        exact ⟨‹_›, trivial, rfl⟩
    | case5 | case6 | case7 =>
        intro h
        cases h
        exact ⟨‹_›, trivial, trivial⟩
    | case8 =>
        intro h
        obtain ⟨⟨fields, rfl, hworded⟩, rfl⟩ :=
          (Reader.decode_map_some_eq_ok Reader.rowDescription_reads).1 h
        exact ⟨‹_›, hworded, rfl⟩
    | case9 =>
        intro h
        obtain ⟨⟨row, rfl, hworded, -⟩, rfl⟩ :=
          (Reader.decode_map_some_eq_ok Reader.dataRow_reads).1 h
        exact ⟨‹_›, hworded, rfl⟩
    | case10 =>
        intro h
        obtain ⟨⟨status, rfl, hworded⟩, rfl⟩ :=
          (Reader.decode_map_some_eq_ok Reader.commandComplete_reads).1 h
        exact ⟨‹_›, hworded, rfl⟩
    | case11 | case12 =>
        intro h
        obtain ⟨report, hread, rfl⟩ := Reader.map_some_eq_ok.1 h
        exact ⟨‹_›, (Reader.decode_eq_ok_iff Reader.report_reads).1 hread⟩
    | case13 => simp
  · rintro ⟨rfl, hworded, hspelled⟩
    cases m with
    | authentication a =>
        exact Reader.map_some_eq_ok.2 ⟨a, Reader.decode_authentication.2 ⟨hworded, hspelled⟩, rfl⟩
    | parameterStatus name value =>
        exact (Reader.decode_map_some_eq_ok Reader.parameterStatus_reads).2
          ⟨⟨name, value, rfl, hworded⟩, hspelled⟩
    | backendKeyData process secret =>
        exact (Reader.decode_map_some_eq_ok Reader.backendKeyData_reads).2
          ⟨⟨process, secret, rfl⟩, hspelled⟩
    | readyForQuery status =>
        exact (Reader.decode_map_some_eq_ok Reader.readyForQuery_reads).2 ⟨⟨status, rfl⟩, hspelled⟩
    | parseComplete | bindComplete | emptyQueryResponse => rfl
    | rowDescription fields =>
        exact (Reader.decode_map_some_eq_ok Reader.rowDescription_reads).2
          ⟨⟨fields, rfl, hworded⟩, hspelled⟩
    | dataRow row =>
        cases hspelled
        -- A value inside a payload whose length can be told has a length that can be told.
        rw [payload, List.length_append] at hshort
        exact (Reader.decode_map_some_eq_ok Reader.dataRow_reads).2
          ⟨⟨row, rfl, hworded, Reader.sized_of_length (Nat.lt_of_add_left_lt hshort)⟩, rfl⟩
    | commandComplete tag =>
        exact (Reader.decode_map_some_eq_ok Reader.commandComplete_reads).2
          ⟨⟨tag, rfl, hworded⟩, hspelled⟩
    | errorResponse report | noticeResponse report =>
        refine Reader.map_some_eq_ok.2 ⟨report, ?_, rfl⟩
        exact (Reader.decode_eq_ok_iff Reader.report_reads).2 ⟨hworded, hspelled⟩

theorem spelled_payload (m : BackendMessage) : m.Spelled m.payload := by
  cases m with
  | authentication a =>
      cases a with
      | other code => exact List.prefix_append ..
      | _ => rfl
  | parseComplete | bindComplete | emptyQueryResponse => trivial
  | _ => rfl

theorem Representable.decode_frame {limit : Nat} {m : BackendMessage} (h : m.Representable limit) :
    decode m.frame.tag m.frame.payload = .ok (some m) := by
  have hshort : m.payload.length < lengthBound := Nat.lt_of_add_right_lt h.legal.told
  exact (decode_eq_some_iff hshort).2 ⟨rfl, h.worded, m.spelled_payload⟩

theorem flatMap_encode_map_frame (ms : List BackendMessage) :
    (ms.map frame).flatMap Frame.encode = ms.flatMap encode := by
  rw [List.flatMap_map]
  rfl

theorem encode_dataRow_null_ne_empty (before after : Row) :
    (dataRow (before ++ none :: after)).encode ≠ (dataRow (before ++ some [] :: after)).encode := by
  intro hsame
  have hpayloads := congrArg Frame.payload (Frame.encode_inj.1 hsame)
  simp only [frame, payload, List.length_append, List.length_cons, List.flatMap_append,
    List.flatMap_cons, List.append_cancel_left_eq, List.append_cancel_right_eq] at hpayloads
  exact absurd hpayloads (by decide)

/-- What a server sends is read back, up to the message that has not arrived in full. -/
theorem parse_flatMap_encode (limit : Nat) (ms : List BackendMessage) (m : BackendMessage)
    (start : Bytes) (hsent : ∀ m ∈ ms, m.Representable limit) (hnext : m.Representable limit)
    (harrived : start <+: m.encode) (hmissing : start ≠ m.encode) :
    parse limit (ms.flatMap encode ++ start) = .ok ⟨ms, (ms.flatMap encode).length⟩ ∧
      ∀ before after : Row, (dataRow (before ++ none :: after)).encode ≠
        (dataRow (before ++ some [] :: after)).encode := by
  refine ⟨?_, encode_dataRow_null_ne_empty⟩
  obtain ⟨more, hsome, hwhole⟩ := Frame.exists_missing harrived hmissing
  have hwaits : Frame.split limit start = .ok none :=
    Frame.split_of_append_encode hnext.legal hwhole hsome
  have hframing := Framing.of_map (fun m hm => (hsent m hm).legal)
    (fun m hm => (hsent m hm).decode_frame) start
  simpa [parse, flatMap_encode_map_frame] using parseFrames_eq_ok hframing hwaits

theorem parse_row_and_start_of_ready :
    parse 64 ([dataRow [none, some [], some [55]], commandComplete "SELECT 1"].flatMap encode ++
        [90, 0, 0, 0, 5]) =
      .ok ⟨[dataRow [none, some [], some [55]], commandComplete "SELECT 1"], 34⟩ :=
  (parse_flatMap_encode 64 [dataRow [none, some [], some [55]], commandComplete "SELECT 1"]
    (readyForQuery .idle) [90, 0, 0, 0, 5] (by decide) (by decide) (by decide) (by decide)).1

end BackendMessage

end DatabaseGateway.Wire
