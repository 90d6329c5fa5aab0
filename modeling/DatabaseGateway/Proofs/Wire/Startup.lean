import DatabaseGateway.Wire.Startup
import DatabaseGateway.Proofs.Wire.Frontend

/-!
The first packet of a connection, and the hand-over to the messages behind it. The packet has no
tag, but the same is shown of it as of a frame: as long as its end is missing nothing is read, and
from then on it is read the same whatever follows, with the number of bytes it took. So the messages
start where they were written.
-/

namespace DatabaseGateway.Wire

namespace StartupPacket

/-- A parameter that can be told from the end of the list, and whose texts can be ended. -/
def Named (param : String × String) : Prop :=
  param.1 ≠ "" ∧ NulFree param.1 ∧ NulFree param.2

instance : DecidablePred Named := fun _ => inferInstanceAs (Decidable (_ ∧ _ ∧ _))

theorem putParams_cons (key value : String) (params : List (String × String)) :
    putParams ((key, value) :: params) = putText key ++ (putText value ++ putParams params) := by
  simp [putParams]

theorem putText_length_pos (s : String) : 0 < (putText s).length := by
  simp [putText]

/-- The fuel is no bound, as long as there is as much of it as there are bytes. -/
theorem readParams_eq_ok {fuel : Nat} {c c' : Cursor} {params : List (String × String)}
    (henough : c.rest.length ≤ fuel) :
    readParams fuel c = .ok (params, c') ↔
      (∀ param ∈ params, Named param) ∧ c.Passes (putParams params) c' := by
  induction fuel generalizing c params with
  | zero =>
      simp only [readParams, Reader.bind_eq_ok, Reader.text_reads.iff]
      constructor
      · rintro ⟨s, c₁, ⟨-, hpasses⟩, -⟩
        have := hpasses.length_rest
        have := putText_length_pos s
        omega
      · rintro ⟨-, hpasses⟩
        have := hpasses.length_rest
        simp only [putParams, List.length_append, List.length_singleton] at this
        omega
  | succ fuel ih =>
      simp only [readParams, Reader.bind_eq_ok, Reader.text_reads.iff]
      constructor
      · rintro ⟨key, c₁, ⟨hfree, hpasses⟩, h⟩
        split at h
        · rename_i hlast
          rw [Reader.pure_eq_ok] at h
          obtain ⟨rfl, rfl⟩ := h
          rw [hlast] at hpasses
          exact ⟨by simp, hpasses⟩
        · rename_i hsome
          simp only [Reader.bind_eq_ok, Reader.text_reads.iff, Reader.pure_eq_ok] at h
          obtain ⟨value, c₂, ⟨hfree', hpasses'⟩, others, c₃, h, rfl, rfl⟩ := h
          -- The end of the key takes a byte, so that less fuel is enough for the others.
          have hfewer : c₂.rest.length ≤ fuel := by
            have := hpasses.length_rest
            have := hpasses'.length_rest
            have := putText_length_pos key
            omega
          obtain ⟨hgood, hpasses''⟩ := (ih hfewer).1 h
          refine ⟨List.forall_mem_cons.2 ⟨⟨hsome, hfree, hfree'⟩, hgood⟩, ?_⟩
          rw [putParams_cons, Cursor.passes_append]
          exact ⟨c₁, hpasses, Cursor.passes_append.2 ⟨c₂, hpasses', hpasses''⟩⟩
      · rintro ⟨hgood, hpasses⟩
        cases params with
        | nil => exact ⟨"", c', ⟨by decide, hpasses⟩, by simp⟩
        | cons param params =>
            obtain ⟨key, value⟩ := param
            obtain ⟨⟨hsome, hfree, hfree'⟩, hgood⟩ := List.forall_mem_cons.1 hgood
            rw [putParams_cons, Cursor.passes_append] at hpasses
            obtain ⟨c₁, hpasses, hpasses'⟩ := hpasses
            obtain ⟨c₂, hpasses', hpasses''⟩ := Cursor.passes_append.1 hpasses'
            have hfewer : c₂.rest.length ≤ fuel := by
              have := hpasses.length_rest
              have := hpasses'.length_rest
              have := putText_length_pos key
              omega
            refine ⟨key, c₁, ⟨hfree, hpasses⟩, ?_⟩
            rw [if_neg hsome]
            simp only [Reader.bind_eq_ok, Reader.text_reads.iff, Reader.pure_eq_ok]
            exact ⟨value, c₂, ⟨hfree', hpasses'⟩, params, c', (ih hfewer).2 ⟨hgood, hpasses''⟩, rfl,
              rfl⟩

def body : StartupPacket → Bytes
  | startup version params => putInt32 version ++ putParams params
  | sslRequest => putInt32 sslRequestCode

def Worded : StartupPacket → Prop
  | startup version params => version = protocolVersion ∧ ∀ param ∈ params, Named param
  | sslRequest => True

theorem reader_reads : Reader.ReadsAll reader body Worded := by
  intro c packet c'
  simp only [reader, Reader.bind_eq_ok, Reader.int32_reads.iff, true_and]
  constructor
  · rintro ⟨version, c₁, hpasses, h⟩
    split at h
    · rename_i hssl
      obtain ⟨hdone, rfl, rfl⟩ := Reader.finish_pure_eq_ok.1 h
      rw [hssl] at hpasses
      exact ⟨trivial, hpasses, hdone⟩
    · split at h
      · simp at h
      · rename_i hknown
        simp only [Reader.bind_eq_ok, Reader.get_eq_ok, Reader.finish_eq_ok,
          Reader.pure_eq_ok] at h
        obtain ⟨_, _, ⟨rfl, rfl⟩, params, c₂, h, _, _, ⟨hdone, rfl⟩, rfl, rfl⟩ := h
        obtain ⟨hgood, hpasses'⟩ := (readParams_eq_ok (Nat.le_refl _)).1 h
        refine ⟨⟨Decidable.of_not_not hknown, hgood⟩, ?_, hdone⟩
        exact Cursor.passes_append.2 ⟨_, hpasses, hpasses'⟩
  · rintro ⟨hworded, hpasses, hdone⟩
    cases packet with
    | sslRequest =>
        exact ⟨sslRequestCode, c', hpasses, Reader.finish_pure_eq_ok.2 ⟨hdone, rfl, rfl⟩⟩
    | startup version params =>
        obtain ⟨rfl, hgood⟩ := hworded
        obtain ⟨c₁, hpasses, hpasses'⟩ := Cursor.passes_append.1 hpasses
        refine ⟨protocolVersion, c₁, hpasses, ?_⟩
        rw [if_neg (by decide), if_neg (by decide)]
        simp only [Reader.bind_eq_ok, Reader.get_eq_ok, Reader.finish_eq_ok, Reader.pure_eq_ok]
        exact ⟨c₁, c₁, ⟨rfl, rfl⟩, params, c',
          (readParams_eq_ok (Nat.le_refl _)).2 ⟨hgood, hpasses'⟩, (), c', ⟨hdone, rfl⟩, rfl, rfl⟩

@[simp] theorem length_measured (bytes : Bytes) : (measured bytes).length = bytes.length + 4 := by
  simp [measured, Nat.add_comm]

theorem four_le_length_body (p : StartupPacket) : 4 ≤ p.body.length := by
  cases p <;> simp [body, putInt32]

/-- A packet is waited for behind a length field that is in range, and read once it is all there. -/
theorem decode_be_append {n : Nat} (henough : 4 ≤ n) (hwithin : n ≤ defaultMaxFrameSize)
    (rest : Bytes) :
    decode (Bytes.be 4 (n + 4) ++ rest) =
      if rest.length < n then .ok none
      else (Reader.decode "StartupMessage" reader (rest.take n)).map fun p => some (p, n + 4) := by
  have htold : n + 4 < lengthBound :=
    Nat.lt_of_le_of_lt (Nat.add_le_add_right hwithin 4) (by decide)
  obtain ⟨a, b, c, d, hword⟩ := Frame.be_four (n + 4)
  have hlength := Frame.lengthOf_eq_iff.2 ⟨htold, hword.symm⟩
  rw [Frame.lengthOf] at hlength
  have hsome_there : (rest.take n).length < n ↔ rest.length < n := by
    rw [List.length_take]
    omega
  simp only [hword, List.cons_append, List.nil_append, decode, hlength, Int.toNat_natCast,
    Nat.add_sub_cancel, hsome_there]
  rw [if_neg (by omega), if_neg (by omega)]
  split
  · rfl
  · cases Reader.decode "StartupMessage" reader (rest.take n) <;> rfl

theorem decode_measured_append {p : StartupPacket} (hworded : p.Worded)
    (hwithin : p.body.length ≤ defaultMaxFrameSize) (more : Bytes) :
    decode (measured p.body ++ more) = .ok (some (p, (measured p.body).length)) := by
  have hread : Reader.decode "StartupMessage" reader p.body = .ok p :=
    (Reader.decode_eq_ok_iff reader_reads).2 ⟨hworded, rfl⟩
  rw [length_measured, measured, List.append_assoc,
    decode_be_append p.four_le_length_body hwithin, if_neg (by simp), List.take_left, hread]
  rfl

theorem worded_of_decode {buffer : Bytes} {p : StartupPacket} {used : Nat}
    (h : decode buffer = .ok (some (p, used))) :
    p.Worded ∧ p.body.length ≤ defaultMaxFrameSize := by
  revert h
  fun_cases decode buffer with
  | case5 a b c d rest length henough body hwithin payload hcomplete packet hread =>
      intro h
      cases h
      obtain ⟨hworded, hspelled⟩ := (Reader.decode_eq_ok_iff reader_reads).1 hread
      refine ⟨hworded, ?_⟩
      rw [← hspelled]
      exact Nat.le_trans (List.length_take_le ..) (Nat.not_lt.1 hwithin)
  | _ => simp

/-- The startup of a session is read back exactly if its parameters can be told apart, and it is not
too large. -/
theorem decode_encodeParams_iff {params : List (String × String)} :
    decode (encodeParams params) =
        .ok (some (.startup protocolVersion params, (encodeParams params).length)) ↔
      (∀ param ∈ params, Named param) ∧ (encodeParams params).length ≤ defaultMaxFrameSize + 4 := by
  have hsize : (encodeParams params).length = (startup protocolVersion params).body.length + 4 :=
    length_measured _
  constructor
  · intro hread
    obtain ⟨⟨-, hnamed⟩, hwithin⟩ := worded_of_decode hread
    exact ⟨hnamed, by omega⟩
  · rintro ⟨hnamed, hwithin⟩
    have hworded : (startup protocolVersion params).Worded := ⟨rfl, hnamed⟩
    have hread := decode_measured_append hworded (by omega) []
    rwa [List.append_nil] at hread

/-- A packet of which the end is missing waits. -/
theorem decode_of_append_measured {p : StartupPacket} {start more : Bytes}
    (hwithin : p.body.length ≤ defaultMaxFrameSize) (hwhole : start ++ more = measured p.body)
    (hmissing : more ≠ []) : decode start = .ok none := by
  -- Without the whole length field nothing is known; with it, how much is missing.
  match start with
  | [] | [_] | [_, _] | [_, _, _] => rfl
  | a :: b :: c :: d :: rest =>
      change [a, b, c, d] ++ (rest ++ more) = Bytes.be 4 (p.body.length + 4) ++ p.body at hwhole
      obtain ⟨hfield, hbody⟩ := List.append_inj hwhole (by simp)
      have hfewer : rest.length < p.body.length := by
        have := List.length_pos_iff.2 hmissing
        rw [← hbody, List.length_append]
        omega
      change decode ([a, b, c, d] ++ rest) = .ok none
      rw [hfield, decode_be_append p.four_le_length_body hwithin, if_pos hfewer]

/-- A server that reads a client's stream finds the parameters of the session and then, from where
the first packet ends, the client's messages. -/
theorem client_stream_read_back (params : List (String × String)) (ms : List FrontendMessage)
    (hnamed : ∀ param ∈ params, Named param)
    (hwithin : (encodeParams params).length ≤ defaultMaxFrameSize + 4)
    (hsent : ∀ m ∈ ms, m.Representable) :
    let stream := encodeParams params ++ FrontendMessage.encodeAll ms
    let used := (encodeParams params).length
    decode stream = .ok (some (.startup protocolVersion params, used)) ∧
      FrontendMessage.parseAll (stream.drop used) =
        .ok ⟨ms, (FrontendMessage.encodeAll ms).length⟩ ∧
      (∀ start, start <+: encodeParams params → start ≠ encodeParams params →
        decode start = .ok none) ∧
      (∀ more, decode (encodeParams params ++ more) =
        .ok (some (.startup protocolVersion params, used))) ∧
      ∀ more, decode (encodeSslRequest ++ more) = .ok (some (.sslRequest, 8)) := by
  intro stream used
  have hfits : (startup protocolVersion params).body.length ≤ defaultMaxFrameSize := by
    rw [encodeParams, length_measured] at hwithin
    exact Nat.le_of_add_le_add_right hwithin
  have hread (more : Bytes) : decode (encodeParams params ++ more) =
      .ok (some (.startup protocolVersion params, used)) :=
    decode_measured_append (p := .startup protocolVersion params) ⟨rfl, hnamed⟩ hfits more
  refine ⟨hread _, ?_, ?_, hread, ?_⟩
  · rw [List.drop_left]
    exact FrontendMessage.parseAll_encodeAll hsent
  · intro start harrived hmissing
    obtain ⟨more, hsome, hwhole⟩ := Frame.exists_missing harrived hmissing
    exact decode_of_append_measured hfits hwhole hsome
  · exact decode_measured_append (p := .sslRequest) trivial (by decide)

theorem login_and_query_read_back :
    let stream := encodeParams [("user", "ann"), ("database", "books")] ++
      FrontendMessage.encodeAll [.query "SELECT 1", .describe 80 "", .terminate]
    decode stream =
        .ok (some (.startup protocolVersion [("user", "ann"), ("database", "books")], 33)) ∧
      FrontendMessage.parseAll (stream.drop 33) =
        .ok ⟨[.query "SELECT 1", .describe 80 "", .terminate], 26⟩ ∧
      decode (stream.take 32) = .ok none := by
  have hread := client_stream_read_back [("user", "ann"), ("database", "books")]
    [.query "SELECT 1", .describe 80 "", .terminate] (by decide) (by decide) (by decide)
  exact ⟨hread.1, hread.2.1, hread.2.2.1 _ ⟨[0], by decide⟩ (by decide)⟩

end StartupPacket

end DatabaseGateway.Wire
