import Mathlib.Tactic.MkIffOfInductiveProp
import DatabaseGateway.Wire.Frame
import DatabaseGateway.Proofs.Wire.Fields

/-!
A buffer is a row of complete frames and a rest. What is said of it here is said by cutting it:
`Framing` has the frames that were cut off the front, the messages they carry, and what is left, so
that cuts compose (`Framing.trans`) and stay where they are when more bytes arrive
(`Framing.extend`). Reading a buffer at once and taking messages out of it one by one are both
described by such cuts, and by the two ways in which the rest can stop a reader: its first frame is
not all there, or it is refused.
-/

namespace DatabaseGateway.Wire

namespace Frame

variable {limit : Nat} {buffer more rest : Bytes} {f : Frame}

def Told (f : Frame) : Prop := f.payload.length + 4 < lengthBound

instance : DecidablePred Told := fun _ => inferInstanceAs (Decidable (_ < _))

/-- A frame whose body is within the limit and whose length can be told. -/
@[mk_iff]
structure Legal (limit : Nat) (f : Frame) : Prop where
  within : f.payload.length ≤ limit
  told : f.Told

instance : Decidable (f.Legal limit) :=
  decidable_of_iff _ (legal_iff limit f).symm

/-- Under a limit that a length field can tell, the limit is all that counts. -/
theorem Legal.of_le (h : f.payload.length ≤ limit) (htold : limit + 4 < lengthBound) :
    f.Legal limit :=
  ⟨h, Nat.lt_of_le_of_lt (Nat.add_le_add_right h 4) htold⟩

@[simp] theorem length_encode (f : Frame) : f.encode.length = f.size := by
  simp [encode, size, headerLength]
  omega

theorem encode_inj {f g : Frame} : f.encode = g.encode ↔ f = g := by
  refine ⟨fun hsame => ?_, congrArg encode⟩
  obtain ⟨htag, hrest⟩ := List.cons.inj hsame
  obtain ⟨-, hpayload⟩ := List.append_inj hrest (by simp)
  cases f
  cases g
  simp_all

theorem be_four (n : Nat) : ∃ a b c d, Bytes.be 4 n = [a, b, c, d] := ⟨_, _, _, _, rfl⟩

theorem lengthOf_eq (a b c d : UInt8) :
    lengthOf a b c d =
      if Bytes.beValue [a, b, c, d] < lengthBound then (Bytes.beValue [a, b, c, d] : Int)
      else (Bytes.beValue [a, b, c, d] : Int) - Bytes.capacity 4 := by
  have hsmall : Bytes.beValue [a, b, c, d] < Bytes.capacity 4 := Bytes.beValue_lt [a, b, c, d]
  have hword : (UInt32.ofNat (Bytes.beValue [a, b, c, d])).toNat = Bytes.beValue [a, b, c, d] := by
    rw [UInt32.toNat_ofNat', Nat.mod_eq_of_lt]
    exact hsmall
  rw [lengthOf, toInt_int32, UInt32.toUInt32_toInt32, hword]
  rfl

theorem lengthOf_eq_iff {a b c d : UInt8} {n : Nat} :
    lengthOf a b c d = n ↔ n < lengthBound ∧ [a, b, c, d] = Bytes.be 4 n := by
  have hsmall : Bytes.beValue [a, b, c, d] < Bytes.capacity 4 := Bytes.beValue_lt [a, b, c, d]
  have hfour : Bytes.capacity 4 = 0x100000000 := rfl
  have hlength : [a, b, c, d].length = 4 := rfl
  rw [lengthOf_eq, Bytes.eq_be_iff, hlength, hfour, lengthBound]
  simp only [true_and]
  split <;> omega

/-- Exactly the legal frames are taken off a buffer. -/
theorem split_eq_some_iff :
    split limit buffer = .ok (some (f, rest)) ↔ f.Legal limit ∧ buffer = f.encode ++ rest := by
  constructor
  · fun_cases split limit buffer with
    | case1 | case2 | case3 | case5 => simp
    | case4 tag a b c d bytes length hpositive body hwithin payload hcomplete =>
        intro h
        cases h
        -- The length is not negative, so that its four bytes are those of its number.
        obtain ⟨n, hnumber⟩ := Int.eq_ofNat_of_zero_le (show 0 ≤ length by omega)
        obtain ⟨htold, hword⟩ := lengthOf_eq_iff.1 hnumber
        have hall : payload.length + 4 = n := by
          have : payload.length ≤ body := List.length_take_le ..
          omega
        refine ⟨⟨?_, ?_⟩, ?_⟩
        · change payload.length ≤ limit
          omega
        · change payload.length + 4 < lengthBound
          rwa [hall]
        · change _ = tag :: (Bytes.be 4 (payload.length + 4) ++ payload) ++ bytes.drop body
          rw [hall, ← hword]
          simp [payload]
  · rintro ⟨⟨hwithin, htold⟩, rfl⟩
    obtain ⟨a, b, c, d, hword⟩ := be_four (f.payload.length + 4)
    have hlength := lengthOf_eq_iff.2 ⟨htold, hword.symm⟩
    simp only [encode, hword, List.cons_append, List.nil_append, split, hlength, Int.toNat_natCast,
      Nat.add_sub_cancel, List.take_left, List.drop_left]
    rw [if_neg (by omega), if_neg (by omega), if_neg (by simp)]

theorem split_encode_append (hlegal : f.Legal limit) :
    split limit (f.encode ++ rest) = .ok (some (f, rest)) :=
  split_eq_some_iff.2 ⟨hlegal, rfl⟩

theorem split_flatMap_encode {fs : List Frame} (hlegal : f.Legal limit) :
    split limit ((f :: fs).flatMap encode ++ rest) =
      .ok (some (f, fs.flatMap encode ++ rest)) :=
  split_eq_some_iff.2 ⟨hlegal, by simp⟩

/-- A header that is refused is refused whatever follows. -/
theorem split_append_of_error {e : WireError} (h : split limit buffer = .error e) :
    split limit (buffer ++ more) = .error e := by
  revert h
  fun_cases split limit buffer with
  | case1 tag a b c d bytes length hnegative =>
      intro h
      rw [← h]
      exact if_pos hnegative
  | case2 tag a b c d bytes length hpositive body hlarge =>
      intro h
      rw [← h]
      exact (if_neg hpositive).trans (if_pos hlarge)
  | case3 | case4 | case5 => simp

/-- What is not refused under a limit is not refused under a higher one. -/
theorem split_mono {limit' : Nat} {found : Option (Frame × Bytes)} (hlower : limit ≤ limit')
    (h : split limit buffer = .ok found) : split limit' buffer = .ok found := by
  revert h
  fun_cases split limit buffer with
  | case1 | case2 => simp
  | case3 tag a b c d bytes length hpositive body hwithin payload hshort =>
      intro h
      rw [← h]
      exact (if_neg hpositive).trans ((if_neg (by omega)).trans (if_pos hshort))
  | case4 tag a b c d bytes length hpositive body hwithin payload hcomplete =>
      intro h
      rw [← h]
      exact (if_neg hpositive).trans ((if_neg (by omega)).trans (if_neg hcomplete))
  | case5 buffer hshort =>
      intro h
      rw [← h, split]
      exact hshort

/-- A stream has one first frame, under whatever limit it is looked for. -/
theorem encode_append_inj {g : Frame} (htold : f.Told) (htold' : g.Told) :
    f.encode ++ rest = g.encode ++ more ↔ f = g ∧ rest = more := by
  constructor
  · intro hsame
    have hfirst : split (max f.payload.length g.payload.length) (f.encode ++ rest) =
        .ok (some (f, rest)) :=
      split_encode_append ⟨Nat.le_max_left .., htold⟩
    rw [hsame, split_encode_append ⟨Nat.le_max_right .., htold'⟩] at hfirst
    cases hfirst
    exact ⟨rfl, rfl⟩
  · rintro ⟨rfl, rfl⟩
    rfl

/-- Of two rows of frames at the front of a stream, one goes on where the other ends. -/
theorem flatMap_encode_append_eq {fs gs : List Frame} (htold : ∀ f ∈ fs, f.Told)
    (htold' : ∀ g ∈ gs, g.Told) (hsame : fs.flatMap encode ++ rest = gs.flatMap encode ++ more) :
    (∃ gs', gs = fs ++ gs' ∧ rest = gs'.flatMap encode ++ more) ∨
      ∃ fs', fs = gs ++ fs' ∧ more = fs'.flatMap encode ++ rest := by
  induction fs generalizing gs with
  | nil => exact .inl ⟨gs, rfl, hsame⟩
  | cons f fs ih =>
      cases gs with
      | nil => exact .inr ⟨f :: fs, rfl, hsame.symm⟩
      | cons g gs =>
          obtain ⟨hfirst, hothers⟩ := List.forall_mem_cons.1 htold
          obtain ⟨hfirst', hothers'⟩ := List.forall_mem_cons.1 htold'
          rw [List.flatMap_cons, List.flatMap_cons, List.append_assoc, List.append_assoc] at hsame
          obtain ⟨rfl, hbehind⟩ := (encode_append_inj hfirst hfirst').1 hsame
          obtain ⟨gs', rfl, hrest'⟩ | ⟨fs', rfl, hmore'⟩ := ih hothers hothers' hbehind
          · exact .inl ⟨gs', rfl, hrest'⟩
          · exact .inr ⟨fs', rfl, hmore'⟩

theorem exists_behind {fs gs : List Frame} (htold : ∀ f ∈ fs, f.Told) (htold' : ∀ g ∈ gs, g.Told)
    (hsame : fs.flatMap encode = gs.flatMap encode ++ rest) :
    ∃ behind, fs = gs ++ behind ∧ rest = behind.flatMap encode := by
  rw [← List.append_nil (fs.flatMap encode)] at hsame
  obtain ⟨lack, rfl, hnothing⟩ | ⟨behind, rfl, rfl⟩ := flatMap_encode_append_eq htold htold' hsame
  · obtain ⟨hshort, rfl⟩ := List.append_eq_nil_iff.1 hnothing.symm
    cases lack with
    | nil => exact ⟨[], by simp, rfl⟩
    | cons f lack => cases List.flatMap_eq_nil_iff.1 hshort f (List.mem_cons_self ..)
  · exact ⟨behind, rfl, List.append_nil _⟩

/-- A complete frame is taken whatever follows. -/
theorem split_append_of_some (h : split limit buffer = .ok (some (f, rest))) :
    split limit (buffer ++ more) = .ok (some (f, rest ++ more)) := by
  obtain ⟨hlegal, rfl⟩ := split_eq_some_iff.1 h
  exact split_eq_some_iff.2 ⟨hlegal, List.append_assoc ..⟩

theorem exists_missing {whole : Bytes} (harrived : buffer <+: whole) (hproper : buffer ≠ whole) :
    ∃ more, more ≠ [] ∧ buffer ++ more = whole := by
  obtain ⟨more, rfl⟩ := harrived
  exact ⟨more, fun hnone => hproper (by simp [hnone]), rfl⟩

theorem split_of_append_encode (hlegal : f.Legal limit) (h : buffer ++ more = f.encode)
    (hmissing : more ≠ []) : split limit buffer = .ok none := by
  have hwhole : split limit (buffer ++ more) = .ok (some (f, [])) :=
    split_eq_some_iff.2 ⟨hlegal, by simpa using h⟩
  match hresult : split limit buffer with
  | .ok none => rfl
  | .error e => cases hwhole.symm.trans (split_append_of_error hresult)
  | .ok (some (g, rest)) =>
      have hsame := hwhole.symm.trans (split_append_of_some hresult)
      simp only [Except.ok.injEq, Option.some.injEq, Prod.mk.injEq] at hsame
      exact absurd (List.append_eq_nil_iff.1 hsame.2.symm).2 hmissing

def frames (limit : Nat) (buffer : Bytes) : List Frame :=
  match h : split limit buffer with
  | .ok (some (f, rest)) =>
    have := length_lt_of_split h
    f :: frames limit rest
  | _ => []
termination_by buffer.length

end Frame

section Framing

variable {α : Type} {decode : UInt8 → Bytes → Except WireError (Option α)} {limit : Nat}
  {buffer more rest rest' : Bytes} {f : Frame} {fs gs : List Frame} {m : Option α} {ms ns : List α}
  {e : WireError}

/-- The messages that frames carry, in their order. A frame that is passed over carries none. -/
inductive Conveys (decode : UInt8 → Bytes → Except WireError (Option α)) :
    List Frame → List α → Prop
  | nil : Conveys decode [] []
  | cons {f : Frame} {fs : List Frame} {m : Option α} {ms : List α}
      (here : decode f.tag f.payload = .ok m) (others : Conveys decode fs ms) :
      Conveys decode (f :: fs) (m.toList ++ ms)

theorem Conveys.append (h : Conveys decode fs ms) (h' : Conveys decode gs ns) :
    Conveys decode (fs ++ gs) (ms ++ ns) := by
  induction h with
  | nil => exact h'
  | cons hhere _ ih =>
      rw [List.append_assoc]
      exact .cons hhere ih

theorem Conveys.exists_frame {a : α} (h : Conveys decode fs ms) (hmem : a ∈ ms) :
    ∃ f ∈ fs, decode f.tag f.payload = .ok (some a) := by
  induction h with
  | nil => cases hmem
  | @cons f fs m ms hhere hothers ih =>
      obtain hfirst | hbehind := List.mem_append.1 hmem
      · obtain rfl := Option.mem_toList.1 hfirst
        exact ⟨f, List.mem_cons_self .., hhere⟩
      · obtain ⟨g, hamong, hread⟩ := ih hbehind
        exact ⟨g, List.mem_cons_of_mem f hamong, hread⟩

/-- Frames cut off the front of a buffer, what they carry, and the rest. -/
structure Framing (decode : UInt8 → Bytes → Except WireError (Option α)) (limit : Nat)
    (buffer : Bytes) (fs : List Frame) (ms : List α) (rest : Bytes) : Prop where
  bytes : buffer = fs.flatMap Frame.encode ++ rest
  legal : ∀ f ∈ fs, f.Legal limit
  conveys : Conveys decode fs ms

/-- The first frame is refused: by its header, or by its payload once it is all there. -/
def Refused (decode : UInt8 → Bytes → Except WireError (Option α)) (limit : Nat) (buffer : Bytes)
    (e : WireError) : Prop :=
  Frame.split limit buffer = .error e ∨
    ∃ f rest, Frame.split limit buffer = .ok (some (f, rest)) ∧
      decode f.tag f.payload = .error e

theorem Framing.refl : Framing decode limit buffer [] [] buffer :=
  ⟨rfl, by simp, .nil⟩

/-- Messages that were framed one after the other are cut off again. -/
theorem Framing.of_map {frame : α → Frame} (hlegal : ∀ a ∈ ms, (frame a).Legal limit)
    (hread : ∀ a ∈ ms, decode (frame a).tag (frame a).payload = .ok (some a)) (rest : Bytes) :
    Framing decode limit ((ms.map frame).flatMap Frame.encode ++ rest) (ms.map frame) ms rest where
  bytes := rfl
  legal := by simpa using hlegal
  conveys := by
    induction ms with
    | nil => exact .nil
    | cons a as ih =>
        simp only [List.mem_cons, forall_eq_or_imp] at hlegal hread
        exact .cons hread.1 (ih hlegal.2 hread.2)

theorem Framing.head (h : Frame.split limit buffer = .ok (some (f, rest)))
    (hd : decode f.tag f.payload = .ok m) : Framing decode limit buffer [f] m.toList rest := by
  obtain ⟨hlegal, rfl⟩ := Frame.split_eq_some_iff.1 h
  exact ⟨by simp, by simpa using hlegal, by simpa using Conveys.cons hd .nil⟩

theorem Framing.trans (h : Framing decode limit buffer fs ms rest)
    (h' : Framing decode limit rest gs ns rest') :
    Framing decode limit buffer (fs ++ gs) (ms ++ ns) rest' := by
  refine ⟨?_, ?_, h.conveys.append h'.conveys⟩
  · rw [h.bytes, h'.bytes, List.flatMap_append, List.append_assoc]
  · intro f hf
    exact (List.mem_append.1 hf).elim (h.legal f) (h'.legal f)

theorem Framing.extend (h : Framing decode limit buffer fs ms rest) (more : Bytes) :
    Framing decode limit (buffer ++ more) fs ms (rest ++ more) :=
  ⟨by rw [h.bytes, List.append_assoc], h.legal, h.conveys⟩

theorem Refused.extend (h : Refused decode limit buffer e) (more : Bytes) :
    Refused decode limit (buffer ++ more) e := by
  obtain h | ⟨f, rest, h, hd⟩ := h
  · exact .inl (Frame.split_append_of_error h)
  · exact .inr ⟨f, _, Frame.split_append_of_some h, hd⟩

/-- A cut begins at the first frame of the buffer, or cuts nothing off. -/
theorem Framing.uncons (h : Framing decode limit buffer fs ms rest) :
    (fs = [] ∧ ms = [] ∧ rest = buffer) ∨
      ∃ f behind m gs ns, fs = f :: gs ∧ ms = m.toList ++ ns ∧
        Frame.split limit buffer = .ok (some (f, behind)) ∧ decode f.tag f.payload = .ok m ∧
        Framing decode limit behind gs ns rest := by
  obtain ⟨rfl, hlegal, hconveys⟩ := h
  cases hconveys with
  | nil => exact .inl ⟨rfl, rfl, rfl⟩
  | @cons f gs m ns hhere hothers =>
      obtain ⟨hfirst, hbehind⟩ := List.forall_mem_cons.1 hlegal
      exact .inr ⟨f, _, m, gs, ns, rfl, rfl, Frame.split_flatMap_encode hfirst, hhere,
        rfl, hbehind, hothers⟩

/-- Of two cuts of a buffer, one goes on where the other ends. -/
theorem Framing.compare (h : Framing decode limit buffer fs ms rest)
    (h' : Framing decode limit buffer gs ns rest') :
    (∃ more later, ns = ms ++ later ∧ Framing decode limit rest more later rest') ∨
      ∃ more later, ms = ns ++ later ∧ Framing decode limit rest' more later rest := by
  induction fs generalizing buffer ms gs ns with
  | nil =>
      obtain ⟨-, rfl, rfl⟩ | ⟨_, _, _, _, _, hnone, -⟩ := h.uncons
      · exact .inl ⟨gs, ns, rfl, h'⟩
      · cases hnone
  | cons f fs ih =>
      obtain ⟨hnone, -⟩ | ⟨f, behind, m, fs', ms', hsame, rfl, hsplit, hread, hlater⟩ := h.uncons
      · cases hnone
      · cases hsame
        obtain ⟨-, rfl, rfl⟩ | ⟨g, behind', m', gs', ns', -, rfl, hsplit', hread', hlater'⟩ :=
          h'.uncons
        · exact .inr ⟨_, _, rfl, h⟩
        · cases hsplit.symm.trans hsplit'
          cases hread.symm.trans hread'
          obtain ⟨more, ns, rfl, hframing⟩ | ⟨more, ms, rfl, hframing⟩ := ih hlater hlater'
          · exact .inl ⟨more, ns, (List.append_assoc ..).symm, hframing⟩
          · exact .inr ⟨more, ms, (List.append_assoc ..).symm, hframing⟩

/-- A buffer is refused for one reason. -/
theorem Refused.unique {e' : WireError} (h : Refused decode limit buffer e)
    (h' : Refused decode limit buffer e') : e = e' := by
  obtain hsplit | ⟨f, rest, hsplit, hread⟩ := h <;>
    obtain hsplit' | ⟨f', rest', hsplit', hread'⟩ := h' <;> cases hsplit.symm.trans hsplit'
  · rfl
  · cases hread.symm.trans hread'
    rfl

/-- Every buffer is cut until its rest stops the reader. -/
theorem exists_framing (decode : UInt8 → Bytes → Except WireError (Option α)) (limit : Nat)
    (buffer : Bytes) :
    ∃ fs ms rest, Framing decode limit buffer fs ms rest ∧
      (Frame.split limit rest = .ok none ∨ ∃ e, Refused decode limit rest e) := by
  induction h : buffer.length using Nat.strongRecOn generalizing buffer with
  | ind n ih =>
      match hs : Frame.split limit buffer with
      | .error e => exact ⟨[], [], buffer, .refl, .inr ⟨e, .inl hs⟩⟩
      | .ok none => exact ⟨[], [], buffer, .refl, .inl hs⟩
      | .ok (some (f, rest)) =>
          match hd : decode f.tag f.payload with
          | .error e => exact ⟨[], [], buffer, .refl, .inr ⟨e, .inr ⟨f, rest, hs, hd⟩⟩⟩
          | .ok m =>
              have hshorter := h ▸ Frame.length_lt_of_split hs
              obtain ⟨fs, ms, rest', hframing, hstop⟩ := ih _ hshorter rest rfl
              exact ⟨_, _, rest', (Framing.head hs hd).trans hframing, hstop⟩

/-! ### All messages at once -/

theorem parseFrames_of_split_none (h : Frame.split limit buffer = .ok none) :
    parseFrames decode limit buffer = .ok ⟨[], 0⟩ := by
  rw [parseFrames]
  split <;> simp_all

theorem parseFrames_of_refused (h : Refused decode limit buffer e) :
    parseFrames decode limit buffer = .error e := by
  rw [parseFrames]
  obtain h | ⟨f, rest, h, hd⟩ := h
  · split <;> simp_all
  · split <;> simp_all

theorem parseFrames_of_split_some (h : Frame.split limit buffer = .ok (some (f, rest)))
    (hd : decode f.tag f.payload = .ok m) :
    parseFrames decode limit buffer = (parseFrames decode limit rest).map
      fun p => ⟨m.toList ++ p.messages, f.size + p.consumed⟩ := by
  rw [parseFrames]
  split
  · simp_all
  · simp_all
  · rename_i f' rest' h'
    rw [h'] at h
    cases h
    simp only [hd]
    cases parseFrames decode limit rest <;> rfl

/-- What is cut off the front is read, and then the rest. -/
theorem parseFrames_of_framing (h : Framing decode limit buffer fs ms rest) :
    parseFrames decode limit buffer = (parseFrames decode limit rest).map
      fun p => ⟨ms ++ p.messages, (fs.flatMap Frame.encode).length + p.consumed⟩ := by
  obtain ⟨rfl, hlegal, hconveys⟩ := h
  induction hconveys with
  | nil =>
      rw [List.flatMap_nil, List.nil_append]
      cases parseFrames decode limit rest <;> simp [Except.map]
  | @cons f fs m ms hhere hothers ih =>
      simp only [List.mem_cons, forall_eq_or_imp] at hlegal
      rw [parseFrames_of_split_some (Frame.split_flatMap_encode hlegal.1) hhere, ih hlegal.2]
      cases parseFrames decode limit rest <;> simp [Except.map, Nat.add_assoc]

theorem parseFrames_eq_ok (h : Framing decode limit buffer fs ms rest)
    (hstop : Frame.split limit rest = .ok none) :
    parseFrames decode limit buffer = .ok ⟨ms, (fs.flatMap Frame.encode).length⟩ := by
  rw [parseFrames_of_framing h, parseFrames_of_split_none hstop]
  simp [Except.map]

theorem parseFrames_eq_error (h : Framing decode limit buffer fs ms rest)
    (hstop : Refused decode limit rest e) : parseFrames decode limit buffer = .error e := by
  rw [parseFrames_of_framing h, parseFrames_of_refused hstop]
  rfl

/-- An accepted buffer is cut into all its complete frames, and the rest waits. -/
theorem exists_framing_of_ok {p : Parsed α} (h : parseFrames decode limit buffer = .ok p) :
    ∃ fs rest, Framing decode limit buffer fs p.messages rest ∧
      Frame.split limit rest = .ok none ∧ p.consumed = (fs.flatMap Frame.encode).length := by
  obtain ⟨fs, ms, rest, hframing, hstop | ⟨e, hrefused⟩⟩ := exists_framing decode limit buffer
  · rw [parseFrames_eq_ok hframing hstop] at h
    cases h
    exact ⟨fs, rest, hframing, hstop, rfl⟩
  · rw [parseFrames_eq_error hframing hrefused] at h
    cases h

/-- The frames of a buffer are those that are cut off it until none is complete. -/
theorem Framing.frames_eq (h : Framing decode limit buffer fs ms rest) :
    Frame.frames limit buffer = fs ++ Frame.frames limit rest := by
  obtain ⟨rfl, hlegal, hconveys⟩ := h
  induction hconveys with
  | nil => simp
  | @cons f fs m ms hhere hothers ih =>
      simp only [List.mem_cons, forall_eq_or_imp] at hlegal
      rw [Frame.frames]
      split
      · rename_i g rest' h'
        rw [Frame.split_flatMap_encode hlegal.1] at h'
        cases h'
        rw [ih hlegal.2, List.cons_append]
      · rename_i hnone
        exact absurd (Frame.split_flatMap_encode hlegal.1) (hnone f _)

theorem Frame.frames_of_split_none (h : Frame.split limit buffer = .ok none) :
    Frame.frames limit buffer = [] := by
  rw [Frame.frames]
  split <;> simp_all

theorem Conveys.flatMap_encode {frame : α → Frame} (h : Conveys decode fs ms)
    (hfaithful : ∀ f ∈ fs, ∀ m, decode f.tag f.payload = .ok m → ∃ a, m = some a ∧ frame a = f) :
    ms.flatMap (fun a => (frame a).encode) = fs.flatMap Frame.encode := by
  induction h with
  | nil => rfl
  | @cons f fs m ms hhere hothers ih =>
      obtain ⟨hfirst, hbehind⟩ := List.forall_mem_cons.1 hfaithful
      obtain ⟨a, rfl, rfl⟩ := hfirst m hhere
      rw [Option.toList_some, List.singleton_append, List.flatMap_cons, List.flatMap_cons,
        ih hbehind]

/-- If every frame that is read is the one that its message is framed as, the messages give back the
bytes that were read. -/
theorem flatMap_encode_eq_take {frame : α → Frame} {p : Parsed α}
    (h : parseFrames decode limit buffer = .ok p)
    (hfaithful : ∀ f ∈ Frame.frames limit buffer, f.Legal limit → ∀ m,
      decode f.tag f.payload = .ok m → ∃ a, m = some a ∧ frame a = f) :
    p.messages.flatMap (fun a => (frame a).encode) = buffer.take p.consumed := by
  obtain ⟨fs, rest, hframing, hstop, hconsumed⟩ := exists_framing_of_ok h
  have hall : Frame.frames limit buffer = fs := by
    rw [hframing.frames_eq, Frame.frames_of_split_none hstop, List.append_nil]
  rw [hall] at hfaithful
  rw [hframing.conveys.flatMap_encode fun f hf => hfaithful f hf (hframing.legal f hf), hconsumed,
    hframing.bytes, List.take_left]

/-! ### One message after the other -/

/-- What a reader that takes one message finds, and what it leaves. -/
inductive Takes (decode : UInt8 → Bytes → Except WireError (Option α)) (limit : Nat)
    (buffer : Bytes) : Except WireError (Option α) × Bytes → Prop
  | message {fs : List Frame} {a : α} {rest : Bytes}
      (framing : Framing decode limit buffer fs [a] rest) :
      Takes decode limit buffer (.ok (some a), rest)
  | nothing {fs : List Frame} {rest : Bytes} (framing : Framing decode limit buffer fs [] rest)
      (stop : Frame.split limit rest = .ok none) : Takes decode limit buffer (.ok none, rest)
  | refusal {fs : List Frame} {e : WireError} {rest : Bytes}
      (framing : Framing decode limit buffer fs [] rest) (stop : Refused decode limit rest e) :
      Takes decode limit buffer (.error e, rest)

theorem Takes.behind (h : Framing decode limit buffer fs [] rest)
    {x : Except WireError (Option α) × Bytes} (h' : Takes decode limit rest x) :
    Takes decode limit buffer x := by
  cases h' with
  | message hframing => exact .message (h.trans hframing)
  | nothing hframing hstop => exact .nothing (h.trans hframing) hstop
  | refusal hframing hstop => exact .refusal (h.trans hframing) hstop

theorem takes_nextFrom (decode : UInt8 → Bytes → Except WireError (Option α)) (limit : Nat)
    (buffer : Bytes) : Takes decode limit buffer (Decoder.nextFrom decode limit buffer) := by
  fun_induction Decoder.nextFrom decode limit buffer with
  | case1 buffer e hs => exact .refusal .refl (.inl hs)
  | case2 buffer hs => exact .nothing .refl hs
  | case3 buffer f rest hs e hd => exact .refusal .refl (.inr ⟨f, rest, hs, hd⟩)
  | case4 buffer f rest hs a hd => exact .message (Framing.head hs hd)
  | case5 buffer f rest hs hd hshorter ih => exact .behind (Framing.head hs hd) ih

theorem nextFrom_of_refused (h : Refused decode limit buffer e) :
    Decoder.nextFrom decode limit buffer = (.error e, buffer) := by
  rw [Decoder.nextFrom]
  obtain h | ⟨f, rest, h, hd⟩ := h
  · split <;> simp_all
  · split <;> simp_all

end Framing

end DatabaseGateway.Wire
