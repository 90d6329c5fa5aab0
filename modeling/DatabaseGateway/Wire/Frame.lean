import DatabaseGateway.Wire.Cursor

/-!
Frames: a tag byte, a length that counts itself and the body, and the body. A buffer is taken apart
frame by frame; a frame that is not all there yet waits, and a length that is illegal or over the
limit is an error as soon as it can be seen.

A decoder does not look again for a frame before the bytes that it lacked have arrived, so that
bytes fed one at a time cost no more than bytes fed at once. `Decoder.next_of_sound` says that what
it gives depends on the bytes alone.
-/

namespace DatabaseGateway.Wire

structure Frame where
  tag : UInt8
  payload : Bytes
  deriving DecidableEq, Repr

/-- The bytes before the body of a frame: the tag and the length. -/
def headerLength : Nat := 5

/-- The largest body of a frame that is accepted unless the settings say otherwise: 64 MiB. -/
def defaultMaxFrameSize : Nat := 64 * 1024 * 1024

namespace Frame

def encode (f : Frame) : Bytes :=
  f.tag :: (Bytes.be 4 (f.payload.length + 4) ++ f.payload)

def size (f : Frame) : Nat := headerLength + f.payload.length

/-- The number that four bytes of a length field denote, with a sign. -/
def lengthOf (a b c d : UInt8) : Int :=
  (UInt32.ofNat (Bytes.beValue [a, b, c, d])).toInt32.toInt

/-- Takes the first frame off a buffer, if it is all there. -/
def split (limit : Nat) : Bytes → Except WireError (Option (Frame × Bytes))
  | tag :: a :: b :: c :: d :: rest =>
    let length := lengthOf a b c d
    if length < 4 then .error (.invalidLength tag length)
    else
      let body := length.toNat - 4
      if limit < body then .error (.frameTooLarge tag body limit)
      else
        let payload := rest.take body
        if payload.length < body then .ok none
        else .ok (some (⟨tag, payload⟩, rest.drop body))
  | _ => .ok none

/-- How many bytes must be added before more can be said of the first frame of a buffer: none if it
is all there or an error. -/
def missing (limit : Nat) : Bytes → Nat
  | _ :: a :: b :: c :: d :: rest =>
    let length := lengthOf a b c d
    if length < 4 then 0
    else
      let body := length.toNat - 4
      if limit < body then 0 else body - rest.length
  | bytes => headerLength - bytes.length

/-- As long as fewer bytes than those that are missing are added, there is no frame to take. -/
theorem split_append_of_lt {limit : Nat} {buffer more : Bytes}
    (h : more.length < missing limit buffer) : split limit (buffer ++ more) = .ok none := by
  unfold missing at h
  split at h
  · simp only [List.cons_append, split]
    grind
  · have hshort : (buffer ++ more).length < 5 := by
      simp only [List.length_append, headerLength] at h ⊢; omega
    match buffer ++ more, hshort with
    | [], _ | [_], _ | [_, _], _ | [_, _, _], _ | [_, _, _, _], _ => rfl

/-- What follows a frame is shorter than the buffer it was taken from. -/
theorem length_lt_of_split {limit : Nat} {buffer rest : Bytes} {f : Frame}
    (h : split limit buffer = .ok (some (f, rest))) : rest.length < buffer.length := by
  unfold split at h
  split at h
  · simp only at h
    split at h
    · cases h
    · split at h
      · cases h
      · split at h
        · cases h
        · simp only [Except.ok.injEq, Option.some.injEq, Prod.mk.injEq] at h
          rw [← h.2]; simp; omega
  · cases h

end Frame

variable {α : Type}

structure Parsed (α : Type) where
  messages : List α
  consumed : Nat
  deriving DecidableEq, Repr

/-- Decodes every complete frame of a buffer. Frames that `decode` has no message for are passed
over; an incomplete frame at the end is left alone. -/
def parseFrames (decode : UInt8 → Bytes → Except WireError (Option α)) (limit : Nat)
    (buffer : Bytes) : Except WireError (Parsed α) :=
  match h : Frame.split limit buffer with
  | .error e => .error e
  | .ok none => .ok ⟨[], 0⟩
  | .ok (some (f, rest)) =>
    match decode f.tag f.payload with
    | .error e => .error e
    | .ok message =>
      have := Frame.length_lt_of_split h
      match parseFrames decode limit rest with
      | .error e => .error e
      | .ok p => .ok ⟨message.toList ++ p.messages, f.size + p.consumed⟩
termination_by buffer.length

/-- A buffer of bytes that arrive piece by piece, and the limit on one frame. -/
structure Decoder where
  limit : Nat
  /-- The bytes in which a frame was looked for. -/
  seen : Bytes := []
  /-- The bytes that have arrived since, newest first. -/
  fresh : Bytes := []
  /-- How many bytes must still arrive before it is worth looking again. -/
  missing : Nat := 0
  deriving DecidableEq, Repr

namespace Decoder

def buffer (d : Decoder) : Bytes :=
  if d.fresh.isEmpty then d.seen else d.seen ++ d.fresh.reverse

def feed (d : Decoder) (bytes : Bytes) : Decoder :=
  { d with fresh := bytes.reverse ++ d.fresh, missing := d.missing - bytes.length }

def buffered (d : Decoder) : Nat := d.buffer.length

def keep (d : Decoder) (buffer : Bytes) : Decoder :=
  { d with seen := buffer, fresh := [], missing := 0 }

/-- Puts back what is left of the buffer, in which no frame is complete. -/
def await (d : Decoder) (buffer : Bytes) : Decoder :=
  { d with seen := buffer, fresh := [], missing := Frame.missing d.limit buffer }

/-- Takes the next message off a buffer, passing over frames without one. An error leaves the
frame it arose from in place. -/
def nextFrom (decode : UInt8 → Bytes → Except WireError (Option α)) (limit : Nat)
    (buffer : Bytes) : Except WireError (Option α) × Bytes :=
  match h : Frame.split limit buffer with
  | .error e => (.error e, buffer)
  | .ok none => (.ok none, buffer)
  | .ok (some (f, rest)) =>
    match decode f.tag f.payload with
    | .error e => (.error e, buffer)
    | .ok (some message) => (.ok (some message), rest)
    | .ok none =>
      have := Frame.length_lt_of_split h
      nextFrom decode limit rest
termination_by buffer.length

theorem length_nextFrom_lt {decode : UInt8 → Bytes → Except WireError (Option α)} {limit : Nat}
    {buffer rest : Bytes} {m : α} (h : nextFrom decode limit buffer = (.ok (some m), rest)) :
    rest.length < buffer.length := by
  fun_induction nextFrom decode limit buffer with
  | case1 => simp at h
  | case2 => simp at h
  | case3 => simp at h
  | case4 buffer f rest' hs m' hd =>
    simp only [Prod.mk.injEq] at h
    exact h.2 ▸ Frame.length_lt_of_split hs
  | case5 buffer f rest' hs hd _ ih => exact Nat.lt_trans (ih h) (Frame.length_lt_of_split hs)

def next (decode : UInt8 → Bytes → Except WireError (Option α)) (d : Decoder) :
    Except WireError (Option α) × Decoder :=
  if 0 < d.missing then (.ok none, d)
  else match nextFrom decode d.limit d.buffer with
    | (.ok none, buffer) => (.ok none, d.await buffer)
    | (result, buffer) => (result, d.keep buffer)

/-- The count of missing bytes is right: with fewer bytes than those there is no frame to take. It
is right of a new decoder, and stays right. -/
def Sound (d : Decoder) : Prop :=
  ∀ more : Bytes, more.length < d.missing → Frame.split d.limit (d.buffer ++ more) = .ok none

theorem buffer_eq (d : Decoder) : d.buffer = d.seen ++ d.fresh.reverse := by
  unfold buffer; split <;> simp_all

@[simp] theorem buffer_feed (d : Decoder) (bytes : Bytes) :
    (d.feed bytes).buffer = d.buffer ++ bytes := by
  simp [buffer_eq, feed]

@[simp] theorem buffer_keep (d : Decoder) (bytes : Bytes) : (d.keep bytes).buffer = bytes := rfl

@[simp] theorem buffer_await (d : Decoder) (bytes : Bytes) : (d.await bytes).buffer = bytes := rfl

theorem sound_of_missing_eq_zero {d : Decoder} (h : d.missing = 0) : d.Sound :=
  fun _ hlt => absurd hlt (by omega)

theorem sound_keep (d : Decoder) (bytes : Bytes) : (d.keep bytes).Sound :=
  sound_of_missing_eq_zero rfl

theorem sound_await (d : Decoder) (bytes : Bytes) : (d.await bytes).Sound :=
  fun _ hlt => Frame.split_append_of_lt hlt

theorem Sound.feed {d : Decoder} (hd : d.Sound) (bytes : Bytes) : (d.feed bytes).Sound := by
  intro more hlt
  rw [buffer_feed, List.append_assoc]
  refine hd _ ?_
  simp only [Decoder.feed] at hlt
  rw [List.length_append]
  omega

theorem sound_next (decode : UInt8 → Bytes → Except WireError (Option α)) {d : Decoder}
    (hd : d.Sound) : (next decode d).2.Sound := by
  unfold next
  split
  · exact hd
  · split
    · exact sound_await d _
    · exact sound_keep d _

/-- What a decoder gives next depends on its bytes alone. -/
theorem next_of_sound (decode : UInt8 → Bytes → Except WireError (Option α)) {d : Decoder}
    (hd : d.Sound) :
    (next decode d).1 = (nextFrom decode d.limit d.buffer).1 ∧
      (next decode d).2.buffer = (nextFrom decode d.limit d.buffer).2 := by
  unfold next
  split
  case isTrue hwaiting =>
    have hnone := hd [] hwaiting
    rw [List.append_nil] at hnone
    rw [nextFrom]
    split <;> simp_all
  case isFalse =>
    split <;> simp_all

end Decoder

end DatabaseGateway.Wire
