import DatabaseGateway.Wire.Backend
import DatabaseGateway.Proofs.Wire.Framing

/-!
A decoder that is fed piece by piece gives what one look at all the bytes gives.

The bytes fed so far are at any time cut in two: the frames that were taken, and the buffer. As long
as no error was met (`Flowing`) the answers so far are what those frames carry. Once one was met
(`Failed`) the buffer starts with the frame that is refused, and stays so whatever is fed. Feeding
and asking keep one or the other, so the way in which the bytes were cut into pieces, and how often
was asked in between, leaves no trace in the answers.
-/

namespace DatabaseGateway.Wire

namespace Decoder

variable {α : Type} {decode : UInt8 → Bytes → Except WireError (Option α)} {limit : Nat}
  {stream buffer : Bytes} {answers : List (Except WireError (Option α))} {e : WireError}

/-- What is done to a decoder: bytes are fed, or the next message is asked for. -/
inductive Act where
  | feed (bytes : Bytes)
  | next

def fed : List Act → Bytes
  | [] => []
  | .feed bytes :: acts => bytes ++ fed acts
  | .next :: acts => fed acts

/-- The answers to all that is asked, and the decoder afterwards. -/
def run (decode : UInt8 → Bytes → Except WireError (Option α)) (d : Decoder) :
    List Act → List (Except WireError (Option α)) × Decoder
  | [] => ([], d)
  | .feed bytes :: acts => run decode (d.feed bytes) acts
  | .next :: acts =>
    let (answer, d) := next decode d
    let (answers, d) := run decode d acts
    (answer :: answers, d)

theorem length_buffer_next_lt {d d' : Decoder} {a : α} (h : next decode d = (.ok (some a), d')) :
    d'.buffer.length < d.buffer.length := by
  revert h
  fun_cases next decode d with
  | case1 | case2 => simp
  | case3 hwaiting answer rest hempty hfound =>
      intro h
      cases h
      exact length_nextFrom_lt hfound

def drain (decode : UInt8 → Bytes → Except WireError (Option α)) (d : Decoder) :
    List (Except WireError (Option α)) × Decoder :=
  match h : next decode d with
  | (.ok (some a), d') =>
    have := length_buffer_next_lt h
    let (answers, d'') := drain decode d'
    (.ok (some a) :: answers, d'')
  | (answer, d') => ([answer], d')
termination_by d.buffer.length

def given (answers : List (Except WireError (Option α))) : List α :=
  answers.filterMap fun answer => answer.toOption.join

@[simp] theorem given_append (xs ys : List (Except WireError (Option α))) :
    given (xs ++ ys) = given xs ++ given ys :=
  List.filterMap_append

@[simp] theorem given_ok (m : Option α) :
    given [(.ok m : Except WireError (Option α))] = m.toList := by
  cases m <;> rfl

@[simp] theorem limit_feed (d : Decoder) (bytes : Bytes) : (d.feed bytes).limit = d.limit := rfl

@[simp] theorem limit_next (d : Decoder) : (next decode d).2.limit = d.limit := by
  fun_cases next decode d <;> rfl

/-- No error was met: the answers are what the frames in front of the buffer carry. -/
def Flowing (decode : UInt8 → Bytes → Except WireError (Option α)) (limit : Nat) (stream : Bytes)
    (answers : List (Except WireError (Option α))) (buffer : Bytes) : Prop :=
  (∀ a ∈ answers, ∃ m, a = .ok m) ∧ ∃ fs, Framing decode limit stream fs (given answers) buffer

/-- An error was met, by the first frame of the buffer, and nothing else has been answered since. -/
def Failed (decode : UInt8 → Bytes → Except WireError (Option α)) (limit : Nat) (stream : Bytes)
    (answers : List (Except WireError (Option α))) (buffer : Bytes) (e : WireError) : Prop :=
  Refused decode limit buffer e ∧ ∃ early late, answers = early ++ late ∧
    Flowing decode limit stream early buffer ∧ late ≠ [] ∧ ∀ a ∈ late, a = .error e

theorem Flowing.feed (h : Flowing decode limit stream answers buffer) (bytes : Bytes) :
    Flowing decode limit (stream ++ bytes) answers (buffer ++ bytes) := by
  obtain ⟨hfine, fs, hframing⟩ := h
  exact ⟨hfine, fs, hframing.extend bytes⟩

theorem Failed.feed (h : Failed decode limit stream answers buffer e) (bytes : Bytes) :
    Failed decode limit (stream ++ bytes) answers (buffer ++ bytes) e := by
  obtain ⟨hrefused, early, late, rfl, hflowing, hsome, hstuck⟩ := h
  exact ⟨hrefused.extend bytes, early, late, rfl, hflowing.feed bytes, hsome, hstuck⟩

/-- What may be answered next, and where that leads. -/
inductive Answered (decode : UInt8 → Bytes → Except WireError (Option α)) (limit : Nat)
    (stream : Bytes) (answers : List (Except WireError (Option α))) :
    Except WireError (Option α) → Bytes → Prop
  | message {a : α} {rest : Bytes}
      (flowing : Flowing decode limit stream (answers ++ [.ok (some a)]) rest) :
      Answered decode limit stream answers (.ok (some a)) rest
  | nothing {rest : Bytes} (flowing : Flowing decode limit stream (answers ++ [.ok none]) rest)
      (stop : Frame.split limit rest = .ok none) :
      Answered decode limit stream answers (.ok none) rest
  | refusal {e : WireError} {rest : Bytes}
      (failed : Failed decode limit stream (answers ++ [.error e]) rest e) :
      Answered decode limit stream answers (.error e) rest

theorem Flowing.next (h : Flowing decode limit stream answers buffer) :
    Answered decode limit stream answers (nextFrom decode limit buffer).1
      (nextFrom decode limit buffer).2 := by
  obtain ⟨hfine, fs, hframing⟩ := h
  have hfine' (m : Option α) : ∀ a ∈ answers ++ [.ok m], ∃ m, a = .ok m := by
    intro a ha
    obtain ha | ha := List.mem_append.1 ha
    · exact hfine a ha
    · exact ⟨m, List.mem_singleton.1 ha⟩
  have htakes := takes_nextFrom decode limit buffer
  revert htakes
  generalize nextFrom decode limit buffer = found
  intro htakes
  cases htakes with
  | message hcut => exact .message ⟨hfine' _, _, by simpa using hframing.trans hcut⟩
  | nothing hcut hstop => exact .nothing ⟨hfine' _, _, by simpa using hframing.trans hcut⟩ hstop
  | @refusal gs e rest hcut hstop =>
      -- The frames that were passed over before the refused one are behind the decoder already.
      refine .refusal ⟨hstop, answers, [.error e], rfl, ⟨hfine, fs ++ gs, ?_⟩, by simp,
        by simp⟩
      simpa using hframing.trans hcut

theorem Failed.next (h : Failed decode limit stream answers buffer e) :
    Answered decode limit stream answers (nextFrom decode limit buffer).1
      (nextFrom decode limit buffer).2 := by
  obtain ⟨hrefused, early, late, rfl, hflowing, hsome, hstuck⟩ := h
  rw [nextFrom_of_refused hrefused]
  refine .refusal ⟨hrefused, early, late ++ [.error e], by simp, hflowing, by simp, ?_⟩
  intro a ha
  obtain ha | ha := List.mem_append.1 ha
  · exact hstuck a ha
  · exact List.mem_singleton.1 ha

/-- How a decoder stands to the bytes that it was fed and the answers that it gave. -/
structure Follows (decode : UInt8 → Bytes → Except WireError (Option α)) (limit : Nat)
    (stream : Bytes) (answers : List (Except WireError (Option α))) (d : Decoder) : Prop where
  sound : d.Sound
  limited : d.limit = limit
  stands : Flowing decode limit stream answers d.buffer ∨
    ∃ e, Failed decode limit stream answers d.buffer e

variable {d : Decoder}

theorem Follows.init : Follows decode limit [] [] { limit := limit } :=
  ⟨sound_of_missing_eq_zero rfl, rfl, .inl ⟨by simp, [], .refl⟩⟩

theorem Follows.feed (h : Follows decode limit stream answers d) (bytes : Bytes) :
    Follows decode limit (stream ++ bytes) answers (d.feed bytes) := by
  refine ⟨h.sound.feed bytes, h.limited, ?_⟩
  rw [buffer_feed]
  obtain hflowing | ⟨e, hfailed⟩ := h.stands
  · exact .inl (hflowing.feed bytes)
  · exact .inr ⟨e, hfailed.feed bytes⟩

theorem Follows.answered (h : Follows decode limit stream answers d) :
    Answered decode limit stream answers (Decoder.next decode d).1
      (Decoder.next decode d).2.buffer := by
  obtain ⟨hanswer, hleft⟩ := next_of_sound decode h.sound
  rw [hanswer, hleft, h.limited]
  obtain hflowing | ⟨e, hfailed⟩ := h.stands
  · exact hflowing.next
  · exact hfailed.next

theorem Follows.next (h : Follows decode limit stream answers d) :
    Follows decode limit stream (answers ++ [(Decoder.next decode d).1])
      (Decoder.next decode d).2 := by
  refine ⟨sound_next decode h.sound, by rw [limit_next, h.limited], ?_⟩
  have hanswered := h.answered
  revert hanswered
  generalize (Decoder.next decode d).1 = answer
  intro hanswered
  cases hanswered with
  | message hflowing => exact .inl hflowing
  | nothing hflowing hstop => exact .inl hflowing
  | refusal hfailed => exact .inr ⟨_, hfailed⟩

theorem Follows.run (h : Follows decode limit stream answers d) (acts : List Act) :
    Follows decode limit (stream ++ fed acts) (answers ++ (run decode d acts).1)
      (run decode d acts).2 := by
  induction acts generalizing d stream answers with
  | nil => simpa [fed, Decoder.run] using h
  | cons act acts ih =>
      cases act with
      | feed bytes => simpa [fed, Decoder.run] using ih (h.feed bytes)
      | next => simpa [fed, Decoder.run] using ih h.next

/-- A decoder that no message is left in: its first frame is not all there, or is refused. -/
theorem Follows.drain (h : Follows decode limit stream answers d) :
    (drain decode d).2.Sound ∧ (drain decode d).2.limit = limit ∧
      (Flowing decode limit stream (answers ++ (drain decode d).1) (drain decode d).2.buffer ∧
          Frame.split limit (drain decode d).2.buffer = .ok none ∨
        ∃ e, Failed decode limit stream (answers ++ (drain decode d).1)
          (drain decode d).2.buffer e) := by
  -- Each message that comes is a step like any other; the answer that is none says why it stops.
  fun_induction Decoder.drain decode d generalizing answers with
  | case1 d a d' hasked hshorter rest d'' hleft ih =>
      have hfollows := h.next
      rw [hasked] at hfollows
      simpa [hleft] using ih hfollows
  | case2 d answer d' hlast hasked =>
      have hfollows := h.next
      have hanswered := h.answered
      rw [hasked] at hfollows hanswered
      refine ⟨hfollows.sound, hfollows.limited, ?_⟩
      cases hanswered with
      | message => exact (hlast _ rfl).elim
      | nothing hflowing hstop => exact .inl ⟨hflowing, hstop⟩
      | refusal hfailed => exact .inr ⟨_, hfailed⟩

theorem Flowing.parse (h : Flowing decode limit stream answers buffer)
    (hstop : Frame.split limit buffer = .ok none) :
    parseFrames decode limit stream = .ok ⟨given answers, stream.length - buffer.length⟩ := by
  obtain ⟨-, fs, hframing⟩ := h
  rw [parseFrames_eq_ok hframing hstop, hframing.bytes, List.length_append, Nat.add_sub_cancel]

theorem Failed.parse (h : Failed decode limit stream answers buffer e) :
    parseFrames decode limit stream = .error e := by
  obtain ⟨hrefused, early, late, -, ⟨-, fs, hframing⟩, -, -⟩ := h
  exact parseFrames_eq_error hframing hrefused

theorem answers_of_refused (hd : d.Sound) (h : Refused decode d.limit d.buffer e)
    (acts : List Act) : ∀ a ∈ (run decode d acts).1, a = .error e := by
  induction acts generalizing d with
  | nil => simp [Decoder.run]
  | cons act acts ih =>
      cases act with
      | feed bytes => exact ih (hd.feed bytes) (by simpa using h.extend bytes)
      | next =>
          obtain ⟨hanswer, hleft⟩ := next_of_sound decode hd
          rw [nextFrom_of_refused h] at hanswer hleft
          have hothers := ih (sound_next decode hd) (by rwa [hleft, limit_next])
          simpa [Decoder.run, hanswer] using hothers

end Decoder

/-- However a stream is cut into pieces, and however often messages are asked for in between, a
decoder gives what a look at the whole stream gives: all messages and no error, with as many bytes
left as that look left over; or the messages of the frames before the one that is refused, and from
then on, whatever is fed, the error. -/
theorem streaming_eq_parse (limit : Nat) (acts : List Decoder.Act) :
    let stream := Decoder.fed acts
    let asked := Decoder.run BackendMessage.decode { limit := limit } acts
    let drained := Decoder.drain BackendMessage.decode asked.2
    let answers := asked.1 ++ drained.1
    (∀ p, BackendMessage.parse limit stream = .ok p →
      (∀ a ∈ answers, ∃ m, a = .ok m) ∧ Decoder.given answers = p.messages ∧
        drained.2.buffered = stream.length - p.consumed) ∧
    (∀ e, BackendMessage.parse limit stream = .error e →
      (∃ fs ms tail early late, Framing BackendMessage.decode limit stream fs ms tail ∧
        Refused BackendMessage.decode limit tail e ∧ answers = early ++ late ∧
        (∀ a ∈ early, ∃ m, a = .ok m) ∧ Decoder.given early = ms ∧
        late ≠ [] ∧ ∀ a ∈ late, a = .error e) ∧
      ∀ later, ∀ a ∈ (Decoder.run BackendMessage.decode drained.2 later).1, a = .error e) := by
  intro stream asked drained answers
  have hstart : Decoder.Follows BackendMessage.decode limit [] [] { limit := limit } := .init
  obtain ⟨hsound, hlimited, hends⟩ := (hstart.run acts).drain
  rw [List.nil_append, List.nil_append] at hends
  change Decoder.Flowing _ limit stream answers drained.2.buffer ∧ _ ∨
    ∃ e, Decoder.Failed _ limit stream answers drained.2.buffer e at hends
  obtain ⟨hflowing, hstop⟩ | ⟨e, hfailed⟩ := hends
  · have hwhole : BackendMessage.parse limit stream = _ := hflowing.parse hstop
    refine ⟨fun p h => ?_, fun e h => ?_⟩
    · rw [hwhole] at h
      cases h
      obtain ⟨hfine, fs, hframing⟩ := hflowing
      refine ⟨hfine, rfl, ?_⟩
      simp [Decoder.buffered, hframing.bytes]
    · rw [hwhole] at h
      cases h
  · have hwhole : BackendMessage.parse limit stream = _ := hfailed.parse
    refine ⟨fun p h => ?_, fun e' h => ?_⟩
    · rw [hwhole] at h
      cases h
    · rw [hwhole] at h
      cases h
      obtain ⟨hrefused, early, late, hsplit, ⟨hfine, fs, hframing⟩, hsome, hstuck⟩ := hfailed
      refine ⟨⟨fs, _, _, early, late, hframing, hrefused, hsplit, hfine, rfl, hsome, hstuck⟩, ?_⟩
      exact Decoder.answers_of_refused hsound (by rwa [hlimited])

theorem row_in_pieces_and_bad_length :
    let row : List Decoder.Act :=
      [.feed [68, 0, 0], .next, .feed [0, 10, 0, 1, 255, 255, 255, 255, 90], .next, .feed [0]]
    let bad : List Decoder.Act := [.feed [49, 0, 0, 0, 4, 90, 0, 0], .next, .feed [0, 3]]
    let answers (acts : List Decoder.Act) :=
      let asked := Decoder.run BackendMessage.decode { limit := 64 } acts
      let drained := Decoder.drain BackendMessage.decode asked.2
      (asked.1 ++ drained.1, drained.2)
    Decoder.given (answers row).1 = [.dataRow [none]] ∧ (answers row).2.buffered = 2 ∧
      ∀ later, ∀ a ∈ (Decoder.run BackendMessage.decode (answers bad).2 later).1,
        a = .error (.invalidLength 90 3) := by
  intro row bad answers
  have htaken : Framing BackendMessage.decode 64 (Decoder.fed row)
      [⟨68, [0, 1, 255, 255, 255, 255]⟩] [.dataRow [none]] [90, 0] :=
    ⟨by decide, by decide, .cons (m := some (BackendMessage.dataRow [none])) rfl .nil⟩
  have hcomplete : Framing BackendMessage.decode 64 (Decoder.fed bad) [⟨49, []⟩] [.parseComplete]
      [90, 0, 0, 0, 3] :=
    ⟨by decide, by decide, .cons (m := some BackendMessage.parseComplete) rfl .nil⟩
  have hread : BackendMessage.parse 64 (Decoder.fed row) = .ok ⟨[.dataRow [none]], 11⟩ :=
    parseFrames_eq_ok htaken rfl
  have hrefused : BackendMessage.parse 64 (Decoder.fed bad) = .error (.invalidLength 90 3) :=
    parseFrames_eq_error hcomplete (.inl rfl)
  obtain ⟨-, hgiven, hbuffered⟩ := (streaming_eq_parse 64 row).1 _ hread
  exact ⟨hgiven, hbuffered, ((streaming_eq_parse 64 bad).2 _ hrefused).2⟩

end DatabaseGateway.Wire
