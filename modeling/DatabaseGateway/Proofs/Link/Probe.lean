import DatabaseGateway.Link.Basic
import DatabaseGateway.Proofs.Wire.Conversation

/-!
What a probe says about a Postgres session. The gateway asks an empty query and takes the first
message that says that the server is ready for the end of the answer. A server that answers in order
has answered everything else before that, so what is left unread by others comes first. A probe is
passed either by the answer to it, and then nothing is unread and the session is idle, or by
something before it that looks the same (`Postgres.clean_of_probe`).
-/

namespace DatabaseGateway

open Wire

def Wire.Frame.Carries (f : Frame) (message : BackendMessage) : Prop :=
  BackendMessage.decode f.tag f.payload = .ok (some message)

/-- A check under a deadline has the outcome of the check, if deadlines can be set before it and,
where it is passed, behind it. -/
theorem Link.timed_of_check {σ : Type} {t : Transport σ} {Before After : σ → Prop} {passed : Bool}
    {check : σ → Bool × σ} {world : σ} (timeout : Duration)
    (hbefore : ∃ world', t.setReadTimeout (some timeout) world = (.ok (), world') ∧ Before world')
    (hchecks : ∀ {world}, Before world → ∃ world', check world = (passed, world') ∧ After world')
    (hafter : ∀ {world}, passed = true → After world →
      ∃ world', t.setReadTimeout none world = (.ok (), world') ∧ After world') :
    ∃ world', Link.timed t timeout check world = (passed, world') ∧ After world' := by
  obtain ⟨w₁, hset, hbefore⟩ := hbefore
  obtain ⟨w₂, hchecked, hbehind⟩ := hchecks hbefore
  cases passed with
  | false => exact ⟨w₂, by simp only [Link.timed, hset, hchecked], hbehind⟩
  | true =>
      obtain ⟨w₃, hbrought, hbehind⟩ := hafter rfl hbehind
      exact ⟨w₃, by simp only [Link.timed, hset, hchecked, hbrought], hbehind⟩

/-- On a stream on which deadlines change nothing, a check under a deadline is the check. -/
theorem Link.timed_eq {σ : Type} {t : Transport σ}
    (huntimed : ∀ span world, t.setReadTimeout span world = (.ok (), world)) (timeout : Duration)
    (check : σ → Bool × σ) (world : σ) : Link.timed t timeout check world = check world := by
  simp only [Link.timed, huntimed]
  rcases check world with ⟨_ | _, world'⟩ <;> rfl

namespace Postgres

variable {σ : Type}

/-! ### Answers -/

/-- A message that a server sends without being asked. -/
def Unasked : BackendMessage → Prop
  | .noticeResponse _ | .parameterStatus .. => True
  | _ => False

/-- What can come before the end of the answer to an empty query. -/
def AnswersEmpty (f : Frame) : Prop :=
  ∀ message, f.Carries message → message = .emptyQueryResponse ∨ Unasked message

/-- The answer to an empty query in a session without a transaction. -/
def CleanAnswer (fs : List Frame) : Prop :=
  ∃ body ready, fs = body ++ [ready] ∧ ready.Carries (.readyForQuery .idle) ∧
    (∀ f ∈ body, AnswersEmpty f) ∧ ∃ f ∈ body, f.Carries .emptyQueryResponse

/-- Frames that a probe takes for the answer to itself: each of them is read, under the limit, and
together they are a clean answer. -/
structure TakenForAnswer (limit : Nat) (fs : List Frame) : Prop where
  legal : ∀ f ∈ fs, f.Legal limit
  read : ∀ f ∈ fs, ∃ message, BackendMessage.decode f.tag f.payload = .ok message
  clean : CleanAnswer fs

/-- Bytes that do not pass for such an answer: whole frames, which do not begin with one. -/
def Unmistakable (bytes : Bytes) : Prop :=
  ∃ fs : List Frame, bytes = fs.flatMap Frame.encode ∧ (∀ f ∈ fs, f.Told) ∧
    ∀ answer, answer <+: fs → ¬ CleanAnswer answer

theorem unmistakable_nil : Unmistakable [] := by
  refine ⟨[], rfl, by simp, fun answer hfront => ?_⟩
  rintro ⟨body, ready, rfl, -⟩
  simp at hfront

/-- In a reply, only the last frame may say that the server is ready, and it then says in which
status. -/
def EndsReady (status : TransactionStatus) (fs : List Frame) : Prop :=
  ∀ before f after s, fs = before ++ f :: after → f.Carries (.readyForQuery s) →
    after = [] ∧ s = status

/-- A server that answers in order. `unread` are the bytes that answer what was asked so far and
that nobody has received yet, whether they have been sent or not, and `status` is the status that
the last of them reports. An empty query is answered behind all that is unread, if it is answered
at all. -/
structure Orderly (t : Transport σ) (unread : σ → Bytes) (status : σ → TransactionStatus) :
    Prop where
  hears : ∀ most, Hears (t.recv most) unread
  reported : ∀ most world, status (t.recv most world).2 = status world
  timeout : ∀ span world, unread (t.setReadTimeout span world).2 = unread world ∧
    status (t.setReadTimeout span world).2 = status world
  answer : ∀ world, ∃ reply : List Frame, (∀ f ∈ reply, f.Told) ∧
    unread (t.send (FrontendMessage.query "").encode world).2 =
      unread world ++ reply.flatMap Frame.encode ∧
    EndsReady (status (t.send (FrontendMessage.query "").encode world).2) reply

/-- Nothing is unread, and the server has reported last that it is in no transaction. -/
structure Clean (unread : σ → Bytes) (status : σ → TransactionStatus) (world : σ) : Prop where
  unread : unread world = []
  status : status world = .idle

/-! ### The probe -/

section Probe

variable {t : Transport σ} {unread : σ → Bytes} {status : σ → TransactionStatus} {limit : Nat}
  {world world' : σ}

theorem answersEmpty_of_leads {fs : List Frame} {sawEmpty sawEmpty' : Bool}
    (hleads : Leads (Moves fun message sawEmpty (w : σ) => (probeMessage message sawEmpty, w)) fs
      sawEmpty sawEmpty') :
    (∀ f ∈ fs, AnswersEmpty f) ∧
      (sawEmpty' = true → sawEmpty = true ∨ ∃ f ∈ fs, f.Carries .emptyQueryResponse) := by
  induction hleads with
  | nil => exact ⟨by simp, .inl⟩
  | @skip f fs _ _ hread _ ih =>
      obtain ⟨heach, hseen⟩ := ih
      refine ⟨List.forall_mem_cons.2 ⟨fun m hcarries => ?_, heach⟩, fun hsaw => ?_⟩
      · cases hread.symm.trans hcarries
      · exact (hseen hsaw).imp_right fun ⟨g, hmem, hcarries⟩ =>
          ⟨g, List.mem_cons_of_mem _ hmem, hcarries⟩
  | @move f fs message _ _ _ hread hmove _ ih =>
      obtain ⟨heach, hseen⟩ := ih
      obtain ⟨w, w', hstep⟩ := hmove
      have hhere : message = .emptyQueryResponse ∨ Unasked message := by
        cases message <;> first | exact .inl rfl | exact .inr trivial | cases hstep
      refine ⟨List.forall_mem_cons.2 ⟨fun m hcarries => ?_, heach⟩, fun hsaw => ?_⟩
      · cases hread.symm.trans hcarries
        exact hhere
      · obtain hsaw | ⟨g, hmem, hcarries⟩ := hseen hsaw
        · obtain rfl | hunasked := hhere
          · exact .inr ⟨f, List.mem_cons_self, hread⟩
          · cases message <;> cases hunasked <;> cases hstep <;> exact .inl hsaw
        · exact .inr ⟨g, List.mem_cons_of_mem _ hmem, hcarries⟩

/-- A probe that ends well has taken a clean answer off the stream. -/
theorem taken_of_ended {stream rest : Bytes}
    (hended : Ended (fun message sawEmpty (w : σ) => (probeMessage message sawEmpty, w)) limit
      stream false true rest world') :
    ∃ body ready, stream = (body ++ [ready]).flatMap Frame.encode ++ rest ∧
      ready.Carries (.readyForQuery .idle) ∧ TakenForAnswer limit (body ++ [ready]) := by
  obtain @⟨body, ready, message, sawEmpty, w, hbytes, hlegal, hlegalLast, hleads, hread, hends⟩ :=
    hended
  obtain ⟨heach, hseen⟩ := answersEmpty_of_leads hleads
  cases message with
  | readyForQuery status =>
      have hclean : (sawEmpty && status == .idle) = true := by
        injection hends with hturn
        injection hturn
      obtain ⟨hsaw, hidle⟩ := (Bool.and_eq_true ..).mp hclean
      obtain rfl := eq_of_beq hidle
      refine ⟨body, ready, by simpa using hbytes, hread, ?_, ?_, body, ready, rfl, hread, heach,
        (hseen hsaw).resolve_left nofun⟩
      · simpa [or_imp, forall_and] using ⟨hlegal, hlegalLast⟩
      · simpa [or_imp, forall_and] using ⟨hleads.readable, _, hread⟩
  | _ => cases hends

/-- Behind bytes that do not pass for a clean answer, a clean answer can only be the reply to the
probe, and it is all of that reply. -/
theorem eq_nil_of_unmistakable {bytes rest : Bytes} {body reply : List Frame} {ready : Frame}
    {status : TransactionStatus} (hleft : Unmistakable bytes) (htold : ∀ f ∈ reply, f.Told)
    (hends : EndsReady status reply)
    (hstream : bytes ++ reply.flatMap Frame.encode =
      (body ++ [ready]).flatMap Frame.encode ++ rest)
    (htold' : ∀ f ∈ body ++ [ready], f.Told) (hcarries : ready.Carries (.readyForQuery .idle))
    (hclean : CleanAnswer (body ++ [ready])) : rest = [] ∧ status = .idle := by
  obtain ⟨fs, rfl, hwhole, hunlike⟩ := hleft
  have hall : ∀ f ∈ fs ++ reply, f.Told :=
    fun f hmem => (List.mem_append.1 hmem).elim (hwhole f) (htold f)
  rw [← List.flatMap_append] at hstream
  obtain ⟨behind, hframes, rfl⟩ := Frame.exists_behind hall htold' hstream
  rw [List.append_assoc, List.singleton_append] at hframes
  obtain ⟨before, -, rfl⟩ | ⟨after, rfl, hsplit⟩ := List.append_eq_append_iff.1 hframes
  · obtain ⟨rfl, hidle⟩ := hends before ready behind .idle rfl hcarries
    exact ⟨rfl, hidle.symm⟩
  · cases after with
    | nil =>
        obtain ⟨rfl, hidle⟩ := hends [] ready behind .idle hsplit.symm hcarries
        exact ⟨rfl, hidle.symm⟩
    | cons f after =>
        cases hsplit
        exact absurd hclean (hunlike _ ⟨after, by simp⟩)

/-- While an answer is awaited, nothing is asked, and the status stays what it is. -/
theorem status_of_converse {β γ : Type} {handle : BackendMessage → γ → Turn γ β} {state : γ}
    (horderly : Orderly t unread status) {patience : Nat} {d d' : Decoder}
    {ending : Ending β GatewayError}
    (hran : converse (t.recv receiveSize) (fun message state w => (handle message state, w))
      patience d state world = (ending, d', world')) : status world' = status world := by
  have hheard {w w' : σ} {result : Except GatewayError Bytes} (hsame : status w = status world)
      (hreceived : t.recv receiveSize w = (result, w')) : status w' = status world := by
    rw [← hsame, ← horderly.reported receiveSize w, hreceived]
  have hkeeps : Keeps (t.recv receiveSize) (fun message state w => (handle message state, w))
      (fun _ w => status w = status world) (fun _ w => status w = status world) :=
    { more := by
        rintro _ _ w _ _ hsame hstep
        obtain ⟨-, rfl⟩ := Prod.mk.inj hstep
        exact hsame
      finished := by
        rintro _ _ w _ _ hsame hstep
        obtain ⟨-, rfl⟩ := Prod.mk.inj hstep
        exact hsame
      garbled := id
      broken := hheard
      hungUp := hheard
      fed := hheard }
  have hended := hkeeps.converse patience d state rfl
  rwa [hran] at hended

/-- A probe is passed if its conversation ends well, with nothing behind the last message. -/
theorem exists_converse_of_probe (hpassed : probe t limit world = (true, world')) :
    ∃ n world₁ d, t.send (FrontendMessage.query "").encode world = (.ok n, world₁) ∧
      converse (t.recv receiveSize)
        (fun message sawEmpty world => (probeMessage message sawEmpty, world))
        (t.patience world₁) { limit } false world₁ = (.finished true, d, world') ∧
      d.buffer = [] := by
  unfold probe at hpassed
  split at hpassed
  · cases hpassed
  · next n world₁ hsent =>
      rcases hran : converse (t.recv receiveSize)
        (fun message sawEmpty world => (probeMessage message sawEmpty, world))
        (t.patience world₁) { limit } false world₁ with ⟨ending, d, w⟩
      rw [hran] at hpassed
      cases ending with
      | finished outcome =>
          obtain ⟨hverdict, rfl⟩ := Prod.mk.inj hpassed
          obtain ⟨rfl, hbuffered⟩ := (Bool.and_eq_true ..).mp hverdict
          exact ⟨n, world₁, d, hsent, hran, List.eq_nil_of_length_eq_zero (eq_of_beq hbuffered)⟩
      | garbled | broken | hungUp => cases hpassed

/-- A probe that is passed has taken a part off the stream that ends it well. -/
theorem exists_ended_of_probe (hhears : ∀ most, Hears (t.recv most) unread)
    (hpassed : probe t limit world = (true, world')) :
    Ended (fun message sawEmpty (w : σ) => (probeMessage message sawEmpty, w)) limit
      (unread (t.send (FrontendMessage.query "").encode world).2) false true (unread world')
      world' := by
  obtain ⟨n, world₁, d, hsent, hran, hempty⟩ := exists_converse_of_probe hpassed
  obtain ⟨-, -, pieces, -, hcourse⟩ :=
    Course.of_converse (Decoder.sound_of_missing_eq_zero rfl) hran
  have hended := hcourse.ended (hhears receiveSize) fun _ _ _ => rfl
  rw [hempty] at hended
  rw [hsent]
  exact hended

/-- A probe that is passed behind unmistakable bytes leaves the session clean. -/
theorem clean_of_probe (horderly : Orderly t unread status) (hleft : Unmistakable (unread world))
    (hpassed : probe t limit world = (true, world')) : Clean unread status world' := by
  obtain ⟨reply, htold, hanswered, hends⟩ := horderly.answer world
  obtain ⟨body, ready, hstream, hcarries, htaken⟩ :=
    taken_of_ended (exists_ended_of_probe horderly.hears hpassed)
  rw [hanswered] at hstream
  obtain ⟨hunread', hidle⟩ := eq_nil_of_unmistakable hleft htold hends hstream
    (fun f hmem => (htaken.legal f hmem).told) hcarries htaken.clean
  obtain ⟨n, world₁, d, hsent, hran, -⟩ := exists_converse_of_probe hpassed
  rw [hsent] at hidle
  exact ⟨hunread', (status_of_converse horderly hran).trans hidle⟩

theorem exists_check_of_timed {timeout : Duration} {check : σ → Bool × σ}
    (hpassed : Link.timed t timeout check world = (true, world')) :
    ∃ w₁ w₂, (t.setReadTimeout (some timeout) world).2 = w₁ ∧ check w₁ = (true, w₂) ∧
      (t.setReadTimeout none w₂).2 = world' := by
  unfold Link.timed at hpassed
  split at hpassed
  · cases hpassed
  · next hbefore =>
      split at hpassed
      · cases hpassed
      · next w₂ hchecked =>
          split at hpassed
          · next hafter =>
              cases hpassed
              exact ⟨_, w₂, by rw [hbefore], hchecked, by rw [hafter]⟩
          · cases hpassed

/-- The deadlines that a link sets around its probe change nothing of that. -/
theorem clean_of_ping (horderly : Orderly t unread status) (hleft : Unmistakable (unread world))
    {timeout : Duration} (hpassed : Link.ping t timeout world (.postgres true limit) =
      (true, world')) : Clean unread status world' := by
  obtain ⟨w₁, w₂, rfl, hprobed, rfl⟩ := exists_check_of_timed hpassed
  have hsame := (horderly.timeout (some timeout) world).1
  obtain ⟨hnothing, hidle⟩ := clean_of_probe horderly (hsame ▸ hleft) hprobed
  obtain ⟨hunread', hstatus'⟩ := horderly.timeout none w₂
  exact ⟨hunread'.trans hnothing, hstatus'.trans hidle⟩

end Probe

end Postgres

/-! ### A server -/

/-- A server that understands two queries, and answers them in order. Its answers arrive in pieces
of a set size. -/
structure Desk where
  unread : Bytes := []
  status : TransactionStatus := .idle
  piece : Nat

namespace Desk

def nothing (status : TransactionStatus) : List BackendMessage :=
  [.emptyQueryResponse, .readyForQuery status]

def answer (status : TransactionStatus) (data : Bytes) : List BackendMessage × TransactionStatus :=
  if data = (FrontendMessage.query "").encode then (nothing status, status)
  else if data = (FrontendMessage.query "BEGIN").encode then
    ([.commandComplete "BEGIN", .readyForQuery .inTransaction], .inTransaction)
  else ([], status)

def send (data : Bytes) (d : Desk) : Except GatewayError Nat × Desk :=
  let (messages, status) := answer d.status data
  (.ok data.length,
    { d with unread := d.unread ++ messages.flatMap BackendMessage.encode, status })

def recv (most : Nat) (d : Desk) : Except GatewayError Bytes × Desk :=
  if d.unread = [] then (.error (.timeout "no data"), d)
  else (.ok (d.unread.take (min most d.piece)),
    { d with unread := d.unread.drop (min most d.piece) })

def transport : Transport Desk where
  send
  recv
  ping _ d := (true, d)
  setReadTimeout _ d := (.ok (), d)
  close d := d
  patience d := d.unread.length

theorem decode_frame_readyForQuery (status : TransactionStatus) :
    (BackendMessage.readyForQuery status).frame.Carries (.readyForQuery status) := by
  cases status <;> rfl

theorem endsReady_nothing (status : TransactionStatus) :
    Postgres.EndsReady status ((nothing status).map BackendMessage.frame) := by
  intro before f after s hsplit hcarries
  match before, hsplit with
  | [], hsplit =>
      obtain ⟨rfl, -⟩ := List.cons.inj hsplit
      cases hcarries
  | [_], hsplit =>
      obtain ⟨-, hrest⟩ := List.cons.inj hsplit
      obtain ⟨rfl, rfl⟩ := List.cons.inj hrest
      cases (decode_frame_readyForQuery status).symm.trans hcarries
      exact ⟨rfl, rfl⟩
  | _ :: _ :: _, hsplit =>
      obtain ⟨-, hrest⟩ := List.cons.inj hsplit
      obtain ⟨-, hrest⟩ := List.cons.inj hrest
      cases List.append_eq_nil_iff.1 hrest.symm |>.2

theorem orderly : Postgres.Orderly transport unread status where
  hears most := by
    intro d bytes d' hheard
    change recv most d = _ at hheard
    unfold recv at hheard
    split at hheard
    · cases hheard
    · cases hheard
      exact (List.take_append_drop ..).symm
  reported most d := by
    change (recv most d).2.status = d.status
    unfold recv
    split <;> rfl
  timeout span d := ⟨rfl, rfl⟩
  answer d := by
    let reply := (nothing d.status).map BackendMessage.frame
    have hasked : send (FrontendMessage.query "").encode d =
        (.ok 6, { d with unread := d.unread ++ reply.flatMap Frame.encode }) := by
      rw [List.flatMap_map]
      rfl
    refine ⟨reply, ?_, congrArg (·.2.unread) hasked, ?_⟩
    · dsimp only [reply]
      cases d.status <;> decide
    · have hsame := congrArg (·.2.status) hasked
      exact hsame ▸ endsReady_nothing d.status

def asked (queries : Nat) : Desk where
  unread := (List.replicate queries ((nothing .idle).flatMap BackendMessage.encode)).flatten
  piece := 11

theorem send_asked (queries : Nat) : send (FrontendMessage.query "").encode (asked queries) =
    (.ok 6, asked (queries + 1)) := by
  have hsame : send (FrontendMessage.query "").encode (asked queries) = (.ok 6, { asked queries with
      unread := (asked queries).unread ++ (nothing .idle).flatMap BackendMessage.encode }) := rfl
  rw [hsame, asked, asked, List.replicate_succ', List.flatten_concat]

theorem recv_asked (queries : Nat) : recv Postgres.receiveSize (asked (queries + 1)) =
    (.ok ((nothing .idle).flatMap BackendMessage.encode), asked queries) := by
  rw [asked, List.replicate_succ, List.flatten_cons]
  rfl

/-- The probe takes the answer that comes first for the answer to itself. -/
theorem ping_asked (queries : Nat) (timeout : Duration) :
    Link.ping transport timeout (asked queries) (.postgres true defaultMaxFrameSize) =
      (true, asked queries) := by
  have hcourse : Course (transport.recv Postgres.receiveSize)
      (fun message sawEmpty world => (Postgres.probeMessage message sawEmpty, world))
      defaultMaxFrameSize 1 [] false (asked (queries + 1)) true [] (asked queries) :=
    .fed rfl (recv_asked queries) (.more rfl rfl rfl (.done rfl rfl rfl))
  have hpatient : 1 ≤ transport.patience (asked (queries + 1)) := by
    change 1 ≤ (asked (queries + 1)).unread.length
    rw [asked, List.replicate_succ, List.flatten_cons, List.length_append]
    exact Nat.le_add_right_of_le (by decide)
  obtain ⟨d, hran, -, -, hbuffer⟩ := hcourse.converse (d := { limit := defaultMaxFrameSize })
    (Decoder.sound_of_missing_eq_zero rfl) hpatient
  have hsent : transport.send (FrontendMessage.query "").encode (asked queries) =
      (.ok 6, asked (queries + 1)) := send_asked queries
  have hprobed : Postgres.probe transport defaultMaxFrameSize (asked queries) =
      (true, asked queries) := by
    simp only [Postgres.probe, hsent, hran, Decoder.buffered, hbuffer]
    rfl
  exact (Link.timed_eq (t := transport) (fun _ _ => rfl) timeout _ _).trans hprobed

end Desk

end DatabaseGateway
