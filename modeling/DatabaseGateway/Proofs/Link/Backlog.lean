import DatabaseGateway.Proofs.Link.Login
import DatabaseGateway.Proofs.Link.Probe
import DatabaseGateway.Proofs.Wire.Backend

/-!
What a passed probe has taken off a session on which replies are still unread.

A probe knows the answer to itself by its shape. It has always taken one answer of that shape off
the front of the stream, with the border of a piece behind it, and nothing else
(`Postgres.exists_taken_of_ping`). So it has taken its own answer whenever no reply before it has
that shape, and only then: a server that sends byte by byte makes every other backlog pass for one
(`takesAll_iff`).
-/

namespace DatabaseGateway

open Wire

namespace Postgres

/-- A server that answers in order: `unread` is what it has to say to all that it was asked and that
nobody has received, in whatever pieces it comes, and an empty query adds `reply` to that. -/
structure Answering {σ : Type} (t : Transport σ) (unread : σ → Bytes) (reply : σ → List Frame) :
    Prop where
  hears : ∀ most, Hears (t.recv most) unread
  timeout : ∀ span world, unread (t.setReadTimeout span world).2 = unread world ∧
    reply (t.setReadTimeout span world).2 = reply world
  answer : ∀ world, unread (t.send (FrontendMessage.query "").encode world).2 =
    unread world ++ (reply world).flatMap Frame.encode
  told : ∀ world, ∀ f ∈ reply world, f.Told

/-- Whichever server answers, and however its answers are cut: if a probe behind these replies is
passed, the answer to it has been received up to the first message that says that the server is
ready, and what is unread is what is behind that. -/
def TakesAll (limit : Nat) (backlog : List Frame) : Prop :=
  ∀ {σ : Type} (t : Transport σ) (unread : σ → Bytes) (reply : σ → List Frame) (timeout : Duration)
    (world world' : σ), Answering t unread reply → unread world = backlog.flatMap Frame.encode →
    Link.ping t timeout world (.postgres true limit) = (true, world') →
    BehindReady ((reply world).flatMap Frame.encode) (unread world')

section Taken

variable {σ : Type} {t : Transport σ} {unread : σ → Bytes} {reply : σ → List Frame} {limit : Nat}
  {world world' : σ} {backlog : List Frame} {timeout : Duration}

/-- A passed probe has taken one answer of the right shape off the front, and nothing else. -/
theorem exists_taken_of_ping (hanswering : Answering t unread reply)
    (hpassed : Link.ping t timeout world (.postgres true limit) = (true, world')) :
    ∃ answer, TakenForAnswer limit answer ∧
      unread world ++ (reply world).flatMap Frame.encode =
        answer.flatMap Frame.encode ++ unread world' := by
  obtain ⟨w₁, w₂, rfl, hprobed, rfl⟩ := exists_check_of_timed hpassed
  obtain ⟨body, ready, hstream, -, htaken⟩ :=
    taken_of_ended (exists_ended_of_probe hanswering.hears hprobed)
  obtain ⟨hbefore, hsame⟩ := hanswering.timeout (some timeout) world
  rw [hanswering.answer, hbefore, hsame] at hstream
  exact ⟨_, htaken, by rw [hstream, (hanswering.timeout none w₂).1]⟩

/-- An answer that does not stand in the backlog ends with the first message of the reply that says
that the server is ready. -/
theorem behindReady_of_taken {answer reply : List Frame} {rest : Bytes}
    (htold : ∀ f ∈ backlog, f.Told) (htold' : ∀ f ∈ reply, f.Told)
    (htaken : TakenForAnswer limit answer) (hbeyond : ¬ answer <+: backlog)
    (hstream : backlog.flatMap Frame.encode ++ reply.flatMap Frame.encode =
      answer.flatMap Frame.encode ++ rest) : BehindReady (reply.flatMap Frame.encode) rest := by
  rw [← List.flatMap_append] at hstream
  have hall : ∀ f ∈ backlog ++ reply, f.Told :=
    fun f hmem => (List.mem_append.1 hmem).elim (htold f) (htold' f)
  obtain ⟨behind, hframes, rfl⟩ :=
    Frame.exists_behind hall (fun f hmem => (htaken.legal f hmem).told) hstream
  obtain ⟨body, ready, rfl, hcarries, heach, -⟩ := htaken.clean
  obtain ⟨late, hwhole, rfl⟩ | ⟨more, rfl, -⟩ := List.append_eq_append_iff.1 hframes
  · -- What of the answer is not in the backlog has at least its last message.
    obtain rfl | ⟨before, last, rfl⟩ := List.eq_nil_or_concat late
    · rw [hwhole, List.append_nil] at hbeyond
      exact absurd List.prefix_rfl hbeyond
    · rw [List.concat_eq_append] at hwhole ⊢
      rw [← List.append_assoc] at hwhole
      obtain ⟨rfl, hsame⟩ := List.append_inj' hwhole rfl
      obtain ⟨rfl, -⟩ := List.cons.inj hsame
      refine ⟨before, ready, by simp, ⟨.idle, hcarries⟩, fun f hmem status hearly => ?_⟩
      obtain hother | hunasked := heach f (List.mem_append_right _ hmem) _ hearly
      · cases hother
      · exact hunasked
  · exact absurd (List.prefix_append ..) hbeyond

/-- The body of a clean answer leads a probe on to where its end is welcome. -/
theorem exists_leads {body : List Frame} (heach : ∀ f ∈ body, AnswersEmpty f)
    (hread : ∀ f ∈ body, ∃ message, BackendMessage.decode f.tag f.payload = .ok message)
    (sawEmpty : Bool) :
    ∃ sawEmpty', Leads (fun message saw saw' => probeMessage message saw = .more saw') body sawEmpty
        sawEmpty' ∧
      (sawEmpty = true ∨ (∃ f ∈ body, f.Carries .emptyQueryResponse) → sawEmpty' = true) := by
  induction body generalizing sawEmpty with
  | nil => exact ⟨sawEmpty, .nil, fun hsaw => hsaw.resolve_right (by simp)⟩
  | cons f body ih =>
      obtain ⟨hfirst, heach⟩ := List.forall_mem_cons.1 heach
      obtain ⟨⟨message, hhere⟩, hread⟩ := List.forall_mem_cons.1 hread
      -- A frame that is no empty response leaves open whether there is one behind it.
      have hskips (hother : message ≠ some .emptyQueryResponse)
          (hfound : ∃ g ∈ f :: body, g.Carries .emptyQueryResponse) :
          ∃ g ∈ body, g.Carries .emptyQueryResponse := by
        obtain ⟨g, hmem, hcarries⟩ := hfound
        obtain rfl | hmem := List.mem_cons.1 hmem
        · cases hhere.symm.trans hcarries
          exact absurd rfl hother
        · exact ⟨g, hmem, hcarries⟩
      cases message with
      | none =>
          obtain ⟨saw', hleads, hseen⟩ := ih heach hread sawEmpty
          exact ⟨saw', .skip hhere hleads, fun hsaw => hseen (hsaw.imp_right (hskips nofun))⟩
      | some message =>
          obtain rfl | hunasked := hfirst message hhere
          · obtain ⟨saw', hleads, hseen⟩ := ih heach hread true
            exact ⟨saw', .move hhere rfl hleads, fun _ => hseen (.inl rfl)⟩
          · obtain ⟨saw', hleads, hseen⟩ := ih heach hread sawEmpty
            have hgoes : probeMessage message sawEmpty = .more sawEmpty := by
              cases message <;> first | rfl | cases hunasked
            have hother : some message ≠ some .emptyQueryResponse := by
              rintro ⟨⟩
              exact hunasked
            exact ⟨saw', .move hhere hgoes hleads, fun hsaw =>
              hseen (hsaw.imp_right (hskips hother))⟩

/-- Messages that the wire can carry pass for the answer to a probe if they are empty responses, at
least one of them, and messages that nobody asked for, and end with an idle status. -/
theorem takenForAnswer_iff {ms : List BackendMessage} (hsent : ∀ m ∈ ms, m.Representable limit) :
    TakenForAnswer limit (ms.map BackendMessage.frame) ↔
      ∃ body, ms = body ++ [.readyForQuery .idle] ∧
        (∀ m ∈ body, m = .emptyQueryResponse ∨ Unasked m) ∧ .emptyQueryResponse ∈ body := by
  have hreads {m message : BackendMessage} (hmem : m ∈ ms) (hcarries : m.frame.Carries message) :
      message = m := by
    cases (hsent m hmem).decode_frame.symm.trans hcarries
    rfl
  constructor
  · rintro ⟨-, -, body, ready, hframes, hcarries, heach, f, hmem, hempty⟩
    obtain ⟨body, ends, rfl, rfl, hlast⟩ := List.map_eq_append_iff.1 hframes
    obtain ⟨last, rfl, rfl⟩ := List.map_eq_singleton_iff.1 hlast
    obtain rfl := hreads (by simp) hcarries
    refine ⟨body, rfl, fun m hmem => ?_, ?_⟩
    · exact heach m.frame (List.mem_map_of_mem hmem) m
        (hsent m (List.mem_append_left _ hmem)).decode_frame
    · obtain ⟨m, hamong, rfl⟩ := List.mem_map.1 hmem
      obtain rfl := hreads (List.mem_append_left _ hamong) hempty
      exact hamong
  · rintro ⟨body, rfl, heach, hempty⟩
    have hread {m : BackendMessage} (hmem : m ∈ body ++ [.readyForQuery .idle]) :
        m.frame.Carries m :=
      (hsent m hmem).decode_frame
    refine ⟨List.forall_mem_map.2 fun m hmem => (hsent m hmem).legal,
      List.forall_mem_map.2 fun m hmem => ⟨_, hread hmem⟩, body.map BackendMessage.frame,
      (BackendMessage.readyForQuery .idle).frame, List.map_append, hread (by simp), ?_,
      _, List.mem_map_of_mem hempty, hread (List.mem_append_left _ hempty)⟩
    refine List.forall_mem_map.2 fun m hmem message hcarries => ?_
    obtain rfl := hreads (List.mem_append_left _ hmem) hcarries
    exact heach message hmem

end Taken

end Postgres

theorem not_behindReady_of_le {stream rest : Bytes} (hle : stream.length ≤ rest.length) :
    ¬ BehindReady stream rest := by
  rintro ⟨fs, ready, rfl, -⟩
  simp only [List.length_append, Frame.length_encode, Frame.size, headerLength] at hle
  omega

namespace Desk

variable {limit : Nat} {answer : List Frame}

theorem send_empty (d : Desk) : send (FrontendMessage.query "").encode d =
    (.ok 6, { d with unread := d.unread ++ (nothing d.status).flatMap BackendMessage.encode }) :=
  rfl

theorem answering : Postgres.Answering transport unread
    fun d => (nothing d.status).map BackendMessage.frame where
  hears := orderly.hears
  timeout _ _ := ⟨rfl, rfl⟩
  answer d := by
    rw [List.flatMap_map]
    exact congrArg (·.2.unread) (send_empty d)
  told d := by
    cases d.status <;> decide

/-- A desk that sends byte by byte passes a probe with whatever answer comes first. -/
theorem ping_of_taken (htaken : Postgres.TakenForAnswer limit answer) {unread behind : Bytes}
    (hfirst : unread ++ (nothing .idle).flatMap BackendMessage.encode =
      answer.flatMap Frame.encode ++ behind) (timeout : Duration) :
    Link.ping transport timeout { unread, piece := 1 } (.postgres true limit) =
      (true, { unread := behind, piece := 1 }) := by
  let stream := answer.flatMap Frame.encode
  let left (stream : Bytes) : Desk := { unread := stream ++ behind, piece := 1 }
  let handle : Handler Bool Bool Desk := fun message sawEmpty d =>
    (Postgres.probeMessage message sawEmpty, d)
  have hcourse : ∃ n ≤ stream.length, Course (transport.recv Postgres.receiveSize) handle limit n []
      false (left stream) true [] (left []) := by
    obtain ⟨hlegal, hread, body, ready, rfl, hcarries, heach, hempty⟩ := htaken
    simp only [List.forall_mem_append, List.forall_mem_singleton] at hlegal hread
    obtain ⟨sawEmpty, hleads, hseen⟩ := Postgres.exists_leads heach hread.1 false
    obtain rfl := hseen (.inr hempty)
    have hgives : Gives (transport.recv Postgres.receiveSize) fun stream d => d = left stream := by
      rintro stream _ rfl hsome
      obtain ⟨b, bs, rfl⟩ := List.exists_cons_of_ne_nil hsome
      exact ⟨b, [], bs, left bs, rfl, rfl, rfl⟩
    have hgoes m st st' stream d (hmove : Postgres.probeMessage m st = .more st')
        (hnow : d = left stream) : ∃ d', handle m st d = (.more st', d') ∧ d' = left stream :=
      ⟨d, by simp only [handle, hmove], hnow⟩
    have hends stream d (hnow : d = left stream) :
        ∃ d', handle (.readyForQuery .idle) true d = (.done true, d') ∧ d' = left stream :=
      ⟨d, rfl, hnow⟩
    have hbytes : [] ++ stream = body.flatMap Frame.encode ++ (ready.encode ++ []) := by
      simp [stream]
    obtain ⟨n, hfew, rest, stream', d, hcourse, hnone, rfl⟩ :=
      Course.of_leads hgives hgoes hends hlegal.1 hlegal.2 hleads hcarries rfl hbytes
    obtain ⟨rfl, rfl⟩ := List.append_eq_nil_iff.1 hnone
    exact ⟨n, hfew, hcourse⟩
  obtain ⟨n, hfew, hcourse⟩ := hcourse
  have hpatient : n ≤ transport.patience (left stream) := by
    change n ≤ (left stream).unread.length
    rw [List.length_append]
    omega
  obtain ⟨d, hran, -, -, hbuffer⟩ := hcourse.converse (d := { limit })
    (Decoder.sound_of_missing_eq_zero rfl) hpatient
  have hsent : transport.send (FrontendMessage.query "").encode { unread, piece := 1 } =
      (.ok 6, left stream) := by
    have hasked := send_empty { unread, piece := 1 }
    rwa [hfirst] at hasked
  have hprobed : Postgres.probe transport limit { unread, piece := 1 } = (true, left []) := by
    simp only [handle] at hran
    simp only [Postgres.probe, hsent, hran, Decoder.buffered, hbuffer]
    rfl
  exact (Link.timed_eq (t := transport) (fun _ _ => rfl) timeout _ _).trans hprobed

end Desk

/-- A probe that is passed has taken one answer of the right shape off the front of what was unread,
and nothing else. It leaves nothing of its own answer behind, on whichever server and however the
bytes are cut, exactly if no such answer is at the front of the backlog. -/
theorem takesAll_iff (limit : Nat) {backlog : List Frame} (htold : ∀ f ∈ backlog, f.Told) :
    (∀ {σ : Type} (t : Transport σ) (unread : σ → Bytes) (reply : σ → List Frame)
      (timeout : Duration) (world world' : σ), Postgres.Answering t unread reply →
      Link.ping t timeout world (.postgres true limit) = (true, world') →
      ∃ answer, Postgres.TakenForAnswer limit answer ∧
        unread world ++ (reply world).flatMap Frame.encode =
          answer.flatMap Frame.encode ++ unread world') ∧
    (Postgres.TakesAll limit backlog ↔
      ∀ answer, answer <+: backlog → ¬ Postgres.TakenForAnswer limit answer) := by
  refine ⟨fun t unread reply timeout world world' => Postgres.exists_taken_of_ping, ?_, ?_⟩
  · rintro htakes answer ⟨behind, rfl⟩ htaken
    let left := behind.flatMap Frame.encode ++ (Desk.nothing .idle).flatMap BackendMessage.encode
    have hfirst : (answer ++ behind).flatMap Frame.encode ++
        (Desk.nothing .idle).flatMap BackendMessage.encode =
          answer.flatMap Frame.encode ++ left := by
      simp [left]
    have hpassed := Desk.ping_of_taken htaken hfirst ⟨0⟩
    refine not_behindReady_of_le ?_ (htakes _ _ _ _ _ _ Desk.answering rfl hpassed)
    -- All of the reply is still unread.
    rw [List.flatMap_map, List.length_append]
    exact Nat.le_add_left ..
  · intro hunlike σ t unread reply timeout world world' hanswering hleft hpassed
    obtain ⟨answer, htaken, hstream⟩ := Postgres.exists_taken_of_ping hanswering hpassed
    rw [hleft] at hstream
    exact Postgres.behindReady_of_taken htold (hanswering.told world) htaken
      (fun hfront => hunlike answer hfront htaken) hstream

/-- A probe behind an unread notice takes it together with the answer to itself. -/
theorem takesAll_notice :
    let notice := BackendMessage.noticeResponse (.ofParts "NOTICE" "00000" "done")
    (∀ f ∈ [notice.frame], f.Told) ∧ Postgres.TakesAll defaultMaxFrameSize [notice.frame] ∧
      Link.ping Desk.transport ⟨0⟩ { unread := notice.encode, piece := 1 }
        (.postgres true defaultMaxFrameSize) = (true, { unread := [], piece := 1 }) := by
  intro notice
  have htold : ∀ f ∈ [notice.frame], f.Told := by decide +kernel
  have hsent : ∀ m ∈ [notice, .emptyQueryResponse, .readyForQuery .idle],
      m.Representable defaultMaxFrameSize := by decide +kernel
  refine ⟨htold, (takesAll_iff defaultMaxFrameSize htold).2.2 ?_, ?_⟩
  · rintro answer ⟨behind, hfront⟩ ⟨-, -, body, ready, rfl, hcarries, -⟩
    have honly : ready ∈ [notice.frame] := hfront ▸ by simp
    obtain rfl := List.mem_singleton.1 honly
    have hsame := (hsent notice (by simp)).decode_frame.symm.trans hcarries
    simp [notice] at hsame
  · have htaken : Postgres.TakenForAnswer defaultMaxFrameSize
        ([notice, .emptyQueryResponse, .readyForQuery .idle].map BackendMessage.frame) :=
      (Postgres.takenForAnswer_iff hsent).2
        ⟨[notice, .emptyQueryResponse], rfl, by simp [notice, Postgres.Unasked], by simp⟩
    exact Desk.ping_of_taken htaken (by decide +kernel) ⟨0⟩

/-- A probe behind the unread answer to an empty query takes that for its own. What the next receive
gives was sent before. -/
theorem exists_not_takesAll :
    let backlog := (Desk.nothing .idle).map BackendMessage.frame
    (Desk.asked 1).unread = backlog.flatMap Frame.encode ∧
      Link.ping Desk.transport ⟨0⟩ (Desk.asked 1) (.postgres true defaultMaxFrameSize) =
        (true, Desk.asked 1) ∧
      Desk.transport.recv 64 (Desk.asked 1) =
        (.ok (backlog.flatMap Frame.encode), Desk.asked 0) ∧
      ¬ Postgres.TakesAll defaultMaxFrameSize backlog := by
  intro backlog
  have hunread : (Desk.asked 1).unread = backlog.flatMap Frame.encode := by decide +kernel
  have hpassed := Desk.ping_asked 1 ⟨0⟩
  refine ⟨hunread, hpassed, rfl, fun htakes => ?_⟩
  · refine not_behindReady_of_le ?_ (htakes _ _ _ _ _ _ Desk.answering hunread hpassed)
    exact Nat.le_of_eq (congrArg List.length hunread.symm)

end DatabaseGateway
