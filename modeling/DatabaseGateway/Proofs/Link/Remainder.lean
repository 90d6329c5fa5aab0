import DatabaseGateway.Proofs.Link.Admission

/-!
What the gateway's login leaves of a stream for the guest. The login stops behind the message that
says that the server is ready, but it has received all of the piece in which that message ends, and
keeps nothing of it. What the piece has behind the message is lost; all that comes in later pieces
is the guest's, in its order (`startup_leaves`). So a server that says more at once is not heard in
full (`exists_not_swallowsNothing`).
-/

namespace DatabaseGateway

open Wire

variable {σ : Type}

/-- A stream with a record of the pieces that were received. -/
def Transport.overheard (t : Transport σ) : Transport (σ × List Bytes) where
  send data := fun (world, log) =>
    let (answer, world) := t.send data world
    (answer, world, log)
  recv most := fun (world, log) =>
    match t.recv most world with
    | (.ok bytes, world) => (.ok bytes, world, log ++ [bytes])
    | (.error e, world) => (.error e, world, log)
  ping span := fun (world, log) =>
    let (alive, world) := t.ping span world
    (alive, world, log)
  setReadTimeout span := fun (world, log) =>
    let (answer, world) := t.setReadTimeout span world
    (answer, world, log)
  close := fun (world, log) => (t.close world, log)
  patience := fun (world, _) => t.patience world

/-- Receives several times, at most so many bytes each time, and puts together what comes. -/
def Transport.receiveAll (t : Transport σ) : (sizes : List Nat) → σ → Bytes × σ
  | [], world => ([], world)
  | most :: sizes, world =>
    match t.recv most world with
    | (.ok bytes, world) =>
      let (later, world) := t.receiveAll sizes world
      (bytes ++ later, world)
    | (.error _, world) => t.receiveAll sizes world

namespace Postgres

variable {t : Transport σ} {unread : σ → Bytes} {limit : Nat} {stream rest more : Bytes}
  {ms : List BackendMessage}

/-- What a guest receives from here on, however often and how much at a time, is what follows the
first message of the stream that says that the server is ready. -/
def PassesOn (t : Transport σ) (unread : σ → Bytes) (limit : Nat) (stream : Bytes) (world : σ) :
    Prop :=
  ∀ sizes, ∃ ms, FirstReady limit stream ms
    ((t.receiveAll sizes world).1 ++ unread (t.receiveAll sizes world).2)

/-- Whichever server is logged in to, and however its bytes are cut: a login that succeeds leaves to
the guest all that follows the first message that says that the server is ready. -/
def SwallowsNothing (limit : Nat) : Prop :=
  ∀ {σ : Type} (t : Transport σ) (unread : σ → Bytes) (key : PoolKey) (password : Option String)
    (world world' : σ) (link : Link), Listens t unread →
    Link.openPostgres t key password true limit world = (.ok link, world') →
    PassesOn t unread limit (unread world) world'

theorem Listens.receiveAll (hlistens : Listens t unread) (sizes : List Nat) (world : σ) :
    unread world = (t.receiveAll sizes world).1 ++ unread (t.receiveAll sizes world).2 := by
  induction sizes generalizing world with
  | nil => rfl
  | cons most sizes ih =>
      rw [Transport.receiveAll]
      rcases hheard : t.recv most world with ⟨e | bytes, world'⟩
      · rw [← hlistens.fails hheard]
        exact ih world'
      · rw [hlistens.hears most hheard, ih world', List.append_assoc]

theorem FirstReady.append_iff :
    FirstReady limit (stream ++ more) ms (rest ++ more) ↔ FirstReady limit stream ms rest := by
  constructor
  · rintro ⟨fs, left, f, status, ⟨hbytes, hlegal, hconveys⟩, hnone, hsplit, hcarries⟩
    obtain ⟨hwhole, rfl⟩ := Frame.split_eq_some_iff.1 hsplit
    rw [← List.append_assoc, ← List.append_assoc] at hbytes
    have hbytes := List.append_cancel_right hbytes
    rw [List.append_assoc] at hbytes
    exact ⟨fs, _, f, status, ⟨hbytes, hlegal, hconveys⟩, hnone, Frame.split_encode_append hwhole,
      hcarries⟩
  · rintro ⟨fs, left, f, status, hframing, hnone, hsplit, hcarries⟩
    exact ⟨fs, _, f, status, hframing.extend more, hnone, Frame.split_append_of_some hsplit,
      hcarries⟩

section Overheard

variable {most pieces : Nat} {buffer : Bytes} {w w' : σ × List Bytes} {γ β : Type} {state : γ}
  {outcome : β} {handle : Handler γ β (σ × List Bytes)}

theorem overheard_shows (t : Transport σ) : t.overheard.Shows t Prod.fst where
  send _ _ := rfl
  recv most v := by
    simp only [Transport.overheard]
    rcases t.recv most v.1 with ⟨_ | _, w⟩ <;> rfl
  patience _ := rfl

theorem recv_overheard {bytes : Bytes} (hheard : t.overheard.recv most w = (.ok bytes, w')) :
    t.recv most w.1 = (.ok bytes, w'.1) ∧ w'.2 = w.2 ++ [bytes] := by
  simp only [Transport.overheard] at hheard
  split at hheard
  · next hreceived =>
      cases hheard
      exact ⟨hreceived, rfl⟩
  · cases hheard

/-- What a conversation leaves behind its last message is an end of the last piece that it received,
and not all of that piece. If it received none, the buffer began with a complete frame. -/
theorem last_piece (hsilent : ∀ message state w, (handle message state w).2.2 = w.2)
    (hcourse : Course (t.overheard.recv most) handle limit pieces buffer state w outcome rest w') :
    ∃ taken, w'.2 = w.2 ++ taken ∧
      ((taken = [] ∧
          ∃ (f : Frame) (mid : Bytes), f.Legal limit ∧ buffer = f.encode ++ (mid ++ rest)) ∨
        ∃ before front, front ≠ [] ∧ taken = before ++ [front ++ rest]) := by
  induction hcourse with
  | skip hsplit _ _ ih =>
      obtain ⟨hlegal, rfl⟩ := Frame.split_eq_some_iff.1 hsplit
      obtain ⟨taken, hlog, ⟨rfl, g, mid, -, rfl⟩ | hback⟩ := ih
      · exact ⟨[], hlog, .inl ⟨rfl, _, g.encode ++ mid, hlegal, by rw [List.append_assoc]⟩⟩
      · exact ⟨taken, hlog, .inr hback⟩
  | @more _ _ _ _ state _ world _ _ _ _ message hsplit _ hstep _ ih =>
      obtain ⟨hlegal, rfl⟩ := Frame.split_eq_some_iff.1 hsplit
      have hsame := hsilent message state world
      rw [hstep] at hsame
      obtain ⟨taken, hlog, ⟨rfl, g, mid, -, rfl⟩ | hback⟩ := ih
      · exact ⟨[], hsame ▸ hlog, .inl ⟨rfl, _, g.encode ++ mid, hlegal, by rw [List.append_assoc]⟩⟩
      · exact ⟨taken, hsame ▸ hlog, .inr hback⟩
  | @done _ rest state world _ _ _ message hsplit _ hlast =>
      obtain ⟨hlegal, rfl⟩ := Frame.split_eq_some_iff.1 hsplit
      have hsame := hsilent message state world
      rw [hlast] at hsame
      exact ⟨[], by rw [List.append_nil]; exact hsame, .inl ⟨rfl, _, [], hlegal, rfl⟩⟩
  | @fed _ buffer rest _ _ _ _ _ b bs hwaits hreceived _ ih =>
      obtain ⟨-, hlog⟩ := recv_overheard hreceived
      obtain ⟨taken, hlog', ⟨rfl, f, mid, hlegal, hbytes⟩ | ⟨before, front, hsome, rfl⟩⟩ := ih
      · -- The frame was not complete before this piece.
        rw [hlog, List.append_nil] at hlog'
        refine ⟨[b :: bs], hlog', .inr ⟨[], ?_⟩⟩
        obtain ⟨lack, hencoded, hpiece⟩ | ⟨behind, rfl, -⟩ := List.append_eq_append_iff.1 hbytes
        · refine ⟨lack ++ mid, fun hnone => ?_, by rw [hpiece, List.append_assoc]; rfl⟩
          obtain ⟨rfl, -⟩ := List.append_eq_nil_iff.1 hnone
          rw [List.append_nil] at hencoded
          have hwhole : Frame.split limit (f.encode ++ []) = .ok (some (f, [])) :=
            Frame.split_encode_append hlegal
          rw [List.append_nil, hencoded] at hwhole
          cases hwhole.symm.trans hwaits
        · cases (Frame.split_encode_append hlegal).symm.trans hwaits
      · exact ⟨(b :: bs) :: (before ++ [front ++ rest]),
          by rw [hlog', hlog, List.append_assoc]; rfl,
          .inr ⟨(b :: bs) :: before, front, hsome, rfl⟩⟩

theorem Listens.overheard (hlistens : Listens t unread) :
    Listens t.overheard (unread ∘ Prod.fst) where
  hears most w bytes w' hheard := hlistens.hears most (recv_overheard hheard).1
  fails := by
    intro most w e w' hheard
    simp only [Transport.overheard] at hheard
    split at hheard
    · cases hheard
    · next hfailed =>
        cases hheard
        exact hlistens.fails hfailed
  send data w := hlistens.send data w.1

def whole (unread : σ → Bytes) (w : σ × List Bytes) : Bytes := w.2.flatten ++ unread w.1

theorem Listens.whole_recv {answer : Bytes} (hlistens : Listens t unread)
    (hheard : t.overheard.recv most w = (.ok answer, w')) : whole unread w' = whole unread w := by
  obtain ⟨hreceived, hlog⟩ := recv_overheard hheard
  rw [whole, whole, hlog, List.flatten_append, hlistens.hears _ hreceived]
  simp

theorem Listens.whole_send (hlistens : Listens t unread) (data : Bytes) (w : σ × List Bytes) :
    whole unread (t.overheard.send data w).2 = whole unread w :=
  congrArg (w.2.flatten ++ ·) (hlistens.send data w.1)

/-- A login that succeeded, with the pieces that it received. What it has heard behind the message
that says that the server is ready is an end of the last of them. -/
theorem exists_last_piece {key : PoolKey} {password : Option String} {world world' : σ}
    (hlistens : Listens t unread)
    (hlogin : startup t key password limit world = (.ok (), world')) :
    ∃ ms before front lost, front ≠ [] ∧
      startup t.overheard key password limit (world, []) =
        (.ok (), world', before ++ [front ++ lost]) ∧
      FirstReady limit (before ++ [front ++ lost]).flatten ms lost ∧
      unread world = (before ++ [front ++ lost]).flatten ++ unread world' := by
  have hplain := startup_shows (overheard_shows t) key password limit (world, [])
  rcases hran : startup t.overheard key password limit (world, []) with ⟨result, w, log⟩
  rw [hran, hlogin] at hplain
  cases hplain
  obtain ⟨n, ⟨w₁, log₁⟩, hsent, pieces, -, lost, hcourse⟩ := startup_eq_ok_iff.1 hran
  have hbegun : [] = log₁ := congrArg (fun r => r.2.2) hsent
  subst hbegun
  have hsame : unread w₁ = unread world :=
    (congrArg (fun r => unread r.2.1) hsent).symm.trans (hlistens.send _ world)
  have hall : whole unread (w, log) = whole unread (w₁, []) :=
    hcourse.keeps hlistens.whole_recv fun _ _ _ => startupMessage_keeps hlistens.whole_send
  obtain ⟨taken, rfl, ⟨-, f, mid, -, hnone⟩ | ⟨before, front, hsome, rfl⟩⟩ :=
    last_piece (fun _ _ _ => startupMessage_keeps fun _ _ => rfl) hcourse
  · simp [Frame.encode] at hnone
  · have hgiven : unread world = (before ++ [front ++ lost]).flatten ++ unread w := by
      rw [← hsame]
      simpa [whole] using hall.symm
    obtain ⟨ms, hfirst, -⟩ := exists_firstReady_of_ended <|
      hcourse.ended (hlistens.overheard.hears _) fun _ _ _ =>
        startupMessage_keeps hlistens.overheard.send
    change FirstReady limit ([] ++ unread w₁) ms (lost ++ unread w) at hfirst
    rw [List.nil_append, hsame, hgiven] at hfirst
    exact ⟨ms, before, front, lost, hsome, rfl, FirstReady.append_iff.1 hfirst, hgiven⟩

end Overheard

end Postgres

open Postgres

/-- What a login that succeeded leaves. The message that says that the server is ready ends in the
last piece that was received; what the piece has behind it is lost, and what the guest receives is
what comes behind that. This is all that follows the message exactly if nothing is lost. -/
theorem startup_leaves {t : Transport σ} {unread : σ → Bytes} {limit : Nat} {key : PoolKey}
    {password : Option String} {world world' : σ} {link : Link} (hlistens : Listens t unread)
    (hopened : Link.openPostgres t key password true limit world = (.ok link, world')) :
    ∃ ms before front lost, front ≠ [] ∧
      startup t.overheard key password limit (world, []) =
        (.ok (), world', before ++ [front ++ lost]) ∧
      FirstReady limit (before ++ [front ++ lost]).flatten ms lost ∧
      (∀ sizes, FirstReady limit (unread world) ms
        (lost ++ ((t.receiveAll sizes world').1 ++ unread (t.receiveAll sizes world').2))) ∧
      (PassesOn t unread limit (unread world) world' ↔ lost = []) := by
  rcases hlogin : startup t key password limit world with ⟨_ | _, w⟩
  · simp [Link.openPostgres, hlogin, Except.map] at hopened
  · simp only [Link.openPostgres, if_true, hlogin, Except.map] at hopened
    cases hopened
    obtain ⟨ms, before, front, lost, hsome, hran, hfirst, hgiven⟩ :=
      exists_last_piece hlistens hlogin
    have hbehind (sizes : List Nat) : FirstReady limit (unread world) ms
        (lost ++ ((t.receiveAll sizes world').1 ++ unread (t.receiveAll sizes world').2)) := by
      rw [← hlistens.receiveAll sizes world', hgiven]
      exact FirstReady.append_iff.2 hfirst
    refine ⟨ms, before, front, lost, hsome, hran, hfirst, hbehind, fun hpasses => ?_, ?_⟩
    · obtain ⟨ms', hfirst'⟩ := hpasses []
      exact List.append_left_eq_self.1 ((hbehind []).unique hfirst').2
    · rintro rfl sizes
      exact ⟨ms, hbehind sizes⟩

namespace Greeting

def accepted : Bytes :=
  [BackendMessage.authentication .ok, .readyForQuery .idle].flatMap BackendMessage.encode

def notice : Bytes := (BackendMessage.noticeResponse (.ofParts "NOTICE" "00000" "hello")).encode

def server (more : Bytes) (later : List Supply) : ScriptedSocket :=
  { recvs := .whole (accepted ++ more) :: later }

def key : PoolKey := ⟨.postgres, "db", 5432, "shop", "app"⟩

theorem firstReady (rest : Bytes) :
    FirstReady defaultMaxFrameSize (accepted ++ rest) [.authentication .ok] rest := by
  have hsent : ∀ m ∈ [BackendMessage.authentication .ok] ++ [.readyForQuery .idle],
      m.Representable defaultMaxFrameSize := by decide
  have hwelcome : ∀ m ∈ [BackendMessage.authentication .ok], Welcome none m :=
    List.forall_mem_singleton.2 trivial
  exact firstReady_of_representable hsent hwelcome rest

theorem exists_opened (more : Bytes) (later : List Supply) :
    ∃ socket, Link.openPostgres ScriptedSocket.transport key none true defaultMaxFrameSize
      (server more later) = (.ok (.postgres true defaultMaxFrameSize), socket) ∧
        socket.recvs = later := by
  have hpatient (socket : ScriptedSocket)
      (hrecvs : socket.recvs = .whole (accepted ++ more) :: later) : 1 ≤ socket.pending := by
    rw [ScriptedSocket.pending_eq_length_unread, ScriptedSocket.unread, hrecvs]
    simp [accepted, BackendMessage.encode, Frame.encode]
  have hlogin : ∃ socket, startup ScriptedSocket.transport key none defaultMaxFrameSize
      (server more later) = (.ok (), socket) ∧ socket.recvs = later :=
    ⟨_, startup_eq_ok_iff.2 ⟨_, _, rfl, 1, hpatient _ rfl, _,
      .fed rfl rfl (.more rfl rfl rfl (.done rfl rfl rfl))⟩, rfl⟩
  obtain ⟨socket, hlogin, hrecvs⟩ := hlogin
  exact ⟨socket, by simp only [Link.openPostgres, if_true, hlogin]; rfl, hrecvs⟩

end Greeting

open Greeting in
/-- A notice that comes in a piece of its own is the guest's. -/
theorem startup_leaves_notice :
    ∃ socket, Link.openPostgres ScriptedSocket.transport key none true defaultMaxFrameSize
        (server [] [.whole notice]) = (.ok (.postgres true defaultMaxFrameSize), socket) ∧
      PassesOn ScriptedSocket.transport ScriptedSocket.unread defaultMaxFrameSize
        (accepted ++ notice) socket := by
  obtain ⟨socket, hopened, hrecvs⟩ := exists_opened [] [.whole notice]
  obtain ⟨ms, _, _, lost, -, -, -, hbehind, hiff⟩ := startup_leaves ScriptedSocket.listens hopened
  have hstream : (server [] [.whole notice]).unread = accepted ++ notice := by
    simp [server, ScriptedSocket.unread]
  have hleft : socket.unread = notice := by
    simp [ScriptedSocket.unread, hrecvs]
  rw [hstream] at hbehind hiff
  have hnothing : lost ++ ([] ++ socket.unread) = notice :=
    ((hbehind []).unique (firstReady notice)).2
  rw [List.nil_append, hleft] at hnothing
  exact ⟨socket, hopened, hiff.2 (List.append_left_eq_self.1 hnothing)⟩

open Greeting in
/-- A notice that comes in the piece in which the server is ready is lost. -/
theorem exists_not_swallowsNothing :
    (∃ socket, Link.openPostgres ScriptedSocket.transport key none true defaultMaxFrameSize
        (server notice []) = (.ok (.postgres true defaultMaxFrameSize), socket) ∧
      socket.unread = []) ∧
    ¬ SwallowsNothing defaultMaxFrameSize := by
  obtain ⟨socket, hopened, hrecvs⟩ := exists_opened notice []
  have hleft : socket.unread = [] := by
    simp [ScriptedSocket.unread, hrecvs]
  refine ⟨⟨socket, hopened, hleft⟩, fun hswallows => ?_⟩
  obtain ⟨ms, hfirst⟩ := hswallows _ _ _ _ _ _ _ ScriptedSocket.listens hopened []
  have hstream : (server notice []).unread = accepted ++ notice := by
    simp [server, ScriptedSocket.unread]
  rw [hstream] at hfirst
  have hlost : notice = [] ++ socket.unread := ((firstReady notice).unique hfirst).2
  rw [hleft] at hlost
  cases hlost

end DatabaseGateway
