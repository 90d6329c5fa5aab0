import DatabaseGateway.Proofs.Link.Admission

/-!
What it means that the gateway is authenticated on a link. It says so as soon as the server says
that it is ready. A server says that it accepts a login by an acknowledgement, but the gateway keeps
nothing of one and does not miss it: a login goes the same with all acknowledgements left out of the
stream (`authenticated_by_ready`). So it can succeed before the server has accepted it
(`exists_not_acknowledgedFirst`).
-/

namespace DatabaseGateway

open Wire

namespace Postgres

/-- Of the messages that a login has heard, one accepts it, and no challenge comes behind that. -/
def Acknowledged (ms : List BackendMessage) : Prop :=
  ∃ before after, ms = before ++ .authentication .ok :: after ∧
    .authentication .cleartextPassword ∉ after

/-- Whichever server is logged in to, and however its bytes are cut: a login that succeeds has been
acknowledged before the server was first ready. -/
def AcknowledgedFirst (limit : Nat) : Prop :=
  ∀ {σ : Type} (t : Transport σ) (unread : σ → Bytes) (key : PoolKey) (password : Option String)
    (world world' : σ) (link : Link), Listens t unread →
    Link.openPostgres t key password true limit world = (.ok link, world') →
    ∃ ms rest, FirstReady limit (unread world) ms rest ∧ Acknowledged ms

/-- A login succeeds on some server that says these messages before it is first ready. -/
def LetsIn (password : Option String) (limit : Nat) (ms : List BackendMessage) : Prop :=
  ∃ (σ : Type) (t : Transport σ) (unread : σ → Bytes) (key : PoolKey) (world world' : σ)
    (link : Link) (rest : Bytes), Listens t unread ∧ FirstReady limit (unread world) ms rest ∧
    Link.openPostgres t key password true limit world = (.ok link, world')

def acknowledges (f : Frame) : Bool :=
  match BackendMessage.decode f.tag f.payload with
  | .ok (some (.authentication .ok)) => true
  | _ => false

/-- The frames without the acknowledgements among them. -/
def unacknowledged (fs : List Frame) : List Frame :=
  fs.filter fun f => !acknowledges f

section Blind

variable {password : Option String} {limit : Nat} {stream stream' tail : Bytes} {f : Frame}
  {fs : List Frame} {ms : List BackendMessage} {result : Except GatewayError Unit}

theorem carries_of_acknowledges (h : acknowledges f = true) : f.Carries (.authentication .ok) := by
  unfold acknowledges at h
  split at h
  · next hread => exact hread
  · cases h

theorem Stops.behind (hlegal : f.Legal limit)
    (hstops : Stops password limit (f.encode ++ stream) result) :
    Stops password limit (f.encode ++ stream') result := by
  have hwhole : Frame.split limit (f.encode ++ stream) = .ok (some (f, stream)) :=
    Frame.split_encode_append hlegal
  have hwhole' : Frame.split limit (f.encode ++ stream') = .ok (some (f, stream')) :=
    Frame.split_encode_append hlegal
  cases hstops with
  | message hsplit hcarries hunwelcome =>
      cases hwhole.symm.trans hsplit
      exact .message hwhole' hcarries hunwelcome
  | garbled hrefused =>
      obtain hsplit | ⟨_, _, hsplit, hread⟩ := hrefused <;> cases hwhole.symm.trans hsplit
      exact .garbled (.inr ⟨f, stream', hwhole', hread⟩)
  | short hwaits => cases hwhole.symm.trans hwaits

/-- A frame at the front of a stream is passed over, or stops the login. -/
theorem Decides.of_encode_append (hlegal : f.Legal limit)
    (hdecides : Decides password limit (f.encode ++ stream) ms result) :
    (∃ m ns, BackendMessage.decode f.tag f.payload = .ok m ∧ (∀ a ∈ m, Welcome password a) ∧
      ms = m.toList ++ ns ∧ Decides password limit stream ns result) ∨
    Stops password limit (f.encode ++ stream) result := by
  obtain ⟨gs, rest, hframing, hwelcome, hstops⟩ := hdecides
  obtain ⟨-, rfl, rfl⟩ | ⟨g, behind, m, gs, ns, -, rfl, hsplit, hread, hlater⟩ := hframing.uncons
  · exact .inr hstops
  · cases (Frame.split_encode_append hlegal).symm.trans hsplit
    exact .inl ⟨m, ns, hread,
      fun a hmem => hwelcome a (List.mem_append_left _ (Option.mem_toList.2 hmem)), rfl,
      gs, rest, hlater, fun a hmem => hwelcome a (List.mem_append_right _ hmem), hstops⟩

theorem Decides.encode_append {m : Option BackendMessage} (hlegal : f.Legal limit)
    (hread : BackendMessage.decode f.tag f.payload = .ok m) (hwelcome : ∀ a ∈ m, Welcome password a)
    (hdecides : Decides password limit stream ms result) :
    Decides password limit (f.encode ++ stream) (m.toList ++ ms) result := by
  obtain ⟨gs, rest, hframing, heach, hstops⟩ := hdecides
  have hwhole : Frame.split limit (f.encode ++ stream) = .ok (some (f, stream)) :=
    Frame.split_encode_append hlegal
  have hfirst := Framing.head hwhole hread
  refine ⟨_, rest, hfirst.trans hframing, fun a hmem => ?_, hstops⟩
  exact (List.mem_append.1 hmem).elim (fun hmem => hwelcome a (Option.mem_toList.1 hmem)) (heach a)

/-- A stream decides the same with its acknowledgements left out. -/
theorem Decides.unacknowledged (hlegal : ∀ f ∈ fs, f.Legal limit)
    (hdecides : Decides password limit (fs.flatMap Frame.encode ++ tail) ms result) :
    ∃ ns, Decides password limit ((unacknowledged fs).flatMap Frame.encode ++ tail) ns result := by
  induction fs generalizing ms with
  | nil => exact ⟨ms, hdecides⟩
  | cons f fs ih =>
      obtain ⟨hfirst, hlegal⟩ := List.forall_mem_cons.1 hlegal
      rw [List.flatMap_cons, List.append_assoc] at hdecides
      rw [Postgres.unacknowledged, List.filter_cons]
      obtain ⟨m, ns, hread, hwelcome, -, hlater⟩ | hstops := hdecides.of_encode_append hfirst
      · obtain ⟨ns, hlater⟩ := ih hlegal hlater
        split
        · rw [List.flatMap_cons, List.append_assoc]
          exact ⟨_, hlater.encode_append hfirst hread hwelcome⟩
        · exact ⟨ns, hlater⟩
      · split
        · rw [List.flatMap_cons, List.append_assoc]
          exact ⟨[], [], _, .refl, by simp, hstops.behind hfirst⟩
        · next hacknowledged =>
            -- An acknowledgement stops no login.
            have hcarries : f.Carries (.authentication .ok) :=
              carries_of_acknowledges (by simpa using hacknowledged)
            obtain ⟨hempty, -⟩ := hstops.framing
              (.head (Frame.split_encode_append hfirst) hcarries)
              (List.forall_mem_singleton.2 trivial)
            cases hempty

end Blind

end Postgres

open Postgres

/-- A link that the gateway opened by logging in is an authenticated one, and all that was heard
before the server was ready were welcome messages. -/
theorem Postgres.exists_firstReady_of_opened {σ : Type} {t : Transport σ} {unread : σ → Bytes}
    {key : PoolKey} {password : Option String} {limit : Nat} {world world' : σ} {link : Link}
    (hlistens : Listens t unread)
    (hopened : Link.openPostgres t key password true limit world = (.ok link, world')) :
    link.authenticated = true ∧
      ∃ ms rest, FirstReady limit (unread world) ms rest ∧ ∀ m ∈ ms, Welcome password m := by
  simp only [Link.openPostgres, if_true] at hopened
  rcases hlogin : startup t key password limit world with ⟨_ | _, w⟩ <;> rw [hlogin] at hopened
  · cases hopened
  · cases hopened
    obtain ⟨ms, lost, hfirst, hwelcome⟩ := exists_firstReady_of_startup hlistens hlogin
    exact ⟨rfl, ms, _, hfirst, hwelcome⟩

def ScriptedSocket.saying (bytes : Bytes) : ScriptedSocket := { recvs := [.whole bytes, .whole []] }

theorem ScriptedSocket.unread_saying (bytes : Bytes) : (saying bytes).unread = bytes := by
  simp [saying, unread]

theorem Postgres.exists_opened_of_welcome {password : Option String} {limit : Nat}
    {ms : List BackendMessage} (key : PoolKey)
    (hsent : ∀ m ∈ ms ++ [.readyForQuery .idle], m.Representable limit)
    (hwelcome : ∀ m ∈ ms, Welcome password m) :
    let stream := (ms ++ [BackendMessage.readyForQuery .idle]).flatMap BackendMessage.encode
    FirstReady limit stream ms [] ∧ ∃ socket,
      Link.openPostgres ScriptedSocket.transport key password true limit (.saying stream) =
        (.ok (.postgres true limit), socket) := by
  intro stream
  have hfirst : FirstReady limit stream ms [] := by
    have hfirst := firstReady_of_representable hsent hwelcome []
    rwa [List.append_nil] at hfirst
  have hfull : stream ≠ [] := by simp [stream, BackendMessage.encode, Frame.encode]
  have hahead : ScriptedSocket.Ahead stream (.saying stream) :=
    ⟨[stream], by simpa using hfull.symm, by simp, rfl, rfl⟩
  obtain ⟨heard, result, socket, hdecides, hlogin, -⟩ :=
    startup_decides ScriptedSocket.delivers key password limit hahead
  obtain ⟨-, rfl⟩ := hdecides.unique (hfirst.decides hwelcome)
  exact ⟨hfirst, socket, by simp only [Link.openPostgres, if_true, hlogin]; rfl⟩

/-- What the gateway's login stands for. A link that it opened is an authenticated one, and the
server has said welcome messages before it was ready. It can have said any welcome messages, whether
an acknowledgement is among them or not; and the login ends the same on a stream from which the
acknowledgements are left out. -/
theorem letsIn_iff_welcome {password : Option String} {limit : Nat} {ms : List BackendMessage}
    (hsent : ∀ m ∈ ms ++ [.readyForQuery .idle], m.Representable limit) :
    (LetsIn password limit ms ↔ ∀ m ∈ ms, Welcome password m) ∧
    (∀ {σ : Type} (t : Transport σ) (unread : σ → Bytes) (key : PoolKey) (world world' : σ)
      (link : Link), Listens t unread →
      Link.openPostgres t key password true limit world = (.ok link, world') →
      link.authenticated = true ∧
        ∃ ms rest, FirstReady limit (unread world) ms rest ∧ ∀ m ∈ ms, Welcome password m) ∧
    ∀ {σ τ : Type} (t : Transport σ) (t' : Transport τ) (Ahead : Bytes → σ → Prop)
      (Ahead' : Bytes → τ → Prop) (key : PoolKey) (fs : List Frame) (tail : Bytes) (world : σ)
      (world' : τ), Delivers t Ahead → Delivers t' Ahead' → (∀ f ∈ fs, f.Legal limit) →
      Ahead (fs.flatMap Frame.encode ++ tail) world →
      Ahead' ((unacknowledged fs).flatMap Frame.encode ++ tail) world' →
      (Link.openPostgres t key password true limit world).1 =
        (Link.openPostgres t' key password true limit world').1 := by
  refine ⟨⟨?_, fun hwelcome => ?_⟩, fun _ _ _ _ _ _ => exists_firstReady_of_opened, ?_⟩
  · rintro ⟨σ, t, unread, key, world, world', link, rest, hlistens, hfirst, hopened⟩
    obtain ⟨-, ms', rest', hfirst', hwelcome⟩ := exists_firstReady_of_opened hlistens hopened
    rwa [(hfirst.unique hfirst').1]
  · obtain ⟨hfirst, socket, hopened⟩ :=
      exists_opened_of_welcome ⟨.postgres, "db", 5432, "shop", "app"⟩ hsent hwelcome
    exact ⟨_, _, _, _, _, socket, _, [], ScriptedSocket.listens,
      by rwa [ScriptedSocket.unread_saying], hopened⟩
  · intro σ τ t t' Ahead Ahead' key fs tail world world' hdelivers hdelivers' hlegal hahead hahead'
    obtain ⟨ms, result, w, hdecides, hlogin, -⟩ :=
      startup_decides hdelivers key password limit hahead
    obtain ⟨ms', result', w', hdecides', hlogin', -⟩ :=
      startup_decides hdelivers' key password limit hahead'
    obtain ⟨ns, hwithout⟩ := hdecides.unacknowledged hlegal
    obtain ⟨-, rfl⟩ := hwithout.unique hdecides'
    simp only [Link.openPostgres, if_true, hlogin, hlogin']

/-- A server that asks for the password and does not say what it makes of it lets the gateway in. -/
theorem letsIn_unanswered : LetsIn (some "secret") defaultMaxFrameSize
    [.authentication .cleartextPassword] :=
  (letsIn_iff_welcome (by decide +kernel)).1.2 (List.forall_mem_singleton.2 rfl)

/-- A server that says that it is ready and nothing else. -/
theorem exists_not_acknowledgedFirst :
    (∃ socket, Link.openPostgres ScriptedSocket.transport ⟨.postgres, "db", 5432, "shop", "app"⟩
      none true defaultMaxFrameSize (.saying (BackendMessage.readyForQuery .idle).encode) =
        (.ok (.postgres true defaultMaxFrameSize), socket)) ∧
    ¬ AcknowledgedFirst defaultMaxFrameSize := by
  let key : PoolKey := ⟨.postgres, "db", 5432, "shop", "app"⟩
  have hsent : ∀ m ∈ [] ++ [BackendMessage.readyForQuery .idle],
      m.Representable defaultMaxFrameSize := by decide
  have hwelcome : ∀ m ∈ [], Welcome none m := by simp
  obtain ⟨hfirst, socket, hopened⟩ := exists_opened_of_welcome key hsent hwelcome
  refine ⟨⟨socket, hopened⟩, fun hacknowledged => ?_⟩
  obtain ⟨ms, rest, hfirst', before, after, hsplit, -⟩ :=
    hacknowledged _ _ key none _ _ _ ScriptedSocket.listens hopened
  rw [ScriptedSocket.unread_saying] at hfirst'
  obtain ⟨rfl, -⟩ := hfirst.unique hfirst'
  simp at hsplit

end DatabaseGateway
