import DatabaseGateway.Proofs.Link.Login
import DatabaseGateway.Proofs.Link.Parameters
import DatabaseGateway.Proofs.Link.Probe
import DatabaseGateway.Proofs.Wire.Backend

/-!
Which servers the gateway's login accepts. What decides is the stream of the server's bytes, not the
pieces they come in: the messages are taken in their order as long as they are welcome, and the
first thing that is not settles the result. It is a message, bytes that are no message, or the end
of the stream (`Postgres.Decides`). Every stream decides exactly one result, and a login on it has
that result, whatever the pieces (`startup_decided`).

`Upholds` carries the argument: while the login goes on, what has been taken, what is in the buffer
and what is still to come are together the stream.
-/

namespace DatabaseGateway

open Wire

variable {σ : Type}

/-- A stream over worlds of which another stream sees a part: what the other does not see changes
nothing of what is received and sent. -/
structure Transport.Shows {τ : Type} (t' : Transport τ) (t : Transport σ) (view : τ → σ) :
    Prop where
  send : ∀ data v, t.send data (view v) = (t'.send data v).map id view
  recv : ∀ most v, t.recv most (view v) = (t'.recv most v).map id view
  patience : ∀ v, t.patience (view v) = t'.patience v

theorem Transport.recorded_shows (t : Transport σ) : t.recorded.Shows t Prod.fst :=
  ⟨fun _ _ => rfl, fun _ _ => rfl, fun _ => rfl⟩

namespace Postgres

/-! ### What a stream decides -/

/-- A message that the login goes on after. A challenge can be met with a password only. -/
def Welcome (password : Option String) : BackendMessage → Prop
  | .authentication .ok | .parameterStatus .. | .backendKeyData .. | .noticeResponse _ => True
  | .authentication .cleartextPassword => password.isSome
  | _ => False

def reply (password : Option String) : BackendMessage → List Bytes
  | .authentication .cleartextPassword =>
    password.toList.map fun p => (FrontendMessage.password p).encode
  | _ => []

def outcome : BackendMessage → Except GatewayError Unit
  | .readyForQuery _ => .ok ()
  | .errorResponse report => .error (.connectionRefused report.text)
  | .authentication .cleartextPassword =>
    .error (.protocol "server requested a password but none was supplied")
  | .authentication method =>
    let code := toString method.code.toInt
    .error (.protocol s!"unsupported authentication method (code {code})")
  | other =>
    let letter := other.letter
    .error (.protocol s!"unexpected message '{letter}' during startup")

inductive Stops (password : Option String) (limit : Nat) (bytes : Bytes) :
    Except GatewayError Unit → Prop
  /-- The first frame carries a message that is not welcome. -/
  | message {f : Frame} {behind : Bytes} {m : BackendMessage}
      (split : Frame.split limit bytes = .ok (some (f, behind))) (carries : f.Carries m)
      (unwelcome : ¬ Welcome password m) : Stops password limit bytes (outcome m)
  /-- The first frame is refused. -/
  | garbled {e : WireError} (refused : Refused BackendMessage.decode limit bytes e) :
      Stops password limit bytes (.error (.protocol ("startup: " ++ e.text)))
  /-- The first frame is not complete, and nothing more comes. -/
  | short (waits : Frame.split limit bytes = .ok none) :
      Stops password limit bytes (.error (.closed "server closed the connection during startup"))

/-- A stream decides the result of a login: it begins with frames that carry `ms`, which are all
welcome, and what follows stops the login. -/
def Decides (password : Option String) (limit : Nat) (stream : Bytes) (ms : List BackendMessage)
    (result : Except GatewayError Unit) : Prop :=
  ∃ fs rest, Framing BackendMessage.decode limit stream fs ms rest ∧
    (∀ m ∈ ms, Welcome password m) ∧ Stops password limit rest result

/-- A stream begins with frames that carry `ms`, none of which says that the server is ready, and
then a frame that says so; `rest` follows. -/
def FirstReady (limit : Nat) (stream : Bytes) (ms : List BackendMessage) (rest : Bytes) : Prop :=
  ∃ fs left f status, Framing BackendMessage.decode limit stream fs ms left ∧
    (∀ s, .readyForQuery s ∉ ms) ∧ Frame.split limit left = .ok (some (f, rest)) ∧
    f.Carries (.readyForQuery status)

section Decides

variable {password : Option String} {limit : Nat} {stream rest bytes : Bytes} {fs : List Frame}
  {ms ns : List BackendMessage} {m : BackendMessage} {result result' : Except GatewayError Unit}

theorem not_welcome_readyForQuery (s : TransactionStatus) :
    ¬ Welcome password (.readyForQuery s) := id

/-- Where a login stops nothing welcome begins. -/
theorem Stops.framing (hstops : Stops password limit bytes result)
    (hframing : Framing BackendMessage.decode limit bytes fs ms rest)
    (hwelcome : ∀ m ∈ ms, Welcome password m) : ms = [] ∧ rest = bytes := by
  obtain ⟨-, rfl, rfl⟩ | ⟨f, behind, m, _, _, -, rfl, hsplit, hread, -⟩ := hframing.uncons
  · exact ⟨rfl, rfl⟩
  · cases hstops with
    | message hsplit' hcarries hunwelcome =>
        cases hsplit.symm.trans hsplit'
        cases hread.symm.trans hcarries
        exact absurd (hwelcome _ (by simp)) hunwelcome
    | garbled hrefused =>
        obtain hsplit' | ⟨_, _, hsplit', hread'⟩ := hrefused <;> cases hsplit.symm.trans hsplit'
        cases hread.symm.trans hread'
    | short hwaits => cases hsplit.symm.trans hwaits

theorem Stops.unique (hstops : Stops password limit bytes result)
    (hstops' : Stops password limit bytes result') : result = result' := by
  cases hstops with
  | message hsplit hcarries hunwelcome =>
      cases hstops' with
      | message hsplit' hcarries' _ =>
          cases hsplit.symm.trans hsplit'
          cases hcarries.symm.trans hcarries'
          rfl
      | garbled hrefused =>
          obtain hsplit' | ⟨_, _, hsplit', hread⟩ := hrefused <;> cases hsplit.symm.trans hsplit'
          cases hcarries.symm.trans hread
      | short hwaits => cases hsplit.symm.trans hwaits
  | garbled hrefused =>
      cases hstops' with
      | message hsplit hcarries _ =>
          obtain hsplit' | ⟨_, _, hsplit', hread⟩ := hrefused <;> cases hsplit.symm.trans hsplit'
          cases hcarries.symm.trans hread
      | garbled hrefused' => rw [hrefused.unique hrefused']
      | short hwaits =>
          obtain hsplit | ⟨_, _, hsplit, _⟩ := hrefused <;> cases hsplit.symm.trans hwaits
  | short hwaits =>
      cases hstops' with
      | message hsplit _ _ => cases hsplit.symm.trans hwaits
      | garbled hrefused =>
          obtain hsplit | ⟨_, _, hsplit, _⟩ := hrefused <;> cases hsplit.symm.trans hwaits
      | short _ => rfl

theorem Decides.unique (hdecides : Decides password limit stream ms result)
    (hdecides' : Decides password limit stream ns result') : ms = ns ∧ result = result' := by
  obtain ⟨fs, rest, hframing, hwelcome, hstops⟩ := hdecides
  obtain ⟨gs, rest', hframing', hwelcome', hstops'⟩ := hdecides'
  obtain ⟨more, later, rfl, hbetween⟩ | ⟨more, later, rfl, hbetween⟩ := hframing.compare hframing'
  · obtain ⟨rfl, rfl⟩ := hstops.framing hbetween fun m hmem =>
      hwelcome' m (List.mem_append_right _ hmem)
    exact ⟨(List.append_nil _).symm, hstops.unique hstops'⟩
  · obtain ⟨rfl, rfl⟩ := hstops'.framing hbetween fun m hmem =>
      hwelcome m (List.mem_append_right _ hmem)
    exact ⟨List.append_nil _, hstops.unique hstops'⟩

theorem FirstReady.unique {rest' : Bytes} (hfirst : FirstReady limit stream ms rest)
    (hfirst' : FirstReady limit stream ns rest') : ms = ns ∧ rest = rest' := by
  obtain ⟨fs, left, f, status, hframing, hnone, hsplit, hcarries⟩ := hfirst
  obtain ⟨gs, left', f', status', hframing', hnone', hsplit', hcarries'⟩ := hfirst'
  obtain ⟨more, later, rfl, hbetween⟩ | ⟨more, later, rfl, hbetween⟩ := hframing.compare hframing'
  · obtain ⟨-, rfl, rfl⟩ | ⟨_, _, _, _, _, -, rfl, hhere, hread, -⟩ := hbetween.uncons
    · cases hsplit.symm.trans hsplit'
      exact ⟨(List.append_nil _).symm, rfl⟩
    · cases hsplit.symm.trans hhere
      cases hcarries.symm.trans hread
      exact absurd (by simp) (hnone' status)
  · obtain ⟨-, rfl, rfl⟩ | ⟨_, _, _, _, _, -, rfl, hhere, hread, -⟩ := hbetween.uncons
    · cases hsplit.symm.trans hsplit'
      exact ⟨List.append_nil _, rfl⟩
    · cases hsplit'.symm.trans hhere
      cases hcarries'.symm.trans hread
      exact absurd (by simp) (hnone status')

theorem eq_readyForQuery_of_outcome (haccepted : outcome m = .ok ()) :
    ∃ status, m = .readyForQuery status := by
  unfold outcome at haccepted
  split at haccepted
  case h_1 status => exact ⟨status, rfl⟩
  all_goals cases haccepted

theorem FirstReady.decides (hfirst : FirstReady limit stream ms rest)
    (hwelcome : ∀ m ∈ ms, Welcome password m) : Decides password limit stream ms (.ok ()) := by
  obtain ⟨fs, left, f, status, hframing, -, hsplit, hcarries⟩ := hfirst
  exact ⟨fs, left, hframing, hwelcome, .message hsplit hcarries (not_welcome_readyForQuery status)⟩

/-- A stream decides that the login succeeds if only welcome messages come before the first that
says that the server is ready. -/
theorem exists_decides_ok_iff :
    (∃ ms, Decides password limit stream ms (.ok ())) ↔
      ∃ ms rest, FirstReady limit stream ms rest ∧ ∀ m ∈ ms, Welcome password m := by
  constructor
  · rintro ⟨ms, fs, left, hframing, hwelcome, hstops⟩
    have hnone (s : TransactionStatus) : .readyForQuery s ∉ ms := hwelcome _
    generalize haccepted : (Except.ok () : Except GatewayError Unit) = result at hstops
    cases hstops with
    | message hsplit hcarries _ =>
        obtain ⟨status, rfl⟩ := eq_readyForQuery_of_outcome haccepted.symm
        exact ⟨ms, _, ⟨fs, left, _, status, hframing, hnone, hsplit, hcarries⟩, hwelcome⟩
    | garbled _ => cases haccepted
    | short _ => cases haccepted
  · rintro ⟨ms, rest, hfirst, hwelcome⟩
    exact ⟨ms, hfirst.decides hwelcome⟩

/-- Messages that the wire can carry are found before the first that says that the server is
ready. -/
theorem firstReady_of_representable {status : TransactionStatus}
    (hsent : ∀ m ∈ ms ++ [.readyForQuery status], m.Representable limit)
    (hwelcome : ∀ m ∈ ms, Welcome password m) (rest : Bytes) :
    FirstReady limit
      ((ms ++ [BackendMessage.readyForQuery status]).flatMap BackendMessage.encode ++ rest) ms
      rest := by
  obtain ⟨hsent, hready⟩ := List.forall_mem_append.1 hsent
  have hready := List.forall_mem_singleton.1 hready
  have hframing := Framing.of_map (fun m hmem => (hsent m hmem).legal)
    (fun m hmem => (hsent m hmem).decode_frame)
    ((BackendMessage.readyForQuery status).encode ++ rest)
  have hbytes : (ms ++ [BackendMessage.readyForQuery status]).flatMap BackendMessage.encode ++ rest
      = (ms.map BackendMessage.frame).flatMap Frame.encode ++
        ((BackendMessage.readyForQuery status).encode ++ rest) := by
    rw [List.flatMap_append, List.flatMap_singleton, List.flatMap_map, List.append_assoc]
    rfl
  exact ⟨_, _, _, status, hbytes ▸ hframing, fun _ hmem => hwelcome _ hmem,
    Frame.split_encode_append hready.legal, hready.decode_frame⟩

end Decides

/-! ### What the gateway does -/

/-- The stream of a server comes in pieces, whichever they are, and then its end; all that is sent
is accepted. `Ahead stream` holds of worlds that have `stream` ahead of them. -/
structure Delivers (t : Transport σ) (Ahead : Bytes → σ → Prop) : Prop where
  gives : Gives (t.recv receiveSize) Ahead
  ends : ∀ {world}, Ahead [] world → ∃ world', t.recv receiveSize world = (.ok [], world')
  accepts : ∀ {stream world}, Ahead stream world → ∀ data, ∃ world',
    t.send data world = (.ok data.length, world') ∧ Ahead stream world'
  patient : ∀ {stream world}, Ahead stream world → stream.length ≤ t.patience world

section Startup

variable {t : Transport σ} {Ahead : Bytes → σ → Prop} {password : Option String} {limit : Nat}
  {stream : Bytes} {m : BackendMessage} {world : σ} {log : List Bytes}

/-- A welcome message is answered as it asks for. -/
theorem startupMessage_of_welcome (hdelivers : Delivers t Ahead) (hahead : Ahead stream world)
    (hwelcome : Welcome password m) :
    ∃ world', startupMessage t.recorded password m (world, log) =
      (.more (), world', log ++ reply password m) ∧ Ahead stream world' := by
  cases m with
  | authentication request =>
      cases request with
      | cleartextPassword =>
          obtain ⟨p, rfl⟩ := Option.isSome_iff_exists.1 hwelcome
          obtain ⟨world', hsent, hahead'⟩ :=
            hdelivers.accepts hahead (FrontendMessage.password p).encode
          refine ⟨world', ?_, hahead'⟩
          simp only [startupMessage, Transport.recorded, hsent, reply, Option.toList_some,
            List.map_cons, List.map_nil]
      | ok => exact ⟨world, by simp only [startupMessage, reply, List.append_nil], hahead⟩
      | md5Password | other => exact hwelcome.elim
  | parameterStatus | backendKeyData | noticeResponse =>
      exact ⟨world, by simp only [startupMessage, reply, List.append_nil], hahead⟩
  | _ => exact hwelcome.elim

theorem startupMessage_of_not_welcome (t : Transport σ) (world : σ)
    (hunwelcome : ¬ Welcome password m) :
    startupMessage t password m world = (.done (outcome m), world) := by
  cases m with
  | authentication request =>
      cases request with
      | ok => exact absurd trivial hunwelcome
      | cleartextPassword =>
          cases password with
          | none => rfl
          | some p => exact absurd rfl hunwelcome
      | md5Password | other => rfl
  | parameterStatus | backendKeyData | noticeResponse => exact absurd trivial hunwelcome
  | _ => rfl

/-- As long as a stream goes on pieces of it are received, and then its end. -/
theorem Delivers.heard (hdelivers : Delivers t Ahead) {w w' : σ × List Bytes} {ahead : Bytes}
    {answer : Except GatewayError Bytes} (hbefore : Ahead ahead w.1)
    (hheard : t.recorded.recv receiveSize w = (answer, w')) : w'.2 = w.2 ∧
      ((ahead = [] ∧ answer = .ok []) ∨ ∃ b bs ahead',
        ahead = b :: bs ++ ahead' ∧ answer = .ok (b :: bs) ∧ Ahead ahead' w'.1) := by
  obtain ⟨w, log⟩ := w
  by_cases hdrained : ahead = []
  · subst hdrained
    obtain ⟨w₁, hreceived⟩ := hdelivers.ends hbefore
    simp only [Transport.recorded, hreceived] at hheard
    cases hheard
    exact ⟨rfl, .inl ⟨rfl, rfl⟩⟩
  · obtain ⟨b, bs, ahead', w₁, hpieces, hreceived, hbefore'⟩ := hdelivers.gives _ _ hbefore hdrained
    simp only [Transport.recorded, hreceived] at hheard
    cases hheard
    exact ⟨rfl, .inr ⟨b, bs, ahead', hpieces, rfl, hbefore'⟩⟩

/-- The result that the end of a login's conversation stands for. That a receive fails is not among
the ends of a stream that is delivered. -/
def ResultOf : Ending (Except GatewayError Unit) GatewayError → Except GatewayError Unit → Prop
  | .finished outcome, result => result = outcome
  | .garbled e, result => result = .error (.protocol ("startup: " ++ e.text))
  | .broken _, _ => False
  | .hungUp, result => result = .error (.closed "server closed the connection during startup")

/-- A login is under way on a stream: welcome messages were taken off it and answered, and what
follows them is in the buffer and still to come. -/
def Underway (Ahead : Bytes → σ → Prop) (password : Option String) (limit : Nat) (stream : Bytes)
    (log : List Bytes) (patience : Nat) (buffer : Bytes) (_ : Unit) (w : σ × List Bytes) : Prop :=
  ∃ fs ms ahead, Framing BackendMessage.decode limit stream fs ms (buffer ++ ahead) ∧
    (∀ m ∈ ms, Welcome password m) ∧ w.2 = log ++ ms.flatMap (reply password) ∧
    Ahead ahead w.1 ∧ ahead.length ≤ patience

theorem startup_upholds (hdelivers : Delivers t Ahead) (stream : Bytes) (log : List Bytes) :
    Upholds (t.recorded.recv receiveSize)
      (fun message (_ : Unit) w => startupMessage t.recorded password message w) limit
      (Underway Ahead password limit stream log)
      (fun ending _ w => ∃ ms result, ResultOf ending result ∧
        Decides password limit stream ms result ∧ w.2 = log ++ ms.flatMap (reply password)) where
  skip := by
    rintro _ buffer _ _ f rest ⟨fs, ms, ahead, hframing, hwelcome, hsent, hbefore, hfew⟩ hsplit
      hread
    have hfirst : Framing BackendMessage.decode limit (buffer ++ ahead) [f] _ (rest ++ ahead) :=
      .head (Frame.split_append_of_some hsplit) hread
    have hlonger := hframing.trans hfirst
    rw [Option.toList_none, List.append_nil] at hlonger
    exact ⟨_, ms, ahead, hlonger, hwelcome, hsent, hbefore, hfew⟩
  more := by
    rintro _ buffer _ ⟨w, _⟩ f rest m _ _ ⟨fs, ms, ahead, hframing, hwelcome, rfl, hbefore, hfew⟩
      hsplit hread hstep
    by_cases hhere : Welcome password m
    · have hfirst : Framing BackendMessage.decode limit (buffer ++ ahead) [f] _ (rest ++ ahead) :=
        .head (Frame.split_append_of_some hsplit) hread
      obtain ⟨w', hhandled, hbefore'⟩ := startupMessage_of_welcome hdelivers hbefore hhere
      cases hhandled.symm.trans hstep
      refine ⟨_, ms ++ [m], ahead, hframing.trans hfirst, ?_, by simp, hbefore', hfew⟩
      simpa [or_imp, forall_and] using ⟨hwelcome, hhere⟩
    · cases (startupMessage_of_not_welcome _ _ hhere).symm.trans hstep
  finished := by
    rintro _ _ _ ⟨w, _⟩ _ _ m _ _ ⟨fs, ms, ahead, hframing, hwelcome, rfl, hbefore, -⟩ hsplit
      hcarries hlast
    by_cases hhere : Welcome password m
    · obtain ⟨w', hhandled, -⟩ := startupMessage_of_welcome hdelivers hbefore hhere
      cases hhandled.symm.trans hlast
    · cases (startupMessage_of_not_welcome _ _ hhere).symm.trans hlast
      exact ⟨ms, _, rfl, ⟨fs, _, hframing, hwelcome,
        .message (Frame.split_append_of_some hsplit) hcarries hhere⟩, rfl⟩
  garbled := by
    rintro _ _ _ _ _ ⟨fs, ms, ahead, hframing, hwelcome, hsent, -⟩ hrefused
    exact ⟨ms, _, rfl, ⟨fs, _, hframing, hwelcome, .garbled (hrefused.extend ahead)⟩, hsent⟩
  broken := by
    rintro _ _ _ _ _ _ ⟨fs, ms, ahead, -, -, -, hbefore, -⟩ - hheard
    obtain ⟨-, ⟨-, hnone⟩ | ⟨_, _, _, -, hnone, -⟩⟩ := hdelivers.heard hbefore hheard
    all_goals cases hnone
  hungUp := by
    rintro _ _ _ _ _ ⟨fs, ms, ahead, hframing, hwelcome, hsent, hbefore, -⟩ hwaits hheard
    obtain ⟨hsame, ⟨rfl, -⟩ | ⟨_, _, _, -, hnone, -⟩⟩ := hdelivers.heard hbefore hheard
    · rw [List.append_nil] at hframing
      exact ⟨ms, _, rfl, ⟨fs, _, hframing, hwelcome, .short hwaits⟩, hsame.trans hsent⟩
    · cases hnone
  fed := by
    rintro _ _ _ _ _ _ _ ⟨fs, ms, ahead, hframing, hwelcome, hsent, hbefore, hfew⟩ - hheard
    obtain ⟨hsame, ⟨-, hnone⟩ | ⟨b, bs, ahead', rfl, hpiece, hbefore'⟩⟩ :=
      hdelivers.heard hbefore hheard
    · cases hnone
    · cases hpiece
      rw [← List.append_assoc] at hframing
      refine ⟨fs, ms, ahead', hframing, hwelcome, hsame.trans hsent, hbefore', ?_⟩
      simp only [List.length_append, List.length_cons] at hfew
      omega
  worn := by
    rintro _ _ _ _ _ _ ⟨fs, ms, ahead, -, -, -, hbefore, hfew⟩ - hheard
    obtain ⟨-, ⟨-, hnone⟩ | ⟨b, bs, ahead', rfl, -⟩⟩ := hdelivers.heard hbefore hheard
    · cases hnone
    · simp at hfew

/-- What a stream does not see of its world changes nothing of a login. -/
theorem startup_shows {τ : Type} {t' : Transport τ} {view : τ → σ} (hshows : t'.Shows t view)
    (key : PoolKey) (password : Option String) (limit : Nat) (v : τ) :
    startup t key password limit (view v) = (startup t' key password limit v).map id view := by
  have hsees : Sees view (t.recv receiveSize)
      (fun message (_ : Unit) w => startupMessage t password message w) (t'.recv receiveSize)
      (fun message (_ : Unit) v => startupMessage t' password message v) := by
    refine ⟨hshows.recv receiveSize, fun message state v => ?_⟩
    unfold startupMessage
    split
    case h_2 =>
      cases password with
      | none => rfl
      | some p =>
          simp only [hshows.send]
          rcases t'.send (FrontendMessage.password p).encode v with ⟨_ | _, v'⟩ <;> rfl
    all_goals rfl
  unfold startup
  rw [hshows.send]
  rcases t'.send (StartupPacket.encodeLogin key.user key.database) v with ⟨_ | _, v'⟩
  · rfl
  · simp only [Prod.map_apply, id_eq, hshows.patience, hsees.converse]
    rcases converse _ _ _ _ _ _ with ⟨_ | _ | _ | _, d, w⟩ <;> rfl

/-- A login has the result that its stream decides, and has answered the messages before. -/
theorem startup_decides (hdelivers : Delivers t Ahead) (key : PoolKey) (password : Option String)
    (limit : Nat) (hahead : Ahead stream world) :
    ∃ ms result world', Decides password limit stream ms result ∧
      startup t key password limit world = (result, world') ∧
      startup t.recorded key password limit (world, []) = (result, world',
        StartupPacket.encodeLogin key.user key.database :: ms.flatMap (reply password)) := by
  let packet := StartupPacket.encodeLogin key.user key.database
  obtain ⟨world₁, hsent, hahead₁⟩ := hdelivers.accepts hahead packet
  have hbegun : Underway Ahead password limit stream [packet] (t.patience world₁) [] ()
      (world₁, [packet]) :=
    ⟨[], [], stream, .refl, by simp, by simp, hahead₁, hdelivers.patient hahead₁⟩
  have hended := (startup_upholds hdelivers stream [packet]).converse (d := { limit })
    (Decoder.sound_of_missing_eq_zero rfl) hbegun
  rcases hran : converse (t.recorded.recv receiveSize)
    (fun message (_ : Unit) w => startupMessage t.recorded password message w)
    (t.patience world₁) { limit } () (world₁, [packet]) with ⟨ending, d, w, said⟩
  rw [hran] at hended
  obtain ⟨-, -, ms, result, hstands, hdecides, rfl⟩ := hended
  have hlogin : startup t.recorded key password limit (world, []) =
      (result, w, packet :: ms.flatMap (reply password)) := by
    have hfirst : t.recorded.send packet (world, []) = (.ok packet.length, world₁, [packet]) := by
      simp only [Transport.recorded, hsent, List.nil_append]
    have hpatience : t.recorded.patience (world₁, [packet]) = t.patience world₁ := rfl
    simp only [startup, packet, hfirst, hpatience, hran, List.singleton_append]
    cases ending with
    | broken e => cases hstands
    | _ =>
        cases hstands
        rfl
  have hplain := startup_shows t.recorded_shows key password limit (world, [])
  rw [hlogin] at hplain
  exact ⟨ms, result, w, hdecides, hplain, hlogin⟩

/-! ### What a login that succeeded has heard -/

/-- What is received on a stream is taken off the front of `unread`, which nothing else changes. -/
structure Listens (t : Transport σ) (unread : σ → Bytes) : Prop where
  hears : ∀ most, Hears (t.recv most) unread
  fails : ∀ {most world e world'}, t.recv most world = (.error e, world') →
    unread world' = unread world
  send : ∀ data world, unread (t.send data world).2 = unread world

/-- A conversation that ends well has taken the stream up to the first message that says that the
server is ready. -/
theorem exists_firstReady_of_ended {rest : Bytes}
    (hended : Ended (fun message (_ : Unit) w => startupMessage t password message w) limit stream
      () (.ok ()) rest world) :
    ∃ ms, FirstReady limit stream ms rest ∧ ∀ m ∈ ms, Welcome password m := by
  obtain ⟨fs, last, hbytes, hlegal, hlegalLast, hleads, hread, hends⟩ := hended
  obtain ⟨status, rfl⟩ := readyForQuery_of_done hends
  obtain ⟨ms, hconveys, hmoved⟩ := hleads.exists_conveys
  have hwelcome : ∀ m ∈ ms, Welcome password m := by
    intro m hmem
    obtain ⟨_, _, w, w', hstep⟩ := hmoved m hmem
    refine Classical.byContradiction fun hunwelcome => ?_
    cases (startupMessage_of_not_welcome t w hunwelcome).symm.trans hstep
  exact ⟨ms, ⟨fs, _, last, status, ⟨hbytes, hlegal, hconveys⟩,
    fun _ hmem => not_welcome_readyForQuery _ (hwelcome _ hmem),
    Frame.split_encode_append hlegalLast, hread⟩, hwelcome⟩

/-- So has a login that succeeded. What is behind that message and not unread is lost. -/
theorem exists_firstReady_of_startup {unread : σ → Bytes} {key : PoolKey} {world' : σ}
    (hlistens : Listens t unread)
    (hlogin : startup t key password limit world = (.ok (), world')) :
    ∃ ms lost, FirstReady limit (unread world) ms (lost ++ unread world') ∧
      ∀ m ∈ ms, Welcome password m := by
  obtain ⟨n, world₁, hsent, pieces, -, lost, hcourse⟩ := startup_eq_ok_iff.1 hlogin
  have hended := hcourse.ended (hlistens.hears _) fun _ _ _ => startupMessage_keeps hlistens.send
  have hsame := hlistens.send (StartupPacket.encodeLogin key.user key.database) world
  rw [hsent] at hsame
  obtain ⟨ms, hfirst, hwelcome⟩ := exists_firstReady_of_ended hended
  rw [List.nil_append, hsame] at hfirst
  exact ⟨ms, lost, hfirst, hwelcome⟩

end Startup

end Postgres

open Postgres

/-- Every stream decides one result of a login, and the messages before it. However the stream is
delivered, a login on it has that result, and it has sent its packet and one answer to each
challenge among the messages. It succeeds exactly if only welcome messages come before the first
that says that the server is ready. -/
theorem startup_decided {t : Transport σ} {Ahead : Bytes → σ → Prop} (hdelivers : Delivers t Ahead)
    (key : PoolKey) (password : Option String) (limit : Nat) {stream : Bytes} {world : σ}
    (hahead : Ahead stream world) :
    ∃ ms result world', Decides password limit stream ms result ∧
      (∀ ms' result', Decides password limit stream ms' result' → ms' = ms ∧ result' = result) ∧
      startup t key password limit world = (result, world') ∧
      startup t.recorded key password limit (world, []) = (result, world',
        StartupPacket.encodeLogin key.user key.database :: ms.flatMap (reply password)) ∧
      (result = .ok () ↔
        ∃ ms rest, FirstReady limit stream ms rest ∧ ∀ m ∈ ms, Welcome password m) := by
  obtain ⟨ms, result, world', hdecides, hplain, hlogin⟩ :=
    startup_decides hdelivers key password limit hahead
  refine ⟨ms, result, world', hdecides, fun _ _ hother => hother.unique hdecides, hplain, hlogin,
    ?_⟩
  rw [← exists_decides_ok_iff]
  constructor
  · rintro rfl
    exact ⟨ms, hdecides⟩
  · rintro ⟨_, hother⟩
    exact (hdecides.unique hother).2

namespace ScriptedSocket

variable {socket : ScriptedSocket} {stream : Bytes}

/-- A scripted stream gives these bytes in pieces that are not empty, and then its end. It accepts
all that is sent. -/
def Ahead (stream : Bytes) (socket : ScriptedSocket) : Prop :=
  ∃ pieces : List Bytes, [] ∉ pieces ∧ stream = pieces.flatten ∧
    socket.recvs = pieces.map .whole ++ [.whole []] ∧ socket.sends = []

theorem foldl_eq_add_length_flatMap {count : Nat → Supply → Nat} {bytes : Supply → Bytes}
    (hcounts : ∀ n supply, count n supply = n + (bytes supply).length) (supplies : List Supply)
    (n : Nat) : supplies.foldl count n = n + (supplies.flatMap bytes).length := by
  induction supplies generalizing n with
  | nil => rfl
  | cons supply later ih =>
      rw [List.foldl_cons, ih, hcounts, List.flatMap_cons, List.length_append, Nat.add_assoc]

theorem pending_eq_length_unread (socket : ScriptedSocket) :
    socket.pending = socket.unread.length := by
  unfold pending unread
  rw [foldl_eq_add_length_flatMap, Nat.zero_add]
  rintro n (_ | _ | _) <;> rfl

theorem Ahead.unread (hahead : Ahead stream socket) : socket.unread = stream := by
  obtain ⟨pieces, -, rfl, hrecvs, -⟩ := hahead
  rw [ScriptedSocket.unread, hrecvs, List.flatMap_append, List.flatMap_map,
    List.flatten_eq_flatMap]
  exact List.append_nil _

theorem delivers : Delivers transport Ahead where
  gives := by
    rintro _ socket ⟨pieces, hfull, rfl, hrecvs, hsends⟩ hmore
    cases pieces with
    | nil => exact absurd rfl hmore
    | cons piece pieces =>
        rw [List.mem_cons, not_or] at hfull
        obtain ⟨b, bs, rfl⟩ := List.exists_cons_of_ne_nil (Ne.symm hfull.1)
        refine ⟨b, bs, pieces.flatten, { socket.record (.recv receiveSize) with
          recvs := pieces.map .whole ++ [.whole []] }, rfl, ?_, pieces, hfull.2, rfl, rfl, hsends⟩
        simp only [transport, recv, record, hrecvs, List.map_cons, List.cons_append]
  ends := by
    rintro socket ⟨pieces, hfull, hnone, hrecvs, -⟩
    cases pieces with
    | nil => exact ⟨{ socket.record (.recv receiveSize) with recvs := [] }, by
        simp only [transport, recv, record, hrecvs, List.map_nil, List.nil_append]⟩
    | cons piece pieces =>
        rw [List.flatten_cons] at hnone
        exact absurd (by simp [(List.append_eq_nil_iff.1 hnone.symm).1]) hfull
  accepts := by
    rintro _ socket ⟨pieces, hfull, hbytes, hrecvs, hsends⟩ data
    exact ⟨_, send_in_full hsends, pieces, hfull, hbytes, hrecvs, hsends⟩
  patient := by
    intro stream socket hahead
    exact Nat.le_of_eq (by rw [← hahead.unread]; exact (pending_eq_length_unread socket).symm)

theorem listens : Listens transport ScriptedSocket.unread where
  hears := hears
  send := unread_send
  fails := by
    intro most socket e socket' hheard
    change recv most socket = _ at hheard
    unfold recv at hheard
    simp only [record] at hheard
    split at hheard
    · cases hheard
      rfl
    · next hrecvs =>
        cases hheard
        simp only [ScriptedSocket.unread, hrecvs, List.flatMap_cons, List.nil_append]
    · cases hheard
    · cases hheard

end ScriptedSocket

/-- A server that asks for the password, in three pieces. -/
theorem startup_decided_welcome :
    let server : ScriptedSocket := { recvs := welcome.map .whole ++ [.whole []] }
    ScriptedSocket.Ahead welcome.flatten server ∧ ∃ server',
      startup ScriptedSocket.transport.recorded ⟨.postgres, "db", 5432, "shop", "app"⟩
        (some "secret") defaultMaxFrameSize (server, []) =
          (.ok (), server', [StartupPacket.encodeLogin "app" "shop",
            (FrontendMessage.password "secret").encode]) := by
  intro server
  have hahead : ScriptedSocket.Ahead welcome.flatten server :=
    ⟨welcome, by decide +kernel, rfl, rfl, rfl⟩
  refine ⟨hahead, ?_⟩
  obtain ⟨ms, result, server', -, hunique, -, hlogin, -⟩ := startup_decided ScriptedSocket.delivers
    ⟨.postgres, "db", 5432, "shop", "app"⟩ (some "secret") defaultMaxFrameSize hahead
  let before : List BackendMessage := [.authentication .cleartextPassword, .authentication .ok]
  have hstream : welcome.flatten =
      (before ++ [BackendMessage.readyForQuery .idle]).flatMap BackendMessage.encode ++ [0] := by
    decide +kernel
  have hsent : ∀ m ∈ before ++ [.readyForQuery .idle], m.Representable defaultMaxFrameSize := by
    decide +kernel
  have hwelcomed : ∀ m ∈ before, Welcome (some "secret") m :=
    List.forall_mem_cons.2 ⟨rfl, List.forall_mem_singleton.2 trivial⟩
  have hdecides : Decides (some "secret") defaultMaxFrameSize welcome.flatten before (.ok ()) := by
    rw [hstream]
    exact (firstReady_of_representable hsent hwelcomed [0]).decides hwelcomed
  obtain ⟨rfl, rfl⟩ := hunique _ _ hdecides
  exact ⟨server', hlogin⟩

end DatabaseGateway
