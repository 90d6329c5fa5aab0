import DatabaseGateway.Client.ScriptedHost
import DatabaseGateway.Link.Postgres
import DatabaseGateway.Link.ScriptedSocket
import DatabaseGateway.Proofs.Client.Session

/-!
The gateway logs in to a Postgres server by itself, or leaves that to the guest. The two logins are
written separately and do not accept the same: the guest passes over messages that the gateway
takes for errors, and has its own limit on a frame. But where the gateway gets in, the guest gets in
as well, with the same bytes sent, and stops at the same place of the stream
(`login_by_guest_of_login`).

The guest's conversation accompanies the gateway's: both hear the same pieces, and the gateway
answers no message in a way that the guest does not.
-/

namespace DatabaseGateway

open Wire Client

def ScriptedSocket.sent (socket : ScriptedSocket) : List Bytes :=
  socket.events.filterMap fun e => match e.call with
    | .send data => some data
    | _ => none

def Client.ScriptedHost.sent (host : ScriptedHost) : List Bytes :=
  host.calls.filterMap fun call => match call with
    | .send _ data => some data
    | _ => none

def ScriptedSocket.unread (socket : ScriptedSocket) : Bytes :=
  socket.recvs.flatMap fun supply => match supply with
    | .measured bytes | .whole bytes => bytes
    | .failing _ => []

section Scripts

variable {socket : ScriptedSocket} {host : ScriptedHost} {piece data : Bytes} {most : Nat}
  {handle : Handle}

theorem ScriptedSocket.recv_piece {later : List Supply} (hfits : piece.length ≤ most)
    (hrecvs : socket.recvs = .measured piece :: later) :
    socket.recv most = (.ok piece, { socket.record (.recv most) with recvs := later }) := by
  simp [recv, record, hrecvs, List.take_of_length_le hfits, List.drop_of_length_le hfits]

theorem ScriptedHost.recv_piece {later : List (Except GatewayError Bytes)}
    (hfits : piece.length ≤ most) (hrecvs : host.recvs = .ok piece :: later) :
    ScriptedHost.recv handle most host =
      (.ok piece, { host.record (.recv handle most) with recvs := later }) := by
  simp [ScriptedHost.recv, ScriptedHost.record, hrecvs, List.take_of_length_le hfits,
    List.drop_of_length_le hfits]

theorem ScriptedSocket.send_in_full (haccepts : socket.sends = []) :
    socket.send data = (.ok data.length, socket.record (.send data)) := by
  simp [send, record, haccepts]

theorem ScriptedHost.send_in_full (haccepts : host.sends = []) :
    ScriptedHost.send handle data host = (.ok data.length, host.record (.send handle data)) := by
  simp [ScriptedHost.send, ScriptedHost.record, haccepts]

theorem Connection.sendAll_in_full {c : Connection} (hopen : c.closed = false)
    (haccepts : host.sends = []) (hsome : data ≠ []) :
    c.sendAll ScriptedHost.capability data host =
      (.ok (), c, host.record (.send c.handle data)) := by
  cases data with
  | nil => exact absurd rfl hsome
  | cons b bs =>
      have hsent : c.send ScriptedHost.capability (b :: bs) host =
          (.ok (bs.length + 1), c, host.record (.send c.handle (b :: bs))) := by
        simp only [Connection.send, hopen, ScriptedHost.capability,
          ScriptedHost.send_in_full haccepts]
        rfl
      rw [Connection.sendAll, hsent]
      dsimp only
      rw [List.drop_length, Connection.sendAll]

end Scripts

/-- A stream of the gateway, and a guest's open connection to a host, that have the same pieces
before them and have sent the same. Both accept whatever is sent. -/
structure Alongside (pieces : List Bytes) (socket : ScriptedSocket) (c : Connection)
    (host : ScriptedHost) : Prop where
  small : ∀ piece ∈ pieces, piece.length ≤ Postgres.receiveSize
  socketRecvs : socket.recvs = pieces.map .measured
  hostRecvs : host.recvs = pieces.map .ok
  socketSends : socket.sends = []
  hostSends : host.sends = []
  isOpen : c.closed = false
  sent : socket.sent = host.sent

def InStep (socket : ScriptedSocket) : Session × ScriptedHost → Prop := fun (s, host) =>
  ∃ pieces, Alongside pieces socket s.connection host

namespace Alongside

variable {pieces : List Bytes} {socket socket' : ScriptedSocket} {c : Connection} {s : Session}
  {host : ScriptedHost}

theorem pending_eq (halong : Alongside pieces socket c host) : socket.pending = host.pending := by
  rw [ScriptedSocket.pending, ScriptedHost.pending, halong.socketRecvs, halong.hostRecvs,
    List.foldl_map, List.foldl_map]

theorem hear {bytes : Bytes} (halong : Alongside pieces socket s.connection host)
    (hheard : socket.recv Postgres.receiveSize = (.ok bytes, socket')) :
    ∃ guest, Session.receive ScriptedHost.capability (s, host) = (.ok bytes, guest) ∧
      InStep socket' guest := by
  obtain ⟨hsmall, hsocketRecvs, hhostRecvs, hsocketSends, hhostSends, hopen, hsent⟩ := halong
  cases pieces with
  | nil =>
      simp only [ScriptedSocket.recv, ScriptedSocket.record, hsocketRecvs, List.map_nil] at hheard
      cases hheard
  | cons piece pieces =>
      have hfits : piece.length ≤ Postgres.receiveSize := hsmall piece (by simp)
      have hfits' : piece.length ≤ receiveSize := Nat.le_trans hfits (by decide)
      let host' : ScriptedHost :=
        { host.record (.recv s.connection.handle receiveSize) with recvs := pieces.map .ok }
      have hheard' : s.connection.recv ScriptedHost.capability receiveSize host =
          (.ok piece, s.connection, host') := by
        simp only [Connection.recv, hopen, ScriptedHost.capability]
        rw [ScriptedHost.recv_piece hfits' hhostRecvs]
        rfl
      cases (ScriptedSocket.recv_piece hfits hsocketRecvs).symm.trans hheard
      refine ⟨(s, host'), Session.receive_eq_iff.2 ⟨s.connection, hheard', rfl⟩, pieces,
        fun piece hmem => hsmall piece (List.mem_cons_of_mem _ hmem), rfl, rfl,
        hsocketSends, hhostSends,
        hopen, ?_⟩
      simpa [ScriptedSocket.sent, ScriptedHost.sent, host', ScriptedSocket.record,
        ScriptedHost.record] using hsent

theorem say {data : Bytes} (halong : Alongside pieces socket s.connection host)
    (hsome : data ≠ []) : socket.send data = (.ok data.length, socket.record (.send data)) ∧
    ∃ host', s.sendAll ScriptedHost.capability data host = (.ok (), s, host') ∧
      Alongside pieces (socket.record (.send data)) s.connection host' := by
  obtain ⟨hsmall, hsocketRecvs, hhostRecvs, hsocketSends, hhostSends, hopen, hsent⟩ := halong
  refine ⟨ScriptedSocket.send_in_full hsocketSends, host.record (.send s.connection.handle data),
    ?_, hsmall, hsocketRecvs, hhostRecvs, hsocketSends, hhostSends, hopen, ?_⟩
  · rw [Session.sendAll, Connection.sendAll_in_full hopen hhostSends hsome]
  · simpa [ScriptedSocket.sent, ScriptedHost.sent, ScriptedSocket.record,
      ScriptedHost.record] using hsent

end Alongside

/-- A login succeeds if its first packet is sent and then its conversation takes a course. -/
theorem Postgres.startup_eq_ok_iff {σ : Type} {t : Transport σ} {key : PoolKey}
    {password : Option String} {limit : Nat} {world world' : σ} :
    startup t key password limit world = (.ok (), world') ↔
      ∃ n world₁, t.send (StartupPacket.encodeLogin key.user key.database) world = (.ok n, world₁) ∧
        ∃ pieces ≤ t.patience world₁, ∃ rest, Course (t.recv receiveSize)
          (fun message (_ : Unit) world => startupMessage t password message world)
          limit pieces [] () world₁ (.ok ()) rest world' := by
  have hfresh : ({ limit } : Decoder).Sound := Decoder.sound_of_missing_eq_zero rfl
  constructor
  · intro hlogin
    unfold startup at hlogin
    split at hlogin
    · cases hlogin
    · next n world₁ hsent =>
        refine ⟨n, world₁, hsent, ?_⟩
        rcases hran : converse (t.recv receiveSize)
          (fun message (_ : Unit) world => startupMessage t password message world)
          (t.patience world₁) { limit } () world₁ with ⟨ending, d, w⟩
        rw [hran] at hlogin
        cases ending with
        | finished result =>
            cases hlogin
            obtain ⟨-, -, pieces, hpatient, hcourse⟩ := Course.of_converse hfresh hran
            exact ⟨pieces, hpatient, _, hcourse⟩
        | garbled | broken | hungUp => cases hlogin
  · rintro ⟨n, world₁, hsent, pieces, hpatient, rest, hcourse⟩
    obtain ⟨d, hran, -⟩ := hcourse.converse (d := { limit }) hfresh hpatient
    simp only [startup, hsent, hran]

/-- In a stream, `rest` is what follows the first message that says that the server is ready. -/
def BehindReady (stream rest : Bytes) : Prop :=
  ∃ (fs : List Frame) (ready : Frame), stream = fs.flatMap Frame.encode ++ (ready.encode ++ rest) ∧
    (∃ status, BackendMessage.decode ready.tag ready.payload =
      .ok (some (.readyForQuery status))) ∧
    ∀ f ∈ fs, ∀ status, BackendMessage.decode f.tag f.payload ≠
      .ok (some (.readyForQuery status))

theorem ScriptedSocket.hears (most : Nat) : Hears (transport.recv most) unread := by
  intro socket bytes socket' hheard
  change recv most socket = _ at hheard
  unfold recv at hheard
  simp only [record] at hheard
  split at hheard
  · cases hheard
  · cases hheard
  · next later hrecvs =>
      cases hheard
      simp only [unread, hrecvs, List.flatMap_cons]
  · next piece later hrecvs =>
      cases hheard
      simp only [unread, hrecvs, List.flatMap_cons]
      split
      · next hwhole =>
          rw [List.take_of_length_le (List.drop_eq_nil_iff.1 (List.isEmpty_iff.1 hwhole))]
      · rw [List.flatMap_cons, ← List.append_assoc, List.take_append_drop]

theorem ScriptedSocket.unread_pieces {pieces : List Bytes} {socket : ScriptedSocket}
    (hrecvs : socket.recvs = pieces.map .measured) : socket.unread = pieces.flatten := by
  rw [unread, hrecvs, List.flatMap_map, List.flatten_eq_flatMap]
  rfl

theorem ScriptedSocket.unread_send (data : Bytes) (socket : ScriptedSocket) :
    (socket.send data).2.unread = socket.unread := by
  unfold send
  simp only [record]
  split <;> rfl

namespace Postgres

variable {σ : Type} {t : Transport σ} {password : Option String} {message : BackendMessage}
  {world world' : σ}

theorem readyForQuery_of_done
    (hstep : startupMessage t password message world = (.done (.ok ()), world')) :
    ∃ status, message = .readyForQuery status := by
  unfold startupMessage at hstep
  split at hstep
  case h_8 status => exact ⟨status, rfl⟩
  case h_2 =>
    split at hstep
    · cases hstep
    · split at hstep <;> cases hstep
  all_goals cases hstep

theorem startupMessage_keeps {α : Type} {view : σ → α}
    (hkept : ∀ data world, view (t.send data world).2 = view world) :
    view (startupMessage t password message world).2 = view world := by
  unfold startupMessage
  split
  case h_2 =>
    split
    · rfl
    · next given =>
        have hsame := hkept (FrontendMessage.password given).encode world
        split <;> next hsent => exact (congrArg (fun r => view r.2) hsent).symm.trans hsame
  all_goals rfl

theorem unread_startupMessage {socket : ScriptedSocket} :
    (startupMessage ScriptedSocket.transport password message socket).2.unread =
      socket.unread :=
  startupMessage_keeps ScriptedSocket.unread_send

/-- The gateway's login ends behind the first message that says that the server is ready. -/
theorem behindReady_of_ended {limit : Nat} {stream rest : Bytes} {socket : ScriptedSocket}
    (hended : Ended (fun message (_ : Unit) socket =>
      startupMessage ScriptedSocket.transport password message socket) limit stream ()
      (.ok ()) rest socket) : BehindReady stream rest := by
  obtain ⟨fs, last, hbytes, -, -, hleads, hread, hends⟩ := hended
  obtain ⟨status, rfl⟩ := readyForQuery_of_done hends
  refine ⟨fs, last, hbytes, ⟨status, hread⟩, fun f hmem status' hearly => ?_⟩
  obtain ⟨_, _, socket, socket', hstep⟩ := hleads.exists_move hmem hearly
  cases hstep

end Postgres

/-- The guest takes every message as the gateway does, as long as the gateway finds no fault. -/
theorem startup_accompanies (config : ClientConfig) :
    Accompanies (ScriptedSocket.transport.recv Postgres.receiveSize)
      (fun message _ socket =>
        Postgres.startupMessage ScriptedSocket.transport config.password message socket)
      (.ok ()) (Session.receive ScriptedHost.capability)
      (Session.Handling.handler fun message (_ : Unit) s host =>
        Session.startupMessage ScriptedHost.capability config message s host)
      InStep (fun socket result guest => result = .ok () ∧ InStep socket guest) where
  fed := by
    rintro socket ⟨s, host⟩ b bs socket' ⟨pieces, halong⟩ hheard
    exact halong.hear hheard
  more := by
    rintro message ⟨⟩ socket ⟨s, host⟩ ⟨⟩ socket' ⟨pieces, halong⟩ hstep
    simp only [Session.Handling.handler]
    unfold Postgres.startupMessage at hstep
    split at hstep
    · cases hstep
      exact ⟨_, rfl, pieces, halong⟩
    · split at hstep
      · cases hstep
      · next password hgiven =>
          have hsome : (FrontendMessage.password password).encode ≠ [] :=
            FrontendMessage.encode_ne_nil _
          obtain ⟨hsent, host', hsent', halong⟩ := halong.say hsome
          simp only [ScriptedSocket.transport, hsent] at hstep
          cases hstep
          refine ⟨(s, host'), ?_, pieces, halong⟩
          simp only [Session.startupMessage, hgiven, hsent']
    · cases hstep
    · cases hstep
      exact ⟨_, rfl, pieces, halong⟩
    · cases hstep
      exact ⟨_, rfl, pieces, halong⟩
    · cases hstep
      exact ⟨_, rfl, pieces, halong⟩
    all_goals cases hstep
  done := by
    rintro message ⟨⟩ socket ⟨s, host⟩ socket' ⟨pieces, halong⟩ hstep
    obtain ⟨status, rfl⟩ := Postgres.readyForQuery_of_done hstep
    cases hstep
    exact ⟨.ok (), _, rfl, rfl, pieces, halong⟩

/-- Where the gateway's login succeeds, the guest's succeeds on the same pieces. It has sent the
same, has heard the same pieces, and stops behind the same message, which is the first that says
that the server is ready. -/
theorem login_by_guest_of_login (key : PoolKey) (config : ClientConfig) (limit : Nat)
    (handle : Handle) (pieces : List Bytes) {socket : ScriptedSocket}
    (huser : config.username = key.user) (hdatabase : config.database = key.database)
    (hlower : limit ≤ defaultMaxFrameSize)
    (hsmall : ∀ piece ∈ pieces, piece.length ≤ Postgres.receiveSize)
    (hlogin : Postgres.startup ScriptedSocket.transport key config.password limit
      { recvs := pieces.map .measured } = (.ok (), socket)) :
    ∃ (s : Session) (host : ScriptedHost) (left : List Bytes),
      Session.startup ScriptedHost.capability config { connection := { handle } }
        { recvs := pieces.map .ok } = (.ok (), s, host) ∧
      host.sent = socket.sent ∧ socket.recvs = left.map .measured ∧ host.recvs = left.map .ok ∧
      BehindReady pieces.flatten (s.decoder.buffer ++ left.flatten) := by
  have halong : Alongside pieces { recvs := pieces.map .measured } { handle }
      { recvs := pieces.map .ok } := ⟨hsmall, rfl, rfl, rfl, rfl, rfl, rfl⟩
  let s : Session := { connection := { handle } }
  have hsome : StartupPacket.encodeLogin key.user key.database ≠ [] := nofun
  obtain ⟨hsent, host, hsent', halong⟩ := Alongside.say (s := s) halong hsome
  obtain ⟨_, socket₁, hsent₁, n, hpatient, rest, hcourse⟩ := Postgres.startup_eq_ok_iff.1 hlogin
  cases hsent.symm.trans hsent₁
  have hstops := Postgres.behindReady_of_ended (hcourse.ended (ScriptedSocket.hears _)
    fun _ _ _ => Postgres.unread_startupMessage)
  -- The guest's conversation takes the same course, and is as patient.
  obtain ⟨_, ⟨s', host'⟩, hcourse', rfl, left, halong'⟩ :=
    (startup_accompanies config).course hlower (v := (s, host)) ⟨pieces, halong⟩ hcourse
  have hpatient' : n ≤ ScriptedHost.capability.patience host :=
    Nat.le_trans hpatient (Nat.le_of_eq halong.pending_eq)
  obtain ⟨d, hran, -, -, rfl⟩ := hcourse'.converse (d := s.decoder)
    (Decoder.sound_of_missing_eq_zero rfl) hpatient'
  refine ⟨{ s' with decoder := d }, host', left, ?_, halong'.sent.symm, halong'.socketRecvs,
    halong'.hostRecvs, ?_⟩
  · rw [Session.startup, huser, hdatabase, hsent']
    exact Session.converse_eq hran
  · rwa [ScriptedSocket.unread_pieces halong.socketRecvs,
      ScriptedSocket.unread_pieces halong'.socketRecvs] at hstops

/-- A server that asks for the password in clear text; the last message comes in two pieces, and
more behind it. -/
def welcome : List Bytes :=
  [(BackendMessage.authentication .cleartextPassword).encode,
    (BackendMessage.authentication .ok).encode ++
      (BackendMessage.readyForQuery .idle).encode.take 2,
    (BackendMessage.readyForQuery .idle).encode.drop 2 ++ [0]]

theorem login_by_guest_of_login_welcome :
    ∃ (socket : ScriptedSocket) (s : Session) (host : ScriptedHost),
      Postgres.startup ScriptedSocket.transport ⟨.postgres, "db", 5432, "shop", "app"⟩
        (some "secret") defaultMaxFrameSize { recvs := welcome.map .measured } = (.ok (), socket) ∧
      Session.startup ScriptedHost.capability
        { host := "db", database := "shop", username := "app", password := some "secret" }
        { connection := { handle := 7 } } { recvs := welcome.map .ok } = (.ok (), s, host) ∧
      host.sent = socket.sent := by
  let server : ScriptedSocket := { recvs := welcome.map .measured }
  have hlogin : ∃ socket, Postgres.startup ScriptedSocket.transport
      ⟨.postgres, "db", 5432, "shop", "app"⟩ (some "secret") defaultMaxFrameSize server =
        (.ok (), socket) :=
    ⟨_, Postgres.startup_eq_ok_iff.2 ⟨_, _, rfl, 3, by decide, _,
      .fed rfl rfl (.more rfl rfl rfl (.fed rfl rfl (.more rfl rfl rfl (.fed rfl rfl
        (.done rfl rfl rfl)))))⟩⟩
  obtain ⟨socket, hlogin⟩ := hlogin
  obtain ⟨s, host, _, hguest, hsent, -⟩ := login_by_guest_of_login _
    { host := "db", database := "shop", username := "app", password := some "secret" } _ 7 welcome
    rfl rfl (Nat.le_refl _) (by decide) hlogin
  exact ⟨socket, s, host, hlogin, hguest, hsent⟩

end DatabaseGateway
