import DatabaseGateway.Config.Connect
import DatabaseGateway.Link.Transport
import DatabaseGateway.Wire.Conversation
import DatabaseGateway.Wire.Frontend
import DatabaseGateway.Wire.Startup

/-!
The Postgres side of a link: logging in on behalf of guests, and probing an idle session with an
empty query, which a clean session answers with an empty response and an idle status.
-/

namespace DatabaseGateway.Postgres

open Wire

variable {σ : Type}

def receiveSize : Nat := 8192

def startupMessage (t : Transport σ) (password : Option String) (message : BackendMessage)
    (world : σ) : Turn Unit (Except GatewayError Unit) × σ :=
  match message with
  | .authentication .ok => (.more (), world)
  | .authentication .cleartextPassword =>
    match password with
    | none =>
      (.done (.error (.protocol "server requested a password but none was supplied")), world)
    | some password =>
      match t.send (FrontendMessage.password password).encode world with
      | (.error e, world) => (.done (.error e), world)
      | (.ok _, world) => (.more (), world)
  | .authentication method =>
    let code := toString method.code.toInt
    (.done (.error (.protocol s!"unsupported authentication method (code {code})")), world)
  | .parameterStatus .. | .backendKeyData .. | .noticeResponse _ => (.more (), world)
  | .errorResponse report => (.done (.error (.connectionRefused report.text)), world)
  | .readyForQuery _ => (.done (.ok ()), world)
  | other =>
    let letter := other.letter
    (.done (.error (.protocol s!"unexpected message '{letter}' during startup")), world)

/-- Logs in: sends the startup and answers what the server asks, until it is ready. What the
server has sent beyond that is not kept. -/
def startup (t : Transport σ) (key : PoolKey) (password : Option String) (limit : Nat)
    (world : σ) : Except GatewayError Unit × σ :=
  match t.send (StartupPacket.encodeLogin key.user key.database) world with
  | (.error e, world) => (.error e, world)
  | (.ok _, world) =>
    let (ending, _, world) := converse (t.recv receiveSize)
      (fun message _ world => startupMessage t password message world)
      (t.patience world) { limit } () world
    match ending with
    | .finished result => (result, world)
    | .garbled e =>
      let detail := e.text
      (.error (.protocol s!"startup: {detail}"), world)
    | .broken e => (.error e, world)
    | .hungUp => (.error (.closed "server closed the connection during startup"), world)

/-- Asks the server for an encrypted session. Its answer is a single byte. -/
def negotiate (t : Transport σ) (world : σ) : Except GatewayError Unit × σ :=
  match t.send StartupPacket.encodeSslRequest world with
  | (.error e, world) => (.error e, world)
  | (.ok _, world) =>
    match t.recv 1 world with
    | (.error e, world) => (.error e, world)
    | (.ok [], world) => (.error (.closed "ssl request: failed to fill whole buffer"), world)
    | (.ok (answer :: _), world) =>
      if answer = 'S'.toUInt8 then (.ok (), world)
      else if answer = 'N'.toUInt8 then
        (.error (.protocol "server does not accept TLS connections"), world)
      else
        let high := Nat.digitChar (answer.toNat / 16)
        let low := Nat.digitChar (answer.toNat % 16)
        (.error (.protocol s!"unexpected SSLRequest answer 0x{high}{low}"), world)

/-- Handles one message of the probe's answer: the state says whether the empty response has been
seen, the outcome whether the session is clean. -/
def probeMessage (message : BackendMessage) (sawEmpty : Bool) : Turn Bool Bool :=
  match message with
  | .emptyQueryResponse => .more true
  | .readyForQuery status => .done (sawEmpty && status == .idle)
  | .noticeResponse _ | .parameterStatus .. => .more sawEmpty
  | _ => .done false

/-- Whether the session answers an empty query as a clean one does, with nothing after it. -/
def probe (t : Transport σ) (limit : Nat) (world : σ) : Bool × σ :=
  match t.send (FrontendMessage.query "").encode world with
  | (.error _, world) => (false, world)
  | (.ok _, world) =>
    let (ending, d, world) := converse (t.recv receiveSize)
      (fun message sawEmpty world => (probeMessage message sawEmpty, world))
      (t.patience world) { limit } false world
    match ending with
    | .finished clean => (clean && d.buffered == 0, world)
    | _ => (false, world)

end DatabaseGateway.Postgres
