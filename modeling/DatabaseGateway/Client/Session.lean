import DatabaseGateway.Client.Connection
import DatabaseGateway.Client.Result
import DatabaseGateway.Wire.Conversation
import DatabaseGateway.Wire.Frontend
import DatabaseGateway.Wire.Startup

/-!
A guest's Postgres session over a connection. The host normally logs in itself, so that a session
can query at once; on a host that does not, the guest runs the startup.

A server's error is reported only after the message that ends its reply, so that session and server
stay in step. Every other failure closes the connection.
-/

namespace DatabaseGateway.Client

open Wire

variable {σ : Type}

def receiveSize : Nat := 64 * 1024

/-- A session: its connection, the bytes that have arrived early, and what the server last said. The
parameters stand newest first. -/
structure Session where
  connection : Connection
  decoder : Decoder := { limit := defaultMaxFrameSize }
  status : Option TransactionStatus := none
  parameters : List (String × String) := []
  deriving DecidableEq, Repr

structure Gathering where
  /-- The statements that are complete, newest first. -/
  results : List QueryResult := []
  /-- The columns of the statement that is not complete. -/
  columns : List String := []
  /-- The rows of the statement that is not complete, newest first. -/
  rows : List (List (Option String)) := []
  /-- The first error that the server reported. -/
  error : Option Report := none
  deriving DecidableEq, Repr

inductive Reply where
  | complete (gathering : Gathering) (status : TransactionStatus)
  | unreadable (error : WireError)
  deriving DecidableEq, Repr

def Gathering.take (message : BackendMessage) (g : Gathering) : Turn Gathering Reply :=
  match message with
  | .rowDescription fields => .more { g with columns := fields.map Field.name }
  | .dataRow row =>
    match Row.toTexts row with
    | .error e => .done (.unreadable e)
    | .ok texts => .more { g with rows := texts :: g.rows }
  | .commandComplete tag =>
    let result := { columns := g.columns, rows := g.rows.reverse, tag }
    .more { g with results := result :: g.results, columns := [], rows := [] }
  | .errorResponse report =>
    .more { g with columns := [], rows := [], error := g.error.or (some report) }
  | .readyForQuery status => .done (.complete g status)
  | _ => .more g

namespace Session

def fail {α : Type} (cap : Capability σ) (s : Session) (e : ClientError) (world : σ) :
    Except ClientError α × Session × σ :=
  let (connection, world) := s.connection.abandon cap world
  (.error e, { s with connection }, world)

def hungUp (op : Operation) : ClientError :=
  ⟨op, .host (.closed "server closed the connection")⟩

def sendAll (cap : Capability σ) (s : Session) (data : Bytes) (world : σ) :
    Except ClientError Unit × Session × σ :=
  let (result, connection, world) := s.connection.sendAll cap data world
  (result, { s with connection }, world)

def converse {γ β : Type} (cap : Capability σ) (op : Operation)
    (handle : BackendMessage → γ → Session → σ → Turn γ (Except ClientError β) × Session × σ)
    (state : γ) (s : Session) (world : σ) : Except ClientError β × Session × σ :=
  let receive := fun (s, world) =>
    let (bytes, connection, world) := s.connection.recv cap receiveSize world
    (bytes, ({ s with connection } : Session), world)
  let (ending, decoder, s, world) :=
    Wire.converse receive (fun message state (s, world) => handle message state s world)
      (cap.patience world) s.decoder state (s, world)
  let s := { s with decoder }
  match ending with
  | .finished result => (result, s, world)
  | .broken e => (.error e, s, world)
  | .garbled e => s.fail cap ⟨op, .codec e⟩ world
  | .hungUp => s.fail cap (hungUp op) world

/-- Collects the replies to a query up to the message that ends them. -/
def readResults (cap : Capability σ) (op : Operation) (s : Session) (world : σ) :
    Except ClientError (List QueryResult) × Session × σ :=
  converse cap op (fun message (g : Gathering) s world =>
    match g.take message with
    | .more g => (.more g, s, world)
    | .done (.unreadable e) =>
      let (result, s, world) := s.fail cap ⟨op, .codec e⟩ world
      (.done result, s, world)
    | .done (.complete g status) =>
      let result := match g.error with
        | some report => .error (.ofReport op report)
        | none => .ok g.results.reverse
      (.done result, { s with status := some status }, world)) {} s world

def simpleQuery (cap : Capability σ) (sql : String) (s : Session) (world : σ) :
    Except ClientError (List QueryResult) × Session × σ :=
  match s.sendAll cap (FrontendMessage.query sql).encode world with
  | (.error e, s, world) => (.error e, s, world)
  | (.ok _, s, world) => s.readResults cap .query world

def query (cap : Capability σ) (sql : String) (params : List (Option String)) (s : Session)
    (world : σ) : Except ClientError QueryResult × Session × σ :=
  let request := FrontendMessage.describedQuery sql params
  match s.sendAll cap (FrontendMessage.encodeAll request) world with
  | (.error e, s, world) => (.error e, s, world)
  | (.ok _, s, world) =>
    let (results, s, world) := s.readResults cap .query world
    (results.map fun results => results.head?.getD {}, s, world)

def execute (cap : Capability σ) (sql : String) (params : List (Option String)) (s : Session)
    (world : σ) : Except ClientError Nat × Session × σ :=
  let (result, s, world) := s.query cap sql params world
  (result.map QueryResult.rowsAffected, s, world)

def startupMessage (cap : Capability σ) (config : ClientConfig) (message : BackendMessage)
    (s : Session) (world : σ) : Turn Unit (Except ClientError Unit) × Session × σ :=
  let fail := fun detail =>
    let (result, s, world) := s.fail cap ⟨.connect, .host (.protocol detail)⟩ world
    (.done result, s, world)
  match message with
  | .authentication .ok => (.more (), s, world)
  | .authentication .cleartextPassword =>
    match config.password with
    | none => fail "server requested a password, none configured"
    | some password =>
      match s.sendAll cap (FrontendMessage.password password).encode world with
      | (.error e, s, world) => (.done (.error e), s, world)
      | (.ok _, s, world) => (.more (), s, world)
  | .authentication method =>
    let code := toString method.code.toInt
    fail s!"unsupported authentication method (code {code})"
  | .parameterStatus name value =>
    (.more (), { s with parameters := (name, value) :: s.parameters }, world)
  | .errorResponse report =>
    let (result, s, world) := s.fail cap (.ofReport .connect report) world
    (.done result, s, world)
  | .readyForQuery status => (.done (.ok ()), { s with status := some status }, world)
  | _ => (.more (), s, world)

/-- Runs the startup from the guest's side. Of the ways to log in, only the password in clear text
is known. -/
def startup (cap : Capability σ) (config : ClientConfig) (s : Session) (world : σ) :
    Except ClientError Unit × Session × σ :=
  match s.sendAll cap (StartupPacket.encodeLogin config.username config.database) world with
  | (.error e, s, world) => (.error e, s, world)
  | (.ok _, s, world) =>
    converse cap .connect (fun message _ s world => startupMessage cap config message s world)
      () s world

def requirePostgres (config : ClientConfig) : Except ClientError Unit :=
  if config.protocol = .postgres then .ok ()
  else
    let name := config.protocol.name
    .error (ClientConfig.refused s!"PgClient needs a postgres connection, got {name}")

def connect (cap : Capability σ) (config : ClientConfig) (world : σ) :
    Except ClientError Session × σ :=
  match requirePostgres config with
  | .error e => (.error e, world)
  | .ok _ =>
    let (connection, world) := Connection.openWith cap config world
    (connection.map fun connection => { connection }, world)

def drop (cap : Capability σ) (s : Session) (world : σ) : σ := s.connection.drop cap world

def connectWithStartup (cap : Capability σ) (config : ClientConfig) (world : σ) :
    Except ClientError Session × σ :=
  match connect cap config world with
  | (.error e, world) => (.error e, world)
  | (.ok s, world) =>
    match s.startup cap config world with
    | (.ok _, s, world) => (.ok s, world)
    | (.error e, s, world) => (.error e, s.drop cap world)

def close (cap : Capability σ) (s : Session) (world : σ) : Except ClientError Unit × σ :=
  let (result, _, world) := s.connection.close cap world
  (result, world)

/-- The first value that the server gave for a parameter during the startup. -/
def parameter? (s : Session) (name : String) : Option String :=
  s.parameters.reverse.lookup name

def summary (s : Session) : String :=
  Text.record "PgClient" [
    ("conn", s.connection.summary),
    ("status", Text.optional TransactionStatus.label s.status)] true

end Session

end DatabaseGateway.Client
