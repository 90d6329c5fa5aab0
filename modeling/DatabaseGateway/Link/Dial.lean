import DatabaseGateway.Config.Pool
import DatabaseGateway.Link.Basic

/-!
Dialing: opening a stream to a server, securing it where the settings ask for that, and opening the
link for the server's protocol on it. Everything that can be refused without traffic is refused
before the stream is opened.
-/

namespace DatabaseGateway

variable {σ : Type}

/-- How streams to servers are opened, over the world that they live in. -/
structure Dialer (σ : Type) where
  transport : Transport σ
  /-- Opens the stream to the server of a key. -/
  connect : PoolKey → σ → Except GatewayError Unit × σ
  /-- Encrypts the stream. -/
  secure : PoolKey → σ → Except GatewayError Unit × σ

structure DialSettings where
  useTls : Bool := false
  hostHandshake : Bool := true
  maxFrameSize : Nat := Wire.defaultMaxFrameSize
  /-- How long a receive may take until the link is open. -/
  connectTimeout : Duration
  deriving DecidableEq, Repr

def DialSettings.ofPoolConfig (c : PoolConfig) : DialSettings :=
  { useTls := c.useTls, hostHandshake := c.hostHandshake, maxFrameSize := c.maxFrameSize
    connectTimeout := c.connectTimeout }

namespace Dialer

def unreachable (transport : Transport σ) : Dialer σ where
  transport := transport
  connect key world :=
    let address := key.address
    (.error (.connectionRefused
      s!"connect to {address}: Network is unreachable (os error 101)"), world)
  secure _ world := (.ok (), world)

/-- Opens a stream. A Postgres server is asked first whether it takes encrypted sessions. -/
def stream (d : Dialer σ) (s : DialSettings) (protocol : Option Protocol) (key : PoolKey)
    (world : σ) : Except GatewayError Unit × σ :=
  match d.connect key world with
  | (.error e, world) => (.error e, world)
  | (.ok _, world) =>
    if !s.useTls then (.ok (), world)
    else if protocol = some .postgres then
      match Postgres.negotiate d.transport world with
      | (.error e, world) => (.error e, world)
      | (.ok _, world) => d.secure key world
    else d.secure key world

def timed (d : Dialer σ) (s : DialSettings) (openLink : σ → Except GatewayError Link × σ)
    (world : σ) : Except GatewayError Link × σ :=
  match d.transport.setReadTimeout (some s.connectTimeout) world with
  | (.error e, world) => (.error e, world)
  | (.ok _, world) =>
    match openLink world with
    | (.error e, world) => (.error e, world)
    | (.ok link, world) =>
      match d.transport.setReadTimeout none world with
      | (.error e, world) => (.error e, world)
      | (.ok _, world) => (.ok link, world)

/-- Opens a link on an open stream. Links on which nothing is said at first open at once. -/
def link (d : Dialer σ) (s : DialSettings) (protocol : Option Protocol) (key : PoolKey)
    (password : Option String) (world : σ) : Except GatewayError Link × σ :=
  match protocol with
  | none => (.ok .plain, world)
  | some .mysql => (.ok .mysql, world)
  | some .postgres =>
    let login := Link.openPostgres d.transport key password s.hostHandshake s.maxFrameSize
    if s.hostHandshake then d.timed s login world else login world
  | some .redis => d.timed s (Link.openRedis d.transport key password) world

def dial (d : Dialer σ) (s : DialSettings) (protocol : Option Protocol) (key : PoolKey)
    (password : Option String) (world : σ) : Except GatewayError Link × σ :=
  let checked : Except GatewayError Unit :=
    if protocol = some .redis then (Redis.selectIndex key.database).map fun _ => () else .ok ()
  match checked with
  | .error e => (.error e, world)
  | .ok _ =>
    match d.stream s protocol key world with
    | (.error e, world) => (.error e, world)
    | (.ok _, world) => d.link s protocol key password world

end Dialer

end DatabaseGateway
