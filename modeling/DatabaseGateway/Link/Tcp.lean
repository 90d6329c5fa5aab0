import DatabaseGateway.Link.Dial

/-!
Streams over TCP that are not encrypted. What the sockets of the machine do is left open: every call
may fail at any time, for any reason. What the gateway makes of it is not: which addresses it tries,
which deadlines it sets, and as which error it reports a fault.
-/

namespace DatabaseGateway

variable {σ : Type}

inductive FaultKind where
  | timedOut
  | wouldBlock
  | invalidData
  | other
  deriving DecidableEq, Repr

structure SocketFault where
  kind : FaultKind
  text : String
  deriving DecidableEq, Repr

def SocketFault.late (f : SocketFault) : Bool :=
  match f.kind with
  | .timedOut | .wouldBlock => true
  | .invalidData | .other => false

/-- The calls of a machine's sockets, over the world that they live in. One connection is made at a
time, and the calls behind `connect` are calls on it. -/
structure Sockets (σ : Type) where
  /-- The addresses that a host and port stand for. -/
  resolve : (target : String) → σ → Except SocketFault (List String) × σ
  /-- Connects to an address within a span of time. -/
  connect : (address : String) → Duration → σ → Except SocketFault Unit × σ
  setReadTimeout : Duration → σ → Except SocketFault Unit × σ
  /-- Writes bytes, all of them. -/
  write : Bytes → σ → Except SocketFault Unit × σ
  /-- Reads at most so many bytes; none at the end of the stream. -/
  read : (most : Nat) → σ → Except SocketFault Bytes × σ
  /-- Whether there is a byte to read, and not the end of the stream. The byte is not taken. -/
  peek : σ → Except SocketFault Bool × σ
  shutdown : σ → σ
  /-- A bound on how often a read can still give bytes. -/
  patience : σ → Nat

def Sockets.offline : Sockets σ :=
  let fault : SocketFault := ⟨.other, "Network is unreachable (os error 101)"⟩
  { resolve := fun target world => (.ok [target], world)
    connect := fun _ _ world => (.error fault, world)
    setReadTimeout := fun _ world => (.error fault, world)
    write := fun _ world => (.error fault, world)
    read := fun _ world => (.error fault, world)
    peek := fun world => (.error fault, world)
    shutdown := fun world => world
    patience := fun _ => 0 }

namespace Tcp

def streamError (call : String) (f : SocketFault) : GatewayError :=
  let text := f.text
  let detail := s!"{call}: {text}"
  match f.kind with
  | .timedOut | .wouldBlock => .timeout detail
  | .invalidData => .protocol detail
  | .other => .closed detail

def connectError (target : String) (f : SocketFault) : GatewayError :=
  let text := f.text
  let detail := s!"connect to {target}: {text}"
  if f.late then .timeout detail else .connectionRefused detail

def setReadTimeout (s : Sockets σ) (span : Duration) (world : σ) : Except GatewayError Unit × σ :=
  let (result, world) := s.setReadTimeout span world
  (result.mapError (streamError "set read timeout"), world)

/-- Connects to the first of the addresses that can be connected to. If there is none, the last
fault is reported, which up to here is `last`. -/
def connectFirst (s : Sockets σ) (timeout : Duration) (target : String)
    (last : Option SocketFault) : List String → σ → Except GatewayError Unit × σ
  | [], world =>
    match last with
    | some fault => (.error (connectError target fault), world)
    | none => (.error (.connectionRefused s!"no address found for {target}"), world)
  | address :: addresses, world =>
    match s.connect address timeout world with
    | (.ok _, world) => setReadTimeout s timeout world
    | (.error fault, world) => connectFirst s timeout target (some fault) addresses world

/-- Resolves the address of a server and connects to it. A read may wait as long as connecting may
take, for the time being. -/
def openStream (s : Sockets σ) (timeout : Duration) (key : PoolKey) (world : σ) :
    Except GatewayError Unit × σ :=
  let target := key.address
  match s.resolve target world with
  | (.ok addresses, world) => connectFirst s timeout target none addresses world
  | (.error fault, world) =>
    let text := fault.text
    (.error (.connectionRefused s!"resolve {target}: {text}"), world)

/-- Whether a connection is alive: there is a byte to read, or nothing has come within the span. The
usual deadline is brought back afterwards, whether that succeeds or not. -/
def ping (s : Sockets σ) (recvTimeout span : Duration) (world : σ) : Bool × σ :=
  match s.setReadTimeout span world with
  | (.error _, world) => (false, world)
  | (.ok _, world) =>
    let (seen, world) := s.peek world
    let alive := match seen with
      | .ok there => there
      | .error fault => fault.late
    (alive, (s.setReadTimeout recvTimeout world).2)

def transport (s : Sockets σ) (recvTimeout : Duration) : Transport σ where
  send data world :=
    let (result, world) := s.write data world
    ((result.map fun _ => data.length).mapError (streamError "send"), world)
  recv most world :=
    let (result, world) := s.read most world
    (result.mapError (streamError "recv"), world)
  ping := ping s recvTimeout
  setReadTimeout span := setReadTimeout s (span.getD recvTimeout)
  close := s.shutdown
  patience := s.patience

def plain (s : Sockets σ) (recvTimeout connectTimeout : Duration) : Dialer σ where
  transport := transport s recvTimeout
  connect key world :=
    match openStream s connectTimeout key world with
    | (.error e, world) => (.error e, world)
    | (.ok _, world) => setReadTimeout s recvTimeout world
  secure _ world := (.ok (), world)

def dial (s : Sockets σ) (config : PoolConfig) (key : PoolKey) (password : Option String)
    (world : σ) : Except GatewayError Link × σ :=
  (plain s config.recvTimeout config.connectTimeout).dial (.ofPoolConfig config)
    (some key.protocol) key password world

end Tcp

end DatabaseGateway
