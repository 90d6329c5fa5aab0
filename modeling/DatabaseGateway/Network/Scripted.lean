import DatabaseGateway.Link.Basic
import DatabaseGateway.Link.ScriptedSocket
import DatabaseGateway.Network.Basic

/-!
A network that answers as it is told and keeps a record of all calls. A connection either behaves
in a set manner, which can be changed at any time, or is a link over a scripted stream.
-/

namespace DatabaseGateway

inductive DialPlan where
  | proceed
  | fail (error : GatewayError)
  /-- The dial takes a while, and later dials have to wait for it. -/
  | delay (span : Duration)
  deriving DecidableEq, Repr

structure Attempt where
  key : PoolKey
  password : Option String
  /-- The error that it ends in, if it is bound to. -/
  failure : Option GatewayError
  deriving DecidableEq, Repr

structure Manner where
  /-- How many bytes a send takes, or all of them. -/
  send : Option (Except GatewayError (Option Nat)) := none
  /-- What each receive is cut from. -/
  recv : Option (Except GatewayError Bytes) := none
  /-- Whether a connection passes its probes. -/
  healthy : Option Bool := none
  probeSpan : Option Duration := none
  /-- Whether a session can be brought back to its start. -/
  reusable : Option Bool := none

namespace Manner

def orElse (m other : Manner) : Manner :=
  { send := m.send <|> other.send, recv := m.recv <|> other.recv
    healthy := m.healthy <|> other.healthy, probeSpan := m.probeSpan <|> other.probeSpan
    reusable := m.reusable <|> other.reusable }

/-- What is received when nothing else is decided: a server that is ready. -/
def readyMessage : Bytes := (Wire.BackendMessage.readyForQuery .idle).encode

end Manner

structure ScriptedNetwork where
  plans : List DialPlan := []
  /-- Until when dials have to wait for an earlier one. -/
  busyUntil : Instant := 0
  /-- The streams of the next connections, unless connections behave in a set manner. A connection
  for which none is left gets a stream without a script. -/
  scripts : Option (List ScriptedSocket) := none
  /-- Whether links to Postgres servers log in themselves. -/
  hostHandshake : Bool := true
  maxFrameSize : Nat := Wire.defaultMaxFrameSize
  /-- The manner of all connections. -/
  manner : Manner := {}
  /-- The manner of single connections, which comes first. -/
  manners : List (Nat × Manner) := []
  /-- The dials so far. -/
  attempts : List Attempt := []
  links : List (Nat × Link × ScriptedSocket) := []
  events : List Event := []

namespace ScriptedNetwork

def record (w : ScriptedNetwork) (socket : Nat) (call : SocketCall) : ScriptedNetwork :=
  { w with events := w.events ++ [⟨socket, call⟩] }

def mannerOf (w : ScriptedNetwork) (socket : Nat) : Manner :=
  ((w.manners.lookup socket).getD {}).orElse w.manner

def setManner (w : ScriptedNetwork) (socket : Option Nat) (m : Manner) : ScriptedNetwork :=
  match socket with
  | none => { w with manner := m.orElse w.manner }
  | some socket =>
    let others := w.manners.filter fun (n, _) => n ≠ socket
    { w with manners := (socket, m.orElse ((w.manners.lookup socket).getD {})) :: others }

def attempt? (w : ScriptedNetwork) (socket : Nat) : Option Attempt := w.attempts[socket - 1]?

/-- The calls so far, and the network without them. They come in their order, or else connection
after connection in the order of their keys, where that of different pools means nothing. -/
def takeEvents (w : ScriptedNetwork) (byKey : Bool) : List Event × ScriptedNetwork :=
  let key := fun (e : Event) => ((w.attempt? e.socket).map fun a => a.key.text).getD ""
  let events := if byKey then w.events.mergeSort fun e f => key e ≤ key f else w.events
  (events, { w with events := [] })

def onLink {α : Type} (w : ScriptedNetwork) (socket : Nat) (otherwise : α × ScriptedNetwork)
    (f : Link → ScriptedSocket → α × ScriptedSocket) : α × ScriptedNetwork :=
  match w.links.lookup socket with
  | none => otherwise
  | some (link, stream) =>
    let (a, stream) := f link stream
    let links := w.links.map fun (n, line) =>
      if n = socket then (n, link, { stream with events := [] }) else (n, line)
    (a, { w with links, events := w.events ++ stream.events })

/-- Notes a dial. Its plan says when it ends, which is after all earlier ones. -/
def beginDial (key : PoolKey) (password : Option String) (now : Instant) (w : ScriptedNetwork) :
    Timed Nat × ScriptedNetwork :=
  let socket := w.attempts.length + 1
  let start := Nat.max now w.busyUntil
  let (failure, finish) := match w.plans.headD .proceed with
    | .proceed => (none, start)
    | .fail e => (some e, start)
    | .delay span => (none, start + span.nanos)
  (⟨socket, ⟨finish - now⟩⟩, { w.record socket (.dial key password) with
    plans := w.plans.tail, busyUntil := finish
    attempts := w.attempts ++ [⟨key, password, failure⟩] })

/-- Opens the link of a new connection, or lets it behave in the set manner. -/
def openLine (w : ScriptedNetwork) (socket : Nat) (a : Attempt) :
    Except GatewayError Unit × ScriptedNetwork :=
  match w.scripts with
  | none => (.ok (), w)
  | some scripts =>
    let (opened, stream) := Link.openFor ScriptedSocket.transport a.key a.password
      w.hostHandshake w.maxFrameSize { scripts.headD {} with number := socket }
    let w := { w with scripts := some scripts.tail, events := w.events ++ stream.events }
    match opened with
    | .error e => (.error e, w)
    | .ok link => (.ok (), { w with
        links := w.links ++ [(socket, link, { stream with events := [] })] })

def endDial (socket : Nat) (w : ScriptedNetwork) : Except GatewayError Unit × ScriptedNetwork :=
  match w.attempt? socket with
  | none => (.ok (), w)
  | some a =>
    match a.failure with
    | some e => (.error e, w)
    | none => w.openLine socket a

def reset (socket : Nat) (timeout : Duration) (w : ScriptedNetwork) : Bool × ScriptedNetwork :=
  w.onLink socket (((w.mannerOf socket).reusable.getD true), w.record socket (.reset timeout))
    fun link stream => link.reset ScriptedSocket.transport timeout stream

def beginProbe (socket : Nat) (timeout : Duration) (w : ScriptedNetwork) :
    Timed Unit × ScriptedNetwork :=
  let span := (w.mannerOf socket).probeSpan.getD ⟨0⟩
  w.onLink socket (⟨(), span⟩, w.record socket (.ping timeout)) fun _ stream =>
    ({ value := () }, stream)

def endProbe (socket : Nat) (timeout : Duration) (w : ScriptedNetwork) : Bool × ScriptedNetwork :=
  w.onLink socket ((w.mannerOf socket).healthy.getD true, w) fun link stream =>
    link.ping ScriptedSocket.transport timeout stream

def send (socket : Nat) (data : Bytes) (w : ScriptedNetwork) :
    Except GatewayError Nat × ScriptedNetwork :=
  let answer := ((w.mannerOf socket).send.getD (.ok none)).map fun count =>
    count.getD data.length
  w.onLink socket (answer, w.record socket (.send data)) fun _ stream => stream.send data

def recv (socket : Nat) (most : Nat) (w : ScriptedNetwork) :
    Except GatewayError Bytes × ScriptedNetwork :=
  let answer := ((w.mannerOf socket).recv.getD (.ok Manner.readyMessage)).map (·.take most)
  w.onLink socket (answer, w.record socket (.recv most)) fun _ stream => stream.recv most

def close (socket : Nat) (w : ScriptedNetwork) : ScriptedNetwork :=
  (w.onLink socket ((), w.record socket .close) fun link stream =>
    ((), link.close ScriptedSocket.transport stream)).2

def network : Network ScriptedNetwork :=
  { beginDial, endDial, reset, beginProbe, endProbe, send, recv, close }

end ScriptedNetwork

end DatabaseGateway
