import DatabaseGateway.Config.Connect
import DatabaseGateway.Link.Transport

/-!
A byte stream that answers from a script and keeps a record of the calls that reach it. Every
finite behaviour of a stream is one of these.
-/

namespace DatabaseGateway

inductive SocketCall where
  | dial (key : PoolKey) (password : Option String)
  | send (data : Bytes)
  | recv (most : Nat)
  | ping (timeout : Duration)
  | reset (timeout : Duration)
  | readTimeout (timeout : Option Duration)
  | close
  deriving DecidableEq, Repr

structure Event where
  socket : Nat
  call : SocketCall
  deriving DecidableEq, Repr

inductive Supply where
  /-- Bytes to be given in portions of the size asked for. -/
  | measured (bytes : Bytes)
  /-- Bytes given all at once, however few are asked for. -/
  | whole (bytes : Bytes)
  | failing (error : GatewayError)
  deriving DecidableEq, Repr

/-- What is left of a stream's script, its number, and the calls so far. Answers that are left out,
or used up, have a default: all bytes taken, no data within the deadline, deadlines set, alive. -/
structure ScriptedSocket where
  number : Nat := 1
  sends : List (Except GatewayError (Option Nat)) := []
  recvs : List Supply := []
  timeouts : List (Except GatewayError Unit) := []
  pings : List Bool := []
  events : List Event := []

namespace ScriptedSocket

def record (s : ScriptedSocket) (call : SocketCall) : ScriptedSocket :=
  { s with events := s.events ++ [⟨s.number, call⟩] }

def send (data : Bytes) (s : ScriptedSocket) : Except GatewayError Nat × ScriptedSocket :=
  let s := s.record (.send data)
  match s.sends with
  | [] => (.ok data.length, s)
  | answer :: sends => (answer.map fun count => count.getD data.length, { s with sends })

/-- Bytes beyond the ones asked for are kept for the next receive. -/
def recv (most : Nat) (s : ScriptedSocket) : Except GatewayError Bytes × ScriptedSocket :=
  let s := s.record (.recv most)
  match s.recvs with
  | [] => (.error (.timeout "no data"), s)
  | .failing e :: recvs => (.error e, { s with recvs })
  | .whole bytes :: recvs => (.ok bytes, { s with recvs })
  | .measured bytes :: recvs =>
    let kept := bytes.drop most
    let recvs := if kept.isEmpty then recvs else .measured kept :: recvs
    (.ok (bytes.take most), { s with recvs })

def ping (timeout : Duration) (s : ScriptedSocket) : Bool × ScriptedSocket :=
  let s := s.record (.ping timeout)
  match s.pings with
  | [] => (true, s)
  | answer :: pings => (answer, { s with pings })

def setReadTimeout (timeout : Option Duration) (s : ScriptedSocket) :
    Except GatewayError Unit × ScriptedSocket :=
  let s := s.record (.readTimeout timeout)
  match s.timeouts with
  | [] => (.ok (), s)
  | answer :: timeouts => (answer, { s with timeouts })

def close (s : ScriptedSocket) : ScriptedSocket := s.record .close

def pending (s : ScriptedSocket) : Nat :=
  s.recvs.foldl (fun n supply => match supply with
    | .measured bytes | .whole bytes => n + bytes.length
    | .failing _ => n) 0

def transport : Transport ScriptedSocket :=
  { send, recv, ping, setReadTimeout, close, patience := pending }

def summary : String := "Socket"

end ScriptedSocket

end DatabaseGateway
