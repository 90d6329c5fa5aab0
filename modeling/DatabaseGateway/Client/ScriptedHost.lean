import DatabaseGateway.Client.Capability

/-!
A host that answers from a script and keeps a record of the calls made to it. Every finite
behaviour of a host is one of these.
-/

namespace DatabaseGateway.Client

inductive HostCall where
  | connect (request : ConnectConfig)
  | send (handle : Handle) (data : Bytes)
  | recv (handle : Handle) (most : Nat)
  | close (handle : Handle)
  deriving DecidableEq, Repr

/-- What is left of a host's script, and the calls so far. Answers that are left out, or used up,
have a default: one fixed handle, all bytes accepted, no bytes received, closed without error. -/
structure ScriptedHost where
  connects : List (Except GatewayError (Option Handle)) := []
  sends : List (Except GatewayError (Option Nat)) := []
  recvs : List (Except GatewayError Bytes) := []
  closes : List (Except GatewayError Unit) := []
  calls : List HostCall := []

namespace ScriptedHost

def defaultHandle : Handle := 42

def record (host : ScriptedHost) (call : HostCall) : ScriptedHost :=
  { host with calls := host.calls ++ [call] }

def connect (request : ConnectConfig) (host : ScriptedHost) :
    Except GatewayError Handle × ScriptedHost :=
  let host := host.record (.connect request)
  match host.connects with
  | [] => (.ok defaultHandle, host)
  | answer :: connects =>
    (answer.map fun handle => handle.getD defaultHandle, { host with connects })

def send (handle : Handle) (data : Bytes) (host : ScriptedHost) :
    Except GatewayError Nat × ScriptedHost :=
  let host := host.record (.send handle data)
  match host.sends with
  | [] => (.ok data.length, host)
  | answer :: sends => (answer.map fun count => count.getD data.length, { host with sends })

/-- Bytes beyond the ones asked for are kept for the next receive. -/
def recv (handle : Handle) (most : Nat) (host : ScriptedHost) :
    Except GatewayError Bytes × ScriptedHost :=
  let host := host.record (.recv handle most)
  match host.recvs with
  | [] => (.ok [], host)
  | .error e :: recvs => (.error e, { host with recvs })
  | .ok bytes :: recvs =>
    let kept := bytes.drop most
    let recvs := if kept.isEmpty then recvs else .ok kept :: recvs
    (.ok (bytes.take most), { host with recvs })

def close (handle : Handle) (host : ScriptedHost) : Except GatewayError Unit × ScriptedHost :=
  let host := host.record (.close handle)
  match host.closes with
  | [] => (.ok (), host)
  | answer :: closes => (answer, { host with closes })

def pending (host : ScriptedHost) : Nat :=
  host.recvs.foldl (fun n answer => match answer with
    | .ok bytes => n + bytes.length
    | .error _ => n) 0

def capability : Capability ScriptedHost := { connect, send, recv, close, patience := pending }

end ScriptedHost

end DatabaseGateway.Client
