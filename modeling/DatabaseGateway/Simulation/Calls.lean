import DatabaseGateway.Client.Capability
import DatabaseGateway.Simulation.Basic

/-!
The calls of a simulated gateway, each carried out to its end. The administrator's calls go to the
pools directly; a guest instance's calls go through its host, which answers no call after the
instance has been torn down.
-/

namespace DatabaseGateway.Simulation

variable {σ : Type}

/-- Who makes a call: the administrator, or a guest instance through its host. -/
inductive Caller where
  | administrator
  | guest (owner : InstanceId)
  deriving DecidableEq, Repr

def Caller.operation (caller : Caller) (call : Call) : Operation :=
  match caller with
  | administrator => .ofCall call
  | guest owner => .guarded owner call

def countError (count : Nat) : GatewayError := .protocol s!"sent {count} bytes in one call"

/-- A result for a caller. A guest is told of counts below 2^32 only. -/
def Caller.restrict (caller : Caller) (count : Nat) : Except GatewayError Nat :=
  match caller with
  | administrator => .ok count
  | guest _ => if count < UInt32.size then .ok count else .error (countError count)

def checkout (n : Network σ) (caller : Caller) (order : Order) (s : Simulation σ) :
    Except GatewayError Handle × Simulation σ :=
  let (result, s) := s.perform n (caller.operation (.checkout order))
  (result.map fun answer => match answer with
    | .handle h => h
    | _ => 0, s)

def send (n : Network σ) (caller : Caller) (handle : Handle) (data : Bytes) (s : Simulation σ) :
    Except GatewayError Nat × Simulation σ :=
  let (result, s) := s.perform n (caller.operation (.use handle (.send data)))
  (result.bind fun answer => match answer with
    | .usage (.sent count) => caller.restrict count
    | _ => .ok 0, s)

def recv (n : Network σ) (caller : Caller) (handle : Handle) (most : Nat) (s : Simulation σ) :
    Except GatewayError Received × Simulation σ :=
  let (result, s) := s.perform n (caller.operation (.use handle (.recv most)))
  (result.map fun answer => match answer with
    | .usage (.received r) => r
    | _ => {}, s)

def release (n : Network σ) (caller : Caller) (handle : Handle) (s : Simulation σ) :
    Except GatewayError Unit × Simulation σ :=
  let (result, s) := s.perform n (caller.operation (.release handle))
  (result.map fun _ => (), s)

def countOf : Operation.Result → Nat
  | .ok (.count n) => n
  | _ => 0

def count (n : Network σ) (operation : Operation) (s : Simulation σ) : Nat × Simulation σ :=
  let (result, s) := s.perform n operation
  (countOf result, s)

/-- What the host of a guest instance offers. A network can answer receives without end, so they are
bounded like the steps between two calls. -/
def hostOf (n : Network σ) (owner : InstanceId) : Capability (Simulation σ) where
  connect request s := s.checkout n (.guest owner) ⟨owner, request⟩
  send handle data s := s.send n (.guest owner) handle data
  recv handle most s :=
    let (result, s) := s.recv n (.guest owner) handle most
    (result.map (·.bytes), s)
  close handle s := s.release n (.guest owner) handle
  patience _ := patience

end DatabaseGateway.Simulation
