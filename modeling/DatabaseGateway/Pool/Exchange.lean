import DatabaseGateway.Pool.Demand

/-!
A guest's bytes. A send or receive looks its handle up first, and then has the connection for
itself until the call is over. If the handle has lost its connection in between, the call fails
without any traffic.
-/

namespace DatabaseGateway

inductive Use where
  | send (data : Bytes)
  | recv (most : Nat)
  deriving DecidableEq, Repr

structure Received where
  bytes : Bytes := []
  ended : Bool := false
  deriving DecidableEq, Repr

inductive Usage where
  | sent (count : Nat)
  | received (r : Received)
  deriving DecidableEq, Repr

inductive Exchange where
  /-- Looks the handle up. -/
  | fetch
  /-- Waits for the connection and uses it. -/
  | transfer
  deriving DecidableEq, Repr

namespace Exchange

/-- The call that a use makes on a connection. A receive is cut down to the largest frame, and one
of no bytes makes no call. -/
def call (config : PoolConfig) (conn : PooledConnection) : Use → Demand
  | .send data => .send conn.socket data
  | .recv most =>
    let most := min most config.maxFrameSize
    if most = 0 then .nothing else .recv conn.socket most

def demand (g : Gateway) (handle : Handle) (use : Use) : Exchange → Demand
  | .fetch => .nothing
  | .transfer =>
    match g.held? handle with
    | none => .nothing
    | some conn => call g.config conn use

/-- What a use gives by the reply to its call, and whether the connection is still healthy.

Every call that is made ends in a reply. A call whose thread is lost before it has a result is not
modelled: the use would fail as on a closed handle, and the connection would still be healthy. -/
def outcome : Reply → Except GatewayError Usage × Bool
  | .sent (.ok count) => (.ok (.sent count), true)
  | .sent (.error e) | .received (.error e) => (.error e, false)
  | .received (.ok bytes) => (.ok (.received ⟨bytes, bytes.isEmpty⟩), !bytes.isEmpty)
  | _ => (.ok (.received {}), true)

def resume (g : Gateway) (now : Instant) (handle : Handle) (reply : Reply) :
    Exchange → Progress Exchange (Except GatewayError Usage)
  | .fetch =>
    match g.registry.get handle with
    | .error e => { gateway := g, next := .done (.error e) }
    | .ok _ => { gateway := g, next := .stage .transfer }
  | .transfer =>
    match g.held? handle with
    | none => { gateway := g, next := .done (.error (.handleClosed handle)) }
    | some _ =>
      let (result, intact) := outcome reply
      let g := g.updateHeld handle fun conn =>
        { conn with lastUsed := now, healthy := conn.healthy && intact }
      { gateway := g, next := .done result }

end Exchange

end DatabaseGateway
