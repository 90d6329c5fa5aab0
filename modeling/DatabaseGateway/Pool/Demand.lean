import DatabaseGateway.Pool.Gateway

/-!
How an operation goes on. Every operation is a sequence of stages. In a stage it waits for what it
demands of the network or of the clock; the reply takes it to its next stage, in one step that no
other operation can interrupt. So any two operations can meet between two stages and nowhere else.
-/

namespace DatabaseGateway

inductive Demand where
  | nothing
  /-- A new connection, within the deadline for dialing. -/
  | dial (key : PoolKey) (password : Option String)
  /-- The check of a connection that nobody else uses, within the deadline for checks: first the
  session is brought back to its start, then it is probed; both only if asked for. -/
  | check (socket : Nat) (reset probe : Bool)
  | send (socket : Nat) (data : Bytes)
  | recv (socket : Nat) (most : Nat)
  /-- The end of a probe by a sweep, or the deadline for checks. -/
  | notice
  | pause (wakeAt : Instant)
  deriving DecidableEq, Repr

/-- What an operation is told. That the thread of a call is lost before it has a result is not among
the replies. -/
inductive Reply where
  /-- There is nothing to tell. -/
  | proceed
  | dialed (result : Except GatewayError Nat)
  | checked (passed : Bool)
  /-- The deadline has passed. What was begun is left to itself. -/
  | overrun
  | sent (result : Except GatewayError Nat)
  | received (result : Except GatewayError Bytes)
  deriving Repr

inductive Next (σ ρ : Type) where
  | stage (s : σ)
  | done (result : ρ)
  deriving DecidableEq, Repr

structure Progress (σ ρ : Type) where
  gateway : Gateway
  next : Next σ ρ
  /-- The connections that are closed in this step. -/
  closed : List PooledConnection := []
  /-- Whether the step ends a probe, which requests may be waiting for. -/
  notifies : Bool := false

def Progress.lift {σ ρ τ π : Type} (p : Progress σ ρ) (onStage : σ → Next τ π)
    (onDone : ρ → Next τ π) : Progress τ π :=
  let next := match p.next with
    | .stage s => onStage s
    | .done r => onDone r
  { gateway := p.gateway, next, closed := p.closed, notifies := p.notifies }

namespace PooledConnection

/-- The check of a connection. One that is known to be broken needs none. -/
def check (conn : PooledConnection) (reset probe : Bool) : Demand :=
  if conn.healthy then .check conn.socket reset probe else .nothing

def survivor (conn : PooledConnection) : Reply → Option PooledConnection
  | .checked true => some conn
  | _ => none

/-- The connection after its check, if it has to be closed. After an overrun it is left to the
check. -/
def casualty (conn : PooledConnection) : Reply → List PooledConnection
  | .checked true | .overrun => []
  | _ => [conn]

end PooledConnection

end DatabaseGateway
