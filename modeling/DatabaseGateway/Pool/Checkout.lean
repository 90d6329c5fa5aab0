import DatabaseGateway.Pool.Demand

/-!
Handing out a connection. A request takes the connection that came back last, if it passes a probe;
otherwise a new one is opened while the pool has room. A full pool turns the request away at once,
unless a sweep holds some of its connections: then the request waits for the sweep's probe.
-/

namespace DatabaseGateway

structure Order where
  owner : InstanceId
  request : ConnectConfig
  deriving DecidableEq, Repr

def Order.key (o : Order) : PoolKey := .ofConfig o.request

inductive Checkout where
  /-- Refuses faulty requests, and all requests once the gateway drains. -/
  | screen
  /-- Finds the pool or makes it. -/
  | locate
  /-- Looks into the pool. -/
  | inspect
  /-- Waits for the sweep. -/
  | await
  /-- Waits for the probe of a connection that was taken out of the pool. -/
  | probing (conn : PooledConnection)
  /-- Takes a connection that failed its probe off the count. -/
  | discarding
  /-- Waits for a new connection. -/
  | dialing
  /-- Gives back the room of a connection that was not opened, or not handed out. -/
  | refunding (error : GatewayError)
  /-- Issues the handle. -/
  | entering (conn : PooledConnection)
  deriving DecidableEq, Repr

namespace Checkout

def demand (order : Order) : Checkout → Demand
  | .dialing => .dial order.key order.request.password
  | .probing conn => conn.check false true
  | .await => .notice
  | .screen | .locate | .inspect | .discarding | .refunding _ | .entering _ => .nothing

def drainingError : GatewayError := .connectionRefused "connection pool is draining"

def fullError (key : PoolKey) (pool : Pool) : GatewayError :=
  let locator := key.text
  .poolExhausted s!"{locator} ({pool.total}/{pool.capacity} connections in use)"

def dialError (key : PoolKey) (timeout : Duration) : GatewayError :=
  let address := key.address
  let span := timeout.text
  .timeout s!"connecting to {address} took longer than {span}"

def inspectPool (g : Gateway) (key : PoolKey) (pool : Pool) :
    Progress Checkout (Except GatewayError Handle) :=
  let (acquired, pool) := pool.acquire
  let g := g.updatePool key fun _ => pool
  match acquired with
  | .idle conn =>
    let stage := if g.config.probeOnCheckout then probing conn else entering conn
    { gateway := g, next := .stage stage }
  | .room => { gateway := g, next := .stage dialing }
  | .swept => { gateway := g, next := .stage await }
  | .full => { gateway := g, next := .done (.error (fullError key pool)) }

def resume (g : Gateway) (now : Instant) (order : Order) (reply : Reply) :
    Checkout → Progress Checkout (Except GatewayError Handle)
  | .screen =>
    match order.request.validate with
    | .error e => { gateway := g, next := .done (.error e) }
    | .ok _ =>
      if g.draining then { gateway := g, next := .done (.error drainingError) }
      else { gateway := g, next := .stage .locate }
  | .locate =>
    { gateway := g.ensurePool order.key order.request.poolSize.toNat, next := .stage .inspect }
  | .inspect =>
    match g.pool? order.key with
    | none => { gateway := g, next := .stage .locate }
    | some pool => inspectPool g order.key pool
  | .await => { gateway := g, next := .stage .inspect }
  | .probing conn =>
    let next := match conn.survivor reply with
      | some conn => entering conn
      | none => discarding
    { gateway := g, next := .stage next, closed := conn.casualty reply }
  | .discarding => { gateway := g.updatePool order.key .forget, next := .stage .inspect }
  | .dialing =>
    let next := match reply with
      | .dialed (.ok socket) => entering { socket, key := order.key, lastUsed := now }
      | .dialed (.error e) => refunding e
      | _ => refunding (dialError order.key g.config.connectTimeout)
    { gateway := g, next := .stage next }
  | .refunding e => { gateway := g.updatePool order.key .forget, next := .done (.error e) }
  | .entering conn =>
    let conn := { conn with holding := .checkedOut, lastUsed := now }
    match g.issue order.owner conn with
    | .ok (handle, g) => { gateway := g, next := .done (.ok handle) }
    | .error e => { gateway := g, next := .stage (.refunding e), closed := [conn] }

end Checkout

end DatabaseGateway
