import DatabaseGateway.Config.Table
import DatabaseGateway.Duration
import DatabaseGateway.Text.Utf8
import DatabaseGateway.Wire.Frame

/-!
The settings the pools run with, and how they follow from a deployment's table.
-/

namespace DatabaseGateway

structure PoolConfig where
  /-- The ceiling on the connections of one pool; a guest's own wish is cut down to it. -/
  maxSize : Nat := 10
  /-- How long a connection may stay idle before it is reaped. -/
  idleTimeout : Duration := .ofSeconds 60
  /-- The time between two rounds of maintenance. -/
  healthCheckInterval : Duration := .ofSeconds 30
  /-- How long dialing and logging in may take. -/
  connectTimeout : Duration := .ofSeconds 5
  /-- How long one read on a checked-out connection may take. -/
  recvTimeout : Duration := .ofSeconds 30
  /-- How long one round trip of a liveness probe may take. -/
  probeTimeout : Duration := .ofSeconds 2
  probeOnCheckout : Bool := true
  probeOnCheckin : Bool := true
  useTls : Bool := false
  verifyCertificates : Bool := true
  /-- How long draining waits for connections that guests still hold. -/
  drainTimeout : Duration := .ofSeconds 30
  /-- The bound on one frame of a server and on one read of a guest. -/
  maxFrameSize : Nat := Wire.defaultMaxFrameSize
  /-- Whether the gateway logs in to Postgres servers itself. -/
  hostHandshake : Bool := true
  deriving DecidableEq, Repr, Inhabited

namespace PoolConfig

def duration (value : Option String) (default : Duration) : Except GatewayError Duration :=
  match value with
  | none => .ok default
  | some text => Duration.parse text

def ofTable (t : ProxyTable) : Except GatewayError PoolConfig := do
  let default : PoolConfig := {}
  if t.maxPoolSize = some 0 then
    throw (.invalidConfig "max_pool_size must be at least 1")
  if t.maxFrameSize = some 0 then
    throw (.invalidConfig "max_frame_size must be at least 1")
  return {
    maxSize := (t.maxPoolSize.map UInt32.toNat).getD default.maxSize
    idleTimeout := ← duration t.idleTimeout default.idleTimeout
    healthCheckInterval := ← duration t.healthCheckInterval default.healthCheckInterval
    connectTimeout := ← duration t.connectTimeout default.connectTimeout
    recvTimeout := ← duration t.recvTimeout default.recvTimeout
    probeTimeout := ← duration t.probeTimeout default.probeTimeout
    probeOnCheckout := t.probeOnCheckout.getD default.probeOnCheckout
    probeOnCheckin := t.probeOnCheckin.getD default.probeOnCheckin
    useTls := t.tls.getD default.useTls
    verifyCertificates := t.verifyCertificates.getD default.verifyCertificates
    drainTimeout := ← duration t.drainTimeout default.drainTimeout
    maxFrameSize := t.maxFrameSize.getD default.maxFrameSize
    hostHandshake := t.hostHandshake.getD default.hostHandshake }

/-- How long a probe or a reset may take as a whole. Each round trip has its own deadline; this
one catches a connection that ignores it. -/
def probeDeadline (c : PoolConfig) : Duration := c.probeTimeout.times 4

def summary (c : PoolConfig) : String :=
  Text.record "PoolConfig" [
    ("max_size", toString c.maxSize), ("idle_timeout", c.idleTimeout.text),
    ("health_check_interval", c.healthCheckInterval.text),
    ("connect_timeout", c.connectTimeout.text), ("recv_timeout", c.recvTimeout.text),
    ("probe_timeout", c.probeTimeout.text), ("probe_on_checkout", Text.flag c.probeOnCheckout),
    ("probe_on_checkin", Text.flag c.probeOnCheckin), ("use_tls", Text.flag c.useTls),
    ("verify_certificates", Text.flag c.verifyCertificates),
    ("drain_timeout", c.drainTimeout.text), ("max_frame_size", toString c.maxFrameSize),
    ("host_handshake", Text.flag c.hostHandshake)] false

end PoolConfig

structure Deployment where
  enabled : Bool := false
  pool : PoolConfig := {}
  deriving DecidableEq, Repr, Inhabited

inductive DeploymentFault where
  /-- There is no file, or it is not a well-formed document of the right shape. -/
  | unreadable
  /-- A setting has a value that is refused. -/
  | refused (error : GatewayError)
  deriving DecidableEq, Repr

namespace Deployment

/-- The deployment that a settings file with this table, or without one, describes. A table turns
the gateway on unless it says otherwise. -/
def ofTable : Option ProxyTable → Except GatewayError Deployment
  | none => .ok {}
  | some t => do
    let pool ← PoolConfig.ofTable t
    return { enabled := t.enabled.getD true, pool }

def load (contents : Option Bytes) : Except DeploymentFault Deployment :=
  match contents >>= Text.decode? >>= ProxyTable.parse? with
  | none => .error .unreadable
  | some table => (ofTable table).mapError .refused

end Deployment

end DatabaseGateway
