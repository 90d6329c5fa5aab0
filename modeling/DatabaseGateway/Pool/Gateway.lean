import DatabaseGateway.Handle.Registry
import DatabaseGateway.Pool.Basic

/-!
The state that all operations of the gateway share: the pools, the table of handles, and what the
live handles hold.

A handle that was taken out of the table may still hold its connection for a while, until the
connection is on its way back. So what handles hold is kept beside the table, not in it.
-/

namespace DatabaseGateway

/-- The pools of a gateway with the handles it has issued. -/
structure Gateway where
  config : PoolConfig
  /-- The pools, in the order in which they were first asked for. -/
  pools : List (PoolKey × Pool) := []
  /-- The live handles, each with the key that its connection was checked out for. -/
  registry : Registry PoolKey := {}
  /-- The connections that guests hold, by handle. -/
  held : List (Handle × PooledConnection) := []
  /-- Whether no connections are handed out any more. -/
  draining : Bool := false
  /-- How many guest instances have been attached. -/
  instances : Nat := 0
  /-- The guest instances that have been torn down. -/
  tornDown : List InstanceId := []
  deriving Repr

namespace Gateway

def keys (g : Gateway) : List PoolKey := g.pools.map (·.1)

def pool? (g : Gateway) (key : PoolKey) : Option Pool := g.pools.lookup key

def updatePool (g : Gateway) (key : PoolKey) (f : Pool → Pool) : Gateway :=
  { g with pools := g.pools.map fun (k, p) => if k = key then (k, f p) else (k, p) }

/-- Makes sure that a key has a pool. The first request decides the capacity, within the ceiling of
the settings. -/
def ensurePool (g : Gateway) (key : PoolKey) (poolSize : Nat) : Gateway :=
  match g.pool? key with
  | some _ => g
  | none => { g with pools := g.pools ++ [(key, { capacity := min poolSize g.config.maxSize })] }

def held? (g : Gateway) (handle : Handle) : Option PooledConnection := g.held.lookup handle

def updateHeld (g : Gateway) (handle : Handle) (f : PooledConnection → PooledConnection) :
    Gateway :=
  { g with held := g.held.map fun (h, c) => if h = handle then (h, f c) else (h, c) }

def takeHeld (g : Gateway) (handle : Handle) : Gateway :=
  { g with held := g.held.filter fun (h, _) => h ≠ handle }

def issue (g : Gateway) (owner : InstanceId) (conn : PooledConnection) :
    Except GatewayError (Handle × Gateway) := do
  let (handle, registry) ← g.registry.insert owner conn.key
  return (handle, { g with registry, held := g.held ++ [(handle, conn)] })

def stats (g : Gateway) (key : PoolKey) : PoolStats :=
  match g.pool? key with
  | some p => p.stats
  | none => {}

def openHandles (g : Gateway) (owner : InstanceId) : Nat := g.registry.countOwnedBy owner

/-- Attaches a guest instance and gives its number. -/
def attach (g : Gateway) : InstanceId × Gateway :=
  (g.instances + 1, { g with instances := g.instances + 1 })

def summary (g : Gateway) : String :=
  Text.record "ConnectionPoolManager"
    [("config", g.config.summary), ("draining", Text.flag g.draining)] true

def hostSummary (g : Gateway) (owner : InstanceId) : String :=
  Text.record "DbProxyHost"
    [("instance", toString owner), ("torn_down", Text.flag (g.tornDown.contains owner))] true

end Gateway

end DatabaseGateway
