import DatabaseGateway.Pool.Demand

/-!
Maintenance of the pools. Reaping closes the connections that have waited for too long. A sweep
probes every connection that waits, one at a time, and closes the ones that fail. Both go from pool
to pool and touch nothing but connections that wait.
-/

namespace DatabaseGateway

inductive Reap where
  /-- Notes which pools there are. -/
  | survey
  /-- Reaps the next pool. -/
  | collect (pools : List PoolKey)
  deriving DecidableEq, Repr

namespace Reap

/-- The next step, and how many connections have been closed up to and including it. The pools are
visited in the order in which they were made: this is one of the orders that a gateway may take. -/
def resume (g : Gateway) (now : Instant) (closed : Nat) : Reap → Progress (Nat × Reap) Nat
  | .survey => { gateway := g, next := .stage (closed, .collect g.keys) }
  | .collect [] => { gateway := g, next := .done closed }
  | .collect (key :: pools) =>
    match g.pool? key with
    | none => { gateway := g, next := .stage (closed, .collect pools) }
    | some pool =>
      let (gone, pool) := pool.reap now g.config.idleTimeout
      { gateway := g.updatePool key fun _ => pool
        next := .stage (closed + gone.length, .collect pools), closed := gone }

end Reap

inductive Sweep where
  /-- Notes which pools there are. -/
  | survey
  /-- Counts the connections that wait in the next pool. -/
  | enter (pools : List PoolKey)
  /-- Takes out the next connection of a pool, while there are rounds left. -/
  | pick (key : PoolKey) (rounds : Nat) (pools : List PoolKey)
  /-- Waits for the probe of a connection. -/
  | probing (conn : PooledConnection) (key : PoolKey) (rounds : Nat) (pools : List PoolKey)
  /-- Puts the connection back, or takes it off the count. -/
  | settling (conn : Option PooledConnection) (key : PoolKey) (rounds : Nat)
    (pools : List PoolKey)
  deriving DecidableEq, Repr

namespace Sweep

def demand : Sweep → Demand
  | .probing conn .. => conn.check false true
  | .survey | .enter _ | .pick .. | .settling .. => .nothing

/-- The next step, and how many connections have failed up to and including it. The pools are
visited in the order in which they were made, which is one of the orders that a gateway may
take. -/
def resume (g : Gateway) (removed : Nat) (reply : Reply) : Sweep → Progress (Nat × Sweep) Nat
  | .survey => { gateway := g, next := .stage (removed, .enter g.keys) }
  | .enter [] => { gateway := g, next := .done removed }
  | .enter (key :: pools) =>
    match g.pool? key with
    | none => { gateway := g, next := .stage (removed, .enter pools) }
    | some pool => { gateway := g, next := .stage (removed, .pick key pool.idle.length pools) }
  | .pick _ 0 pools => { gateway := g, next := .stage (removed, .enter pools) }
  | .pick key (rounds + 1) pools =>
    match (g.pool? key).map Pool.beginProbe with
    | some (some conn, pool) =>
      { gateway := g.updatePool key fun _ => pool
        next := .stage (removed, .probing conn key rounds pools) }
    | _ => { gateway := g, next := .stage (removed, .enter pools) }
  | .probing conn key rounds pools =>
    { gateway := g, next := .stage (removed, .settling (conn.survivor reply) key rounds pools)
      closed := conn.casualty reply }
  | .settling none key rounds pools =>
    { gateway := g.updatePool key (·.endProbe.forget)
      next := .stage (removed + 1, .pick key rounds pools), notifies := true }
  | .settling (some conn) key rounds pools =>
    if g.draining then
      { gateway := g.updatePool key (·.endProbe.forget)
        next := .stage (removed, .pick key rounds pools), closed := [conn], notifies := true }
    else
      { gateway := g.updatePool key (·.endProbe.park conn)
        next := .stage (removed, .pick key rounds pools), notifies := true }

end Sweep

def PoolConfig.minMaintenanceInterval : Duration := .ofMillis 10

def PoolConfig.maintenanceInterval (c : PoolConfig) : Duration :=
  c.healthCheckInterval.max minMaintenanceInterval

end DatabaseGateway
