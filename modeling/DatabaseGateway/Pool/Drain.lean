import DatabaseGateway.Pool.CheckIn

/-!
Draining the gateway before it is shut down. From the first step on no connection is handed out.
Guests are given time to close their handles; what is open after that is taken away from them, and
in the end every connection that waits is closed.
-/

namespace DatabaseGateway

inductive Drain where
  /-- Turns new requests away from now on. -/
  | announce
  /-- Looks whether handles are still open. -/
  | poll (deadline : Instant)
  /-- Waits before it looks again. -/
  | pause (deadline wakeAt : Instant)
  /-- Takes all handles out of the table. -/
  | seize
  /-- Takes their connections back. -/
  | returning (seized : Nat) (returns : CheckIns)
  /-- Notes which pools there are. -/
  | survey (seized : Nat)
  /-- Empties the next pool. -/
  | clear (seized : Nat) (pools : List PoolKey)
  deriving DecidableEq, Repr

namespace Drain

def pollInterval : Duration := .ofMillis 50

def demand (g : Gateway) : Drain → Demand
  | .pause _ wakeAt => .pause wakeAt
  | .returning _ returns => returns.stage.demand g
  | .announce | .poll _ | .seize | .survey _ | .clear .. => .nothing

/-- The step that follows on a reply. In the end there is the number of handles that were taken
away.

The pools are emptied in the order in which they were made, which is one of the orders that a
gateway may take. The point in time at which waiting ends is a number like every other one here: a
drain timeout that leads beyond the range of a clock is not told apart. -/
def resume (g : Gateway) (now : Instant) (reply : Reply) : Drain → Progress Drain Nat
  | .announce =>
    { gateway := { g with draining := true }
      next := .stage (.poll (now + g.config.drainTimeout.nanos)) }
  | .poll deadline =>
    if g.registry.isEmpty || deadline ≤ now then { gateway := g, next := .stage .seize }
    else { gateway := g, next := .stage (.pause deadline (now + pollInterval.nanos)) }
  | .pause deadline _ => { gateway := g, next := .stage (.poll deadline) }
  | .seize =>
    let (taken, registry) := g.registry.drainAll
    let next := match CheckIns.ofList? (CheckIns.returned taken) with
      | some returns => returning taken.length returns
      | none => survey taken.length
    { gateway := { g with registry }, next := .stage next }
  | .returning seized returns =>
    (returns.resume g now reply).lift (fun returns => .stage (.returning seized returns))
      fun _ => .stage (.survey seized)
  | .survey seized => { gateway := g, next := .stage (.clear seized g.keys) }
  | .clear seized [] => { gateway := g, next := .done seized }
  | .clear seized (key :: pools) =>
    match g.pool? key with
    | none => { gateway := g, next := .stage (.clear seized pools) }
    | some pool =>
      let (gone, pool) := pool.empty
      { gateway := g.updatePool key fun _ => pool
        next := .stage (.clear seized pools), closed := gone }

end Drain

end DatabaseGateway
