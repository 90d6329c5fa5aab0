import DatabaseGateway.Config.Connect
import DatabaseGateway.Config.Pool

/-!
One pool: the connections that serve one key. Those that nobody uses wait in the pool; the one that
came back last is handed out first. A pool counts every connection that is open or being opened for
its key, wherever it is at the moment.
-/

namespace DatabaseGateway

/-- A point in time, in nanoseconds since the gateway was started. -/
abbrev Instant := Nat

/-- Whether a connection waits in its pool or is in a guest's hands. -/
inductive Holding where
  | idle
  | checkedOut
  deriving DecidableEq, Repr

structure PooledConnection where
  /-- The number of the dial that opened the connection. -/
  socket : Nat
  key : PoolKey
  holding : Holding := .idle
  /-- When the connection was handed out, used or taken back the last time. -/
  lastUsed : Instant
  /-- Whether no call on the connection has failed and the server has not hung up. -/
  healthy : Bool := true
  deriving DecidableEq, Repr

structure Pool where
  /-- The most connections that may be open at a time. -/
  capacity : Nat
  /-- The connections that wait, the first one the longest. -/
  idle : List PooledConnection := []
  /-- How many connections are open or being opened. -/
  total : Nat := 0
  /-- How many of them a sweep has taken out to probe them. -/
  probing : Nat := 0
  /-- How many requests were turned away because all connections were taken. -/
  exhausted : Nat := 0
  deriving DecidableEq, Repr

inductive Acquired where
  /-- A connection that waited. -/
  | idle (conn : PooledConnection)
  /-- Room for one more connection, which is counted from now on. -/
  | room
  /-- A full pool of which a sweep holds a part. -/
  | swept
  /-- A full pool. -/
  | full
  deriving DecidableEq, Repr

namespace Pool

/-- Looks for a connection: one that waits, or room to open one. -/
def acquire (p : Pool) : Acquired × Pool :=
  match p.idle.getLast? with
  | some conn => (.idle conn, { p with idle := p.idle.dropLast })
  | none =>
    if p.total < p.capacity then (.room, { p with total := p.total + 1 })
    else if 0 < p.probing then (.swept, p)
    else (.full, { p with exhausted := p.exhausted + 1 })

def forget (p : Pool) : Pool := { p with total := p.total - 1 }

def park (p : Pool) (conn : PooledConnection) : Pool := { p with idle := p.idle ++ [conn] }

def expired (now : Instant) (timeout : Duration) (conn : PooledConnection) : Bool :=
  decide (timeout.nanos ≤ now - conn.lastUsed)

def reap (now : Instant) (timeout : Duration) (p : Pool) : List PooledConnection × Pool :=
  let gone := p.idle.filter (expired now timeout)
  (gone, { p with
    idle := p.idle.filter fun conn => !expired now timeout conn
    total := p.total - gone.length })

/-- Takes out the connection that has waited longest, to probe it. -/
def beginProbe (p : Pool) : Option PooledConnection × Pool :=
  match p.idle with
  | [] => (none, p)
  | conn :: idle => (some conn, { p with idle, probing := p.probing + 1 })

def endProbe (p : Pool) : Pool := { p with probing := p.probing - 1 }

def empty (p : Pool) : List PooledConnection × Pool :=
  (p.idle, { p with idle := [], total := p.total - p.idle.length })

end Pool

structure PoolStats where
  active : Nat := 0
  idle : Nat := 0
  total : Nat := 0
  exhausted : Nat := 0
  deriving DecidableEq, Repr

/-- The figures of a pool. Every connection that does not wait counts as active. -/
def Pool.stats (p : Pool) : PoolStats :=
  { active := p.total - p.idle.length, idle := p.idle.length, total := p.total
    exhausted := p.exhausted }

end DatabaseGateway
