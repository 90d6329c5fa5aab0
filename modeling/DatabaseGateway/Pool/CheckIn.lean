import DatabaseGateway.Pool.Demand

/-!
Taking a connection back from a handle that is gone. The session is brought back to its start and,
if the settings say so, probed; only then the connection waits for the next guest. Whatever fails
this, or comes back while the gateway drains, is closed.
-/

namespace DatabaseGateway

/-- A handle that was taken out of the table, with the key of its connection. -/
structure Returned where
  handle : Handle
  key : PoolKey
  deriving DecidableEq, Repr

inductive CheckIn where
  /-- Takes the connection away from the handle. -/
  | taking
  /-- Sees whether the connection is worth a check. -/
  | judging (conn : PooledConnection)
  /-- Waits for the check. -/
  | checking (conn : PooledConnection)
  /-- Puts the connection into the pool, or takes it off the count. -/
  | settling (conn : Option PooledConnection)
  deriving DecidableEq, Repr

namespace CheckIn

def demand (g : Gateway) : CheckIn → Demand
  | .checking conn => conn.check true g.config.probeOnCheckin
  | .taking | .judging _ | .settling _ => .nothing

def resume (g : Gateway) (now : Instant) (r : Returned) (reply : Reply) :
    CheckIn → Progress CheckIn Unit
  | .taking =>
    match g.held? r.handle with
    | none => { gateway := g, next := .done () }
    | some conn => { gateway := g.takeHeld r.handle, next := .stage (.judging conn) }
  | .judging conn =>
    if !conn.healthy || g.draining then
      { gateway := g, next := .stage (.settling none), closed := [conn] }
    else { gateway := g, next := .stage (.checking conn) }
  | .checking conn =>
    { gateway := g, next := .stage (.settling (conn.survivor reply))
      closed := conn.casualty reply }
  | .settling none => { gateway := g.updatePool r.key .forget, next := .done () }
  | .settling (some conn) =>
    if g.draining then
      { gateway := g.updatePool r.key .forget, next := .done (), closed := [conn] }
    else
      let conn := { conn with holding := .idle, lastUsed := now }
      { gateway := g.updatePool r.key (·.park conn), next := .done () }

end CheckIn

structure CheckIns where
  current : Returned
  stage : CheckIn := .taking
  waiting : List Returned := []
  deriving DecidableEq, Repr

namespace CheckIns

def ofList? : List Returned → Option CheckIns
  | [] => none
  | current :: waiting => some { current, waiting }

def returned (taken : List (Handle × Entry PoolKey)) : List Returned :=
  taken.map fun (handle, entry) => ⟨handle, entry.item⟩

def resume (g : Gateway) (now : Instant) (reply : Reply) (c : CheckIns) :
    Progress CheckIns Unit :=
  (c.stage.resume g now c.current reply).lift (fun stage => .stage { c with stage }) fun _ =>
    match ofList? c.waiting with
    | some c => .stage c
    | none => .done ()

end CheckIns

end DatabaseGateway
