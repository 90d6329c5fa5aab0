import DatabaseGateway.Pool.Demand

/-!
The network as the gateway uses it. A connection goes by the number of the dial that opened it.
Dials and probes take time: what they find is decided at their end, and whoever began them may have
given them up by then.
-/

namespace DatabaseGateway

structure Timed (α : Type) where
  value : α
  span : Duration := ⟨0⟩
  deriving DecidableEq, Repr

/-- The calls that the gateway makes, over the world that they reach. All but dials and probes are
over at once. -/
structure Network (σ : Type) where
  /-- Begins to dial for a key at a point in time, and gives the number of the dial. -/
  beginDial : PoolKey → Option String → Instant → σ → Timed Nat × σ
  /-- Ends a dial: opens the connection and logs in. -/
  endDial : (socket : Nat) → σ → Except GatewayError Unit × σ
  /-- Brings a session back to its start, each round trip within a span of time. -/
  reset : (socket : Nat) → Duration → σ → Bool × σ
  /-- Begins to probe a connection, each round trip within a span of time. -/
  beginProbe : (socket : Nat) → Duration → σ → Timed Unit × σ
  /-- Ends a probe: whether the connection is alive and clean. -/
  endProbe : (socket : Nat) → Duration → σ → Bool × σ
  send : (socket : Nat) → Bytes → σ → Except GatewayError Nat × σ
  recv : (socket : Nat) → (most : Nat) → σ → Except GatewayError Bytes × σ
  close : (socket : Nat) → σ → σ

inductive Errand where
  | dial (socket : Nat)
  | probe (socket : Nat)
  /-- A check that needs no probe any more. -/
  | verdict (socket : Nat) (passed : Bool)
  deriving DecidableEq, Repr

namespace Network

variable {σ : Type}

def dial (n : Network σ) (key : PoolKey) (password : Option String) (now : Instant) (world : σ) :
    Timed Errand × σ :=
  let (begun, world) := n.beginDial key password now world
  (⟨.dial begun.value, begun.span⟩, world)

def probeIf (n : Network σ) (socket : Nat) (timeout : Duration) (probe : Bool) (world : σ) :
    Timed Errand × σ :=
  if probe then
    let (begun, world) := n.beginProbe socket timeout world
    (⟨.probe socket, begun.span⟩, world)
  else ({ value := .verdict socket true }, world)

/-- Resets a connection and begins to probe it, each if asked for. A session that could not be
brought back is not probed. -/
def check (n : Network σ) (socket : Nat) (timeout : Duration) (reset probe : Bool) (world : σ) :
    Timed Errand × σ :=
  if reset then
    match n.reset socket timeout world with
    | (false, world) => ({ value := .verdict socket false }, world)
    | (true, world) => n.probeIf socket timeout probe world
  else n.probeIf socket timeout probe world

def complete (n : Network σ) (timeout : Duration) (errand : Errand) (world : σ) : Reply × σ :=
  match errand with
  | .dial socket =>
    let (result, world) := n.endDial socket world
    (.dialed (result.map fun _ => socket), world)
  | .probe socket =>
    let (passed, world) := n.endProbe socket timeout world
    (.checked passed, world)
  | .verdict _ passed => (.checked passed, world)

/-- Ends what was given up. A connection that fails its check is closed, and everything else is left
as it is. -/
def abandon (n : Network σ) (timeout : Duration) (errand : Errand) (world : σ) : σ :=
  match errand, n.complete timeout errand world with
  | .probe socket, (.checked false, world) | .verdict socket _, (.checked false, world) =>
    n.close socket world
  | _, (_, world) => world

def closeAll (n : Network σ) (conns : List PooledConnection) (world : σ) : σ :=
  conns.foldl (fun world conn => n.close conn.socket world) world

end Network

end DatabaseGateway
