import DatabaseGateway.Network.Basic
import DatabaseGateway.Pool.Operation

/-!
A gateway at work on a network, in virtual time. Operations in flight take turns: the earliest that
can go on does so, and time passes only when none can. Every step is a step of `Operation.resume`.
-/

namespace DatabaseGateway

variable {σ : Type}

inductive Wake where
  | ready
  | at (time : Instant)
  /-- When something on the network is over, unless the time for it is over first. -/
  | errand (errand : Errand) (finish limit : Instant)
  /-- When a probe by a sweep has ended, or at a point in time. -/
  | notice (deadline : Instant)

def Wake.time : Wake → Instant
  | ready => 0
  | .at time => time
  | errand _ finish limit => min finish limit
  | notice deadline => deadline

structure Flight where
  number : Nat
  operation : Operation
  wake : Wake := .ready

structure Simulation (σ : Type) where
  world : σ
  gateway : Gateway
  clock : Instant := 0
  /-- The operations in flight, the earliest first. -/
  flights : List Flight := []
  /-- The results of operations that are over. -/
  results : List (Nat × Operation.Result) := []
  /-- How many operations have been started. -/
  started : Nat := 0
  /-- What is under way on the network although it was given up, with its ends. -/
  abandoned : List (Instant × Errand) := []

namespace Simulation

/-- Begins what an operation demands, and says when the operation goes on. Sends and receives are
made only in the step itself. -/
def await (n : Network σ) (s : Simulation σ) (demand : Demand) : Wake × Simulation σ :=
  let config := s.gateway.config
  match demand with
  | .dial key password =>
    let (e, world) := n.dial key password s.clock s.world
    let limit := s.clock + config.connectTimeout.nanos
    (.errand e.value (s.clock + e.span.nanos) limit, { s with world })
  | .check socket reset probe =>
    let (e, world) := n.check socket config.probeTimeout reset probe s.world
    let limit := s.clock + config.probeDeadline.nanos
    (.errand e.value (s.clock + e.span.nanos) limit, { s with world })
  | .notice => (.notice (s.clock + config.probeDeadline.nanos), s)
  | .pause wakeAt => (.at wakeAt, s)
  | .nothing | .send .. | .recv .. => (.ready, s)

def reply (n : Network σ) (s : Simulation σ) (f : Flight) : Reply × Simulation σ :=
  match f.wake with
  | .at _ | .notice _ => (.proceed, s)
  | .errand errand finish limit =>
    if finish < limit then
      let (r, world) := n.complete s.gateway.config.probeTimeout errand s.world
      (r, { s with world })
    else (.overrun, { s with abandoned := s.abandoned ++ [(finish, errand)] })
  | .ready =>
    match f.operation.demand s.gateway with
    | .send socket data =>
      let (r, world) := n.send socket data s.world
      (.sent r, { s with world })
    | .recv socket most =>
      let (r, world) := n.recv socket most s.world
      (.received r, { s with world })
    | _ => (.proceed, s)

def notify (s : Simulation σ) : Simulation σ :=
  { s with flights := s.flights.map fun f =>
      match f.wake with
      | .notice _ => { f with wake := .ready }
      | _ => f }

def advance (n : Network σ) (s : Simulation σ) (f : Flight) : Simulation σ :=
  let (reply, s) := s.reply n f
  let p := f.operation.resume s.gateway s.clock reply
  let s := { s with gateway := p.gateway, world := n.closeAll p.closed s.world }
  let s := if p.notifies then s.notify else s
  match p.next with
  | .done result =>
    { s with
      flights := s.flights.filter fun g => g.number ≠ f.number
      results := (f.number, result) :: s.results }
  | .stage operation =>
    let (wake, s) := s.await n (operation.demand s.gateway)
    { s with flights := s.flights.map fun g =>
        if g.number = f.number then { g with operation, wake } else g }

def endAbandoned (n : Network σ) (s : Simulation σ) : Simulation σ :=
  let due := s.abandoned.filter fun (time, _) => time ≤ s.clock
  let timeout := s.gateway.config.probeTimeout
  { s with
    world := due.foldl (fun world (_, errand) => n.abandon timeout errand world) s.world
    abandoned := s.abandoned.filter fun (time, _) => ¬ time ≤ s.clock }

def nextTime? (s : Simulation σ) : Option Instant :=
  (s.flights.map (fun f => f.wake.time) ++ s.abandoned.map (·.1)).min?

/-- A bound on the steps between two calls from outside. -/
def patience : Nat := 1000000

/-- Goes on until a goal is reached, a point in time has passed, or nothing more happens. -/
def runUntil (n : Network σ) (goal : Simulation σ → Bool) (limit : Option Instant) :
    Nat → Simulation σ → Simulation σ
  | 0, s => s
  | fuel + 1, s =>
    let s := s.endAbandoned n
    if goal s then s
    else match s.flights.find? fun f => f.wake.time ≤ s.clock with
      | some f => runUntil n goal limit fuel (s.advance n f)
      | none =>
        match s.nextTime?, limit with
        | none, _ => s
        | some time, none => runUntil n goal limit fuel { s with clock := time }
        | some time, some limit =>
          if limit < time then s
          else runUntil n goal limit fuel { s with clock := time }

def start (s : Simulation σ) (operation : Operation) : Nat × Simulation σ :=
  (s.started, { s with
    started := s.started + 1, flights := s.flights ++ [{ number := s.started, operation }] })

def result? (s : Simulation σ) (number : Nat) : Option Operation.Result :=
  s.results.lookup number

/-- What an operation that never comes to an end is taken to answer. -/
def unfinished : Operation.Result := .error (.timeout "operation still in flight")

def finish (n : Network σ) (number : Nat) (s : Simulation σ) : Operation.Result × Simulation σ :=
  let s := s.runUntil n (fun s => (s.result? number).isSome) none patience
  let results := s.results.filter fun (other, _) => other ≠ number
  ((s.result? number).getD unfinished, { s with results })

def perform (n : Network σ) (operation : Operation) (s : Simulation σ) :
    Operation.Result × Simulation σ :=
  let (number, s) := s.start operation
  s.finish n number

def sleepUntil (n : Network σ) (time : Instant) (s : Simulation σ) : Simulation σ :=
  { s.runUntil n (fun _ => false) (some time) patience with clock := Nat.max s.clock time }

def sleep (n : Network σ) (span : Duration) (s : Simulation σ) : Simulation σ :=
  s.sleepUntil n (s.clock + span.nanos)

def isUnderWay (number : Nat) (s : Simulation σ) : Bool :=
  match s.flights.find? fun f => f.number = number with
  | some { wake := .at _, .. } | some { wake := .errand .., .. } => true
  | some _ => false
  | none => true

/-- Rounds of maintenance until a point in time: each waits, reaps and sweeps. A round that has
begun comes to its end. -/
def maintainUntil (n : Network σ) (time : Instant) : Nat → Simulation σ → Simulation σ
  | 0, s => s
  | rounds + 1, s =>
    let wake := s.clock + s.gateway.config.maintenanceInterval.nanos
    if time < wake then s.sleepUntil n time
    else
      let s := s.sleepUntil n wake
      let (_, s) := s.perform n (.ofCall .reap)
      let (_, s) := s.perform n (.ofCall .sweep)
      maintainUntil n time rounds s

def maintain (n : Network σ) (span : Duration) (s : Simulation σ) : Simulation σ :=
  let rounds := span.nanos / s.gateway.config.maintenanceInterval.nanos + 1
  s.maintainUntil n (s.clock + span.nanos) rounds

end Simulation

end DatabaseGateway
