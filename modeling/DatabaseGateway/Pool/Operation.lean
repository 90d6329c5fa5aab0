import DatabaseGateway.Pool.CheckIn
import DatabaseGateway.Pool.Checkout
import DatabaseGateway.Pool.Drain
import DatabaseGateway.Pool.Exchange
import DatabaseGateway.Pool.Maintenance

/-!
The operations of a gateway. `Operation.demand` says what an operation in flight waits for, and
`Operation.resume` is its step on the reply.
-/

namespace DatabaseGateway

inductive Call where
  | checkout (order : Order)
  | use (handle : Handle) (use : Use)
  | release (handle : Handle)
  | teardown (owner : InstanceId)
  | reap
  | sweep
  | drain
  deriving DecidableEq, Repr

inductive Answer where
  | done
  | handle (h : Handle)
  | usage (u : Usage)
  | count (n : Nat)
  deriving DecidableEq, Repr

inductive Operation where
  | checkout (order : Order) (stage : Checkout)
  | exchange (handle : Handle) (use : Use) (stage : Exchange)
  /-- Takes one handle out of the table. -/
  | release (handle : Handle)
  /-- Takes the handles of one instance out of the table. -/
  | teardown (owner : InstanceId)
  /-- Takes connections back and then answers. -/
  | returning (returns : CheckIns) (answer : Answer)
  | reap (closed : Nat) (stage : Reap)
  | sweep (removed : Nat) (stage : Sweep)
  | drain (stage : Drain)
  /-- A call by a guest instance, which has to be there still. -/
  | guarded (owner : InstanceId) (call : Call)
  /-- The end of a guest instance, which counts once. -/
  | retire (owner : InstanceId)
  deriving DecidableEq, Repr

namespace Operation

def ofCall : Call → Operation
  | .checkout order => checkout order .screen
  | .use handle use => exchange handle use .fetch
  | .release handle => release handle
  | .teardown owner => teardown owner
  | .reap => reap 0 .survey
  | .sweep => sweep 0 .survey
  | .drain => drain .announce

def demand (g : Gateway) : Operation → Demand
  | checkout order stage => stage.demand order
  | exchange handle use stage => stage.demand g handle use
  | returning returns _ => returns.stage.demand g
  | sweep _ stage => stage.demand
  | drain stage => stage.demand g
  | release _ | teardown _ | reap .. | guarded .. | retire _ => .nothing

abbrev Result := Except GatewayError Answer

/-- Takes connections back, if there are any, and then answers. -/
def takeBack (taken : List (Handle × Entry PoolKey)) (answer : Answer) : Next Operation Result :=
  match CheckIns.ofList? (CheckIns.returned taken) with
  | some returns => .stage (returning returns answer)
  | none => .done (.ok answer)

def retiredError : GatewayError := .closed "instance has been torn down"

def resume (g : Gateway) (now : Instant) (reply : Reply) :
    Operation → Progress Operation Result
  | checkout order stage =>
    (stage.resume g now order reply).lift (fun stage => .stage (checkout order stage))
      fun result => .done (result.map .handle)
  | exchange handle use stage =>
    (stage.resume g now handle reply).lift (fun stage => .stage (exchange handle use stage))
      fun result => .done (result.map .usage)
  | release handle =>
    match g.registry.remove handle with
    | .error e => { gateway := g, next := .done (.error e) }
    | .ok (entry, registry) =>
      { gateway := { g with registry }, next := takeBack [(handle, entry)] .done }
  | teardown owner =>
    let (taken, registry) := g.registry.drainOwner owner
    { gateway := { g with registry }, next := takeBack taken (.count taken.length) }
  | returning returns answer =>
    (returns.resume g now reply).lift (fun returns => .stage (returning returns answer))
      fun _ => .done (.ok answer)
  | reap closed stage =>
    (stage.resume g now closed).lift (fun (closed, stage) => .stage (reap closed stage))
      fun closed => .done (.ok (.count closed))
  | sweep removed stage =>
    (stage.resume g removed reply).lift (fun (removed, stage) => .stage (sweep removed stage))
      fun removed => .done (.ok (.count removed))
  | drain stage =>
    (stage.resume g now reply).lift (fun stage => .stage (drain stage))
      fun seized => .done (.ok (.count seized))
  | guarded owner call =>
    if g.tornDown.contains owner then { gateway := g, next := .done (.error retiredError) }
    else { gateway := g, next := .stage (ofCall call) }
  | retire owner =>
    if g.tornDown.contains owner then { gateway := g, next := .done (.ok (.count 0)) }
    else
      { gateway := { g with tornDown := owner :: g.tornDown }, next := .stage (teardown owner) }

end Operation

end DatabaseGateway
