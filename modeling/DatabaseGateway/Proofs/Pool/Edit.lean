import DatabaseGateway.Proofs.Pool.Traffic
import DatabaseGateway.Proofs.Pool.Gateway

/-!
What a step does with a pool. There are eight things that can happen to a pool, and at most one of
them happens in a step, to one pool. All counting is done here: where the count of a pool is
reduced, `PoolEdit.deducts` says by how much, and where the number of probes is, `PoolEdit.ends`
does.
-/

namespace DatabaseGateway

inductive PoolEdit where
  /-- A request looks for a connection. -/
  | acquire
  /-- A connection that is gone, or was never opened, is taken off the count. -/
  | forget
  /-- A connection comes back. -/
  | park (conn : PooledConnection)
  | reap (now : Instant) (timeout : Duration)
  | beginProbe
  /-- A probe is over and the connection comes back. -/
  | restore (conn : PooledConnection)
  /-- A probe is over and the connection is taken off the count. -/
  | discard
  | empty
  deriving DecidableEq, Repr

namespace PoolEdit

def apply : PoolEdit → Pool → Pool
  | acquire, p => p.acquire.2
  | forget, p => p.forget
  | park conn, p => p.park conn
  | reap now timeout, p => (p.reap now timeout).2
  | beginProbe, p => p.beginProbe.2
  | restore conn, p => p.endProbe.park conn
  | discard, p => p.endProbe.forget
  | empty, p => p.empty.2

def deducts : PoolEdit → Pool → Nat
  | forget, _ | discard, _ => 1
  | reap now timeout, p => (p.reap now timeout).1.length
  | empty, p => p.idle.length
  | acquire, _ | park _, _ | beginProbe, _ | restore _, _ => 0

def adds : PoolEdit → Pool → Nat
  | acquire, p => if p.idle = [] ∧ p.total < p.capacity then 1 else 0
  | forget, _ | park _, _ | reap .., _ | beginProbe, _ | restore _, _ | discard, _ | empty, _ => 0

def ends : PoolEdit → Nat
  | restore _ | discard => 1
  | acquire | forget | park _ | reap .. | beginProbe | empty => 0

def begins : PoolEdit → Pool → Nat
  | beginProbe, p => if p.idle = [] then 0 else 1
  | acquire, _ | forget, _ | park _, _ | reap .., _ | restore _, _ | discard, _ | empty, _ => 0

/-- A change of the count, as the code makes it: what is taken off is cut down to what is there. -/
theorem total_apply (e : PoolEdit) (p : Pool) :
    (e.apply p).total = p.total + e.adds p - e.deducts p := by
  cases e with
  | acquire =>
      show p.acquire.2.total = p.total + adds acquire p - 0
      unfold Pool.acquire adds
      cases hlast : p.idle.getLast? with
      | some conn =>
          have hne : p.idle ≠ [] := by
            intro hnil
            simp [hnil] at hlast
          simp [hne]
      | none =>
          have hnil := List.getLast?_eq_none_iff.mp hlast
          by_cases hroom : p.total < p.capacity
          · simp [hnil, hroom]
          · by_cases hswept : 0 < p.probing <;> simp [hroom, hswept]
  | beginProbe =>
      show p.beginProbe.2.total = p.total
      unfold Pool.beginProbe
      split <;> rfl
  | forget | park | reap | restore | discard | empty => rfl

/-- A change of the number of probes, as the code makes it. -/
theorem probing_apply (e : PoolEdit) (p : Pool) :
    (e.apply p).probing = p.probing + e.begins p - e.ends := by
  cases e with
  | acquire =>
      show p.acquire.2.probing = p.probing
      unfold Pool.acquire
      split
      · rfl
      · split
        · rfl
        · split <;> rfl
  | beginProbe =>
      show p.beginProbe.2.probing = p.probing + begins beginProbe p - 0
      unfold Pool.beginProbe begins
      cases hidle : p.idle <;> simp [hidle]
  | forget | park | reap | restore | discard | empty => rfl

/-- The capacity of a pool never changes. -/
@[simp] theorem capacity_apply (e : PoolEdit) (p : Pool) : (e.apply p).capacity = p.capacity := by
  cases e with
  | acquire =>
      show p.acquire.2.capacity = p.capacity
      unfold Pool.acquire
      split
      · rfl
      · split
        · rfl
        · split <;> rfl
  | beginProbe =>
      show p.beginProbe.2.capacity = p.capacity
      unfold Pool.beginProbe
      split <;> rfl
  | forget | park | reap | restore | discard | empty => rfl

end PoolEdit

/-! ### The change that a step makes -/

def Checkout.edit (order : Order) : Checkout → Option (PoolKey × PoolEdit)
  | .inspect => some (order.key, .acquire)
  | .discarding | .refunding _ => some (order.key, .forget)
  | .screen | .locate | .await | .probing _ | .dialing | .entering _ => none

def CheckIn.edit (g : Gateway) (now : Instant) (r : Returned) :
    CheckIn → Option (PoolKey × PoolEdit)
  | .settling none => some (r.key, .forget)
  | .settling (some conn) =>
    if g.draining then some (r.key, .forget)
    else some (r.key, .park { conn with holding := .idle, lastUsed := now })
  | .taking | .judging _ | .checking _ => none

def Reap.edit (g : Gateway) (now : Instant) : Reap → Option (PoolKey × PoolEdit)
  | .collect (key :: _) => some (key, .reap now g.config.idleTimeout)
  | .survey | .collect [] => none

def Sweep.edit (g : Gateway) : Sweep → Option (PoolKey × PoolEdit)
  | .pick key (_ + 1) _ => some (key, .beginProbe)
  | .settling none key _ _ => some (key, .discard)
  | .settling (some conn) key _ _ =>
    if g.draining then some (key, .discard) else some (key, .restore conn)
  | .survey | .enter _ | .pick _ 0 _ | .probing .. => none

def Drain.edit (g : Gateway) (now : Instant) : Drain → Option (PoolKey × PoolEdit)
  | .returning _ returns => returns.stage.edit g now returns.current
  | .clear _ (key :: _) => some (key, .empty)
  | .announce | .poll _ | .pause .. | .seize | .survey _ | .clear _ [] => none

/-- The change of a pool in the next step of an operation. -/
def Operation.edit (g : Gateway) (now : Instant) : Operation → Option (PoolKey × PoolEdit)
  | .checkout order stage => stage.edit order
  | .returning returns _ => returns.stage.edit g now returns.current
  | .reap _ stage => stage.edit g now
  | .sweep _ stage => stage.edit g
  | .drain stage => stage.edit g now
  | .exchange .. | .release _ | .teardown _ | .guarded .. | .retire _ => none

def Gateway.edited (g : Gateway) : Option (PoolKey × PoolEdit) → Gateway
  | some (key, e) => g.updatePool key e.apply
  | none => g

namespace Gateway

variable {g : Gateway} {key key' : PoolKey} {pool : Pool}

theorem pool?_replace (h : g.pool? key = some pool) (f : Pool → Pool) (key' : PoolKey) :
    (g.updatePool key fun _ => f pool).pool? key' = (g.updatePool key f).pool? key' := by
  rw [pool?_updatePool, pool?_updatePool]
  by_cases heq : key' = key
  · simp [heq, h]
  · simp [heq]

theorem pool?_updatePool_same (h : g.pool? key = some pool) (key' : PoolKey) :
    (g.updatePool key fun _ => pool).pool? key' = g.pool? key' := by
  rw [pool?_updatePool]
  by_cases heq : key' = key
  · simp [heq, h]
  · simp [heq]

theorem pool?_updatePool_of_none (h : g.pool? key = none) (f : Pool → Pool) (key' : PoolKey) :
    (g.updatePool key f).pool? key' = g.pool? key' := by
  rw [pool?_updatePool]
  by_cases heq : key' = key
  · simp [heq, h]
  · simp [heq]

theorem pool?_edited (g : Gateway) (edit : Option (PoolKey × PoolEdit)) (key : PoolKey) :
    (g.edited edit).pool? key =
      match edit with
      | some (key', e) => if key = key' then (g.pool? key).map e.apply else g.pool? key
      | none => g.pool? key := by
  cases edit with
  | none => rfl
  | some x => exact pool?_updatePool g x.1 key x.2.apply

end Gateway

section Resume

variable {g : Gateway} {now : Instant} {reply : Reply}

theorem Checkout.pool?_resume (order : Order) (stage : Checkout) (hstage : stage ≠ .locate)
    (key : PoolKey) :
    (stage.resume g now order reply).gateway.pool? key =
      (g.edited (stage.edit order)).pool? key := by
  cases stage with
  | locate => exact absurd rfl hstage
  | screen =>
      unfold resume
      dsimp only
      split
      · rfl
      · split <;> rfl
  | inspect =>
      unfold resume
      dsimp only
      split
      · next hpool => exact (Gateway.pool?_updatePool_of_none hpool _ key).symm
      · next pool hpool =>
          rw [edit, Gateway.edited]
          refine Eq.trans ?_ (Gateway.pool?_replace hpool PoolEdit.acquire.apply key)
          show (inspectPool g order.key pool).gateway.pool? key =
            (g.updatePool order.key fun _ => pool.acquire.2).pool? key
          unfold inspectPool
          rcases pool.acquire with ⟨acquired, pool'⟩
          cases acquired <;> rfl
  | entering conn =>
      unfold resume
      dsimp only
      split
      · next handle g' hissue =>
          obtain ⟨registry, -, rfl⟩ := Gateway.issue_eq_ok hissue
          rfl
      · rfl
  | await | probing | discarding | dialing | refunding => rfl

theorem CheckIn.pool?_resume (r : Returned) (stage : CheckIn) (key : PoolKey) :
    (stage.resume g now r reply).gateway.pool? key = (g.edited (stage.edit g now r)).pool? key := by
  cases stage with
  | taking =>
      unfold resume
      dsimp only
      split <;> rfl
  | judging conn =>
      unfold resume
      dsimp only
      split <;> rfl
  | checking conn => rfl
  | settling conn =>
      cases conn with
      | none => rfl
      | some conn =>
          unfold resume edit
          dsimp only
          split <;> rfl

theorem Reap.pool?_resume (closed : Nat) (stage : Reap) (key : PoolKey) :
    (stage.resume g now closed).gateway.pool? key = (g.edited (stage.edit g now)).pool? key := by
  cases stage with
  | survey => rfl
  | collect pools =>
      cases pools with
      | nil => rfl
      | cons key' pools =>
          unfold resume
          dsimp only
          split
          · next hpool => exact (Gateway.pool?_updatePool_of_none hpool _ key).symm
          · next pool hpool =>
              exact Gateway.pool?_replace hpool (PoolEdit.reap now g.config.idleTimeout).apply key

theorem Sweep.pool?_resume (removed : Nat) (stage : Sweep) (key : PoolKey) :
    (stage.resume g removed reply).gateway.pool? key = (g.edited (stage.edit g)).pool? key := by
  cases stage with
  | survey => rfl
  | enter pools =>
      cases pools with
      | nil => rfl
      | cons key' pools =>
          unfold resume
          dsimp only
          split <;> rfl
  | pick key' rounds pools =>
      cases rounds with
      | zero => rfl
      | succ rounds =>
          unfold resume edit
          dsimp only
          cases hpool : g.pool? key' with
          | none => exact (Gateway.pool?_updatePool_of_none hpool _ key).symm
          | some pool =>
              rw [Gateway.edited, ← Gateway.pool?_replace hpool, Option.map_some]
              show _ = (g.updatePool key' fun _ => pool.beginProbe.2).pool? key
              rw [Pool.beginProbe]
              cases hidle : pool.idle with
              | nil =>
                  -- The pool is put back as it is.
                  exact (Gateway.pool?_updatePool_same hpool key).symm
              | cons conn idle => rfl
  | probing => rfl
  | settling conn key' rounds pools =>
      cases conn with
      | none => rfl
      | some conn =>
          unfold resume edit
          dsimp only
          split <;> rfl

theorem Drain.pool?_resume (stage : Drain) (key : PoolKey) :
    (stage.resume g now reply).gateway.pool? key = (g.edited (stage.edit g now)).pool? key := by
  cases stage with
  | announce => rfl
  | poll deadline =>
      unfold resume
      dsimp only
      split <;> rfl
  | pause => rfl
  | seize => rfl
  | returning seized returns => exact returns.stage.pool?_resume returns.current key
  | survey => rfl
  | clear seized pools =>
      cases pools with
      | nil => rfl
      | cons key' pools =>
          unfold resume
          dsimp only
          split
          · next hpool => exact (Gateway.pool?_updatePool_of_none hpool _ key).symm
          · next pool hpool => exact Gateway.pool?_replace hpool PoolEdit.empty.apply key

theorem Exchange.pool?_resume (handle : Handle) (stage : Exchange) (key : PoolKey) :
    (stage.resume g now handle reply).gateway.pool? key = g.pool? key := by
  cases stage with
  | fetch =>
      unfold resume
      dsimp only
      split <;> rfl
  | transfer =>
      unfold resume
      dsimp only
      split <;> rfl

/-- A step changes one pool at most, and in the way that `edit` says, unless it makes a pool. -/
theorem Operation.pool?_resume (op : Operation) (hop : ∀ order, op ≠ .checkout order .locate)
    (key : PoolKey) :
    (op.resume g now reply).gateway.pool? key = (g.edited (op.edit g now)).pool? key := by
  cases op with
  | checkout order stage =>
      exact stage.pool?_resume order (fun heq => hop order (heq ▸ rfl)) key
  | exchange handle use stage => exact stage.pool?_resume handle key
  | release handle =>
      unfold resume
      dsimp only
      split <;> rfl
  | teardown owner => rfl
  | returning returns answer => exact returns.stage.pool?_resume returns.current key
  | reap closed stage => exact stage.pool?_resume closed key
  | sweep removed stage => exact stage.pool?_resume removed key
  | drain stage => exact stage.pool?_resume key
  | guarded owner call =>
      unfold resume
      dsimp only
      split <;> rfl
  | retire owner =>
      unfold resume
      dsimp only
      split <;> rfl

theorem Operation.pool?_resume_untouched (op : Operation) {key : PoolKey} {pool : Pool}
    (hpool : g.pool? key = some pool) (hedit : ∀ e, op.edit g now ≠ some (key, e)) :
    (op.resume g now reply).gateway.pool? key = some pool := by
  by_cases hlocate : ∃ order, op = .checkout order .locate
  · -- A pool that is there is not made again.
    obtain ⟨order, rfl⟩ := hlocate
    show (g.ensurePool order.key order.request.poolSize.toNat).pool? key = some pool
    rw [Gateway.pool?_ensurePool]
    split
    · next heq =>
        subst heq
        rw [hpool, Option.getD_some]
    · exact hpool
  · rw [op.pool?_resume (fun order heq => hlocate ⟨order, heq⟩), Gateway.pool?_edited]
    split
    · next key' e heq =>
        split
        · next hkey => exact absurd (hkey ▸ heq) (hedit e)
        · exact hpool
    · exact hpool

end Resume

end DatabaseGateway
