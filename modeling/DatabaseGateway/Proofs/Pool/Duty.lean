import DatabaseGateway.Proofs.Handle.Entries
import DatabaseGateway.Proofs.Pool.Gateway
import DatabaseGateway.Proofs.Pool.Traffic
import Mathlib.Algebra.BigOperators.Group.Multiset.Basic

/-!
What an operation in flight answers for: connections in its hands, room that a pool keeps for it,
handles that it has taken out of the table, and probes. `Shift` lists all that a step can do with
the shared state and with these duties; every step of every operation is made of such shifts. So an
invariant is established by looking at the shifts, not at the stages of each operation.
-/

namespace DatabaseGateway

/-- Something that an operation in flight has to see to. -/
inductive Duty where
  /-- An open connection in the operation's hands, with the pool that counts it. -/
  | line (key : PoolKey) (conn : PooledConnection)
  /-- A connection that its pool counts although it is not open, not yet or not any more. -/
  | room (key : PoolKey)
  /-- A handle that is out of the table, but whose connection has not been taken from it. -/
  | cell (returned : Returned)
  /-- A probe by a sweep, which the pool counts. -/
  | probe (key : PoolKey)
  deriving DecidableEq

def Checkout.duties (order : Order) : Checkout → Multiset Duty
  | .probing conn | .entering conn => {.line order.key conn}
  | .discarding | .dialing | .refunding _ => {.room order.key}
  | .screen | .locate | .inspect | .await => 0

def CheckIn.duties (r : Returned) : CheckIn → Multiset Duty
  | .taking => {.cell r}
  | .judging conn | .checking conn | .settling (some conn) => {.line r.key conn}
  | .settling none => {.room r.key}

def CheckIns.duties (c : CheckIns) : Multiset Duty :=
  c.stage.duties c.current + ↑(c.waiting.map Duty.cell)

def Sweep.duties : Sweep → Multiset Duty
  | .probing conn key _ _ | .settling (some conn) key _ _ => {.line key conn} + {.probe key}
  | .settling none key _ _ => {.room key} + {.probe key}
  | .survey | .enter _ | .pick .. => 0

def Drain.duties : Drain → Multiset Duty
  | .returning _ returns => returns.duties
  | .announce | .poll _ | .pause .. | .seize | .survey _ | .clear .. => 0

def Operation.duties : Operation → Multiset Duty
  | .checkout order stage => stage.duties order
  | .returning returns _ => returns.duties
  | .sweep _ stage => stage.duties
  | .drain stage => stage.duties
  | .exchange .. | .release _ | .teardown _ | .reap .. | .guarded .. | .retire _ => 0

def Next.duties {σ ρ : Type} (duties : σ → Multiset Duty) : Next σ ρ → Multiset Duty
  | .stage s => duties s
  | .done _ => 0

def Traffic.duties (t : Traffic) : Multiset Duty := (t.flights.map Operation.duties).sum

/-- What a step can do with the shared state and the duties of its operation. The two lists in the
middle are the sockets that are gained and lost. -/
inductive Shift : Gateway → Multiset Duty → Multiset Nat → Multiset Nat → Gateway → Multiset Duty →
    Prop
  | rest (g : Gateway) (D : Multiset Duty) : Shift g D 0 0 g D
  /-- Other duties are not touched. -/
  | frame {g g' : Gateway} {D D' : Multiset Duty} {gained lost : Multiset Nat} (R : Multiset Duty) :
      Shift g D gained lost g' D' → Shift g (D + R) gained lost g' (D' + R)
  | trans {g g₁ g₂ : Gateway} {D D₁ D₂ : Multiset Duty} {gained gained' lost lost' : Multiset Nat} :
      Shift g D gained lost g₁ D₁ → Shift g₁ D₁ gained' lost' g₂ D₂ →
      Shift g D (gained + gained') (lost + lost') g₂ D₂
  /-- Neither pools nor handles are touched. -/
  | flag {g : Gateway} (draining : Bool) (instances : Nat) (tornDown : List InstanceId) :
      Shift g 0 0 0 { g with draining, instances, tornDown } 0
  | ensure {g : Gateway} (key : PoolKey) (size : Nat) : Shift g 0 0 0 (g.ensurePool key size) 0
  /-- Only the number of refusals is changed. -/
  | note {g : Gateway} {key : PoolKey} {pool : Pool} (exhausted : Nat)
      (h : g.pool? key = some pool) :
      Shift g 0 0 0 (g.updatePool key fun _ => { pool with exhausted }) 0
  /-- Takes a connection that waits. -/
  | pop {g : Gateway} {key : PoolKey} {pool : Pool} {conn : PooledConnection}
      (h : g.pool? key = some pool) (hlast : pool.idle.getLast? = some conn) :
      Shift g 0 0 0 (g.updatePool key fun _ => { pool with idle := pool.idle.dropLast })
        {.line key conn}
  /-- Takes room for one more connection. -/
  | reserve {g : Gateway} {key : PoolKey} {pool : Pool} (h : g.pool? key = some pool)
      (hroom : pool.total < pool.capacity) :
      Shift g 0 0 0 (g.updatePool key fun _ => { pool with total := pool.total + 1 }) {.room key}
  /-- A connection is opened where there was room for it. -/
  | connect {g : Gateway} (key : PoolKey) (socket : Nat) (now : Instant) :
      Shift g {.room key} {socket} 0 g {.line key { socket, key, lastUsed := now }}
  /-- A connection comes to its end and leaves its room. -/
  | lose {g : Gateway} (key : PoolKey) (conn : PooledConnection) :
      Shift g {.line key conn} 0 {conn.socket} g {.room key}
  /-- Gives room back. -/
  | forget {g : Gateway} (key : PoolKey) :
      Shift g {.room key} 0 0 (g.updatePool key Pool.forget) 0
  /-- Hands a connection out under a new handle. -/
  | issue {g g' : Gateway} {owner : InstanceId} {handle : Handle} {key : PoolKey}
      {conn conn' : PooledConnection} (h : g.issue owner conn' = .ok (handle, g'))
      (hsocket : conn'.socket = conn.socket) (hkey : conn'.key = conn.key) :
      Shift g {.line key conn} 0 0 g' 0
  /-- Finds no connection under a handle that is out of the table. -/
  | miss {g : Gateway} {r : Returned} (h : g.held? r.handle = none) : Shift g {.cell r} 0 0 g 0
  /-- Takes the connection from a handle that is out of the table. -/
  | take {g : Gateway} {r : Returned} {conn : PooledConnection}
      (h : g.held? r.handle = some conn) :
      Shift g {.cell r} 0 0 (g.takeHeld r.handle) {.line r.key conn}
  /-- Puts a connection among those that wait. -/
  | park {g : Gateway} (key : PoolKey) {conn conn' : PooledConnection}
      (hsocket : conn'.socket = conn.socket) (hkey : conn'.key = conn.key) :
      Shift g {.line key conn} 0 0 (g.updatePool key (·.park conn')) 0
  /-- Notes how a connection was used. -/
  | touch {g : Gateway} (handle : Handle) {f : PooledConnection → PooledConnection}
      (hsocket : ∀ conn, (f conn).socket = conn.socket) (hkey : ∀ conn, (f conn).key = conn.key) :
      Shift g 0 0 0 (g.updateHeld handle f) 0
  /-- Takes handles out of the table. -/
  | seize {g : Gateway} {taken : List (Handle × Entry PoolKey)} {registry : Registry PoolKey}
      (h : g.registry.Yields taken registry) :
      Shift g 0 0 0 { g with registry } ↑((CheckIns.returned taken).map Duty.cell)
  /-- Takes a connection that waits for a probe. -/
  | lift {g : Gateway} {key : PoolKey} {pool : Pool} {conn : PooledConnection}
      {idle : List PooledConnection} (h : g.pool? key = some pool)
      (hidle : pool.idle = conn :: idle) :
      Shift g 0 0 0 (g.updatePool key fun _ => { pool with idle, probing := pool.probing + 1 })
        ({.line key conn} + {.probe key})
  /-- Ends a probe. -/
  | endProbe {g : Gateway} (key : PoolKey) :
      Shift g {.probe key} 0 0 (g.updatePool key Pool.endProbe) 0
  /-- Closes some of the connections that wait. -/
  | clear {g : Gateway} {key : PoolKey} {pool : Pool} {gone kept : List PooledConnection}
      (h : g.pool? key = some pool) (hidle : pool.idle.Perm (gone ++ kept)) :
      Shift g 0 0 ↑(gone.map (·.socket))
        (g.updatePool key fun _ =>
          { pool with idle := kept, total := pool.total - gone.length }) 0

/-- The settings never change. -/
theorem Shift.config_eq {g g' : Gateway} {D D' : Multiset Duty} {gained lost : Multiset Nat}
    (h : Shift g D gained lost g' D') : g'.config = g.config := by
  induction h with
  | frame _ _ ih => exact ih
  | trans _ _ ih ih' => exact ih'.trans ih
  | ensure => simp
  | issue hissue =>
      obtain ⟨registry, -, rfl⟩ := Gateway.issue_eq_ok hissue
      rfl
  | rest | flag | note | pop | reserve | connect | lose | forget | miss | take | park | touch |
      seize | lift | endProbe | clear => rfl

theorem Shift.nextGeneration_le {g g' : Gateway} {D D' : Multiset Duty}
    {gained lost : Multiset Nat} (h : Shift g D gained lost g' D') :
    g.registry.nextGeneration ≤ g'.registry.nextGeneration := by
  induction h with
  | frame _ _ ih => exact ih
  | trans _ _ ih ih' => exact ih.trans ih'
  | ensure => simp
  | issue hissue =>
      obtain ⟨registry, hinsert, rfl⟩ := Gateway.issue_eq_ok hissue
      exact (Registry.insert_nextGeneration hinsert).symm ▸ Nat.le_succ _
  | seize hyields => exact hyields.nextGeneration.ge
  | rest | flag | note | pop | reserve | connect | lose | forget | miss | take | park | touch |
      lift | endProbe | clear => exact Nat.le_refl _

def Reply.opened : Reply → List Nat
  | .dialed (.ok socket) => [socket]
  | _ => []

/-- A step shifts the shared state and the duties of its operation. -/
def Progress.Shifts {σ ρ : Type} (p : Progress σ ρ) (g : Gateway) (D : Multiset Duty)
    (reply : Reply) (strayed : List Nat) (duties : σ → Multiset Duty) : Prop :=
  Shift g D ↑reply.opened (↑(p.closed.map (·.socket)) + ↑strayed) p.gateway (p.next.duties duties)

theorem Progress.Shifts.lift {σ ρ τ π : Type} {p : Progress σ ρ} {g : Gateway} {D : Multiset Duty}
    {reply : Reply} {strayed : List Nat} {duties : σ → Multiset Duty} {duties' : τ → Multiset Duty}
    {onStage : σ → Next τ π} {onDone : ρ → Next τ π} (R : Multiset Duty)
    (h : p.Shifts g D reply strayed duties)
    (hstage : ∀ s, (onStage s).duties duties' = duties s + R)
    (hdone : ∀ r, (onDone r).duties duties' = R) :
    (p.lift onStage onDone).Shifts g (D + R) reply strayed duties' := by
  unfold Progress.Shifts Progress.lift at *
  cases hnext : p.next with
  | stage s =>
      simp only [hnext, Next.duties] at h
      simpa only [hstage] using h.frame R
  | done r =>
      simp only [hnext, Next.duties] at h
      simpa only [hdone, zero_add] using h.frame R

theorem Progress.Shifts.wrap {σ ρ τ π : Type} {p : Progress σ ρ} {g : Gateway} {D : Multiset Duty}
    {reply : Reply} {strayed : List Nat} {duties : σ → Multiset Duty} {duties' : τ → Multiset Duty}
    {onStage : σ → Next τ π} {onDone : ρ → Next τ π} (h : p.Shifts g D reply strayed duties)
    (hstage : ∀ s, (onStage s).duties duties' = duties s)
    (hdone : ∀ r, (onDone r).duties duties' = 0) :
    (p.lift onStage onDone).Shifts g D reply strayed duties' := by
  have hlift : (p.lift onStage onDone).Shifts g (D + 0) reply strayed duties' :=
    h.lift 0 (fun s => by rw [hstage, add_zero]) hdone
  rwa [add_zero] at hlift

end DatabaseGateway
