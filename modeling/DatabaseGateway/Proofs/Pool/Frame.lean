import DatabaseGateway.Pool.Operation
import DatabaseGateway.Proofs.Pool.Gateway

/-!
What a step leaves alone. A part of the shared state that a stage does not work on is the same after
its step; each lemma names the parts that may change and puts the old ones back.
-/

namespace DatabaseGateway

variable {g : Gateway} {now : Instant} {reply : Reply}

theorem Reap.resume_frame (closed : Nat) (stage : Reap) :
    { (stage.resume g now closed).gateway with pools := g.pools } = g := by
  cases stage with
  | survey => rfl
  | collect pools =>
      cases pools with
      | nil => rfl
      | cons key pools =>
          unfold resume
          dsimp only
          split <;> rfl

theorem Sweep.resume_frame (removed : Nat) (stage : Sweep) :
    { (stage.resume g removed reply).gateway with pools := g.pools } = g := by
  cases stage with
  | enter pools =>
      cases pools with
      | nil => rfl
      | cons key pools =>
          unfold resume
          dsimp only
          split <;> rfl
  | pick key rounds pools =>
      cases rounds with
      | zero => rfl
      | succ rounds =>
          unfold resume
          dsimp only
          split <;> rfl
  | settling conn key rounds pools =>
      cases conn with
      | none => rfl
      | some conn =>
          unfold resume
          dsimp only
          split <;> rfl
  | survey | probing => rfl

theorem CheckIn.resume_frame (r : Returned) (stage : CheckIn) :
    { (stage.resume g now r reply).gateway with pools := g.pools, held := g.held } = g := by
  cases stage with
  | taking =>
      unfold resume
      dsimp only
      split <;> rfl
  | judging conn =>
      unfold resume
      dsimp only
      split <;> rfl
  | checking conn => rfl
  | settling conn =>
      cases conn with
      | none => rfl
      | some conn =>
          unfold resume
          dsimp only
          split <;> rfl

theorem Exchange.resume_frame (handle : Handle) (stage : Exchange) :
    { (stage.resume g now handle reply).gateway with held := g.held } = g := by
  cases stage with
  | fetch =>
      unfold resume
      dsimp only
      split <;> rfl
  | transfer =>
      unfold resume
      dsimp only
      split <;> rfl

theorem Checkout.resume_frame (order : Order) (stage : Checkout)
    (hstage : ∀ conn, stage ≠ .entering conn) :
    { (stage.resume g now order reply).gateway with pools := g.pools } = g := by
  cases stage with
  | screen =>
      unfold resume
      dsimp only
      split
      · rfl
      · split <;> rfl
  | locate =>
      show { g.ensurePool _ _ with pools := g.pools } = g
      unfold Gateway.ensurePool
      split <;> rfl
  | inspect =>
      unfold resume
      dsimp only
      split
      · rfl
      · next pool hpool =>
          unfold inspectPool
          rcases pool.acquire with ⟨acquired, pool'⟩
          cases acquired <;> rfl
  | entering conn => exact absurd rfl (hstage conn)
  | await | probing | discarding | dialing | refunding => rfl

end DatabaseGateway
