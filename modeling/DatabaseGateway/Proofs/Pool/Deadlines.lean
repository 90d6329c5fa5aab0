import DatabaseGateway.Proofs.Config.Spelling
import DatabaseGateway.Proofs.Pool.Credentials
import DatabaseGateway.Simulation.Basic

/-!
The spans of time that the pools are set to, and those that they compute from them.

A table is accepted only if each of its spans is representable. But a check may take four times as
long as a probe, and this is computed only when a connection is checked, or when a request waits for
the check of another one. So a setting can be accepted and be too large for that: with a quarter of
what is representable for a probe, or more, a gateway comes to a check for which there is no
deadline, and with less it never does (`deadlines_fit`).
-/

namespace DatabaseGateway

theorem Duration.representable_times_four (d : Duration) :
    (d.times 4).Representable ↔ d.seconds < 2 ^ 62 := by
  show d.nanos * 4 / 1000000000 < 2 ^ 64 ↔ d.nanos / 1000000000 < 2 ^ 62
  omega

/-- A table in which a probe may take less than 2^62 seconds, or as long as by default. -/
def ProxyTable.ModestProbe (t : ProxyTable) : Prop :=
  ∀ text n u, t.probeTimeout = some text → Duration.Spells text n u → u.inSeconds n < 2 ^ 62

namespace PoolConfig

def spans (c : PoolConfig) : List Duration :=
  [c.idleTimeout, c.healthCheckInterval, c.connectTimeout, c.recvTimeout, c.probeTimeout,
    c.drainTimeout]

/-- How long an operation is kept waiting for what it demands, if there is a bound on it. A drain
that pauses is not bounded by a span but by a point in time, which is not among these deadlines. -/
def deadline? (c : PoolConfig) : Demand → Option Duration
  | .dial .. => some c.connectTimeout
  | .check .. | .notice => some c.probeDeadline
  | .nothing | .send .. | .recv .. | .pause _ => none

end PoolConfig

def Wake.limit? : Wake → Option Instant
  | .errand _ _ limit | .notice limit => some limit
  | .ready | .at _ => none

/-- A gateway at work waits as long as its settings say, counted from the demand. -/
theorem Simulation.limit?_await {σ : Type} (n : Network σ) (s : Simulation σ) (demand : Demand) :
    (s.await n demand).1.limit? =
      (s.gateway.config.deadline? demand).map (s.clock + ·.nanos) := by
  cases demand <;> rfl

/-- The deadlines of all operations in flight are representable. These are the spans that a request,
a check or a wait for one is given, and not the point in time at which a drain ends. -/
def Traffic.Timely (s : Traffic) : Prop :=
  ∀ op ∈ s.flights, ∀ d ∈ s.gateway.config.deadline? (op.demand s.gateway), d.Representable

/-! ### Settings that are accepted -/

theorem exists_of_bind_eq_ok {ε α β : Type} {x : Except ε α} {f : α → Except ε β} {b : β}
    (h : x >>= f = .ok b) : ∃ a, x = .ok a ∧ f a = .ok b := by
  cases x with
  | error e => cases h
  | ok a => exact ⟨a, rfl, h⟩

namespace PoolConfig

variable {t : ProxyTable} {c : PoolConfig}

theorem representable_of_duration {value : Option String} {default d : Duration}
    (hdefault : default.Representable) (h : duration value default = .ok d) :
    d.Representable := by
  cases value with
  | none =>
      cases h
      exact hdefault
  | some text => exact Duration.representable_of_parse h

/-- What a table has to say about room and time so that these settings follow from it. -/
structure Follows (t : ProxyTable) (c : PoolConfig) : Prop where
  maxSize_pos : 0 < c.maxSize
  idle : duration t.idleTimeout (.ofSeconds 60) = .ok c.idleTimeout
  interval : duration t.healthCheckInterval (.ofSeconds 30) = .ok c.healthCheckInterval
  connect : duration t.connectTimeout (.ofSeconds 5) = .ok c.connectTimeout
  recv : duration t.recvTimeout (.ofSeconds 30) = .ok c.recvTimeout
  probe : duration t.probeTimeout (.ofSeconds 2) = .ok c.probeTimeout
  drain : duration t.drainTimeout (.ofSeconds 30) = .ok c.drainTimeout

theorem follows_of_ofTable (h : ofTable t = .ok c) : Follows t c := by
  unfold ofTable at h
  dsimp only at h
  split at h
  · cases h
  · next hsize =>
      split at h
      · cases h
      · obtain ⟨idle, hidle, h⟩ := exists_of_bind_eq_ok h
        obtain ⟨interval, hinterval, h⟩ := exists_of_bind_eq_ok h
        obtain ⟨connect, hconnect, h⟩ := exists_of_bind_eq_ok h
        obtain ⟨recv, hrecv, h⟩ := exists_of_bind_eq_ok h
        obtain ⟨probe, hprobe, h⟩ := exists_of_bind_eq_ok h
        obtain ⟨drain, hdrain, h⟩ := exists_of_bind_eq_ok h
        cases h
        refine ⟨?_, hidle, hinterval, hconnect, hrecv, hprobe, hdrain⟩
        show 0 < (t.maxPoolSize.map UInt32.toNat).getD 10
        cases hmax : t.maxPoolSize with
        | none => decide
        | some size =>
            refine Nat.pos_of_ne_zero fun hzero => hsize ?_
            have hsize : size = 0 := UInt32.toNat_inj.mp hzero
            rw [hmax, hsize]

namespace Follows

/-- No span comes out of a table that is not representable, and maintenance pauses for such a span,
too. -/
theorem representable (h : Follows t c) :
    ∀ d ∈ c.maintenanceInterval :: c.spans, d.Representable := by
  have hinterval : c.healthCheckInterval.Representable :=
    representable_of_duration (by decide) h.interval
  have hmaintenance : c.maintenanceInterval.Representable := by
    unfold maintenanceInterval Duration.max
    split
    · decide
    · exact hinterval
  simp only [spans, List.forall_mem_cons]
  exact ⟨hmaintenance, representable_of_duration (by decide) h.idle, hinterval,
    representable_of_duration (by decide) h.connect, representable_of_duration (by decide) h.recv,
    representable_of_duration (by decide) h.probe, representable_of_duration (by decide) h.drain,
    List.forall_mem_nil _⟩

theorem modestProbe_iff (h : Follows t c) : t.ModestProbe ↔ c.probeDeadline.Representable := by
  have hprobe := h.probe
  rw [probeDeadline, Duration.representable_times_four]
  cases htext : t.probeTimeout with
  | none =>
      rw [htext] at hprobe
      have hdefault : c.probeTimeout = .ofSeconds 2 := (Except.ok.inj hprobe).symm
      refine ⟨fun _ => by rw [hdefault]; decide, fun _ text n u hsome => ?_⟩
      rw [htext] at hsome
      cases hsome
  | some text =>
      rw [htext] at hprobe
      obtain ⟨n, u, hspells, -, hspan⟩ := Duration.exists_spells_of_parse hprobe
      rw [hspan, u.seconds_span]
      constructor
      · exact fun hmodest => hmodest text n u htext hspells
      · intro hseconds text' n' u' hsome hspells'
        obtain rfl : text = text' := Option.some.inj (htext.symm.trans hsome)
        obtain ⟨rfl, rfl⟩ := hspells.unique hspells'
        exact hseconds

end Follows

end PoolConfig

/-! ### Operations that are kept waiting -/

namespace Traffic

variable {config : PoolConfig} {s : Traffic}

/-- If the spans for a dial and for a check are representable, so are all deadlines. -/
theorem timely (hdial : s.gateway.config.connectTimeout.Representable)
    (hcheck : s.gateway.config.probeDeadline.Representable) : s.Timely := by
  intro op _ d hd
  unfold PoolConfig.deadline? at hd
  split at hd
  · cases hd
    exact hdial
  · cases hd
    exact hcheck
  · cases hd
    exact hcheck
  all_goals cases hd

theorem Reachable.exists_next (h : Reachable config s) {g g' : Gateway} {op op' : Operation}
    (hgateway : s.gateway = g) (hflights : s.flights = [op]) (hdemand : op.demand g = .nothing)
    (hresume : op.resume g 0 .proceed = { gateway := g', next := .stage op' }) :
    ∃ s', Reachable config s' ∧ s'.gateway = g' ∧ s'.flights = [op'] := by
  subst hgateway
  have hadmits : (op.demand s.gateway).Admits s.opened .proceed := hdemand ▸ .nothing
  refine ⟨s.resume [] op [] 0 .proceed, h.tail (.resume hflights hadmits), ?_, ?_⟩
  · show (op.resume s.gateway 0 .proceed).gateway = g'
    rw [hresume]
  · show [] ++ (op.resume s.gateway 0 .proceed).next.stages ++ [] = [op']
    rw [hresume]
    rfl

/-- A gateway that may open connections can come to check one: the first connection it has handed
out, when it comes back. -/
theorem exists_checking (hsize : 0 < config.maxSize) :
    ∃ s op socket reset probe, Reachable config s ∧ op ∈ s.flights ∧
      op.demand s.gateway = .check socket reset probe := by
  obtain ⟨s₀, h₀, hflights₀, hgateway₀, -⟩ :=
    exists_handedOut hsize (r := sampleRequest) (by decide)
  let handle : Handle := .make 0 1
  let conn := firstConnection sampleRequest
  let back : Returned := ⟨handle, .ofConfig sampleRequest⟩
  let g₁ : Gateway :=
    { Gateway.handedOut config sampleRequest with registry := ⟨#[none], [0], 2, 0⟩ }
  have hrelease : (Operation.release handle).resume (.handedOut config sampleRequest) 0 .proceed =
      { gateway := g₁, next := .stage (.returning { current := back } .done) } := by
    simp only [Operation.resume, handle, Gateway.remove_handedOut]
    rfl
  have htake : (Operation.returning { current := back } .done).resume g₁ 0 .proceed =
      { gateway := g₁.takeHeld handle
        next := .stage (.returning { current := back, stage := .judging conn } .done) } := rfl
  have hjudge : (Operation.returning { current := back, stage := .judging conn } .done).resume
      (g₁.takeHeld handle) 0 .proceed =
      { gateway := g₁.takeHeld handle
        next := .stage (.returning { current := back, stage := .checking conn } .done) } := rfl
  -- It is begun and goes through three stages, in which it waits for nothing.
  have hbegun : Reachable config _ := .tail h₀ (.begin (.call (.release handle)))
  have hflights : s₀.flights ++ [.release handle] = [.release handle] := by rw [hflights₀]; rfl
  obtain ⟨s₁, h₁, hgateway₁, hflights₁⟩ := hbegun.exists_next hgateway₀ hflights rfl hrelease
  obtain ⟨s₂, h₂, hgateway₂, hflights₂⟩ := h₁.exists_next hgateway₁ hflights₁ rfl htake
  obtain ⟨s₃, h₃, hgateway₃, hflights₃⟩ := h₂.exists_next hgateway₂ hflights₂ rfl hjudge
  refine ⟨s₃, _, 0, true, config.probeOnCheckin, h₃, hflights₃ ▸ List.mem_singleton_self _, ?_⟩
  rw [hgateway₃]
  rfl

/-- If four times the time for a probe is not representable, there is a check without a deadline. -/
theorem exists_untimely (hsize : 0 < config.maxSize)
    (hlong : ¬ config.probeDeadline.Representable) : ∃ s, Reachable config s ∧ ¬ s.Timely := by
  obtain ⟨s, op, socket, reset, probe, h, hop, hdemand⟩ := exists_checking hsize
  have hdeadline : config.probeDeadline ∈ s.gateway.config.deadline? (op.demand s.gateway) := by
    rw [hdemand, h.founded.config_eq]
    rfl
  exact ⟨s, h, fun htimely => hlong (htimely op hop _ hdeadline)⟩

end Traffic

/-- The spans that follow from an accepted table are representable, and a gateway with these
settings gives no dial, no check and no wait for one a deadline that is not, exactly if the table
leaves less than a quarter of what is representable for a probe. The point in time at which a drain
ends, the clock and the drain timeout together, is not among these deadlines. -/
theorem deadlines_fit {t : ProxyTable} {c : PoolConfig} (haccepted : PoolConfig.ofTable t = .ok c) :
    (∀ d ∈ c.maintenanceInterval :: c.spans, d.Representable) ∧
      (c.probeDeadline.Representable ↔ t.ModestProbe) ∧
      ((∀ s, Traffic.Reachable c s → s.Timely) ↔ t.ModestProbe) := by
  have hfollows := PoolConfig.follows_of_ofTable haccepted
  have hspans := hfollows.representable
  refine ⟨hspans, hfollows.modestProbe_iff.symm, ?_⟩
  rw [hfollows.modestProbe_iff]
  constructor
  · intro htimely
    by_contra hlong
    obtain ⟨s, h, huntimely⟩ := Traffic.exists_untimely hfollows.maxSize_pos hlong
    exact huntimely (htimely s h)
  · intro hcheck s h
    have hdial : c.connectTimeout.Representable := hspans _ (by simp [PoolConfig.spans])
    rw [← h.founded.config_eq] at hcheck hdial
    exact Traffic.timely hdial hcheck

def probeTable (text : String) : ProxyTable := { probeTimeout := some text }

/-- The longest time for a probe with which all deadlines can be computed. -/
theorem deadlines_fit_longest :
    PoolConfig.ofTable (probeTable "4611686018427387903s") =
        .ok { probeTimeout := .ofSeconds (2 ^ 62 - 1) } ∧
      ∀ s, Traffic.Reachable { probeTimeout := .ofSeconds (2 ^ 62 - 1) } s → s.Timely := by
  have haccepted : PoolConfig.ofTable (probeTable "4611686018427387903s") =
      .ok { probeTimeout := .ofSeconds (2 ^ 62 - 1) } := by decide +kernel
  refine ⟨haccepted, (deadlines_fit haccepted).2.2.2 ?_⟩
  exact (deadlines_fit haccepted).2.1.1 (by decide)

/-- One second more is accepted, too. But then four times as long is not representable, and the
gateway comes to a check under such a deadline. -/
theorem exists_not_timely :
    PoolConfig.ofTable (probeTable "4611686018427387904s") =
        .ok { probeTimeout := .ofSeconds (2 ^ 62) } ∧
      ¬ (PoolConfig.probeDeadline { probeTimeout := .ofSeconds (2 ^ 62) }).Representable ∧
      ∃ s, Traffic.Reachable { probeTimeout := .ofSeconds (2 ^ 62) } s ∧ ¬ s.Timely := by
  have hlong :
      ¬ (PoolConfig.probeDeadline { probeTimeout := .ofSeconds (2 ^ 62) }).Representable := by
    decide
  exact ⟨by decide +kernel, hlong, Traffic.exists_untimely (by decide) hlong⟩

end DatabaseGateway
