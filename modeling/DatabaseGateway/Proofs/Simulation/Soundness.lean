import DatabaseGateway.Network.Scripted
import DatabaseGateway.Proofs.Pool.Invariant
import DatabaseGateway.Simulation.Basic

/-!
A simulated gateway is a gateway under traffic. The scheduler and the network of a simulation choose
who goes on, when, and with which reply; every choice is one that traffic leaves open. So whatever
holds of all states of a gateway under traffic holds of a simulated gateway.
-/

namespace DatabaseGateway

variable {σ : Type}

/-! ### Numbers of dials -/

/-- A network that numbers its dials: the number of a dial is above all numbers so far, which are
marked by the highest of them. -/
structure Network.Numbers (n : Network σ) (mark : σ → Nat) : Prop where
  beginDial : ∀ key password now world,
    mark world < (n.beginDial key password now world).1.value ∧
      (n.beginDial key password now world).1.value ≤ mark (n.beginDial key password now world).2
  endDial : ∀ socket world, mark world ≤ mark (n.endDial socket world).2
  reset : ∀ socket timeout world, mark world ≤ mark (n.reset socket timeout world).2
  beginProbe : ∀ socket timeout world, mark world ≤ mark (n.beginProbe socket timeout world).2
  endProbe : ∀ socket timeout world, mark world ≤ mark (n.endProbe socket timeout world).2
  send : ∀ socket data world, mark world ≤ mark (n.send socket data world).2
  recv : ∀ socket most world, mark world ≤ mark (n.recv socket most world).2
  close : ∀ socket world, mark world ≤ mark (n.close socket world)

namespace Network.Numbers

variable {n : Network σ} {mark : σ → Nat} (hn : n.Numbers mark)

include hn

theorem complete (timeout : Duration) (errand : Errand) (world : σ) :
    mark world ≤ mark (n.complete timeout errand world).2 := by
  cases errand with
  | dial socket => exact hn.endDial socket world
  | probe socket => exact hn.endProbe socket timeout world
  | verdict socket passed => exact Nat.le_refl _

theorem abandon (timeout : Duration) (errand : Errand) (world : σ) :
    mark world ≤ mark (n.abandon timeout errand world) := by
  have hcomplete := hn.complete timeout errand world
  unfold Network.abandon
  split
  · next socket world' heq =>
      rw [heq] at hcomplete
      exact hcomplete.trans (hn.close socket world')
  · next socket _ world' heq =>
      rw [heq] at hcomplete
      exact hcomplete.trans (hn.close socket world')
  · next reply world' _ _ heq =>
      rw [heq] at hcomplete
      exact hcomplete

theorem closeAll (conns : List PooledConnection) (world : σ) :
    mark world ≤ mark (n.closeAll conns world) := by
  unfold Network.closeAll
  induction conns generalizing world with
  | nil => exact Nat.le_refl _
  | cons conn conns ih => exact (hn.close conn.socket world).trans (ih _)

theorem probeIf (socket : Nat) (timeout : Duration) (probe : Bool) (world : σ) :
    mark world ≤ mark (n.probeIf socket timeout probe world).2 := by
  unfold Network.probeIf
  split
  · exact hn.beginProbe socket timeout world
  · exact Nat.le_refl _

theorem check (socket : Nat) (timeout : Duration) (reset probe : Bool) (world : σ) :
    mark world ≤ mark (n.check socket timeout reset probe world).2 := by
  unfold Network.check
  split
  · have hreset := hn.reset socket timeout world
    split
    · next world' heq =>
        rw [heq] at hreset
        exact hreset
    · next world' heq =>
        rw [heq] at hreset
        exact hreset.trans (hn.probeIf socket timeout probe world')
  · exact hn.probeIf socket timeout probe world

end Network.Numbers

namespace ScriptedNetwork

theorem attempts_le_onLink {α : Type} (w : ScriptedNetwork) (socket : Nat)
    (otherwise : α × ScriptedNetwork) (f : Link → ScriptedSocket → α × ScriptedSocket)
    (h : otherwise.2.attempts = w.attempts) :
    w.attempts.length ≤ (w.onLink socket otherwise f).2.attempts.length := by
  unfold onLink
  split
  · exact Nat.le_of_eq (congrArg List.length h.symm)
  · exact Nat.le_refl _

theorem numbers : network.Numbers fun w => w.attempts.length where
  beginDial key password now w := by
    show w.attempts.length < w.attempts.length + 1 ∧
      w.attempts.length + 1 ≤ (w.attempts ++ [_]).length
    rw [List.length_append, List.length_singleton]
    exact ⟨Nat.lt_succ_self _, Nat.le_refl _⟩
  endDial socket w := by
    show _ ≤ (endDial socket w).2.attempts.length
    unfold endDial openLine
    split
    · exact Nat.le_refl _
    · split
      · exact Nat.le_refl _
      · split
        · exact Nat.le_refl _
        · dsimp only
          split <;> exact Nat.le_refl _
  reset socket _ w := attempts_le_onLink w socket _ _ rfl
  beginProbe socket _ w := attempts_le_onLink w socket _ _ rfl
  endProbe socket _ w := attempts_le_onLink w socket _ _ rfl
  send socket _ w := attempts_le_onLink w socket _ _ rfl
  recv socket _ w := attempts_le_onLink w socket _ _ rfl
  close socket w := attempts_le_onLink w socket _ _ rfl

end ScriptedNetwork

/-! ### Waits -/

def Wake.dial? : Wake → Option Nat
  | errand (.dial socket) _ _ => some socket
  | errand (.probe _) _ _ | errand (.verdict ..) _ _ | ready | .at _ | notice _ => none

def Errand.checked? : Errand → Option Nat
  | probe socket | verdict socket _ => some socket
  | dial _ => none

theorem Errand.dial?_eq_none {e : Errand} {socket : Nat} (h : e.checked? = some socket)
    (finish limit : Instant) : (Wake.errand e finish limit).dial? = none := by
  cases e with
  | dial => cases h
  | probe | verdict => rfl

/-- When an operation goes on suits what it waits for. -/
inductive Wake.Suits : Wake → Demand → Prop
  | nothing : Suits .ready .nothing
  | send {socket : Nat} {data : Bytes} : Suits .ready (.send socket data)
  | recv {socket most : Nat} : Suits .ready (.recv socket most)
  | noticed : Suits .ready .notice
  | notice {deadline : Instant} : Suits (.notice deadline) .notice
  | pause {wakeAt : Instant} : Suits (.at wakeAt) (.pause wakeAt)
  | dial {socket : Nat} {finish limit : Instant} {key : PoolKey} {password : Option String} :
      Suits (.errand (.dial socket) finish limit) (.dial key password)
  | check {socket : Nat} {e : Errand} {finish limit : Instant} {reset probe : Bool}
      (he : e.checked? = some socket) : Suits (.errand e finish limit) (.check socket reset probe)

theorem PooledConnection.suits_check {w : Wake} {conn : PooledConnection} {reset probe : Bool}
    (h : w.Suits (conn.check reset probe)) (probe' : Bool) :
    w.Suits (conn.check reset probe') := by
  unfold check at h ⊢
  by_cases hhealthy : conn.healthy
  · simp only [hhealthy, if_true] at h ⊢
    cases h with
    | check he => exact .check he
  · simp only [hhealthy] at h ⊢
    exact h

theorem CheckIn.suits_demand {w : Wake} {g : Gateway} {stage : CheckIn}
    (h : w.Suits (stage.demand g)) (g' : Gateway) : w.Suits (stage.demand g') := by
  cases stage with
  | checking conn => exact PooledConnection.suits_check h _
  | taking | judging | settling => exact h

theorem Exchange.suits_call {w : Wake} {config : PoolConfig} {conn : PooledConnection} {use : Use}
    (h : w.Suits (call config conn use)) : w = .ready := by
  rcases call_cases config conn use with heq | ⟨_, heq⟩ | ⟨_, heq⟩ <;> rw [heq] at h <;> cases h <;>
    rfl

theorem Exchange.ready_suits_call (config : PoolConfig) (conn : PooledConnection) (use : Use) :
    Wake.ready.Suits (call config conn use) := by
  rcases call_cases config conn use with heq | ⟨_, heq⟩ | ⟨_, heq⟩ <;> rw [heq]
  · exact .nothing
  · exact .send
  · exact .recv

theorem Exchange.suits_demand {w : Wake} {g : Gateway} {handle : Handle} {use : Use}
    {stage : Exchange} (h : w.Suits (stage.demand g handle use)) (g' : Gateway) :
    w.Suits (stage.demand g' handle use) := by
  cases stage with
  | fetch => exact h
  | transfer =>
      have hready : w = .ready := by
        unfold demand at h
        dsimp only at h
        split at h
        · cases h
          rfl
        · exact suits_call h
      rw [hready]
      unfold demand
      dsimp only
      split
      · exact .nothing
      · exact ready_suits_call _ _ use

/-- What an operation waits for may change with the gateway, but not when it goes on. -/
theorem Operation.suits_demand {w : Wake} {g : Gateway} {op : Operation}
    (h : w.Suits (op.demand g)) (g' : Gateway) : w.Suits (op.demand g') := by
  cases op with
  | exchange handle use stage => exact Exchange.suits_demand h g'
  | returning returns answer => exact CheckIn.suits_demand h g'
  | drain stage =>
      cases stage with
      | returning seized returns => exact CheckIn.suits_demand h g'
      | announce | poll | pause | seize | survey | clear => exact h
  | checkout | release | teardown | reap | sweep | guarded | retire => exact h

theorem Operation.Initial.demand {op : Operation} (h : op.Initial) (g : Gateway) :
    op.demand g = .nothing := by
  cases h with
  | call call => cases call <;> rfl
  | guarded => rfl
  | retire => rfl

namespace Simulation

variable {n : Network σ} {mark : σ → Nat} {s : Simulation σ}

theorem checked?_probeIf (socket : Nat) (timeout : Duration) (probe : Bool) (world : σ) :
    (n.probeIf socket timeout probe world).1.value.checked? = some socket := by
  unfold Network.probeIf
  split <;> rfl

theorem checked?_check (socket : Nat) (timeout : Duration) (reset probe : Bool) (world : σ) :
    (n.check socket timeout reset probe world).1.value.checked? = some socket := by
  unfold Network.check
  split
  · split
    · rfl
    · exact checked?_probeIf socket timeout probe _
  · exact checked?_probeIf socket timeout probe world

/-- What is begun for an operation suits what it waits for, and a dial gets a new number. -/
theorem await_spec (hn : n.Numbers mark) (s : Simulation σ) (demand : Demand) :
    ∃ world, (s.await n demand).2 = { s with world } ∧ mark s.world ≤ mark world ∧
      (s.await n demand).1.Suits demand ∧
      ∀ socket, (s.await n demand).1.dial? = some socket →
        mark s.world < socket ∧ socket ≤ mark world := by
  cases demand with
  | dial key password =>
      obtain ⟨hlt, hle⟩ := hn.beginDial key password s.clock s.world
      refine ⟨_, rfl, Nat.le_of_lt (hlt.trans_le hle), .dial, fun socket hsocket => ?_⟩
      obtain rfl := Option.some.inj hsocket
      exact ⟨hlt, hle⟩
  | check socket reset probe =>
      have hchecked := checked?_check (n := n) socket s.gateway.config.probeTimeout reset probe
        s.world
      refine ⟨_, rfl, hn.check socket _ reset probe s.world, .check hchecked, ?_⟩
      intro socket' hsocket
      have hnone : (s.await n (.check socket reset probe)).1.dial? = none :=
        Errand.dial?_eq_none hchecked _ _
      rw [hnone] at hsocket
      cases hsocket
  | nothing => exact ⟨_, rfl, Nat.le_refl _, .nothing, fun _ h => nomatch h⟩
  | send => exact ⟨_, rfl, Nat.le_refl _, .send, fun _ h => nomatch h⟩
  | recv => exact ⟨_, rfl, Nat.le_refl _, .recv, fun _ h => nomatch h⟩
  | notice => exact ⟨_, rfl, Nat.le_refl _, .notice, fun _ h => nomatch h⟩
  | pause => exact ⟨_, rfl, Nat.le_refl _, .pause, fun _ h => nomatch h⟩

theorem checked_complete {e : Errand} {socket : Nat} (he : e.checked? = some socket)
    (timeout : Duration) (world : σ) :
    ∃ passed, (n.complete timeout e world).1 = .checked passed := by
  cases e with
  | dial => cases he
  | probe socket => exact ⟨_, rfl⟩
  | verdict socket passed => exact ⟨passed, rfl⟩

/-- The reply that an operation goes on with fits what it waits for. -/
theorem reply_spec (hn : n.Numbers mark) {f : Flight} {opened : List Nat}
    (hsuits : f.wake.Suits (f.operation.demand s.gateway))
    (hfresh : ∀ socket, f.wake.dial? = some socket → socket ∉ opened) :
    ∃ world late, (s.reply n f).2 = { s with world, abandoned := s.abandoned ++ late } ∧
      mark s.world ≤ mark world ∧
      late.filterMap (·.2.checked?) = (f.operation.demand s.gateway).strayed (s.reply n f).1 ∧
      (f.operation.demand s.gateway).Admits opened (s.reply n f).1 ∧
      ∀ socket ∈ (s.reply n f).1.opened, f.wake.dial? = some socket := by
  obtain ⟨number, op, wake⟩ := f
  dsimp only at hsuits hfresh ⊢
  unfold reply
  dsimp only
  generalize op.demand s.gateway = demand at hsuits ⊢
  cases hsuits with
  | nothing => exact ⟨s.world, [], by simp, Nat.le_refl _, rfl, .nothing, fun _ h => nomatch h⟩
  | @send socket data =>
      refine ⟨(n.send socket data s.world).2, [], by simp, hn.send socket data s.world, rfl, .sent,
        fun _ h => nomatch h⟩
  | @recv socket most =>
      refine ⟨(n.recv socket most s.world).2, [], by simp, hn.recv socket most s.world, rfl,
        .received, fun _ h => nomatch h⟩
  | noticed => exact ⟨s.world, [], by simp, Nat.le_refl _, rfl, .notice, fun _ h => nomatch h⟩
  | notice => exact ⟨s.world, [], by simp, Nat.le_refl _, rfl, .notice, fun _ h => nomatch h⟩
  | pause => exact ⟨s.world, [], by simp, Nat.le_refl _, rfl, .pause, fun _ h => nomatch h⟩
  | @dial socket finish limit key password =>
      by_cases hlate : finish < limit
      · simp only [hlate, if_true]
        have hmark := hn.endDial socket s.world
        cases hend : n.endDial socket s.world with
        | mk result world =>
            rw [hend] at hmark
            have hcomplete : n.complete s.gateway.config.probeTimeout (.dial socket) s.world =
                (.dialed (result.map fun _ => socket), world) := by
              simp [Network.complete, hend]
            rw [hcomplete]
            cases result with
            | error e =>
                exact ⟨world, [], by simp, hmark, rfl, .refused, fun _ h => nomatch h⟩
            | ok u =>
                refine ⟨world, [], by simp, hmark, rfl, .connected (hfresh socket rfl), ?_⟩
                intro socket' hsocket
                exact congrArg some (List.mem_singleton.mp hsocket).symm
      · simp only [hlate]
        exact ⟨s.world, [(finish, .dial socket)], rfl, Nat.le_refl _, rfl, .dialOverrun,
          fun _ h => nomatch h⟩
  | @check socket e finish limit reset probe he =>
      by_cases hlate : finish < limit
      · simp only [hlate, if_true]
        have hmark := hn.complete s.gateway.config.probeTimeout e s.world
        obtain ⟨passed, hpassed⟩ :=
          checked_complete (n := n) he s.gateway.config.probeTimeout s.world
        rw [hpassed]
        exact ⟨_, [], by simp, hmark, rfl, .checked, fun _ h => nomatch h⟩
      · simp only [hlate]
        refine ⟨s.world, [(finish, e)], rfl, Nat.le_refl _, ?_, .checkOverrun, fun _ h => nomatch h⟩
        simp [he, Demand.strayed]

/-! ### Steps -/

/-- A flight that is as it was, or has been woken. -/
structure Woken (f f' : Flight) : Prop where
  number : f'.number = f.number
  operation : f'.operation = f.operation
  dial : f'.wake.dial? = f.wake.dial?
  suits : ∀ demand, f.wake.Suits demand → f'.wake.Suits demand

def noticed (f : Flight) : Flight :=
  match f.wake with
  | .notice _ => { f with wake := .ready }
  | _ => f

theorem woken_noticed (f : Flight) : Woken f (noticed f) := by
  obtain ⟨number, operation, wake⟩ := f
  cases wake with
  | notice deadline =>
      refine ⟨rfl, rfl, rfl, fun demand h => ?_⟩
      cases h
      exact .noticed
  | ready | «at» | errand => exact ⟨rfl, rfl, rfl, fun _ h => h⟩

theorem exists_woken (notifies : Bool) : ∃ woken : Flight → Flight, (∀ f, Woken f (woken f)) ∧
    ∀ s : Simulation σ, (if notifies then s.notify else s) =
      { s with flights := s.flights.map woken } := by
  cases notifies with
  | true => exact ⟨noticed, woken_noticed, fun s => rfl⟩
  | false => exact ⟨id, fun f => ⟨rfl, rfl, rfl, fun _ h => h⟩, fun s => by simp⟩

/-- What one step of a flight makes of a simulation. The flight stands between others, goes on with
a reply, and wakes some of the others; then it is over, or it waits again. -/
structure Advances (mark : σ → Nat) (opened : List Nat) (s : Simulation σ) (before : List Flight)
    (f : Flight) (after : List Flight) (reply : Reply) (wake : Wake) (woken : Flight → Flight)
    (late : List (Instant × Errand)) (s' : Simulation σ) : Prop where
  admits : (f.operation.demand s.gateway).Admits opened reply
  connected : ∀ socket ∈ reply.opened, f.wake.dial? = some socket
  strayed : late.filterMap (·.2.checked?) = (f.operation.demand s.gateway).strayed reply
  wakes : ∀ g, Woken g (woken g)
  suits : ∀ op ∈ (f.operation.resume s.gateway s.clock reply).next.stages,
    wake.Suits (op.demand s'.gateway)
  dial : ∀ socket, wake.dial? = some socket → mark s.world < socket ∧ socket ≤ mark s'.world
  marked : mark s.world ≤ mark s'.world
  gateway : s'.gateway = (f.operation.resume s.gateway s.clock reply).gateway
  flights : s'.flights = before.map woken ++
    (f.operation.resume s.gateway s.clock reply).next.stages.map (⟨f.number, ·, wake⟩) ++
      after.map woken
  abandoned : s'.abandoned = s.abandoned ++ late
  started : s'.started = s.started

theorem map_flight {before after : List Flight} {f : Flight} (g : Flight → Flight)
    (h : ∀ f' ∈ before ++ after, f'.number ≠ f.number) :
    (before ++ f :: after).map (fun f' => if f'.number = f.number then g f' else f') =
      before ++ g f :: after := by
  have hkeep : ∀ l : List Flight, (∀ f' ∈ l, f'.number ≠ f.number) →
      l.map (fun f' => if f'.number = f.number then g f' else f') = l := by
    intro l hl
    exact (List.map_congr_left fun f' hf' => if_neg (hl f' hf')).trans (List.map_id l)
  rw [List.map_append, List.map_cons, if_pos rfl, hkeep before fun f' hf' => h f' (by simp [hf']),
    hkeep after fun f' hf' => h f' (by simp [hf'])]

theorem filter_flight {before after : List Flight} {f : Flight}
    (h : ∀ f' ∈ before ++ after, f'.number ≠ f.number) :
    (before ++ f :: after).filter (fun f' => f'.number ≠ f.number) = before ++ after := by
  rw [List.filter_append, List.filter_cons_of_neg (by simp), ← List.filter_append,
    List.filter_eq_self.mpr fun f' hf' => by simpa using h f' hf']

theorem advance_spec (hn : n.Numbers mark) {before after : List Flight} {f : Flight}
    {opened : List Nat} (hflights : s.flights = before ++ f :: after)
    (hothers : ∀ f' ∈ before ++ after, f'.number ≠ f.number)
    (hsuits : f.wake.Suits (f.operation.demand s.gateway))
    (hfresh : ∀ socket, f.wake.dial? = some socket → socket ∉ opened) :
    ∃ reply wake woken late,
      Advances mark opened s before f after reply wake woken late (s.advance n f) := by
  obtain ⟨world, late, hreply, hmark, hlate, hadmits, hconnected⟩ := reply_spec hn hsuits hfresh
  unfold advance
  rcases hr : s.reply n f with ⟨reply, s₁⟩
  rw [hr] at hreply hlate hadmits hconnected
  dsimp only at hreply hlate hadmits hconnected ⊢
  subst hreply
  dsimp only
  generalize hp : f.operation.resume s.gateway s.clock reply = p
  have hclosed := hmark.trans (hn.closeAll p.closed world)
  obtain ⟨woken, hwoken, hnotify⟩ := exists_woken (σ := σ) p.notifies
  have hnumbers : ∀ f' ∈ before.map woken ++ after.map woken, f'.number ≠ (woken f).number := by
    intro f' hf'
    rw [← List.map_append] at hf'
    obtain ⟨g, hg, rfl⟩ := List.mem_map.mp hf'
    rw [(hwoken g).number, (hwoken f).number]
    exact hothers g hg
  rw [hnotify]
  cases hnext : p.next with
  | done result =>
      refine ⟨reply, .ready, woken, late, hadmits, hconnected, hlate, hwoken, ?_,
        (fun _ h => nomatch h), hclosed, ?_, ?_, rfl, rfl⟩
      · rw [hp, hnext]
        exact fun _ h => nomatch h
      · rw [hp]
      · rw [hp, hnext, hflights, ← (hwoken f).number, List.map_append, List.map_cons]
        dsimp only
        rw [filter_flight hnumbers]
        simp [Next.stages]
  | stage op =>
      dsimp only
      generalize hs₃ : ({ s with
        world := n.closeAll p.closed world, gateway := p.gateway
        abandoned := s.abandoned ++ late, flights := s.flights.map woken } : Simulation σ) = s₃
      obtain ⟨world', hawait, hmark', hsuits', hdial⟩ := await_spec hn s₃ (op.demand p.gateway)
      rcases ha : s₃.await n (op.demand p.gateway) with ⟨wake, s₄⟩
      rw [ha] at hawait hsuits' hdial
      dsimp only at hawait hsuits' hdial ⊢
      subst hawait hs₃
      refine ⟨reply, wake, woken, late, hadmits, hconnected, hlate, hwoken, ?_, ?_,
        hclosed.trans hmark', ?_, ?_, rfl, rfl⟩
      · rw [hp, hnext]
        intro op' hop'
        rw [List.mem_singleton.mp hop']
        exact hsuits'
      · intro socket hsocket
        obtain ⟨hlt, hle⟩ := hdial socket hsocket
        exact ⟨Nat.lt_of_le_of_lt hclosed hlt, hle⟩
      · rw [hp]
      · rw [hp, hnext, hflights, ← (hwoken f).number, List.map_append, List.map_cons]
        dsimp only
        rw [map_flight _ hnumbers]
        simp [Next.stages]

theorem Advances.mem_flights {opened : List Nat} {before after : List Flight} {f : Flight}
    {reply : Reply} {wake : Wake} {woken : Flight → Flight} {late : List (Instant × Errand)}
    {s' : Simulation σ} (h : Advances mark opened s before f after reply wake woken late s')
    {f' : Flight} (hf' : f' ∈ s'.flights) :
    (∃ g ∈ before ++ after, f' = woken g) ∨
      ∃ op ∈ (f.operation.resume s.gateway s.clock reply).next.stages,
        f' = ⟨f.number, op, wake⟩ := by
  rw [h.flights] at hf'
  rcases List.mem_append.mp hf' with hf' | hf'
  · rcases List.mem_append.mp hf' with hf' | hf'
    · obtain ⟨g, hg, rfl⟩ := List.mem_map.mp hf'
      exact .inl ⟨g, List.mem_append_left _ hg, rfl⟩
    · obtain ⟨op, hop, rfl⟩ := List.mem_map.mp hf'
      exact .inr ⟨op, hop, rfl⟩
  · obtain ⟨g, hg, rfl⟩ := List.mem_map.mp hf'
    exact .inl ⟨g, List.mem_append_right _ hg, rfl⟩

/-! ### Soundness -/

/-- A simulation and a gateway under traffic are in the same state. The flights have numbers of
their own, they go on when it suits what they wait for, and what is dialed for them has not been
opened yet. -/
structure Mirrors (mark : σ → Nat) (s : Simulation σ) (t : Traffic) : Prop where
  gateway : t.gateway = s.gateway
  flights : t.flights = s.flights.map (·.operation)
  strays : t.strays = s.abandoned.filterMap (·.2.checked?)
  numbers : (s.flights.map (·.number)).Nodup
  started : ∀ f ∈ s.flights, f.number < s.started
  suits : ∀ f ∈ s.flights, f.wake.Suits (f.operation.demand s.gateway)
  marked : ∀ socket ∈ t.opened, socket ≤ mark s.world
  dialing : ∀ f ∈ s.flights, ∀ socket, f.wake.dial? = some socket →
    socket ≤ mark s.world ∧ socket ∉ t.opened
  apart : ∀ f ∈ s.flights, ∀ f' ∈ s.flights, ∀ socket, f.wake.dial? = some socket →
    f'.wake.dial? = some socket → f'.number = f.number

variable {t : Traffic}

theorem mirrors_init (mark : σ → Nat) (config : PoolConfig) (world : σ) (clock : Instant) :
    Mirrors mark { world, gateway := { config }, clock } (.init config) where
  gateway := rfl
  flights := rfl
  strays := rfl
  numbers := .nil
  started _ h := nomatch h
  suits _ h := nomatch h
  marked _ h := nomatch h
  dialing _ h := nomatch h
  apart _ h := nomatch h

theorem Mirrors.advance (hn : n.Numbers mark) (h : s.Mirrors mark t) {f : Flight}
    (hf : f ∈ s.flights) : ∃ t', Traffic.Step t t' ∧ (s.advance n f).Mirrors mark t' := by
  obtain ⟨before, after, hflights⟩ := List.append_of_mem hf
  have hmem : ∀ g ∈ before ++ after, g ∈ s.flights := by
    intro g hg
    rw [hflights]
    exact (List.perm_middle.mem_iff).mpr (List.mem_cons_of_mem f hg)
  have hothers : ∀ g ∈ before ++ after, g.number ≠ f.number := by
    have hnodup := h.numbers
    rw [hflights, (List.perm_middle.map _).nodup_iff, List.map_cons, List.nodup_cons] at hnodup
    exact fun g hg heq => hnodup.1 (heq ▸ List.mem_map_of_mem hg)
  obtain ⟨reply, wake, woken, late, hadv⟩ := advance_spec hn hflights hothers (h.suits f hf)
    fun socket hsocket => (h.dialing f hf socket hsocket).2
  refine ⟨t.resume (before.map (·.operation)) f.operation (after.map (·.operation)) s.clock reply,
    .resume ?_ ?_, ?_⟩
  · rw [h.flights, hflights, List.map_append, List.map_cons]
  · rw [h.gateway]
    exact hadv.admits
  have hopened : (t.resume (before.map (·.operation)) f.operation (after.map (·.operation)) s.clock
      reply).opened = reply.opened ++ t.opened := by
    show Move.opened (.resume ..) ++ t.opened = _
    rw [Move.opened_resume]
  refine ⟨?_, ?_, ?_, ?_, ?_, ?_, ?_, ?_, ?_⟩
  · rw [hadv.gateway, ← h.gateway]
    rfl
  · show before.map _ ++ (f.operation.resume t.gateway s.clock reply).next.stages ++ _ = _
    rw [hadv.flights, h.gateway]
    simp [Function.comp_def, (hadv.wakes _).operation]
  · show t.strays ++ (f.operation.demand t.gateway).strayed reply = _
    rw [hadv.abandoned, List.filterMap_append, hadv.strayed, h.strays, h.gateway]
  · have hnumbers : (s.advance n f).flights.map (·.number) = before.map (·.number) ++
        (f.operation.resume s.gateway s.clock reply).next.stages.map (fun _ => f.number) ++
          after.map (·.number) := by
      rw [hadv.flights]
      simp [Function.comp_def, (hadv.wakes _).number]
    have hold := h.numbers
    rw [hflights, List.map_append, List.map_cons] at hold
    rw [hnumbers]
    cases (f.operation.resume s.gateway s.clock reply).next with
    | stage op => simpa [Next.stages] using hold
    | done result =>
        rw [Next.stages, List.map_nil, List.append_nil]
        exact hold.sublist (.append (.refl _) (List.sublist_cons_self _ _))
  · intro f' hf'
    rw [hadv.started]
    rcases hadv.mem_flights hf' with ⟨g, hg, rfl⟩ | ⟨op, -, rfl⟩
    · rw [(hadv.wakes g).number]
      exact h.started g (hmem g hg)
    · exact h.started f hf
  · intro f' hf'
    rcases hadv.mem_flights hf' with ⟨g, hg, rfl⟩ | ⟨op, hop, rfl⟩
    · rw [(hadv.wakes g).operation]
      exact (hadv.wakes g).suits _ (Operation.suits_demand (h.suits g (hmem g hg)) _)
    · exact hadv.suits op hop
  · intro socket hsocket
    rw [hopened] at hsocket
    refine le_trans ?_ hadv.marked
    rcases List.mem_append.mp hsocket with hsocket | hsocket
    · exact (h.dialing f hf socket (hadv.connected socket hsocket)).1
    · exact h.marked socket hsocket
  · intro f' hf' socket hdial
    rw [hopened, List.mem_append, not_or]
    rcases hadv.mem_flights hf' with ⟨g, hg, rfl⟩ | ⟨op, -, rfl⟩
    · rw [(hadv.wakes g).dial] at hdial
      obtain ⟨hle, hnew⟩ := h.dialing g (hmem g hg) socket hdial
      refine ⟨hle.trans hadv.marked, fun hsocket => ?_, hnew⟩
      have hconnected := hadv.connected socket hsocket
      exact hothers g hg (h.apart f hf g (hmem g hg) socket hconnected hdial)
    · obtain ⟨hlt, hle⟩ := hadv.dial socket hdial
      refine ⟨hle, fun hsocket => ?_, fun hsocket => ?_⟩
      · have hold := (h.dialing f hf socket (hadv.connected socket hsocket)).1
        omega
      · have hold := h.marked socket hsocket
        omega
  · -- A number that is given out in this step is above all that were given out before.
    intro f' hf' f'' hf'' socket hdial hdial'
    rcases hadv.mem_flights hf' with ⟨g, hg, rfl⟩ | ⟨op, -, rfl⟩ <;>
      rcases hadv.mem_flights hf'' with ⟨g', hg', rfl⟩ | ⟨op', -, rfl⟩
    · rw [(hadv.wakes g).dial] at hdial
      rw [(hadv.wakes g').dial] at hdial'
      rw [(hadv.wakes g).number, (hadv.wakes g').number]
      exact h.apart g (hmem g hg) g' (hmem g' hg') socket hdial hdial'
    · rw [(hadv.wakes g).dial] at hdial
      have hold := (h.dialing g (hmem g hg) socket hdial).1
      have hnew := (hadv.dial socket hdial').1
      omega
    · rw [(hadv.wakes g').dial] at hdial'
      have hold := (h.dialing g' (hmem g' hg') socket hdial').1
      have hnew := (hadv.dial socket hdial).1
      omega
    · rfl

/-- Time, results and the world outside are no concern of the traffic. -/
theorem Mirrors.congr (h : s.Mirrors mark t) {s' : Simulation σ} (hgateway : s'.gateway = s.gateway)
    (hflights : s'.flights = s.flights) (hstarted : s'.started = s.started)
    (habandoned : s'.abandoned = s.abandoned) (hmark : mark s.world ≤ mark s'.world) :
    s'.Mirrors mark t where
  gateway := hgateway ▸ h.gateway
  flights := hflights ▸ h.flights
  strays := habandoned ▸ h.strays
  numbers := hflights ▸ h.numbers
  started := by
    rw [hflights, hstarted]
    exact h.started
  suits := by
    rw [hflights, hgateway]
    exact h.suits
  marked socket hsocket := (h.marked socket hsocket).trans hmark
  dialing := by
    rw [hflights]
    intro f hf socket hdial
    obtain ⟨hle, hnew⟩ := h.dialing f hf socket hdial
    exact ⟨hle.trans hmark, hnew⟩
  apart := hflights ▸ h.apart

theorem settle_due {α : Type} (due : α → Bool) (socket? : α → Option Nat) (l : List α)
    (kept : List Nat) (hstrays : t.strays = kept ++ l.filterMap socket?) :
    ∃ t', Relation.ReflTransGen Traffic.Step t t' ∧ t'.gateway = t.gateway ∧
      t'.flights = t.flights ∧ t'.opened = t.opened ∧
      t'.strays = kept ++ (l.filter fun x => !due x).filterMap socket? := by
  induction l generalizing kept t with
  | nil => exact ⟨t, .refl, rfl, rfl, rfl, hstrays⟩
  | cons x l ih =>
      cases hdue : due x with
      | false =>
          rw [List.filter_cons_of_pos (by simp [hdue])]
          cases hsocket : socket? x with
          | none =>
              rw [List.filterMap_cons_none hsocket] at hstrays ⊢
              exact ih kept hstrays
          | some socket =>
              rw [List.filterMap_cons_some hsocket] at hstrays ⊢
              rw [List.append_cons] at hstrays ⊢
              exact ih (kept ++ [socket]) hstrays
      | true =>
          rw [List.filter_cons_of_neg (by simp [hdue])]
          cases hsocket : socket? x with
          | none =>
              rw [List.filterMap_cons_none hsocket] at hstrays
              exact ih kept hstrays
          | some socket =>
              rw [List.filterMap_cons_some hsocket] at hstrays
              let t₁ : Traffic := { t with
                strays := kept ++ l.filterMap socket?, log := .settle socket false :: t.log }
              have hstep : Traffic.Step t t₁ := .settle hstrays
              have hstrays₁ : t₁.strays = kept ++ l.filterMap socket? := rfl
              obtain ⟨t', hsteps, hgateway, hflights, hopened, hkept⟩ := ih kept hstrays₁
              exact ⟨t', .head hstep hsteps, hgateway, hflights, hopened, hkept⟩

theorem le_mark_endAbandoned (hn : n.Numbers mark) (s : Simulation σ) :
    mark s.world ≤ mark (s.endAbandoned n).world := by
  unfold Simulation.endAbandoned
  dsimp only
  generalize s.abandoned.filter _ = due
  generalize s.world = world
  induction due generalizing world with
  | nil => exact Nat.le_refl _
  | cons x due ih => exact (hn.abandon _ x.2 world).trans (ih _)

theorem Mirrors.endAbandoned (hn : n.Numbers mark) (h : s.Mirrors mark t) :
    ∃ t', Relation.ReflTransGen Traffic.Step t t' ∧ (s.endAbandoned n).Mirrors mark t' := by
  have hmark := le_mark_endAbandoned hn s
  obtain ⟨t', hsteps, hgateway, hflights, hopened, hstrays⟩ :=
    settle_due (fun x : Instant × Errand => decide (x.1 ≤ s.clock)) (·.2.checked?) s.abandoned []
      h.strays
  refine ⟨t', hsteps, hgateway.trans h.gateway, hflights.trans h.flights, ?_, h.numbers, h.started,
    h.suits, ?_, ?_, h.apart⟩
  · show t'.strays = (s.abandoned.filter fun x => decide ¬x.1 ≤ s.clock).filterMap (·.2.checked?)
    simp only [hstrays, List.nil_append, decide_not]
  · rw [hopened]
    exact fun socket hsocket => (h.marked socket hsocket).trans hmark
  · rw [hopened]
    intro f hf socket hdial
    obtain ⟨hle, hnew⟩ := h.dialing f hf socket hdial
    exact ⟨hle.trans hmark, hnew⟩

/-- However long a simulation works, it does what a gateway under traffic may do. -/
theorem Mirrors.runUntil (hn : n.Numbers mark) (goal : Simulation σ → Bool)
    (limit : Option Instant) (fuel : Nat) (h : s.Mirrors mark t) :
    ∃ t', Relation.ReflTransGen Traffic.Step t t' ∧
      (s.runUntil n goal limit fuel).Mirrors mark t' := by
  induction fuel generalizing s t with
  | zero => exact ⟨t, .refl, h⟩
  | succ fuel ih =>
      obtain ⟨t₁, hsteps₁, h₁⟩ := h.endAbandoned hn
      have htime : ∀ time, ∃ t', Relation.ReflTransGen Traffic.Step t t' ∧
          (({ s.endAbandoned n with clock := time } : Simulation σ).runUntil n goal limit
            fuel).Mirrors mark t' := by
        intro time
        have htick : ({ s.endAbandoned n with clock := time } : Simulation σ).Mirrors mark t₁ :=
          h₁.congr rfl rfl rfl rfl (Nat.le_refl _)
        obtain ⟨t', hsteps, h'⟩ := ih htick
        exact ⟨t', hsteps₁.trans hsteps, h'⟩
      unfold Simulation.runUntil
      dsimp only
      split
      · exact ⟨t₁, hsteps₁, h₁⟩
      · split
        · next f hfind =>
            obtain ⟨t₂, hstep, h₂⟩ := h₁.advance hn (List.mem_of_find?_eq_some hfind)
            obtain ⟨t', hsteps, h'⟩ := ih h₂
            exact ⟨t', (hsteps₁.tail hstep).trans hsteps, h'⟩
        · split
          · exact ⟨t₁, hsteps₁, h₁⟩
          · exact htime _
          · split
            · exact ⟨t₁, hsteps₁, h₁⟩
            · exact htime _

theorem Mirrors.start (h : s.Mirrors mark t) {op : Operation} (hinitial : op.Initial) :
    ∃ t', Traffic.Step t t' ∧ (s.start op).2.Mirrors mark t' := by
  have hmem : ∀ f ∈ (s.start op).2.flights, f ∈ s.flights ∨
      f = { number := s.started, operation := op } := by
    intro f hf
    exact (List.mem_append.mp hf).imp_right List.mem_singleton.mp
  refine ⟨_, .begin hinitial, h.gateway, ?_, h.strays, ?_, ?_, ?_, h.marked, ?_, ?_⟩
  · show t.flights ++ [op] = (s.flights ++ [_]).map _
    rw [h.flights, List.map_append, List.map_singleton]
  · show ((s.flights ++ [_]).map _).Nodup
    rw [List.map_append, List.map_singleton, List.nodup_append]
    refine ⟨h.numbers, List.nodup_singleton _, fun a ha b hb heq => ?_⟩
    obtain ⟨f, hf, rfl⟩ := List.mem_map.mp ha
    have hlt := h.started f hf
    rw [heq, List.mem_singleton.mp hb] at hlt
    exact Nat.lt_irrefl _ hlt
  · intro f hf
    rcases hmem f hf with hf | rfl
    · exact Nat.lt_succ_of_lt (h.started f hf)
    · exact Nat.lt_succ_self _
  · intro f hf
    rcases hmem f hf with hf | rfl
    · exact h.suits f hf
    · rw [hinitial.demand]
      exact .nothing
  · intro f hf socket hdial
    rcases hmem f hf with hf | rfl
    · exact h.dialing f hf socket hdial
    · cases hdial
  · intro f hf f' hf' socket hdial hdial'
    rcases hmem f hf with hf | rfl
    · rcases hmem f' hf' with hf' | rfl
      · exact h.apart f hf f' hf' socket hdial hdial'
      · cases hdial'
    · cases hdial

theorem Mirrors.attach (h : s.Mirrors mark t) :
    ∃ t', Traffic.Step t t' ∧
      ({ s with gateway := s.gateway.attach.2 } : Simulation σ).Mirrors mark t' := by
  refine ⟨_, .attach, ?_, h.flights, h.strays, h.numbers, h.started, fun f hf => ?_, h.marked,
    h.dialing, h.apart⟩
  · show t.gateway.attach.2 = s.gateway.attach.2
    rw [h.gateway]
  · exact Operation.suits_demand (h.suits f hf) _

/-- The simulations that can come about: guests are attached, operations are begun, work is done for
as long as anyone likes, and time and the world outside go their own ways. -/
inductive Reachable (n : Network σ) (mark : σ → Nat) (config : PoolConfig) : Simulation σ → Prop
  | init (world : σ) (clock : Instant) :
      Reachable n mark config { world, gateway := { config }, clock }
  | attach {s : Simulation σ} (h : Reachable n mark config s) :
      Reachable n mark config { s with gateway := s.gateway.attach.2 }
  | start {s : Simulation σ} {op : Operation} (h : Reachable n mark config s)
      (initial : op.Initial) : Reachable n mark config (s.start op).2
  | runUntil {s : Simulation σ} (h : Reachable n mark config s) (goal : Simulation σ → Bool)
      (limit : Option Instant) (fuel : Nat) :
      Reachable n mark config (s.runUntil n goal limit fuel)
  | outside {s : Simulation σ} (h : Reachable n mark config s) (world : σ) (clock : Instant)
      (results : List (Nat × Operation.Result)) (hmark : mark s.world ≤ mark world) :
      Reachable n mark config { s with world, clock, results }

namespace Reachable

variable {config : PoolConfig}

/-- Whatever a simulation does, a gateway under traffic can do. -/
theorem traffic (hn : n.Numbers mark) (h : Reachable n mark config s) :
    ∃ t, Traffic.Reachable config t ∧ s.Mirrors mark t := by
  induction h with
  | init world clock => exact ⟨_, .refl, mirrors_init mark config world clock⟩
  | attach _ ih =>
      obtain ⟨t, ht, h⟩ := ih
      obtain ⟨t', hstep, h'⟩ := h.attach
      exact ⟨t', ht.tail hstep, h'⟩
  | start _ hinitial ih =>
      obtain ⟨t, ht, h⟩ := ih
      obtain ⟨t', hstep, h'⟩ := h.start hinitial
      exact ⟨t', ht.tail hstep, h'⟩
  | runUntil _ goal limit fuel ih =>
      obtain ⟨t, ht, h⟩ := ih
      obtain ⟨t', hsteps, h'⟩ := h.runUntil hn goal limit fuel
      exact ⟨t', ht.trans hsteps, h'⟩
  | outside _ world clock results hmark ih =>
      obtain ⟨t, ht, h⟩ := ih
      exact ⟨t, ht, h.congr rfl rfl rfl rfl hmark⟩

theorem perform (h : Reachable n mark config s) {op : Operation} (hinitial : op.Initial) :
    Reachable n mark config (s.perform n op).2 :=
  ((h.start hinitial).runUntil _ none patience).outside _ _ _ (Nat.le_refl _)

theorem sleepUntil (h : Reachable n mark config s) (time : Instant) :
    Reachable n mark config (s.sleepUntil n time) :=
  (h.runUntil _ (some time) patience).outside _ _ _ (Nat.le_refl _)

theorem maintainUntil (h : Reachable n mark config s) (time : Instant) (rounds : Nat) :
    Reachable n mark config (s.maintainUntil n time rounds) := by
  induction rounds generalizing s with
  | zero => exact h
  | succ rounds ih =>
      unfold Simulation.maintainUntil
      dsimp only
      split
      · exact h.sleepUntil time
      · exact ih (((h.sleepUntil _).perform (.call .reap)).perform (.call .sweep))

end Reachable

/-- What holds of every state of a gateway under traffic holds of a gateway on a scripted
network. -/
theorem scripted_traffic {config : PoolConfig} {s : Simulation ScriptedNetwork}
    (h : Reachable ScriptedNetwork.network (·.attempts.length) config s) :
    ∃ t, Traffic.Reachable config t ∧ t.gateway = s.gateway ∧
      t.flights = s.flights.map (·.operation) := by
  obtain ⟨t, ht, hmirrors⟩ := h.traffic ScriptedNetwork.numbers
  exact ⟨t, ht, hmirrors.gateway, hmirrors.flights⟩

end Simulation

end DatabaseGateway
