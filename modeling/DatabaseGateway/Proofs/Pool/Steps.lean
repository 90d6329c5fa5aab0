import DatabaseGateway.Proofs.Pool.Duty

/-!
What the steps of the operations do: every stage of every operation is taken apart here, once, into
the shifts that it is made of.
-/

namespace DatabaseGateway

theorem Pool.acquire_cases (p : Pool) :
    (∃ conn, p.idle.getLast? = some conn ∧
        p.acquire = (.idle conn, { p with idle := p.idle.dropLast })) ∨
      (p.total < p.capacity ∧ p.acquire = (.room, { p with total := p.total + 1 })) ∨
      p.acquire = (.swept, p) ∨
      p.acquire = (.full, { p with exhausted := p.exhausted + 1 }) := by
  unfold acquire
  cases hlast : p.idle.getLast? with
  | some conn => exact .inl ⟨conn, rfl, rfl⟩
  | none =>
      by_cases hroom : p.total < p.capacity
      · exact .inr (.inl ⟨hroom, by simp [hroom]⟩)
      · by_cases hswept : 0 < p.probing <;> simp [hroom, hswept]

theorem Checkout.inspectPool_shifts {g : Gateway} {order : Order} {pool : Pool}
    (hpool : g.pool? order.key = some pool) :
    (inspectPool g order.key pool).Shifts g 0 .proceed [] (Checkout.duties order) := by
  unfold inspectPool Progress.Shifts
  rcases pool.acquire_cases with ⟨conn, hlast, h⟩ | ⟨hroom, h⟩ | h | h
  · have hpop := Shift.pop hpool hlast
    rw [h]
    by_cases hprobe : g.config.probeOnCheckout <;>
      simpa [Next.duties, duties, Reply.opened, hprobe] using hpop
  · rw [h]
    simpa [Next.duties, duties, Reply.opened] using Shift.reserve hpool hroom
  · rw [h]
    simpa [Next.duties, duties, Reply.opened] using Shift.note pool.exhausted hpool
  · rw [h]
    simpa [Next.duties, duties, Reply.opened] using Shift.note (pool.exhausted + 1) hpool

/-- The check of a connection ends with the connection or without it; without it, the connection is
closed or left to the check. -/
theorem PooledConnection.check_shifts {g : Gateway} (key : PoolKey) {conn : PooledConnection}
    {opened : List Nat} {reset probe : Bool} {reply : Reply}
    (h : (conn.check reset probe).Admits opened reply) :
    reply.opened = [] ∧
      ((conn.survivor reply = some conn ∧ conn.casualty reply = [] ∧
          (conn.check reset probe).strayed reply = []) ∨
        (conn.survivor reply = none ∧
          Shift g {.line key conn} 0
            (↑((conn.casualty reply).map (·.socket)) +
              ↑((conn.check reset probe).strayed reply)) g {.room key})) := by
  have hlose := Shift.lose (g := g) key conn
  unfold check at h ⊢
  by_cases hhealthy : conn.healthy
  · simp only [hhealthy, if_true] at h ⊢
    cases h with
    | @checked _ _ _ passed =>
        cases passed with
        | true => exact ⟨rfl, .inl ⟨rfl, rfl, rfl⟩⟩
        | false => exact ⟨rfl, .inr ⟨rfl, by simpa [casualty, Demand.strayed] using hlose⟩⟩
    | checkOverrun => exact ⟨rfl, .inr ⟨rfl, by simpa [casualty, Demand.strayed] using hlose⟩⟩
  · simp only [hhealthy] at h ⊢
    cases h with
    | nothing => exact ⟨rfl, .inr ⟨rfl, by simpa [casualty, Demand.strayed] using hlose⟩⟩

theorem Checkout.resume_shifts {g : Gateway} {order : Order} {opened : List Nat} {now : Instant}
    {reply : Reply} (stage : Checkout) (h : (stage.demand order).Admits opened reply) :
    (stage.resume g now order reply).Shifts g (stage.duties order) reply
      ((stage.demand order).strayed reply) (Checkout.duties order) := by
  cases stage with
  | screen =>
      cases h
      unfold resume
      dsimp only
      split
      · exact .rest g 0
      · split <;> exact .rest g 0
  | locate =>
      cases h
      exact .ensure order.key _
  | inspect =>
      cases h
      unfold resume
      dsimp only
      split
      · exact .rest g 0
      · next pool hpool => exact inspectPool_shifts hpool
  | await =>
      cases h
      exact .rest g 0
  | probing conn =>
      obtain ⟨hopened, ⟨hsurvivor, hcasualty, hstrayed⟩ | ⟨hsurvivor, hlose⟩⟩ :=
        PooledConnection.check_shifts (g := g) order.key h
      · have hrest := Shift.rest g {.line order.key conn}
        simpa [resume, demand, Progress.Shifts, Next.duties, duties, hopened, hsurvivor, hcasualty,
          hstrayed] using hrest
      · simpa [resume, demand, Progress.Shifts, Next.duties, duties, hopened, hsurvivor] using hlose
  | discarding =>
      cases h
      exact .forget order.key
  | dialing =>
      cases h with
      | @connected _ _ socket _ => exact .connect order.key socket now
      | refused => exact .rest g _
      | dialOverrun => exact .rest g _
  | refunding e =>
      cases h
      exact .forget order.key
  | entering conn =>
      cases h
      unfold resume
      dsimp only
      split
      · next handle g' hissue => exact .issue hissue rfl rfl
      · exact .lose order.key conn

theorem CheckIn.resume_shifts {g : Gateway} {r : Returned} {opened : List Nat} {now : Instant}
    {reply : Reply} (stage : CheckIn) (h : (stage.demand g).Admits opened reply) :
    (stage.resume g now r reply).Shifts g (stage.duties r) reply
      ((stage.demand g).strayed reply) (CheckIn.duties r) := by
  cases stage with
  | taking =>
      cases h
      unfold resume
      dsimp only
      split
      · next hheld => exact .miss hheld
      · next conn hheld => exact .take hheld
  | judging conn =>
      cases h
      unfold resume
      dsimp only
      split
      · exact .lose r.key conn
      · exact .rest g _
  | checking conn =>
      obtain ⟨hopened, ⟨hsurvivor, hcasualty, hstrayed⟩ | ⟨hsurvivor, hlose⟩⟩ :=
        PooledConnection.check_shifts (g := g) r.key h
      · have hrest := Shift.rest g {.line r.key conn}
        simpa [resume, demand, Progress.Shifts, Next.duties, duties, hopened, hsurvivor, hcasualty,
          hstrayed] using hrest
      · simpa [resume, demand, Progress.Shifts, Next.duties, duties, hopened, hsurvivor] using hlose
  | settling conn =>
      cases h
      cases conn with
      | none => exact .forget r.key
      | some conn =>
          unfold resume
          dsimp only
          split
          · have hlose := (Shift.lose (g := g) r.key conn).trans (.forget r.key)
            simpa [Progress.Shifts, Next.duties, duties, Reply.opened, Demand.strayed, demand]
              using hlose
          · exact .park r.key rfl rfl

theorem CheckIns.duties_ofList? (returns : List Returned) :
    ((ofList? returns).map CheckIns.duties).getD 0 = ↑(returns.map Duty.cell) := by
  cases returns with
  | nil => rfl
  | cons r returns => rfl

theorem CheckIns.resume_shifts {g : Gateway} {opened : List Nat} {now : Instant} {reply : Reply}
    (c : CheckIns) (h : (c.stage.demand g).Admits opened reply) :
    (c.resume g now reply).Shifts g c.duties reply ((c.stage.demand g).strayed reply)
      CheckIns.duties := by
  refine Progress.Shifts.lift (p := c.stage.resume g now c.current reply)
    ↑(c.waiting.map Duty.cell) (c.stage.resume_shifts h) (fun stage => rfl) fun _ => ?_
  rw [← duties_ofList? c.waiting]
  cases ofList? c.waiting <;> rfl

theorem Reap.resume_shifts {g : Gateway} {now : Instant} {closed : Nat} (stage : Reap) :
    (stage.resume g now closed).Shifts g 0 .proceed [] fun _ => 0 := by
  cases stage with
  | survey => exact .rest g 0
  | collect pools =>
      cases pools with
      | nil => exact .rest g 0
      | cons key pools =>
          unfold resume
          dsimp only
          split
          · exact .rest g 0
          · next pool hpool =>
              have hclear := Shift.clear hpool
                (List.filter_append_perm (Pool.expired now g.config.idleTimeout) pool.idle).symm
              simpa [Progress.Shifts, Next.duties, Reply.opened, Pool.reap] using hclear

theorem Sweep.resume_shifts {g : Gateway} {opened : List Nat} {removed : Nat} {reply : Reply}
    (stage : Sweep) (h : stage.demand.Admits opened reply) :
    (stage.resume g removed reply).Shifts g stage.duties reply (stage.demand.strayed reply)
      fun x => x.2.duties := by
  cases stage with
  | survey =>
      cases h
      exact .rest g 0
  | enter pools =>
      cases h
      cases pools with
      | nil => exact .rest g 0
      | cons key pools =>
          unfold resume
          dsimp only
          split <;> exact .rest g 0
  | pick key rounds pools =>
      cases h
      cases rounds with
      | zero => exact .rest g 0
      | succ rounds =>
          unfold resume
          dsimp only
          cases hpool : g.pool? key with
          | none => exact .rest g 0
          | some pool =>
              rw [Option.map_some, Pool.beginProbe]
              cases hidle : pool.idle with
              | nil => exact .rest g 0
              | cons conn idle => exact Shift.lift hpool hidle
  | probing conn key rounds pools =>
      obtain ⟨hopened, ⟨hsurvivor, hcasualty, hstrayed⟩ | ⟨hsurvivor, hlose⟩⟩ :=
        PooledConnection.check_shifts (g := g) key h
      · have hrest := Shift.rest g ({.line key conn} + {.probe key})
        simpa [resume, demand, Progress.Shifts, Next.duties, duties, hopened, hsurvivor, hcasualty,
          hstrayed] using hrest
      · have hframe := hlose.frame {.probe key}
        simpa [resume, demand, Progress.Shifts, Next.duties, duties, hopened, hsurvivor]
          using hframe
  | settling conn key rounds pools =>
      cases h
      have hend := Shift.endProbe (g := g) key
      cases conn with
      | none =>
          -- Two changes of the pool in one step: the probe ends, and the room is given back.
          have hforget := Shift.forget (g := g.updatePool key Pool.endProbe) key
          have hall := (hend.frame {.room key}).trans (by simpa using hforget)
          rw [Gateway.updatePool_updatePool, add_comm {Duty.probe key}] at hall
          exact hall
      | some conn =>
          unfold resume
          dsimp only
          split
          · have hlose := Shift.lose (g := g.updatePool key Pool.endProbe) key conn
            have hforget := Shift.forget (g := g.updatePool key Pool.endProbe) key
            have hall := (hend.frame {.line key conn}).trans
              (by simpa using hlose.trans hforget)
            rw [Gateway.updatePool_updatePool, add_comm {Duty.probe key}] at hall
            simpa [Progress.Shifts, Next.duties, duties, Reply.opened, Demand.strayed, demand]
              using hall
          · have hpark : Shift (g.updatePool key Pool.endProbe) {.line key conn} 0 0
                ((g.updatePool key Pool.endProbe).updatePool key (·.park conn)) 0 :=
              .park key rfl rfl
            have hall := (hend.frame {.line key conn}).trans (by simpa using hpark)
            rw [Gateway.updatePool_updatePool, add_comm {Duty.probe key}] at hall
            exact hall

theorem Drain.resume_shifts {g : Gateway} {opened : List Nat} {now : Instant} {reply : Reply}
    (stage : Drain) (h : (stage.demand g).Admits opened reply) :
    (stage.resume g now reply).Shifts g stage.duties reply ((stage.demand g).strayed reply)
      Drain.duties := by
  cases stage with
  | announce =>
      cases h
      exact .flag true g.instances g.tornDown
  | poll deadline =>
      cases h
      unfold resume
      dsimp only
      split <;> exact .rest g 0
  | pause deadline wakeAt =>
      cases h
      exact .rest g 0
  | seize =>
      cases h
      have hseize := Shift.seize g.registry.drainAll_yields
      rw [← CheckIns.duties_ofList?] at hseize
      unfold resume Progress.Shifts
      dsimp only
      split
      · next returns hreturns =>
          rw [hreturns] at hseize
          exact hseize
      · next hreturns =>
          rw [hreturns] at hseize
          exact hseize
  | returning seized returns =>
      exact (returns.resume_shifts h).wrap (fun _ => rfl) fun _ => rfl
  | survey seized =>
      cases h
      exact .rest g 0
  | clear seized pools =>
      cases h
      cases pools with
      | nil => exact .rest g 0
      | cons key pools =>
          unfold resume
          dsimp only
          split
          · exact .rest g 0
          · next pool hpool =>
              have hclear := Shift.clear hpool (.of_eq (List.append_nil pool.idle).symm)
              simpa [Progress.Shifts, Next.duties, duties, Reply.opened, Pool.empty,
                Demand.strayed, demand] using hclear

theorem Exchange.demand_strayed (g : Gateway) (handle : Handle) (use : Use) (stage : Exchange)
    (reply : Reply) : (stage.demand g handle use).strayed reply = [] := by
  unfold demand call
  cases stage with
  | fetch => rfl
  | transfer =>
      dsimp only
      split
      · rfl
      · cases use with
        | send data => rfl
        | recv most =>
            dsimp only
            split <;> rfl

theorem Exchange.admits_opened {g : Gateway} {handle : Handle} {use : Use} {stage : Exchange}
    {opened : List Nat} {reply : Reply} (h : (stage.demand g handle use).Admits opened reply) :
    reply.opened = [] := by
  unfold demand call at h
  cases stage with
  | fetch =>
      cases h
      rfl
  | transfer =>
      dsimp only at h
      split at h
      · cases h
        rfl
      · cases use with
        | send data =>
            cases h
            rfl
        | recv most =>
            dsimp only at h
            split at h <;> cases h <;> rfl

theorem Exchange.resume_shifts {g : Gateway} {handle : Handle} {use : Use} {opened : List Nat}
    {now : Instant} {reply : Reply} (stage : Exchange)
    (h : (stage.demand g handle use).Admits opened reply) :
    (stage.resume g now handle reply).Shifts g 0 reply
      ((stage.demand g handle use).strayed reply) fun _ => 0 := by
  unfold Progress.Shifts
  rw [demand_strayed, admits_opened h]
  cases stage with
  | fetch =>
      unfold resume
      dsimp only
      split <;> exact .rest g 0
  | transfer =>
      unfold resume
      dsimp only
      split
      · exact .rest g 0
      · exact .touch handle (f := fun conn =>
          { conn with lastUsed := now, healthy := conn.healthy && (outcome reply).2 })
          (fun _ => rfl) fun _ => rfl

theorem Operation.takeBack_duties (taken : List (Handle × Entry PoolKey)) (answer : Answer) :
    (takeBack taken answer).duties Operation.duties =
      ↑((CheckIns.returned taken).map Duty.cell) := by
  rw [takeBack, ← CheckIns.duties_ofList?]
  cases CheckIns.ofList? (CheckIns.returned taken) <;> rfl

theorem Operation.ofCall_duties (call : Call) : (ofCall call).duties = 0 := by
  cases call <;> rfl

/-- Every step of every operation shifts the shared state and the operation's duties. -/
theorem Operation.resume_shifts {g : Gateway} {opened : List Nat} {reply : Reply}
    (op : Operation) (now : Instant) (h : (op.demand g).Admits opened reply) :
    (op.resume g now reply).Shifts g op.duties reply ((op.demand g).strayed reply)
      Operation.duties := by
  cases op with
  | checkout order stage => exact (stage.resume_shifts h).wrap (fun _ => rfl) fun _ => rfl
  | exchange handle use stage => exact (stage.resume_shifts h).wrap (fun _ => rfl) fun _ => rfl
  | release handle =>
      cases h
      unfold resume
      dsimp only
      split
      · exact .rest g 0
      · next entry registry hremove =>
          have hseize := Shift.seize (Registry.remove_yields hremove)
          rw [← takeBack_duties _ .done] at hseize
          exact hseize
  | teardown owner =>
      cases h
      have hseize := Shift.seize (g.registry.drainOwner_yields owner)
      rw [← takeBack_duties _ (.count (g.registry.drainOwner owner).1.length)] at hseize
      exact hseize
  | returning returns answer => exact (returns.resume_shifts h).wrap (fun _ => rfl) fun _ => rfl
  | reap closed stage =>
      cases h
      exact stage.resume_shifts.wrap (fun _ => rfl) fun _ => rfl
  | sweep removed stage => exact (stage.resume_shifts h).wrap (fun _ => rfl) fun _ => rfl
  | drain stage => exact (stage.resume_shifts h).wrap (fun _ => rfl) fun _ => rfl
  | guarded owner call =>
      cases h
      unfold resume
      dsimp only
      split
      · exact .rest g 0
      · show Shift g 0 0 0 g (ofCall call).duties
        rw [ofCall_duties]
        exact .rest g 0
  | retire owner =>
      cases h
      unfold resume
      dsimp only
      split
      · exact .rest g 0
      · exact .flag g.draining g.instances (owner :: g.tornDown)

/-! ### What operations wait for -/

/-- A demand that neither opens a connection nor makes a call for a guest. -/
def Demand.Housekeeping : Demand → Prop
  | .nothing | .check .. | .notice | .pause _ => True
  | .dial .. | .send .. | .recv .. => False

theorem PooledConnection.check_housekeeping (conn : PooledConnection) (reset probe : Bool) :
    (conn.check reset probe).Housekeeping := by
  unfold check
  split <;> trivial

theorem CheckIn.demand_housekeeping (g : Gateway) (stage : CheckIn) :
    (stage.demand g).Housekeeping := by
  cases stage with
  | checking conn => exact conn.check_housekeeping true g.config.probeOnCheckin
  | taking | judging | settling => trivial

/-- Only requests dial, and only the use of a handle calls for a guest. -/
theorem Operation.demand_cases (g : Gateway) (op : Operation) :
    (∃ order, op = checkout order .dialing) ∨
      (∃ handle use conn, op = exchange handle use .transfer ∧ g.held? handle = some conn ∧
        op.demand g = Exchange.call g.config conn use) ∨
      (op.demand g).Housekeeping := by
  cases op with
  | checkout order stage =>
      cases stage with
      | dialing => exact .inl ⟨order, rfl⟩
      | probing conn => exact .inr (.inr (conn.check_housekeeping false true))
      | screen | locate | inspect | await | discarding | refunding | entering =>
          exact .inr (.inr trivial)
  | exchange handle use stage =>
      cases stage with
      | fetch => exact .inr (.inr trivial)
      | transfer =>
          cases hheld : g.held? handle with
          | none =>
              refine .inr (.inr ?_)
              simp [demand, Exchange.demand, hheld, Demand.Housekeeping]
          | some conn =>
              refine .inr (.inl ⟨handle, use, conn, rfl, hheld, ?_⟩)
              simp [demand, Exchange.demand, hheld]
  | returning returns answer => exact .inr (.inr (returns.stage.demand_housekeeping g))
  | sweep removed stage =>
      cases stage with
      | probing conn => exact .inr (.inr (conn.check_housekeeping false true))
      | survey | enter | pick | settling => exact .inr (.inr trivial)
  | drain stage =>
      cases stage with
      | returning seized returns => exact .inr (.inr (returns.stage.demand_housekeeping g))
      | announce | poll | pause | seize | survey | clear => exact .inr (.inr trivial)
  | release | teardown | reap | guarded | retire => exact .inr (.inr trivial)

theorem Exchange.call_cases (config : PoolConfig) (conn : PooledConnection) (use : Use) :
    call config conn use = .nothing ∨ (∃ data, call config conn use = .send conn.socket data) ∨
      ∃ most, call config conn use = .recv conn.socket most := by
  cases use with
  | send data => exact .inr (.inl ⟨data, rfl⟩)
  | recv most =>
      unfold call
      dsimp only
      split
      · exact .inl rfl
      · exact .inr (.inr ⟨_, rfl⟩)

/-! ### Stages that follow on each other -/

section Resume

variable {g : Gateway} {now : Instant} {reply : Reply}

/-- What is taken back has started once and for all. -/
theorem CheckIn.resume_next (r : Returned) (stage : CheckIn) :
    (stage.resume g now r reply).next = .done () ∨
      ∃ stage', stage' ≠ .taking ∧ (stage.resume g now r reply).next = .stage stage' := by
  cases stage with
  | taking =>
      unfold resume
      dsimp only
      split
      · exact .inl rfl
      · exact .inr ⟨_, by simp, rfl⟩
  | judging conn =>
      unfold resume
      dsimp only
      split <;> exact .inr ⟨_, by simp, rfl⟩
  | checking conn => exact .inr ⟨_, by simp, rfl⟩
  | settling conn =>
      cases conn with
      | none => exact .inl rfl
      | some conn =>
          unfold resume
          dsimp only
          split <;> exact .inl rfl

/-- The next step of returns goes on with the same return, begins the next one, or is the last. -/
theorem CheckIns.resume_next (c : CheckIns) :
    (∃ stage, stage ≠ .taking ∧ (c.resume g now reply).next = .stage { c with stage }) ∨
      (∃ current waiting, c.waiting = current :: waiting ∧
        (c.resume g now reply).next = .stage { current, waiting }) ∨
      (c.waiting = [] ∧ (c.resume g now reply).next = .done ()) := by
  unfold resume Progress.lift
  rcases CheckIn.resume_next c.current c.stage with hnext | ⟨stage, hstage, hnext⟩
  · rw [hnext]
    cases hwaiting : c.waiting with
    | nil => exact .inr (.inr ⟨rfl, rfl⟩)
    | cons current waiting => exact .inr (.inl ⟨current, waiting, rfl, rfl⟩)
  · rw [hnext]
    exact .inl ⟨stage, hstage, rfl⟩

/-- Which operation can follow on which when it goes on. -/
inductive Operation.Follows : Operation → Operation → Prop
  | checkout (order : Order) (stage stage' : Checkout) :
      Follows (checkout order stage) (checkout order stage')
  | exchange (handle : Handle) (use : Use) :
      Follows (exchange handle use .fetch) (exchange handle use .transfer)
  | release (handle : Handle) (key : PoolKey) :
      Follows (release handle) (returning { current := ⟨handle, key⟩ } .done)
  | teardown (owner : InstanceId) (returns : CheckIns) (count : Nat) :
      Follows (teardown owner) (returning returns (.count count))
  | goesOn (returns : CheckIns) (answer : Answer) {stage : CheckIn} (hstage : stage ≠ .taking) :
      Follows (returning returns answer) (returning { returns with stage } answer)
  | takesNext {returns : CheckIns} (answer : Answer) {current : Returned} {waiting : List Returned}
      (hwaiting : returns.waiting = current :: waiting) :
      Follows (returning returns answer) (returning { current, waiting } answer)
  | reap (closed closed' : Nat) (stage stage' : Reap) :
      Follows (reap closed stage) (reap closed' stage')
  | sweep (removed removed' : Nat) (stage stage' : Sweep) :
      Follows (sweep removed stage) (sweep removed' stage')
  | drain (stage stage' : Drain) : Follows (drain stage) (drain stage')
  | guarded (owner : InstanceId) (call : Call) : Follows (guarded owner call) (ofCall call)
  | retire (owner : InstanceId) : Follows (retire owner) (teardown owner)

theorem Operation.follows_resume {op op' : Operation}
    (hnext : op' ∈ (op.resume g now reply).next.stages) : op.Follows op' := by
  cases op with
  | checkout order stage =>
      rcases Progress.mem_stages_lift hnext with ⟨s, -, hs⟩ | ⟨r, -, hr⟩
      · rw [List.mem_singleton.mp hs]
        exact .checkout order stage s
      · cases hr
  | exchange handle use stage =>
      cases stage with
      | fetch =>
          unfold resume Progress.lift Exchange.resume at hnext
          dsimp only at hnext
          split at hnext
          · next h =>
              split at h <;> cases h
              rw [List.mem_singleton.mp hnext]
              exact .exchange handle use
          · cases hnext
      | transfer =>
          unfold resume Progress.lift Exchange.resume at hnext
          dsimp only at hnext
          split at hnext
          · next h => split at h <;> cases h
          · cases hnext
  | release handle =>
      unfold resume at hnext
      dsimp only at hnext
      split at hnext
      · cases hnext
      · rw [List.mem_singleton.mp hnext]
        exact .release handle _
  | teardown owner =>
      unfold resume takeBack at hnext
      dsimp only at hnext
      split at hnext
      · rw [List.mem_singleton.mp hnext]
        exact .teardown owner _ _
      · cases hnext
  | returning returns answer =>
      rw [resume, Progress.lift] at hnext
      rcases returns.resume_next (g := g) with ⟨stage, hstage, h⟩ | ⟨current, waiting, hcons, h⟩ |
        ⟨-, h⟩
      · rw [h] at hnext
        rw [List.mem_singleton.mp hnext]
        exact .goesOn returns answer hstage
      · rw [h] at hnext
        rw [List.mem_singleton.mp hnext]
        exact .takesNext answer hcons
      · rw [h] at hnext
        cases hnext
  | reap closed stage =>
      rcases Progress.mem_stages_lift hnext with ⟨s, -, hs⟩ | ⟨r, -, hr⟩
      · rw [List.mem_singleton.mp hs]
        exact .reap closed s.1 stage s.2
      · cases hr
  | sweep removed stage =>
      rcases Progress.mem_stages_lift hnext with ⟨s, -, hs⟩ | ⟨r, -, hr⟩
      · rw [List.mem_singleton.mp hs]
        exact .sweep removed s.1 stage s.2
      · cases hr
  | drain stage =>
      rcases Progress.mem_stages_lift hnext with ⟨s, -, hs⟩ | ⟨r, -, hr⟩
      · rw [List.mem_singleton.mp hs]
        exact .drain stage s
      · cases hr
  | guarded owner call =>
      unfold resume at hnext
      dsimp only at hnext
      split at hnext
      · cases hnext
      · rw [List.mem_singleton.mp hnext]
        exact .guarded owner call
  | retire owner =>
      unfold resume at hnext
      dsimp only at hnext
      split at hnext
      · cases hnext
      · rw [List.mem_singleton.mp hnext]
        exact .retire owner

end Resume

end DatabaseGateway
