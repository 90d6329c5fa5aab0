import DatabaseGateway.Proofs.Pool.Provenance

/-!
Operations that are not interrupted. `Solo` says what an operation comes to when nothing else
happens between its stages. The specifications below are about such runs: how a request is served
with a new connection and with one that waits, and how a release gives a connection back.
-/

namespace DatabaseGateway

/-- An operation that is not interrupted takes the gateway from one state to another and comes to a
result, by these moves, the latest first. The connections in the list have been opened before. -/
inductive Solo : List Nat → Gateway → Operation → List Move → Gateway → Operation.Result → Prop
  | last {opened : List Nat} {g : Gateway} {op : Operation} {result : Operation.Result}
      (now : Instant) (reply : Reply) (p : Progress Operation Operation.Result)
      (admits : (op.demand g).Admits opened reply) (resume : op.resume g now reply = p)
      (next : p.next = .done result) :
      Solo opened g op [.resume op (op.demand g) reply p.next p.closed] p.gateway result
  | step {opened : List Nat} {g g' : Gateway} {op op' : Operation} {result : Operation.Result}
      {moves : List Move} (now : Instant) (reply : Reply)
      (p : Progress Operation Operation.Result) (admits : (op.demand g).Admits opened reply)
      (resume : op.resume g now reply = p) (next : p.next = .stage op')
      (rest : Solo (reply.opened ++ opened) p.gateway op' moves g' result) :
      Solo opened g op (moves ++ [.resume op (op.demand g) reply p.next p.closed]) g' result

namespace Solo

/-- What an operation does without interruption, it can do in any state that has nothing else under
way. -/
theorem reachable {config : PoolConfig} {opened : List Nat} {g g' : Gateway} {op : Operation}
    {moves : List Move} {result : Operation.Result} (hsolo : Solo opened g op moves g' result)
    {t : Traffic} (h : Traffic.Reachable config t) (hopened : t.opened = opened)
    (hgateway : t.gateway = g) (hflights : t.flights = [op]) :
    ∃ t', Traffic.Reachable config t' ∧ t'.gateway = g' ∧ t'.flights = [] ∧
      t'.log = moves ++ t.log := by
  induction hsolo generalizing t with
  | @last opened g op result now reply p hadmits hresume hnext =>
      subst hopened hgateway hresume
      refine ⟨t.resume [] op [] now reply, h.tail (.resume hflights hadmits), rfl, ?_, rfl⟩
      show [] ++ (op.resume t.gateway now reply).next.stages ++ [] = []
      rw [hnext]
      rfl
  | @step opened g g' op op' result moves now reply p hadmits hresume hnext hrest ih =>
      subst hopened hgateway hresume
      have hnext : (t.resume [] op [] now reply).flights = [op'] := by
        show [] ++ (op.resume t.gateway now reply).next.stages ++ [] = [op']
        rw [hnext]
        rfl
      have hopened : (t.resume [] op [] now reply).opened = reply.opened ++ t.opened := by
        show Move.opened (.resume ..) ++ t.opened = _
        rw [Move.opened_resume]
      obtain ⟨t', h', hgateway', hflights', hlog⟩ :=
        ih (h.tail (.resume hflights hadmits)) hopened rfl hnext
      refine ⟨t', h', hgateway', hflights', ?_⟩
      rw [hlog, List.append_assoc]
      rfl

theorem moves_resume {opened : List Nat} {g g' : Gateway} {op : Operation} {moves : List Move}
    {result : Operation.Result} (hsolo : Solo opened g op moves g' result) :
    ∀ m ∈ moves, ∃ op demand reply next closed, m = .resume op demand reply next closed := by
  induction hsolo with
  | last =>
      intro m hm
      exact ⟨_, _, _, _, _, List.mem_singleton.mp hm⟩
  | step _ _ _ _ _ _ _ ih =>
      intro m hm
      rcases List.mem_append.mp hm with hm | hm
      · exact ih m hm
      · exact ⟨_, _, _, _, _, List.mem_singleton.mp hm⟩

/-- An operation that is begun and runs through without interruption. -/
theorem run {config : PoolConfig} {t : Traffic} (h : Traffic.Reachable config t)
    (hflights : t.flights = []) {op : Operation} (hinitial : op.Initial) {g' : Gateway}
    {moves : List Move} {result : Operation.Result}
    (hsolo : Solo t.opened t.gateway op moves g' result) :
    ∃ t', Traffic.Reachable config t' ∧ t'.gateway = g' ∧ t'.flights = [] ∧
      t'.log = moves ++ .begin op :: t.log ∧ t'.orders = op.order?.toList ++ t.orders := by
  have hbegun := Relation.ReflTransGen.tail h (.begin hinitial)
  obtain ⟨t', h', hgateway, hflights', hlog⟩ :=
    hsolo.reachable hbegun rfl rfl (by simp [hflights])
  refine ⟨t', h', hgateway, hflights', hlog, ?_⟩
  have hnone : moves.filterMap Move.order? = [] := by
    apply List.filterMap_eq_nil_iff.mpr
    intro m hm
    obtain ⟨_, _, _, _, _, rfl⟩ := hsolo.moves_resume m hm
    rfl
  have hbegin : (Move.begin op).order? = op.order? := rfl
  rw [Traffic.orders, hlog, List.filterMap_append, hnone, List.nil_append, List.filterMap_cons,
    hbegin]
  cases op.order? <;> rfl

/-! ### Steps that wait for nothing -/

section Quiet

variable {opened : List Nat} {g g₁ g' : Gateway} {op op' : Operation} {moves : List Move}
  {result result' : Operation.Result}

theorem eq_of_done (hdemand : op.demand g = .nothing)
    (hresume : ∀ now reply, op.resume g now reply = { gateway := g, next := .done result' })
    (hsolo : Solo opened g op moves g' result) :
    moves = [.resume op .nothing .proceed (.done result') []] ∧ g' = g ∧ result = result' := by
  cases hsolo with
  | last now reply p hadmits hresume hnext =>
      subst hresume
      rw [hdemand] at hadmits ⊢
      rw [hresume] at hnext ⊢
      cases hadmits
      cases hnext
      exact ⟨rfl, rfl, rfl⟩
  | step now reply p _ hresume hnext =>
      subst hresume
      rw [hresume] at hnext
      cases hnext

theorem of_stage (hdemand : op.demand g = .nothing)
    (hresume : ∀ now reply, op.resume g now reply = { gateway := g₁, next := .stage op' })
    (hsolo : Solo opened g op moves g' result) :
    ∃ rest, moves = rest ++ [.resume op .nothing .proceed (.stage op') []] ∧
      Solo opened g₁ op' rest g' result := by
  cases hsolo with
  | last now reply p _ hresume hnext =>
      subst hresume
      rw [hresume] at hnext
      cases hnext
  | @step _ _ _ _ _ _ rest now reply p hadmits hresume hnext hrest =>
      subst hresume
      rw [hdemand] at hadmits ⊢
      rw [hresume] at hnext hrest ⊢
      cases hadmits
      cases hnext
      exact ⟨rest, rfl, hrest⟩

end Quiet

/-! ### Uses and releases -/

/-- The use of a live handle comes to what the connection replies. -/
theorem use {opened : List Nat} {g : Gateway} {handle : Handle} {entry : Entry PoolKey}
    {conn : PooledConnection} {use : Use} {reply : Reply}
    (hfind : g.registry.find? handle = some entry) (hheld : g.held? handle = some conn)
    (hadmits : (Exchange.call g.config conn use).Admits opened reply) (now : Instant) :
    ∃ moves g', Solo opened g (.exchange handle use .fetch) moves g'
      ((Exchange.outcome reply).1.map .usage) := by
  have hfetch : (Operation.exchange handle use .fetch).resume g now .proceed =
      { gateway := g, next := .stage (.exchange handle use .transfer) } := by
    simp [Operation.resume, Exchange.resume, Progress.lift, Registry.get, hfind]
  have hdemand : (Operation.exchange handle use .transfer).demand g =
      Exchange.call g.config conn use := by
    simp [Operation.demand, Exchange.demand, hheld]
  have hnext : ((Operation.exchange handle use .transfer).resume g now reply).next =
      .done ((Exchange.outcome reply).1.map .usage) := by
    simp [Operation.resume, Exchange.resume, Progress.lift, hheld]
  exact ⟨_, _, .step now .proceed _ .nothing hfetch rfl
    (.last now reply _ (hdemand ▸ hadmits) rfl hnext)⟩

/-- A connection can reply so that the use of it succeeds. -/
theorem exists_reply (config : PoolConfig) (conn : PooledConnection) (use : Use)
    (opened : List Nat) : ∃ reply usage, (Exchange.call config conn use).Admits opened reply ∧
      (Exchange.outcome reply).1 = .ok usage := by
  rcases Exchange.call_cases config conn use with heq | ⟨data, heq⟩ | ⟨most, heq⟩ <;> rw [heq]
  · exact ⟨.proceed, _, .nothing, rfl⟩
  · exact ⟨.sent (.ok data.length), _, .sent, rfl⟩
  · exact ⟨.received (.ok []), _, .received, rfl⟩

/-- A release of a live handle gives its connection back, if the connection passes its check. -/
theorem release (opened : List Nat) {g : Gateway} {handle : Handle} {entry : Entry PoolKey}
    {registry : Registry PoolKey} {conn : PooledConnection}
    (hremove : g.registry.remove handle = .ok (entry, registry))
    (hheld : g.held? handle = some conn) (hhealthy : conn.healthy = true)
    (hdraining : g.draining = false) (now : Instant) :
    ∃ moves, Solo opened g (.release handle) moves
      (({ g with registry }.takeHeld handle).updatePool entry.item
        (·.park { conn with holding := .idle, lastUsed := now })) (.ok .done) := by
  let r : Returned := ⟨handle, entry.item⟩
  let g₁ : Gateway := { g with registry }
  have hout : (Operation.release handle).resume g now .proceed =
      { gateway := g₁, next := .stage (.returning { current := r } .done) } := by
    simp [Operation.resume, hremove, Operation.takeBack, CheckIns.ofList?, CheckIns.returned, g₁, r]
  have htake : (Operation.returning { current := r } .done).resume g₁ now .proceed =
      { gateway := g₁.takeHeld handle
        next := .stage (.returning { current := r, stage := .judging conn } .done) } := by
    have hheld₁ : g₁.held? r.handle = some conn := hheld
    simp [Operation.resume, CheckIns.resume, CheckIn.resume, Progress.lift, hheld₁, r]
  have hjudge : (Operation.returning { current := r, stage := .judging conn } .done).resume
      (g₁.takeHeld handle) now .proceed =
      { gateway := g₁.takeHeld handle
        next := .stage (.returning { current := r, stage := .checking conn } .done) } := by
    have hdraining₁ : (g₁.takeHeld handle).draining = false := hdraining
    simp [Operation.resume, CheckIns.resume, CheckIn.resume, Progress.lift, hhealthy, hdraining₁]
  have hcheck : (Operation.returning { current := r, stage := .checking conn } .done).resume
      (g₁.takeHeld handle) now (.checked true) =
      { gateway := g₁.takeHeld handle
        next := .stage (.returning { current := r, stage := .settling (some conn) } .done) } := rfl
  have hsettle : (Operation.returning { current := r, stage := .settling (some conn) } .done).resume
      (g₁.takeHeld handle) now .proceed =
      { gateway := (g₁.takeHeld handle).updatePool entry.item
          (·.park { conn with holding := .idle, lastUsed := now })
        next := .done (.ok .done) } := by
    have hdraining₁ : (g₁.takeHeld handle).draining = false := hdraining
    simp [Operation.resume, CheckIns.resume, CheckIn.resume, Progress.lift, hdraining₁,
      CheckIns.ofList?, r]
  have hchecked : (Operation.demand (g₁.takeHeld handle)
      (.returning { current := r, stage := .checking conn } .done)).Admits opened
        (.checked true) := by
    have hdemand : (Operation.demand (g₁.takeHeld handle)
        (.returning { current := r, stage := .checking conn } .done)) =
        .check conn.socket true (g₁.takeHeld handle).config.probeOnCheckin := by
      simp [Operation.demand, CheckIn.demand, PooledConnection.check, hhealthy]
    rw [hdemand]
    exact .checked
  exact ⟨_, .step now .proceed _ .nothing hout rfl (.step now .proceed _ .nothing htake rfl
    (.step now .proceed _ .nothing hjudge rfl (.step now (.checked true) _ hchecked hcheck rfl
      (.last now .proceed _ .nothing hsettle rfl))))⟩

theorem exists_admits_check (conn : PooledConnection) (reset probe : Bool) (opened : List Nat) :
    ∃ reply, (conn.check reset probe).Admits opened reply := by
  unfold PooledConnection.check
  split
  · exact ⟨.checked true, .checked⟩
  · exact ⟨.proceed, .nothing⟩

/-- A connection on its way back can be taken back from this stage on. -/
def Returns (r : Returned) (stage : CheckIn) : Prop :=
  ∀ opened g, ∃ moves g',
    Solo opened g (.returning { current := r, stage } .done) moves g' (.ok .done)

section Returns

variable {g : Gateway} {now : Instant} {reply : Reply} {r : Returned} {stage stage' : CheckIn}

theorem returning_next_stage (h : (stage.resume g now r reply).next = .stage stage') :
    ((Operation.returning { current := r, stage } .done).resume g now reply).next =
      .stage (.returning { current := r, stage := stage' } .done) := by
  simp [Operation.resume, CheckIns.resume, Progress.lift, h]

theorem returning_next_done (h : (stage.resume g now r reply).next = .done ()) :
    ((Operation.returning { current := r, stage } .done).resume g now reply).next =
      .done (.ok .done) := by
  simp [Operation.resume, CheckIns.resume, Progress.lift, h, CheckIns.ofList?]

theorem returns_settling (r : Returned) (conn : Option PooledConnection) :
    Returns r (.settling conn) := by
  intro opened g
  refine ⟨_, _, .last 0 .proceed _ .nothing rfl (returning_next_done ?_)⟩
  cases conn with
  | none => rfl
  | some conn =>
      unfold CheckIn.resume
      dsimp only
      split <;> rfl

theorem returns_checking (r : Returned) (conn : PooledConnection) :
    Returns r (.checking conn) := by
  intro opened g
  obtain ⟨reply, hadmits⟩ := exists_admits_check conn true g.config.probeOnCheckin opened
  obtain ⟨moves, g', hrest⟩ := returns_settling r (conn.survivor reply) (reply.opened ++ opened) g
  exact ⟨_, g', .step 0 reply _ hadmits rfl (returning_next_stage rfl) hrest⟩

theorem returns_judging (r : Returned) (conn : PooledConnection) : Returns r (.judging conn) := by
  intro opened g
  obtain ⟨stage, hnext, hreturns⟩ : ∃ stage,
      (CheckIn.resume g 0 r .proceed (.judging conn)).next = .stage stage ∧ Returns r stage := by
    unfold CheckIn.resume
    dsimp only
    split
    · exact ⟨_, rfl, returns_settling r none⟩
    · exact ⟨_, rfl, returns_checking r conn⟩
  obtain ⟨moves, g', hrest⟩ :=
    hreturns opened (CheckIn.resume g 0 r .proceed (.judging conn)).gateway
  exact ⟨_, g', .step 0 .proceed _ .nothing rfl (returning_next_stage hnext) hrest⟩

/-- However far a connection is on its way back, it can be taken back. -/
theorem returns (r : Returned) (stage : CheckIn) : Returns r stage := by
  cases stage with
  | settling conn => exact returns_settling r conn
  | checking conn => exact returns_checking r conn
  | judging conn => exact returns_judging r conn
  | taking =>
      intro opened g
      cases hheld : g.held? r.handle with
      | none =>
          refine ⟨_, _, .last 0 .proceed _ .nothing rfl (returning_next_done ?_)⟩
          simp [CheckIn.resume, hheld]
      | some conn =>
          obtain ⟨moves, g', hrest⟩ := returns_judging r conn opened
            (CheckIn.resume g 0 r .proceed .taking).gateway
          refine ⟨_, g', .step 0 .proceed _ .nothing rfl (returning_next_stage ?_) hrest⟩
          simp [CheckIn.resume, hheld]

end Returns

/-! ### Requests -/

theorem answer {opened : List Nat} {g g' : Gateway} {order : Order} {stage : Checkout}
    {moves : List Move} {result : Operation.Result}
    (hsolo : Solo opened g (.checkout order stage) moves g' result) :
    ∃ stage' demand reply closed rest,
      moves = .resume (.checkout order stage') demand reply (.done result) closed :: rest := by
  -- By induction on the run: what follows on a request is the same request at another stage.
  generalize hop : Operation.checkout order stage = op at hsolo
  induction hsolo generalizing stage with
  | last now reply p _ _ hnext =>
      subst hop
      exact ⟨stage, _, reply, p.closed, [], by rw [hnext]⟩
  | step now reply p _ hresume hnext _ ih =>
      subst hop hresume
      have hfollows := Operation.follows_resume (by rw [hnext]; exact List.mem_singleton_self _)
      cases hfollows with
      | checkout _ _ stage' =>
          obtain ⟨stage'', demand, reply', closed, rest, hmoves⟩ := ih rfl
          exact ⟨stage'', demand, reply', closed, rest ++ [_], by rw [hmoves]; rfl⟩

section Requests

variable {opened : List Nat} {g g' : Gateway} {order : Order} {handle : Handle}

variable (opened) in
/-- A request is served with the connection that came back last, if the connection passes its check
and the table has room. -/
theorem checkout_reuse (hvalid : order.request.validate = .ok ()) (hdraining : g.draining = false)
    {pool : Pool} {conn : PooledConnection} (hpool : g.pool? order.key = some pool)
    (hlast : pool.idle.getLast? = some conn) (hhealthy : conn.healthy = true) (now : Instant)
    (hissue : (g.updatePool order.key fun _ => { pool with idle := pool.idle.dropLast }).issue
      order.owner { conn with holding := .checkedOut, lastUsed := now } = .ok (handle, g')) :
    ∃ moves, Solo opened g (.checkout order .screen) moves g' (.ok (.handle handle)) := by
  let g₁ := g.updatePool order.key fun _ => { pool with idle := pool.idle.dropLast }
  -- Stage after stage, where each step leads; then the steps are put together.
  have hscreen : (Operation.checkout order .screen).resume g now .proceed =
      { gateway := g, next := .stage (.checkout order .locate) } := by
    simp [Operation.resume, Checkout.resume, Progress.lift, hvalid, hdraining]
  have hlocate : (Operation.checkout order .locate).resume g now .proceed =
      { gateway := g, next := .stage (.checkout order .inspect) } := by
    simp [Operation.resume, Checkout.resume, Progress.lift, Gateway.ensurePool, hpool]
  have henter : (Operation.checkout order (.entering conn)).resume g₁ now .proceed =
      { gateway := g', next := .done (.ok (.handle handle)) } := by
    simp [Operation.resume, Checkout.resume, Progress.lift, g₁, hissue, Except.map]
  have hentered : Solo opened g₁ (.checkout order (.entering conn)) _ g' (.ok (.handle handle)) :=
    .last now .proceed _ .nothing henter rfl
  by_cases hprobe : g.config.probeOnCheckout
  · have hinspect : (Operation.checkout order .inspect).resume g now .proceed =
        { gateway := g₁, next := .stage (.checkout order (.probing conn)) } := by
      simp [Operation.resume, Checkout.resume, Checkout.inspectPool, Progress.lift, hpool,
        Pool.acquire, hlast, hprobe, g₁]
    have hprobed : (Operation.demand g₁ (.checkout order (.probing conn))).Admits opened
        (.checked true) := by
      have hdemand : Operation.demand g₁ (.checkout order (.probing conn)) =
          .check conn.socket false true := by
        simp [Operation.demand, Checkout.demand, PooledConnection.check, hhealthy]
      rw [hdemand]
      exact .checked
    exact ⟨_, .step now .proceed _ .nothing hscreen rfl (.step now .proceed _ .nothing hlocate rfl
      (.step now .proceed _ .nothing hinspect rfl
        (.step now (.checked true) _ hprobed rfl rfl hentered)))⟩
  · have hinspect : (Operation.checkout order .inspect).resume g now .proceed =
        { gateway := g₁, next := .stage (.checkout order (.entering conn)) } := by
      simp [Operation.resume, Checkout.resume, Checkout.inspectPool, Progress.lift, hpool,
        Pool.acquire, hlast, hprobe, g₁]
    exact ⟨_, .step now .proceed _ .nothing hscreen rfl (.step now .proceed _ .nothing hlocate rfl
      (.step now .proceed _ .nothing hinspect rfl hentered))⟩

/-- The first request for a pool is served with a new connection, if one is opened for it and the
table has room. -/
theorem checkout_dial (hvalid : order.request.validate = .ok ()) (hdraining : g.draining = false)
    (hpool : g.pool? order.key = none) {capacity : Nat}
    (hcapacity : min order.request.poolSize.toNat g.config.maxSize = capacity + 1) (socket : Nat)
    (hfresh : socket ∉ opened) (now : Instant)
    (hissue : ((g.ensurePool order.key order.request.poolSize.toNat).updatePool order.key
      fun _ => { capacity := capacity + 1, total := 1 }).issue order.owner
        { socket, key := order.key, holding := .checkedOut, lastUsed := now } = .ok (handle, g')) :
    ∃ moves, Solo opened g (.checkout order .screen) moves g' (.ok (.handle handle)) ∧
      ∃ m ∈ moves, m.origin? socket = some order.credentials := by
  let g₁ := g.ensurePool order.key order.request.poolSize.toNat
  let g₂ := g₁.updatePool order.key fun _ => { capacity := capacity + 1, total := 1 }
  have hmade : g₁.pool? order.key = some { capacity := capacity + 1 } := by
    rw [Gateway.pool?_ensurePool, if_pos rfl, hpool, hcapacity]
    rfl
  have hscreen : (Operation.checkout order .screen).resume g now .proceed =
      { gateway := g, next := .stage (.checkout order .locate) } := by
    simp [Operation.resume, Checkout.resume, Progress.lift, hvalid, hdraining]
  have hlocate : (Operation.checkout order .locate).resume g now .proceed =
      { gateway := g₁, next := .stage (.checkout order .inspect) } := rfl
  have hinspect : (Operation.checkout order .inspect).resume g₁ now .proceed =
      { gateway := g₂, next := .stage (.checkout order .dialing) } := by
    simp [Operation.resume, Checkout.resume, Checkout.inspectPool, Progress.lift, hmade,
      Pool.acquire, g₂]
  let dialed : PooledConnection := { socket, key := order.key, lastUsed := now }
  have henter : (Operation.checkout order (.entering dialed)).resume g₂ now .proceed =
      { gateway := g', next := .done (.ok (.handle handle)) } := by
    simp [Operation.resume, Checkout.resume, Progress.lift, g₂, g₁, dialed, hissue, Except.map]
  refine ⟨_, .step now .proceed _ .nothing hscreen rfl (.step now .proceed _ .nothing hlocate rfl
    (.step now .proceed _ .nothing hinspect rfl
      (.step now (.dialed (.ok socket)) _ (.connected hfresh) rfl rfl
        (.last now .proceed _ .nothing henter rfl)))),
    .resume (.checkout order .dialing) (.dial order.key order.request.password)
      (.dialed (.ok socket)) (.stage (.checkout order (.entering dialed))) [], ?_, ?_⟩
  · exact List.mem_append_left _ (List.mem_append_left _ (List.mem_append_left _
      (List.mem_append_right _ (List.mem_singleton.mpr rfl))))
  · simp [Move.origin?, Order.credentials]

end Requests

end Solo

end DatabaseGateway
