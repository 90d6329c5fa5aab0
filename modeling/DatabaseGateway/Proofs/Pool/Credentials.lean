import DatabaseGateway.Proofs.Pool.Accounting
import DatabaseGateway.Proofs.Pool.Solo
import DatabaseGateway.Proofs.Pool.Tenure

/-!
Who is handed which connection. A request is answered with a connection that was dialed with the key
of the request, whoever dialed it and however many hands it went through. The password is not part
of the key. So the connection was dialed with the password of the request, too, if the requests with
one key all present one password, and only then.
-/

namespace DatabaseGateway

def Move.handout? : Move → Option (Order × Handle)
  | resume (.checkout order _) _ _ (.done (.ok (.handle handle))) _ => some (order, handle)
  | _ => none

namespace Traffic

def handout? (t : Traffic) : Option (Order × Handle) := t.log.head?.bind Move.handout?

/-- There is a connection behind the handle, and it was dialed with these credentials. -/
def DialedFor (t : Traffic) (handle : Handle) (credentials : PoolKey × Option String) : Prop :=
  ∃ conn, t.gateway.held? handle = some conn ∧ t.origin? conn.socket = some credentials

/-- A request that has just been answered with a handle has got a connection that was dialed with
what the request presents. -/
def Isolated (t : Traffic) : Prop :=
  ∀ order handle, t.handout? = some (order, handle) → t.DialedFor handle order.credentials

def Asks (t : Traffic) (requests : ConnectConfig → Prop) : Prop :=
  ∀ order ∈ t.orders, requests order.request

end Traffic

/-- Among requests without faults, those that go to one pool present one password. -/
def KeyFixesPassword (requests : ConnectConfig → Prop) : Prop :=
  ∀ r r', requests r → requests r' → r.validate = .ok () → r'.validate = .ok () →
    PoolKey.ofConfig r = .ofConfig r' → r.password = r'.password

/-! ### Connections that are handed out -/

theorem Move.handout?_eq_some {m : Move} {order : Order} {handle : Handle}
    (h : m.handout? = some (order, handle)) : ∃ stage demand reply closed,
      m = resume (.checkout order stage) demand reply (.done (.ok (.handle handle))) closed := by
  unfold handout? at h
  split at h
  · next order' stage demand reply handle' closed =>
      obtain ⟨rfl, rfl⟩ := Prod.mk.inj (Option.some.inj h)
      exact ⟨stage, demand, reply, closed, rfl⟩
  · cases h

theorem Operation.exists_done_of_checkout {g : Gateway} {now : Instant} {reply : Reply}
    {order : Order} {stage : Checkout} {result : Operation.Result}
    (h : ((checkout order stage).resume g now reply).next = .done result) :
    ∃ r, (stage.resume g now order reply).next = .done r ∧ result = r.map .handle := by
  unfold resume Progress.lift at h
  dsimp only at h
  split at h
  · cases h
  · next r hdone => exact ⟨r, hdone, (Next.done.inj h).symm⟩

/-- A request is answered with a handle in its last stage, which has issued the handle. -/
theorem Operation.issue_of_checkout {g : Gateway} {now : Instant} {reply : Reply} {order : Order}
    {stage : Checkout} {handle : Handle}
    (h : ((checkout order stage).resume g now reply).next = .done (.ok (.handle handle))) :
    ∃ conn conn', stage = .entering conn ∧ conn'.socket = conn.socket ∧ conn'.key = conn.key ∧
      g.issue order.owner conn' =
        .ok (handle, ((checkout order stage).resume g now reply).gateway) := by
  have hnext : (stage.resume g now order reply).next = .done (.ok handle) := by
    obtain ⟨result, hdone, hresult⟩ := exists_done_of_checkout h
    cases result with
    | error e => cases hresult
    | ok handle' =>
        cases hresult
        exact hdone
  by_cases hstage : ∃ conn, stage = .entering conn
  · obtain ⟨conn, rfl⟩ := hstage
    refine ⟨conn, { conn with holding := .checkedOut, lastUsed := now }, rfl, rfl, rfl, ?_⟩
    unfold Checkout.resume at hnext
    unfold resume Checkout.resume Progress.lift
    dsimp only at hnext ⊢
    split at hnext
    · next heq =>
        cases hnext
        rw [heq]
    · cases hnext
  · exact absurd hnext (stage.resume_ne_ok order (fun conn heq => hstage ⟨conn, heq⟩) handle)

namespace Traffic

variable {config : PoolConfig} {t t' : Traffic}

theorem Reachable.maxSize_pos (h : Reachable config t) {key : PoolKey} {conn : PooledConnection}
    (hline : .line key conn ∈ t.duties) : 0 < config.maxSize := by
  have hcounted := h.invariant.coherent.counted
  obtain ⟨D, hduties⟩ := Multiset.exists_cons_of_mem hline
  rw [hduties, ← Multiset.singleton_add] at hcounted
  obtain ⟨pool, hpool⟩ := hcounted.exists_pool key (by simp [Duty.fills, Duty.probes])
  have htotal := hcounted.total key
  have haccounts := h.accounts hpool
  have hwithin := haccounts.within
  obtain ⟨order, -, hcapacity⟩ := haccounts.capacity
  rw [Gateway.poolAt_of_pool? hpool, Duty.tally_add, Duty.tally_singleton, Duty.fills,
    if_pos rfl] at htotal
  have hmax := Nat.min_le_right order.request.poolSize.toNat config.maxSize
  omega

/-- The step that has handed out a connection, seen from the state before it. -/
theorem Step.handout (hstep : Step t t') {order : Order} {handle : Handle}
    (hhandout : t'.handout? = some (order, handle)) : ∃ conn conn',
      .checkout order (.entering conn) ∈ t.flights ∧ conn'.socket = conn.socket ∧
        conn'.key = conn.key ∧ (handle, conn') ∈ t'.gateway.held := by
  cases hstep with
  | begin | attach | settle => cases hhandout
  | @resume before after op now reply hflights hadmits =>
      obtain ⟨stage, demand, reply', closed, hmove⟩ := Move.handout?_eq_some hhandout
      obtain ⟨rfl, -, -, hnext, -⟩ := Move.resume.inj hmove
      obtain ⟨conn, conn', rfl, hsocket, hkey, hissue⟩ := Operation.issue_of_checkout hnext
      obtain ⟨registry, -, hgateway⟩ := Gateway.issue_eq_ok hissue
      refine ⟨conn, conn', by simp [hflights], hsocket, hkey, ?_⟩
      show (handle, conn') ∈ ((Operation.checkout order (.entering conn)).resume t.gateway now
        reply).gateway.held
      rw [hgateway]
      exact List.mem_append_right _ (List.mem_singleton.mpr rfl)

/-- The connection behind a handle that has just been handed out was dialed with the key of the
request, and with the password of a request with this key. -/
theorem Reachable.handout (h : Reachable config t) {order : Order} {handle : Handle}
    (hhandout : t.handout? = some (order, handle)) :
    0 < config.maxSize ∧ order ∈ t.orders ∧ order.request.validate = .ok () ∧
      ∃ dialer ∈ t.orders, dialer.request.validate = .ok () ∧ dialer.key = order.key ∧
        t.DialedFor handle dialer.credentials := by
  have hinv := h.invariant
  have hprovenance := h.provenance
  rcases h.last with rfl | ⟨t₀, h, hstep⟩
  · cases hhandout
  · obtain ⟨conn, conn', hop, hsocket, hkey, hheld⟩ := hstep.handout hhandout
    obtain ⟨hmade, hvalid⟩ := h.provenance.vouched _ hop
    have hline : .line order.key conn ∈ t₀.duties :=
      mem_duties hop (Multiset.mem_singleton_self _)
    have hconn : conn.key = order.key := h.invariant.coherent.keyed.line order.key conn hline
    obtain ⟨password, horigin⟩ := hprovenance.labelled.held _ hheld
    obtain ⟨dialer, hdialer, hfaultless, hdialed⟩ :=
      hprovenance.dialed conn'.socket (mem_opened_of_origin? horigin)
    refine ⟨h.maxSize_pos hline, hstep.orders (hmade order rfl),
      hvalid order _ rfl (by simp), dialer, hdialer, hfaultless, ?_, conn',
      lookup_of_mem hinv.coherent.tabled.handles hheld, hdialed⟩
    rw [hdialed] at horigin
    exact (Prod.mk.inj (Option.some.inj horigin)).1.trans (hkey.trans hconn)

/-- If the key of a request fixes its password, no request gets a connection that was dialed with
another password. -/
theorem Reachable.isolated (h : Reachable config t) {requests : ConnectConfig → Prop}
    (hasks : t.Asks requests) (hfixes : KeyFixesPassword requests) : t.Isolated := by
  intro order handle hhandout
  obtain ⟨-, horder, hvalid, dialer, hdialer, hvalid', hkey, hdialed⟩ := h.handout hhandout
  have hpassword := hfixes dialer.request order.request (hasks dialer hdialer) (hasks order horder)
    hvalid' hvalid hkey
  have hcredentials : dialer.credentials = order.credentials := Prod.ext hkey hpassword
  exact hcredentials ▸ hdialed

end Traffic

/-! ### Connections that are shared -/

theorem ConnectConfig.poolSize_pos {r : ConnectConfig} (h : r.validate = .ok ()) :
    0 < r.poolSize.toNat := by
  rw [Nat.pos_iff_ne_zero]
  intro hzero
  have hsize : r.poolSize = 0 := UInt32.toNat_inj.mp hzero
  unfold validate fault? at h
  rw [if_pos hsize] at h
  split_ifs at h

def firstConnection (r : ConnectConfig) : PooledConnection :=
  { socket := 0, key := .ofConfig r, holding := .checkedOut, lastUsed := 0 }

def Gateway.handedOut (config : PoolConfig) (r : ConnectConfig) : Gateway :=
  { config
    pools := [(.ofConfig r, { capacity := min r.poolSize.toNat config.maxSize, total := 1 })]
    registry := ⟨#[some ⟨1, 1, .ofConfig r⟩], [], 2, 1⟩
    held := [(.make 0 1, firstConnection r)] }

theorem Gateway.remove_handedOut (config : PoolConfig) (r : ConnectConfig) :
    (handedOut config r).registry.remove (.make 0 1) =
      .ok (⟨1, 1, .ofConfig r⟩, ⟨#[none], [0], 2, 0⟩) := by
  have hslot : (Handle.make 0 1).slot = 0 := Handle.slot_make (by decide) 1
  have hgeneration : (Handle.make 0 1).generation = 1 := Handle.generation_make (by decide) 1
  simp [handedOut, Registry.remove, Registry.find?, Registry.vacate, hslot, hgeneration]

namespace Traffic

variable {config : PoolConfig} {t : Traffic}

/-- A request without faults is handed a new connection, since there is no pool for it yet. -/
theorem exists_handedOut (hsize : 0 < config.maxSize) {r : ConnectConfig}
    (hvalid : r.validate = .ok ()) :
    ∃ t, Reachable config t ∧ t.flights = [] ∧ t.gateway = .handedOut config r ∧
      t.orders = [⟨1, r⟩] ∧ ∃ m ∈ t.log, m.origin? 0 = some (.ofConfig r, r.password) := by
  let order : Order := ⟨1, r⟩
  have hfaultless : order.request.validate = .ok () := hvalid
  have hpos : 0 < min order.request.poolSize.toNat config.maxSize :=
    Nat.lt_min.mpr ⟨ConnectConfig.poolSize_pos hvalid, hsize⟩
  obtain ⟨capacity, hcapacity⟩ := Nat.exists_eq_add_one.mpr hpos
  let made := (init config).gateway.ensurePool order.key order.request.poolSize.toNat
  have hissue : (made.updatePool order.key fun _ => { capacity := capacity + 1, total := 1 }).issue
      order.owner (firstConnection r) = .ok (.make 0 1, .handedOut config r) := by
    rw [Gateway.handedOut, show min r.poolSize.toNat config.maxSize = capacity + 1 from hcapacity]
    simp [made, Gateway.ensurePool, Gateway.pool?, Gateway.updatePool, init]
    rfl
  obtain ⟨moves, hdial, m, hm, horigin⟩ := Solo.checkout_dial (g := (init config).gateway)
    hfaultless rfl rfl hcapacity 0 List.not_mem_nil 0 hissue
  obtain ⟨t, h, hgateway, hflights, hlog, horders⟩ :=
    Solo.run .refl rfl (.call (.checkout order)) hdial
  refine ⟨t, h, hflights, hgateway, horders, m, ?_, horigin⟩
  rw [hlog]
  exact List.mem_append_left _ hm

/-- A request without faults can leave a connection waiting that was dialed for it. -/
theorem exists_waiting (hsize : 0 < config.maxSize) {requests : ConnectConfig → Prop}
    {r : ConnectConfig} (hr : requests r) (hvalid : r.validate = .ok ()) :
    ∃ t pool conn, Reachable config t ∧ t.Asks requests ∧ t.flights = [] ∧
      t.gateway.draining = false ∧ t.gateway.pool? (.ofConfig r) = some pool ∧
      pool.idle.getLast? = some conn ∧ conn.healthy = true ∧
      t.origin? conn.socket = some (.ofConfig r, r.password) ∧
      ∀ owner key, ∃ handle registry,
        t.gateway.registry.insert owner key = .ok (handle, registry) := by
  obtain ⟨t₁, h₁, hflights₁, hgateway₁, horders₁, m, hm, horigin⟩ := exists_handedOut hsize hvalid
  -- The handle is closed, and the connection waits.
  have hremove := Gateway.remove_handedOut config r
  have hheld : (Gateway.handedOut config r).held? (.make 0 1) = some (firstConnection r) := rfl
  obtain ⟨moves, hrelease⟩ := Solo.release t₁.opened hremove hheld rfl rfl 0
  obtain ⟨t₂, h₂, hgateway₂, hflights₂, hlog₂, horders₂⟩ :=
    Solo.run h₁ hflights₁ (.call (.release (.make 0 1))) (hgateway₁ ▸ hrelease)
  rw [hgateway₁] at hgateway₂
  have hpool : t₂.gateway.pool? (.ofConfig r) = some
      { capacity := min r.poolSize.toNat config.maxSize, total := 1
        idle := [{ firstConnection r with holding := .idle }] } := by
    rw [hgateway₂, Gateway.pool?_updatePool, if_pos rfl]
    simp [Gateway.pool?, Gateway.takeHeld, Gateway.handedOut, Pool.park, firstConnection]
  have hasks : t₂.Asks requests := by
    intro order horder
    rw [horders₂, horders₁] at horder
    obtain rfl : order = ⟨1, r⟩ := by
      simpa [Operation.order?, Operation.ofCall] using horder
    exact hr
  refine ⟨t₂, _, _, h₂, hasks, hflights₂, ?_, hpool, rfl, rfl, ?_, ?_⟩
  · rw [hgateway₂]
    rfl
  · refine h₂.invariant.origin?_of_mem (m := m) ?_ horigin
    rw [hlog₂]
    simp [hm]
  · intro owner key
    rw [hgateway₂]
    exact ⟨_, _, rfl⟩

/-- A connection that was dialed with one password is handed to a request with another one, if the
two requests have the same key. -/
theorem exists_handout (hsize : 0 < config.maxSize) {requests : ConnectConfig → Prop}
    {r r' : ConnectConfig} (hr : requests r) (hr' : requests r') (hvalid : r.validate = .ok ())
    (hvalid' : r'.validate = .ok ()) (hkey : PoolKey.ofConfig r = .ofConfig r') :
    ∃ t order handle, Reachable config t ∧ t.Asks requests ∧ order.request = r' ∧
      t.handout? = some (order, handle) ∧ t.DialedFor handle (.ofConfig r, r.password) := by
  obtain ⟨t, pool, conn, h, hasks, hflights, hdraining, hpool, hlast, hhealthy, horigin, hroom⟩ :=
    exists_waiting hsize hr hvalid
  let order : Order := ⟨2, r'⟩
  have hfaultless : order.request.validate = .ok () := hvalid'
  have hpool' : t.gateway.pool? order.key = some pool := by
    rw [hkey] at hpool
    exact hpool
  obtain ⟨handle, registry, hinsert⟩ := hroom order.owner conn.key
  let conn' : PooledConnection := { conn with holding := .checkedOut, lastUsed := 0 }
  let g₁ := t.gateway.updatePool order.key fun _ => { pool with idle := pool.idle.dropLast }
  let g₂ : Gateway := { g₁ with registry, held := g₁.held ++ [(handle, conn')] }
  have hissue : g₁.issue order.owner conn' = .ok (handle, g₂) := by
    have hinsert' : g₁.registry.insert order.owner conn'.key = .ok (handle, registry) := hinsert
    rw [Gateway.issue, hinsert']
    rfl
  obtain ⟨moves, hreuse⟩ := Solo.checkout_reuse t.opened hfaultless hdraining hpool'
    hlast hhealthy 0 hissue
  obtain ⟨t', h', hgateway, -, hlog, horders⟩ :=
    Solo.run h hflights (.call (.checkout order)) hreuse
  obtain ⟨stage, demand, reply, closed, rest, hmoves⟩ := hreuse.answer
  obtain ⟨m, hm, hdialed⟩ := List.exists_of_findSome?_eq_some horigin
  refine ⟨t', order, handle, h', ?_, rfl, ?_, conn', ?_, ?_⟩
  · intro order' horder
    rw [horders] at horder
    rcases List.mem_append.mp horder with horder | horder
    · obtain rfl : order' = order := by
        simpa [Operation.order?, Operation.ofCall] using horder
      exact hr'
    · exact hasks order' horder
  · rw [handout?, hlog, hmoves]
    rfl
  · refine lookup_of_mem h'.invariant.coherent.tabled.handles ?_
    rw [hgateway]
    exact List.mem_append_right _ (List.mem_singleton.mpr rfl)
  · refine h'.invariant.origin?_of_mem ?_ hdialed
    rw [hlog]
    simp [hm]

end Traffic

/-- Credential isolation. A connection that is handed out was dialed for a request with the same
key. And in all runs with such requests, it was dialed with the password of the request that gets
it, too, exactly if the key of these requests fixes the password (or no pool may have a connection
at all). -/
theorem credential_isolation (config : PoolConfig) (requests : ConnectConfig → Prop) :
    (∀ t, Traffic.Reachable config t → ∀ order handle, t.handout? = some (order, handle) →
        ∃ dialer ∈ t.orders, dialer.key = order.key ∧ t.DialedFor handle dialer.credentials) ∧
      ((∀ t, Traffic.Reachable config t → t.Asks requests → t.Isolated) ↔
        config.maxSize = 0 ∨ KeyFixesPassword requests) := by
  refine ⟨fun t h order handle hhandout => ?_, fun hisolated => ?_, fun hfixes t h hasks => ?_⟩
  · obtain ⟨-, -, -, dialer, hdialer, -, hkey, hdialed⟩ := h.handout hhandout
    exact ⟨dialer, hdialer, hkey, hdialed⟩
  · rcases Nat.eq_zero_or_pos config.maxSize with hsize | hsize
    · exact .inl hsize
    · refine .inr fun r r' hr hr' hvalid hvalid' hkey => ?_
      obtain ⟨t, order, handle, h, hasks, rfl, hhandout, conn, hheld, horigin⟩ :=
        Traffic.exists_handout hsize hr hr' hvalid hvalid' hkey
      obtain ⟨conn', hheld', horigin'⟩ := hisolated t h hasks order handle hhandout
      obtain rfl : conn' = conn := Option.some.inj (hheld' ▸ hheld)
      rw [horigin] at horigin'
      exact congrArg Prod.snd (Option.some.inj horigin')
  · rcases hfixes with hsize | hfixes
    · intro order handle hhandout
      have hpos := (h.handout hhandout).1
      omega
    · exact h.isolated hasks hfixes

/-- A connection is dialed with one password and comes back, and the next request with the same key
gets it, although it presents another password. -/
def sharedRun (password password' : Option String) : List Traffic.Turn :=
  [.begin (.checkout ⟨1, { sampleRequest with password }⟩ .screen), .resume 0 0 .proceed,
    .resume 0 0 .proceed, .resume 0 0 .proceed, .resume 0 0 (.dialed (.ok 0)), .resume 0 0 .proceed,
    .begin (.release (Handle.make 0 1)), .resume 0 0 .proceed, .resume 0 0 .proceed,
    .resume 0 0 .proceed, .resume 0 0 (.checked true), .resume 0 0 .proceed,
    .begin (.checkout ⟨2, { sampleRequest with password := password' }⟩ .screen),
    .resume 0 0 .proceed, .resume 0 0 .proceed, .resume 0 0 .proceed, .resume 0 0 (.checked true),
    .resume 0 0 .proceed]

theorem credential_isolation_shared :
    ∃ t, (Traffic.init {}).play? (sharedRun (some "a") (some "b")) = some t ∧
      Traffic.Reachable {} t ∧ ¬ t.Isolated := by
  have hplay : (Traffic.init {}).play? (sharedRun (some "a") (some "b")) = some
      (((Traffic.init {}).play? (sharedRun (some "a") (some "b"))).get rfl) := rfl
  refine ⟨_, hplay, Traffic.reachable_of_play? .refl hplay, fun hisolated => ?_⟩
  generalize hrun : ((Traffic.init {}).play? (sharedRun (some "a") (some "b"))).get rfl = t
    at hisolated
  have hhandout : t.handout? =
      some (⟨2, { sampleRequest with password := some "b" }⟩, Handle.make 0 2) := by
    rw [← hrun]
    rfl
  have hdialed : (t.gateway.held? (Handle.make 0 2)).bind (t.origin? ·.socket) =
      some (.ofConfig sampleRequest, some "a") := by
    rw [← hrun]
    decide +kernel
  obtain ⟨conn, hheld, horigin⟩ := hisolated _ _ hhandout
  rw [hheld, Option.bind_some, horigin] at hdialed
  have hpassword : some "b" = some "a" := congrArg Prod.snd (Option.some.inj hdialed)
  simp at hpassword

end DatabaseGateway
