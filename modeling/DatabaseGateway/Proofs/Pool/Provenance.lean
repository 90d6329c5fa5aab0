import DatabaseGateway.Proofs.Pool.Frame
import DatabaseGateway.Proofs.Pool.Invariant

/-!
Where a connection comes from. Every connection that the gateway has was dialed for a request that
was made, with the key and the password of that request, and it keeps the key for as long as it
lives, through whichever hands it goes.
-/

namespace DatabaseGateway

/-- What a request presents to the server: where it goes, as whom, and the password. -/
def Order.credentials (o : Order) : PoolKey × Option String := (o.key, o.request.password)

def Operation.order? : Operation → Option Order
  | checkout order _ | guarded _ (.checkout order) => some order
  | _ => none

def Move.order? : Move → Option Order
  | begin op => op.order?
  | attach | resume .. | settle .. => none

def Traffic.orders (t : Traffic) : List Order := t.log.filterMap Move.order?

/-! ### Requests under way -/

/-- A request under way has been made before, and once it is past its first stage it has been found
to be free of faults. -/
structure Operation.Vouched (op : Operation) (orders : List Order) : Prop where
  made : ∀ order, op.order? = some order → order ∈ orders
  valid : ∀ order stage, op = checkout order stage → stage ≠ .screen →
    order.request.validate = .ok ()

theorem Operation.Vouched.mono {op : Operation} {orders orders' : List Order}
    (h : op.Vouched orders) (hsub : orders ⊆ orders') : op.Vouched orders' :=
  ⟨fun order horder => hsub (h.made order horder), h.valid⟩

section Resume

variable {g : Gateway} {now : Instant} {reply : Reply}

/-- Only a request without faults gets past the first stage. -/
theorem Checkout.validate_of_resume {order : Order} {stage stage' : Checkout}
    (hvalid : stage ≠ .screen → order.request.validate = .ok ())
    (hnext : (stage.resume g now order reply).next = .stage stage') :
    order.request.validate = .ok () := by
  cases stage with
  | screen =>
      unfold resume at hnext
      dsimp only at hnext
      split at hnext
      · cases hnext
      · next h => exact h
  | _ => exact hvalid (by simp)

theorem Operation.order?_resume {op op' : Operation}
    (hnext : op' ∈ (op.resume g now reply).next.stages) :
    op'.order? = none ∨ op'.order? = op.order? := by
  cases follows_resume hnext with
  | guarded owner call => cases call <;> exact .inr rfl
  | checkout => exact .inr rfl
  | _ => exact .inl rfl

theorem Operation.Vouched.resume {op op' : Operation} {orders : List Order}
    (h : op.Vouched orders) (hnext : op' ∈ (op.resume g now reply).next.stages) :
    op'.Vouched orders := by
  refine ⟨fun order horder => ?_, fun order stage hop' hstage => ?_⟩
  · rcases order?_resume hnext with hnone | hsame
    · rw [hnone] at horder
      cases horder
    · exact h.made order (hsame ▸ horder)
  · subst hop'
    generalize hop' : checkout order stage = op' at hnext
    cases follows_resume hnext with
    | checkout order' stage₀ stage' =>
        obtain ⟨rfl, rfl⟩ := checkout.inj hop'
        rcases Progress.mem_stages_lift hnext with ⟨s, hs, -⟩ | ⟨r, -, hr⟩
        · exact Checkout.validate_of_resume (h.valid order stage₀ rfl) hs
        · cases hr
    | guarded owner call =>
        cases call with
        | checkout order' =>
            obtain ⟨rfl, rfl⟩ := checkout.inj hop'
            exact absurd rfl hstage
        | use | release | teardown | reap | sweep | drain => cases hop'
    | _ => cases hop'

end Resume

/-! ### What connections are -/

/-- All connections of the gateway, and all connections that operations have, are such. -/
structure Carries (P : PooledConnection → Prop) (g : Gateway) (D : Multiset Duty) : Prop where
  idle : ∀ x ∈ g.pools, ∀ conn ∈ x.2.idle, P conn
  held : ∀ x ∈ g.held, P x.2
  line : ∀ key conn, Duty.line key conn ∈ D → P conn

theorem Carries.mono {P Q : PooledConnection → Prop} {g : Gateway} {D : Multiset Duty}
    (h : Carries P g D) (hsub : ∀ conn, P conn → Q conn) : Carries Q g D :=
  ⟨fun x hx conn hconn => hsub conn (h.idle x hx conn hconn), fun x hx => hsub x.2 (h.held x hx),
    fun key conn hconn => hsub conn (h.line key conn hconn)⟩

theorem Carries.update {P : PooledConnection → Prop} {g : Gateway} {D D' : Multiset Duty}
    {key : PoolKey} {f : Pool → Pool} (h : Carries P g D)
    (hidle : ∀ pool, (∀ conn ∈ pool.idle, P conn) → ∀ conn ∈ (f pool).idle, P conn)
    (hline : ∀ k conn, Duty.line k conn ∈ D' → P conn) : Carries P (g.updatePool key f) D' := by
  refine ⟨fun x hx => ?_, h.held, hline⟩
  obtain ⟨⟨k, pool⟩, hpool, rfl⟩ := List.mem_map.mp hx
  dsimp only
  split
  · exact hidle pool (h.idle (k, pool) hpool)
  · exact h.idle (k, pool) hpool

/-- Unless a connection is opened, the connections stay what they are. -/
theorem Shift.carries {P : PooledConnection → Prop}
    (hP : ∀ conn conn', conn'.socket = conn.socket → conn'.key = conn.key → P conn → P conn')
    {g g' : Gateway} {D D' : Multiset Duty} {gained lost : Multiset Nat}
    (hs : Shift g D gained lost g' D') (hgained : ∀ socket, socket ∉ gained) (R : Multiset Duty)
    (h : Carries P g (D + R)) : Carries P g' (D' + R) := by
  induction hs generalizing R with
  | rest => exact h
  | frame R' _ ih =>
      rw [add_assoc] at h ⊢
      exact ih hgained (R' + R) h
  | trans _ _ ih ih' =>
      simp only [Multiset.mem_add, not_or, forall_and] at hgained
      exact ih' hgained.2 R (ih hgained.1 R h)
  -- This is the one shift that opens a connection.
  | connect key socket now => exact absurd (Multiset.mem_singleton_self socket) (hgained socket)
  | flag => exact ⟨h.idle, h.held, h.line⟩
  | @ensure g key size =>
      refine ⟨?_, fun x hx => ?_, h.line⟩
      · unfold Gateway.ensurePool
        split
        · exact h.idle
        · intro x hx conn hconn
          rcases List.mem_append.mp hx with hx | hx
          · exact h.idle x hx conn hconn
          · rw [List.mem_singleton.mp hx] at hconn
            cases hconn
      · rw [Gateway.held_ensurePool] at hx
        exact h.held x hx
  | @note g key pool _ hpool =>
      exact h.update (fun _ _ => h.idle _ (mem_of_lookup hpool)) h.line
  | @pop g key pool conn hpool hlast =>
      have hidle := h.idle _ (mem_of_lookup hpool)
      refine h.update (fun _ _ c hc => hidle c (List.mem_of_mem_dropLast hc)) ?_
      intro k c hc
      rcases Multiset.mem_add.mp hc with hc | hc
      · obtain ⟨rfl, rfl⟩ := Duty.line.inj (Multiset.mem_singleton.mp hc)
        exact hidle c (List.mem_of_getLast? hlast)
      · exact h.line k c (Multiset.mem_add.mpr (.inr hc))
  | @reserve g key pool hpool _ =>
      refine h.update (fun _ _ => h.idle _ (mem_of_lookup hpool)) ?_
      simpa using h.line
  | lose key conn =>
      refine ⟨h.idle, h.held, fun k c hc => ?_⟩
      exact h.line k c (by simpa using .inr (by simpa using hc))
  | forget key =>
      refine h.update (fun _ hpool => hpool) ?_
      intro k c hc
      exact h.line k c (by simpa using hc)
  | @issue g g' owner handle key conn conn' hissue hsocket hkey =>
      obtain ⟨registry, -, rfl⟩ := Gateway.issue_eq_ok hissue
      have hconn := hP conn conn' hsocket hkey (h.line key conn (by simp))
      refine ⟨h.idle, fun x hx => ?_, fun k c hc => ?_⟩
      · rcases List.mem_append.mp hx with hx | hx
        · exact h.held x hx
        · rw [List.mem_singleton.mp hx]
          exact hconn
      · exact h.line k c (by simpa using .inr (by simpa using hc))
  | miss => exact ⟨h.idle, h.held, fun k c hc => h.line k c (by simpa using hc)⟩
  | @take g r conn hconn =>
      refine ⟨h.idle, fun x hx => h.held x (List.mem_of_mem_filter hx), fun k c hc => ?_⟩
      rcases Multiset.mem_add.mp hc with hc | hc
      · obtain ⟨rfl, rfl⟩ := Duty.line.inj (Multiset.mem_singleton.mp hc)
        exact h.held _ (mem_of_lookup hconn)
      · exact h.line k c (Multiset.mem_add.mpr (.inr hc))
  | @park g key conn conn' hsocket hkey =>
      have hconn := hP conn conn' hsocket hkey (h.line key conn (by simp))
      refine h.update (fun pool hpool c hc => ?_) fun k c hc =>
        h.line k c (by simpa using .inr (by simpa using hc))
      rcases List.mem_append.mp hc with hc | hc
      · exact hpool c hc
      · exact List.mem_singleton.mp hc ▸ hconn
  | @touch g handle f hsocket hkey =>
      refine ⟨h.idle, fun x hx => ?_, h.line⟩
      obtain ⟨⟨k, conn⟩, hconn, rfl⟩ := List.mem_map.mp hx
      have hold := h.held (k, conn) hconn
      dsimp only
      split
      · exact hP conn (f conn) (hsocket conn) (hkey conn) hold
      · exact hold
  | seize => exact ⟨h.idle, h.held, fun k c hc => h.line k c (by simpa using hc)⟩
  | @lift g key pool conn idle hpool hidle =>
      have hold := h.idle _ (mem_of_lookup hpool)
      rw [hidle] at hold
      refine h.update (fun _ _ c hc => hold c (List.mem_cons_of_mem _ hc)) ?_
      intro k c hc
      simp only [Multiset.singleton_add, Multiset.mem_add, Multiset.mem_cons,
        Multiset.mem_singleton, Duty.line.injEq, reduceCtorEq, or_false] at hc
      rcases hc with ⟨rfl, rfl⟩ | hc
      · exact hold c List.mem_cons_self
      · exact h.line k c (Multiset.mem_add.mpr (.inr hc))
  | endProbe key =>
      refine h.update (fun _ hpool => hpool) ?_
      intro k c hc
      exact h.line k c (by simpa using hc)
  | @clear g key pool gone kept hpool hidle =>
      refine h.update (fun _ _ c hc => ?_) h.line
      exact h.idle _ (mem_of_lookup hpool) c (hidle.mem_iff.mpr (List.mem_append_right _ hc))

/-! ### Dials -/

/-- Only a request that opens a connection dials, and it dials with what it presents. -/
theorem Operation.demand_dial {g : Gateway} {op : Operation} {key : PoolKey}
    {password : Option String} (h : op.demand g = .dial key password) :
    ∃ order, op = checkout order .dialing ∧ order.credentials = (key, password) := by
  rcases op.demand_cases g with ⟨order, rfl⟩ | ⟨handle, use, conn, -, -, hcall⟩ | hhousekeeping
  · obtain ⟨rfl, rfl⟩ := Demand.dial.inj h
    exact ⟨order, rfl, rfl⟩
  · rw [h] at hcall
    rcases Exchange.call_cases g.config conn use with heq | ⟨_, heq⟩ | ⟨_, heq⟩ <;>
      · rw [heq] at hcall
        cases hcall
  · rw [h] at hhousekeeping
    exact hhousekeeping.elim

theorem Demand.Admits.opened_cases {opened : List Nat} {demand : Demand} {reply : Reply}
    (h : demand.Admits opened reply) :
    reply.opened = [] ∨ ∃ key password socket, demand = .dial key password ∧
      reply = .dialed (.ok socket) ∧ socket ∉ opened := by
  cases h with
  | @connected key password socket hfresh =>
      exact .inr ⟨key, password, socket, rfl, rfl, hfresh⟩
  | nothing | notice | pause | refused | dialOverrun | checked | checkOverrun | sent | received =>
      exact .inl rfl

theorem Move.mem_opened_of_origin? {m : Move} {socket : Nat} {c : PoolKey × Option String}
    (h : m.origin? socket = some c) : socket ∈ m.opened := by
  unfold origin? at h
  split at h
  · split at h
    · next heq => exact List.mem_singleton.mpr heq.symm
    · cases h
  · cases h

namespace Traffic

variable {config : PoolConfig} {t t' : Traffic}

theorem mem_opened_of_origin? {socket : Nat} {c : PoolKey × Option String}
    (h : t.origin? socket = some c) : socket ∈ t.opened := by
  obtain ⟨m, hm, horigin⟩ := List.exists_of_findSome?_eq_some h
  exact List.mem_flatMap.mpr ⟨m, hm, Move.mem_opened_of_origin? horigin⟩

theorem Invariant.origin?_of_mem (h : t.Invariant) {m : Move} (hm : m ∈ t.log) {socket : Nat}
    {c : PoolKey × Option String} (horigin : m.origin? socket = some c) :
    t.origin? socket = some c := by
  obtain ⟨later, earlier, hlog⟩ := List.append_of_mem hm
  have hnodup := h.opened
  rw [Traffic.opened, hlog, List.flatMap_append, List.flatMap_cons, List.nodup_append] at hnodup
  have hlater : later.findSome? (Move.origin? socket) = none := by
    apply List.findSome?_eq_none_iff.mpr
    intro m' hm'
    cases horigin' : m'.origin? socket with
    | none => rfl
    | some c' =>
        have hleft := List.mem_flatMap.mpr ⟨m', hm', Move.mem_opened_of_origin? horigin'⟩
        have hright := List.mem_append_left (earlier.flatMap Move.opened)
          (Move.mem_opened_of_origin? horigin)
        exact absurd rfl (hnodup.2.2 socket hleft socket hright)
  rw [Traffic.origin?, hlog, List.findSome?_append, hlater, List.findSome?_cons, horigin]
  rfl

/-- What a connection was dialed with stays known. -/
theorem Step.origin? (h : Step t t') {socket : Nat} {c : PoolKey × Option String}
    (horigin : t.origin? socket = some c) : t'.origin? socket = some c := by
  obtain ⟨m, hlog, hfresh⟩ := h.log
  have hnone : m.origin? socket = none := by
    rw [← Option.not_isSome_iff_eq_none, Option.isSome_iff_exists]
    rintro ⟨c', hc'⟩
    exact hfresh socket (Move.mem_opened_of_origin? hc') (mem_opened_of_origin? horigin)
  rw [Traffic.origin?, hlog, List.findSome?_cons, hnone]
  exact horigin

theorem Step.orders (h : Step t t') : t.orders ⊆ t'.orders := by
  obtain ⟨m, hlog, -⟩ := h.log
  rw [Traffic.orders, Traffic.orders, hlog]
  exact List.filterMap_subset _ (List.subset_cons_self m t.log)

/-- A connection has the key that it was dialed with. -/
def Labels (t : Traffic) (conn : PooledConnection) : Prop :=
  ∃ password, t.origin? conn.socket = some (conn.key, password)

theorem Labels.congr {conn conn' : PooledConnection} (h : t.Labels conn)
    (hsocket : conn'.socket = conn.socket) (hkey : conn'.key = conn.key) : t.Labels conn' := by
  unfold Labels
  rw [hsocket, hkey]
  exact h

/-- Where connections come from: every connection that was opened was dialed for a request without
faults, with what this request presents, and it still has the key it was dialed with. -/
structure Provenance (t : Traffic) : Prop where
  vouched : ∀ op ∈ t.flights, op.Vouched t.orders
  dialed : ∀ socket ∈ t.opened, ∃ order ∈ t.orders, order.request.validate = .ok () ∧
    t.origin? socket = some order.credentials
  labelled : Carries t.Labels t.gateway t.duties

theorem Provenance.init (config : PoolConfig) : (init config).Provenance where
  vouched _ hop := nomatch hop
  dialed _ hsocket := nomatch hsocket
  labelled := by
    refine ⟨fun _ hx => (nomatch hx), fun _ hx => (nomatch hx), fun _ _ hline => ?_⟩
    simp [Traffic.init, duties] at hline

/-- A step opens no connection, or a request gets the connection that it has dialed for. -/
theorem Step.opening (h : Step t t') :
    t'.opened = t.opened ∨ ∃ before after order now socket,
      t.flights = before ++ .checkout order .dialing :: after ∧
        t' = t.resume before (.checkout order .dialing) after now (.dialed (.ok socket)) := by
  cases h with
  | begin | attach | settle => exact .inl rfl
  | @resume before after op now reply hflights hadmits =>
      rcases hadmits.opened_cases with hnone | ⟨key, password, socket, hdemand, rfl, -⟩
      · left
        show Move.opened (.resume ..) ++ t.opened = t.opened
        rw [Move.opened_resume, hnone, List.nil_append]
      · obtain ⟨order, rfl, -⟩ := Operation.demand_dial hdemand
        exact .inr ⟨before, after, order, now, socket, hflights, rfl⟩

theorem Operation.Initial.vouched {op : Operation} (h : op.Initial) {orders : List Order}
    (hmade : ∀ order, op.order? = some order → order ∈ orders) : op.Vouched orders := by
  refine ⟨hmade, fun order stage hop hstage => ?_⟩
  cases h with
  | call call => cases call <;> cases hop; exact absurd rfl hstage
  | guarded => cases hop
  | retire => cases hop

theorem Step.vouched (hstep : Step t t') (h : ∀ op ∈ t.flights, op.Vouched t.orders) :
    ∀ op ∈ t'.flights, op.Vouched t'.orders := by
  have hold : ∀ op ∈ t.flights, op.Vouched t'.orders := fun op hop => (h op hop).mono hstep.orders
  cases hstep with
  | @begin op hinitial =>
      intro op' hop'
      rcases List.mem_append.mp hop' with hop' | hop'
      · exact hold op' hop'
      · obtain rfl := List.mem_singleton.mp hop'
        refine Operation.Initial.vouched hinitial fun order horder => ?_
        have hmove : (Move.begin op').order? = some order := horder
        show order ∈ List.filterMap Move.order? (.begin op' :: t.log)
        rw [List.filterMap_cons_some hmove]
        exact List.mem_cons_self
  | attach => exact hold
  | @resume before after op now reply hflights hadmits =>
      intro op' hop'
      rcases mem_flights_resume hflights hop' with hop' | hop'
      · exact hold op' hop'
      · exact (hold op (mem_flights hflights)).resume hop'
  | settle => exact hold

theorem Step.provenance (hstep : Step t t') (h : t.Provenance) : t'.Provenance := by
  have hdialed : ∀ socket ∈ t.opened, ∃ order ∈ t'.orders,
      order.request.validate = .ok () ∧ t'.origin? socket = some order.credentials := by
    intro socket hsocket
    obtain ⟨order, horder, hvalid, horigin⟩ := h.dialed socket hsocket
    exact ⟨order, hstep.orders horder, hvalid, hstep.origin? horigin⟩
  have hlabelled : Carries t'.Labels t.gateway t.duties :=
    h.labelled.mono fun _ ⟨password, horigin⟩ => ⟨password, hstep.origin? horigin⟩
  have hvouched := hstep.vouched h.vouched
  rcases hstep.opening with heq | ⟨before, after, order, now, socket, hflights, rfl⟩
  · -- Nothing is opened, so all connections are old ones.
    obtain ⟨gained, lost, hshift, hopened, -⟩ := hstep.shift
    have hgained : gained = [] := by
      rw [hopened] at heq
      exact List.append_left_eq_self.mp heq
    have hcarries := hshift.carries (fun _ _ hsocket hkey h => Labels.congr h hsocket hkey)
      (by simp [hgained]) 0 (by simpa using hlabelled)
    exact ⟨hvouched, fun s hs => hdialed s (heq ▸ hs), by simpa using hcarries⟩
  · -- The one new connection is that of the request, with the key of the request.
    have hnew : (t.resume before (.checkout order .dialing) after now
        (.dialed (.ok socket))).origin? socket = some order.credentials := by
      unfold Traffic.origin? Traffic.resume
      simp [Move.origin?, Operation.demand, Checkout.demand, Order.credentials]
    obtain ⟨hmade, hvalid⟩ := h.vouched (.checkout order .dialing) (by simp [hflights])
    refine ⟨hvouched, fun s hs => ?_, ?_⟩
    · rcases List.mem_cons.mp hs with rfl | hs
      · exact ⟨order, hstep.orders (hmade order rfl), hvalid order .dialing rfl (by simp), hnew⟩
      · exact hdialed s hs
    · rw [duties_of_flights hflights] at hlabelled
      rw [duties_resume]
      refine ⟨hlabelled.idle, hlabelled.held, fun key conn hconn => ?_⟩
      rcases Multiset.mem_add.mp hconn with hconn | hconn
      · obtain ⟨rfl, rfl⟩ := Duty.line.inj (Multiset.mem_singleton.mp hconn)
        exact ⟨order.request.password, hnew⟩
      · exact hlabelled.line key conn (Multiset.mem_add.mpr (.inr hconn))

theorem Reachable.provenance (h : Reachable config t) : t.Provenance := by
  induction h with
  | refl => exact Provenance.init config
  | tail _ hstep ih => exact hstep.provenance ih

end Traffic

end DatabaseGateway
