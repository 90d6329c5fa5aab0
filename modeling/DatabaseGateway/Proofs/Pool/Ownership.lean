import DatabaseGateway.Proofs.Pool.Ledger

/-!
Who owns a connection. A connection that is open is in one place at a time: it waits in a pool, or a
live handle has it, or one operation does, or it is left to a check that was given up. Only the
handle that has it sees traffic, and a handle that has lost it sees none.
-/

namespace DatabaseGateway

/-! ### Places -/

inductive Site where
  /-- It waits in a pool. -/
  | idle (key : PoolKey)
  /-- A live handle has it. -/
  | handle (h : Handle)
  /-- An operation in flight has it, the one at this position. -/
  | flight (index : Nat)
  /-- It is left to a check that was given up, the one at this position. -/
  | stray (index : Nat)
  deriving DecidableEq, Repr

def CheckIn.conn? : CheckIn → Option PooledConnection
  | .judging conn | .checking conn | .settling (some conn) => some conn
  | .taking | .settling none => none

/-- The connections that returns have, with the keys they were checked out for: the one that has
been taken from its handle, and those that are still to be taken. -/
def CheckIns.stock (g : Gateway) (c : CheckIns) : List (PoolKey × PooledConnection) :=
  c.stage.conn?.toList.map (c.current.key, ·) ++
    c.outstanding.flatMap fun r => (g.held? r.handle).toList.map (r.key, ·)

def Operation.stock (g : Gateway) : Operation → List (PoolKey × PooledConnection)
  | checkout order (.probing conn) | checkout order (.entering conn) => [(order.key, conn)]
  | sweep _ (.probing conn key _ _) | sweep _ (.settling (some conn) key _ _) => [(key, conn)]
  | returning returns _ | drain (.returning _ returns) => returns.stock g
  | _ => []

/-- A connection at its place, with the key of the pool that it is in or was taken from. -/
structure Placement where
  site : Site
  key : PoolKey
  conn : PooledConnection
  deriving DecidableEq, Repr

namespace Gateway

def idlePlacements (g : Gateway) : List Placement :=
  g.pools.flatMap fun (key, pool) => pool.idle.map (⟨.idle key, key, ·⟩)

def handlePlacements (g : Gateway) : List Placement :=
  g.registry.entries.flatMap fun (h, entry) =>
    (g.held? h).toList.map (⟨.handle h, entry.item, ·⟩)

end Gateway

namespace Traffic

def flightPlacements (t : Traffic) : List Placement :=
  t.flights.zipIdx.flatMap fun (op, index) =>
    (op.stock t.gateway).map fun (key, conn) => ⟨.flight index, key, conn⟩

def placements (t : Traffic) : List Placement :=
  t.gateway.idlePlacements ++ t.gateway.handlePlacements ++ t.flightPlacements

def sites (t : Traffic) : List (Site × Nat) :=
  t.placements.map (fun p => (p.site, p.conn.socket)) ++
    t.strays.zipIdx.map fun (socket, index) => (.stray index, socket)

end Traffic

/-! ### The places account for every open connection -/

def Duty.cellSockets (g : Gateway) : Duty → Multiset Nat
  | cell r => ↑((g.held? r.handle).toList.map (·.socket))
  | line .. | room _ | probe _ => 0

theorem Duty.tally_cellSockets_returned (g : Gateway) (returns : List Returned) :
    tally (cellSockets g) ↑(returns.map cell) =
      ↑(returns.flatMap fun r => (g.held? r.handle).toList.map (·.socket)) := by
  rw [tally_coe, List.map_map]
  induction returns with
  | nil => rfl
  | cons r returns ih =>
      rw [List.map_cons, List.sum_cons, ih, List.flatMap_cons, ← Multiset.coe_add]
      rfl

theorem CheckIns.map_stock (g : Gateway) (c : CheckIns) :
    (c.stock g).map (·.2.socket) = c.stage.conn?.toList.map (·.socket) ++
      c.outstanding.flatMap fun r => (g.held? r.handle).toList.map (·.socket) := by
  simp [stock, List.map_flatMap, Function.comp_def]

theorem CheckIns.stock_sockets (g : Gateway) (c : CheckIns) :
    (↑((c.stock g).map (·.2.socket)) : Multiset Nat) =
      Duty.tally Duty.sockets c.duties + Duty.tally (Duty.cellSockets g) c.duties := by
  have hwaiting := Duty.tally_cellSockets_returned g c.waiting
  rw [map_stock, outstanding, taken, duties, Duty.tally_add, Duty.tally_add,
    Duty.tally_returned fun _ => rfl, hwaiting, List.flatMap_append]
  cases c.stage with
  | taking => simp [CheckIn.conn?, CheckIn.duties, Duty.sockets, Duty.cellSockets]
  | judging | checking =>
      simp [CheckIn.conn?, CheckIn.duties, Duty.sockets, Duty.cellSockets]
  | settling conn =>
      cases conn <;> simp [CheckIn.conn?, CheckIn.duties, Duty.sockets, Duty.cellSockets]

theorem Operation.stock_sockets (g : Gateway) (op : Operation) :
    (↑((op.stock g).map (·.2.socket)) : Multiset Nat) =
      Duty.tally Duty.sockets op.duties + Duty.tally (Duty.cellSockets g) op.duties := by
  cases op with
  | checkout order stage =>
      cases stage <;> simp [stock, duties, Checkout.duties, Duty.sockets, Duty.cellSockets]
  | returning returns answer => exact returns.stock_sockets g
  | drain stage =>
      cases stage with
      | returning seized returns => exact returns.stock_sockets g
      | announce | poll | pause | seize | survey | clear => rfl
  | sweep removed stage =>
      cases stage with
      | settling conn =>
          cases conn <;> simp [stock, duties, Sweep.duties, Duty.sockets, Duty.cellSockets]
      | survey | enter | pick | probing =>
          simp [stock, duties, Sweep.duties, Duty.sockets, Duty.cellSockets]
  | exchange | release | teardown | reap | guarded | retire => rfl

theorem Duty.bind_tally_cells (g : Gateway) (D : Multiset Duty) :
    ((tally cells D).bind fun x => (↑((g.held? x.1).toList.map (·.socket)) : Multiset Nat)) =
      tally (cellSockets g) D := by
  induction D using Multiset.induction_on with
  | empty => rfl
  | cons d D ih =>
      rw [tally_cons, tally_cons, Multiset.add_bind, ih]
      cases d with
      | cell r => rw [cells, Multiset.singleton_bind, cellSockets]
      | line | room | probe => rfl

/-- What handles hold is at live handles or with the operations that take it back. -/
theorem Tabled.heldSockets_eq {g : Gateway} {D : Multiset Duty} (h : Tabled g D) :
    g.heldSockets =
      ↑(g.handlePlacements.map (·.conn.socket)) + Duty.tally (Duty.cellSockets g) D := by
  have hheld : g.held.map (·.2.socket) =
      (g.held.map fun x => (x.1, x.2.key)).flatMap fun x =>
        (g.held? x.1).toList.map (·.socket) := by
    rw [List.flatMap_map, List.map_eq_flatMap]
    apply List.flatMap_congr
    intro x hx
    have hlookup : g.held? x.1 = some x.2 := lookup_of_mem h.handles hx
    rw [hlookup]
    rfl
  have hhandles : g.handlePlacements.map (·.conn.socket) =
      (g.registry.entries.map fun x => (x.1, x.2.item)).flatMap fun x =>
        (g.held? x.1).toList.map (·.socket) := by
    simp [Gateway.handlePlacements, List.map_flatMap, List.flatMap_map, Function.comp_def]
  rw [Gateway.heldSockets, hheld, hhandles, ← Multiset.coe_bind, ← Multiset.coe_bind, h.entries,
    Multiset.add_bind, Duty.bind_tally_cells]

theorem Gateway.idlePlacements_sockets (g : Gateway) :
    (↑(g.idlePlacements.map (·.conn.socket)) : Multiset Nat) = g.idleSockets := by
  simp [idlePlacements, idleSockets, List.map_flatMap, Function.comp_def]

namespace Traffic

variable {config : PoolConfig} {t : Traffic}

theorem flightPlacements_sockets (t : Traffic) :
    (↑(t.flightPlacements.map (·.conn.socket)) : Multiset Nat) =
      Duty.tally Duty.sockets t.duties + Duty.tally (Duty.cellSockets t.gateway) t.duties := by
  have hmap : t.flightPlacements.map (·.conn.socket) =
      t.flights.flatMap fun op => (op.stock t.gateway).map (·.2.socket) := by
    conv_rhs => rw [← List.zipIdx_map_fst 0 t.flights, List.flatMap_map]
    simp [flightPlacements, List.map_flatMap, Function.comp_def]
  rw [hmap, tally_duties, tally_duties, ← List.sum_map_add]
  induction t.flights with
  | nil => rfl
  | cons op flights ih =>
      rw [List.flatMap_cons, ← Multiset.coe_add, ih, op.stock_sockets, List.map_cons,
        List.sum_cons]

/-- The places that the gateway knows of have what it has. -/
theorem Invariant.placements_eq (h : t.Invariant) :
    (↑(t.placements.map (·.conn.socket)) : Multiset Nat) = t.gateway.placed t.duties := by
  rw [placements, List.map_append, List.map_append, ← Multiset.coe_add, ← Multiset.coe_add,
    Gateway.idlePlacements_sockets, flightPlacements_sockets, Gateway.placed,
    h.coherent.tabled.heldSockets_eq]
  abel

/-- The places have every connection that has been opened and is not gone. -/
theorem Invariant.sites_eq (h : t.Invariant) :
    (↑(t.sites.map (·.2)) : Multiset Nat) = t.gateway.placed t.duties + ↑t.strays := by
  have hstrays : (t.strays.zipIdx.map fun x => (Site.stray x.2, x.1)).map (·.2) = t.strays := by
    rw [List.map_map]
    exact List.zipIdx_map_fst 0 t.strays
  have hplacements : t.sites.map (·.2) = t.placements.map (·.conn.socket) ++ t.strays := by
    rw [sites, List.map_append, List.map_map]
    exact congrArg (t.placements.map (·.conn.socket) ++ ·) hstrays
  rw [hplacements, ← Multiset.coe_add, h.placements_eq]

theorem Invariant.sites_perm (h : t.Invariant) : (t.sites.map (·.2)).Perm t.live := by
  have hopened : t.opened.Perm (t.sites.map (·.2) ++ t.ended) := by
    rw [← Multiset.coe_eq_coe, ← Multiset.coe_add, h.sites_eq, h.accounted, add_assoc]
  -- What is somewhere has not ended, as nothing is opened twice. So leaving out what has ended
  -- leaves exactly what is somewhere.
  have hnodup := hopened.nodup_iff.mp h.opened
  rw [List.nodup_append] at hnodup
  have hfilter := hopened.filter fun socket => decide (socket ∉ t.ended)
  have hsites : (t.sites.map (·.2)).filter (fun socket => decide (socket ∉ t.ended)) =
      t.sites.map (·.2) := by
    apply List.filter_eq_self.mpr
    intro socket hsocket
    simpa using fun hended => hnodup.2.2 socket hsocket socket hended rfl
  have hended : t.ended.filter (fun socket => decide (socket ∉ t.ended)) = [] := by
    apply List.filter_eq_nil_iff.mpr
    intro socket hsocket
    simpa using hsocket
  rw [List.filter_append, hsites, hended, List.append_nil] at hfilter
  exact hfilter.symm

theorem Invariant.sites_nodup (h : t.Invariant) : (t.sites.map (·.2)).Nodup :=
  h.sites_perm.nodup_iff.mpr (h.opened.filter _)

end Traffic

/-! ### Keys -/

theorem CheckIns.mem_stock {g : Gateway} {c : CheckIns} {key : PoolKey} {conn : PooledConnection}
    (h : (key, conn) ∈ c.stock g) :
    .line key conn ∈ c.duties ∨
      ∃ r, .cell r ∈ c.duties ∧ g.held? r.handle = some conn ∧ r.key = key := by
  rcases List.mem_append.mp h with h | h
  · obtain ⟨conn', hconn, heq⟩ := List.mem_map.mp h
    obtain ⟨rfl, rfl⟩ := Prod.mk.inj heq
    refine .inl (Multiset.mem_add.mpr (.inl ?_))
    cases hstage : c.stage with
    | taking => simp [hstage, CheckIn.conn?] at hconn
    | judging | checking => simpa [hstage, CheckIn.conn?, CheckIn.duties] using hconn
    | settling settled =>
        cases settled with
        | none => simp [hstage, CheckIn.conn?] at hconn
        | some => simpa [hstage, CheckIn.conn?, CheckIn.duties] using hconn
  · obtain ⟨r, hr, hconn⟩ := List.mem_flatMap.mp h
    obtain ⟨conn', hconn, heq⟩ := List.mem_map.mp hconn
    obtain ⟨rfl, rfl⟩ := Prod.mk.inj heq
    refine .inr ⟨r, Multiset.mem_add.mpr ?_, by simpa using hconn, rfl⟩
    rcases List.mem_append.mp hr with hr | hr
    · left
      cases hstage : c.stage with
      | taking =>
          rw [taken, hstage, List.mem_singleton] at hr
          simp [CheckIn.duties, hr]
      | judging | checking | settling => simp [taken, hstage] at hr
    · right
      simpa using hr

theorem Operation.mem_stock {g : Gateway} {op : Operation} {key : PoolKey}
    {conn : PooledConnection} (h : (key, conn) ∈ op.stock g) :
    .line key conn ∈ op.duties ∨
      ∃ r, .cell r ∈ op.duties ∧ g.held? r.handle = some conn ∧ r.key = key := by
  unfold stock at h
  split at h
  · obtain ⟨rfl, rfl⟩ := Prod.mk.inj (List.mem_singleton.mp h)
    exact .inl (by simp [duties, Checkout.duties])
  · obtain ⟨rfl, rfl⟩ := Prod.mk.inj (List.mem_singleton.mp h)
    exact .inl (by simp [duties, Checkout.duties])
  · obtain ⟨rfl, rfl⟩ := Prod.mk.inj (List.mem_singleton.mp h)
    exact .inl (by simp [duties, Sweep.duties])
  · obtain ⟨rfl, rfl⟩ := Prod.mk.inj (List.mem_singleton.mp h)
    exact .inl (by simp [duties, Sweep.duties])
  · exact CheckIns.mem_stock h
  · exact CheckIns.mem_stock h
  · cases h

namespace Traffic

variable {config : PoolConfig} {t : Traffic}

theorem Invariant.keyed (h : t.Invariant) {p : Placement} (hp : p ∈ t.placements) :
    p.conn.key = p.key := by
  have hk := h.coherent.keyed
  have ht := h.coherent.tabled
  rcases List.mem_append.mp hp with hp | hp
  · rcases List.mem_append.mp hp with hp | hp
    · obtain ⟨⟨key, pool⟩, hpool, hp⟩ := List.mem_flatMap.mp hp
      obtain ⟨conn, hconn, rfl⟩ := List.mem_map.mp hp
      exact hk.idle key pool (lookup_of_mem hk.keys hpool) conn hconn
    · obtain ⟨x, hx, hp⟩ := List.mem_flatMap.mp hp
      obtain ⟨conn, hconn, rfl⟩ := List.mem_map.mp hp
      obtain ⟨conn', hconn', hkey⟩ := ht.held?_of_entry hx
      rw [hconn', Option.toList_some, List.mem_singleton] at hconn
      exact hconn ▸ hkey
  · obtain ⟨⟨op, index⟩, hop, hp⟩ := List.mem_flatMap.mp hp
    obtain ⟨⟨key, conn⟩, hconn, rfl⟩ := List.mem_map.mp hp
    have hop := List.fst_mem_of_mem_zipIdx hop
    rcases Operation.mem_stock hconn with hline | ⟨r, hcell, hheld, rfl⟩
    · exact hk.line key conn (mem_duties hop hline)
    · obtain ⟨conn', hconn', hkey⟩ := ht.held?_of_mem (mem_duties hop hcell)
      obtain rfl : conn' = conn := Option.some.inj (hconn' ▸ hheld)
      exact hkey

end Traffic

/-! ### Traffic of guests -/

def Demand.guestSocket? : Demand → Option Nat
  | .send socket _ | .recv socket _ => some socket
  | .nothing | .dial .. | .check .. | .notice | .pause _ => none

/-- Only the use of a handle calls for a guest, and only on the connection that the handle has. -/
theorem Operation.guestSocket?_demand {g : Gateway} {op : Operation} {socket : Nat}
    (h : (op.demand g).guestSocket? = some socket) :
    ∃ handle use conn, op = exchange handle use .transfer ∧ g.held? handle = some conn ∧
      conn.socket = socket := by
  rcases op.demand_cases g with ⟨order, rfl⟩ | ⟨handle, use, conn, hop, hheld, hcall⟩ |
    hhousekeeping
  · cases h
  · refine ⟨handle, use, conn, hop, hheld, ?_⟩
    rw [hcall] at h
    rcases Exchange.call_cases g.config conn use with heq | ⟨_, heq⟩ | ⟨_, heq⟩ <;> rw [heq] at h
    · cases h
    · exact Option.some.inj h
    · exact Option.some.inj h
  · cases hdemand : op.demand g with
    | send | recv =>
        rw [hdemand] at hhousekeeping
        exact hhousekeeping.elim
    | nothing | dial | check | notice | pause =>
        rw [hdemand] at h
        cases h

/-- No connection is held by two handles. -/
theorem Traffic.Invariant.holder_unique {t : Traffic} (h : t.Invariant) {handle handle' : Handle}
    {conn conn' : PooledConnection} (hconn : t.gateway.held? handle = some conn)
    (hconn' : t.gateway.held? handle' = some conn') (hsocket : conn'.socket = conn.socket) :
    handle' = handle := by
  have hnodup : (t.gateway.held.map (·.2.socket)).Nodup := h.placed_nodup.1.2.1
  have hpair := List.inj_on_of_nodup_map hnodup (mem_of_lookup hconn') (mem_of_lookup hconn) hsocket
  exact congrArg Prod.fst hpair

/-! ### Releases -/

/-- A release of a live handle takes it out of the table, for good. -/
theorem Operation.release_accepted {g : Gateway} (hr : g.registry.Sound) {handle : Handle}
    {entry : Entry PoolKey} (hfind : g.registry.find? handle = some entry) (now : Instant)
    (reply : Reply) :
    ∃ registry, (release handle).resume g now reply =
        { gateway := { g with registry }
          next := .stage (returning { current := ⟨handle, entry.item⟩ } .done) } ∧
      registry.find? handle = none := by
  obtain ⟨registry, hremove⟩ := Registry.remove_of_find?_eq_some hfind
  refine ⟨registry, by simp [resume, hremove, takeBack, CheckIns.ofList?, CheckIns.returned], ?_⟩
  have hyields := Registry.remove_yields hremove
  have hnodup := (hyields.entries.map (·.1)).nodup_iff.mp hr.handles_nodup
  rw [List.map_append, List.map_singleton, List.singleton_append, List.nodup_cons] at hnodup
  exact (hyields.sound hr).find?_eq_none_iff.mpr hnodup.1

theorem Operation.release_refused {g : Gateway} {handle : Handle}
    (hfind : g.registry.find? handle = none) (now : Instant) (reply : Reply) :
    ∃ e : GatewayError, (release handle).resume g now reply =
        { gateway := g, next := .done (.error e) } ∧ e.kind = .closed := by
  refine ⟨g.registry.deadHandle handle, ?_, Registry.kind_deadHandle g.registry handle⟩
  simp [resume, Registry.remove_of_find?_eq_none hfind]

/-- What becomes of a handle, however many releases of it there are. -/
structure Traffic.Releases (t : Traffic) (handle : Handle) : Prop where
  /-- A release that finds the handle live takes it out of the table. -/
  accepted : ∀ entry, t.gateway.registry.find? handle = some entry → ∀ now reply, ∃ registry,
    (Operation.release handle).resume t.gateway now reply =
        { gateway := { t.gateway with registry }
          next := .stage (.returning { current := ⟨handle, entry.item⟩ } .done) } ∧
      registry.find? handle = none
  /-- Any other release fails and changes nothing. -/
  refused : t.gateway.registry.find? handle = none → ∀ now reply, ∃ e : GatewayError,
    (Operation.release handle).resume t.gateway now reply =
        { gateway := t.gateway, next := .done (.error e) } ∧ e.kind = .closed
  /-- No two releases are answered with success, and the connection is not taken back twice. -/
  once : t.answered.count handle ≤ 1 ∧ t.taken.count handle ≤ 1
  /-- Once the handle is gone and nobody is busy with it any more, one release has been answered
  with success and the connection has been taken back, unless the end of its instance or draining
  came first. -/
  exactly : handle ∈ t.issued → t.gateway.registry.find? handle = none → handle ∉ t.seized →
    handle ∉ t.releasing → handle ∉ t.outstanding →
    t.answered.count handle = 1 ∧ t.taken.count handle = 1

theorem Traffic.Reachable.releases {config : PoolConfig} {t : Traffic} (h : Reachable config t)
    (handle : Handle) : t.Releases handle := by
  have hsound := h.invariant.coherent.tabled.sound
  have hledger := h.ledger
  have hone := List.nodup_iff_count_le_one.mp hledger.nodup handle
  have htable := congrArg (Multiset.count handle) hledger.table
  have houtstanding := congrArg (Multiset.count handle) hledger.outstanding
  have hreleasing := congrArg (Multiset.count handle) hledger.releasing
  simp only [Multiset.count_add, Multiset.coe_count] at htable houtstanding hreleasing
  refine ⟨fun entry hfind now reply => Operation.release_accepted hsound hfind now reply,
    fun hfind now reply => Operation.release_refused hfind now reply, ⟨by omega, by omega⟩, ?_⟩
  intro hissued hfind hseized hidle hback
  have hpos := List.count_pos_iff.mpr hissued
  have hlive : (t.gateway.registry.entries.map (·.1)).count handle = 0 :=
    List.count_eq_zero.mpr (hsound.find?_eq_none_iff.mp hfind)
  rw [← List.count_eq_zero] at hseized hidle hback
  exact ⟨by omega, by omega⟩

/-! ### Ownership -/

/-- Every open connection has one owner, and only its handle makes calls on it. -/
structure Traffic.Ownership (t : Traffic) : Prop where
  /-- An open connection is in one place. -/
  placed : ∀ socket ∈ t.live, ∃! site, (site, socket) ∈ t.sites
  /-- It is there once, and what is in a place is open. -/
  once : (t.sites.map (·.2)).Nodup ∧ ∀ x ∈ t.sites, x.2 ∈ t.live
  /-- It has the key of the pool that it is in or was taken from. -/
  keyed : ∀ p ∈ t.placements, p.conn.key = p.key
  /-- A guest's call goes to the connection of the one handle that has it. -/
  guests : ∀ op ∈ t.flights, ∀ socket, (op.demand t.gateway).guestSocket? = some socket →
    ∃ handle use conn, op = .exchange handle use .transfer ∧
      t.gateway.held? handle = some conn ∧ conn.socket = socket ∧
      ∀ handle' conn', t.gateway.held? handle' = some conn' → conn'.socket = socket →
        handle' = handle
  /-- A handle that was removed and has no connection any more is one whose connection has been
  taken from it. -/
  emptied : ∀ handle, handle ∈ t.released ∨ handle ∈ t.seized →
    t.gateway.held? handle = none → handle ∈ t.taken
  /-- From then on, a use that had found the handle before fails without a call. -/
  lost : ∀ handle ∈ t.taken, ∀ use now reply,
    (Operation.exchange handle use .transfer).demand t.gateway = .nothing ∧
      (Operation.exchange handle use .transfer).resume t.gateway now reply =
        { gateway := t.gateway, next := .done (.error (.handleClosed handle)) } ∧
      (GatewayError.handleClosed handle).kind = .closed
  releases : ∀ handle, t.Releases handle

/-- Exclusive ownership, in every state that a gateway can come to. -/
theorem exclusive_ownership {config : PoolConfig} {t : Traffic} (h : Traffic.Reachable config t) :
    t.Ownership := by
  have hinv := h.invariant
  have hnodup := hinv.sites_nodup
  refine ⟨?_, ⟨hnodup, ?_⟩, fun p hp => hinv.keyed hp, ?_, fun handle => h.mem_taken, ?_,
    h.releases⟩
  · intro socket hsocket
    obtain ⟨⟨site, socket'⟩, hsite, rfl⟩ := List.mem_map.mp (hinv.sites_perm.mem_iff.mpr hsocket)
    refine ⟨site, hsite, fun site' hsite' => ?_⟩
    exact congrArg Prod.fst (List.inj_on_of_nodup_map hnodup hsite' hsite rfl)
  · intro x hx
    exact hinv.sites_perm.mem_iff.mp (List.mem_map_of_mem hx)
  · intro op _ socket hsocket
    obtain ⟨handle, use, conn, hop, hconn, rfl⟩ := Operation.guestSocket?_demand hsocket
    exact ⟨handle, use, conn, hop, hconn, rfl,
      fun handle' conn' hconn' heq => hinv.holder_unique hconn hconn' heq⟩
  · intro handle htaken use now reply
    obtain ⟨-, hheld⟩ := h.emptied htaken
    refine ⟨?_, ?_, rfl⟩
    · simp [Operation.demand, Exchange.demand, hheld]
    · simp [Operation.resume, Exchange.resume, Progress.lift, hheld, Except.map]

/-- A guest has found its handle for a send when the handle is closed twice. The first release has
taken the connection back, the second has been refused, and the send is about to be made. -/
def racedRun : List Traffic.Turn :=
  [.begin (.checkout ⟨1, sampleRequest⟩ .screen), .resume 0 0 .proceed, .resume 0 0 .proceed,
    .resume 0 0 .proceed, .resume 0 0 (.dialed (.ok 0)), .resume 0 0 .proceed,
    .begin (.exchange (Handle.make 0 1) (.send [1]) .fetch), .resume 0 0 .proceed,
    .begin (.release (Handle.make 0 1)), .begin (.release (Handle.make 0 1)),
    .resume 1 0 .proceed, .resume 2 0 .proceed, .resume 1 0 .proceed, .resume 1 0 .proceed,
    .resume 1 0 (.checked true), .resume 1 0 .proceed]

theorem exclusive_ownership_race :
    ∃ t, (Traffic.init {}).play? racedRun = some t ∧
      t.flights = [.exchange (Handle.make 0 1) (.send [1]) .transfer] ∧
      (∃! site, (site, 0) ∈ t.sites) ∧ t.answered.count (Handle.make 0 1) = 1 ∧
      t.taken.count (Handle.make 0 1) = 1 ∧
      (Operation.exchange (Handle.make 0 1) (.send [1]) .transfer).demand t.gateway =
        .nothing := by
  have hplay : (Traffic.init {}).play? racedRun =
      some (((Traffic.init {}).play? racedRun).get rfl) := rfl
  have howner := exclusive_ownership (Traffic.reachable_of_play? .refl hplay)
  obtain ⟨hanswered, htaken⟩ := (howner.releases (Handle.make 0 1)).exactly (by decide) (by decide)
    (by decide) (by decide) (by decide)
  exact ⟨_, hplay, rfl, howner.placed 0 (by decide), hanswered, htaken,
    (howner.lost (Handle.make 0 1) (by decide) (.send [1]) 0 .proceed).1⟩

end DatabaseGateway
