import DatabaseGateway.Proofs.Pool.Duty

/-!
Who holds what. Handles in the table and handles on their way back account for all that is held, and
every connection is only where its key belongs.

The laws are about the shared state together with the duties of all operations in flight. A shift
touches only some of the duties, so each law is stated with the others beside them.
-/

namespace DatabaseGateway

namespace Duty

/-- The handle that is out of the table, with the key it was issued for. -/
def cells : Duty → Multiset (Handle × PoolKey)
  | cell r => {(r.handle, r.key)}
  | line .. | room _ | probe _ => 0

def fills (key : PoolKey) : Duty → Nat
  | line k _ | room k => if k = key then 1 else 0
  | cell _ | probe _ => 0

def probes (key : PoolKey) : Duty → Nat
  | probe k => if k = key then 1 else 0
  | line .. | room _ | cell _ => 0

def sockets : Duty → Multiset Nat
  | line _ conn => {conn.socket}
  | room _ | cell _ | probe _ => 0

section Tally

variable {M : Type} [AddCommMonoid M]

def tally (f : Duty → M) (D : Multiset Duty) : M := (D.map f).sum

@[simp] theorem tally_zero (f : Duty → M) : tally f 0 = 0 := rfl

@[simp] theorem tally_add (f : Duty → M) (D D' : Multiset Duty) :
    tally f (D + D') = tally f D + tally f D' := by
  simp [tally]

@[simp] theorem tally_singleton (f : Duty → M) (d : Duty) : tally f {d} = f d := by
  simp [tally]

@[simp] theorem tally_cons (f : Duty → M) (d : Duty) (D : Multiset Duty) :
    tally f (d ::ₘ D) = f d + tally f D := by
  simp [tally]

theorem tally_coe (f : Duty → M) (l : List Duty) : tally f ↑l = (l.map f).sum := by
  simp [tally]

end Tally

theorem mem_sockets {D : Multiset Duty} {key : PoolKey} {conn : PooledConnection}
    (h : line key conn ∈ D) : conn.socket ∈ tally sockets D := by
  obtain ⟨D', rfl⟩ := Multiset.exists_cons_of_mem h
  rw [tally_cons]
  exact Multiset.mem_add.mpr (.inl (Multiset.mem_singleton_self _))

theorem tally_cells_returned (taken : List (Handle × Entry PoolKey)) :
    tally cells ↑((CheckIns.returned taken).map cell) =
      (↑(taken.map fun x => (x.1, x.2.item)) : Multiset (Handle × PoolKey)) := by
  rw [tally_coe]
  induction taken with
  | nil => rfl
  | cons x taken ih =>
      simp only [CheckIns.returned, List.map_cons, List.sum_cons] at ih ⊢
      rw [ih]
      rfl

theorem tally_returned {M : Type} [AddCommMonoid M] {f : Duty → M} (hf : ∀ r, f (cell r) = 0)
    (returns : List Returned) : tally f ↑(returns.map cell) = 0 := by
  rw [tally_coe, List.map_map]
  apply List.sum_eq_zero
  intro x hx
  obtain ⟨r, -, rfl⟩ := List.mem_map.mp hx
  exact hf r

end Duty

/-! ### Handles -/

/-- What handles hold: one connection for every live handle, and one for every handle that is on
its way back. -/
structure Tabled (g : Gateway) (D : Multiset Duty) : Prop where
  sound : g.registry.Sound
  handles : (g.held.map (·.1)).Nodup
  issued : ∀ x ∈ g.held, x.1.generation < g.registry.nextGeneration
  entries : (↑(g.held.map fun x => (x.1, x.2.key)) : Multiset (Handle × PoolKey)) =
    ↑(g.registry.entries.map fun x => (x.1, x.2.item)) + Duty.tally Duty.cells D

/-- Only handles, what they hold, and the handles on their way back matter. -/
theorem Tabled.congr {g g' : Gateway} {D D' : Multiset Duty} (h : Tabled g D)
    (hregistry : g'.registry = g.registry) (hheld : g'.held = g.held)
    (hcells : Duty.tally Duty.cells D' = Duty.tally Duty.cells D) : Tabled g' D' where
  sound := hregistry ▸ h.sound
  handles := hheld ▸ h.handles
  issued := by
    rw [hregistry, hheld]
    exact h.issued
  entries := by
    rw [hregistry, hheld, hcells]
    exact h.entries

theorem Tabled.held?_of_cell {g : Gateway} {D : Multiset Duty} {r : Returned}
    (h : Tabled g ({.cell r} + D)) :
    ∃ conn, g.held? r.handle = some conn ∧ conn.key = r.key := by
  have hmem : (r.handle, r.key) ∈ g.held.map fun x => (x.1, x.2.key) := by
    rw [← Multiset.mem_coe, h.entries]
    simp [Duty.cells]
  obtain ⟨⟨handle, conn⟩, hheld, heq⟩ := List.mem_map.mp hmem
  simp only [Prod.mk.injEq] at heq
  obtain ⟨rfl, hkey⟩ := heq
  exact ⟨conn, lookup_of_mem h.handles hheld, hkey⟩

theorem Tabled.held?_of_mem {g : Gateway} {D : Multiset Duty} {r : Returned} (h : Tabled g D)
    (hr : .cell r ∈ D) : ∃ conn, g.held? r.handle = some conn ∧ conn.key = r.key := by
  obtain ⟨D', rfl⟩ := Multiset.exists_cons_of_mem hr
  rw [← Multiset.singleton_add] at h
  exact h.held?_of_cell

theorem Tabled.held?_of_entry {g : Gateway} {D : Multiset Duty} (h : Tabled g D)
    {x : Handle × Entry PoolKey} (hx : x ∈ g.registry.entries) :
    ∃ conn, g.held? x.1 = some conn ∧ conn.key = x.2.item := by
  have hmem : (x.1, x.2.item) ∈ g.held.map fun x => (x.1, x.2.key) := by
    rw [← Multiset.mem_coe, h.entries, Multiset.mem_add, Multiset.mem_coe]
    exact .inl (List.mem_map.mpr ⟨x, hx, rfl⟩)
  obtain ⟨⟨handle, conn⟩, hheld, heq⟩ := List.mem_map.mp hmem
  simp only [Prod.mk.injEq] at heq
  exact ⟨conn, heq.1 ▸ lookup_of_mem h.handles hheld, heq.2⟩

theorem Tabled.fresh {g : Gateway} {D : Multiset Duty} (h : Tabled g D) {owner : InstanceId}
    {key : PoolKey} {handle : Handle} {registry : Registry PoolKey}
    (hinsert : g.registry.insert owner key = .ok (handle, registry)) :
    handle ∉ g.held.map (·.1) := by
  intro hmem
  obtain ⟨x, hx, rfl⟩ := List.mem_map.mp hmem
  have hlt := h.issued x hx
  rw [h.sound.insert_generation hinsert] at hlt
  exact Nat.lt_irrefl _ hlt

theorem Tabled.issue {g g' : Gateway} {D : Multiset Duty} (h : Tabled g D) {owner : InstanceId}
    {conn : PooledConnection} {handle : Handle} (hissue : g.issue owner conn = .ok (handle, g')) :
    Tabled g' D := by
  obtain ⟨registry, hinsert, rfl⟩ := Gateway.issue_eq_ok hissue
  have hnext := Registry.insert_nextGeneration hinsert
  refine ⟨h.sound.insert hinsert, ?_, ?_, ?_⟩
  · rw [List.map_append, List.nodup_append]
    refine ⟨h.handles, by simp, ?_⟩
    intro a ha b hb hab
    simp only [List.map_cons, List.map_nil, List.mem_singleton] at hb
    exact h.fresh hinsert (hb ▸ hab ▸ ha)
  · intro x hx
    show x.1.generation < registry.nextGeneration
    rw [hnext]
    rcases List.mem_append.mp hx with hx | hx
    · exact Nat.lt_succ_of_lt (h.issued x hx)
    · rw [List.mem_singleton.mp hx, h.sound.insert_generation hinsert]
      exact Nat.lt_succ_self _
  · have hentries := ((h.sound.insert_entries hinsert).map fun x => (x.1, x.2.item))
    have hheld := h.entries
    show ((g.held ++ [(handle, conn)]).map fun x => (x.1, x.2.key) :
      Multiset (Handle × PoolKey)) = _
    rw [Multiset.coe_eq_coe.mpr hentries, List.map_append, ← Multiset.coe_add, hheld]
    simp only [List.map_cons, List.map_nil, ← Multiset.cons_coe, Multiset.coe_nil]
    rw [← Multiset.singleton_add, ← Multiset.singleton_add]
    abel

theorem Tabled.take {g : Gateway} {D : Multiset Duty} {r : Returned} {conn : PooledConnection}
    (h : Tabled g ({.cell r} + D)) (hconn : g.held? r.handle = some conn) :
    Tabled (g.takeHeld r.handle) D := by
  have hperm := Gateway.held_perm_takeHeld h.handles hconn
  refine ⟨h.sound, ?_, ?_, ?_⟩
  · have hnd := ((hperm.map (·.1)).nodup_iff).mp h.handles
    exact (List.nodup_cons.mp hnd).2
  · intro x hx
    exact h.issued x (hperm.mem_iff.mpr (List.mem_cons_of_mem _ hx))
  · have hheld := h.entries
    obtain ⟨conn', hconn', hkey⟩ := h.held?_of_cell
    obtain rfl : conn' = conn := Option.some.inj (hconn' ▸ hconn)
    rw [Multiset.coe_eq_coe.mpr (hperm.map _)] at hheld
    simp only [List.map_cons, ← Multiset.cons_coe, Duty.tally_add, Duty.tally_singleton,
      Duty.cells, hkey] at hheld
    rw [← Multiset.singleton_add, add_left_comm] at hheld
    exact add_left_cancel hheld

theorem Tabled.touch {g : Gateway} {D : Multiset Duty} (h : Tabled g D) (handle : Handle)
    {f : PooledConnection → PooledConnection} (hkey : ∀ conn, (f conn).key = conn.key) :
    Tabled (g.updateHeld handle f) D := by
  have hhandles : (g.updateHeld handle f).held.map (·.1) = g.held.map (·.1) :=
    keys_alter g.held handle f
  have hpairs : (g.updateHeld handle f).held.map (fun x => (x.1, x.2.key)) =
      g.held.map fun x => (x.1, x.2.key) := by
    unfold Gateway.updateHeld
    rw [List.map_map]
    apply List.map_congr_left
    rintro ⟨k, c⟩ -
    by_cases hk : k = handle <;> simp [hk, hkey]
  refine ⟨h.sound, hhandles ▸ h.handles, ?_, hpairs ▸ h.entries⟩
  intro x hx
  have hmem : x.1 ∈ g.held.map (·.1) := hhandles ▸ List.mem_map_of_mem hx
  obtain ⟨y, hy, hxy⟩ := List.mem_map.mp hmem
  exact hxy ▸ h.issued y hy

theorem Tabled.seize {g : Gateway} {D : Multiset Duty} (h : Tabled g D)
    {taken : List (Handle × Entry PoolKey)} {registry : Registry PoolKey}
    (hyields : g.registry.Yields taken registry) :
    Tabled { g with registry } (↑((CheckIns.returned taken).map Duty.cell) + D) := by
  refine ⟨hyields.sound h.sound, h.handles, ?_, ?_⟩
  · show ∀ x ∈ g.held, x.1.generation < registry.nextGeneration
    rw [hyields.nextGeneration]
    exact h.issued
  · have hentries := hyields.entries.map fun x => (x.1, x.2.item)
    have hheld := h.entries
    rw [Multiset.coe_eq_coe.mpr hentries, List.map_append, ← Multiset.coe_add] at hheld
    rw [Duty.tally_add, Duty.tally_cells_returned]
    show (g.held.map fun x => (x.1, x.2.key) : Multiset (Handle × PoolKey)) = _
    rw [hheld]
    abel

/-- Handles keep what they hold through every shift. -/
theorem Shift.tabled {g g' : Gateway} {D D' : Multiset Duty} {gained lost : Multiset Nat}
    (hs : Shift g D gained lost g' D') (R : Multiset Duty) (h : Tabled g (D + R)) :
    Tabled g' (D' + R) := by
  induction hs generalizing R with
  | rest => exact h
  | frame R' _ ih =>
      rw [add_assoc] at h ⊢
      exact ih (R' + R) h
  | trans _ _ ih ih' => exact ih' R (ih R h)
  | flag => exact h.congr rfl rfl rfl
  | ensure key size => exact h.congr (by simp) (by simp) rfl
  | issue hissue =>
      have hrest : Tabled _ R := h.congr rfl rfl (by simp [Duty.cells])
      exact (hrest.issue hissue).congr rfl rfl (by simp)
  | miss hnone =>
      -- A handle on its way back always holds something.
      obtain ⟨conn, hconn, -⟩ := h.held?_of_cell
      rw [hnone] at hconn
      cases hconn
  | take hconn => exact (h.take hconn).congr rfl rfl (by simp [Duty.cells])
  | touch handle _ hkey => exact h.touch handle hkey
  | seize hyields =>
      rw [zero_add] at h
      exact h.seize hyields
  | note | pop | reserve | connect | lose | forget | park | lift | endProbe | clear =>
      exact h.congr rfl rfl (by simp [Duty.cells])

/-! ### Keys -/

/-- Every pool has its own key, and a connection is only where its key belongs. -/
structure Keyed (g : Gateway) (D : Multiset Duty) : Prop where
  keys : g.keys.Nodup
  idle : ∀ key pool, g.pool? key = some pool → ∀ conn ∈ pool.idle, conn.key = key
  line : ∀ key conn, Duty.line key conn ∈ D → conn.key = key

theorem Keyed.update {g : Gateway} {D D' : Multiset Duty} {key : PoolKey} {f : Pool → Pool}
    (h : Keyed g D)
    (hidle : ∀ pool, g.pool? key = some pool → ∀ conn ∈ (f pool).idle, conn.key = key)
    (hline : ∀ k conn, Duty.line k conn ∈ D' → conn.key = k) : Keyed (g.updatePool key f) D' where
  keys := by
    rw [Gateway.keys_updatePool]
    exact h.keys
  idle key' pool hpool := by
    rw [Gateway.pool?_updatePool] at hpool
    split at hpool
    · next heq =>
        subst heq
        obtain ⟨old, hold, rfl⟩ := Option.map_eq_some_iff.mp hpool
        exact hidle old hold
    · exact h.idle key' pool hpool
  line := hline

/-- Every connection stays where its key belongs. -/
theorem Shift.keyed {g g' : Gateway} {D D' : Multiset Duty} {gained lost : Multiset Nat}
    (hs : Shift g D gained lost g' D') (R : Multiset Duty) (ht : Tabled g (D + R))
    (h : Keyed g (D + R)) : Keyed g' (D' + R) := by
  induction hs generalizing R with
  | rest => exact h
  | frame R' _ ih =>
      rw [add_assoc] at h ht ⊢
      exact ih (R' + R) ht h
  | trans hs _ ih ih' => exact ih' R (hs.tabled R ht) (ih R ht h)
  | flag => exact ⟨h.keys, h.idle, h.line⟩
  | @ensure g key size =>
      refine ⟨Gateway.nodup_keys_ensurePool h.keys size, ?_, h.line⟩
      intro key' pool hpool conn hconn
      rw [Gateway.pool?_ensurePool] at hpool
      split at hpool
      · next heq =>
          subst heq
          obtain rfl := Option.some.inj hpool
          cases hold : g.pool? key' with
          | none => simp [hold] at hconn
          | some old =>
              simp only [hold, Option.getD_some] at hconn
              exact h.idle key' old hold conn hconn
      · exact h.idle key' pool hpool conn hconn
  | @note g key pool _ hpool =>
      exact h.update (fun _ _ => h.idle key pool hpool) h.line
  | @pop g key pool conn hpool hlast =>
      have hidle := h.idle key pool hpool
      refine h.update (fun _ _ c hc => hidle c (List.mem_of_mem_dropLast hc)) ?_
      intro k c hc
      rcases Multiset.mem_add.mp hc with hc | hc
      · obtain ⟨rfl, rfl⟩ := Duty.line.inj (Multiset.mem_singleton.mp hc)
        exact hidle c (List.mem_of_getLast? hlast)
      · exact h.line k c (Multiset.mem_add.mpr (.inr hc))
  | @reserve g key pool hpool _ =>
      refine h.update (fun _ _ => h.idle key pool hpool) ?_
      simpa using h.line
  | connect key socket now =>
      refine ⟨h.keys, h.idle, ?_⟩
      intro k c hc
      rcases Multiset.mem_add.mp hc with hc | hc
      · obtain ⟨rfl, rfl⟩ := Duty.line.inj (Multiset.mem_singleton.mp hc)
        rfl
      · exact h.line k c (Multiset.mem_add.mpr (.inr hc))
  | lose key conn =>
      refine ⟨h.keys, h.idle, ?_⟩
      intro k c hc
      exact h.line k c (by simpa using .inr (by simpa using hc))
  | forget key =>
      refine h.update (fun pool hpool => h.idle key pool hpool) ?_
      intro k c hc
      exact h.line k c (by simpa using hc)
  | issue hissue _ _ =>
      obtain ⟨registry, -, rfl⟩ := Gateway.issue_eq_ok hissue
      refine ⟨h.keys, h.idle, ?_⟩
      intro k c hc
      exact h.line k c (by simpa using .inr (by simpa using hc))
  | miss => exact ⟨h.keys, h.idle, fun k c hc => h.line k c (by simpa using hc)⟩
  | @take g r conn hconn =>
      refine ⟨h.keys, h.idle, ?_⟩
      intro k c hc
      rcases Multiset.mem_add.mp hc with hc | hc
      · obtain ⟨rfl, rfl⟩ := Duty.line.inj (Multiset.mem_singleton.mp hc)
        obtain ⟨conn, hconn', hkey⟩ := ht.held?_of_cell
        obtain rfl : conn = c := Option.some.inj (hconn' ▸ hconn)
        exact hkey
      · exact h.line k c (Multiset.mem_add.mpr (.inr hc))
  | @park g key conn conn' _ hkey =>
      refine h.update ?_ fun k c hc => h.line k c (by simpa using .inr (by simpa using hc))
      intro pool hpool c hc
      rcases List.mem_append.mp hc with hc | hc
      · exact h.idle key pool hpool c hc
      · rw [List.mem_singleton.mp hc, hkey]
        exact h.line key conn (by simp)
  | touch => exact ⟨h.keys, h.idle, h.line⟩
  | seize => exact ⟨h.keys, h.idle, fun k c hc => h.line k c (by simpa using hc)⟩
  | @lift g key pool conn idle hpool hidle =>
      have hold := h.idle key pool hpool
      rw [hidle] at hold
      refine h.update (fun _ _ c hc => hold c (List.mem_cons_of_mem _ hc)) ?_
      intro k c hc
      simp only [Multiset.singleton_add, Multiset.mem_add, Multiset.mem_cons,
        Multiset.mem_singleton, Duty.line.injEq, reduceCtorEq, or_false] at hc
      rcases hc with ⟨rfl, rfl⟩ | hc
      · exact hold c List.mem_cons_self
      · exact h.line k c (Multiset.mem_add.mpr (.inr hc))
  | endProbe key =>
      refine h.update (fun pool hpool => h.idle key pool hpool) ?_
      intro k c hc
      exact h.line k c (by simpa using hc)
  | @clear g key pool gone kept hpool hidle =>
      refine h.update ?_ h.line
      intro _ _ c hc
      exact h.idle key pool hpool c (hidle.mem_iff.mpr (List.mem_append_right _ hc))

end DatabaseGateway
