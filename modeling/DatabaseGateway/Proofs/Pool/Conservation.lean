import DatabaseGateway.Proofs.Pool.Holding

/-!
What no shift changes: the count of a pool is the number of its connections, wherever they are, and
no connection is lost or doubled.
-/

namespace DatabaseGateway

/-! ### Counts -/

/-- The count of a pool is the number of connections that wait in it, that handles hold, and that
operations in flight are busy with. -/
structure Counted (g : Gateway) (D : Multiset Duty) : Prop where
  total : ∀ key, (g.poolAt key).total =
    (g.poolAt key).idle.length + g.heldFor key + Duty.tally (Duty.fills key) D
  probing : ∀ key, (g.poolAt key).probing = Duty.tally (Duty.probes key) D
  capacity : ∀ key, (g.poolAt key).total ≤ (g.poolAt key).capacity

/-- Whoever fills a pool or probes it has one. -/
theorem Counted.exists_pool {g : Gateway} {d : Duty} {D : Multiset Duty} (h : Counted g ({d} + D))
    (key : PoolKey) (hpos : 0 < d.fills key + d.probes key) : ∃ pool, g.pool? key = some pool := by
  cases hpool : g.pool? key with
  | some pool => exact ⟨pool, rfl⟩
  | none =>
      have htotal := h.total key
      have hprobing := h.probing key
      rw [Duty.tally_add, Duty.tally_singleton] at htotal hprobing
      simp only [Gateway.poolAt, hpool, Option.getD_none] at htotal hprobing
      omega

theorem Counted.within {g : Gateway} {D : Multiset Duty} (h : Counted g D) {key : PoolKey}
    {pool : Pool} (hpool : g.pool? key = some pool) : pool.total ≤ pool.capacity := by
  have hcapacity := h.capacity key
  rwa [Gateway.poolAt_of_pool? hpool] at hcapacity

theorem Counted.update {g : Gateway} {D D' : Multiset Duty} {key : PoolKey} {pool : Pool}
    {f : Pool → Pool} (h : Counted g D) (hpool : g.pool? key = some pool)
    (htotal : (f pool).total + pool.idle.length + Duty.tally (Duty.fills key) D =
      pool.total + (f pool).idle.length + Duty.tally (Duty.fills key) D')
    (hprobing : (f pool).probing + Duty.tally (Duty.probes key) D =
      pool.probing + Duty.tally (Duty.probes key) D')
    (hcapacity : (f pool).total ≤ (f pool).capacity)
    (hothers : ∀ k, key ≠ k → Duty.tally (Duty.fills k) D' = Duty.tally (Duty.fills k) D ∧
      Duty.tally (Duty.probes k) D' = Duty.tally (Duty.probes k) D) :
    Counted (g.updatePool key f) D' := by
  have hold := Gateway.poolAt_of_pool? hpool
  have holdTotal := h.total key
  have holdProbing := h.probing key
  rw [hold] at holdTotal holdProbing
  refine ⟨fun k => ?_, fun k => ?_, fun k => ?_⟩
  · rw [Gateway.poolAt_updatePool hpool]
    show _ = _ + g.heldFor k + _
    split
    · next heq =>
        subst heq
        omega
    · next hne =>
        rw [(hothers k (Ne.symm hne)).1]
        exact h.total k
  · rw [Gateway.poolAt_updatePool hpool]
    split
    · next heq =>
        subst heq
        omega
    · next hne =>
        rw [(hothers k (Ne.symm hne)).2]
        exact h.probing k
  · rw [Gateway.poolAt_updatePool hpool]
    split
    · exact hcapacity
    · exact h.capacity k

theorem Counted.congr {g g' : Gateway} {D D' : Multiset Duty} (h : Counted g D)
    (hpools : g'.pools = g.pools)
    (hheld : ∀ key, g'.heldFor key + Duty.tally (Duty.fills key) D' =
      g.heldFor key + Duty.tally (Duty.fills key) D)
    (hprobes : ∀ key, Duty.tally (Duty.probes key) D' = Duty.tally (Duty.probes key) D) :
    Counted g' D' := by
  have hpool : ∀ key, g'.poolAt key = g.poolAt key := by
    intro key
    unfold Gateway.poolAt Gateway.pool?
    rw [hpools]
  refine ⟨fun key => ?_, fun key => ?_, fun key => ?_⟩
  · have htotal := h.total key
    have := hheld key
    rw [hpool]
    omega
  · rw [hpool, hprobes]
    exact h.probing key
  · rw [hpool]
    exact h.capacity key

theorem Counted.ensure {g : Gateway} {D : Multiset Duty} (h : Counted g D) (key : PoolKey)
    (size : Nat) : Counted (g.ensurePool key size) D := by
  have hpool : ∀ k, ((g.ensurePool key size).poolAt k).total = (g.poolAt k).total ∧
      ((g.ensurePool key size).poolAt k).idle = (g.poolAt k).idle ∧
      ((g.ensurePool key size).poolAt k).probing = (g.poolAt k).probing ∧
      (g.poolAt k).capacity ≤ ((g.ensurePool key size).poolAt k).capacity := by
    intro k
    unfold Gateway.poolAt
    rw [Gateway.pool?_ensurePool]
    by_cases heq : k = key
    · subst heq
      cases g.pool? k <;> simp
    · simp [heq]
  refine ⟨fun k => ?_, fun k => ?_, fun k => ?_⟩
  · rw [(hpool k).1, (hpool k).2.1, Gateway.heldFor, Gateway.held_ensurePool]
    exact h.total k
  · rw [(hpool k).2.2.1]
    exact h.probing k
  · rw [(hpool k).1]
    exact (h.capacity k).trans (hpool k).2.2.2

/-- The counts are right after every shift. -/
theorem Shift.counted {g g' : Gateway} {D D' : Multiset Duty} {gained lost : Multiset Nat}
    (hs : Shift g D gained lost g' D') (R : Multiset Duty) (ht : Tabled g (D + R))
    (hk : Keyed g (D + R)) (h : Counted g (D + R)) : Counted g' (D' + R) := by
  induction hs generalizing R with
  | rest => exact h
  | frame R' _ ih =>
      rw [add_assoc] at h ht hk ⊢
      exact ih (R' + R) ht hk h
  | trans hs _ ih ih' => exact ih' R (hs.tabled R ht) (hs.keyed R ht hk) (ih R ht hk h)
  | flag => exact h.congr rfl (fun _ => rfl) fun _ => rfl
  | @ensure g key size => exact h.ensure key size
  | @note g key pool _ hpool =>
      have hcapacity := h.within hpool
      exact h.update hpool rfl rfl hcapacity fun _ _ => ⟨rfl, rfl⟩
  | @pop g key pool conn hpool hlast =>
      have hcapacity := h.within hpool
      have hlength : pool.idle.length = pool.idle.dropLast.length + 1 := by
        have hne : pool.idle ≠ [] := by
          rintro hnil
          simp [hnil] at hlast
        rw [List.length_dropLast]
        have := List.length_pos_iff.mpr hne
        omega
      refine h.update hpool ?_ ?_ hcapacity ?_
      · simp only [Duty.tally_add, Duty.tally_singleton, Duty.tally_zero, Duty.fills, ↓reduceIte]
        omega
      · simp [Duty.probes]
      · intro k hne
        simp [Duty.fills, Duty.probes, hne]
  | @reserve g key pool hpool hroom =>
      refine h.update hpool ?_ ?_ hroom ?_
      · simp only [Duty.tally_add, Duty.tally_singleton, Duty.tally_zero, Duty.fills, ↓reduceIte]
        omega
      · simp [Duty.probes]
      · intro k hne
        simp [Duty.fills, Duty.probes, hne]
  | connect | lose =>
      exact h.congr rfl (fun _ => by simp [Duty.fills]) fun _ => by simp [Duty.probes]
  | @forget g key =>
      -- The room that is given back has been counted, so nothing is cut off at zero.
      obtain ⟨pool, hpool⟩ := h.exists_pool key (by simp [Duty.fills, Duty.probes])
      have hcapacity := h.within hpool
      have htotal := h.total key
      rw [Gateway.poolAt_of_pool? hpool] at htotal
      refine h.update hpool ?_ ?_ ?_ ?_
      · simp only [Duty.tally_add, Duty.tally_singleton, Duty.tally_zero, Duty.fills,
          ↓reduceIte] at htotal ⊢
        simp only [Pool.forget]
        omega
      · simp [Duty.probes, Pool.forget]
      · simp only [Pool.forget]
        omega
      · intro k hne
        simp [Duty.fills, Duty.probes, hne]
  | @issue g g' owner handle key conn conn' hissue _ hkey =>
      -- What is held is counted by the connection's key, so it has to be the key of the request.
      have hline := hk.line key conn (by simp)
      obtain ⟨registry, -, rfl⟩ := Gateway.issue_eq_ok hissue
      refine h.congr rfl (fun k => ?_) fun k => by simp [Duty.probes]
      rw [Gateway.heldFor, List.countP_append, ← Gateway.heldFor]
      simp only [List.countP_singleton, hkey, hline, decide_eq_true_eq, Duty.tally_add,
        Duty.tally_singleton, Duty.tally_zero, Duty.fills]
      omega
  | miss => exact h.congr rfl (fun _ => by simp [Duty.fills]) fun _ => by simp [Duty.probes]
  | @take g r conn hconn =>
      -- The connection is no longer held, but its slot stays filled: the cell becomes a line.
      obtain ⟨conn', hconn', hkey⟩ := ht.held?_of_cell
      obtain rfl : conn' = conn := Option.some.inj (hconn' ▸ hconn)
      refine h.congr rfl (fun k => ?_) fun k => by simp [Duty.probes]
      rw [Gateway.heldFor_takeHeld ht.handles hconn, hkey]
      simp only [Duty.tally_add, Duty.tally_singleton, Duty.fills]
      omega
  | @park g key conn conn' _ _ =>
      obtain ⟨pool, hpool⟩ := h.exists_pool key (by simp [Duty.fills, Duty.probes])
      have hcapacity := h.within hpool
      refine h.update hpool ?_ ?_ hcapacity ?_
      · simp only [Duty.tally_add, Duty.tally_singleton, Duty.tally_zero, Duty.fills, ↓reduceIte,
          Pool.park, List.length_append, List.length_singleton]
        omega
      · simp [Duty.probes, Pool.park]
      · intro k hne
        simp [Duty.fills, Duty.probes, hne]
  | @touch g handle f _ hkey =>
      exact h.congr rfl (fun k => by rw [Gateway.heldFor_updateHeld handle hkey]) fun _ => rfl
  | seize =>
      refine h.congr rfl (fun k => ?_) fun k => ?_
      · rw [Duty.tally_add, Duty.tally_returned fun _ => rfl]
        simp [Gateway.heldFor]
      · rw [Duty.tally_add, Duty.tally_returned fun _ => rfl, zero_add, zero_add]
  | @lift g key pool conn idle hpool hidle =>
      have hcapacity := h.within hpool
      refine h.update hpool ?_ ?_ hcapacity ?_
      · simp only [Duty.tally_add, Duty.tally_singleton, Duty.tally_zero, Duty.fills, ↓reduceIte,
          hidle, List.length_cons]
        omega
      · simp only [Duty.tally_add, Duty.tally_singleton, Duty.tally_zero, Duty.probes, ↓reduceIte]
        omega
      · intro k hne
        simp [Duty.fills, Duty.probes, hne]
  | @endProbe g key =>
      obtain ⟨pool, hpool⟩ := h.exists_pool key (by simp [Duty.fills, Duty.probes])
      have hcapacity := h.within hpool
      have hprobing := h.probing key
      rw [Gateway.poolAt_of_pool? hpool] at hprobing
      refine h.update hpool ?_ ?_ hcapacity ?_
      · simp [Duty.fills, Pool.endProbe]
      · simp only [Duty.tally_add, Duty.tally_singleton, Duty.tally_zero, Duty.probes,
          ↓reduceIte] at hprobing ⊢
        simp only [Pool.endProbe]
        omega
      · intro k hne
        simp [Duty.fills, Duty.probes, hne]
  | @clear g key pool gone kept hpool hidle =>
      have hcapacity := h.within hpool
      have htotal := h.total key
      have hlength := hidle.length_eq
      rw [Gateway.poolAt_of_pool? hpool] at htotal
      rw [List.length_append] at hlength
      refine h.update hpool ?_ rfl ?_ fun _ _ => ⟨rfl, rfl⟩
      · show pool.total - gone.length + _ + _ = pool.total + kept.length + _
        omega
      · show pool.total - gone.length ≤ pool.capacity
        omega

/-! ### Connections -/

/-- The laws about the shared state and the duties of all operations in flight. -/
structure Coherent (g : Gateway) (D : Multiset Duty) : Prop where
  tabled : Tabled g D
  keyed : Keyed g D
  counted : Counted g D

theorem Shift.coherent {g g' : Gateway} {D D' : Multiset Duty} {gained lost : Multiset Nat}
    (hs : Shift g D gained lost g' D') (R : Multiset Duty) (h : Coherent g (D + R)) :
    Coherent g' (D' + R) where
  tabled := hs.tabled R h.tabled
  keyed := hs.keyed R h.tabled h.keyed
  counted := hs.counted R h.tabled h.keyed h.counted

def Gateway.placed (g : Gateway) (D : Multiset Duty) : Multiset Nat :=
  g.idleSockets + g.heldSockets + Duty.tally Duty.sockets D

theorem placed_update {g : Gateway} {D D' : Multiset Duty} {key : PoolKey} {pool : Pool}
    {f : Pool → Pool} {gained lost : Multiset Nat} (hk : g.keys.Nodup)
    (hpool : g.pool? key = some pool) (out into kept : List PooledConnection)
    (hout : pool.idle.Perm (out ++ kept)) (hinto : (f pool).idle.Perm (into ++ kept))
    (hsockets : ↑(out.map (·.socket)) + Duty.tally Duty.sockets D + gained =
      ↑(into.map (·.socket)) + Duty.tally Duty.sockets D' + lost) :
    g.placed D + gained = (g.updatePool key f).placed D' + lost := by
  have hexchange := Gateway.idleSockets_exchange hk hpool hout hinto
  -- There is no subtraction, so what comes into the pool is added to both sides first.
  apply add_right_cancel (b := (↑(into.map (·.socket)) : Multiset Nat))
  calc g.placed D + gained + ↑(into.map (·.socket))
      = (g.idleSockets + ↑(into.map (·.socket))) + g.heldSockets +
          (Duty.tally Duty.sockets D + gained) := by
        unfold Gateway.placed
        abel
    _ = (g.updatePool key f).idleSockets + g.heldSockets +
          (↑(out.map (·.socket)) + Duty.tally Duty.sockets D + gained) := by
        rw [hexchange]
        abel
    _ = (g.updatePool key f).placed D' + lost + ↑(into.map (·.socket)) := by
        rw [hsockets]
        show _ = (g.updatePool key f).idleSockets + g.heldSockets + _ + lost + _
        abel

/-- No shift loses or doubles a connection: what is there afterwards and what has come to its end
is what was there before and what has been opened. -/
theorem Shift.placed {g g' : Gateway} {D D' : Multiset Duty} {gained lost : Multiset Nat}
    (hs : Shift g D gained lost g' D') (R : Multiset Duty) (h : Coherent g (D + R)) :
    g.placed (D + R) + gained = g'.placed (D' + R) + lost := by
  induction hs generalizing R with
  | rest => rfl
  | frame R' _ ih =>
      rw [add_assoc] at h ⊢
      rw [add_assoc]
      exact ih (R' + R) h
  | @trans g g₁ g₂ D D₁ D₂ gained gained' lost lost' hs _ ih ih' =>
      have h₁ := ih R h
      have h₂ := ih' R (hs.coherent R h)
      calc g.placed (D + R) + (gained + gained')
          = g₁.placed (D₁ + R) + gained' + lost := by
            rw [← add_assoc, h₁]
            abel
        _ = g₂.placed (D₂ + R) + (lost + lost') := by
            rw [h₂]
            abel
  | flag => rfl
  | ensure key size => simp [Gateway.placed, Gateway.heldSockets]
  | note _ hpool => exact placed_update h.keyed.keys hpool [] [] _ (.refl _) (.refl _) rfl
  | @pop g key pool conn hpool hlast =>
      have hout : pool.idle.Perm ([conn] ++ pool.idle.dropLast) := by
        conv_lhs => rw [← List.dropLast_append_getLast? conn hlast]
        exact List.perm_append_comm
      refine placed_update h.keyed.keys hpool [conn] [] _ hout (.refl _) ?_
      simp [Duty.sockets]
  | reserve hpool _ =>
      refine placed_update h.keyed.keys hpool [] [] _ (.refl _) (.refl _) ?_
      simp [Duty.sockets]
  | connect key socket now =>
      simp only [Gateway.placed, Duty.tally_add, Duty.tally_singleton, Duty.sockets]
      abel
  | lose key conn =>
      simp only [Gateway.placed, Duty.tally_add, Duty.tally_singleton, Duty.sockets]
      abel
  | @forget g key =>
      obtain ⟨pool, hpool⟩ := h.counted.exists_pool key (by simp [Duty.fills, Duty.probes])
      refine placed_update h.keyed.keys hpool [] [] _ (.refl _) (.refl _) ?_
      simp [Duty.sockets]
  | @issue g g' owner handle key conn conn' hissue hsocket _ =>
      obtain ⟨registry, -, rfl⟩ := Gateway.issue_eq_ok hissue
      have hheld : (↑((g.held ++ [(handle, conn')]).map (·.2.socket)) : Multiset Nat) =
          g.heldSockets + {conn.socket} := by
        rw [List.map_append, ← Multiset.coe_add, List.map_singleton, hsocket]
        rfl
      simp only [Gateway.placed, Duty.tally_add, Duty.tally_singleton, Duty.sockets]
      show _ = g.idleSockets + ↑((g.held ++ [(handle, conn')]).map (·.2.socket)) + _ + _
      rw [hheld]
      abel
  | miss => simp [Gateway.placed, Duty.sockets]
  | @take g r conn hconn =>
      have hperm := Gateway.held_perm_takeHeld h.tabled.handles hconn
      simp only [Gateway.placed, Gateway.heldSockets, Duty.tally_add, Duty.tally_singleton,
        Duty.sockets]
      rw [Multiset.coe_eq_coe.mpr (hperm.map _), List.map_cons, ← Multiset.cons_coe,
        ← Multiset.singleton_add]
      show _ = g.idleSockets + _ + _ + _
      abel
  | @park g key conn conn' hsocket _ =>
      obtain ⟨pool, hpool⟩ := h.counted.exists_pool key (by simp [Duty.fills, Duty.probes])
      have hinto : (pool.park conn').idle.Perm ([conn'] ++ pool.idle) :=
        List.perm_append_comm
      refine placed_update h.keyed.keys hpool [] [conn'] _ (.refl _) hinto ?_
      simp [Duty.sockets, hsocket]
  | @touch g handle f hsocket _ =>
      have hsockets : (g.updateHeld handle f).heldSockets = g.heldSockets := by
        unfold Gateway.heldSockets Gateway.updateHeld
        rw [List.map_map]
        congr 1
        apply List.map_congr_left
        rintro ⟨k, c⟩ -
        by_cases heq : k = handle <;> simp [heq, hsocket]
      unfold Gateway.placed
      rw [hsockets]
      rfl
  | seize =>
      unfold Gateway.placed
      rw [Duty.tally_add, Duty.tally_add, Duty.tally_returned fun _ => rfl]
      rfl
  | @lift g key pool conn idle hpool hidle =>
      refine placed_update h.keyed.keys hpool [conn] [] idle (.of_eq hidle) (.refl _) ?_
      simp [Duty.sockets]
  | @endProbe g key =>
      obtain ⟨pool, hpool⟩ := h.counted.exists_pool key (by simp [Duty.fills, Duty.probes])
      refine placed_update h.keyed.keys hpool [] [] _ (.refl _) (.refl _) ?_
      simp [Duty.sockets]
  | @clear g key pool gone kept hpool hidle =>
      refine placed_update h.keyed.keys hpool gone [] kept hidle (.refl _) ?_
      simp [add_comm]

end DatabaseGateway
