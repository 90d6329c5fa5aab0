import DatabaseGateway.Pool.Gateway
import Mathlib.Data.List.Nodup
import Mathlib.Data.List.Perm.Basic
import Mathlib.Data.Multiset.Bind
import Mathlib.Data.Multiset.Basic
import Mathlib.Tactic.Abel

/-!
The shared state read back after a change. Pools and held connections are association lists; a
change at one key is seen at that key and nowhere else.
-/

namespace DatabaseGateway

/-! ### Association lists -/

section Association

variable {κ β : Type} [DecidableEq κ]

theorem lookup_alter (l : List (κ × β)) (key key' : κ) (f : β → β) :
    (l.map fun (k, b) => if k = key then (k, f b) else (k, b)).lookup key' =
      if key' = key then (l.lookup key').map f else l.lookup key' := by
  induction l with
  | nil => simp
  | cons x l ih =>
      obtain ⟨k, b⟩ := x
      by_cases hk : k = key
      · subst hk
        by_cases hk' : key' = k
        · simp [hk']
        · simp only [List.map_cons, if_true, List.lookup_cons, beq_eq_false_iff_ne.mpr hk', ih,
            if_neg hk']
      · by_cases hk' : key' = k
        · subst hk'
          simp [hk]
        · simp only [List.map_cons, if_neg hk, List.lookup_cons, beq_eq_false_iff_ne.mpr hk', ih]

theorem keys_alter (l : List (κ × β)) (key : κ) (f : β → β) :
    (l.map fun (k, b) => if k = key then (k, f b) else (k, b)).map (·.1) = l.map (·.1) := by
  rw [List.map_map]
  apply List.map_congr_left
  rintro ⟨k, b⟩ -
  by_cases hk : k = key <;> simp [hk]

theorem mem_of_lookup {l : List (κ × β)} {key : κ} {b : β} (h : l.lookup key = some b) :
    (key, b) ∈ l := by
  obtain ⟨l₁, l₂, rfl, -⟩ := List.lookup_eq_some_iff.mp h
  simp

theorem lookup_of_mem {l : List (κ × β)} (hl : (l.map (·.1)).Nodup) {key : κ} {b : β}
    (h : (key, b) ∈ l) : l.lookup key = some b := by
  induction l with
  | nil => cases h
  | cons x l ih =>
      obtain ⟨k, c⟩ := x
      simp only [List.map_cons, List.nodup_cons, List.mem_map, Prod.exists, exists_and_right,
        exists_eq_right, not_exists] at hl
      rcases List.mem_cons.mp h with heq | hmem
      · simp only [Prod.mk.injEq] at heq
        simp [heq.1, heq.2]
      · have hne : key ≠ k := by
          rintro rfl
          exact hl.1 b hmem
        simp only [List.lookup_cons, beq_eq_false_iff_ne.mpr hne]
        exact ih hl.2 hmem

theorem perm_cons_filter {l : List (κ × β)} (hl : (l.map (·.1)).Nodup) {key : κ} {b : β}
    (h : (key, b) ∈ l) : l.Perm ((key, b) :: l.filter fun x => x.1 ≠ key) := by
  obtain ⟨before, after, rfl⟩ := List.append_of_mem h
  rw [List.map_append, List.map_cons, List.nodup_append, List.nodup_cons] at hl
  have hbefore : before.filter (fun x => decide (x.1 ≠ key)) = before := by
    apply List.filter_eq_self.mpr
    intro x hx
    simpa using hl.2.2 x.1 (List.mem_map_of_mem hx) key List.mem_cons_self
  have hafter : after.filter (fun x => decide (x.1 ≠ key)) = after := by
    apply List.filter_eq_self.mpr
    intro x hx
    have hne : x.1 ≠ key := fun hk => hl.2.1.1 (List.mem_map.mpr ⟨x, hx, hk⟩)
    simpa using hne
  rw [List.filter_append, List.filter_cons_of_neg (by simp), hbefore, hafter]
  exact List.perm_middle

theorem filter_alter (l : List (κ × β)) (key : κ) (f : β → β) :
    (l.map fun (k, b) => if k = key then (k, f b) else (k, b)).filter (fun x => x.1 ≠ key) =
      l.filter fun x => x.1 ≠ key := by
  induction l with
  | nil => rfl
  | cons x l ih =>
      obtain ⟨k, b⟩ := x
      rw [List.map_cons, List.filter_cons, List.filter_cons, ih]
      by_cases hk : k = key <;> simp [hk]

theorem alter_perm_cons_filter {l : List (κ × β)} (hl : (l.map (·.1)).Nodup) {key : κ} {b : β}
    (h : l.lookup key = some b) (f : β → β) :
    (l.map fun (k, b) => if k = key then (k, f b) else (k, b)).Perm
      ((key, f b) :: l.filter fun x => x.1 ≠ key) := by
  rw [← filter_alter l key f]
  apply perm_cons_filter
  · rw [keys_alter]
    exact hl
  · apply mem_of_lookup
    rw [lookup_alter, if_pos rfl, h]
    rfl

end Association

namespace Gateway

variable {g : Gateway} {key key' : PoolKey} {handle handle' : Handle}

/-! ### Pools -/

theorem pool?_updatePool (g : Gateway) (key key' : PoolKey) (f : Pool → Pool) :
    (g.updatePool key f).pool? key' = if key' = key then (g.pool? key').map f else g.pool? key' :=
  lookup_alter g.pools key key' f

@[simp] theorem keys_updatePool (g : Gateway) (key : PoolKey) (f : Pool → Pool) :
    (g.updatePool key f).keys = g.keys :=
  keys_alter g.pools key f

@[simp] theorem registry_updatePool (g : Gateway) (key : PoolKey) (f : Pool → Pool) :
    (g.updatePool key f).registry = g.registry := rfl

@[simp] theorem held_updatePool (g : Gateway) (key : PoolKey) (f : Pool → Pool) :
    (g.updatePool key f).held = g.held := rfl

@[simp] theorem config_updatePool (g : Gateway) (key : PoolKey) (f : Pool → Pool) :
    (g.updatePool key f).config = g.config := rfl

theorem updatePool_updatePool (g : Gateway) (key : PoolKey) (f f' : Pool → Pool) :
    (g.updatePool key f).updatePool key f' = g.updatePool key fun p => f' (f p) := by
  unfold updatePool
  simp only [List.map_map, Gateway.mk.injEq, and_true, true_and]
  apply List.map_congr_left
  rintro ⟨k, p⟩ -
  by_cases hk : k = key <;> simp [hk]

theorem mem_keys_iff : key ∈ g.keys ↔ ∃ pool, g.pool? key = some pool := by
  unfold keys pool?
  constructor
  · intro h
    obtain ⟨⟨k, p⟩, hmem, rfl⟩ := List.mem_map.mp h
    cases hlookup : g.pools.lookup k with
    | none =>
        have := List.lookup_eq_none_iff.mp hlookup (k, p) hmem
        simp at this
    | some pool => exact ⟨pool, rfl⟩
  · rintro ⟨pool, h⟩
    exact List.mem_map_of_mem (mem_of_lookup h)

theorem pool?_ensurePool (g : Gateway) (key key' : PoolKey) (size : Nat) :
    (g.ensurePool key size).pool? key' =
      if key' = key then some ((g.pool? key).getD { capacity := min size g.config.maxSize })
      else g.pool? key' := by
  unfold ensurePool
  split
  · next pool hpool =>
      split
      · next heq => simp [heq, hpool]
      · rfl
  · next hpool =>
      unfold pool? at hpool ⊢
      rw [List.lookup_append]
      split
      · next heq => simp [heq, hpool]
      · next hne => simp [List.lookup_cons, beq_eq_false_iff_ne.mpr hne]

/-- The pool of a key. A key that has not been asked for counts as an empty pool without room. -/
def poolAt (g : Gateway) (key : PoolKey) : Pool := (g.pool? key).getD { capacity := 0 }

theorem poolAt_of_pool? {pool : Pool} (h : g.pool? key = some pool) : g.poolAt key = pool := by
  rw [poolAt, h]
  rfl

theorem poolAt_updatePool {pool : Pool} (h : g.pool? key = some pool) (f : Pool → Pool)
    (key' : PoolKey) :
    (g.updatePool key f).poolAt key' = if key' = key then f pool else g.poolAt key' := by
  unfold poolAt
  rw [pool?_updatePool]
  by_cases heq : key' = key
  · subst heq
    simp [h]
  · simp [heq]

@[simp] theorem registry_ensurePool (g : Gateway) (key : PoolKey) (size : Nat) :
    (g.ensurePool key size).registry = g.registry := by
  unfold ensurePool
  split <;> rfl

@[simp] theorem held_ensurePool (g : Gateway) (key : PoolKey) (size : Nat) :
    (g.ensurePool key size).held = g.held := by
  unfold ensurePool
  split <;> rfl

@[simp] theorem config_ensurePool (g : Gateway) (key : PoolKey) (size : Nat) :
    (g.ensurePool key size).config = g.config := by
  unfold ensurePool
  split <;> rfl

theorem nodup_keys_ensurePool (h : g.keys.Nodup) (size : Nat) :
    (g.ensurePool key size).keys.Nodup := by
  unfold ensurePool
  split
  · exact h
  · next hpool =>
      have hnot : key ∉ g.keys := by
        rw [mem_keys_iff]
        rintro ⟨pool, hsome⟩
        rw [hpool] at hsome
        cases hsome
      unfold keys at hnot ⊢
      rw [List.map_append, List.nodup_append]
      refine ⟨h, by simp, ?_⟩
      intro k hk k' hk' heq
      simp only [List.map_cons, List.map_nil, List.mem_singleton] at hk'
      exact hnot (hk' ▸ heq ▸ hk)

def idleSockets (g : Gateway) : Multiset Nat :=
  ↑(g.pools.flatMap fun (_, p) => p.idle.map (·.socket))

theorem mem_idleSockets {pool : Pool} (h : g.pool? key = some pool) {conn : PooledConnection}
    (hconn : conn ∈ pool.idle) : conn.socket ∈ g.idleSockets :=
  List.mem_flatMap.mpr ⟨(key, pool), mem_of_lookup h, List.mem_map_of_mem hconn⟩

/-- A change of one pool exchanges the connections that wait in it. -/
theorem idleSockets_updatePool (hkeys : g.keys.Nodup) {pool : Pool} (h : g.pool? key = some pool)
    (f : Pool → Pool) :
    (g.updatePool key f).idleSockets + ↑(pool.idle.map (·.socket)) =
      g.idleSockets + ↑((f pool).idle.map (·.socket)) := by
  have hnew := (alter_perm_cons_filter hkeys h f).flatMap_right
    fun x : PoolKey × Pool => x.2.idle.map (·.socket)
  have hold := (perm_cons_filter hkeys (mem_of_lookup h)).flatMap_right
    fun x : PoolKey × Pool => x.2.idle.map (·.socket)
  have hnew' := Multiset.coe_eq_coe.mpr hnew
  have hold' := Multiset.coe_eq_coe.mpr hold
  simp only [List.flatMap_cons, ← Multiset.coe_add] at hnew' hold'
  unfold idleSockets updatePool
  rw [hnew', hold']
  abel

theorem idleSockets_exchange (hkeys : g.keys.Nodup) {pool : Pool} (h : g.pool? key = some pool)
    {f : Pool → Pool} {out into kept : List PooledConnection} (hout : pool.idle.Perm (out ++ kept))
    (hinto : (f pool).idle.Perm (into ++ kept)) :
    g.idleSockets + ↑(into.map (·.socket)) =
      (g.updatePool key f).idleSockets + ↑(out.map (·.socket)) := by
  have hupdate := idleSockets_updatePool hkeys h f
  rw [Multiset.coe_eq_coe.mpr (hout.map (·.socket)),
    Multiset.coe_eq_coe.mpr (hinto.map (·.socket)), List.map_append, List.map_append,
    ← Multiset.coe_add, ← Multiset.coe_add, ← add_assoc, ← add_assoc] at hupdate
  exact (add_right_cancel hupdate).symm

@[simp] theorem idleSockets_ensurePool (g : Gateway) (key : PoolKey) (size : Nat) :
    (g.ensurePool key size).idleSockets = g.idleSockets := by
  unfold ensurePool idleSockets
  split <;> simp

/-! ### Held connections -/

theorem held?_updateHeld (g : Gateway) (handle handle' : Handle)
    (f : PooledConnection → PooledConnection) :
    (g.updateHeld handle f).held? handle' =
      if handle' = handle then (g.held? handle').map f else g.held? handle' :=
  lookup_alter g.held handle handle' f

theorem held_perm_takeHeld (hheld : (g.held.map (·.1)).Nodup) {conn : PooledConnection}
    (h : g.held? handle = some conn) : g.held.Perm ((handle, conn) :: (g.takeHeld handle).held) :=
  perm_cons_filter hheld (mem_of_lookup h)

theorem held?_takeHeld (g : Gateway) (handle handle' : Handle) :
    (g.takeHeld handle).held? handle' = if handle' = handle then none else g.held? handle' := by
  unfold held? takeHeld
  induction g.held with
  | nil => simp
  | cons x l ih =>
      obtain ⟨h, c⟩ := x
      by_cases hh : h = handle
      · subst hh
        rw [List.filter_cons_of_neg (by simp), ih]
        by_cases hh' : handle' = h
        · simp [hh']
        · simp [hh', List.lookup_cons, beq_eq_false_iff_ne.mpr hh']
      · rw [List.filter_cons_of_pos (by simpa using hh), List.lookup_cons, List.lookup_cons, ih]
        by_cases hh' : handle' = h
        · simp [hh', hh]
        · simp [beq_eq_false_iff_ne.mpr hh']

def heldFor (g : Gateway) (key : PoolKey) : Nat := g.held.countP fun x => x.2.key = key

theorem heldFor_takeHeld (hheld : (g.held.map (·.1)).Nodup) {conn : PooledConnection}
    (h : g.held? handle = some conn) (key : PoolKey) :
    g.heldFor key = (g.takeHeld handle).heldFor key + if conn.key = key then 1 else 0 := by
  unfold heldFor
  rw [(held_perm_takeHeld hheld h).countP_eq, List.countP_cons]
  simp

theorem heldFor_updateHeld (handle : Handle) {f : PooledConnection → PooledConnection}
    (hf : ∀ c, (f c).key = c.key) (key : PoolKey) :
    (g.updateHeld handle f).heldFor key = g.heldFor key := by
  unfold heldFor updateHeld
  rw [List.countP_map]
  congr 2
  funext ⟨handle', c⟩
  by_cases heq : handle' = handle <;> simp [heq, hf]

def heldSockets (g : Gateway) : Multiset Nat := ↑(g.held.map (·.2.socket))

theorem mem_heldSockets {conn : PooledConnection} (h : g.held? handle = some conn) :
    conn.socket ∈ g.heldSockets :=
  List.mem_map.mpr ⟨(handle, conn), mem_of_lookup h, rfl⟩

theorem issue_eq_ok {g' : Gateway} {owner : InstanceId} {conn : PooledConnection}
    (h : g.issue owner conn = .ok (handle, g')) :
    ∃ registry, g.registry.insert owner conn.key = .ok (handle, registry) ∧
      g' = { g with registry, held := g.held ++ [(handle, conn)] } := by
  unfold issue at h
  cases hinsert : g.registry.insert owner conn.key with
  | error e =>
      rw [hinsert] at h
      cases h
  | ok taken =>
      obtain ⟨handle', registry⟩ := taken
      rw [hinsert] at h
      cases h
      exact ⟨registry, rfl, rfl⟩

end Gateway

end DatabaseGateway
