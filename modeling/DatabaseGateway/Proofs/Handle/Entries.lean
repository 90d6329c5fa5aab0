import DatabaseGateway.Handle.Registry
import Mathlib.Data.List.Nodup
import Mathlib.Data.List.Perm.Basic

/-!
What the table of handles holds, as a list of its live entries. Inserting adds one entry, taking
out removes exactly the entries that it names, and neither touches any other entry. The list is the
view of the table that all later arguments use; slots and free lists do not occur outside this
module.
-/

namespace DatabaseGateway

/-! ### Changing a filtered list at one place -/

/-- Where two partial functions differ at a single member of the list, the results differ by the one
value that the first of them has there. -/
theorem filterMap_perm_cons {β γ : Type} {l : List β} {f g : β → Option γ} {i : β} {c : γ}
    (hl : l.Nodup) (hi : i ∈ l) (hf : f i = some c) (hg : g i = none)
    (hfg : ∀ j ∈ l, j ≠ i → f j = g j) : (l.filterMap f).Perm (c :: l.filterMap g) := by
  obtain ⟨before, after, rfl⟩ := List.append_of_mem hi
  have hni : i ∉ before ∧ i ∉ after := by
    rw [List.nodup_append] at hl
    exact ⟨fun h => hl.2.2 i h i List.mem_cons_self rfl, (List.nodup_cons.mp hl.2.1).1⟩
  have hbefore : before.filterMap f = before.filterMap g := by
    apply List.filterMap_congr
    intro j hj
    exact hfg j (List.mem_append_left _ hj) (fun h => hni.1 (h ▸ hj))
  have hafter : after.filterMap f = after.filterMap g := by
    apply List.filterMap_congr
    intro j hj
    exact hfg j (List.mem_append_right _ (List.mem_cons_of_mem _ hj)) (fun h => hni.2 (h ▸ hj))
  rw [List.filterMap_append, List.filterMap_append, List.filterMap_cons_some hf,
    List.filterMap_cons_none hg, hbefore, hafter]
  exact List.perm_middle

namespace Handle

@[simp] theorem make_slot_generation (h : Handle) : make h.slot h.generation = h := by
  unfold make slot generation
  rw [Nat.mul_comm]
  exact Nat.div_add_mod h slotBound

theorem make_inj {slot slot' generation generation' : Nat} (h : slot < slotBound)
    (h' : slot' < slotBound) (he : make slot generation = make slot' generation') :
    slot = slot' ∧ generation = generation' := by
  constructor
  · rw [← slot_make h generation, he, slot_make h']
  · rw [← generation_make h generation, he, generation_make h']

end Handle

namespace Registry

variable {α : Type}

def entryAt (r : Registry α) (slot : Nat) : Option (Handle × Entry α) :=
  match r.slots[slot]? with
  | some (some entry) => some (Handle.make slot entry.generation, entry)
  | _ => none

def entries (r : Registry α) : List (Handle × Entry α) :=
  (List.range r.slots.size).filterMap r.entryAt

/-- The table is in order: the free list names each vacant slot once, every generation in use has
been issued, and no slot or generation is out of range. -/
structure Sound (r : Registry α) : Prop where
  free_nodup : r.free.Nodup
  mem_free : ∀ slot : Nat, slot ∈ r.free ↔ r.slots[slot]? = some none
  issued : ∀ (slot : Nat) (entry : Entry α), r.slots[slot]? = some (some entry) →
    entry.generation ≠ 0 ∧ entry.generation < r.nextGeneration
  slots_le : r.slots.size ≤ Handle.slotBound
  next_pos : 0 < r.nextGeneration
  next_le : r.nextGeneration ≤ Handle.generationBound
  size_eq : r.size = r.entries.length

theorem sound_empty : ({} : Registry α).Sound where
  free_nodup := List.nodup_nil
  mem_free slot := by simp
  issued slot entry h := by simp at h
  slots_le := Nat.zero_le _
  next_pos := Nat.one_pos
  next_le := Nat.one_le_two_pow (n := 40)
  size_eq := rfl

theorem entryAt_eq_some_iff {r : Registry α} {slot : Nat} {x : Handle × Entry α} :
    r.entryAt slot = some x ↔
      r.slots[slot]? = some (some x.2) ∧ x.1 = Handle.make slot x.2.generation := by
  obtain ⟨h, entry⟩ := x
  unfold entryAt
  split
  · next entry' hslot =>
      simp only [Option.some.injEq, Prod.mk.injEq, hslot]
      constructor
      · rintro ⟨rfl, rfl⟩
        exact ⟨rfl, rfl⟩
      · rintro ⟨rfl, rfl⟩
        exact ⟨rfl, rfl⟩
  · next hne =>
      simp only [reduceCtorEq, false_iff]
      rintro ⟨hslot, -⟩
      exact hne entry hslot

theorem mem_entries {r : Registry α} {x : Handle × Entry α} :
    x ∈ r.entries ↔
      ∃ slot, r.slots[slot]? = some (some x.2) ∧ x.1 = Handle.make slot x.2.generation := by
  simp only [entries, List.mem_filterMap, List.mem_range, entryAt_eq_some_iff]
  constructor
  · rintro ⟨slot, -, h⟩
    exact ⟨slot, h⟩
  · rintro ⟨slot, h⟩
    exact ⟨slot, (Array.getElem?_eq_some_iff.mp h.1).1, h⟩

theorem Sound.slot_lt {r : Registry α} (hr : r.Sound) {slot : Nat} {x : Option (Entry α)}
    (h : r.slots[slot]? = some x) : slot < Handle.slotBound :=
  Nat.lt_of_lt_of_le (Array.getElem?_eq_some_iff.mp h).1 hr.slots_le

theorem Sound.find?_eq_some_iff {r : Registry α} (hr : r.Sound) {h : Handle} {entry : Entry α} :
    r.find? h = some entry ↔ (h, entry) ∈ r.entries := by
  rw [mem_entries]
  unfold find?
  constructor
  · intro hfind
    split at hfind
    · next found hslot =>
        split at hfind
        · next hgen =>
            obtain rfl := Option.some.inj hfind
            exact ⟨h.slot, hslot, by rw [hgen, Handle.make_slot_generation]⟩
        · cases hfind
    · cases hfind
  · rintro ⟨slot, hslot, hh⟩
    have hlt := hr.slot_lt hslot
    obtain rfl : h = Handle.make slot entry.generation := hh
    simp [Handle.slot_make hlt, hslot, Handle.generation_make hlt]

theorem Sound.find?_eq_none_iff {r : Registry α} (hr : r.Sound) {h : Handle} :
    r.find? h = none ↔ h ∉ r.entries.map (·.1) := by
  constructor
  · intro hnone hmem
    obtain ⟨⟨h', entry⟩, hentry, rfl⟩ := List.mem_map.mp hmem
    rw [hr.find?_eq_some_iff.mpr hentry] at hnone
    cases hnone
  · intro hmem
    apply Option.eq_none_iff_forall_ne_some.mpr
    intro entry hsome
    exact hmem (List.mem_map_of_mem (hr.find?_eq_some_iff.mp hsome))

theorem Sound.handles_nodup {r : Registry α} (hr : r.Sound) : (r.entries.map (·.1)).Nodup := by
  rw [entries, List.map_filterMap]
  refine List.nodup_range.filterMap fun slot slot' h hslot hslot' => ?_
  simp only [Option.mem_def, Option.map_eq_some_iff, entryAt_eq_some_iff] at hslot hslot'
  obtain ⟨x, ⟨hx, hxh⟩, rfl⟩ := hslot
  obtain ⟨y, ⟨hy, hyh⟩, hxy⟩ := hslot'
  rw [hxh, hyh] at hxy
  exact (Handle.make_inj (hr.slot_lt hy) (hr.slot_lt hx) hxy).1.symm

/-! ### Inserting -/

/-- The two ways of inserting: into the first vacant slot, or behind the last slot. -/
theorem insert_cases {r r' : Registry α} {owner : InstanceId} {item : α} {handle : Handle}
    (h : r.insert owner item = .ok (handle, r')) :
    r.nextGeneration < Handle.generationBound ∧
      ((∃ slot free, r.free = slot :: free ∧ handle = Handle.make slot r.nextGeneration ∧
          r' = ⟨r.slots.setIfInBounds slot (some ⟨r.nextGeneration, owner, item⟩), free,
            r.nextGeneration + 1, r.size + 1⟩) ∨
        (r.free = [] ∧ r.slots.size < Handle.slotBound ∧
          handle = Handle.make r.slots.size r.nextGeneration ∧
          r' = ⟨r.slots.push (some ⟨r.nextGeneration, owner, item⟩), [],
            r.nextGeneration + 1, r.size + 1⟩)) := by
  unfold insert at h
  split at h
  · cases h
  · next hgen =>
      refine ⟨Nat.lt_of_not_le hgen, ?_⟩
      split at h
      · next slot free hfree =>
          simp only [Except.ok.injEq, Prod.mk.injEq] at h
          exact .inl ⟨slot, free, hfree, h.1.symm, h.2.symm⟩
      · next hfree =>
          split at h
          · cases h
          · next hsize =>
              simp only [Except.ok.injEq, Prod.mk.injEq] at h
              exact .inr ⟨hfree, Nat.lt_of_not_le hsize, h.1.symm, h.2.symm⟩

theorem Sound.insert_generation {r r' : Registry α} (hr : r.Sound) {owner : InstanceId} {item : α}
    {handle : Handle} (h : r.insert owner item = .ok (handle, r')) :
    handle.generation = r.nextGeneration := by
  obtain ⟨-, ⟨slot, free, hfree, rfl, -⟩ | ⟨-, hsize, rfl, -⟩⟩ := insert_cases h
  · have hslot : r.slots[slot]? = some none := (hr.mem_free slot).mp (by simp [hfree])
    exact Handle.generation_make (hr.slot_lt hslot) _
  · exact Handle.generation_make hsize _

/-- A generation is used up by every handle. -/
theorem insert_nextGeneration {r r' : Registry α} {owner : InstanceId} {item : α} {handle : Handle}
    (h : r.insert owner item = .ok (handle, r')) :
    r'.nextGeneration = r.nextGeneration + 1 := by
  obtain ⟨-, ⟨slot, free, -, -, rfl⟩ | ⟨-, -, -, rfl⟩⟩ := insert_cases h <;> rfl

theorem Sound.insert_entries {r r' : Registry α} (hr : r.Sound) {owner : InstanceId} {item : α}
    {handle : Handle} (h : r.insert owner item = .ok (handle, r')) :
    r'.entries.Perm ((handle, ⟨r.nextGeneration, owner, item⟩) :: r.entries) := by
  obtain ⟨-, ⟨slot, free, hfree, rfl, rfl⟩ | ⟨-, hsize, rfl, rfl⟩⟩ := insert_cases h
  · have hslot : r.slots[slot]? = some none := (hr.mem_free slot).mp (by simp [hfree])
    have hlt : slot < r.slots.size := (Array.getElem?_eq_some_iff.mp hslot).1
    unfold entries
    rw [Array.size_setIfInBounds]
    apply filterMap_perm_cons List.nodup_range (List.mem_range.mpr hlt)
    · simp [entryAt, hlt]
    · simp [entryAt, hslot]
    · intro j _ hj
      simp [entryAt, Array.getElem?_setIfInBounds_ne hj.symm]
  · have hold : ∀ j ∈ List.range r.slots.size,
        entryAt ⟨r.slots.push (some ⟨r.nextGeneration, owner, item⟩), [], r.nextGeneration + 1,
          r.size + 1⟩ j = r.entryAt j := by
      intro j hj
      have hne : j ≠ r.slots.size := Nat.ne_of_lt (List.mem_range.mp hj)
      simp [entryAt, Array.getElem?_push, hne]
    unfold entries
    rw [Array.size_push, List.range_succ, List.filterMap_append, List.filterMap_congr hold]
    simp [entryAt, List.perm_append_singleton]

theorem Sound.insert {r r' : Registry α} (hr : r.Sound) {owner : InstanceId} {item : α}
    {handle : Handle} (h : r.insert owner item = .ok (handle, r')) : r'.Sound := by
  have hentries := (hr.insert_entries h).length_eq
  obtain ⟨hgen, ⟨slot, free, hfree, rfl, rfl⟩ | ⟨hfree, hsize, rfl, rfl⟩⟩ := insert_cases h
  · have hslot : r.slots[slot]? = some none := (hr.mem_free slot).mp (by simp [hfree])
    have hlt : slot < r.slots.size := (Array.getElem?_eq_some_iff.mp hslot).1
    have hnd := hr.free_nodup
    rw [hfree, List.nodup_cons] at hnd
    refine ⟨hnd.2, ?_, ?_, by simpa using hr.slots_le, Nat.succ_pos _, hgen, ?_⟩
    · -- The slot is no longer vacant, and no other slot has changed.
      intro j
      have hj := hr.mem_free j
      rw [hfree, List.mem_cons] at hj
      by_cases hjs : j = slot
      · subst hjs
        simp [hlt, hnd.1]
      · simp [Array.getElem?_setIfInBounds_ne (Ne.symm hjs), ← hj, hjs]
    · intro j entry hj
      by_cases hjs : slot = j
      · subst hjs
        simp only [Array.getElem?_setIfInBounds_self_of_lt hlt, Option.some.injEq] at hj
        subst hj
        exact ⟨Nat.ne_of_gt hr.next_pos, Nat.lt_succ_self _⟩
      · rw [Array.getElem?_setIfInBounds_ne hjs] at hj
        have := hr.issued j entry hj
        exact ⟨this.1, Nat.lt_succ_of_lt this.2⟩
    · rw [hentries, List.length_cons, ← hr.size_eq]
  · refine ⟨List.nodup_nil, ?_, ?_, by simpa using Nat.succ_le_of_lt hsize, Nat.succ_pos _, hgen,
      ?_⟩
    · -- No slot was vacant, and the new one is not either.
      intro j
      have hj := hr.mem_free j
      rw [hfree] at hj
      by_cases hjs : j = r.slots.size
      · simp [hjs]
      · simpa [Array.getElem?_push, hjs] using hj
    · intro j entry hj
      by_cases hjs : j = r.slots.size
      · simp only [Array.getElem?_push, hjs, if_true, Option.some.injEq] at hj
        subst hj
        exact ⟨Nat.ne_of_gt hr.next_pos, Nat.lt_succ_self _⟩
      · simp only [Array.getElem?_push, hjs, if_false] at hj
        have := hr.issued j entry hj
        exact ⟨this.1, Nat.lt_succ_of_lt this.2⟩
    · rw [hentries, List.length_cons, ← hr.size_eq]

/-! ### Taking out -/

theorem vacate_eq_some {r r' : Registry α} {slot : Nat} {entry : Entry α}
    (h : r.vacate slot = some (entry, r')) :
    r.slots[slot]? = some (some entry) ∧
      r' = ⟨r.slots.setIfInBounds slot none, slot :: r.free, r.nextGeneration, r.size - 1⟩ := by
  unfold vacate at h
  split at h
  · next found hslot =>
      simp only [Option.some.injEq, Prod.mk.injEq] at h
      exact ⟨h.1 ▸ hslot, h.2.symm⟩
  · cases h

theorem vacate_entryAt {r r' : Registry α} {slot : Nat} {entry : Entry α}
    (h : r.vacate slot = some (entry, r')) (j : Nat) :
    r'.entryAt j = if j = slot then none else r.entryAt j := by
  obtain ⟨hslot, rfl⟩ := vacate_eq_some h
  have hlt := (Array.getElem?_eq_some_iff.mp hslot).1
  by_cases hj : j = slot
  · subst hj
    simp [entryAt, hlt]
  · simp [entryAt, hj, Array.getElem?_setIfInBounds_ne (Ne.symm hj)]

theorem vacate_entries {r r' : Registry α} {slot : Nat} {entry : Entry α}
    (h : r.vacate slot = some (entry, r')) :
    r.entries.Perm ((Handle.make slot entry.generation, entry) :: r'.entries) := by
  have hat := vacate_entryAt h
  obtain ⟨hslot, rfl⟩ := vacate_eq_some h
  have hlt := (Array.getElem?_eq_some_iff.mp hslot).1
  unfold entries
  rw [Array.size_setIfInBounds]
  apply filterMap_perm_cons List.nodup_range (List.mem_range.mpr hlt)
  · simp [entryAt, hslot]
  · rw [hat, if_pos rfl]
  · intro j _ hj
    rw [hat, if_neg hj]

theorem Sound.vacate {r r' : Registry α} (hr : r.Sound) {slot : Nat} {entry : Entry α}
    (h : r.vacate slot = some (entry, r')) : r'.Sound := by
  have hentries := (vacate_entries h).length_eq
  obtain ⟨hslot, rfl⟩ := vacate_eq_some h
  have hlt := (Array.getElem?_eq_some_iff.mp hslot).1
  have hnot : slot ∉ r.free := by
    intro hmem
    rw [hr.mem_free, hslot] at hmem
    cases hmem
  refine ⟨List.nodup_cons.mpr ⟨hnot, hr.free_nodup⟩, ?_, ?_, by simpa using hr.slots_le,
    hr.next_pos, hr.next_le, ?_⟩
  · intro j
    by_cases hj : slot = j
    · subst hj
      simp [hlt]
    · simp [Array.getElem?_setIfInBounds_ne hj, ← hr.mem_free j, Ne.symm hj]
  · intro j other hj
    by_cases hjs : slot = j
    · subst hjs
      simp [hlt] at hj
    · rw [Array.getElem?_setIfInBounds_ne hjs] at hj
      exact hr.issued j other hj
  · have := hr.size_eq
    rw [List.length_cons] at hentries
    show r.size - 1 = _
    omega

/-- What is taken out of a table: the entries that are gone are those that were given, and the rest
of the table is as it was. -/
structure Yields (r : Registry α) (taken : List (Handle × Entry α)) (r' : Registry α) : Prop where
  entries : r.entries.Perm (taken ++ r'.entries)
  sound : r.Sound → r'.Sound
  nextGeneration : r'.nextGeneration = r.nextGeneration

theorem Yields.refl (r : Registry α) : r.Yields [] r := ⟨.refl _, id, rfl⟩

theorem vacate_yields {r r' : Registry α} {slot : Nat} {entry : Entry α}
    (h : r.vacate slot = some (entry, r')) :
    r.Yields [(Handle.make slot entry.generation, entry)] r' where
  entries := vacate_entries h
  sound hr := hr.vacate h
  nextGeneration := by
    obtain ⟨-, rfl⟩ := vacate_eq_some h
    rfl

theorem remove_yields {r r' : Registry α} {h : Handle} {entry : Entry α}
    (hremove : r.remove h = .ok (entry, r')) : r.Yields [(h, entry)] r' := by
  unfold remove at hremove
  split at hremove
  · cases hremove
  · next found hfind =>
      split at hremove
      · next taken hvacate =>
          obtain rfl := Except.ok.inj hremove
          have hyields := vacate_yields hvacate
          obtain ⟨hslot, -⟩ := vacate_eq_some hvacate
          unfold find? at hfind
          simp only [hslot] at hfind
          split at hfind
          · next hgen =>
              rw [hgen, Handle.make_slot_generation] at hyields
              exact hyields
          · cases hfind
      · cases hremove

theorem vacateAll_yields (r : Registry α) (slots : List Nat) :
    r.Yields (r.vacateAll slots).1 (r.vacateAll slots).2 := by
  induction slots generalizing r with
  | nil => exact .refl r
  | cons slot slots ih =>
      unfold vacateAll
      split
      · exact ih r
      · next entry r' hvacate =>
          have hone := vacate_yields hvacate
          have hrest := ih r'
          refine ⟨hone.entries.trans (hrest.entries.cons _), fun hr => hrest.sound (hone.sound hr),
            hrest.nextGeneration.trans hone.nextGeneration⟩

theorem drainOwner_yields (r : Registry α) (owner : InstanceId) :
    r.Yields (r.drainOwner owner).1 (r.drainOwner owner).2 :=
  vacateAll_yields r _

theorem drainAll_yields (r : Registry α) : r.Yields r.drainAll.1 r.drainAll.2 :=
  vacateAll_yields r _

/-- Taking handles out leaves the entries of all others as they are. -/
theorem Yields.find?_eq {r r' : Registry α} {taken : List (Handle × Entry α)}
    (h : r.Yields taken r') (hr : r.Sound) {other : Handle} (hother : other ∉ taken.map (·.1)) :
    r'.find? other = r.find? other := by
  ext entry
  rw [(h.sound hr).find?_eq_some_iff, hr.find?_eq_some_iff, h.entries.mem_iff, List.mem_append]
  exact (or_iff_right fun hmem => hother (List.mem_map_of_mem hmem)).symm

/-! ### What is taken out, and what is counted -/

theorem entryAt_of_vacate_eq_none {r : Registry α} {slot : Nat} (h : r.vacate slot = none) :
    r.entryAt slot = none := by
  unfold vacate at h
  unfold entryAt
  rcases hslot : r.slots[slot]? with _ | _ | entry
  · rfl
  · rfl
  · simp [hslot] at h

/-- Emptying slots gives what was in them. -/
theorem vacateAll_taken (r : Registry α) {slots : List Nat} (hslots : slots.Nodup) :
    (r.vacateAll slots).1 = slots.filterMap r.entryAt := by
  induction slots generalizing r with
  | nil => rfl
  | cons slot slots ih =>
      rw [List.nodup_cons] at hslots
      unfold vacateAll
      split
      · next hvacate =>
          rw [List.filterMap_cons_none (entryAt_of_vacate_eq_none hvacate), ih r hslots.2]
      · next entry r' hvacate =>
          have hsome : r.entryAt slot = some (Handle.make slot entry.generation, entry) :=
            entryAt_eq_some_iff.mpr ⟨(vacate_eq_some hvacate).1, rfl⟩
          have hrest : slots.filterMap r'.entryAt = slots.filterMap r.entryAt := by
            apply List.filterMap_congr
            intro j hj
            have hne : j ≠ slot := fun h => hslots.1 (h ▸ hj)
            rw [vacate_entryAt hvacate, if_neg hne]
          rw [List.filterMap_cons_some hsome]
          show _ :: (r'.vacateAll slots).1 = _
          rw [ih r' hslots.2, hrest]

theorem filterMap_slotsWhere (r : Registry α) (p : Entry α → Bool) :
    (r.slotsWhere p).filterMap r.entryAt = r.entries.filter fun x => p x.2 := by
  unfold slotsWhere entries
  rw [List.filterMap_filter, List.filter_filterMap]
  apply List.filterMap_congr
  intro slot _
  unfold entryAt
  rcases r.slots[slot]? with _ | _ | entry
  · rfl
  · rfl
  · rfl

theorem vacateAll_slotsWhere (r : Registry α) (p : Entry α → Bool) :
    (r.vacateAll (r.slotsWhere p)).1 = r.entries.filter fun x => p x.2 := by
  have hslots : (r.slotsWhere p).Nodup := List.nodup_range.filter _
  rw [vacateAll_taken r hslots, filterMap_slotsWhere]

theorem drainOwner_taken (r : Registry α) (owner : InstanceId) :
    (r.drainOwner owner).1 = r.entries.filter fun x => x.2.owner == owner :=
  vacateAll_slotsWhere r _

theorem drainAll_taken (r : Registry α) : r.drainAll.1 = r.entries := by
  unfold drainAll
  rw [vacateAll_slotsWhere, List.filter_true]

theorem Yields.filter {r r' : Registry α} {p : Handle × Entry α → Bool}
    (h : r.Yields (r.entries.filter p) r') : r'.entries.Perm (r.entries.filter fun x => !p x) :=
  (List.perm_append_left_iff _).mp
    (h.entries.symm.trans (List.filter_append_perm p r.entries).symm)

theorem countOwnedBy_eq (r : Registry α) (owner : InstanceId) :
    r.countOwnedBy owner = r.entries.countP fun x => x.2.owner == owner := by
  have hslots : r.slots.toList.map some = (List.range r.slots.size).map (r.slots[·]?) := by
    apply List.ext_getElem?
    intro i
    by_cases hi : i < r.slots.size
    · simp [hi]
    · simp [hi]
  unfold countOwnedBy entries
  rw [← Array.countP_toList, List.countP_filterMap]
  calc r.slots.toList.countP (fun slot => slot.any fun entry => entry.owner == owner)
      = (r.slots.toList.map some).countP
          (fun slot? => slot?.any fun slot => slot.any fun entry => entry.owner == owner) := by
        rw [List.countP_map]
        rfl
    _ = (List.range r.slots.size).countP
          (fun i => r.slots[i]?.any fun slot => slot.any fun entry => entry.owner == owner) := by
        rw [hslots, List.countP_map]
        rfl
    _ = _ := by
        apply List.countP_congr
        intro i _
        unfold entryAt
        rcases r.slots[i]? with _ | _ | entry
        · simp
        · simp
        · simp

/-- Each slot is vacant or holds a live entry. -/
theorem Sound.slots_size {r : Registry α} (hr : r.Sound) :
    r.free.length + r.entries.length = r.slots.size := by
  have hfree : r.free.Perm
      ((List.range r.slots.size).filter fun slot => !(r.entryAt slot).isSome) := by
    rw [List.perm_ext_iff_of_nodup hr.free_nodup (List.nodup_range.filter _)]
    intro slot
    rw [hr.mem_free, List.mem_filter, List.mem_range]
    constructor
    · intro hslot
      exact ⟨(Array.getElem?_eq_some_iff.mp hslot).1, by simp [entryAt, hslot]⟩
    · rintro ⟨hlt, hnone⟩
      unfold entryAt at hnone
      rw [Array.getElem?_eq_getElem hlt] at hnone ⊢
      rcases hslot : r.slots[slot] with _ | entry
      · rfl
      · simp [hslot] at hnone
  have hlive : r.entries.length
      = (List.range r.slots.size).countP fun slot => (r.entryAt slot).isSome :=
    List.length_filterMap_eq_countP
  rw [hfree.length_eq, hlive, ← List.countP_eq_length_filter, Nat.add_comm]
  have htotal := List.length_eq_countP_add_countP (fun slot => (r.entryAt slot).isSome)
    (l := List.range r.slots.size)
  rw [List.length_range] at htotal
  simpa only [decide_not, Bool.decide_eq_true] using htotal.symm

/-- Inserting succeeds exactly while there are generations and slots left. -/
theorem Sound.insert_eq {r : Registry α} (hr : r.Sound) (owner : InstanceId) (item : α) :
    (Handle.generationBound ≤ r.nextGeneration ∧
        r.insert owner item = .error (.poolExhausted "handle generations exhausted")) ∨
      (r.nextGeneration < Handle.generationBound ∧ Handle.slotBound ≤ r.entries.length ∧
        r.insert owner item = .error (.poolExhausted "handle table is full")) ∨
      (r.nextGeneration < Handle.generationBound ∧ r.entries.length < Handle.slotBound ∧
        ∃ x, r.insert owner item = .ok x) := by
  have hsize := hr.slots_size
  have hle := hr.slots_le
  unfold Registry.insert
  by_cases hgen : Handle.generationBound ≤ r.nextGeneration
  · exact .inl ⟨hgen, if_pos hgen⟩
  · rw [if_neg hgen]
    have hlt := Nat.lt_of_not_le hgen
    cases hfree : r.free with
    | cons slot free =>
        rw [hfree, List.length_cons] at hsize
        exact .inr (.inr ⟨hlt, by omega, _, rfl⟩)
    | nil =>
        rw [hfree, List.length_nil, Nat.zero_add] at hsize
        by_cases hfull : Handle.slotBound ≤ r.slots.size
        · exact .inr (.inl ⟨hlt, hsize ▸ hfull, if_pos hfull⟩)
        · exact .inr (.inr ⟨hlt, by omega, _, if_neg hfull⟩)

/-! ### Handles that are not live -/

/-- The error for a handle that is not live is of the kind `closed`. -/
@[simp] theorem kind_deadHandle (r : Registry α) (h : Handle) :
    (r.deadHandle h).kind = .closed := by
  unfold deadHandle
  split <;> rfl

theorem get_of_find?_eq_none {r : Registry α} {h : Handle} (hnone : r.find? h = none) :
    r.get h = .error (r.deadHandle h) := by
  simp [get, hnone]

theorem remove_of_find?_eq_none {r : Registry α} {h : Handle} (hnone : r.find? h = none) :
    r.remove h = .error (r.deadHandle h) := by
  simp [remove, hnone]

/-- Looking up and taking out succeed for the same handles. -/
theorem remove_of_find?_eq_some {r : Registry α} {h : Handle} {entry : Entry α}
    (hfind : r.find? h = some entry) : ∃ r', r.remove h = .ok (entry, r') := by
  have hslot : r.slots[h.slot]? = some (some entry) := by
    unfold find? at hfind
    split at hfind
    · next found hslot =>
        split at hfind
        · rw [hslot, Option.some.inj hfind]
        · cases hfind
    · cases hfind
  simp [remove, hfind, vacate, hslot]

end Registry

end DatabaseGateway
