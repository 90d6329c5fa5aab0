import DatabaseGateway.Proofs.Handle.Refinement

/-!
What a table of handles says of a handle that is not live.

The table keeps no list of what it has given out. It looks at the slot and at the generation of the
handle, each for itself: whether some handle was given out in that slot, and whether some handle was
given out in that generation. A handle that was given out passes both, so it is always told closed.
A handle that was not may pass both as well, the slot of one handle and the generation of another,
and is then told closed too. Such a pair exists as soon as two handles were ever open at once, and
only then.
-/

namespace DatabaseGateway

namespace Registry

variable {α : Type}

def Answer.issued : Answer α → List Handle
  | .handle h => [h]
  | _ => []

def issuedBy (calls : List (Call α)) : List Handle :=
  (({} : Registry α).run calls).1.flatMap Answer.issued

def after (calls : List (Call α)) : Registry α := (({} : Registry α).run calls).2

/-- The largest number of handles that are open at once before, between and after some calls. -/
def peak (r : Registry α) : List (Call α) → Nat
  | [] => r.size
  | c :: calls => max r.size ((r.call c).2.peak calls)

/-- Every word that is not a live handle is told closed if it was given out, and invalid if it was
not, by looking it up and by taking it out alike. -/
def Truthful (r : Registry α) (issued : List Handle) : Prop :=
  ∀ h < Handle.wordBound, r.find? h = none →
    (r.get h = .error (.handleClosed h) ↔ h ∈ issued) ∧
      (r.get h = .error (.invalidHandle h) ↔ h ∉ issued) ∧
      (r.remove h = .error (.handleClosed h) ↔ h ∈ issued) ∧
      (r.remove h = .error (.invalidHandle h) ↔ h ∉ issued)

/-- The slot of the handle is one in which a handle was given out, and so is its generation. -/
def Passes (issued : List Handle) (h : Handle) : Prop :=
  h.slot ∈ issued.map Handle.slot ∧ h.generation ∈ issued.map Handle.generation

instance (issued : List Handle) (h : Handle) : Decidable (Passes issued h) :=
  inferInstanceAs (Decidable (_ ∧ _))

variable {r : Registry α} {issued : List Handle}

theorem passes_of_mem {h : Handle} (hh : h ∈ issued) : Passes issued h :=
  ⟨List.mem_map_of_mem hh, List.mem_map_of_mem hh⟩

/-! ### What the table knows of the handles it has given out -/

/-- The bounds that the table keeps are those of the handles that were given out: their generations
are counted from one, each given out once, and their slots are those that the table has. -/
structure Recalls (r : Registry α) (issued : List Handle) : Prop where
  sound : r.Sound
  generations : issued.map Handle.generation = List.range' 1 (r.nextGeneration - 1)
  slots : ∀ slot : Nat, slot ∈ issued.map Handle.slot ↔ slot < r.slots.size
  live : ∀ h ∈ r.entries.map (·.1), h ∈ issued

theorem recalls_empty : ({} : Registry α).Recalls [] where
  sound := sound_empty
  generations := rfl
  slots slot := by simp
  live h hh := by cases hh

theorem call_cases (r : Registry α) (c : Call α) :
    (∃ owner item h r', r.insert owner item = .ok (h, r') ∧ r.call c = (.handle h, r')) ∨
      (∃ taken, r.Yields taken (r.call c).2 ∧ (r.call c).2.slots.size = r.slots.size ∧
        (r.call c).1.issued = []) := by
  cases c with
  | insert owner item =>
      rcases hinsert : r.insert owner item with e | ⟨h, r'⟩
      · exact .inr ⟨[], by simp [call, hinsert, Yields.refl, Answer.issued]⟩
      · exact .inl ⟨owner, item, h, r', hinsert, by simp [call, hinsert]⟩
  | get h =>
      rcases hget : r.get h with e | entry
      · exact .inr ⟨[], by simp [call, hget, Yields.refl, Answer.issued]⟩
      · exact .inr ⟨[], by simp [call, hget, Yields.refl, Answer.issued]⟩
  | remove h =>
      rcases hremove : r.remove h with e | ⟨entry, r'⟩
      · exact .inr ⟨[], by simp [call, hremove, Yields.refl, Answer.issued]⟩
      · simp only [call, hremove]
        exact .inr ⟨_, remove_yields hremove, remove_slots_size hremove, rfl⟩
  | drainOwner owner => exact .inr ⟨_, drainOwner_yields r owner, vacateAll_slots_size r _, rfl⟩
  | drainAll => exact .inr ⟨_, drainAll_yields r, vacateAll_slots_size r _, rfl⟩
  | countOwnedBy | size => exact .inr ⟨_, .refl r, rfl, rfl⟩

/-- Inserting gives out the next generation, in a slot that was used before or behind the last
one. -/
theorem Recalls.insert (hr : r.Recalls issued) {r' : Registry α} {owner : InstanceId} {item : α}
    {h : Handle} (hinsert : r.insert owner item = .ok (h, r')) : r'.Recalls (issued ++ [h]) where
  sound := hr.sound.insert hinsert
  generations := by
    obtain ⟨n, hn⟩ := Nat.exists_eq_add_of_lt hr.sound.next_pos
    rw [List.map_append, hr.generations, List.map_singleton, hr.sound.insert_generation hinsert,
      insert_nextGeneration hinsert, hn]
    simp [List.range'_concat, Nat.add_comm]
  slots slot := by
    rw [List.map_append, List.mem_append, hr.slots, List.map_singleton, List.mem_singleton]
    have hgrows := insert_slot hr.sound hinsert
    obtain ⟨-, ⟨used, free, -, rfl, rfl⟩ | ⟨-, hsize, rfl, rfl⟩⟩ := insert_cases hinsert
    · rw [Array.size_setIfInBounds] at hgrows ⊢
      omega
    · rw [Handle.slot_make hsize, Array.size_push]
      omega
  live other hother := by
    rw [((hr.sound.insert_entries hinsert).map _).mem_iff, List.map_cons, List.mem_cons] at hother
    rw [List.mem_append, List.mem_singleton]
    exact hother.symm.imp (hr.live other) id

theorem Recalls.yields (hr : r.Recalls issued) {r' : Registry α} {taken : List (Handle × Entry α)}
    (h : r.Yields taken r') (hsize : r'.slots.size = r.slots.size) : r'.Recalls issued where
  sound := h.sound hr.sound
  generations := by rw [h.nextGeneration, hr.generations]
  slots slot := by rw [hsize, hr.slots]
  live other hother := by
    apply hr.live
    rw [(h.entries.map _).mem_iff, List.map_append]
    exact List.mem_append_right _ hother

theorem Recalls.call (hr : r.Recalls issued) (c : Call α) :
    (r.call c).2.Recalls (issued ++ (r.call c).1.issued) := by
  obtain ⟨owner, item, h, r', hinsert, hcall⟩ | ⟨taken, hyields, hsize, hnone⟩ := call_cases r c
  · rw [hcall]
    exact hr.insert hinsert
  · rw [hnone, List.append_nil]
    exact hr.yields hyields hsize

theorem Recalls.run (hr : r.Recalls issued) (calls : List (Call α)) :
    (r.run calls).2.Recalls (issued ++ (r.run calls).1.flatMap Answer.issued) := by
  induction calls generalizing r issued with
  | nil => simpa [Registry.run] using hr
  | cons c calls ih =>
      have hrest := ih (hr.call c)
      rw [List.append_assoc] at hrest
      exact hrest

theorem recalls_after (calls : List (Call α)) : (after calls).Recalls (issuedBy calls) :=
  recalls_empty.run calls

/-! ### The verdict -/

/-- The verdict goes by the slots and the generations that were given out. -/
theorem Recalls.deadHandle (hr : r.Recalls issued) (h : Handle) :
    r.deadHandle h = if Passes issued h then .handleClosed h else .invalidHandle h := by
  have hpasses : Passes issued h ↔
      (h.generation ≠ 0 ∧ h.generation < r.nextGeneration) ∧ h.slot < r.slots.size := by
    have hpos := hr.sound.next_pos
    rw [Passes, hr.slots, hr.generations, List.mem_range'_1]
    omega
  simp only [Registry.deadHandle, hpasses, Bool.and_eq_true, decide_eq_true_eq]

/-- The table is truthful if it is no mistake to go by slots and generations. -/
theorem Recalls.truthful_iff (hr : r.Recalls issued) :
    r.Truthful issued ↔
      ∀ h < Handle.wordBound, r.find? h = none → Passes issued h → h ∈ issued := by
  constructor
  · intro htruth h hword hfind hpasses
    apply (htruth h hword hfind).1.mp
    rw [get_of_find?_eq_none hfind, hr.deadHandle, if_pos hpasses]
  · intro hpasses h hword hfind
    have hiff : Passes issued h ↔ h ∈ issued := ⟨hpasses h hword hfind, passes_of_mem⟩
    rw [get_of_find?_eq_none hfind, remove_of_find?_eq_none hfind, hr.deadHandle]
    have hne : GatewayError.handleClosed h ≠ .invalidHandle h := nofun
    by_cases hmem : h ∈ issued
    · simp [hiff, hmem, hne]
    · simp [hiff, hmem, hne.symm]

/-- In a table of one slot, a handle is known by its generation. -/
theorem Recalls.mem_of_passes (hr : r.Recalls issued) (hsize : r.slots.size ≤ 1) {h : Handle}
    (hpasses : Passes issued h) : h ∈ issued := by
  obtain ⟨hslot, hgeneration⟩ := hpasses
  obtain ⟨other, hother, heq⟩ := List.mem_map.mp hgeneration
  have hlt := (hr.slots _).mp hslot
  have hlt' := (hr.slots _).mp (List.mem_map_of_mem hother)
  have hsame : other.slot = h.slot := by omega
  rwa [← Handle.make_slot_generation h, ← hsame, ← heq, Handle.make_slot_generation]

/-- With two slots, the generation of a handle can be put together with the slot of another one. -/
theorem Recalls.exists_forged (hr : r.Recalls issued) (hsize : 1 < r.slots.size) :
    ∃ h < Handle.wordBound, r.find? h = none ∧ Passes issued h ∧ h ∉ issued := by
  obtain ⟨first, hfirst, hslot⟩ := List.mem_map.mp ((hr.slots 0).mpr (by omega))
  have hone : 1 < Handle.slotBound := by decide
  have hbounds : first.generation < r.nextGeneration := by
    have hmem := List.mem_map_of_mem (f := Handle.generation) hfirst
    rw [hr.generations, List.mem_range'_1] at hmem
    omega
  have hnot : Handle.make 1 first.generation ∉ issued := by
    -- No two handles have the same generation, and the first one has another slot.
    intro hmem
    have hnodup : (issued.map Handle.generation).Nodup := by
      rw [hr.generations]
      exact List.nodup_range'
    have heq := List.inj_on_of_nodup_map hnodup hmem hfirst (Handle.generation_make hone _)
    rw [← heq, Handle.slot_make hone] at hslot
    cases hslot
  refine ⟨Handle.make 1 first.generation, ?_, ?_, ⟨?_, ?_⟩, hnot⟩
  · apply Handle.lt_wordBound
    rw [Handle.generation_make hone]
    exact Nat.lt_of_lt_of_le hbounds hr.sound.next_le
  · exact hr.sound.find?_eq_none_iff.mpr fun hlive => hnot (hr.live _ hlive)
  · rw [Handle.slot_make hone]
    exact (hr.slots 1).mpr hsize
  · rw [Handle.generation_make hone]
    exact List.mem_map_of_mem hfirst

/-! ### How large the table gets -/

theorem size_le_peak (r : Registry α) (calls : List (Call α)) : r.size ≤ r.peak calls := by
  cases calls with
  | nil => exact Nat.le_refl _
  | cons c calls => exact Nat.le_max_left _ _

theorem Sound.size_le (hr : r.Sound) : r.size ≤ r.slots.size := by
  have := hr.slots_size
  have := hr.size_eq
  omega

/-- A slot is added only where all others are in use. -/
theorem Sound.call_slots_size (hr : r.Sound) (c : Call α) :
    (r.call c).2.slots.size = max r.slots.size (r.call c).2.size := by
  obtain ⟨owner, item, h, r', hinsert, hcall⟩ | ⟨taken, hyields, hsize, -⟩ := call_cases r c
  · rw [hcall]
    have hle := (hr.insert hinsert).size_le
    obtain ⟨-, ⟨slot, free, -, -, rfl⟩ | ⟨hfree, -, -, rfl⟩⟩ := insert_cases hinsert
    · rw [Array.size_setIfInBounds] at hle ⊢
      exact (Nat.max_eq_left hle).symm
    · have hfull := hr.slots_size
      rw [hfree, List.length_nil, ← hr.size_eq] at hfull
      simp only [Array.size_push]
      omega
  · rw [← hsize]
    exact (Nat.max_eq_left (hyields.sound hr).size_le).symm

/-- The table has as many slots as handles were ever open at once. -/
theorem Recalls.run_slots_size (hr : r.Recalls issued) (calls : List (Call α)) :
    (r.run calls).2.slots.size = max r.slots.size (r.peak calls) := by
  induction calls generalizing r issued with
  | nil => exact (Nat.max_eq_left hr.sound.size_le).symm
  | cons c calls ih =>
      have hrest := ih (hr.call c)
      have hcall := hr.sound.call_slots_size c
      have hpeak := size_le_peak (r.call c).2 calls
      have hsize := hr.sound.size_le
      show ((r.call c).2.run calls).2.slots.size = max _ (max _ ((r.call c).2.peak calls))
      omega

/-- After every sequence of calls that starts from the empty table, looking up and taking out a
handle that is not live fail alike: the handle is told closed if a handle was given out in its slot
and a handle was given out in its generation, and invalid otherwise. So every handle that was given
out is told closed once it is not live. That no other one is, holds exactly as long as no two
handles were ever open at once. -/
theorem dead_handle_verdict (calls : List (Call α)) :
    (∀ h, (after calls).find? h = none →
        (after calls).get h = .error
            (if Passes (issuedBy calls) h then .handleClosed h else .invalidHandle h) ∧
          (after calls).remove h = .error
            (if Passes (issuedBy calls) h then .handleClosed h else .invalidHandle h)) ∧
      (∀ h ∈ issuedBy calls, Passes (issuedBy calls) h) ∧
      ((after calls).Truthful (issuedBy calls) ↔ peak ({} : Registry α) calls ≤ 1) := by
  have hr := recalls_after calls
  refine ⟨fun h hfind => ?_, fun h => passes_of_mem, ?_⟩
  · rw [get_of_find?_eq_none hfind, remove_of_find?_eq_none hfind, hr.deadHandle]
    exact ⟨rfl, rfl⟩
  · have hsize : (after calls).slots.size = peak ({} : Registry α) calls := by
      rw [after, recalls_empty.run_slots_size calls]
      exact Nat.zero_max _
    rw [hr.truthful_iff, ← hsize]
    constructor
    · intro hpasses
      by_contra hlarge
      obtain ⟨h, hword, hfind, hp, hnot⟩ := hr.exists_forged (Nat.lt_of_not_le hlarge)
      exact hnot (hpasses h hword hfind hp)
    · intro hsmall h _ _ hp
      exact hr.mem_of_passes hsmall hp

/-- Two handles are given out, 1 in slot 0 and 2 in slot 1. The handle of slot 0 and generation 2 is
none of them, and is told closed. -/
theorem exists_not_truthful :
    ¬ (after [.insert 1 (), .insert 1 ()]).Truthful (issuedBy [.insert 1 (), .insert 1 ()]) := by
  intro htruth
  have hclosed := (htruth (Handle.make 0 2) (by decide) rfl).1.mp rfl
  revert hclosed
  decide

end Registry

end DatabaseGateway
