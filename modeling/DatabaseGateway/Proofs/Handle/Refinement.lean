import DatabaseGateway.Proofs.Handle.Entries

/-!
The table of handles is a finite map whose keys are never used again. The map knows nothing of slots
and generations: it has the entries that are live, each under its handle, and it remembers every
handle that it has given out. Each call on the table is a step of the map, and so is every sequence
of calls that starts from the empty table.
-/

namespace DatabaseGateway

/-- How many words of 64 bits there are. -/
def Handle.wordBound : Nat := 0x10000000000000000

theorem Handle.lt_wordBound {h : Handle} (hgen : h.generation < generationBound) :
    h < wordBound := by
  unfold generation at hgen
  rw [Nat.div_lt_iff_lt_mul (by decide)] at hgen
  exact hgen

namespace Registry

inductive Call (α : Type) where
  | insert (owner : InstanceId) (item : α)
  | get (h : Handle)
  | remove (h : Handle)
  | drainOwner (owner : InstanceId)
  | drainAll
  | countOwnedBy (owner : InstanceId)
  | size

inductive Answer (α : Type) where
  | handle (h : Handle)
  | entry (entry : Entry α)
  | entries (taken : List (Handle × Entry α))
  | count (n : Nat)
  | failed (e : GatewayError)
  deriving DecidableEq

variable {α : Type}

def call (r : Registry α) : Call α → Answer α × Registry α
  | .insert owner item =>
    match r.insert owner item with
    | .ok (h, r') => (.handle h, r')
    | .error e => (.failed e, r)
  | .get h =>
    match r.get h with
    | .ok entry => (.entry entry, r)
    | .error e => (.failed e, r)
  | .remove h =>
    match r.remove h with
    | .ok (entry, r') => (.entry entry, r')
    | .error e => (.failed e, r)
  | .drainOwner owner => (.entries (r.drainOwner owner).1, (r.drainOwner owner).2)
  | .drainAll => (.entries r.drainAll.1, r.drainAll.2)
  | .countOwnedBy owner => (.count (r.countOwnedBy owner), r)
  | .size => (.count r.size, r)

def run (r : Registry α) : List (Call α) → List (Answer α) × Registry α
  | [] => ([], r)
  | c :: calls =>
    let (answer, r) := r.call c
    let (answers, r) := run r calls
    (answer :: answers, r)

theorem call_of_failed {r : Registry α} {c : Call α} {e : GatewayError}
    (h : (r.call c).1 = .failed e) : (r.call c).2 = r := by
  cases c with
  | insert owner item =>
      unfold call at h ⊢
      rcases hr : r.insert owner item with _ | ⟨handle, r'⟩
      · simp [hr]
      · simp [hr] at h
  | get handle =>
      unfold call
      rcases hr : r.get handle with _ | entry
      · simp [hr]
      · simp [hr]
  | remove handle =>
      unfold call at h ⊢
      rcases hr : r.remove handle with _ | ⟨entry, r'⟩
      · simp [hr]
      · simp [hr] at h
  | drainOwner owner => cases h
  | drainAll => cases h
  | countOwnedBy owner => cases h
  | size => rfl

end Registry

/-- A finite map of handles: the entries that are live, and every handle that was ever given out. -/
structure HandleMap (α : Type) where
  live : List (Handle × Entry α) := []
  issued : List Handle := []

namespace HandleMap

open Registry (Call Answer)

variable {α : Type}

/-- What the map may answer to a call, and what it is from then on. The entry of a handle is what
was inserted under it, until it is taken out. -/
inductive Step (m : HandleMap α) : Call α → Answer α → HandleMap α → Prop
  | insert {owner : InstanceId} {item : α} {h : Handle}
      (generations : m.issued.length + 1 < Handle.generationBound)
      (slots : m.live.length < Handle.slotBound)
      (fresh : h ∉ m.issued) (nonzero : h ≠ 0) (word : h < Handle.wordBound) :
      Step m (.insert owner item) (.handle h)
        ⟨(h, ⟨h.generation, owner, item⟩) :: m.live, h :: m.issued⟩
  | exhausted {owner : InstanceId} {item : α}
      (generations : Handle.generationBound ≤ m.issued.length + 1) :
      Step m (.insert owner item) (.failed (.poolExhausted "handle generations exhausted")) m
  | full {owner : InstanceId} {item : α}
      (generations : m.issued.length + 1 < Handle.generationBound)
      (slots : Handle.slotBound ≤ m.live.length) :
      Step m (.insert owner item) (.failed (.poolExhausted "handle table is full")) m
  | get {h : Handle} {entry : Entry α} (live : (h, entry) ∈ m.live) :
      Step m (.get h) (.entry entry) m
  | getDead {h : Handle} {e : GatewayError} (dead : h ∉ m.live.map (·.1))
      (kind : e.kind = .closed) (closed : h ∈ m.issued → e = .handleClosed h) :
      Step m (.get h) (.failed e) m
  | remove {h : Handle} {entry : Entry α} (live : (h, entry) ∈ m.live) :
      Step m (.remove h) (.entry entry) ⟨m.live.filter fun x => !(x.1 == h), m.issued⟩
  | removeDead {h : Handle} {e : GatewayError} (dead : h ∉ m.live.map (·.1))
      (kind : e.kind = .closed) (closed : h ∈ m.issued → e = .handleClosed h) :
      Step m (.remove h) (.failed e) m
  | drainOwner {owner : InstanceId} {taken : List (Handle × Entry α)}
      (taken_perm : taken.Perm (m.live.filter fun x => x.2.owner == owner)) :
      Step m (.drainOwner owner) (.entries taken)
        ⟨m.live.filter fun x => !(x.2.owner == owner), m.issued⟩
  | drainAll {taken : List (Handle × Entry α)} (taken_perm : taken.Perm m.live) :
      Step m .drainAll (.entries taken) ⟨[], m.issued⟩
  | countOwnedBy {owner : InstanceId} :
      Step m (.countOwnedBy owner) (.count (m.live.countP fun x => x.2.owner == owner)) m
  | size : Step m .size (.count m.live.length) m

inductive Run : HandleMap α → List (Call α) → List (Answer α) → HandleMap α → Prop
  | nil (m : HandleMap α) : Run m [] [] m
  | cons {m m' m'' : HandleMap α} {c : Call α} {answer : Answer α} {calls : List (Call α)}
      {answers : List (Answer α)} (step : m.Step c answer m') (rest : Run m' calls answers m'') :
      Run m (c :: calls) (answer :: answers) m''

/-- Every handle is given out once, has at most one entry, and has none before it was given out. -/
structure Proper (m : HandleMap α) : Prop where
  issued_nodup : m.issued.Nodup
  live_nodup : (m.live.map (·.1)).Nodup
  live_issued : ∀ h ∈ m.live.map (·.1), h ∈ m.issued

theorem Proper.filter {m : HandleMap α} (hm : m.Proper) (p : Handle × Entry α → Bool) :
    Proper ⟨m.live.filter p, m.issued⟩ where
  issued_nodup := hm.issued_nodup
  live_nodup := hm.live_nodup.sublist (List.filter_sublist.map _)
  live_issued h hh := hm.live_issued h ((List.filter_sublist.map _).subset hh)

theorem Step.proper {m m' : HandleMap α} {c : Call α} {answer : Answer α}
    (h : m.Step c answer m') (hm : m.Proper) : m'.Proper := by
  cases h with
  | insert _ _ hfresh _ _ =>
      refine ⟨List.nodup_cons.mpr ⟨hfresh, hm.issued_nodup⟩,
        List.nodup_cons.mpr ⟨fun hlive => hfresh (hm.live_issued _ hlive), hm.live_nodup⟩, ?_⟩
      intro h hh
      rcases List.mem_cons.mp hh with rfl | hold
      · exact List.mem_cons_self
      · exact List.mem_cons_of_mem _ (hm.live_issued h hold)
  | remove => exact hm.filter _
  | drainOwner => exact hm.filter _
  | drainAll => exact ⟨hm.issued_nodup, List.nodup_nil, by simp⟩
  | exhausted | full | get | getDead | removeDead | countOwnedBy | size => exact hm

theorem Run.proper {m m' : HandleMap α} {calls : List (Call α)} {answers : List (Answer α)}
    (h : Run m calls answers m') (hm : m.Proper) : m'.Proper := by
  induction h with
  | nil => exact hm
  | cons hstep _ ih => exact ih (hstep.proper hm)

end HandleMap

namespace Registry

variable {α : Type} {r : Registry α} {m : HandleMap α}

/-- The table holds what the map holds, and each handle that was given out has used up one
generation. -/
structure Represents (r : Registry α) (m : HandleMap α) : Prop where
  sound : r.Sound
  entries : r.entries.Perm m.live
  generations : m.issued.length + 1 = r.nextGeneration
  issued : ∀ h ∈ m.issued,
    h.generation ≠ 0 ∧ h.generation < r.nextGeneration ∧ h.slot < r.slots.size

theorem represents_empty : ({} : Registry α).Represents {} where
  sound := sound_empty
  entries := .refl _
  generations := rfl
  issued h hh := by cases hh

theorem Represents.find?_eq_some (hr : r.Represents m) {h : Handle} {entry : Entry α}
    (hfind : r.find? h = some entry) : (h, entry) ∈ m.live :=
  hr.entries.mem_iff.mp (hr.sound.find?_eq_some_iff.mp hfind)

theorem Represents.find?_eq_none (hr : r.Represents m) {h : Handle} (hfind : r.find? h = none) :
    h ∉ m.live.map (·.1) := by
  rw [← (hr.entries.map _).mem_iff]
  exact hr.sound.find?_eq_none_iff.mp hfind

/-- The error for a handle that was given out says that the handle is closed. -/
theorem Represents.deadHandle (hr : r.Represents m) {h : Handle} (hh : h ∈ m.issued) :
    r.deadHandle h = .handleClosed h := by
  obtain ⟨hne, hlt, hslot⟩ := hr.issued h hh
  unfold Registry.deadHandle
  exact if_pos (by simp [hne, hlt, hslot])

/-- Slots are never given up. -/
theorem vacateAll_slots_size (r : Registry α) (slots : List Nat) :
    (r.vacateAll slots).2.slots.size = r.slots.size := by
  induction slots generalizing r with
  | nil => rfl
  | cons slot slots ih =>
      unfold vacateAll
      split
      · exact ih r
      · next entry r' hvacate =>
          obtain ⟨-, rfl⟩ := vacate_eq_some hvacate
          exact (ih _).trans Array.size_setIfInBounds

theorem remove_slots_size {r' : Registry α} {h : Handle} {entry : Entry α}
    (hremove : r.remove h = .ok (entry, r')) : r'.slots.size = r.slots.size := by
  unfold Registry.remove at hremove
  split at hremove
  · cases hremove
  · split at hremove
    · next taken hvacate =>
        obtain rfl := Except.ok.inj hremove
        obtain ⟨-, rfl⟩ := vacate_eq_some hvacate
        exact Array.size_setIfInBounds
    · cases hremove

theorem insert_slot (hr : r.Sound) {r' : Registry α} {owner : InstanceId} {item : α} {h : Handle}
    (hinsert : r.insert owner item = .ok (h, r')) :
    h.slot < r'.slots.size ∧ r.slots.size ≤ r'.slots.size := by
  obtain ⟨-, ⟨slot, free, hfree, rfl, rfl⟩ | ⟨-, hsize, rfl, rfl⟩⟩ := insert_cases hinsert
  · have hslot : r.slots[slot]? = some none := (hr.mem_free slot).mp (by simp [hfree])
    rw [Handle.slot_make (hr.slot_lt hslot), Array.size_setIfInBounds]
    exact ⟨(Array.getElem?_eq_some_iff.mp hslot).1, Nat.le_refl _⟩
  · rw [Handle.slot_make hsize, Array.size_push]
    exact ⟨Nat.lt_succ_self _, Nat.le_succ _⟩

theorem Represents.vacateAll (hr : r.Represents m) (p : Entry α → Bool) :
    (r.vacateAll (r.slotsWhere p)).1.Perm (m.live.filter fun x => p x.2) ∧
      (r.vacateAll (r.slotsWhere p)).2.Represents
        ⟨m.live.filter fun x => !p x.2, m.issued⟩ := by
  have hyields := vacateAll_yields r (r.slotsWhere p)
  have hsize := vacateAll_slots_size r (r.slotsWhere p)
  rw [vacateAll_slotsWhere] at hyields ⊢
  refine ⟨hr.entries.filter _, hyields.sound hr.sound,
    hyields.filter.trans (hr.entries.filter _), ?_, ?_⟩
  · rw [hyields.nextGeneration]
    exact hr.generations
  · rw [hyields.nextGeneration, hsize]
    exact hr.issued

/-- Inserting gives out a handle that is new, while there are generations and slots left. -/
theorem Represents.insert (hr : r.Represents m) (owner : InstanceId) (item : α) :
    ∃ m', m.Step (.insert owner item) (r.call (.insert owner item)).1 m' ∧
      (r.call (.insert owner item)).2.Represents m' := by
  have hlive := hr.entries.length_eq
  have hgenerations := hr.generations
  rcases hr.sound.insert_eq owner item with
    ⟨hgen, hinsert⟩ | ⟨hgen, hfull, hinsert⟩ | ⟨hgen, hroom, ⟨h, r'⟩, hinsert⟩
  · refine ⟨m, ?_, ?_⟩
    · simp only [call, hinsert]
      exact .exhausted (by omega)
    · simpa only [call, hinsert] using hr
  · refine ⟨m, ?_, ?_⟩
    · simp only [call, hinsert]
      exact .full (by omega) (by omega)
    · simpa only [call, hinsert] using hr
  · have hnew := hr.sound.insert_generation hinsert
    have hnext := insert_nextGeneration hinsert
    have hslot := insert_slot hr.sound hinsert
    have hpos := hr.sound.next_pos
    refine ⟨⟨(h, ⟨h.generation, owner, item⟩) :: m.live, h :: m.issued⟩, ?_, ?_⟩
    · simp only [call, hinsert]
      refine .insert (by omega) (by omega) ?_ ?_ ?_
      · intro hmem
        have := (hr.issued h hmem).2.1
        omega
      · rintro rfl
        have hzero : Handle.generation 0 = 0 := rfl
        omega
      · exact Handle.lt_wordBound (hnew ▸ hgen)
    · simp only [call, hinsert]
      refine ⟨hr.sound.insert hinsert, ?_, ?_, ?_⟩
      · rw [hnew]
        exact (hr.sound.insert_entries hinsert).trans (hr.entries.cons _)
      · rw [List.length_cons]
        omega
      · intro h' hh'
        rcases List.mem_cons.mp hh' with rfl | hold
        · exact ⟨by omega, by omega, hslot.1⟩
        · have := hr.issued h' hold
          exact ⟨this.1, by omega, by omega⟩

theorem Represents.get (hr : r.Represents m) (h : Handle) :
    ∃ m', m.Step (.get h) (r.call (.get h)).1 m' ∧ (r.call (.get h)).2.Represents m' := by
  refine ⟨m, ?_, ?_⟩
  · rcases hfind : r.find? h with _ | entry
    · simp only [call, get_of_find?_eq_none hfind]
      exact .getDead (hr.find?_eq_none hfind) (kind_deadHandle r h) hr.deadHandle
    · simp only [call, Registry.get, hfind]
      exact .get (hr.find?_eq_some hfind)
  · rcases hget : r.get h with _ | entry
    · simpa only [call, hget] using hr
    · simpa only [call, hget] using hr

theorem Represents.remove (hr : r.Represents m) (h : Handle) :
    ∃ m', m.Step (.remove h) (r.call (.remove h)).1 m' ∧
      (r.call (.remove h)).2.Represents m' := by
  rcases hfind : r.find? h with _ | entry
  · refine ⟨m, ?_, ?_⟩
    · simp only [call, remove_of_find?_eq_none hfind]
      exact .removeDead (hr.find?_eq_none hfind) (kind_deadHandle r h) hr.deadHandle
    · simpa only [call, remove_of_find?_eq_none hfind] using hr
  · obtain ⟨r', hremove⟩ := remove_of_find?_eq_some hfind
    have hyields := remove_yields hremove
    refine ⟨⟨m.live.filter fun x => !(x.1 == h), m.issued⟩, ?_, ?_⟩
    · simp only [call, hremove]
      exact .remove (hr.find?_eq_some hfind)
    · simp only [call, hremove]
      refine ⟨hyields.sound hr.sound, ?_, ?_, ?_⟩
      · -- No entry that stays is under the handle, since no handle has two entries.
        have hrest : (r'.entries.filter fun x => !(x.1 == h)) = r'.entries := by
          have hnodup := ((hyields.entries.map (·.1)).nodup_iff).mp hr.sound.handles_nodup
          rw [List.map_append, List.map_singleton, List.singleton_append, List.nodup_cons] at hnodup
          apply List.filter_eq_self.mpr
          intro x hx
          have hne : x.1 ≠ h := fun heq => hnodup.1 (List.mem_map.mpr ⟨x, hx, heq⟩)
          simp [hne]
        have hfilter := (hyields.entries.symm.trans hr.entries).filter fun x => !(x.1 == h)
        simpa [hrest] using hfilter
      · rw [hyields.nextGeneration]
        exact hr.generations
      · rw [hyields.nextGeneration, remove_slots_size hremove]
        exact hr.issued

/-- Each call on the table is a step of the map. -/
theorem Represents.call (hr : r.Represents m) (c : Call α) :
    ∃ m', m.Step c (r.call c).1 m' ∧ (r.call c).2.Represents m' := by
  cases c with
  | insert owner item => exact hr.insert owner item
  | get h => exact hr.get h
  | remove h => exact hr.remove h
  | drainOwner owner =>
      obtain ⟨htaken, hrest⟩ := hr.vacateAll fun entry => entry.owner == owner
      exact ⟨_, .drainOwner htaken, hrest⟩
  | drainAll =>
      obtain ⟨htaken, hrest⟩ := hr.vacateAll fun _ => true
      simp only [List.filter_true, Bool.not_true, List.filter_false] at htaken hrest
      exact ⟨_, .drainAll htaken, hrest⟩
  | countOwnedBy owner =>
      refine ⟨m, ?_, hr⟩
      have hcount := hr.entries.countP_eq fun x => x.2.owner == owner
      show m.Step _ (.count (r.countOwnedBy owner)) m
      rw [countOwnedBy_eq, hcount]
      exact .countOwnedBy
  | size =>
      refine ⟨m, ?_, hr⟩
      show m.Step _ (.count r.size) m
      rw [hr.sound.size_eq, hr.entries.length_eq]
      exact .size

/-- Each sequence of calls on the table is a run of the map. -/
theorem Represents.run (hr : r.Represents m) (calls : List (Call α)) :
    ∃ m', HandleMap.Run m calls (r.run calls).1 m' ∧ (r.run calls).2.Represents m' := by
  induction calls generalizing r m with
  | nil => exact ⟨m, .nil m, hr⟩
  | cons c calls ih =>
      obtain ⟨m', hstep, hr'⟩ := hr.call c
      obtain ⟨m'', hrest, hr''⟩ := ih hr'
      exact ⟨m'', .cons hstep hrest, hr''⟩

/-- Over every sequence of calls, the table of handles answers as a finite map whose keys are never
used again. At the end it holds what the map holds, the map has given out no handle twice, and the
free list names each vacant slot once. A call that fails leaves the table as it is. -/
theorem handle_table_refines_map (calls : List (Call α)) :
    ∃ (answers : List (Answer α)) (r : Registry α) (m : HandleMap α),
      ({} : Registry α).run calls = (answers, r) ∧ HandleMap.Run {} calls answers m ∧ m.Proper ∧
        r.entries.Perm m.live ∧ (∀ c e, (r.call c).1 = .failed e → (r.call c).2 = r) ∧
          r.free.Nodup ∧ ∀ slot : Nat, slot ∈ r.free ↔ r.slots[slot]? = some none := by
  obtain ⟨m, hrun, hr⟩ := represents_empty.run calls
  have hproper : m.Proper := hrun.proper ⟨List.nodup_nil, List.nodup_nil, by simp⟩
  exact ⟨_, _, m, rfl, hrun, hproper, hr.entries, fun _ _ => call_of_failed,
    hr.sound.free_nodup, hr.sound.mem_free⟩

end Registry

end DatabaseGateway
