import CloudSpace.Diff
import CloudSpace.Proofs.NameMap

/-!
# Differences of lists and maps

Lists of names differ as sets and maps key by key, and each kind of difference is listed in
ascending order. Such a list is therefore determined by its elements, which tells what is left
of a difference once a part of it has been made good: the other part, in the same order.
-/
namespace CloudSpace

/-! ### Lists as sets -/

theorem mem_collectionDelta_added {live desired : List String} {name : String} :
    name ∈ (collectionDelta live desired).1 ↔ name ∈ desired ∧ name ∉ live := by
  simp [collectionDelta, mem_distinctSorted]

theorem mem_collectionDelta_removed {live desired : List String} {name : String} :
    name ∈ (collectionDelta live desired).2 ↔ name ∈ live ∧ name ∉ desired := by
  simp [collectionDelta, mem_distinctSorted]

theorem ascending_collectionDelta (live desired : List String) :
    (collectionDelta live desired).1.Pairwise (· < ·) ∧
      (collectionDelta live desired).2.Pairwise (· < ·) :=
  ⟨ascending_distinctSorted _, ascending_distinctSorted _⟩

/-- Names in ascending order, each of them once, that are just those with a property. -/
def ListsExactly (names : List String) (property : String → Prop) : Prop :=
  names.Pairwise (· < ·) ∧ ∀ name, name ∈ names ↔ property name

theorem listsExactly_added (live desired : List String) :
    ListsExactly (collectionDelta live desired).1 fun name => name ∈ desired ∧ name ∉ live :=
  ⟨(ascending_collectionDelta _ _).1, fun _ => mem_collectionDelta_added⟩

theorem listsExactly_removed (live desired : List String) :
    ListsExactly (collectionDelta live desired).2 fun name => name ∈ live ∧ name ∉ desired :=
  ⟨(ascending_collectionDelta _ _).2, fun _ => mem_collectionDelta_removed⟩

theorem collectionDelta_self (names : List String) : collectionDelta names names = ([], []) := by
  have none : names.filter (fun name => !names.contains name) = [] := by simp
  rw [collectionDelta, none, distinctSorted_nil]

/-- Lists that are equal as sets. -/
def SameMembers (first second : List String) : Prop := ∀ name, name ∈ first ↔ name ∈ second

/-- Nothing is to be added or removed exactly where the same names are listed, in whatever order. -/
theorem collectionDelta_empty_iff {live desired : List String} :
    (collectionDelta live desired).1 = [] ∧ (collectionDelta live desired).2 = [] ↔
      SameMembers live desired := by
  simp only [List.eq_nil_iff_forall_not_mem, mem_collectionDelta_added,
    mem_collectionDelta_removed, not_and, not_not, SameMembers]
  exact ⟨fun ⟨gained, lost⟩ name => ⟨lost name, gained name⟩,
    fun same => ⟨fun name => (same name).mpr, fun name => (same name).mp⟩⟩

/-- Taking away what is not desired and adding what is missing leaves what is desired. -/
theorem sameMembers_collectionDelta {live desired : List String} :
    SameMembers
      (live.filter (fun name => !(collectionDelta live desired).2.contains name) ++
        (collectionDelta live desired).1) desired := by
  intro name
  simp only [List.mem_append, List.mem_filter, Bool.not_eq_true', List.contains_eq_mem,
    decide_eq_false_iff_not, mem_collectionDelta_removed, mem_collectionDelta_added]
  by_cases isHeld : name ∈ live <;> by_cases isWanted : name ∈ desired <;> simp [isHeld, isWanted]

/-- Of the names to be added those remain that were not gained, and of the names to be removed
those that were not dropped. -/
theorem collectionDelta_after {live desired after : List String} (gained dropped : String → Bool)
    (members : ∀ name, name ∈ after ↔
      (name ∈ live ∨ name ∈ (collectionDelta live desired).1 ∧ gained name = true) ∧
        ¬ (name ∈ (collectionDelta live desired).2 ∧ dropped name = true)) :
    collectionDelta after desired =
      ((collectionDelta live desired).1.filter fun name => !gained name,
       (collectionDelta live desired).2.filter fun name => !dropped name) := by
  have ascending := ascending_collectionDelta live desired
  have ascendingAfter := ascending_collectionDelta after desired
  -- Both lists ascend before and after, so that only their members have to be compared.
  apply Prod.ext
  · apply ascending_ext ascendingAfter.1 (ascending.1.filter _)
    intro name
    simp only [List.mem_filter, members, mem_collectionDelta_added, mem_collectionDelta_removed,
      Bool.not_eq_true']
    by_cases wanted : name ∈ desired <;> by_cases held : name ∈ live <;> simp [wanted, held]
  · apply ascending_ext ascendingAfter.2 (ascending.2.filter _)
    intro name
    simp only [List.mem_filter, members, mem_collectionDelta_added, mem_collectionDelta_removed,
      Bool.not_eq_true']
    by_cases wanted : name ∈ desired <;> by_cases held : name ∈ live <;> simp [wanted, held]

/-! ### Maps -/

theorem entryDelta_key {live desired : NameMap String} {key : String} {entry : EntryChange}
    (changed : entryDelta live desired key = some entry) : entry.key = key := by
  unfold entryDelta at changed
  split at changed
  · cases changed; rfl
  · cases changed; rfl
  · split at changed
    · cases changed
    · cases changed; rfl
  · cases changed

theorem entryDelta_eq_none_iff {live desired : NameMap String} {key : String} :
    entryDelta live desired key = none ↔ live.get? key = desired.get? key := by
  unfold entryDelta
  split <;> simp_all

/-- What a changed entry holds afterwards is what is desired, and it is taken away exactly if
nothing is. -/
theorem entryDelta_after {live desired : NameMap String} {key : String} {entry : EntryChange}
    (changed : entryDelta live desired key = some entry) :
    entry.after = desired.get? key ∧ (entry.kind = .removed ↔ desired.get? key = none) := by
  unfold entryDelta at changed
  split at changed
  next _ wanted => cases changed; simp [wanted]
  next _ absent => cases changed; simp [absent]
  next _ wanted =>
    split at changed
    · cases changed
    · cases changed; simp [wanted]
  next => cases changed

/-- What a changed entry held before is what is live, and it is a new one exactly if nothing is. -/
theorem entryDelta_before {live desired : NameMap String} {key : String} {entry : EntryChange}
    (changed : entryDelta live desired key = some entry) :
    entry.before = live.get? key ∧ (entry.kind = .added ↔ live.get? key = none) := by
  unfold entryDelta at changed
  split at changed
  next absent _ => cases changed; simp [absent]
  next held _ => cases changed; simp [held]
  next held _ =>
    split at changed
    · cases changed
    · cases changed; simp [held]
  next => cases changed

/-- The changes of a map are what changes under each of its keys. -/
theorem mem_mapDelta {live desired : NameMap String} {entry : EntryChange} :
    entry ∈ mapDelta live desired ↔ entryDelta live desired entry.key = some entry := by
  simp only [mapDelta, List.mem_filterMap, mem_distinctSorted, List.mem_append]
  constructor
  · rintro ⟨key, _, changed⟩
    rwa [entryDelta_key changed]
  · intro changed
    refine ⟨entry.key, ?_, changed⟩
    -- A key that neither map binds does not differ.
    by_contra absent
    have unbound : live.get? entry.key = none ∧ desired.get? entry.key = none := by
      simpa only [NameMap.get?_eq_none_iff, not_or] using absent
    rw [entryDelta_eq_none_iff.mpr (unbound.1.trans unbound.2.symm)] at changed
    cases changed

/-- The changes ascend by key, so that there is one for each key at most. -/
theorem ascending_mapDelta (live desired : NameMap String) :
    (mapDelta live desired).Pairwise (fun first second => first.key < second.key) := by
  rw [mapDelta, List.pairwise_filterMap]
  refine (ascending_distinctSorted _).imp ?_
  intro first second less entry changed other changedOther
  rwa [entryDelta_key changed, entryDelta_key changedOther]

theorem mapDelta_self (map : NameMap String) : mapDelta map map = [] := by
  apply List.eq_nil_iff_forall_not_mem.mpr
  intro entry member
  rw [mem_mapDelta, entryDelta_eq_none_iff.mpr rfl] at member
  cases member

theorem mem_keys_mapDelta {live desired : NameMap String} {key : String} :
    key ∈ (mapDelta live desired).map (·.key) ↔ live.get? key ≠ desired.get? key := by
  rw [ne_eq, ← entryDelta_eq_none_iff, List.mem_map]
  constructor
  · rintro ⟨change, member, rfl⟩ none
    rw [mem_mapDelta.mp member] at none
    cases none
  · intro differs
    obtain ⟨change, changed⟩ := Option.ne_none_iff_exists'.mp differs
    have isKey := entryDelta_key changed
    exact ⟨change, mem_mapDelta.mpr (isKey.symm ▸ changed), isKey⟩

theorem listsExactly_mapDelta (live desired : NameMap String) :
    ListsExactly ((mapDelta live desired).map (·.key)) fun key =>
      live.get? key ≠ desired.get? key :=
  ⟨List.pairwise_map.mpr (ascending_mapDelta _ _), fun _ => mem_keys_mapDelta⟩

theorem mapDelta_empty_iff {live desired : NameMap String} :
    mapDelta live desired = [] ↔ live = desired := by
  constructor
  · intro empty
    apply NameMap.ext_get?
    intro key
    by_contra differs
    simpa [empty] using mem_keys_mapDelta.mpr differs
  · rintro rfl
    exact mapDelta_self live

/-- Of the entries that differ those remain whose keys were not brought to their values. -/
theorem mapDelta_after {live desired after : NameMap String} (done : String → Bool)
    (lookups : ∀ key, after.get? key = if done key then desired.get? key else live.get? key) :
    mapDelta after desired = (mapDelta live desired).filter fun entry => !done entry.key := by
  -- Key by key, what was brought to its desired value no longer differs and the rest is as before.
  have delta : ∀ key, entryDelta after desired key =
      if done key then none else entryDelta live desired key := by
    intro key
    split
    next yes => exact entryDelta_eq_none_iff.mpr (by rw [lookups, if_pos yes])
    next no => simp only [entryDelta, lookups, if_neg no]
  apply ascending_ext_of_key EntryChange.key (ascending_mapDelta after desired)
    ((ascending_mapDelta live desired).filter _)
  intro entry
  simp only [List.mem_filter, mem_mapDelta, delta, Bool.not_eq_true']
  by_cases yes : done entry.key = true <;> simp [yes]

/-! ### Bringing a map to its desired values -/

/-- A map after one of its entries was changed. -/
def settleEntry (map : NameMap String) (entry : EntryChange) : NameMap String :=
  match entry.kind with
  | .removed => map.erase entry.key
  | _ => map.insert entry.key (entry.after.getD "")

theorem get?_settleEntry {live desired : NameMap String} {entry : EntryChange}
    (changed : entry ∈ mapDelta live desired) (map : NameMap String) (key : String) :
    (settleEntry map entry).get? key =
      if key = entry.key then desired.get? key else map.get? key := by
  obtain ⟨after, removed⟩ := entryDelta_after (mem_mapDelta.mp changed)
  rw [settleEntry]
  split
  -- The key is to be taken away, which is so exactly where nothing is desired under it.
  next taken =>
    rw [NameMap.get?_erase]
    split
    next same => rw [same, removed.mp taken]
    next => rfl
  next kept =>
    rw [NameMap.get?_insert]
    split
    next same =>
      cases held : desired.get? entry.key with
      | none => exact absurd (removed.mpr held) kept
      | some value => rw [after, held, same, held, Option.getD_some]
    next => rfl

/-- Changing entries that differ brings their keys to their desired values. -/
theorem get?_foldl_settleEntry {live desired : NameMap String} (entries : List EntryChange)
    (changed : ∀ entry ∈ entries, entry ∈ mapDelta live desired) (map : NameMap String)
    (key : String) :
    (entries.foldl settleEntry map).get? key =
      if key ∈ entries.map (·.key) then desired.get? key else map.get? key := by
  induction entries generalizing map with
  | nil => simp
  | cons entry rest ih =>
    rw [List.foldl_cons, ih fun other member => changed other (List.mem_cons_of_mem _ member),
      get?_settleEntry (changed entry List.mem_cons_self)]
    by_cases same : key = entry.key
    · simp [same]
    · simp [same]

/-- Changing all entries that differ leaves the map that is desired. -/
theorem foldl_settleEntry_mapDelta {live desired : NameMap String} :
    (mapDelta live desired).foldl settleEntry live = desired := by
  apply NameMap.ext_get?
  intro key
  rw [get?_foldl_settleEntry _ (fun _ member => member)]
  split
  next => rfl
  next same => simpa [mem_keys_mapDelta] using same

end CloudSpace
