import CloudSpace.NameMap
import Mathlib.Data.List.Basic

/-!
# Lookups in maps by name

A map is what its lookups say: every operation changes the lookup of the names it is given and no
other, and two maps with the same lookups are equal. Strictly ascending lists are the other way
to see a map, and such a list is determined by its elements.
-/
namespace CloudSpace

variable {α β : Type}

/-! ### Ascending lists -/

/-- A list in the strict order of its keys is determined by its elements. -/
theorem ascending_ext_of_key (key : α → String) {first second : List α}
    (ascendingFirst : first.Pairwise (fun a b => key a < key b))
    (ascendingSecond : second.Pairwise (fun a b => key a < key b))
    (same : ∀ a, a ∈ first ↔ a ∈ second) : first = second := by
  have distinct : ∀ {a b : α}, key a < key b → a ≠ b := by
    rintro a b less rfl
    exact String.lt_irrefl _ less
  have perm : first.Perm second :=
    (List.perm_ext_iff_of_nodup (ascendingFirst.imp distinct)
      (ascendingSecond.imp distinct)).mpr same
  -- Two lists with the same elements are permutations, and the strict order leaves one of them.
  exact perm.eq_of_pairwise (fun _ _ _ _ less greater => absurd greater (String.lt_asymm less))
    ascendingFirst ascendingSecond

/-- An ascending list of names is determined by its elements. -/
theorem ascending_ext {first second : List String}
    (ascendingFirst : first.Pairwise (· < ·)) (ascendingSecond : second.Pairwise (· < ·))
    (same : ∀ name, name ∈ first ↔ name ∈ second) : first = second :=
  ascending_ext_of_key id ascendingFirst ascendingSecond same

/-- Names that contribute nothing can be left out of an ascending list. -/
theorem flatMap_of_ascending (names : List String) {larger : List String} (f : String → List β)
    (ascending : names.Pairwise (· < ·)) (ascendingLarger : larger.Pairwise (· < ·))
    (included : ∀ name ∈ names, name ∈ larger)
    (nothing : ∀ name ∈ larger, name ∉ names → f name = []) :
    larger.flatMap f = names.flatMap f := by
  have kept : larger.filter (· ∈ names) = names := by
    apply ascending_ext (ascendingLarger.filter _) ascending
    intro name
    simp only [List.mem_filter, decide_eq_true_eq]
    exact ⟨fun both => both.2, fun member => ⟨included name member, member⟩⟩
  -- By induction on the larger list, without the order, which only the last step needs.
  have split : ∀ all : List String, (∀ name ∈ all, name ∉ names → f name = []) →
      all.flatMap f = (all.filter (· ∈ names)).flatMap f := by
    intro all
    induction all with
    | nil => simp
    | cons name rest ih =>
      intro empty
      have tail := ih fun other member => empty other (List.mem_cons_of_mem _ member)
      by_cases member : name ∈ names
      · simp [member, tail]
      · simp [member, tail, empty name List.mem_cons_self member]
  rw [split larger nothing, kept]

section

-- What each name of an ascending list contributes carries that name as its key.

variable {names : List String} {block : String → List β} (key : β → String)

theorem filter_flatMap_of_ascending (ascending : names.Pairwise (· < ·))
    (keyed : ∀ name, ∀ one ∈ block name, key one = name) (name : String)
    (nothing : name ∉ names → block name = []) :
    (names.flatMap block).filter (key · = name) = block name := by
  -- The block of a name has nothing but that name's, and the other blocks nothing of it.
  have own : (block name).filter (key · = name) = block name :=
    List.filter_eq_self.mpr (by simpa using keyed name)
  have others : ∀ other, other ≠ name → (block other).filter (key · = name) = [] := by
    intro other distinct
    apply List.filter_eq_nil_iff.mpr
    intro one member same
    exact distinct ((keyed other one member).symm.trans (by simpa using same))
  rw [List.filter_flatMap]
  by_cases member : name ∈ names
  · rw [flatMap_of_ascending [name] _ (List.pairwise_singleton _ _) ascending
      (by simpa using member) (fun other _ absent => others other (by simpa using absent)),
      List.flatMap_singleton, own]
  · rw [nothing member, List.flatMap_eq_nil_iff]
    intro other present
    apply others
    rintro rfl
    exact member present

/-- Blocks of one element each are as ascending as the names they are of. -/
theorem ascending_flatMap (ascending : names.Pairwise (· < ·))
    (keyed : ∀ name, ∀ one ∈ block name, key one = name)
    (single : ∀ name, (block name).length ≤ 1) :
    (names.flatMap block).Pairwise (fun first second => key first < key second) := by
  refine List.pairwise_flatMap.mpr ⟨?_, ascending.imp ?_⟩
  · intro name _
    have short := single name
    match given : block name with
    | [] => exact .nil
    | [_] => exact List.pairwise_singleton _ _
    | _ :: _ :: _ => simp [given] at short
  · intro name other less first isFirst second isSecond
    rwa [keyed name first isFirst, keyed other second isSecond]

end

namespace NameMap

/-! ### Lookups -/

/-- Looking up a name finds the value of the only entry with that name. -/
theorem get?_eq_some_iff {map : NameMap α} {key : String} {value : α} :
    map.get? key = some value ↔ (key, value) ∈ map.entries := by
  obtain ⟨entries, ascending⟩ := map
  simp only [get?, Option.map_eq_some_iff]
  constructor
  · rintro ⟨⟨other, held⟩, found, rfl⟩
    have same : other = key := by simpa using List.find?_some found
    exact same ▸ List.mem_of_find?_eq_some found
  · intro member
    -- The head is either the entry looked for or has a smaller key, which the search passes over.
    induction entries with
    | nil => simp at member
    | cons head rest ih =>
      obtain ⟨below, sorted⟩ := List.pairwise_cons.mp ascending
      rcases List.mem_cons.mp member with rfl | tail
      · exact ⟨(key, value), by simp, rfl⟩
      · have other : head.1 ≠ key := String.ne_of_lt (below _ tail)
        simpa [List.find?_cons, other] using ih sorted tail

theorem contains_eq_isSome (map : NameMap α) (key : String) :
    map.contains key = (map.get? key).isSome := by
  simp [contains, get?, List.isSome_find?]

theorem mem_keys {map : NameMap α} {key : String} :
    key ∈ map.keys ↔ (map.get? key).isSome := by
  rw [Option.isSome_iff_exists]
  simp only [get?_eq_some_iff, keys, List.mem_map, Prod.exists, exists_and_right, exists_eq_right]

theorem get?_eq_none_iff {map : NameMap α} {key : String} :
    map.get? key = none ↔ key ∉ map.keys := by
  rw [mem_keys]
  simp

theorem ascending_keys (map : NameMap α) : map.keys.Pairwise (· < ·) :=
  List.pairwise_map.mpr map.ascending

/-- Maps with the same lookups are equal. -/
theorem ext_get? {first second : NameMap α}
    (same : ∀ key, first.get? key = second.get? key) : first = second := by
  apply ext_entries
  apply ascending_ext_of_key Prod.fst first.ascending second.ascending
  rintro ⟨key, value⟩
  rw [← get?_eq_some_iff, ← get?_eq_some_iff, same key]

/-- Maps that bind the same names list the same names. -/
theorem keys_eq_of_isSome {first : NameMap α} {second : NameMap β}
    (same : ∀ key, (first.get? key).isSome = (second.get? key).isSome) :
    first.keys = second.keys := by
  apply ascending_ext first.ascending_keys second.ascending_keys
  intro key
  rw [mem_keys, mem_keys, same]

@[simp] theorem get?_empty (key : String) : (∅ : NameMap α).get? key = none := rfl

@[simp] theorem keys_empty : (∅ : NameMap α).keys = [] := rfl

@[simp] theorem entries_empty : (∅ : NameMap α).entries = [] := rfl

/-- Only the name that was inserted is found differently afterwards. -/
theorem find?_insertEntry (key other : String) (value : α) (entries : List (String × α)) :
    (insertEntry key value entries).find? (fun entry => entry.1 == other) =
      if other = key then some (key, value)
      else entries.find? (fun entry => entry.1 == other) := by
  -- By induction on the entries, along the branches of the insertion: before, at, or after the
  -- head.
  induction entries with
  | nil => by_cases same : other = key <;> simp [insertEntry, same, eq_comm (a := key)]
  | cons head rest ih =>
    obtain ⟨name, held⟩ := head
    rw [insertEntry]
    split
    · by_cases same : other = key <;> simp [List.find?_cons, same, eq_comm (a := key)]
    · split
      next equal =>
        subst equal
        by_cases same : other = key <;> simp [same, eq_comm (a := key)]
      next distinct =>
        by_cases here : name = other
        · subst here
          simp [Ne.symm distinct]
        · simp [here, ih]

theorem get?_insert (map : NameMap α) (key other : String) (value : α) :
    (map.insert key value).get? other = if other = key then some value else map.get? other := by
  simp only [get?, insert, find?_insertEntry]
  split <;> rfl

/-- A map without a name has all others as before. -/
theorem get?_erase (map : NameMap α) (key other : String) :
    (map.erase key).get? other = if other = key then none else map.get? other := by
  simp only [get?, erase, List.find?_filter]
  split
  next same =>
    subst same
    rw [List.find?_eq_none.mpr (by simp), Option.map_none]
  next distinct =>
    congr 2
    funext entry
    by_cases here : entry.1 = other <;> simp [here, distinct]

/-- What is modified is the value of one name, if there is any. -/
theorem get?_modify (map : NameMap α) (key other : String) (f : α → α) :
    (map.modify key f).get? other =
      if other = key then (map.get? other).map f else map.get? other := by
  -- Modifying keeps the names, so that the same entry is found before and after.
  have found : (map.modify key f).get? other =
      ((map.entries.find? (fun entry => entry.1 == other)).map
        fun entry => if entry.1 = key then f entry.2 else entry.2) := by
    simp only [get?, modify, List.find?_map, Option.map_map]
    rfl
  rw [found]
  simp only [get?]
  cases h : map.entries.find? (fun entry => entry.1 == other) with
  | none => simp
  | some entry =>
    have same : entry.1 = other := by simpa using List.find?_some h
    by_cases equal : other = key <;> simp [same, equal]

theorem get?_map (map : NameMap α) (f : α → β) (key : String) :
    (map.map f).get? key = (map.get? key).map f := by
  simp only [get?, NameMap.map, List.find?_map, Option.map_map]
  rfl

/-- In a list of bindings the last one of a name counts. -/
theorem get?_ofList (bindings : List (String × α)) (key : String) :
    (ofList bindings).get? key =
      (bindings.reverse.find? fun binding => binding.1 == key).map (·.2) := by
  -- By induction on the bindings, for any map that they are put into.
  have onto : ∀ map : NameMap α,
      (bindings.foldl (fun map binding => map.insert binding.1 binding.2) map).get? key =
        ((bindings.reverse.find? fun binding => binding.1 == key).map (·.2)).or (map.get? key) := by
    induction bindings with
    | nil => exact fun map => rfl
    | cons binding rest ih =>
      intro map
      rw [List.foldl_cons, ih, get?_insert, List.reverse_cons, List.find?_append, Option.map_or,
        Option.or_assoc]
      congr 1
      by_cases same : binding.1 = key
      · simp [same]
      · simp [same, Ne.symm same]
  exact (onto empty).trans (Option.or_none)

theorem mem_of_get?_ofList {bindings : List (String × α)} {key : String} {value : α}
    (bound : (ofList bindings).get? key = some value) : (key, value) ∈ bindings := by
  rw [get?_ofList, Option.map_eq_some_iff] at bound
  obtain ⟨⟨other, held⟩, found, rfl⟩ := bound
  have same : other = key := by simpa using List.find?_some found
  exact same ▸ List.mem_reverse.mp (List.mem_of_find?_eq_some found)

theorem exists_get?_ofList {bindings : List (String × α)} {key : String} {value : α}
    (member : (key, value) ∈ bindings) : ∃ found, (ofList bindings).get? key = some found := by
  rw [← Option.isSome_iff_exists, get?_ofList, Option.isSome_map, List.find?_isSome]
  exact ⟨(key, value), List.mem_reverse.mpr member, beq_self_eq_true key⟩

/-- A map is that of its own entries. -/
theorem ofList_entries (map : NameMap α) : ofList map.entries = map := by
  have held {key : String} {value : α} (bound : (ofList map.entries).get? key = some value) :
      map.get? key = some value := get?_eq_some_iff.mpr (mem_of_get?_ofList bound)
  apply ext_get?
  intro key
  cases found : (ofList map.entries).get? key with
  | some value => exact (held found).symm
  | none =>
    -- A name with an entry would be bound.
    cases bound : map.get? key with
    | none => rfl
    | some value =>
      obtain ⟨other, same⟩ := exists_get?_ofList (get?_eq_some_iff.mp bound)
      exact nomatch found.symm.trans same

/-! ### Entries -/

/-- Reading a map entry by entry is reading it name by name. -/
theorem flatMap_entries (map : NameMap α) (names : List String)
    (ascending : names.Pairwise (· < ·)) (covered : ∀ key ∈ map.keys, key ∈ names)
    (f : String → α → List β) :
    map.entries.flatMap (fun entry => f entry.1 entry.2) =
      names.flatMap fun name => ((map.get? name).map (f name)).getD [] := by
  -- The keys of a map are one ascending list of names, and every covering list contains them.
  have byKey : map.entries.flatMap (fun entry => f entry.1 entry.2) =
      map.keys.flatMap fun name => ((map.get? name).map (f name)).getD [] := by
    rw [keys, List.flatMap_map]
    apply List.flatMap_congr
    rintro ⟨key, value⟩ member
    simp [get?_eq_some_iff.mpr member]
  rw [byKey]
  symm
  apply flatMap_of_ascending _ _ map.ascending_keys ascending covered
  intro name _ absent
  simp [get?_eq_none_iff.mpr absent]

/-! ### Sizes -/

theorem nodup_keys (map : NameMap α) : map.keys.Nodup :=
  map.ascending_keys.imp fun less => String.ne_of_lt less

theorem length_keys (map : NameMap α) : map.keys.length = map.size := by
  rw [keys, List.length_map, size]

theorem contains_iff_mem_keys {map : NameMap α} {key : String} :
    map.contains key = true ↔ key ∈ map.keys := by
  rw [contains_eq_isSome, mem_keys]

/-- A map has as many entries as there are names with a binding. -/
theorem size_eq_length {map : NameMap α} {names : List String} (distinct : names.Nodup)
    (bound : ∀ name, name ∈ names ↔ (map.get? name).isSome) : map.size = names.length := by
  have perm : map.keys.Perm names :=
    (List.perm_ext_iff_of_nodup map.nodup_keys distinct).mpr fun name =>
      mem_keys.trans (bound name).symm
  rw [← length_keys, perm.length_eq]

/-- A map grows by one when a new name is inserted and stays as large otherwise. -/
theorem size_insert (map : NameMap α) (key : String) (value : α) :
    (map.insert key value).size = if map.contains key then map.size else map.size + 1 := by
  -- The names are counted, which are the old ones if the name was among them.
  split
  next held =>
    rw [← length_keys map]
    refine size_eq_length map.nodup_keys fun name => ?_
    rw [get?_insert]
    by_cases same : name = key
    · simpa [same] using contains_iff_mem_keys.mp held
    · simp [same, mem_keys]
  next free =>
    rw [contains_iff_mem_keys] at free
    rw [← length_keys map, ← List.length_cons (a := key)]
    refine size_eq_length (List.nodup_cons.mpr ⟨free, map.nodup_keys⟩) fun name => ?_
    rw [get?_insert]
    by_cases same : name = key
    · simp [same]
    · simp [same, mem_keys]

theorem size_erase (map : NameMap α) (key : String) :
    (map.erase key).size = if map.contains key then map.size - 1 else map.size := by
  have remaining : (map.erase key).size = (map.keys.erase key).length := by
    refine size_eq_length (map.nodup_keys.erase key) fun name => ?_
    rw [map.nodup_keys.mem_erase_iff, get?_erase, mem_keys]
    by_cases same : name = key <;> simp [same]
  rw [remaining, List.length_erase, length_keys]
  simp only [contains_iff_mem_keys]

theorem size_modify (map : NameMap α) (key : String) (f : α → α) :
    (map.modify key f).size = map.size := by
  rw [size, modify, List.length_map, size]

end NameMap

/-! ### Distinct names -/

theorem mem_keys_foldl_insert (bindings : List (String × α)) (map : NameMap α) (key : String) :
    key ∈ (bindings.foldl (fun map binding => map.insert binding.1 binding.2) map).keys ↔
      key ∈ map.keys ∨ ∃ value, (key, value) ∈ bindings := by
  induction bindings generalizing map with
  | nil => simp
  | cons binding rest ih =>
    obtain ⟨name, held⟩ := binding
    rw [List.foldl_cons, ih]
    simp only [NameMap.mem_keys, NameMap.get?_insert, List.mem_cons, Prod.mk.injEq]
    by_cases same : key = name
    · simp [same]
    · simp [same]

theorem mem_distinctSorted {texts : List String} {text : String} :
    text ∈ distinctSorted texts ↔ text ∈ texts := by
  rw [distinctSorted, NameMap.ofList, mem_keys_foldl_insert]
  simp [NameMap.empty, NameMap.keys]

theorem ascending_distinctSorted (texts : List String) :
    (distinctSorted texts).Pairwise (· < ·) :=
  NameMap.ascending_keys _

@[simp] theorem distinctSorted_nil : distinctSorted [] = [] := rfl

end CloudSpace
