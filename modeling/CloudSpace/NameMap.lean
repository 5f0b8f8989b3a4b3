/-!
# Maps by name

A finite map from names to values, held as a list of entries with strictly ascending keys.
Names compare character by character, which is also the order of their UTF-8 bytes. Two maps
with the same bindings are equal, because the order leaves one list for each set of bindings.
-/
namespace CloudSpace

variable {α β : Type}

/-- Entries with strictly ascending keys. -/
structure NameMap (α : Type) where
  entries : List (String × α)
  ascending : entries.Pairwise (fun first second => first.1 < second.1)

namespace NameMap

/-! ### Entry lists -/

/-- Put an entry in its place, in place of one with the same key. -/
def insertEntry (key : String) (value : α) : List (String × α) → List (String × α)
  | [] => [(key, value)]
  | (other, held) :: rest =>
    if key < other then (key, value) :: (other, held) :: rest
    else if key = other then (key, value) :: rest
    else (other, held) :: insertEntry key value rest

theorem mem_insertEntry {key : String} {value : α} {entry : String × α}
    {entries : List (String × α)} (member : entry ∈ insertEntry key value entries) :
    entry = (key, value) ∨ entry ∈ entries := by
  induction entries with
  | nil => simpa [insertEntry] using member
  | cons head rest ih =>
    obtain ⟨other, held⟩ := head
    rw [insertEntry] at member
    split at member
    · simpa using member
    · split at member
      · rcases List.mem_cons.1 member with h | h
        · exact Or.inl h
        · exact Or.inr (List.mem_cons_of_mem _ h)
      · rcases List.mem_cons.1 member with h | h
        · exact Or.inr (by simp [h])
        · exact (ih h).imp id (List.mem_cons_of_mem _)

theorem lt_of_not_lt_of_ne {first second : String} (notLess : ¬ first < second)
    (distinct : first ≠ second) : second < first := by
  rcases Decidable.em (second < first) with h | h
  · exact h
  · exact absurd (String.le_antisymm (String.not_lt.1 h) (String.not_lt.1 notLess)) distinct

theorem ascending_insertEntry {key : String} {value : α} {entries : List (String × α)}
    (ascending : entries.Pairwise (fun first second => first.1 < second.1)) :
    (insertEntry key value entries).Pairwise (fun first second => first.1 < second.1) := by
  induction entries with
  | nil => simp [insertEntry]
  | cons head rest ih =>
    obtain ⟨other, held⟩ := head
    obtain ⟨below, sorted⟩ := List.pairwise_cons.1 ascending
    rw [insertEntry]
    split
    next less =>
      refine List.pairwise_cons.2 ⟨?_, ascending⟩
      intro entry member
      rcases List.mem_cons.1 member with h | h
      · subst h; exact less
      · exact String.lt_trans less (below entry h)
    next notLess =>
      split
      next equal => subst equal; exact List.pairwise_cons.2 ⟨below, sorted⟩
      next distinct =>
        refine List.pairwise_cons.2 ⟨?_, ih sorted⟩
        intro entry member
        rcases mem_insertEntry member with h | h
        · subst h; exact lt_of_not_lt_of_ne notLess distinct
        · exact below entry h

/-! ### Operations -/

/-- The map without entries. -/
def empty : NameMap α := ⟨[], List.Pairwise.nil⟩

instance : EmptyCollection (NameMap α) := ⟨empty⟩

instance : Inhabited (NameMap α) := ⟨empty⟩

/-- Bind a name, in place of its old binding. -/
def insert (map : NameMap α) (key : String) (value : α) : NameMap α :=
  ⟨insertEntry key value map.entries, ascending_insertEntry map.ascending⟩

/-- Drop the binding of a name. -/
def erase (map : NameMap α) (key : String) : NameMap α :=
  ⟨map.entries.filter (fun entry => entry.1 != key), map.ascending.filter _⟩

/-- The value bound to a name. -/
def get? (map : NameMap α) (key : String) : Option α :=
  (map.entries.find? (fun entry => entry.1 == key)).map (·.2)

/-- Whether a name is bound. -/
def contains (map : NameMap α) (key : String) : Bool :=
  map.entries.any (fun entry => entry.1 == key)

/-- The names, ascending. -/
def keys (map : NameMap α) : List String := map.entries.map (·.1)

/-- The values, in the order of their names. -/
def values (map : NameMap α) : List α := map.entries.map (·.2)

def size (map : NameMap α) : Nat := map.entries.length

def isEmpty (map : NameMap α) : Bool := map.entries.isEmpty

/-- The map of a list of bindings; of two with one name the later counts. -/
def ofList (bindings : List (String × α)) : NameMap α :=
  bindings.foldl (fun map binding => map.insert binding.1 binding.2) empty

/-- Apply a function to every value. -/
def map (f : α → β) (names : NameMap α) : NameMap β :=
  ⟨names.entries.map (fun entry => (entry.1, f entry.2)), by
    rw [List.pairwise_map]; exact names.ascending⟩

/-- Change the value of a name that is bound. -/
def modify (names : NameMap α) (key : String) (f : α → α) : NameMap α :=
  ⟨names.entries.map (fun entry => (entry.1, if entry.1 = key then f entry.2 else entry.2)), by
    rw [List.pairwise_map]; exact names.ascending⟩

theorem ext_entries {first second : NameMap α} (equal : first.entries = second.entries) :
    first = second := by
  cases first; cases second; cases equal; rfl

instance [DecidableEq α] : DecidableEq (NameMap α) := fun first second =>
  if h : first.entries = second.entries then isTrue (ext_entries h)
  else isFalse (fun equal => h (equal ▸ rfl))

end NameMap

/-- The distinct texts of a list, ascending. -/
def distinctSorted (texts : List String) : List String :=
  (NameMap.ofList (texts.map (·, ()))).keys

end CloudSpace
