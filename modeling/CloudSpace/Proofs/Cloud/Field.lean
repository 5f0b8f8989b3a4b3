import CloudSpace.Cloud.Resource
import CloudSpace.Proofs.NameMap
import Mathlib.Data.List.Forall2

/-!
# Fields of answers

What a field says is found by its name, wherever it stands in its record and whatever other fields
there are. Reading a field depends on nothing else, so that two records with the same fields of a
name are read alike.
-/
namespace CloudSpace

/-! ### Lists that are read item by item -/

section

variable {α β : Type} {read : α → Option β} {items : List α}

/-- A list is read where each of its items is, to a value each. -/
theorem mapM_eq_some_iff {values : List β} : items.mapM read = some values ↔
    List.Forall₂ (fun item value => read item = some value) items values := by
  induction items generalizing values with
  | nil => cases values <;> simp
  | cons item rest ih =>
    rw [List.mapM_cons]
    cases found : read item with
    | none => cases values <;> simp [found]
    | some value =>
      cases done : rest.mapM read with
      | none => cases values <;> simp [← ih, done]
      | some others => cases values <;> simp [← ih, done, found]

theorem exists_mapM_eq_some (each : ∀ item ∈ items, ∃ value, read item = some value) :
    ∃ values, items.mapM read = some values := by
  simp only [mapM_eq_some_iff]
  induction items with
  | nil => exact ⟨[], .nil⟩
  | cons item rest ih =>
    obtain ⟨value, found⟩ := each item List.mem_cons_self
    obtain ⟨values, done⟩ := ih fun other member => each other (List.mem_cons_of_mem _ member)
    exact ⟨value :: values, .cons found done⟩

/-- Whatever is read of some items is read of one of them. -/
theorem exists_left_of_forall₂ {fits : α → β → Prop} {values : List β}
    (fitting : List.Forall₂ fits items values) {value : β} (member : value ∈ values) :
    ∃ item ∈ items, fits item value := by
  induction fitting with
  | nil => exact nomatch member
  | cons fit _ ih =>
    rcases List.mem_cons.mp member with rfl | tail
    · exact ⟨_, List.mem_cons_self, fit⟩
    · obtain ⟨item, isItem, fit⟩ := ih tail
      exact ⟨item, List.mem_cons_of_mem _ isItem, fit⟩

end

namespace Value

variable {α : Type} {value : Value} {name : String} {content : Value}

/-- A record has one field of a name, and this is what it says. -/
def Has (value : Value) (name : String) (content : Value) : Prop :=
  value.named? name = some [content]

/-- A record has no field of a name. -/
def Lacks (value : Value) (name : String) : Prop := value.named? name = some []

/-- The same where a missing field is as good as null. -/
def Gives (value : Value) (name : String) (content : Value) : Prop :=
  value.Has name content ∨ content = .null ∧ value.Lacks name

/-- The same where a missing field is as good as a default. -/
def HasOr (value : Value) (default : Value) (name : String) (content : Value) : Prop :=
  value.Has name content ∨ content = default ∧ value.Lacks name

/-- What a value says under some names, one within the other; null where it says nothing. -/
def under (value : Value) : List String → Value
  | [] => value
  | name :: names =>
    match value.get? name with
    | some inner => inner.under names
    | none => .null

/-! ### Reading -/

theorem get?_record (fields : List (String × Value)) (name : String) :
    (record fields).get? name = (NameMap.ofList fields).get? name := by
  rw [NameMap.get?_ofList]
  rfl

/-- The last of the fields of one name counts. -/
theorem get?_eq_getLast? (value : Value) (name : String) :
    value.get? name = (value.named? name).bind List.getLast? := by
  -- The first field from the end is the last one of those that are kept.
  cases value with
  | record fields =>
    change _ = ((fields.filter fun field => field.1 = name).map (·.2)).getLast?
    rw [List.getLast?_map, ← List.head?_reverse, ← List.filter_reverse, List.head?_filter]
    rfl
  | _ => rfl

theorem Has.get? (has : value.Has name content) : value.get? name = some content := by
  rw [get?_eq_getLast?, has]
  rfl

theorem Lacks.get? (lacks : value.Lacks name) : value.get? name = none := by
  rw [get?_eq_getLast?, lacks]
  rfl

theorem Has.under (has : value.Has name content) (names : List String) :
    value.under (name :: names) = content.under names := by
  rw [Value.under, has.get?]

/-- A field that is there is read as it is, whether it has to be there or not. -/
theorem Has.required (has : value.Has name content) (read : Value → Option α) :
    value.required read name = read content := by
  rw [Value.required, has]

theorem Has.withDefault (has : value.Has name content) (default : α) (read : Value → Option α) :
    value.withDefault default read name = read content := by
  rw [Value.withDefault, has]

theorem Lacks.withDefault (lacks : value.Lacks name) (default : α) (read : Value → Option α) :
    value.withDefault default read name = some default := by
  rw [Value.withDefault, lacks]

theorem HasOr.withDefault {default : Value} (has : value.HasOr default name content)
    {fallback : α} {read : Value → Option α} (reads : read default = some fallback) :
    value.withDefault fallback read name = read content := by
  rcases has with has | ⟨rfl, lacks⟩
  · exact has.withDefault _ _
  · rw [lacks.withDefault, reads]

theorem of_withDefault {default : α} {read : Value → Option α} {found : α}
    (done : value.withDefault default read name = some found) :
    (value.Lacks name ∧ found = default) ∨ ∃ content, value.Has name content ∧
      read content = some found := by
  rw [Value.withDefault] at done
  split at done
  next lacks => exact .inl ⟨lacks, (Option.some.inj done).symm⟩
  next content has => exact .inr ⟨content, has, done⟩
  next => exact nomatch done

theorem Gives.nullable_null (gives : value.Gives name .null) (read : Value → Option α) :
    value.nullable read name = some none := by
  rcases gives with has | ⟨-, lacks⟩
  · rw [nullable, has]
  · rw [nullable, lacks]

theorem Gives.nullable (gives : value.Gives name content) (given : content ≠ .null)
    (read : Value → Option α) : value.nullable read name = (read content).map some := by
  rcases gives with has | ⟨null, -⟩
  · rw [Value.nullable, has]
    cases content with
    | null => exact absurd rfl given
    | _ => rfl
  · exact absurd null given

theorem Gives.nullable_text {text : Option String} (gives : value.Gives name (ofText? text)) :
    value.nullable text? name = some text := by
  cases text with
  | none => exact gives.nullable_null _
  | some text => exact gives.nullable nofun _

/-- A word is read back from the number that it was written as. -/
theorem word32?_toNat (word : UInt32) : word32? (.int word.toNat) = some word := by
  have small : word.toNat < wordSize 32 := word.toNat_lt
  simp [word32?, small]

/-- An optional number, or null where there is none. -/
def ofWord? : Option UInt32 → Value
  | some word => .int word.toNat
  | none => .null

theorem Gives.nullable_word {word : Option UInt32} (gives : value.Gives name (ofWord? word)) :
    value.nullable word32? name = some word := by
  cases word with
  | none => exact gives.nullable_null _
  | some word =>
    rw [gives.nullable nofun, ofWord?, word32?_toNat]
    rfl

/-- A record in which every field was written as it is read. -/
theorem mapOf_record {read : Value → Option α} (write : α → Value)
    (reads : ∀ content, read (write content) = some content) (bindings : List (String × α)) :
    mapOf read (.record (bindings.map fun binding => (binding.1, write binding.2))) =
      some (NameMap.ofList bindings) := by
  have all : (bindings.map fun binding => (binding.1, write binding.2)).mapM
      (fun field => (read field.2).map (field.1, ·)) = some bindings := by
    rw [mapM_eq_some_iff, List.forall₂_map_left_iff, List.forall₂_same]
    intro binding _
    rw [reads]
    rfl
  rw [mapOf, fields?, Option.bind_some, all]
  rfl

/-- A record of anything is read as a map of its fields. -/
theorem mapOf_some_record (fields : List (String × Value)) :
    mapOf some (.record fields) = some (NameMap.ofList fields) := by
  have same := mapOf_record id (fun _ => rfl) fields
  rwa [show (fun field : String × Value => (field.1, id field.2)) = id from rfl,
    List.map_id] at same

theorem mapOf_ofTexts (bindings : List (String × String)) :
    mapOf text? (ofTexts bindings) = some (NameMap.ofList bindings) :=
  mapOf_record .text (fun _ => rfl) bindings

end Value

/-! ### Resources -/

namespace Cloud

open Value

/-- A health check is made up of its type and of what is given with it, if anything is. -/
theorem HealthCheck.ofValue?_eq {check data : Value} {type : String} {endpoint : Option String}
    {timeout : Option UInt32} (typed : check.Has "type" (.text type))
    (has : check.HasOr (.record []) "data" data)
    (found : data.Gives "endpoint" (ofText? endpoint))
    (waits : data.Gives "timeout" (ofWord? timeout)) :
    HealthCheck.ofValue? check = some { type, endpoint, timeout } := by
  rw [ofValue?, typed.withDefault, Value.text?, Option.bind_eq_bind, Option.bind_some,
    has.withDefault]
  · rw [found.nullable_text, waits.nullable_word]
    rfl
  -- A check without data is one with an empty record of them.
  · rfl

/-- A process is read where each of its fields is. -/
theorem Process.ofValue?_eq_some_iff {value : Value} {process : Process} :
    Process.ofValue? value = some process ↔
      value.required Value.text? "guid" = some process.guid ∧
      value.nullable Value.text? "command" = some process.command ∧
      value.required Value.word32? "instances" = some process.instances ∧
      value.required Value.word32? "memory_in_mb" = some process.memory ∧
      value.required Value.word32? "disk_in_mb" = some process.disk ∧
      value.withDefault {} HealthCheck.ofValue? "health_check" = some process.healthCheck := by
  obtain ⟨guid, command, instances, memory, disk, check⟩ := process
  simp only [ofValue?, Option.bind_eq_bind, Option.bind_eq_some_iff, Option.pure_def,
    Option.some.injEq, Process.mk.injEq]
  grind

theorem parse?_name (type : HealthCheckType) : HealthCheckType.parse? type.name = some type := by
  cases type <;> decide +kernel

/-- The variables of an application are the fields of a record, where there is one. -/
theorem get?_of_variablesOf? {value : Value} {settings : NameMap Value}
    (read : variablesOf? value = some settings) (key : String) :
    settings.get? key = (value.under ["var"]).get? key := by
  rcases of_withDefault read with ⟨lacks, same⟩ | ⟨content, has, contentRead⟩
  · rw [same, under, lacks.get?]
    rfl
  · rw [has.under]
    cases content with
    | record fields =>
      rw [mapOf_some_record] at contentRead
      cases contentRead
      exact (get?_record fields key).symm
    | _ => exact nomatch contentRead

/-- Reading the resources of a page is reading them one by one. -/
theorem required_listOf {α : Type} (read : Value → Option α) (value : Value) (name : String) :
    value.required (listOf read) name =
      (value.required (listOf some) name).bind fun items => items.mapM read := by
  have all (items : List Value) : items.mapM some = some items :=
    mapM_eq_some_iff.mpr (List.forall₂_same.mpr fun _ _ => rfl)
  rw [required, required]
  split
  next given _ =>
    rw [listOf, listOf]
    cases given.items? with
    | none => rfl
    | some items => rw [Option.bind_some, Option.bind_some, all, Option.bind_some]
  next => rfl

/-- A page whose resources can all be read one by one is read as a listing of what they are. -/
theorem Listing.ofValue?_of_page {α : Type} {read : Value → Option α} {value : Value}
    {page : Listing Value} (paged : Listing.ofValue? some value = some page) {items : List α}
    (done : page.resources.mapM read = some items) :
    Listing.ofValue? read value = some ⟨items, page.users, page.instances, page.offerings⟩ := by
  obtain ⟨values, found, rest⟩ := Option.bind_eq_some_iff.mp paged
  rw [ofValue?, required_listOf, found, Option.bind_some]
  rcases of_withDefault rest with ⟨lacks, rfl⟩ | ⟨included, has, others⟩
  · rw [done, Option.bind_eq_bind, Option.bind_some, lacks.withDefault]
  · simp only [Option.bind_eq_bind, Option.bind_eq_some_iff, Option.pure_def,
      Option.some.injEq] at others
    obtain ⟨users, readUsers, instances, readInstances, offerings, readOfferings, rfl⟩ := others
    rw [done, Option.bind_eq_bind, Option.bind_some, has.withDefault, readUsers, readInstances,
      readOfferings]
    rfl

end Cloud

end CloudSpace
