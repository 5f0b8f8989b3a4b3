import CloudSpace.Proofs.Cloud.Field
import CloudSpace.Record.Document

/-!
# Trees that keep a value

A tree keeps a value if it has the shape of the value and its scalars have the same types: a text
that is written down either has quotes or is a word that stands for nothing else. A data value
keeps itself. What a reading makes of a tree that keeps a value depends on the value alone.
-/
namespace CloudSpace

open Yaml (Node Plain ScalarStyle DecodeError)

/-- A tree does not lose anything of a value. Only the scalars that documents are made of are ever
written down. -/
inductive Value.Keeps : Value → Node → Prop
  | data (value : Value) : Keeps value (.data value)
  | text {content : String} {style : ScalarStyle}
      (untyped : style = .plain → Plain.resolve content = .text) :
      Keeps (.text content) (.written content style none)
  | number {content : String} {n : Nat} (digits : Plain.unsigned? content = some n) :
      Keeps (.int n) (.written content .plain none)
  | flag {content : String} {flag : Bool} (word : Plain.bool? content = some flag) :
      Keeps (.bool flag) (.written content .plain none)
  | list {items : List Value} {nodes : List Node} (each : List.Forall₂ Keeps items nodes) :
      Keeps (.list items) (.list nodes)
  | record {fields : List (String × Value)} {entries : List (Node × Node)}
      (names : List.Forall₂ Keeps (fields.map fun field => .text field.1) (entries.map (·.1)))
      (values : List.Forall₂ Keeps (fields.map (·.2)) (entries.map (·.2))) :
      Keeps (.record fields) (.record entries)

/-! ### Plain scalars -/

namespace Yaml.Plain

theorem isNull_of_resolve_text {content : String} (untyped : resolve content = .text) :
    (content.isEmpty || isNull content) = false := by
  rw [resolve] at untyped
  split at untyped
  · exact nomatch untyped
  · exact Bool.eq_false_iff.mpr ‹_›

/-- A word that is read as something is not absent, if no word for absence is read. -/
theorem isNull_of_some {α : Type} {read : String → Option α} {content : String} {value : α}
    (unread : ∀ word ∈ ["", "null", "Null", "NULL", "~"], read word = none)
    (found : read content = some value) : (content.isEmpty || isNull content) = false := by
  refine Bool.eq_false_iff.mpr fun null => ?_
  have word : content ∈ ["", "null", "Null", "NULL", "~"] := by
    simpa [isNull, or_assoc] using null
  rw [unread content word] at found
  cases found

end Yaml.Plain

namespace Value.Keeps

/-! ### Scalars -/

section

variable {content : String} {node : Node}

theorem text_eq (keeps : (Value.text content).Keeps node) : node.text = .ok content := by
  cases keeps <;> rfl

theorem symbol_eq (keeps : (Value.text content).Keeps node) : node.symbol = .ok content := by
  cases keeps <;> rfl

/-- A text is the text it is, even where any value would do. -/
theorem value_eq (keeps : (Value.text content).Keeps node) :
    node.value = .ok (.text content) := by
  cases keeps with
  | data => rfl
  | @text _ style untyped =>
    have scalar : Node.scalarValue? content style none = some (.text content) := by
      rw [Node.scalarValue?]
      split
      · rw [Node.plainValue?, untyped ‹_›]
      · rfl
    rw [Node.value, Node.value?, scalar]

theorem word32_eq {word : UInt32} (keeps : (Value.int word.toNat).Keeps node) :
    node.word32 = .ok word := by
  generalize same : (word.toNat : Int) = number at keeps
  cases keeps with
  | data => rw [← same, Node.word32, word32?_toNat]
  | number digits =>
    obtain rfl : word.toNat = _ := Int.ofNat.inj same
    have bound : word.toNat < wordSize 32 := word.toNat_lt
    simp [Node.word32, digits, bound]

theorem flag_eq {flag : Bool} (keeps : (Value.bool flag).Keeps node) : node.flag = .ok flag := by
  cases keeps with
  | data => rfl
  | flag word => simp [Node.flag, word]

end

/-! ### Optional values -/

theorem isAbsent_eq {value : Value} {node : Node} (keeps : value.Keeps node)
    (present : value ≠ .null) : node.isAbsent = .ok false := by
  cases keeps with
  | data =>
    cases value with
    | null => exact absurd rfl present
    | _ => rfl
  | @text content style untyped =>
    cases style with
    -- A text without quotes stands for nothing else, and so not for absence.
    | plain => rw [Node.isAbsent, Plain.isNull_of_resolve_text (untyped rfl)]
    | _ => rfl
  | number digits => rw [Node.isAbsent, Plain.isNull_of_some (by decide) digits]
  | flag word => rw [Node.isAbsent, Plain.isNull_of_some (by decide) word]
  | list => rfl
  | record => rfl

theorem optional_eq {α : Type} {value : Value} {node : Node} {read : Node → Except DecodeError α}
    {result : α} (keeps : value.Keeps node) (present : value ≠ .null)
    (reads : read node = .ok result) : node.optional read = .ok (some result) := by
  rw [Node.optional, keeps.isAbsent_eq present, reads]
  rfl

/-! ### Lists and records -/

theorem items_eq {items : List Value} {node : Node} (keeps : (Value.list items).Keeps node) :
    ∃ nodes, node.items = .ok nodes ∧ List.Forall₂ Keeps items nodes := by
  cases keeps with
  | data =>
    refine ⟨items.map .data, rfl, ?_⟩
    exact List.forall₂_map_right_iff.mpr (List.forall₂_same.mpr fun item _ => .data item)
  | list each => exact ⟨_, rfl, each⟩

theorem entries_eq {fields : List (String × Value)} {node : Node}
    (keeps : (Value.record fields).Keeps node) :
    ∃ entries, node.entries = .ok entries ∧ List.Forall₂
      (fun field entry => Keeps (.text field.1) entry.1 ∧ Keeps field.2 entry.2)
      fields entries := by
  cases keeps with
  | data =>
    refine ⟨_, rfl, List.forall₂_map_right_iff.mpr ?_⟩
    exact List.forall₂_same.mpr fun field _ => ⟨.data _, .data _⟩
  | record names values =>
    rw [List.forall₂_map_left_iff, List.forall₂_map_right_iff, List.forall₂_iff_zip] at names values
    exact ⟨_, rfl, List.forall₂_iff_zip.mpr
      ⟨names.1, fun member => ⟨names.2 member, values.2 member⟩⟩⟩

/-- Values that are read back one by one are read back as a list. -/
theorem mapM_eq {α β ι : Type} {fits : α → ι → Prop} {read : ι → Except DecodeError β}
    {encode : β → α} {values : List β} {nodes : List ι}
    (each : List.Forall₂ fits (values.map encode) nodes)
    (reads : ∀ value ∈ values, ∀ node, fits (encode value) node → read node = .ok value) :
    nodes.mapM read = .ok values := by
  induction values generalizing nodes with
  | nil =>
    cases each
    rfl
  | cons value rest ih =>
    cases each with
    | cons fit others =>
      rw [List.mapM_cons, reads value List.mem_cons_self _ fit,
        ih others fun other member => reads other (List.mem_cons_of_mem _ member)]
      rfl

theorem texts_eq {texts : List String} {node : Node} (keeps : (ofTextList texts).Keeps node) :
    node.texts = .ok texts := by
  obtain ⟨nodes, items, each⟩ := keeps.items_eq
  rw [Node.texts, items]
  exact mapM_eq each fun _ _ _ keeps => keeps.text_eq

theorem names_eq {α : Type} {read : Node → Except DecodeError α} {encode : α → Value}
    {bindings : List (String × α)} {node : Node}
    (keeps : (Value.record (bindings.map fun binding => (binding.1, encode binding.2))).Keeps node)
    (reads : ∀ binding ∈ bindings, ∀ node, (encode binding.2).Keeps node →
      read node = .ok binding.2) :
    node.names read = .ok bindings := by
  obtain ⟨entries, same, each⟩ := keeps.entries_eq
  rw [Node.names, same]
  refine mapM_eq each fun binding member entry ⟨name, keeps⟩ => ?_
  rw [name.text_eq, reads binding member entry.2 keeps]
  rfl

/-- A map is read back as it was, since its entries are in order. -/
theorem nameMap_eq {α : Type} {read : Node → Except DecodeError α} {encode : α → Value}
    {map : NameMap α} {node : Node} (keeps : (Value.record (map.map encode).entries).Keeps node)
    (reads : ∀ value node, (encode value).Keeps node → read node = .ok value) :
    node.nameMap read = .ok map := by
  have read : node.names read = .ok map.entries :=
    names_eq keeps fun binding _ node => reads binding.2 node
  rw [Node.nameMap, read]
  exact congrArg Except.ok (NameMap.ofList_entries map)

/-- Texts are read back as they were, whatever they might stand for without quotes. -/
theorem scalarMap_eq {map : NameMap String} {node : Node}
    (keeps : (ofTexts map.entries).Keeps node) : node.scalarMap = .ok map := by
  have values : node.names Node.value = .ok (map.map Value.text).entries := by
    have keeps : (Value.record ((map.map Value.text).entries.map
        fun binding => (binding.1, id binding.2))).Keeps node := by
      rw [show (fun binding : String × Value => (binding.1, id binding.2)) = id from rfl,
        List.map_id]
      exact keeps
    refine names_eq keeps fun binding member node keeps => ?_
    obtain ⟨entry, -, rfl⟩ := List.mem_map.mp member
    exact keeps.value_eq
  -- None of the values is anything but a text, and each text stands for itself.
  have texts : ((map.map Value.text).entries.find?
      fun entry => (Node.scalarText? entry.2).isNone) = none := by
    simp [NameMap.map, Node.scalarText?]
  have same : (map.map Value.text).map (fun value => (Node.scalarText? value).getD "") = map := by
    apply NameMap.ext_entries
    simp [NameMap.map, Function.comp_def, Node.scalarText?]
  rw [Node.scalarMap, keeps.isAbsent_eq (by simp [ofTexts]), values]
  simp only [bind, Except.bind, NameMap.ofList_entries, texts, same]
  rfl

end Value.Keeps

/-! ### Records with known fields -/

section

variable {α β : Type} {read : α → String → Node → Except DecodeError α} {known : List String}
  {fields : List (String × Value)} {name : String} {start middle final : α}

/-- A field that is taken out of a tree has the name of a field of a value, and keeps what it
says. -/
def Value.KeepsField (field : String × Value) (taken : String × Node) : Prop :=
  taken.1 = field.1 ∧ field.2.Keeps taken.2

/-- The fields of a value have known names in their order, and reading them one after the other,
out of whichever tree keeps them, leads from one result to another. -/
structure Value.Reads (read : α → String → Node → Except DecodeError α) (known : List String)
    (fields : List (String × Value)) (start final : α) : Prop where
  names : (fields.map (·.1)).Sublist known
  folds : ∀ taken, List.Forall₂ KeepsField fields taken →
    taken.foldlM (fun result field => read result field.1 field.2) start = .ok final

/-- The fields of a record are taken as they come, each of them once. -/
theorem Yaml.Node.knownFields_of_keeps {seen : List String} {entries : List (Node × Node)}
    (each : List.Forall₂ (fun field entry => (Value.text field.1).Keeps entry.1 ∧
      field.2.Keeps entry.2) fields entries)
    (names : ∀ field ∈ fields, field.1 ∈ known ∧ field.1 ∉ seen)
    (distinct : (fields.map (·.1)).Nodup) :
    ∃ taken, knownFields known seen entries = (taken, true) ∧
      List.Forall₂ Value.KeepsField fields taken := by
  -- The names that were seen grow with each field, and no later field has one of them.
  induction each generalizing seen with
  | nil => exact ⟨[], rfl, .nil⟩
  | @cons field entry fields entries keeps _ ih =>
    obtain ⟨isNew, distinct⟩ := List.nodup_cons.mp distinct
    obtain ⟨isKnown, unseen⟩ := names field List.mem_cons_self
    obtain ⟨taken, same, others⟩ := ih (fun other member => by
      obtain ⟨isKnown, unseen⟩ := names other (List.mem_cons_of_mem _ member)
      refine ⟨isKnown, fun earlier => ?_⟩
      rcases List.mem_cons.mp earlier with equal | earlier
      · exact isNew (List.mem_map.mpr ⟨other, member, equal⟩)
      · exact unseen earlier) distinct
    refine ⟨(field.1, entry.2) :: taken, ?_, .cons ⟨rfl, keeps.2⟩ others⟩
    simp [knownFields, keeps.1.text_eq, isKnown, unseen, same]

theorem Value.Keeps.takenFields_eq {node : Node} (keeps : (Value.record fields).Keeps node)
    (known : List String) :
    node.takenFields known = node.entries.map (Node.knownFields known []) := by
  cases keeps <;> rfl

/-- A tree that keeps a record is read field by field. -/
theorem Value.Reads.foldFields_eq {node : Node} (reads : Value.Reads read known fields start final)
    (keeps : (Value.record fields).Keeps node) (distinct : known.Nodup) :
    node.foldFields known read start = .ok final := by
  obtain ⟨entries, same, each⟩ := keeps.entries_eq
  obtain ⟨taken, whole, kept⟩ := Node.knownFields_of_keeps each
    (fun field member => ⟨reads.names.subset (List.mem_map_of_mem member), List.not_mem_nil⟩)
    (distinct.sublist reads.names)
  rw [Node.foldFields, keeps.takenFields_eq, same]
  simp [Except.map, bind, Except.bind, whole, reads.folds taken kept]
  rfl

namespace Value.Reads

theorem nil : Reads read [] [] start start where
  names := List.nil_sublist _
  folds := by
    rintro taken ⟨⟩
    rfl

/-- A known field may be left out. -/
theorem skip (rest : Reads read known fields start final) :
    Reads read (name :: known) fields start final where
  names := rest.names.cons name
  folds := rest.folds

/-- A field that is always there. -/
theorem required {decode : Node → Except DecodeError β} (set : α → β → α)
    (step : ∀ node, read start name node = do return set start (← decode node))
    {value : Value} {held : β} (decodes : ∀ node, value.Keeps node → decode node = .ok held)
    (rest : Reads read known fields (set start held) final) :
    Reads read (name :: known) ((name, value) :: fields) start final where
  names := rest.names.cons_cons name
  folds := by
    rintro taken ⟨⟩
    rename_i kept others
    obtain ⟨rfl, keeps⟩ := kept
    rw [List.foldlM_cons, step, decodes _ keeps]
    exact rest.folds _ others

/-- A field that is left out where it has no value. -/
theorem optional (encode : β → Value) {decode : Node → Except DecodeError β}
    (set : α → Option β → α)
    (step : ∀ node, read start name node = do return set start (← node.optional decode))
    (unset : set start none = start) (present : ∀ value, encode value ≠ .null)
    (decodes : ∀ value node, (encode value).Keeps node → decode node = .ok value)
    {held : Option β} (rest : Reads read known fields (set start held) final) :
    Reads read (name :: known) ((held.toList.map fun value => (name, encode value)) ++ fields)
      start final := by
  cases held with
  -- What is left out is what the reading starts with.
  | none => exact (unset ▸ rest).skip
  | some value =>
    exact required set step
      (fun node keeps => keeps.optional_eq (present value) (decodes value node keeps)) rest

theorem text? (set : α → Option String → α)
    (step : ∀ node, read start name node = do return set start (← node.optional Node.text))
    (unset : set start none = start) {held : Option String}
    (rest : Reads read known fields (set start held) final) :
    Reads read (name :: known) (fieldOfText? name held ++ fields) start final :=
  optional .text set step unset (fun _ => nofun) (fun _ _ keeps => keeps.text_eq) rest

theorem word? (set : α → Option UInt32 → α)
    (step : ∀ node, read start name node = do return set start (← node.optional Node.word32))
    (unset : set start none = start) {held : Option UInt32}
    (rest : Reads read known fields (set start held) final) :
    Reads read (name :: known) (fieldOfWord? name held ++ fields) start final :=
  optional (fun word => .int word.toNat) set step unset (fun _ => nofun)
    (fun _ _ keeps => keeps.word32_eq) rest

theorem flag? (set : α → Option Bool → α)
    (step : ∀ node, read start name node = do return set start (← node.optional Node.flag))
    (unset : set start none = start) {held : Option Bool}
    (rest : Reads read known fields (set start held) final) :
    Reads read (name :: known) (fieldOfBool? name held ++ fields) start final :=
  optional .bool set step unset (fun _ => nofun) (fun _ _ keeps => keeps.flag_eq) rest

/-- A field that is left out where its list is empty. -/
theorem texts (set : α → List String → α)
    (step : ∀ node, read start name node = do return set start (← node.texts))
    (unset : set start [] = start) {held : List String}
    (rest : Reads read known fields (set start held) final) :
    Reads read (name :: known) (fieldOfTextList name held ++ fields) start final := by
  rw [fieldOfTextList]
  split
  next empty =>
    obtain rfl := List.isEmpty_iff.mp empty
    exact (unset ▸ rest).skip
  next =>
    exact required set step (fun _ keeps => keeps.texts_eq) rest

/-- A field that is left out where its map is empty. -/
theorem scalarMap (set : α → NameMap String → α)
    (step : ∀ node, read start name node = do return set start (← node.scalarMap))
    (unset : set start ∅ = start) {held : NameMap String}
    (rest : Reads read known fields (set start held) final) :
    Reads read (name :: known) (fieldOfTexts name held.entries ++ fields) start final := by
  rw [fieldOfTexts]
  split
  next empty =>
    obtain rfl : held = ∅ := NameMap.ext_entries (List.isEmpty_iff.mp empty)
    exact (unset ▸ rest).skip
  next =>
    exact required set step (fun _ keeps => keeps.scalarMap_eq) rest

end Value.Reads

end

end CloudSpace
