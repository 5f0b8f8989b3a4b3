import CloudSpace.Proofs.Record.RoundTrip
import CloudSpace.Proofs.Yaml.Layout
import CloudSpace.Record.Document

/-!
# Applications as text

No two applications are written as the same text: the value of an application is one that stands in
documents, the printer loses nothing of it, and it is read back as the application.
-/
namespace CloudSpace

open Yaml (Writable)

/-- Fields with values that stand in documents. -/
def WritableFields (fields : List (String × Value)) : Prop :=
  ∀ field ∈ fields, Writable field.2

/-- Fields after fields can be written if all of them can. -/
theorem WritableFields.append {first second : List (String × Value)}
    (writable : WritableFields first) (too : WritableFields second) :
    WritableFields (first ++ second) :=
  List.forall_mem_append.mpr ⟨writable, too⟩

theorem WritableFields.record {fields : List (String × Value)} (writable : WritableFields fields) :
    Writable (.record fields) := by
  cases fields with
  | nil => exact .leaf .emptyRecord
  | cons field rest => exact .record writable

theorem writable_text (name content : String) : WritableFields [(name, .text content)] :=
  List.forall_mem_singleton.mpr (.leaf (.text content))

/-- Every list of texts can be written. -/
theorem writable_ofTextList (texts : List String) : Writable (Value.ofTextList texts) := by
  cases texts with
  | nil => exact .leaf .emptyList
  | cons text rest =>
    have leaves : ∀ item ∈ (text :: rest).map Value.text, Writable item :=
      List.forall_mem_map.mpr fun text _ => .leaf (.text text)
    exact .list leaves

theorem writable_ofTexts (bindings : List (String × String)) : Writable (Value.ofTexts bindings) :=
  WritableFields.record
    (List.forall_mem_map.mpr fun binding _ => .leaf (.text binding.2))

/-- A field that is left out where there is nothing to say. -/
theorem writable_optional {α : Type} {encode : α → Value}
    (writable : ∀ value, Writable (encode value)) (name : String) (held : Option α) :
    WritableFields (held.toList.map fun value => (name, encode value)) :=
  List.forall_mem_map.mpr fun value _ => writable value

theorem writable_fieldOfText? (name : String) (content : Option String) :
    WritableFields (Value.fieldOfText? name content) :=
  writable_optional (fun content => .leaf (.text content)) name content

/-- A number of 32 bits is one that the document format has. -/
theorem writable_fieldOfWord? (name : String) (word : Option UInt32) :
    WritableFields (Value.fieldOfWord? name word) :=
  writable_optional (fun word => .leaf (.number (Nat.lt_of_lt_of_le word.toNat_lt (by decide))))
    name word

theorem writable_fieldOfBool? (name : String) (flag : Option Bool) :
    WritableFields (Value.fieldOfBool? name flag) :=
  writable_optional (fun flag => .leaf (.bool flag)) name flag

theorem writable_fieldOfTextList (name : String) (texts : List String) :
    WritableFields (Value.fieldOfTextList name texts) := by
  rw [Value.fieldOfTextList]
  split
  · exact List.forall_mem_nil _
  · exact List.forall_mem_singleton.mpr (writable_ofTextList texts)

theorem writable_fieldOfTexts (name : String) (bindings : List (String × String)) :
    WritableFields (Value.fieldOfTexts name bindings) := by
  rw [Value.fieldOfTexts]
  split
  · exact List.forall_mem_nil _
  · exact List.forall_mem_singleton.mpr (writable_ofTexts bindings)

/-- Every field of a manifest can be written. -/
theorem Manifest.writable_fields (m : Manifest) : WritableFields m.fields := by
  rw [fields]
  repeat' apply WritableFields.append
  all_goals first
    | exact writable_fieldOfText? _ _
    | exact writable_fieldOfWord? _ _
    | exact writable_fieldOfBool? _ _
    | exact writable_fieldOfTextList _ _
    | exact writable_fieldOfTexts _ _

theorem Application.writable_toValue (app : Application) : Writable app.toValue :=
  WritableFields.record (.append
    (.append (writable_fieldOfText? "path" app.path) (writable_fieldOfText? "meta" app.metadata))
    (List.forall_mem_singleton.mpr app.manifest.writable_fields.record))

/-- Applications are told apart by their values, as what was written can be read back. -/
theorem Application.toValue_inj {first second : Application}
    (same : first.toValue = second.toValue) : first = second := by
  have read : ofNode (.data first.toValue) = .ok first := ofNode_of_keeps (.data _)
  have readToo : ofNode (.data first.toValue) = .ok second := by
    rw [same]
    exact ofNode_of_keeps (.data _)
  exact Except.ok.inj (read.symm.trans readToo)

theorem Application.toYaml_inj {first second : Application}
    (same : first.toYaml = second.toYaml) : first = second :=
  toValue_inj (Yaml.print_inj first.writable_toValue second.writable_toValue same)

end CloudSpace
