import CloudSpace.Plan.Operation
import CloudSpace.Proofs.Json.Order
import CloudSpace.Proofs.Record.Writing

/-!
# Planned operations are read back

What a plan writes of an operation is enough to read it back, whatever the order of the fields: the
name of the operation says which fields belong to it, and no field has the name of another.
-/
namespace CloudSpace.PlannedOperation

open Value

/-! ### In any order -/

theorem scaleOf_sorted (value : Value) : scaleOf value.sorted = scaleOf value := by
  simp only [scaleOf, optionalOf_sorted word32?_sorted]

theorem healthCheckTypeOf_sorted (value : Value) (field : String) :
    healthCheckTypeOf value.sorted field = healthCheckTypeOf value field := by
  have read : (value.sorted.get? field).bind text? = (value.get? field).bind text? := by
    rw [get?_sorted, Option.bind_map]
    exact congrArg _ (funext text?_sorted)
  rw [healthCheckTypeOf, read, healthCheckTypeOf]

theorem operationOf_sorted (value : Value) : operationOf value.sorted = operationOf value := by
  simp only [operationOf, textOf_sorted, scaleOf_sorted, healthCheckTypeOf_sorted,
    optionalOf_sorted text?_sorted]

/-- A planned operation is read alike whatever order its fields have. -/
theorem ofValue_sorted (value : Value) : ofValue value.sorted = ofValue value := by
  simp only [ofValue, kindOf, textOf_sorted, operationOf_sorted]

/-! ### Back from what was written -/

theorem scaleOf_of_has {value : Value} {scale : Scale}
    (instances : value.get? "instances" = scale.instances.map (.int ·.toNat))
    (memory : value.get? "memory" = scale.memory.map (.int ·.toNat))
    (disk : value.get? "disk" = scale.disk.map (.int ·.toNat)) : scaleOf value = .ok scale := by
  rw [scaleOf, optionalOf_word instances, optionalOf_word memory, optionalOf_word disk]
  rfl

/-- The scale is read off the same record as the name of the operation. -/
theorem operationOf_scale {value : Value} {scale : Scale}
    (named : value.textOf "operation" = .ok "scaleApplication")
    (scaled : scaleOf value = .ok scale) : operationOf value = .ok (.scaleApplication scale) := by
  rw [operationOf, named]
  show (scaleOf value >>= fun scale => pure (Operation.scaleApplication scale)) = _
  rw [scaled]
  rfl

theorem operationOf_toValue (planned : PlannedOperation) :
    operationOf planned.toValue = .ok planned.operation := by
  obtain ⟨kind, entity, operation⟩ := planned
  cases operation with
  | scaleApplication scale =>
    obtain ⟨instances, memory, disk⟩ := scale
    -- Which sizes are written says which there are, and none of them is read for another.
    refine operationOf_scale ?_ (scaleOf_of_has ?_ ?_ ?_) <;>
      cases instances <;> cases memory <;> cases disk <;> rfl
  | setHealthCheck type endpoint => cases type <;> cases endpoint <;> rfl
  | _ => rfl

/-- No field of an operation has the name of one that says what the operation is about. -/
theorem get?_toValue (planned : PlannedOperation) {name : String}
    (about : name ∈ ["kind", "entity"]) :
    planned.toValue.get? name = (record [("kind", .text planned.kind.sectionName),
      ("entity", .text planned.entity)]).get? name := by
  -- No operation has a field of these names, so that the first two fields are not hidden.
  have others : ∀ field ∈ planned.operation.fields, field.1 ∉ ["kind", "entity"] := by
    cases planned.operation with
    | scaleApplication scale =>
      obtain ⟨instances, memory, disk⟩ := scale
      cases instances <;> cases memory <;> cases disk <;>
        simp [Operation.fields, Operation.arguments, Scale.fields, fieldOfWord?]
    | setHealthCheck type endpoint =>
      cases endpoint <;> simp [Operation.fields, Operation.arguments, fieldOfText?]
    | _ => simp [Operation.fields, Operation.arguments]
  have none : (record planned.operation.fields).get? name = none := by
    rw [get?, Option.map_eq_none_iff, List.find?_eq_none]
    intro field member same
    have equal : field.1 = name := by simpa using same
    exact others field (List.mem_reverse.mp member) (equal ▸ about)
  rw [toValue, fields, get?_append, none, Option.none_or]

/-- Planned operations survive being written and read. -/
theorem ofValue_toValue (planned : PlannedOperation) : ofValue planned.toValue = .ok planned := by
  have entity : planned.toValue.textOf "entity" = .ok planned.entity := by
    rw [textOf, get?_toValue planned (by simp)]
    rfl
  have kind : kindOf planned.toValue = .ok planned.kind := by
    rw [kindOf, textOf, get?_toValue planned (by simp)]
    cases planned.kind <;> rfl
  rw [ofValue, kind, entity, operationOf_toValue]
  rfl

theorem writable_arguments (operation : Operation) : WritableFields operation.arguments := by
  cases operation with
  | scaleApplication scale =>
    exact .append (.append (writable_fieldOfWord? _ _) (writable_fieldOfWord? _ _))
      (writable_fieldOfWord? _ _)
  | setHealthCheck type endpoint =>
    exact .append (writable_text _ _) (writable_fieldOfText? _ _)
  | createService offering plan => exact .append (writable_text _ _) (writable_text _ _)
  | createApplication | deleteApplication | deleteService => exact List.forall_mem_nil _
  | _ => exact writable_text _ _

theorem writable_toValue (planned : PlannedOperation) : Yaml.Writable planned.toValue := by
  have about : WritableFields [("kind", .text planned.kind.sectionName),
      ("entity", .text planned.entity)] := .append (writable_text _ _) (writable_text _ _)
  exact WritableFields.record
    (about.append (.append (writable_text _ _) (writable_arguments planned.operation)))

/-- No two planned operations say the same. -/
theorem sameJson_iff {first second : PlannedOperation} :
    first.toValue.SameJson second.toValue ↔ first = second := by
  refine ⟨fun same => ?_, fun equal => equal ▸ .refl _⟩
  have sorted := same.sorted_eq first.writable_toValue second.writable_toValue
  have read : ofValue first.toValue = ofValue second.toValue := by
    rw [← ofValue_sorted, sorted, ofValue_sorted]
  rw [ofValue_toValue, ofValue_toValue] at read
  exact Except.ok.inj read

end CloudSpace.PlannedOperation
