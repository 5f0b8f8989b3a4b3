import CloudSpace.Proofs.Record.Keeping

/-!
# Documents are read back

Out of every tree that keeps the value of a document, the document is read as it was. A field that
is left out has its default, which is what leaving it out stands for, and so a section that is
absent stays absent and one that is empty stays empty.
-/
namespace CloudSpace

open Yaml (Node)

variable {node : Node}

/-! ### Applications -/

theorem HealthCheckType.ofNode_of_keeps {type : HealthCheckType}
    (keeps : (Value.text type.name).Keeps node) : ofNode node = .ok type := by
  rw [ofNode, keeps.symbol_eq]
  simp only [bind, Except.bind, ofName?_name]
  rfl

theorem Manifest.reads_fields (m : Manifest) :
    Value.Reads readField fieldNames m.fields {} m := by
  -- The type of the health check is written as a text, but read as one of three names.
  have types : Value.fieldOfText? "healthCheckType" (m.healthCheckType.map (·.name)) =
      m.healthCheckType.toList.map fun type => ("healthCheckType", .text type.name) := by
    cases m.healthCheckType <;> rfl
  rw [← List.append_nil m.fields]
  simp only [fields, List.append_assoc, types]
  -- From here on the fields are read back one after the other, as the record has them.
  refine .text? (fun m held => { m with buildpack := held }) (fun _ => rfl) rfl ?_
  refine .text? (fun m held => { m with command := held }) (fun _ => rfl) rfl ?_
  refine .word? (fun m held => { m with disk := held }) (fun _ => rfl) rfl ?_
  refine .text? (fun m held => { m with dockerImage := held }) (fun _ => rfl) rfl ?_
  refine .text? (fun m held => { m with dockerUsername := held }) (fun _ => rfl) rfl ?_
  refine .scalarMap (fun m held => { m with environmentVariables := held }) (fun _ => rfl) rfl ?_
  refine .text? (fun m held => { m with healthCheckHttpEndpoint := held }) (fun _ => rfl) rfl ?_
  refine .optional (fun type => .text type.name)
    (fun (m : Manifest) held => { m with healthCheckType := held }) (fun _ => rfl) rfl
    (fun _ => nofun) (fun _ _ keeps => HealthCheckType.ofNode_of_keeps keeps) ?_
  refine .word? (fun m held => { m with instances := held }) (fun _ => rfl) rfl ?_
  refine .word? (fun m held => { m with memory := held }) (fun _ => rfl) rfl ?_
  refine .flag? (fun m held => { m with noRoute := held }) (fun _ => rfl) rfl ?_
  refine .flag? (fun m held => { m with randomRoute := held }) (fun _ => rfl) rfl ?_
  refine .text? (fun m held => { m with routePath := held }) (fun _ => rfl) rfl ?_
  refine .texts (fun m held => { m with routes := held }) (fun _ => rfl) rfl ?_
  refine .texts (fun m held => { m with services := held }) (fun _ => rfl) rfl ?_
  refine .text? (fun m held => { m with stack := held }) (fun _ => rfl) rfl ?_
  refine .word? (fun m held => { m with timeout := held }) (fun _ => rfl) rfl ?_
  exact .nil

theorem Manifest.ofNode_of_keeps {m : Manifest} (keeps : m.toValue.Keeps node) :
    ofNode node = .ok m :=
  m.reads_fields.foldFields_eq keeps (by decide)

theorem Application.ofNode_of_keeps {app : Application} (keeps : app.toValue.Keeps node) :
    ofNode node = .ok app := by
  have reads : Value.Reads readField ["path", "meta", "manifest"]
      (Value.fieldOfText? "path" app.path ++ (Value.fieldOfText? "meta" app.metadata ++
        [("manifest", app.manifest.toValue)])) {} app := by
    refine .text? (fun app held => { app with path := held }) (fun _ => rfl) rfl ?_
    refine .text? (fun app held => { app with metadata := held }) (fun _ => rfl) rfl ?_
    refine .required (fun app held => { app with manifest := held }) (fun _ => rfl)
      (fun _ keeps => Manifest.ofNode_of_keeps keeps) ?_
    exact .nil
  rw [toValue, List.append_assoc] at keeps
  exact reads.foldFields_eq keeps (by decide)

/-! ### Services -/

/-- A service is read back from what keeps it. -/
theorem Service.ofNode_of_keeps {service : Service} (keeps : service.toValue.Keeps node) :
    ofNode node = .ok service := by
  -- A service is read into a draft, in which both required fields may be missing.
  have reads : Value.Reads Draft.readField ["service", "plan", "tags", "params"]
      (("service", .text service.offering) :: ("plan", .text service.plan) ::
        (Value.fieldOfTextList "tags" service.tags ++
          (Value.fieldOfTexts "params" service.params.entries ++ [])))
      {} ⟨some service.offering, some service.plan, service.tags, service.params⟩ := by
    refine .required (fun draft held => { draft with offering := some held }) (fun _ => rfl)
      (fun _ keeps => keeps.text_eq) ?_
    refine .required (fun draft held => { draft with plan := some held }) (fun _ => rfl)
      (fun _ keeps => keeps.text_eq) ?_
    refine .texts (fun draft held => { draft with tags := held }) (fun _ => rfl) rfl ?_
    refine .scalarMap (fun draft held => { draft with params := held }) (fun _ => rfl) rfl ?_
    exact .nil
  rw [toValue, List.append_assoc, ← List.append_nil (Value.fieldOfTexts _ _)] at keeps
  rw [ofNode, reads.foldFields_eq keeps (by decide)]
  rfl

/-! ### Documents -/

/-- A target is read back from what keeps it. -/
theorem Target.ofNode_of_keeps {target : Target} (keeps : target.toValue.Keeps node) :
    ofNode node = .ok target := by
  -- All three fields are required, so that the draft is full in the end.
  have reads : Value.Reads Draft.readField ["api", "organization", "space"]
      [("api", .text target.api), ("organization", .text target.organization),
        ("space", .text target.space)]
      {} ⟨some target.api, some target.organization, some target.space⟩ := by
    refine .required (fun draft held => { draft with api := some held }) (fun _ => rfl)
      (fun _ keeps => keeps.text_eq) ?_
    refine .required (fun draft held => { draft with organization := some held }) (fun _ => rfl)
      (fun _ keeps => keeps.text_eq) ?_
    refine .required (fun draft held => { draft with space := some held }) (fun _ => rfl)
      (fun _ keeps => keeps.text_eq) ?_
    exact .nil
  rw [ofNode, reads.foldFields_eq keeps (by decide)]
  rfl

/-- Leaving a section out and leaving it empty are different, and both are read back. -/
theorem Spec.ofNode_of_keeps {spec : Spec} (keeps : spec.toValue.Keeps node) :
    ofNode node = .ok spec := by
  rw [toValue, List.append_assoc, ← List.append_nil (List.map _ spec.applications.toList)] at keeps
  refine Value.Reads.foldFields_eq ?_ keeps (by decide)
  -- Each section is left out if it is absent, which an empty section is not.
  refine .optional Value.ofTextList (fun (spec : Spec) held => { spec with developers := held })
    (fun _ => rfl) rfl (fun _ => nofun) (fun _ _ keeps => keeps.texts_eq) ?_
  refine .optional (fun services : NameMap Service =>
      .record (services.map Service.toValue).entries)
    (fun (spec : Spec) held => { spec with services := held }) (fun _ => rfl) rfl (fun _ => nofun)
    (fun _ _ keeps => keeps.nameMap_eq fun _ _ => Service.ofNode_of_keeps) ?_
  refine .optional (fun apps : NameMap Application =>
      .record (apps.map Application.toValue).entries)
    (fun (spec : Spec) held => { spec with applications := held }) (fun _ => rfl) rfl
    (fun _ => nofun) (fun _ _ keeps => keeps.nameMap_eq fun _ _ => Application.ofNode_of_keeps) ?_
  exact .nil

theorem Document.ofNode_of_keeps {document : Document} (keeps : document.toValue.Keeps node) :
    ofNode node = .ok document := by
  rw [toValue, List.append_assoc] at keeps
  refine Value.Reads.foldFields_eq ?_ keeps (by decide)
  refine .text? (fun (document : Document) held => { document with apiVersion := held })
    (fun _ => rfl) rfl ?_
  refine .optional Target.toValue
    (fun (document : Document) held => { document with target := held }) (fun _ => rfl) rfl
    (fun _ => nofun) (fun _ _ => Target.ofNode_of_keeps) ?_
  refine .required (fun (document : Document) held => { document with spec := held })
    (fun _ => rfl) (fun _ => Spec.ofNode_of_keeps) ?_
  exact .nil

end CloudSpace
