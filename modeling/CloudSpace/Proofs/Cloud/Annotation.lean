import CloudSpace.Cloud.Description
import CloudSpace.Proofs.Cloud.Entry

/-!
# What creation encodes is decoded again

A platform has no place for three texts of an application, and knows nothing of a path that is
common to all its routes. Creating the application keeps the texts in annotations and writes the
path at the end of each route. Describing it again reads each text from its own annotation, an empty
one as none, and takes the path off each route once, also where a route ends in the path by itself.
-/
namespace CloudSpace.Cloud

open Value

/-- An answer about an application has some annotations and no others, in any order. -/
def Annotates (answer : Value) (kept : NameMap String) : Prop :=
  ∃ metadata bindings, answer.HasOr (.record []) "metadata" metadata ∧
    metadata.HasOr (.record []) "annotations" (ofTexts bindings) ∧ NameMap.ofList bindings = kept

theorem Annotates.annotations_eq {answer : Value} {kept : NameMap String} {resource : AppResource}
    (annotates : Annotates answer kept) (read : AppResource.ofValue? answer = some resource) :
    resource.annotations = kept := by
  obtain ⟨metadata, bindings, hasMetadata, hasAnnotations, same⟩ := annotates
  have kept : metadata.withDefault ∅ (mapOf text?) "annotations" = some kept := by
    rw [hasAnnotations.withDefault, mapOf_ofTexts, same]
    rfl
  simp only [AppResource.ofValue?, Option.bind_eq_bind, Option.bind_eq_some_iff, Option.pure_def,
    Option.some.injEq] at read
  obtain ⟨guid, -, name, -, lifecycle, -, annotations, given, rfl⟩ := read
  rw [hasMetadata.withDefault, kept] at given
  · exact (Option.some.inj given).symm
  -- An answer without metadata is one with an empty record of them.
  · rfl

/-- The routes that an entry of a manifest lists. -/
def listedRoutes? (entry : Value) : Option (List String) :=
  ((entry.each "routes").map (·.under ["route"])).mapM text?

theorem listedRoutes?_manifestEntry (name : String) (config : Application)
    (password : Option String) :
    listedRoutes? (manifestEntry name config password) =
      some (config.manifest.routes.map (fullRoute config.manifest.routePath)) := by
  rw [listedRoutes?, (says_manifestEntry name config password).routes, mapM_eq_some_iff,
    List.forall₂_map_left_iff, List.forall₂_map_right_iff, List.forall₂_same]
  exact fun _ _ => rfl

/-- Whatever else is known of an application, the texts that its annotations keep and the routes
that its manifest lists are described as they were, empty texts aside. -/
theorem creation_decoded (name : String) (config : Application) (password : Option String) :
    ∃ urls, listedRoutes? (manifestEntry name config password) = some urls ∧
      ∀ answer resource, AppResource.ofValue? answer = some resource →
        Annotates answer (annotations config) → ∀ process settings bindings image,
          let found := applicationOf resource process settings urls bindings image
          found.metadata = config.metadata.filter nonEmpty ∧
            found.path = config.path.filter nonEmpty ∧
            found.manifest.routePath = config.manifest.routePath.filter nonEmpty ∧
            found.manifest.routes = config.manifest.routes := by
  refine ⟨_, listedRoutes?_manifestEntry name config password, ?_⟩
  intro answer resource read annotates process settings bindings image found
  obtain ⟨metadata, path, routePath⟩ := annotated?_annotations config
  rw [← annotates.annotations_eq read] at metadata path routePath
  refine ⟨metadata, path, routePath, ?_⟩
  -- The path that is taken off is the one that was read, and each route had it at its end once.
  have bare (route : String) : bareRoute (annotated? resource.annotations routePathKey)
      (fullRoute config.manifest.routePath route) = route := by
    rw [routePath, bareRoute_fullRoute]
  calc
    found.manifest.routes
      = (config.manifest.routes.map (fullRoute config.manifest.routePath)).map
          (bareRoute (annotated? resource.annotations routePathKey)) := rfl
    _ = config.manifest.routes := by simp [Function.comp_def, bare]

/-- Routes that end in the common path by themselves come back as they were, and an empty text is
read as none, where the answer has its annotations in another order. -/
theorem creation_decoded_overlapping :
    let config : Application := {
      path := some ""
      metadata := some "/x"
      manifest := { routePath := some "/x", routes := ["a/x", "/x", "b", "a/x/x"] } }
    let urls := ["a/x/x", "/x/x", "b/x", "a/x/x/x"]
    let answer : Value := .record [("name", .text "web"), ("guid", .text "1"),
      ("metadata", .record [("annotations", .record [(routePathKey, .text "/x"),
        (metadataKey, .text "/x")])])]
    let resource : AppResource := { guid := "1", name := "web", annotations := annotations config }
    let process : Process := ⟨"2", none, 1, 64, 64, {}⟩
    let found := applicationOf resource process ∅ urls ⟨[], [], [], []⟩ none
    listedRoutes? (manifestEntry "web" config none) = some urls ∧
      AppResource.ofValue? answer = some resource ∧ Annotates answer (annotations config) ∧
      found.metadata = some "/x" ∧ found.path = none ∧ found.manifest.routePath = some "/x" ∧
      found.manifest.routes = config.manifest.routes := by
  intro config urls answer resource process found
  have read : AppResource.ofValue? answer = some resource := by decide +kernel
  have annotates : Annotates answer (annotations config) :=
    ⟨_, [(routePathKey, "/x"), (metadataKey, "/x")], .inl rfl, .inl rfl, by decide +kernel⟩
  obtain ⟨listed, same, decoded⟩ := creation_decoded "web" config none
  -- The listing is computed as well, so that the routes decoded are seen to be those four.
  have known : listedRoutes? (manifestEntry "web" config none) = some urls := by decide +kernel
  cases known.symm.trans same
  exact ⟨known, read, annotates, decoded answer resource read annotates process ∅ _ none⟩

end CloudSpace.Cloud
