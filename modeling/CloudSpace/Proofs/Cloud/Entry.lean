import CloudSpace.Cloud.Manifest
import CloudSpace.Proofs.Cloud.Field

/-!
# What creating an application sends

An entry of a manifest has a field for each setting that is given and none for the others, and the
annotations beside it have the texts that say something. A route with the common path at its end
is the route again once that path is taken off.
-/
namespace CloudSpace

namespace Value

/-! ### Fields that may be left out -/

/-- The values of a list under a name; none where there is no list. -/
def each (value : Value) (name : String) : List Value :=
  ((value.get? name).bind items?).getD []

/-- A field that comes later counts before one that comes earlier. -/
theorem get?_append (first second : List (String × Value)) (name : String) :
    (record (first ++ second)).get? name =
      ((record second).get? name).or ((record first).get? name) := by
  simp [get?, List.find?_append, Option.map_or]

/-- What one field has, if it is there at all. -/
theorem get?_optional (key name : String) (content : Option Value) :
    (record (content.toList.map (key, ·))).get? name = if key = name then content else none := by
  cases content with
  | none => simp [get?]
  | some given => by_cases same : key = name <;> simp [get?, same]

theorem get?_fieldOfText? (key name : String) (content : Option String) :
    (record (fieldOfText? key content)).get? name =
      if key = name then content.map .text else none := by
  rw [← get?_optional key name]
  cases content <;> rfl

theorem get?_fieldOfWord? (key name : String) (word : Option UInt32) :
    (record (fieldOfWord? key word)).get? name =
      if key = name then word.map (.int ·.toNat) else none := by
  rw [← get?_optional key name]
  cases word <;> rfl

theorem get?_fieldOfBool? (key name : String) (flag : Option Bool) :
    (record (fieldOfBool? key flag)).get? name = if key = name then flag.map .bool else none := by
  rw [← get?_optional key name]
  cases flag <;> rfl

theorem get?_fieldOfTextList (key name : String) (texts : List String) :
    (record (fieldOfTextList key texts)).get? name =
      if key = name then if texts = [] then none else some (ofTextList texts) else none := by
  rw [← get?_optional key name]
  cases texts <;> rfl

theorem get?_fieldOfTexts (key name : String) (bindings : List (String × String)) :
    (record (fieldOfTexts key bindings)).get? name =
      if key = name then if bindings = [] then none else some (ofTexts bindings) else none := by
  rw [← get?_optional key name]
  cases bindings <;> rfl

theorem get?_ofTexts (map : NameMap String) (name : String) :
    (ofTexts map.entries).get? name = (map.get? name).map .text := by
  have fields : ofTexts map.entries = .record (map.map Value.text).entries := rfl
  rw [fields, get?_record, NameMap.ofList_entries, NameMap.get?_map]

end Value

namespace Cloud

open Value

/-! ### Entries -/

/-- What an entry says of an application, setting by setting. -/
structure Says (entry : Value) (manifest : Manifest) : Prop where
  buildpacks : entry.each "buildpacks" = manifest.buildpack.toList.map .text
  command : entry.under ["command"] = ofText? manifest.command
  disk : entry.under ["disk_quota"] = ofText? (manifest.disk.map sizeText)
  image : entry.under ["docker", "image"] = ofText? manifest.dockerImage
  username : entry.under ["docker", "username"] =
    ofText? (manifest.dockerImage.bind fun _ => manifest.dockerUsername)
  settings : ∀ key, (entry.under ["env"]).get? key =
    (manifest.environmentVariables.get? key).map .text
  endpoint : entry.under ["health-check-http-endpoint"] =
    ofText? manifest.healthCheckHttpEndpoint
  checkType : entry.under ["health-check-type"] =
    ofText? (manifest.healthCheckType.map HealthCheckType.name)
  instances : entry.under ["instances"] = ofWord? manifest.instances
  memory : entry.under ["memory"] = ofText? (manifest.memory.map sizeText)
  routes : (entry.each "routes").map (·.under ["route"]) =
    manifest.routes.map fun route => .text (fullRoute manifest.routePath route)
  services : entry.each "services" = manifest.services.map .text
  stack : entry.under ["stack"] = ofText? manifest.stack
  timeout : entry.under ["timeout"] = ofWord? manifest.timeout

theorem get?_imageFields (manifest : Manifest) (password : Option String) (name : String) :
    (record (imageFields manifest password)).get? name =
      if "docker" = name then manifest.dockerImage.map fun image =>
        .record (("image", .text image) :: fieldOfText? "username" manifest.dockerUsername ++
          fieldOfText? "password" password)
      else none := by
  rw [← get?_optional "docker" name, imageFields]
  cases manifest.dockerImage <;> rfl

theorem get?_routeFields (manifest : Manifest) (name : String) :
    (record (routeFields manifest)).get? name =
      if "routes" = name then
        if manifest.routes = [] then none
        else some (.list (manifest.routes.map fun route =>
          .record [("route", .text (fullRoute manifest.routePath route))]))
      else none := by
  rw [← get?_optional "routes" name, routeFields]
  cases manifest.routes <;> rfl

/-- What is sent of an application says everything that its manifest says, field by field. -/
theorem says_manifestEntry (name : String) (app : Application) (password : Option String) :
    Says (manifestEntry name app password) app.manifest := by
  obtain ⟨path, metadata, manifest⟩ := app
  constructor
  -- Of all parts of the entry only the one that writes the field is left, and the name.
  all_goals
    simp only [manifestEntry, each, under, get?_append, get?_fieldOfText?, get?_fieldOfWord?,
      get?_fieldOfBool?, get?_fieldOfTextList, get?_fieldOfTexts, get?_imageFields,
      get?_routeFields, String.reduceEq, ↓reduceIte, Option.none_or]
  case buildpacks => cases manifest.buildpack <;> rfl
  case command => cases manifest.command <;> rfl
  case disk => cases manifest.disk <;> rfl
  -- The password stands beside what is asked for here, and makes no difference to it.
  case image =>
    cases manifest.dockerImage <;> cases manifest.dockerUsername <;> cases password <;> rfl
  case username =>
    cases manifest.dockerImage <;> cases manifest.dockerUsername <;> cases password <;> rfl
  case settings =>
    intro key
    rw [← get?_ofTexts]
    cases manifest.environmentVariables.entries <;> rfl
  case endpoint => cases manifest.healthCheckHttpEndpoint <;> rfl
  case checkType => cases manifest.healthCheckType <;> rfl
  case instances => cases manifest.instances <;> rfl
  case memory => cases manifest.memory <;> rfl
  case routes =>
    cases manifest.routes with
    | nil => rfl
    | cons first others => exact List.map_map
  case services => cases manifest.services <;> rfl
  case stack => cases manifest.stack <;> rfl
  case timeout => cases manifest.timeout <;> rfl

/-- A size is known from its text. -/
theorem size_inj {first second : Nat} (same : s!"{first}M" = s!"{second}M") : first = second := by
  have digits (size : Nat) : (s!"{size}M").toList = Nat.toDigits 10 size ++ ['M'] := by
    rw [String.toList_append, Nat.toString_eq_ofList_toDigits, String.toList_ofList]
    rfl
  have lists := congrArg String.toList same
  rw [digits, digits] at lists
  have numbers := congrArg (Nat.ofDigitChars 10 · 0) (List.append_cancel_right lists)
  simpa only [Nat.ofDigitChars_ten_toDigits] using numbers

/-! ### Annotations -/

/-- Of the three texts each is kept under its own key, if it says something. -/
theorem get?_annotations (app : Application) :
    (annotations app).get? metadataKey = app.metadata.filter nonEmpty ∧
      (annotations app).get? pathKey = app.path.filter nonEmpty ∧
      (annotations app).get? routePathKey = app.manifest.routePath.filter nonEmpty := by
  have kept (metadata path routePath : Option String) :
      let map := NameMap.ofList ([(metadataKey, metadata), (pathKey, path),
        (routePathKey, routePath)].filterMap fun entry => entry.2.map (entry.1, ·))
      map.get? metadataKey = metadata ∧ map.get? pathKey = path ∧
        map.get? routePathKey = routePath := by
    -- The keys differ, so that each case is a search in a list of three at most.
    simp only [NameMap.get?_ofList]
    cases metadata <;> cases path <;> cases routePath <;>
      simp [metadataKey, pathKey, routePathKey]
  exact kept _ _ _

/-- Reading an annotation passes over an empty text, and so does keeping it. -/
theorem annotated?_annotations (app : Application) :
    annotated? (annotations app) metadataKey = app.metadata.filter nonEmpty ∧
      annotated? (annotations app) pathKey = app.path.filter nonEmpty ∧
      annotated? (annotations app) routePathKey = app.manifest.routePath.filter nonEmpty := by
  obtain ⟨metadata, path, routePath⟩ := get?_annotations app
  simp [annotated?, metadata, path, routePath, Option.filter_filter]

/-! ### Routes -/

theorem withoutSuffix_append (path text : List Char) :
    withoutSuffix path (text ++ path) = text := by
  have ends : path.isSuffixOf (text ++ path) = true :=
    List.isSuffixOf_iff_suffix.mpr (List.suffix_append text path)
  rw [withoutSuffix, if_pos ends, List.length_append, Nat.add_sub_cancel, List.take_left]

/-- An empty path is written as none and read as none. -/
theorem bareRoute_fullRoute (path : Option String) (route : String) :
    bareRoute (path.filter nonEmpty) (fullRoute path route) = route := by
  cases path with
  | none => exact String.append_empty
  | some path =>
    by_cases empty : path = ""
    · rw [empty]
      exact String.append_empty
    · have kept : nonEmpty path = true := by simp [nonEmpty, empty]
      rw [Option.filter_some, if_pos kept, bareRoute, fullRoute, Option.getD_some,
        String.toList_append, withoutSuffix_append, String.ofList_toList]

end Cloud

end CloudSpace
