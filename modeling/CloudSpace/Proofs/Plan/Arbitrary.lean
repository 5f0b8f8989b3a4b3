import CloudSpace.Proofs.Plan.Transition
import CloudSpace.Proofs.Plan.Update

/-!
# Plans of arbitrary changes

The planner of applications on any list of changes, whether the differ can find it or not. It
refuses a list that describes no transition, a record that comes or goes and is no application, and
a change of a size or of the health check that carries no manifest. Of anything else it makes just
the calls that the changes ask for: first those that a change asks for on its own, in the order of
the changes, then at most one scaling and one health check, for which the last changes count.
-/
namespace CloudSpace

/-- The manifest in a record; a service and a list of developers have none. -/
def Affected.manifest? : Affected → Option Manifest
  | .manifest own => some own
  | .application app => some app.manifest
  | .service _ | .developers _ => none

/-- Whether a change is one of the value of a field. -/
def Change.isValueOf (change : Change) (field : String) : Bool :=
  match change.difference with
  | .value .. => change.property? = some field
  | _ => false

namespace Plan

/-! ### What changes ask for -/

def sizeFields : List String := ["instances", "memory", "disk"]

def checkFields : List String := ["healthCheckType", "healthCheckHttpEndpoint"]

/-- Changes of the fields for which there is a common call and not one for each change. -/
def Coalesces (change : Change) : Prop :=
  ∃ field ∈ sizeFields ++ checkFields, change.isValueOf field = true

/-- The calls that a change asks for on its own. -/
def ownCalls (name : String) (change : Change) : List Call :=
  match change.difference with
  | .map entries =>
    if change.property? = some "environmentVariables" then entries.map (environmentCall name)
    else []
  | .collection added removed =>
    if change.property? = some "services" then
      added.map (.bindService name) ++ removed.map (.unbindService name)
    else []
  | .value _ (some newName) =>
    if change.property? = some "name" then [.renameApplication name newName] else []
  | _ => []

def sizeSet (dimension : Dimension) (change : Change) : Option UInt32 :=
  if change.isValueOf dimension.name then change.affected.manifest?.bind dimension.sizeIn else none

def checkSet (change : Change) : Option Manifest :=
  if checkFields.any change.isValueOf then change.affected.manifest? else none

/-- The calls that changes of an application in place ask for. Of each size and of the health check
the last change that sets it counts. -/
def MakesUp (name : String) (changes : List Change) (calls : List Call) : Prop :=
  ∃ scale : Scale,
    (∀ dimension, Dimension.sizeOf dimension scale =
      (changes.filterMap (sizeSet dimension)).getLast?) ∧
    calls = changes.flatMap (ownCalls name) ++
      (if scale = {} then [] else [.scaleApplication name scale]) ++
      (changes.filterMap checkSet).getLast?.toList.flatMap fun manifest =>
        manifest.healthCheckType.toList.map fun type =>
          .setHealthCheck name type manifest.healthCheckHttpEndpoint

/-- Why there is no plan for some changes under the name of an application. -/
inductive Refused (name : String) (changes : List Change) : Prop
  | transition (error : Error) (fails : Transition.of .applications name changes = .error error)
  | record (affected : Affected)
    (whole : Transition.of .applications name changes = .ok (.create affected) ∨
      Transition.of .applications name changes = .ok (.delete affected))
    (foreign : ∀ app, affected ≠ .application app)
  | manifest (updates : Transition.of .applications name changes = .ok (.update changes))
    (change : Change) (member : change ∈ changes) (coalesces : Coalesces change)
    (foreign : change.affected.manifest? = none)

/-! ### What one change contributes -/

section

variable {name : String} {change : Change}

theorem isValueOf_inj {first second : String} (isFirst : change.isValueOf first = true)
    (isSecond : change.isValueOf second = true) : first = second := by
  rw [Change.isValueOf] at isFirst isSecond
  cases isDifference : change.difference <;> simp_all

theorem Dimension.name_inj {first second : Dimension} (same : first.name = second.name) :
    first = second := by
  have known := first.ofName?_name
  rw [same, second.ofName?_name] at known
  exact (Option.some.inj known).symm

theorem coalesces_of_size {dimension : Dimension}
    (isSize : change.isValueOf dimension.name = true) : Coalesces change :=
  ⟨dimension.name, by cases dimension <;> decide, isSize⟩

/-- Changes of the health check are coalesced as those of sizes are. -/
theorem coalesces_of_check (isCheck : checkFields.any change.isValueOf = true) :
    Coalesces change := by
  obtain ⟨field, member, isValue⟩ := List.any_eq_true.mp isCheck
  exact ⟨field, List.mem_append_right _ member, isValue⟩

theorem not_check_of_size {dimension : Dimension}
    (isSize : change.isValueOf dimension.name = true) :
    ¬ checkFields.any change.isValueOf = true := by
  intro isCheck
  obtain ⟨field, member, isValue⟩ := List.any_eq_true.mp isCheck
  rw [← isValueOf_inj isSize isValue] at member
  cases dimension <;> exact absurd member (by decide)

theorem sizeSet_of_single {dimension : Dimension} (single : ¬ Coalesces change) :
    sizeSet dimension change = none := by
  rw [sizeSet, if_neg fun isSize => single (coalesces_of_size isSize)]

theorem checkSet_of_single (single : ¬ Coalesces change) : checkSet change = none := by
  rw [checkSet, if_neg fun isCheck => single (coalesces_of_check isCheck)]

/-- A change that coalesces with others asks for no call of its own. -/
theorem ownCalls_of_coalesces (coalesces : Coalesces change) : ownCalls name change = [] := by
  obtain ⟨field, member, isValue⟩ := coalesces
  have other : field ≠ "name" := by
    rintro rfl
    exact absurd member (by decide)
  rw [Change.isValueOf] at isValue
  rw [ownCalls]
  cases isDifference : change.difference with
  | value before after => cases after <;> simp_all
  | _ => simp_all

theorem property_eq_iff {field : String} (nonempty : field ≠ "") :
    change.property?.getD "" = field ↔ change.property? = some field := by
  cases change.property? with
  | none => simp [nonempty.symm]
  | some other => simp

/-- What can come of one change. -/
inductive Gives (name : String) (change : Change) : Except Error Contribution → Prop
  | size (dimension : Dimension) (isSize : change.isValueOf dimension.name = true) :
    Gives name change ((manifestOf name change).map (sizeContribution name dimension))
  | check (isCheck : checkFields.any change.isValueOf = true) :
    Gives name change ((manifestOf name change).map .healthCheck)
  | calls (single : ¬ Coalesces change) : Gives name change (.ok (.calls (ownCalls name change)))
  | warning (single : ¬ Coalesces change) (nothing : ownCalls name change = [])
    (message : String) : Gives name change (.ok (.warning message))

theorem gives_single {p : Prop} [Decidable p] {calls : List Call} (single : ¬ Coalesces change)
    (own : ownCalls name change = if p then calls else []) :
    Gives name change (if p then .ok (.calls calls) else .ok (noCall name change)) := by
  split
  next holds =>
    rw [if_pos holds] at own
    exact own ▸ .calls single
  next fails =>
    rw [if_neg fails] at own
    exact .warning single own _

theorem gives_value {before after : Option String}
    (isValue : change.difference = .value before after) :
    Gives name change (valueContribution name change after) := by
  have valueOf (field : String) :
      change.isValueOf field = decide (change.property? = some field) := by
    rw [Change.isValueOf, isValue]
  -- As in the planner the sizes come first, then the health check, and then what is left.
  cases known : Dimension.ofName? (change.property?.getD "") with
  | some dimension =>
    -- The dimension is known from the name of the property, as no two of them share it.
    have isName : change.property?.getD "" = dimension.name := by
      simpa [eq_comm] using List.find?_some known
    have isSize : change.isValueOf dimension.name = true := by
      rw [valueOf, decide_eq_true_eq]
      exact (property_eq_iff (by cases dimension <;> decide)).mp isName
    have given : valueContribution name change after =
        (manifestOf name change).map (sizeContribution name dimension) := by
      rw [isName] at known
      simp only [valueContribution, isName, known]
      cases manifestOf name change with
      | error _ => rfl
      | ok manifest =>
        simp only [bind, Except.bind, Except.map, sizeContribution]
        cases dimension.sizeIn manifest <;> rfl
    rw [given]
    exact .size dimension isSize
  | none =>
    -- Without a dimension no size is set, whichever it is.
    have noSize (dimension : Dimension) : change.isValueOf dimension.name = false := by
      rw [valueOf, decide_eq_false_iff_not]
      intro isSize
      rw [isSize, Option.getD_some] at known
      cases dimension <;> exact absurd known (by decide)
    have isCheck : checkFields.any change.isValueOf = true ↔
        change.property? = some "healthCheckType" ∨
          change.property? = some "healthCheckHttpEndpoint" := by
      simp [checkFields, valueOf]
    simp only [valueContribution, known, Bool.or_eq_true, decide_eq_true_eq,
      property_eq_iff (show "healthCheckType" ≠ "" by decide),
      property_eq_iff (show "healthCheckHttpEndpoint" ≠ "" by decide),
      property_eq_iff (show "name" ≠ "" by decide), ← isCheck]
    split
    next check => exact .check check
    next noCheck =>
      have single : ¬ Coalesces change := by
        rintro ⟨field, member, isField⟩
        rcases List.mem_append.mp member with isSize | isCheckField
        · have sizes : ∀ field ∈ sizeFields, change.isValueOf field = false :=
            List.forall_mem_cons.mpr ⟨noSize .instances, List.forall_mem_cons.mpr
              ⟨noSize .memory, List.forall_mem_singleton.mpr (noSize .disk)⟩⟩
          rw [sizes field isSize] at isField
          cases isField
        · exact noCheck (List.any_eq_true.mpr ⟨field, isCheckField, isField⟩)
      cases after with
      | none =>
        rw [ite_self]
        exact .warning single (by rw [ownCalls, isValue]) _
      | some newName => exact gives_single single (by rw [ownCalls, isValue])

/-- Every change gives what the planner makes of it, or fails as it does. -/
theorem gives_contribution (name : String) (change : Change) :
    Gives name change (contribution name change) := by
  have single (noValue : ∀ field, change.isValueOf field = false) : ¬ Coalesces change := by
    rintro ⟨field, _, isValue⟩
    rw [noValue field] at isValue
    cases isValue
  -- Values, maps and collections can be carried out; whole objects within one are a warning.
  cases isDifference : change.difference with
  | value before after =>
    rw [contribution, isDifference]
    exact gives_value isDifference
  | map entries =>
    simp only [contribution, isDifference,
      property_eq_iff (show "environmentVariables" ≠ "" by decide)]
    exact gives_single (single fun field => by rw [Change.isValueOf, isDifference])
      (by rw [ownCalls, isDifference])
  | collection added removed =>
    simp only [contribution, isDifference, property_eq_iff (show "services" ≠ "" by decide)]
    exact gives_single (single fun field => by rw [Change.isValueOf, isDifference])
      (by rw [ownCalls, isDifference])
  | objectAdded | objectRemoved =>
    rw [contribution, isDifference]
    exact .warning (single fun field => by rw [Change.isValueOf, isDifference])
      (by rw [ownCalls, isDifference]) _

theorem map_manifestOf_eq_ok_iff {make : Manifest → Contribution} {given : Contribution} :
    (manifestOf name change).map make = .ok given ↔
      ∃ manifest, change.affected.manifest? = some manifest ∧ given = make manifest := by
  rw [manifestOf]
  cases change.affected <;> simp [Affected.manifest?, Except.map, eq_comm]

theorem map_manifestOf_eq_error_iff {make : Manifest → Contribution} {error : Error} :
    (manifestOf name change).map make = .error error ↔ change.affected.manifest? = none ∧
      error = unexpectedRecord .applications name change.affected := by
  rw [manifestOf]
  cases change.affected <;> simp [Affected.manifest?, Except.map, eq_comm]

theorem contribution_eq_error_iff {error : Error} : contribution name change = .error error ↔
    Coalesces change ∧ change.affected.manifest? = none ∧
      error = unexpectedRecord .applications name change.affected := by
  have gives := gives_contribution name change
  generalize contribution name change = given at gives ⊢
  cases gives with
  | size dimension isSize =>
    rw [map_manifestOf_eq_error_iff, and_iff_right (coalesces_of_size isSize)]
  | check isCheck => rw [map_manifestOf_eq_error_iff, and_iff_right (coalesces_of_check isCheck)]
  | calls single | warning single => simp [single]

/-- The size that a contribution sets of a dimension. -/
def Contribution.sizeOf? (dimension : Dimension) : Contribution → Option UInt32
  | .size other given => if other = dimension then some given else none
  | _ => none

/-- The manifest whose health check a contribution sets. -/
def Contribution.manifest? : Contribution → Option Manifest
  | .healthCheck manifest => some manifest
  | _ => none

/-- The parts of a contribution are what its change asks for. -/
structure Answers (name : String) (change : Change) (given : Contribution) : Prop where
  calls : given.callList = ownCalls name change
  size : ∀ dimension, given.sizeOf? dimension = sizeSet dimension change
  check : given.manifest? = checkSet change

/-- A contribution answers to what its change asks for: calls, sizes and health check. -/
theorem answers_contribution {given : Contribution}
    (contributed : contribution name change = .ok given) : Answers name change given := by
  have gives := gives_contribution name change
  generalize contribution name change = result at gives contributed
  cases gives with
  | size dimension isSize =>
    obtain ⟨manifest, carries, rfl⟩ := map_manifestOf_eq_ok_iff.mp contributed
    refine ⟨?_, fun other => ?_, ?_⟩
    · rw [callList_sizeContribution, ownCalls_of_coalesces (coalesces_of_size isSize)]
    · rw [sizeSet, carries, Option.bind_some, sizeContribution]
      by_cases same : dimension = other
      · subst same
        rw [if_pos isSize]
        cases dimension.sizeIn manifest <;> simp [Contribution.sizeOf?]
      -- As dimensions have names of their own, a size is set for one dimension only.
      · rw [if_neg fun isOther => same (Dimension.name_inj (isValueOf_inj isSize isOther))]
        cases dimension.sizeIn manifest <;> simp [Contribution.sizeOf?, same]
    · rw [checkSet, if_neg (not_check_of_size isSize), sizeContribution]
      cases dimension.sizeIn manifest <;> rfl
  | check isCheck =>
    obtain ⟨manifest, carries, rfl⟩ := map_manifestOf_eq_ok_iff.mp contributed
    refine ⟨?_, fun dimension => ?_, ?_⟩
    · exact (ownCalls_of_coalesces (coalesces_of_check isCheck)).symm
    · rw [sizeSet, if_neg fun isSize => not_check_of_size isSize isCheck]
      rfl
    · rw [checkSet, if_pos isCheck, carries]
      rfl
  | calls single =>
    cases contributed
    exact ⟨rfl, fun _ => (sizeSet_of_single single).symm, (checkSet_of_single single).symm⟩
  | warning single nothing message =>
    cases contributed
    exact ⟨nothing.symm, fun _ => (sizeSet_of_single single).symm,
      (checkSet_of_single single).symm⟩

end

/-! ### What all changes contribute -/

section

variable {name : String} {changes : List Change} {given : List Contribution}

/-- Either every change contributes something, or the first that is refused ends the plan. -/
theorem contributions_cases (name : String) (changes : List Change) :
    (∃ given, Contributes name changes given ∧
      ∀ change ∈ changes, ∃ one, contribution name change = .ok one) ∨
    ∃ given error, contributions name changes = (given, some error) ∧
      ∃ change ∈ changes, contribution name change = .error error := by
  -- By induction on the changes: the first one fails, or the failure is that of the rest.
  induction changes with
  | nil => exact .inl ⟨[], rfl, List.forall_mem_nil _⟩
  | cons change rest ih =>
    cases contributed : contribution name change with
    | error error =>
      refine .inr ⟨[], error, ?_, change, List.mem_cons_self, contributed⟩
      rw [contributions, contributed]
    | ok first =>
      rcases ih with ⟨given, complete, all⟩ | ⟨given, error, failed, other, member, refused⟩
      · refine .inl ⟨first :: given, ?_, List.forall_mem_cons.mpr ⟨⟨first, contributed⟩, all⟩⟩
        rw [Contributes] at complete ⊢
        simp only [contributions, contributed, complete]
      · refine .inr ⟨first :: given, error, ?_, other, List.mem_cons_of_mem _ member, refused⟩
        simp only [contributions, contributed, failed]

/-- After a list of writes the last value written is read, or else the one from before. -/
theorem foldl_last {α β σ : Type} {step : σ → α → σ} {read : σ → Option β} {write : α → Option β}
    (writes : ∀ state one, read (step state one) = (write one).or (read state)) (all : List α)
    (start : σ) : read (all.foldl step start) = (all.filterMap write).getLast?.or (read start) := by
  induction all generalizing start with
  | nil => rfl
  | cons one rest ih =>
    rw [List.foldl_cons, ih, writes]
    cases written : write one with
    | none => simp [written]
    | some value =>
      cases last : (rest.filterMap write).getLast? <;> simp [written, last, List.getLast?_cons]

theorem sizeOf_scaleOf (given : List Contribution) (dimension : Dimension) :
    dimension.sizeOf (scaleOf given) = (given.filterMap (·.sizeOf? dimension)).getLast? := by
  have writes (scale : Scale) (one : Contribution) : dimension.sizeOf (addSize scale one) =
      (one.sizeOf? dimension).or (dimension.sizeOf scale) := by
    cases one with
    | size other size => cases other <;> cases dimension <;> rfl
    | _ => rfl
  have nothing : dimension.sizeOf {} = none := by cases dimension <;> rfl
  rw [scaleOf_eq, foldl_last writes, nothing, Option.or_none]

theorem healthCheckOf_eq_last (given : List Contribution) :
    healthCheckOf given = (given.filterMap (·.manifest?)).getLast? := by
  have writes (last : Option Manifest) (one : Contribution) :
      id (lastHealthCheck last one) = one.manifest?.or (id last) := by cases one <;> rfl
  rw [healthCheckOf_eq]
  exact (foldl_last writes given none).trans Option.or_none

theorem Contributes.filterMap_eq {β : Type} {read : Contribution → Option β}
    {ask : Change → Option β} (contributed : Contributes name changes given)
    (each : ∀ change one, contribution name change = .ok one → read one = ask change) :
    given.filterMap read = changes.filterMap ask := by
  have same := congrArg (List.filterMap id) (contributed.map_eq each)
  simpa only [List.filterMap_map, Function.id_comp] using same

theorem makesUp_callsOf (contributed : Contributes name changes given) :
    MakesUp name changes (callsOf name given) := by
  -- Calls, sizes and the health check are each read off what the changes contribute.
  have own : given.flatMap Contribution.callList = changes.flatMap (ownCalls name) := by
    rw [List.flatMap_def, List.flatMap_def]
    exact congrArg _ (contributed.map_eq fun _ _ one => (answers_contribution one).calls)
  have sizes (dimension : Dimension) :=
    contributed.filterMap_eq fun _ _ one => (answers_contribution one).size dimension
  have checks := contributed.filterMap_eq fun _ _ one => (answers_contribution one).check
  have last (check : Option Manifest) : healthCheckCalls name check =
      check.toList.flatMap fun manifest => manifest.healthCheckType.toList.map fun type =>
        .setHealthCheck name type manifest.healthCheckHttpEndpoint := by
    cases check <;> simp [healthCheckCalls]
  refine ⟨scaleOf given, fun dimension => ?_, ?_⟩
  · rw [sizeOf_scaleOf, sizes]
  · rw [callsOf, own, scaleCalls_eq, healthCheckOf_eq_last, checks, last]

/-- The update of an application fails exactly if a change that coalesces carries no manifest, and
otherwise makes what the changes ask for. -/
theorem updateApplication_cases (name : String) (changes : List Change) :
    (∃ calls, (updateApplication name changes).calls = .ok calls ∧ MakesUp name changes calls ∧
      ∀ change ∈ changes, Coalesces change → change.affected.manifest? ≠ none) ∨
    ∃ change ∈ changes, (updateApplication name changes).calls =
        .error (unexpectedRecord .applications name change.affected) ∧
      Coalesces change ∧ change.affected.manifest? = none := by
  rcases contributions_cases name changes with
    ⟨given, complete, all⟩ | ⟨given, error, failed, change, member, refused⟩
  · refine .inl ⟨callsOf name given, ?_, makesUp_callsOf complete, ?_⟩
    · rw [Contributes] at complete
      rw [updateApplication, complete]
    -- A change that coalesces without a manifest would have failed, but all have contributed.
    · intro change member coalesces foreign
      obtain ⟨one, contributed⟩ := all change member
      rw [contribution_eq_error_iff.mpr ⟨coalesces, foreign, rfl⟩] at contributed
      cases contributed
  · obtain ⟨coalesces, foreign, rfl⟩ := contribution_eq_error_iff.mp refused
    refine .inr ⟨change, member, ?_, coalesces, foreign⟩
    rw [updateApplication, failed]

end

/-! ### Plans -/

section

variable {name : String} {changes : List Change}

theorem exists_plan_of_transition_error {error : Error}
    (fails : Transition.of .applications name changes = .error error) :
    ∃ cause, error = .plan cause := by
  obtain ⟨case, describes⟩ := Transition.exists_describes .applications name changes
  have isCase := Transition.caseOf_eq_iff.mpr describes
  rw [fails] at isCase
  cases error with
  | plan cause => exact ⟨cause, rfl⟩
  | _ => cases isCase

theorem eq_of_transition_update {given : List Change}
    (updates : Transition.of .applications name changes = .ok (.update given)) :
    given = changes := by
  cases Transition.describes_of updates rfl with
  | updated named fields =>
    rw [Transition.of_updated named fields] at updates
    cases updates
    rfl

/-- Whole applications are not refused: they are created or deleted as they come. -/
theorem not_refused_of_application {app : Application}
    (whole : Transition.of .applications name changes = .ok (.create (.application app)) ∨
      Transition.of .applications name changes = .ok (.delete (.application app))) :
    ¬ Refused name changes := by
  intro refused
  cases refused with
  | transition error fails => rcases whole with made | deleted <;> simp_all
  | record affected isWhole foreign =>
    have same : affected = .application app := by
      rcases whole with made | deleted <;> rcases isWhole with other | other <;> simp_all
    exact foreign app same
  | manifest updates => rcases whole with made | deleted <;> simp_all

/-- A plan is refused with a planning error, or it is not and makes what the changes ask for. -/
theorem application_cases (name : String) (changes : List Change) :
    (∃ calls, (application name changes).calls = .ok calls ∧ ¬ Refused name changes ∧
      ∀ given, Transition.of .applications name changes = .ok (.update given) →
        MakesUp name changes calls) ∨
    ∃ cause, (application name changes).calls = .error (.plan cause) ∧ Refused name changes := by
  -- The transition decides: it fails, or a record is created or deleted, or fields are updated.
  cases transition : Transition.of .applications name changes with
  | error error =>
    obtain ⟨cause, rfl⟩ := exists_plan_of_transition_error transition
    exact .inr ⟨cause, by rw [application, transition], .transition _ transition⟩
  | ok described =>
    rw [application, transition]
    cases described with
    | create affected =>
      cases affected with
      | application app =>
        exact .inl ⟨_, rfl, not_refused_of_application (.inl transition), by simp⟩
      | _ => exact .inr ⟨_, rfl, .record _ (.inl transition) (by simp)⟩
    | delete affected =>
      cases affected with
      | application app =>
        exact .inl ⟨_, rfl, not_refused_of_application (.inr transition), by simp⟩
      | _ => exact .inr ⟨_, rfl, .record _ (.inr transition) (by simp)⟩
    | update given =>
      obtain rfl := eq_of_transition_update transition
      rcases updateApplication_cases name given with
        ⟨calls, made, makesUp, carries⟩ | ⟨change, member, failed, coalesces, foreign⟩
      · refine .inl ⟨calls, made, ?_, fun _ _ => makesUp⟩
        intro refused
        cases refused with
        | transition error fails => simp [transition] at fails
        | record affected whole foreign => simp [transition] at whole
        | manifest updates change member coalesces foreign =>
          exact carries change member coalesces foreign
      · exact .inr ⟨_, failed, .manifest transition change member coalesces foreign⟩

/-- There are calls unless the changes are refused. -/
theorem exists_calls_iff_not_refused :
    (∃ calls, (application name changes).calls = .ok calls) ↔ ¬ Refused name changes := by
  rcases application_cases name changes with ⟨calls, made, accepted, _⟩ | ⟨cause, failed, refused⟩
  · exact iff_of_true ⟨calls, made⟩ accepted
  · exact iff_of_false (by simp [failed]) (not_not_intro refused)

theorem makesUp_of_update {given : List Change} {calls : List Call}
    (updates : Transition.of .applications name changes = .ok (.update given))
    (made : (application name changes).calls = .ok calls) : MakesUp name changes calls := by
  rcases application_cases name changes with ⟨other, madeOther, _, makesUp⟩ | ⟨cause, failed, _⟩
  · cases made.symm.trans madeOther
    exact makesUp given updates
  · exact nomatch made.symm.trans failed

end

/-- There is a plan for every list of changes but those that are refused, and an update makes what
its changes ask for and nothing else. -/
theorem application_exact (name : String) (changes : List Change) :
    ((∃ error, (application name changes).calls = .error error) ↔ Refused name changes) ∧
    (∀ error, (application name changes).calls = .error error → ∃ cause, error = .plan cause) ∧
    ∀ given calls, Transition.of .applications name changes = .ok (.update given) →
      (application name changes).calls = .ok calls → MakesUp name changes calls := by
  refine ⟨?_, ?_, fun _ _ => makesUp_of_update⟩
  · rw [← not_iff_not, ← exists_calls_iff_not_refused]
    cases (application name changes).calls <;> simp
  · intro error fails
    rcases application_cases name changes with ⟨calls, made, _⟩ | ⟨cause, failed, _⟩
    · exact nomatch fails.symm.trans made
    · cases fails.symm.trans failed
      exact ⟨cause, rfl⟩

/-- The last manifest with a memory gives the memory, a list in the place of a size and a record
beside a field are passed over, and with a size of a service there is no plan. -/
theorem application_exact_mixed :
    let root : Path := (Path.ofEntity .applications "web").child "manifest"
    let sized (memory : Option UInt32) : Affected := .manifest { memory, disk := some 64 }
    let memory (affected : Affected) : Change :=
      ⟨root.child "memory", affected, .value (some "1") (some "2")⟩
    let foreign := memory (.service ⟨"sql", "small", [], ∅⟩)
    let changes := [memory (sized (some 256)),
      ⟨root.child "services", sized none, .collection ["db"] ["log", "old"]⟩,
      ⟨root.child "disk", sized none, .collection ["64"] []⟩,
      memory (sized (some 512)),
      ⟨root.child "environmentVariables", sized none,
        .map [⟨"A", .changed, some "1", some "2"⟩, ⟨"B", .removed, some "1", none⟩]⟩,
      ⟨root.child "name", .developers [], .value none (some "api")⟩,
      memory (sized none)]
    let calls : List Call := [.bindService "web" "db", .unbindService "web" "log",
      .unbindService "web" "old", .addEnvironmentVariable "web" "A" "2",
      .removeEnvironmentVariable "web" "B", .renameApplication "web" "api",
      .scaleApplication "web" { memory := some 512 }]
    (application "web" changes).calls = .ok calls ∧ MakesUp "web" changes calls ∧
    ∃ cause, (application "web" (changes ++ [foreign])).calls = .error (.plan cause) := by
  intro root sized memory foreign changes calls
  -- The changes are of fields, so that the application is updated.
  have updates : Transition.of .applications "web" changes = .ok (.update changes) := rfl
  have made : (application "web" changes).calls = .ok calls := rfl
  obtain ⟨-, -, makesUp⟩ := application_exact "web" changes
  obtain ⟨fails, planning, -⟩ := application_exact "web" (changes ++ [foreign])
  have refused : Refused "web" (changes ++ [foreign]) :=
    .manifest rfl foreign (List.mem_append_right _ (List.mem_singleton_self _))
      ⟨"memory", by decide, rfl⟩ rfl
  obtain ⟨error, failed⟩ := fails.mpr refused
  obtain ⟨cause, rfl⟩ := planning error failed
  exact ⟨made, makesUp changes calls updates made, cause, failed⟩

end Plan

end CloudSpace
