import CloudSpace.Proofs.Text
import CloudSpace.Proofs.Validation.Rules
import Mathlib.Data.List.Nodup

/-!
# The problems of a document

The list of problems has one for each place and rule that a document breaks, and each of them once,
because it follows the order in which places and rules stand. With the order, the members settle
the list.
-/
namespace CloudSpace

/-! ### Places -/

namespace Problem

/-- Target, developers, services and applications, as documents have them. -/
def part : Problem → Nat
  | blankTargetField _ => 0
  | blankDeveloper _ => 1
  | badServiceName _ | blankOffering _ | blankPlan _ => 2
  | badApplicationName _ | zeroSetting .. => 3

/-- The position among the developers. -/
def position : Problem → Nat
  | blankDeveloper index => index
  | _ => 0

/-- The name of the service or application. -/
def entity : Problem → String
  | blankTargetField _ | blankDeveloper _ => ""
  | badServiceName name | blankOffering name | blankPlan name => name
  | badApplicationName name | zeroSetting name _ => name

/-- The rule among those for the same record. -/
def rule : Problem → Nat
  | blankTargetField field => ["api", "organization", "space"].idxOf field
  | blankDeveloper _ => 0
  | badServiceName _ => 0
  | blankOffering _ => 1
  | blankPlan _ => 2
  | badApplicationName _ => 0
  | zeroSetting _ setting => 1 + ["instances", "memory", "disk", "timeout"].idxOf setting

/-- One problem stands before another one: by section, then by position or name, then by rule. -/
def Before (first second : Problem) : Prop :=
  first.part < second.part ∨ first.part = second.part ∧
    (first.position < second.position ∨ first.position = second.position ∧
      (first.entity < second.entity ∨ first.entity = second.entity ∧ first.rule < second.rule))

theorem not_before_self (problem : Problem) : ¬ problem.Before problem := by
  simp [Before]

end Problem

/-! ### What is listed -/

theorem mem_listIf {α : Type} {condition : Bool} {entry given : α} :
    given ∈ listIf condition entry ↔ condition = true ∧ given = entry := by
  cases condition <;> simp [listIf]

theorem Target.mem_problems {target : Target} {problem : Problem} :
    problem ∈ target.problems ↔ ∃ field value, (field, value) ∈ target.fields ∧
      Text.isBlankText value = true ∧ problem = .blankTargetField field := by
  simp [problems, fields, mem_listIf, or_and_right, exists_or]

theorem mem_developerProblems {users : List String} {problem : Problem} :
    problem ∈ developerProblems users ↔ ∃ index user, users[index]? = some user ∧
      Text.isBlankText user = true ∧ problem = .blankDeveloper index := by
  simp only [developerProblems, List.mem_flatMap, Prod.exists, List.mk_mem_zipIdx_iff_getElem?,
    mem_listIf]
  exact exists_comm

theorem Service.mem_problems {name : String} {service : Service} {problem : Problem} :
    problem ∈ service.problems name ↔
      (¬ UsableName name ∧ problem = .badServiceName name) ∨
      (Text.isBlankText service.offering = true ∧ problem = .blankOffering name) ∨
      (Text.isBlankText service.plan = true ∧ problem = .blankPlan name) := by
  simp [problems, mem_listIf, ← isUsableName_iff]

theorem Application.mem_problems {name : String} {app : Application} {problem : Problem} :
    problem ∈ app.problems name ↔
      (¬ UsableName name ∧ problem = .badApplicationName name) ∨
      ∃ setting, (setting, some 0) ∈ app.manifest.sizes ∧ problem = .zeroSetting name setting := by
  simp [problems, Manifest.sizes, mem_listIf, ← isUsableName_iff, or_and_right, exists_or,
    eq_comm (a := some (0 : UInt32))]

/-- What is listed of a section is what is listed of its records. -/
theorem mem_section_iff {α β : Type} {records : Option (NameMap α)} {item : β}
    (list : String → α → List β) :
    item ∈ (records.getD ∅).entries.flatMap (fun entry => list entry.1 entry.2) ↔
      ∃ map name record, records = some map ∧ map.get? name = some record ∧
        item ∈ list name record := by
  simp only [List.mem_flatMap, Prod.exists, ← NameMap.get?_eq_some_iff]
  cases records <;> simp

namespace Document

/-- The problems of a document are those of its four parts. -/
theorem mem_problems {document : Document} {problem : Problem} :
    problem ∈ document.problems ↔
      (∃ target, document.target = some target ∧ problem ∈ target.problems) ∨
      (∃ users, document.spec.developers = some users ∧ problem ∈ developerProblems users) ∨
      (∃ services name service, document.spec.services = some services ∧
        services.get? name = some service ∧ problem ∈ service.problems name) ∨
      ∃ apps name app, document.spec.applications = some apps ∧
        apps.get? name = some app ∧ problem ∈ app.problems name := by
  rw [problems, List.mem_append, List.mem_append, List.mem_append,
    mem_section_iff fun name service => Service.problems name service,
    mem_section_iff fun name app => Application.problems name app]
  simp only [List.mem_flatMap, Option.mem_toList, or_assoc]

/-- A document is reported exactly for the rules it breaks. -/
theorem mem_problems_iff_breaks {document : Document} {problem : Problem} :
    problem ∈ document.problems ↔ document.Breaks problem := by
  rw [mem_problems]
  constructor
  -- Problems are listed section by section, and each names the rule it breaks.
  · rintro (⟨target, given, listed⟩ | ⟨users, given, listed⟩ |
      ⟨services, name, service, given, has, listed⟩ | ⟨apps, name, app, given, has, listed⟩)
    · obtain ⟨field, value, member, blank, rfl⟩ := Target.mem_problems.mp listed
      exact .target given member blank
    · obtain ⟨index, user, here, blank, rfl⟩ := mem_developerProblems.mp listed
      exact .developer given here blank
    · rcases Service.mem_problems.mp listed with ⟨unusable, rfl⟩ | ⟨blank, rfl⟩ | ⟨blank, rfl⟩
      · exact .serviceName given has unusable
      · exact .offering given has blank
      · exact .plan given has blank
    · rcases Application.mem_problems.mp listed with ⟨unusable, rfl⟩ | ⟨setting, zero, rfl⟩
      · exact .applicationName given has unusable
      · exact .setting given has zero
  -- Broken rules are found in the section that they are about.
  · intro broken
    cases broken with
    | target given member blank =>
      exact .inl ⟨_, given, Target.mem_problems.mpr ⟨_, _, member, blank, rfl⟩⟩
    | developer given here blank =>
      exact .inr (.inl ⟨_, given, mem_developerProblems.mpr ⟨_, _, here, blank, rfl⟩⟩)
    | serviceName given has unusable =>
      refine .inr (.inr (.inl ⟨_, _, _, given, has, Service.mem_problems.mpr ?_⟩))
      exact .inl ⟨unusable, rfl⟩
    | offering given has blank =>
      refine .inr (.inr (.inl ⟨_, _, _, given, has, Service.mem_problems.mpr ?_⟩))
      exact .inr (.inl ⟨blank, rfl⟩)
    | plan given has blank =>
      refine .inr (.inr (.inl ⟨_, _, _, given, has, Service.mem_problems.mpr ?_⟩))
      exact .inr (.inr ⟨blank, rfl⟩)
    | applicationName given has unusable =>
      refine .inr (.inr (.inr ⟨_, _, _, given, has, Application.mem_problems.mpr ?_⟩))
      exact .inl ⟨unusable, rfl⟩
    | setting given has zero =>
      refine .inr (.inr (.inr ⟨_, _, _, given, has, Application.mem_problems.mpr ?_⟩))
      exact .inr ⟨_, zero, rfl⟩

end Document

/-! ### The order of the list -/

theorem listIf_sublist {α : Type} (condition : Bool) (entry : α) :
    (listIf condition entry).Sublist [entry] := by
  cases condition <;> simp [listIf]

theorem flatMap_listIf_sublist {α β : Type} (list : List α) (condition : α → Bool) (f : α → β) :
    (list.flatMap fun a => listIf (condition a) (f a)).Sublist (list.map f) := by
  induction list with
  | nil => exact .slnil
  | cons head rest ih => exact (listIf_sublist _ _).append ih

/-- The indices of a list ascend. -/
theorem pairwise_zipIdx {α : Type} (items : List α) :
    items.zipIdx.Pairwise fun first second => first.2 < second.2 := by
  have ascending : (items.zipIdx.map (·.2)).Pairwise (· < ·) := by
    rw [List.zipIdx_map_snd]
    exact List.pairwise_lt_range'
  rwa [List.pairwise_map] at ascending

/-- What is listed of records follows their names. -/
theorem pairwise_entries {α β : Type} {map : NameMap α} {list : String → α → List β}
    {before : β → β → Prop} (ordered : ∀ name record, (list name record).Pairwise before)
    (apart : ∀ name other record otherRecord, name < other → ∀ first ∈ list name record,
      ∀ second ∈ list other otherRecord, before first second) :
    (map.entries.flatMap fun entry => list entry.1 entry.2).Pairwise before := by
  refine List.pairwise_flatMap.mpr ⟨fun entry _ => ordered entry.1 entry.2, ?_⟩
  exact map.ascending.imp fun {entry other} less => apart entry.1 other.1 entry.2 other.2 less

theorem Target.pairwise_problems (target : Target) : target.problems.Pairwise Problem.Before := by
  have all : target.problems.Sublist
      [.blankTargetField "api", .blankTargetField "organization", .blankTargetField "space"] :=
    ((listIf_sublist _ _).append (listIf_sublist _ _)).append (listIf_sublist _ _)
  refine .sublist all ?_
  simp [Problem.Before, Problem.part, Problem.position, Problem.entity, Problem.rule]

theorem pairwise_developerProblems (users : List String) :
    (developerProblems users).Pairwise Problem.Before := by
  have all : (developerProblems users).Sublist
      (users.zipIdx.map fun entry => Problem.blankDeveloper entry.2) :=
    flatMap_listIf_sublist _ _ _
  refine .sublist all ?_
  rw [List.pairwise_map]
  exact (pairwise_zipIdx users).imp fun less => .inr ⟨rfl, .inl less⟩

/-- The problems of a service come as name, offering and plan. -/
theorem Service.pairwise_problems (name : String) (service : Service) :
    (service.problems name).Pairwise Problem.Before := by
  have all : (service.problems name).Sublist
      [.badServiceName name, .blankOffering name, .blankPlan name] :=
    ((listIf_sublist _ _).append (listIf_sublist _ _)).append (listIf_sublist _ _)
  refine .sublist all ?_
  simp [Problem.Before, Problem.part, Problem.position, Problem.entity, Problem.rule]

theorem Application.pairwise_problems (name : String) (app : Application) :
    (app.problems name).Pairwise Problem.Before := by
  have all : (app.problems name).Sublist
      [.badApplicationName name, .zeroSetting name "instances", .zeroSetting name "memory",
        .zeroSetting name "disk", .zeroSetting name "timeout"] :=
    ((((listIf_sublist _ _).append (listIf_sublist _ _)).append (listIf_sublist _ _)).append
      (listIf_sublist _ _)).append (listIf_sublist _ _)
  refine .sublist all ?_
  simp [Problem.Before, Problem.part, Problem.position, Problem.entity, Problem.rule]

theorem Service.place_of_mem_problems {name : String} {service : Service} {problem : Problem}
    (listed : problem ∈ service.problems name) :
    problem.part = 2 ∧ problem.position = 0 ∧ problem.entity = name := by
  rcases mem_problems.mp listed with ⟨_, rfl⟩ | ⟨_, rfl⟩ | ⟨_, rfl⟩ <;> exact ⟨rfl, rfl, rfl⟩

theorem Application.place_of_mem_problems {name : String} {app : Application} {problem : Problem}
    (listed : problem ∈ app.problems name) :
    problem.part = 3 ∧ problem.position = 0 ∧ problem.entity = name := by
  rcases mem_problems.mp listed with ⟨_, rfl⟩ | ⟨_, _, rfl⟩ <;> exact ⟨rfl, rfl, rfl⟩

/-- The problems of a section follow the names of its records. -/
theorem pairwise_section {α : Type} {map : NameMap α} {problems : String → α → List Problem}
    {part : Nat}
    (placed : ∀ name record, ∀ problem ∈ problems name record,
      problem.part = part ∧ problem.position = 0 ∧ problem.entity = name)
    (ordered : ∀ name record, (problems name record).Pairwise Problem.Before) :
    (map.entries.flatMap fun entry => problems entry.1 entry.2).Pairwise Problem.Before := by
  refine pairwise_entries ordered fun name other _ _ less first isFirst second isSecond => ?_
  obtain ⟨part, position, entity⟩ := placed _ _ first isFirst
  obtain ⟨part', position', entity'⟩ := placed _ _ second isSecond
  refine .inr ⟨part.trans part'.symm, .inr ⟨position.trans position'.symm, .inl ?_⟩⟩
  rwa [entity, entity']

/-- Two lists in order stay in order one after the other, if all of the first is in earlier
sections than all of the second. -/
theorem pairwise_before_append {first second : List Problem} (bound : Nat)
    (orderedFirst : first.Pairwise Problem.Before) (orderedSecond : second.Pairwise Problem.Before)
    (early : ∀ problem ∈ first, problem.part < bound)
    (late : ∀ problem ∈ second, problem.part = bound) :
    (first ++ second).Pairwise Problem.Before := by
  refine List.pairwise_append.mpr ⟨orderedFirst, orderedSecond, ?_⟩
  intro problem isFirst other isSecond
  exact .inl (late other isSecond ▸ early problem isFirst)

/-- The problems of a document come in the order of their places. -/
theorem Document.pairwise_problems (document : Document) :
    document.problems.Pairwise Problem.Before := by
  -- An absent section has no problems.
  have target : (document.target.toList.flatMap Target.problems).Pairwise Problem.Before := by
    cases document.target with
    | none => exact .nil
    | some target => simpa using target.pairwise_problems
  have developers :
      (document.spec.developers.toList.flatMap developerProblems).Pairwise Problem.Before := by
    cases document.spec.developers with
    | none => exact .nil
    | some users => simpa using pairwise_developerProblems users
  -- The parts are numbered, so that one after the other is in order.
  have targetPart : ∀ problem ∈ document.target.toList.flatMap Target.problems,
      problem.part = 0 := by
    intro problem listed
    obtain ⟨target, _, listed⟩ := List.mem_flatMap.mp listed
    obtain ⟨_, _, _, _, rfl⟩ := Target.mem_problems.mp listed
    rfl
  have developersPart : ∀ problem ∈ document.spec.developers.toList.flatMap developerProblems,
      problem.part = 1 := by
    intro problem listed
    obtain ⟨users, _, listed⟩ := List.mem_flatMap.mp listed
    obtain ⟨_, _, _, _, rfl⟩ := mem_developerProblems.mp listed
    rfl
  have servicesPart : ∀ problem ∈ (document.spec.services.getD ∅).entries.flatMap
      (fun entry => entry.2.problems entry.1), problem.part = 2 := by
    intro problem listed
    obtain ⟨_, _, listed⟩ := List.mem_flatMap.mp listed
    exact (Service.place_of_mem_problems listed).1
  have applicationsPart : ∀ problem ∈ (document.spec.applications.getD ∅).entries.flatMap
      (fun entry => entry.2.problems entry.1), problem.part = 3 := by
    intro problem listed
    obtain ⟨_, _, listed⟩ := List.mem_flatMap.mp listed
    exact (Application.place_of_mem_problems listed).1
  rw [problems]
  refine pairwise_before_append 3 (pairwise_before_append 2 (pairwise_before_append 1 target
    developers ?_ developersPart) ?_ ?_ servicesPart) ?_ ?_ applicationsPart
  · grind
  · exact pairwise_section (fun _ _ _ => Service.place_of_mem_problems) Service.pairwise_problems
  · grind
  · exact pairwise_section (fun _ _ _ => Application.place_of_mem_problems)
      Application.pairwise_problems
  · grind

/-! ### Errors -/

/-- What can be left blank and what can be zero is named as documents name it. -/
def Problem.Named : Problem → Prop
  | zeroSetting _ setting => setting ∈ ["instances", "memory", "disk", "timeout"]
  | _ => True

/-- A problem that is broken in some document names one of the four settings, if it names any. -/
theorem Document.Breaks.named {document : Document} {problem : Problem}
    (broken : document.Breaks problem) : problem.Named := by
  cases broken with
  | setting given has zero =>
    have listed := List.mem_map_of_mem (f := Prod.fst) zero
    exact listed
  | _ => trivial

/-- The place and the message of a problem tell which problem it is. -/
theorem Problem.eq_of_toError {first second : Problem} (namedFirst : first.Named)
    (namedSecond : second.Named) (same : first.toError = second.toError) : first = second := by
  injection same with same
  injection same with messages fields
  injection fields with fields
  have ends := congrArg (fun text => text.toList.getLast?) fields
  rw [← String.toList_inj] at messages fields
  -- Two different rules begin their messages or their fields with different letters, but for the
  -- pairs that remain.
  cases first <;> cases second <;>
    dsimp only [field, message, badNameMessage, toString] at messages fields ends <;>
    simp only [String.toList_append] at messages fields ends <;>
    simp [String.toList_inj] at messages fields ends ⊢ <;>
    try exact fields
  case blankDeveloper.blankDeveloper => exact toDigits_ten_inj fields
  case blankOffering.blankPlan => simp [List.getLast?_cons] at ends
  case blankPlan.blankOffering => simp [List.getLast?_cons] at ends
  case badApplicationName.zeroSetting =>
    simp only [Named, List.mem_cons, List.not_mem_nil, or_false] at namedSecond
    rcases namedSecond with rfl | rfl | rfl | rfl <;> simp at messages
  case zeroSetting.badApplicationName =>
    simp only [Named, List.mem_cons, List.not_mem_nil, or_false] at namedFirst
    rcases namedFirst with rfl | rfl | rfl | rfl <;> simp at messages
  case zeroSetting.zeroSetting =>
    rw [messages] at fields
    exact ⟨String.toList_inj.mp (List.append_cancel_right fields), messages⟩

namespace Document

theorem nodup_errors (document : Document) : (document.problems.map Problem.toError).Nodup := by
  have distinct : document.problems.Nodup := by
    refine document.pairwise_problems.imp fun {first second} before => ?_
    rintro rfl
    exact first.not_before_self before
  refine distinct.map_on fun first isFirst second isSecond same => ?_
  exact Problem.eq_of_toError (mem_problems_iff_breaks.mp isFirst).named
    (mem_problems_iff_breaks.mp isSecond).named same

theorem validate_eq_error_iff {document : Document} {error : Error} :
    document.validate = .error error ↔
      document.problems.head?.map Problem.toError = some error := by
  rw [validate]
  cases document.problems <;> simp

/-- The problems of a document are exactly the rules that it breaks, in the order in which it has
them and each with an error of its own, whose field leads to what breaks the rule. A document is
accepted with its cautions if there is none, which is to say that all of its records are valid, and
otherwise refused by the first of them. -/
theorem validation_exact (document : Document) :
    (∀ problem, problem ∈ document.problems ↔ document.Breaks problem) ∧
    document.problems.Pairwise Problem.Before ∧
    (document.problems.map Problem.toError).Nodup ∧
    (∀ problem ∈ document.problems, ∃ message field place,
      problem.toError = .config (.invalid message (some field)) ∧
        document.toValue.Leads field place ∧ problem.ShownBy place) ∧
    (document.problems = [] ↔ document.Valid) ∧
    (∀ cautions, document.validate = .ok cautions ↔
      document.problems = [] ∧ cautions = document.cautions) ∧
    ∀ error, document.validate = .error error ↔
      document.problems.head?.map Problem.toError = some error := by
  refine ⟨fun _ => mem_problems_iff_breaks, document.pairwise_problems, document.nodup_errors,
    fun problem listed => ?_, problems_eq_nil_iff, fun _ => ?_, fun _ => validate_eq_error_iff⟩
  · obtain ⟨place, leads, shown⟩ := (mem_problems_iff_breaks.mp listed).leads
    exact ⟨problem.message, problem.field, place, rfl, leads, shown⟩
  · rw [problems_eq_nil_iff]
    exact validate_eq_ok_iff

/-- A blank beside the ASCII ones makes a name unusable and a text blank. -/
example :
    let services : NameMap Service := .ofList [("my\u2003db", ⟨"postgres", "\u2003", [], ∅⟩)]
    let applications : NameMap Application :=
      .ofList [("web", { manifest := { memory := some 0 } })]
    problems { spec := { developers := some ["ann", ""], services, applications } } =
      [.blankDeveloper 1, .badServiceName "my\u2003db", .blankPlan "my\u2003db",
        .zeroSetting "web" "memory"] := by
  decide +kernel

end Document

end CloudSpace
