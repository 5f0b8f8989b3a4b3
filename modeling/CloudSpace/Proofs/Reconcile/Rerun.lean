import CloudSpace.Proofs.Reconcile.Preparation
import Mathlib.Data.List.Forall2

/-!
# Running again

A second run does what the first one failed to do, in the same order, and nothing else: what
succeeded is gone from the difference between what is live and what is desired, what failed is
still there in full, and what no call can change is skipped or warned of again. In particular a
run whose calls all succeeded leaves nothing to call for.
-/
namespace CloudSpace

/-- The report of a second run has the operations that failed in the first, and the same skipped
entities. -/
structure RunReport.Remains (first second : RunReport) : Prop where
  kind : second.kind = first.kind
  operations : second.outcomes.map Outcome.operation =
    (first.outcomes.filter (!·.isSuccess)).map Outcome.operation
  skipped : second.skipped = first.skipped

/-- Whether every call of a report succeeded. -/
def RunReport.allSucceeded (report : RunReport) : Bool := report.outcomes.all (·.isSuccess)

namespace Memory

/-! ### One kind -/

section

variable {memory later : Memory} {spec : Spec} {kind : EntityKind}
  {preparation next : Preparation}

/-- What is prepared once the calls of a preparation were made are the calls that were not
accepted. -/
theorem calls_of_prepared_again
    (prepared : memory.prepared spec kind = .ok (some preparation))
    (section? : later.space.restrict kind =
      (memory.made preparation.batch.calls).space.restrict kind)
    (preparedNext : later.prepared spec kind = .ok (some next)) :
    next.batch.calls = preparation.batch.calls.filter (fun call => !memory.accepts call) ∧
      next.batch.skipped = preparation.batch.skipped := by
  obtain ⟨_, calls, skipped⟩ := calls_of_prepared prepared
  obtain ⟨_, callsNext, skippedNext⟩ := calls_of_prepared preparedNext
  obtain ⟨remaining, same⟩ := Plan.calls_advance memory.accepts memory.space spec.toSpace kind
  rw [made_space_of_prepared prepared] at section?
  obtain ⟨congrCalls, congrSkips⟩ := Plan.calls_congr section?
  rw [callsNext, skippedNext, congrCalls, congrSkips, remaining, same, calls, skipped]
  exact ⟨rfl, rfl⟩

/-- The failed outcomes of a run are those of the calls that were not accepted. -/
theorem failed_outcomes (prepared : memory.prepared spec kind = .ok (some preparation)) :
    (memory.outcomes preparation.batch.calls).filter (!·.isSuccess) =
      (preparation.batch.calls.filter fun call => !memory.accepts call).map memory.outcome := by
  rw [outcomes_of_prepared prepared, List.filter_map]
  congr 1
  exact List.filter_congr fun call _ => by simp

theorem remains_ran (prepared : memory.prepared spec kind = .ok (some preparation))
    (section? : later.space.restrict kind =
      (memory.made preparation.batch.calls).space.restrict kind)
    (preparedNext : later.prepared spec kind = .ok (some next)) :
    (memory.report preparation).Remains (later.report next) := by
  obtain ⟨calls, skipped⟩ := calls_of_prepared_again prepared section? preparedNext
  refine ⟨?_, ?_, skipped⟩
  · exact (calls_of_prepared preparedNext).1.trans (calls_of_prepared prepared).1.symm
  · simp only [report, Preparation.ran, failed_outcomes prepared, operations_outcomes, calls,
      List.map_map]
    rfl

/-- Nothing is left to call for where every call succeeded. -/
theorem calls_nil_of_allSucceeded
    (prepared : memory.prepared spec kind = .ok (some preparation))
    (section? : later.space.restrict kind =
      (memory.made preparation.batch.calls).space.restrict kind)
    (preparedNext : later.prepared spec kind = .ok (some next))
    (succeeded : (memory.report preparation).allSucceeded = true) :
    next.batch.calls = [] := by
  have none : (memory.outcomes preparation.batch.calls).filter (!·.isSuccess) = [] := by
    apply List.filter_eq_nil_iff.mpr
    intro outcome member
    simpa using List.all_eq_true.mp succeeded outcome member
  rw [failed_outcomes prepared, List.map_eq_nil_iff] at none
  rw [(calls_of_prepared_again prepared section? preparedNext).1, none]

end

/-! ### Several kinds -/

section

variable {memory later : Memory} {spec : Spec} {kind : EntityKind} {rest : List EntityKind}
  {reports again : List RunReport}

/-- The sections of some kinds are as a run over these kinds has left them. -/
def Continues (memory later : Memory) (spec : Spec) (kinds : List EntityKind) : Prop :=
  ∀ kind ∈ kinds, later.space.restrict kind =
    (memory.appliedEach spec kinds).2.space.restrict kind

/-- The later kinds of a run have left the section of the first as it was when they began. -/
theorem Continues.head (continues : memory.Continues later spec (kind :: rest))
    (fresh : kind ∉ rest) (ran : (memory.appliedEach spec (kind :: rest)).1 = .ok reports) :
    later.space.restrict kind = (memory.applied spec kind).2.space.restrict kind := by
  obtain ⟨_, _, _, _, _, ended⟩ := appliedEach_cons_eq_ok ran
  rw [continues kind List.mem_cons_self, ended, restrict_appliedEach _ _ fresh]

theorem Continues.tail {after : Memory} (continues : memory.Continues later spec (kind :: rest))
    (ran : (memory.appliedEach spec (kind :: rest)).1 = .ok reports)
    (frame : ∀ other ∈ rest, after.space.restrict other = later.space.restrict other) :
    (memory.applied spec kind).2.Continues after spec rest := by
  obtain ⟨_, _, _, _, _, ended⟩ := appliedEach_cons_eq_ok ran
  intro other member
  rw [frame other member, continues other (List.mem_cons_of_mem _ member), ended]

/-- The reports of a second run have what failed in the first. -/
theorem remains_appliedEach {kinds : List EntityKind} (distinct : kinds.Nodup)
    (continues : memory.Continues later spec kinds)
    (ran : (memory.appliedEach spec kinds).1 = .ok reports)
    (ranAgain : (later.appliedEach spec kinds).1 = .ok again) :
    List.Forall₂ RunReport.Remains reports again := by
  -- Both runs go through the kinds side by side; at each kind the second starts from a platform
  -- whose section is the one that the first has left.
  induction kinds generalizing memory later reports again with
  | nil =>
    cases ran
    cases ranAgain
    exact .nil
  | cons kind rest ih =>
    obtain ⟨fresh, distinctRest⟩ := List.nodup_cons.mp distinct
    have section? := continues.head fresh ran
    have continuesRest := continues.tail ran fun other member =>
      restrict_applied later spec (by rintro rfl; exact fresh member)
    obtain ⟨found, others, prepared, ranRest, rfl, _⟩ := appliedEach_cons_eq_ok ran
    obtain ⟨next, othersAgain, preparedNext, ranRestAgain, rfl, _⟩ :=
      appliedEach_cons_eq_ok ranAgain
    refine List.rel_append ?_ (ih distinctRest continuesRest ranRest ranRestAgain)
    -- Both runs have the same spec, so a section absent in one is absent in the other.
    have absent := (eq_none_of_prepared prepared).trans (eq_none_of_prepared preparedNext).symm
    rw [applied_of_prepared prepared] at section?
    cases found with
    | none =>
      rw [absent.mp rfl]
      exact .nil
    | some preparation =>
      cases next with
      | none => cases absent.mpr rfl
      | some next => exact .cons (remains_ran prepared section? preparedNext) .nil

/-- After a run whose calls all succeeded, a kind has no call to make, whether its fetch fails
or it is prepared. -/
theorem applied_again (continues : memory.Continues later spec (kind :: rest))
    (fresh : kind ∉ rest) (ran : (memory.appliedEach spec (kind :: rest)).1 = .ok reports)
    (succeeded : ∀ report ∈ reports, report.allSucceeded = true) :
    (later.applied spec kind).2 = later := by
  have section? := continues.head fresh ran
  obtain ⟨found, others, prepared, _, rfl, _⟩ := appliedEach_cons_eq_ok ran
  -- If the second run fails at its first kind it has made no call at all.
  cases preparedNext : later.prepared spec kind with
  | error error => simp [applied, preparedNext]
  | ok next =>
    have absent := (eq_none_of_prepared prepared).trans (eq_none_of_prepared preparedNext).symm
    rw [applied_of_prepared preparedNext]
    rw [applied_of_prepared prepared] at section?
    cases next with
    | none => rfl
    | some next =>
      cases found with
      | none => cases absent.mp rfl
      | some preparation =>
        -- All calls have succeeded, so that none is planned again.
        have nothing := calls_nil_of_allSucceeded prepared section? preparedNext
          (succeeded _ List.mem_cons_self)
        simp [nothing]

/-- After a run whose calls all succeeded, a second run changes nothing. -/
theorem idle_appliedEach {kinds : List EntityKind} (distinct : kinds.Nodup)
    (continues : memory.Continues later spec kinds)
    (ran : (memory.appliedEach spec kinds).1 = .ok reports)
    (succeeded : ∀ report ∈ reports, report.allSucceeded = true) :
    (later.appliedEach spec kinds).2 = later := by
  induction kinds generalizing memory reports with
  | nil => rfl
  | cons kind rest ih =>
    obtain ⟨fresh, distinctRest⟩ := List.nodup_cons.mp distinct
    have idle := applied_again continues fresh ran succeeded
    have continuesRest := continues.tail ran fun _ _ => rfl
    obtain ⟨_, others, _, ranRest, rfl, _⟩ := appliedEach_cons_eq_ok ran
    have idleRest := ih distinctRest continuesRest ranRest fun report member =>
      succeeded report (List.mem_append_right _ member)
    rw [appliedEach]
    cases applied : later.applied spec kind with
    | mk result after =>
      rw [applied] at idle
      subst idle
      -- A second run that fails here leaves the platform, and one that goes on has nothing to do.
      cases result with
      | error error => rfl
      | ok report => exact idleRest

end

end Memory

/-- A second run, whatever fails in it, has the operations of the calls that failed in the first,
in the same order, and skips the same entities. If every call of the first run succeeded, the
second run makes no call and leaves the platform as it is. -/
theorem applyAll_again (memory : Memory) (spec : Spec) (failures : List (String × String)) :
    let first := Memory.run (Memory.platform.applyAll spec) memory
    let between : Memory := { first.2 with failures }
    let second := Memory.run (Memory.platform.applyAll spec) between
    (∀ reports again, first.1 = .ok reports → second.1 = .ok again →
      List.Forall₂ RunReport.Remains reports again) ∧
    (∀ reports, first.1 = .ok reports → (∀ report ∈ reports, report.allSucceeded = true) →
      second.2 = between) := by
  intro first between second
  have isFirst : first = memory.appliedEach spec EntityKind.applyOrder :=
    Memory.run_applyAll memory spec
  have isSecond : second = between.appliedEach spec EntityKind.applyOrder :=
    Memory.run_applyAll between spec
  have distinct : EntityKind.applyOrder.Nodup := by decide
  -- Every section starts as the first run has left it, whatever failures are set in between.
  have continues : memory.Continues between spec EntityKind.applyOrder :=
    fun kind _ => by rw [← isFirst]
  rw [isFirst, isSecond]
  exact ⟨fun _ _ => Memory.remains_appliedEach distinct continues,
    fun _ => Memory.idle_appliedEach distinct continues⟩

/-- A grant that failed is left for the second run, while the revocation that was made is not,
and after a run without a failure there is nothing to do. -/
theorem applyAll_again_after_grant :
    let spec : Spec := { developers := some ["ann"] }
    let space : Space := { developers := ["bob"] }
    let run := Memory.run (Memory.platform.applyAll spec)
    let failing := run { space, failures := [("grant_space_developer", "ann")] }
    let passing := run { space }
    (∃ reports again, failing.1 = .ok reports ∧
      (run { failing.2 with failures := [] }).1 = .ok again ∧
      List.Forall₂ RunReport.Remains reports again ∧
      again.flatMap (·.outcomes) = [⟨⟨.developers, "", .grantDeveloper "ann"⟩, none⟩]) ∧
    (run { passing.2 with failures := [] }).2 = { passing.2 with failures := [] } := by
  intro spec space run failing passing
  -- Both runs are computed to see that they report at all.
  have exists_ok (result : Except Error (List RunReport)) (isOk : result.isOk = true) :
      ∃ reports, result = .ok reports := by
    cases result with
    | error _ => cases isOk
    | ok reports => exact ⟨reports, rfl⟩
  obtain ⟨reports, ran⟩ := exists_ok failing.1 (by decide +kernel)
  obtain ⟨again, ranAgain⟩ := exists_ok (run { failing.2 with failures := [] }).1
    (by decide +kernel)
  obtain ⟨good, ranGood⟩ := exists_ok passing.1 (by decide +kernel)
  have succeeded : (passing.1.toOption.getD []).all RunReport.allSucceeded = true := by
    decide +kernel
  rw [ranGood] at succeeded
  have granted : ((run { failing.2 with failures := [] }).1.toOption.getD []).flatMap
      (·.outcomes) = [⟨⟨.developers, "", .grantDeveloper "ann"⟩, none⟩] := by
    decide +kernel
  rw [ranAgain] at granted
  constructor
  · exact ⟨reports, again, ran, ranAgain,
      (applyAll_again { space, failures := [("grant_space_developer", "ann")] } spec []).1
        reports again ran ranAgain, granted⟩
  · exact (applyAll_again { space } spec []).2 good ranGood (List.all_eq_true.mp succeeded)

end CloudSpace
