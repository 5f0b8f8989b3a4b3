import CloudSpace.Fingerprint
import CloudSpace.Proofs.Delta

/-!
# Fingerprints and order

What is hashed of a space are its parts, one after the other: each name with the digest of its
record, and each developer. Spaces that differ only in the order of tags, and in the order and the
repetition of developers, have the same parts and so the same fingerprint: sorting leaves one list
for all orders of the same tags, and one list for all developers that are the same as a set.
-/
namespace CloudSpace

open Text (utf8)

/-! ### Parts -/

/-- The parts of a space: each name with what is hashed of its record, and each developer. -/
def Space.parts (space : Space) : List (String × Option (List UInt8)) :=
  space.applications.entries.map (fun entry => (entry.1, some (utf8 entry.2.toYaml))) ++
  space.services.entries.map (fun entry => (entry.1, some entry.2.fingerprintBytes)) ++
  (distinctSorted space.developers).map (·, none)

/-- The bytes of a part. -/
def partBytes : String × Option (List UInt8) → List UInt8
  | (name, some record) => utf8 name ++ utf8 (Sha256.fingerprint record)
  | (name, none) => endedText name

theorem Space.fingerprintBytes_eq (space : Space) :
    space.fingerprintBytes = space.parts.flatMap partBytes := by
  simp only [fingerprintBytes, parts, List.flatMap_append, List.flatMap_map, partBytes]
  rfl

/-! ### Reordering -/

/-- Two services that differ in the order of their tags at most. -/
structure Service.Reordered (first second : Service) : Prop where
  offering : first.offering = second.offering
  plan : first.plan = second.plan
  tags : first.tags.Perm second.tags
  params : first.params = second.params

/-- Two spaces that differ in the order of tags and in the order and the repetition of developers
at most. -/
structure Space.Reordered (first second : Space) : Prop where
  applications : first.applications = second.applications
  services : ∀ name, Option.Rel Service.Reordered (first.services.get? name)
    (second.services.get? name)
  developers : SameMembers first.developers second.developers

theorem mergeSort_eq_of_perm {first second : List String} (perm : first.Perm second) :
    first.mergeSort (fun a b => a ≤ b) = second.mergeSort (fun a b => a ≤ b) := by
  have sorted (texts : List String) :
      (texts.mergeSort (fun a b => a ≤ b)).Pairwise (fun a b => decide (a ≤ b) = true) := by
    refine List.pairwise_mergeSort (fun a b c => ?_) (fun a b => ?_) texts
    · simpa only [decide_eq_true_eq] using String.le_trans
    · simpa only [Bool.or_eq_true, decide_eq_true_eq] using String.le_total a b
  refine List.Perm.eq_of_pairwise (fun a b _ _ below above => ?_) (sorted first) (sorted second)
    ((List.mergeSort_perm first _).trans (perm.trans (List.mergeSort_perm second _).symm))
  exact String.le_antisymm (of_decide_eq_true below) (of_decide_eq_true above)

theorem distinctSorted_eq_of_sameMembers {first second : List String}
    (same : SameMembers first second) : distinctSorted first = distinctSorted second :=
  ascending_ext (ascending_distinctSorted _) (ascending_distinctSorted _)
    fun name => by simpa only [mem_distinctSorted] using same name

theorem Service.Reordered.fingerprintBytes_eq {first second : Service}
    (reordered : first.Reordered second) : first.fingerprintBytes = second.fingerprintBytes := by
  rw [fingerprintBytes, fingerprintBytes, reordered.offering, reordered.plan, reordered.params,
    mergeSort_eq_of_perm reordered.tags]

/-- A reordered space is made of the same parts. -/
theorem Space.Reordered.parts_eq {first second : Space} (reordered : first.Reordered second) :
    first.parts = second.parts := by
  have services : first.services.map Service.fingerprintBytes =
      second.services.map Service.fingerprintBytes := by
    -- By name, since maps with the same content under each name are equal.
    refine NameMap.ext_get? fun name => ?_
    have related := reordered.services name
    rw [NameMap.get?_map, NameMap.get?_map]
    generalize first.services.get? name = held, second.services.get? name = wanted at related
    cases related with
    | none => rfl
    | some same => exact congrArg some same.fingerprintBytes_eq
  have entries : first.services.entries.map (fun entry => (entry.1, entry.2.fingerprintBytes)) =
      second.services.entries.map (fun entry => (entry.1, entry.2.fingerprintBytes)) :=
    congrArg NameMap.entries services
  have held := congrArg (List.map fun entry => (entry.1, some entry.2)) entries
  rw [List.map_map, List.map_map] at held
  rw [parts, parts, reordered.applications, distinctSorted_eq_of_sameMembers reordered.developers]
  exact congrArg (fun held => _ ++ held ++ _) held

/-- The order of tags and the order and repetition of developers do not show in a fingerprint. -/
theorem Space.fingerprint_eq_of_reordered {first second : Space}
    (reordered : first.Reordered second) : first.fingerprint = second.fingerprint := by
  rw [fingerprint, fingerprint, fingerprintBytes_eq, fingerprintBytes_eq, reordered.parts_eq]

/-- Tags that are there twice stay there twice, while a developer counts once. -/
theorem Space.fingerprint_eq_of_reordered_tags :
    let first : Space := {
      services := .ofList [("db", ⟨"postgres", "small", ["b", "a", "b"], ∅⟩)]
      developers := ["bob", "ann", "bob"] }
    let second : Space := {
      services := .ofList [("db", ⟨"postgres", "small", ["b", "b", "a"], ∅⟩)]
      developers := ["ann", "bob"] }
    first.Reordered second ∧ first.fingerprint = second.fingerprint := by
  intro first second
  have reordered : first.Reordered second := by
    refine ⟨rfl, fun name => ?_, fun name => ?_⟩
    -- The service has its tags in another order, and there is no other service.
    · have tags : ["b", "a", "b"].Perm ["b", "b", "a"] := .cons _ (.swap _ _ _)
      by_cases here : "db" = name
      · subst here
        exact .some ⟨rfl, rfl, tags, rfl⟩
      · simp [first, second, NameMap.get?_ofList, here]
    · simpa [first, second] using Or.inr
  exact ⟨reordered, fingerprint_eq_of_reordered reordered⟩

end CloudSpace
