import CloudSpace.Proofs.Cloud.Script
import Mathlib.Data.List.Forall2

/-!
# Any number of things at the same time

Of things that do not need each other, a client may ask for all at once. Their scripts take turns
in every order there is, and the client goes on when all of them have come to an end. In whichever
order that was, each value is the one at the place of its script, and the exchanges are mixed of
what the scripts go through one by one.
-/
namespace CloudSpace.Cloud

variable {σ α ι : Type}

/-- Any number of lists are mixed, each in its order. -/
inductive Interleaves : List (List ι) → List ι → Prop
  | nil : Interleaves [] []
  | cons {part rest mixed : List ι} {parts : List (List ι)} (others : Interleaves parts rest)
      (mixes : Mixes part rest mixed) : Interleaves (part :: parts) mixed

namespace Interleaves

theorem of_empty (parts : List (List ι)) (empty : ∀ part ∈ parts, part = []) :
    Interleaves parts [] := by
  induction parts with
  | nil => exact .nil
  | cons part rest ih =>
    obtain ⟨rfl, others⟩ := List.forall_mem_cons.mp empty
    exact .cons (ih others) .nil

/-- What comes before all the rest may come first in any of the lists. -/
theorem append {earlier later : List (List ι)} {part mixed : List ι}
    (interleaves : Interleaves (earlier ++ part :: later) mixed) (more : List ι) :
    Interleaves (earlier ++ (more ++ part) :: later) (more ++ mixed) := by
  induction earlier generalizing mixed with
  | nil =>
    cases interleaves with
    | cons others mixes => exact .cons others (mixes.append_left more)
  | cons first rest ih =>
    cases interleaves with
    | cons others mixes => exact .cons (ih others) (mixes.append_right more)

end Interleaves

theorem forall₂_append_left_iff {β : Type} {fits : α → β → Prop} {first second : List α}
    {values : List β} : List.Forall₂ fits (first ++ second) values ↔
      ∃ early late, List.Forall₂ fits first early ∧ List.Forall₂ fits second late ∧
        values = early ++ late := by
  induction first generalizing values with
  | nil => simp
  | cons item rest ih =>
    simp only [List.cons_append, List.forall₂_cons_left_iff, ih]
    grind

namespace Script

/-- Some scripts take turns, in any order, until all of them have a value. -/
inductive Gathers (transport : Transport (StateM σ)) :
    List (Script α) → σ → List α → σ → Prop
  | all {values : List α} {state : σ} : Gathers transport (values.map .done) state values state
  | turn {earlier later : List (Script α)} {script next : Script α} {before middle after : σ}
      {values : List α} (steps : script.step? transport before = some (next, middle))
      (rest : Gathers transport (earlier ++ next :: later) middle values after) :
      Gathers transport (earlier ++ script :: later) before values after

namespace Gathers

variable {transport : Transport (StateM σ)} {scripts : List (Script α)} {before middle after : σ}
  {values : List α}

/-- A script may be followed to its end before any other has a turn. -/
theorem follow {earlier later : List (Script α)} {script : Script α} {value : α}
    (follows : (script.follow transport).run before = (value, middle))
    (rest : Gathers transport (earlier ++ .done value :: later) middle values after) :
    Gathers transport (earlier ++ script :: later) before values after := by
  -- By induction on the script: what it does next is a turn, and the others stay where they are.
  induction script generalizing before with
  | done found =>
    cases follows
    exact rest
  | send request next ih => exact .turn rfl (ih _ follows)
  | wait milliseconds next ih => exact .turn rfl (ih follows)

theorem nil (state : σ) : Gathers transport ([] : List (Script α)) state [] state := by
  have all : Gathers transport (([] : List α).map .done) state [] state := .all
  exact all

/-- A script that has come to its end does not hold up the others. -/
theorem cons_done (gathers : Gathers transport scripts before values after) (value : α) :
    Gathers transport (.done value :: scripts) before (value :: values) after := by
  induction gathers with
  | @all values state =>
    have all : Gathers transport ((value :: values).map .done) state (value :: values) state := .all
    exact all
  | @turn earlier later script next before middle after values steps _ ih =>
    have turn : Gathers transport ((.done value :: earlier) ++ script :: later) before
        (value :: values) after := .turn steps ih
    exact turn

/-- The first script may be followed to its end before all the others. -/
theorem cons {script : Script α} {value : α}
    (follows : (script.follow transport).run before = (value, middle))
    (others : Gathers transport scripts middle values after) :
    Gathers transport (script :: scripts) before (value :: values) after := by
  have rest : Gathers transport ([] ++ .done value :: scripts) middle (value :: values) after :=
    others.cons_done value
  exact follow follows rest

/-- Each script goes through its own exchanges to its own value, at its own place. -/
theorem interleaves {server : Server σ} {scripts : List (Script α)} {before after : Recording σ}
    (gathers : Gathers server.recorder scripts before values after) :
    ∃ mixed runs, after.exchanges = before.exchanges ++ mixed ∧
      Interleaves (runs.map Prod.fst) mixed ∧ values = runs.map Prod.snd ∧
      List.Forall₂ (fun script run => script.Goes run.1 (.done run.2)) scripts runs := by
  -- A turn adds its exchange in front of what its own script goes through later.
  induction gathers with
  | @all values state =>
    refine ⟨[], values.map ([], ·), (List.append_nil _).symm, .of_empty _ ?_, ?_, ?_⟩
    · simp
    · rw [List.map_map]
      exact (List.map_id values).symm
    · rw [List.forall₂_map_left_iff, List.forall₂_map_right_iff, List.forall₂_same]
      exact fun value _ => .nil _
  | @turn earlier later script next before middle after values steps _ ih =>
    obtain ⟨more, addedMore, goes⟩ := goes_of_step? steps
    obtain ⟨mixed, runs, added, interleaves, rfl, each⟩ := ih
    obtain ⟨first, last, ofEarlier, ofNext, rfl⟩ := forall₂_append_left_iff.mp each
    obtain ⟨⟨part, value⟩, rest, goesNext, ofLater, rfl⟩ := List.forall₂_cons_left_iff.mp ofNext
    refine ⟨more ++ mixed, first ++ (more ++ part, value) :: rest, ?_, ?_, ?_, ?_⟩
    · rw [added, addedMore, List.append_assoc]
    · rw [List.map_append, List.map_cons] at interleaves ⊢
      exact interleaves.append more
    · simp only [List.map_append, List.map_cons]
    · exact forall₂_append_left_iff.mpr
        ⟨first, _, ofEarlier, .cons (goes _ _ goesNext) ofLater, rfl⟩

end Gathers

end Script

end CloudSpace.Cloud
