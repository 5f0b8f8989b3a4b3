import CloudSpace.Proofs.Yaml.Quoted
import Mathlib.Data.List.Basic

/-!
# Literal blocks are told apart

What is written of a text as a block determines the text and where the block ends: at the first
line that is indented by less. The marks of the block tell whether its last line is ended by the
text itself.
-/
namespace CloudSpace.Yaml

/-! ### Literal blocks -/

/-- What stands after a block: nothing, or a line that is indented by less. -/
def Below (indent : Nat) (text : List Char) : Prop :=
  text = [] ∨ ∃ count c rest, count < indent ∧ c ≠ ' ' ∧ isBreak c = false ∧
    text = List.replicate count ' ' ++ c :: rest

theorem Below.ne_break {indent : Nat} {text rest : List Char} {c : Char}
    (below : Below indent text) (breaks : isBreak c = true) : text ≠ c :: rest := by
  obtain rfl | ⟨count, c, more, -, -, noBreak, rfl⟩ := below
  · exact (List.cons_ne_nil _ _).symm
  · exact replicate_append_ne_break noBreak breaks

/-- What is below the block is not indented as far as the block. -/
theorem Below.ne_indented {indent : Nat} {text rest : List Char} (below : Below indent text)
    (deep : 0 < indent) : text ≠ List.replicate indent ' ' ++ rest := by
  obtain rfl | ⟨count, c, more, less, noBlank, -, rfl⟩ := below
  · cases indent with
    | zero => omega
    | succ indent => exact (List.cons_ne_nil _ _).symm
  · intro same
    obtain ⟨others, rfl⟩ : ∃ others, indent = count + (others + 1) := ⟨indent - count - 1, by omega⟩
    rw [List.replicate_add, List.append_assoc] at same
    exact noBlank (List.cons.inj (List.append_cancel_left same)).1

theorem toList_literalFrom_break {indent : Nat} {broken : Bool} {c : Char} {rest : List Char}
    (breaks : isBreak c = true) :
    (literalFrom indent broken (c :: rest)).toList =
      c :: (literalFrom indent true rest).toList := by
  rw [literalFrom, if_pos breaks, String.toList_append, toList_toString]
  rfl

theorem toList_literalFrom_cons {indent : Nat} {broken : Bool} {c : Char} {rest : List Char}
    (noBreak : isBreak c = false) :
    (literalFrom indent broken (c :: rest)).toList =
      List.replicate (if broken then indent else 0) ' ' ++
        c :: (literalFrom indent false rest).toList := by
  rw [literalFrom, if_neg (by rw [noBreak]; exact Bool.false_ne_true),
    String.toList_append, String.toList_append, toList_toString, List.append_assoc]
  cases broken
  · rfl
  · simp [toList_blanks]

/-- A block that is over does not go on with a line of its own. -/
theorem Below.ne_literalFrom {indent : Nat} {text rest x : List Char} {c : Char}
    (below : Below indent text) (deep : 0 < indent) :
    text ≠ (literalFrom indent true (c :: rest)).toList ++ x := by
  cases breaks : isBreak c with
  | true =>
    rw [toList_literalFrom_break breaks]
    exact below.ne_break breaks
  | false =>
    rw [toList_literalFrom_cons breaks, List.append_assoc]
    exact below.ne_indented deep

/-- Whether the last line is ended, where a line is ended before the first character or not. -/
def endsLine (broken : Bool) (content : List Char) : Bool :=
  content.getLast?.elim broken isBreak

theorem endsLine_cons (broken : Bool) (c : Char) (rest : List Char) :
    endsLine broken (c :: rest) = endsLine (isBreak c) rest := by
  rw [endsLine, endsLine, List.getLast?_cons]
  cases rest.getLast? <;> rfl

/-- The lines of a block end where a line is indented by less, as long as the last one is ended. -/
theorem literalFrom_append_inj {indent : Nat} (deep : 0 < indent) {broken : Bool}
    {first second x y : List Char} (ended : endsLine broken first = true)
    (closed : endsLine broken second = true) (before : Below indent x) (after : Below indent y)
    (same : (literalFrom indent broken first).toList ++ x =
      (literalFrom indent broken second).toList ++ y) :
    first = second ∧ x = y := by
  induction first generalizing broken second with
  | nil =>
    cases second with
    | nil => exact ⟨rfl, same⟩
    | cons d others =>
      subst ended
      exact absurd same (before.ne_literalFrom deep)
  | cons c rest ih =>
    cases second with
    | nil =>
      subst closed
      exact absurd same.symm (after.ne_literalFrom deep)
    | cons d others =>
      rw [endsLine_cons] at ended closed
      -- Only a break stands without the indentation of its line, so both are breaks or neither is.
      cases breaks : isBreak c <;> cases too : isBreak d <;> rw [breaks] at ended <;>
        rw [too] at closed
      · rw [toList_literalFrom_cons breaks, toList_literalFrom_cons too, List.append_assoc,
          List.append_assoc] at same
        obtain ⟨rfl, onward⟩ := List.cons.inj (List.append_cancel_left same)
        obtain ⟨rfl, rest⟩ := ih ended closed onward
        exact ⟨rfl, rest⟩
      · rw [toList_literalFrom_cons breaks, toList_literalFrom_break too, List.append_assoc] at same
        exact absurd same (replicate_append_ne_break breaks too)
      · rw [toList_literalFrom_break breaks, toList_literalFrom_cons too, List.append_assoc] at same
        exact absurd same.symm (replicate_append_ne_break too breaks)
      · rw [toList_literalFrom_break breaks, toList_literalFrom_break too] at same
        obtain ⟨rfl, onward⟩ := List.cons.inj same
        obtain ⟨rfl, rest⟩ := ih ended closed onward
        exact ⟨rfl, rest⟩

/-- The lines of a block with the last one ended. -/
def endedLines (content : List Char) : List Char :=
  if endsLine true content then content else content ++ ['\n']

theorem endsLine_endedLines (content : List Char) : endsLine true (endedLines content) = true := by
  rw [endedLines]
  split
  · assumption
  · rw [endsLine, List.getLast?_concat]
    rfl

theorem getLast?_literalFrom (indent : Nat) (broken : Bool) (content : List Char) :
    (literalFrom indent broken content).toList.getLast? = content.getLast? := by
  induction content generalizing broken with
  | nil => rfl
  | cons c rest ih =>
    cases breaks : isBreak c with
    | true => rw [toList_literalFrom_break breaks, List.getLast?_cons, List.getLast?_cons, ih]
    | false =>
      rw [toList_literalFrom_cons breaks, List.getLast?_append, List.getLast?_cons, ih,
        List.getLast?_cons, Option.some_or]

theorem toList_literalFrom_concat (indent : Nat) (broken : Bool) (content : List Char) :
    (literalFrom indent broken (content ++ ['\n'])).toList =
      (literalFrom indent broken content).toList ++ ['\n'] := by
  induction content generalizing broken with
  | nil => rw [List.nil_append, toList_literalFrom_break rfl]; rfl
  | cons c rest ih =>
    cases breaks : isBreak c with
    | true =>
      rw [List.cons_append, toList_literalFrom_break breaks, toList_literalFrom_break breaks, ih]
      rfl
    | false =>
      rw [List.cons_append, toList_literalFrom_cons breaks, toList_literalFrom_cons breaks, ih,
        List.append_assoc]
      rfl

theorem toList_freshLine (written : String) :
    (freshLine written).toList =
      written.toList ++ if written.toList.getLast?.all isBreak then [] else ['\n'] := by
  rw [freshLine]
  split
  · rw [List.append_nil]
  · rw [String.toList_append]
    rfl

/-- What begins a new line after it ends one. -/
theorem getLast?_freshLine (written : String) :
    (freshLine written).toList.getLast?.all isBreak = true := by
  rw [toList_freshLine]
  split
  · rwa [List.append_nil]
  · rw [List.getLast?_concat]
    rfl

theorem toList_freshLine_literal (indent : Nat) (content : List Char) :
    (freshLine (literal indent content)).toList = '|' :: ((literalMarks content).toList ++
      '\n' :: (literalFrom indent true (endedLines content)).toList) := by
  have whole : (literal indent content).toList = '|' :: ((literalMarks content).toList ++
      '\n' :: (literalFrom indent true content).toList) := by
    simp [literal]
  -- Whether a line is left open is seen from the last character of the content.
  have last : (literal indent content).toList.getLast?.all isBreak = endsLine true content := by
    rw [whole, ← List.cons_append, List.getLast?_append, List.getLast?_cons, getLast?_literalFrom,
      Option.some_or, endsLine]
    cases content.getLast? <;> rfl
  rw [toList_freshLine, last, whole, endedLines]
  split
  · rw [List.append_nil]
  · rw [toList_literalFrom_concat, List.cons_append, List.append_assoc]
    rfl

theorem literalMarks_mem {content : List Char} (inhabited : content ≠ []) :
    literalMarks content ∈
      if endsLine true content then ["", "+", "2", "2+"] else ["-", "2-"] := by
  obtain ⟨before, last, rfl⟩ := (List.eq_nil_or_concat' content).resolve_left inhabited
  have ended : endsLine true (before ++ [last]) = isBreak last := by
    rw [endsLine, List.getLast?_concat]
    rfl
  rw [literalMarks, ended, List.reverse_append, List.reverse_singleton, List.singleton_append]
  dsimp only
  generalize Option.any _ (before ++ [last]).head? = starts, Option.all isBreak _ = doubled
  cases isBreak last <;> cases starts <;> cases doubled <;> decide

/-- The marks of a block tell whether its last line is ended. -/
theorem literalMarks_tell {content : List Char} (inhabited : content ≠ []) :
    '\n' ∉ (literalMarks content).toList ∧
      ('-' ∈ (literalMarks content).toList ↔ endsLine true content = false) := by
  have marks := literalMarks_mem inhabited
  cases ended : endsLine true content with
  | true =>
    have each : ∀ marks ∈ ["", "+", "2", "2+"], '\n' ∉ marks.toList ∧
        ('-' ∈ marks.toList ↔ true = false) := by decide
    exact each _ (by simpa only [ended, if_true] using marks)
  | false =>
    have each : ∀ marks ∈ ["-", "2-"], '\n' ∉ marks.toList ∧
        ('-' ∈ marks.toList ↔ false = false) := by decide
    exact each _ (by simpa only [ended, Bool.false_eq_true, if_false] using marks)

theorem append_separator_inj {separator : Char} {first second x y : List Char}
    (absent : separator ∉ first) (missing : separator ∉ second)
    (same : first ++ separator :: x = second ++ separator :: y) : first = second ∧ x = y := by
  -- By induction on the first text: as long as there is no separator both have the same character.
  induction first generalizing second with
  | nil =>
    cases second with
    | nil => exact ⟨rfl, (List.cons.inj same).2⟩
    | cons d others => exact absurd ((List.cons.inj same).1 ▸ List.mem_cons_self) missing
  | cons c rest ih =>
    cases second with
    | nil => exact absurd ((List.cons.inj same).1 ▸ List.mem_cons_self) absent
    | cons d others =>
      obtain ⟨rfl, onward⟩ := List.cons.inj same
      obtain ⟨rfl, rest⟩ := ih (List.not_mem_of_not_mem_cons absent)
        (List.not_mem_of_not_mem_cons missing) onward
      exact ⟨rfl, rest⟩

/-- A block is known from what is written, marks and lines. -/
theorem literal_append_inj {indent : Nat} (deep : 0 < indent) {first second x y : List Char}
    (inhabited : first ≠ []) (nonempty : second ≠ [])
    (before : Below indent x) (after : Below indent y)
    (same : (freshLine (literal indent first)).toList ++ x =
      (freshLine (literal indent second)).toList ++ y) :
    first = second ∧ x = y := by
  obtain ⟨unbroken, ends⟩ := literalMarks_tell inhabited
  obtain ⟨whole, closes⟩ := literalMarks_tell nonempty
  simp only [toList_freshLine_literal, List.cons_append, List.append_assoc] at same
  obtain ⟨marks, lines⟩ := append_separator_inj unbroken whole (List.cons.inj same).2
  obtain ⟨content, rest⟩ := literalFrom_append_inj deep (endsLine_endedLines first)
    (endsLine_endedLines second) before after lines
  refine ⟨?_, rest⟩
  have alike : endsLine true first = false ↔ endsLine true second = false := by
    rw [← ends, ← closes, marks]
  -- The break that ends an unended last line is in both texts or in neither.
  rw [endedLines, endedLines] at content
  cases ended : endsLine true second with
  | true =>
    have too : endsLine true first = true := by simpa [ended] using alike
    rwa [too, ended, if_pos rfl, if_pos rfl] at content
  | false =>
    rw [alike.mpr ended, ended, if_neg Bool.false_ne_true, if_neg Bool.false_ne_true] at content
    exact List.append_cancel_right content

end CloudSpace.Yaml
