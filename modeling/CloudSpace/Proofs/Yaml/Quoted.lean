import CloudSpace.Yaml.Printer
import CloudSpace.Yaml.ScalarText
import Mathlib.Algebra.Group.Nat.Defs

/-!
# Quoted texts are told apart

What is written of a text between quotes determines the text and where it ends. An escape between
double quotes is read back by the tables of the reader; between single quotes a quote stands twice,
and the blanks that begin a line stand for nothing.
-/
namespace CloudSpace

/-! ### Digits -/

/-- Digits in a base are read back as their number. -/
theorem foldlM_toDigits {base : Nat} {read? : Char → Option Nat} {shown : Char → Char}
    (many : 1 < base) (reads : ∀ digit < base, read? (shown digit.digitChar) = some digit)
    (n : Nat) :
    ((Nat.toDigits base n).map shown).foldlM (fun n c => (read? c).map (n * base + ·)) 0 =
      some n := by
  induction n using Nat.strongRecOn with
  | ind n ih =>
    rw [Nat.toDigits_eq_if many]
    split
    · simp [reads n ‹_›]
    · have smaller : n / base < n := Nat.div_lt_self (by omega) many
      have last := reads (n % base) (Nat.mod_lt n (by omega))
      have whole : n / base * base + n % base = n := Nat.div_add_mod' n base
      rw [List.map_append, List.foldlM_append, ih _ smaller]
      simp [last, whole]

namespace Yaml

theorem hexValue?_toUpper {digit : Nat} (isDigit : digit < 16) :
    Text.hexValue? digit.digitChar.toUpper = some digit := by
  have each : ∀ digit < 16, Text.hexValue? digit.digitChar.toUpper = some digit := by decide
  exact each digit isDigit

theorem toList_upperHex (width n : Nat) :
    (upperHex width n).toList =
      List.replicate (width - (Nat.toDigits 16 n).length) '0' ++
        (Nat.toDigits 16 n).map Char.toUpper := by
  rw [upperHex, String.toList_ofList, List.length_map]

theorem length_upperHex {width n : Nat} (wide : 0 < width) (fits : n < 16 ^ width) :
    (upperHex width n).toList.length = width := by
  have short := (Nat.length_toDigits_le_iff (by decide : 1 < 16) wide).mpr fits
  rw [toList_upperHex, List.length_append, List.length_replicate, List.length_map]
  omega

/-- Leading zeros do not count. -/
theorem foldlM_upperHex (width n : Nat) :
    (upperHex width n).toList.foldlM (fun n c => (Text.hexValue? c).map (n * 16 + ·)) 0 =
      some n := by
  have zeros (count : Nat) : (List.replicate count '0').foldlM
      (fun n c => (Text.hexValue? c).map (n * 16 + ·)) 0 = some 0 := by
    induction count with
    | zero => rfl
    | succ count ih =>
      rw [List.replicate_succ, List.foldlM_cons]
      exact ih
  rw [toList_upperHex, List.foldlM_append, zeros]
  exact foldlM_toDigits (by decide) (fun _ => hexValue?_toUpper) n

/-! ### Escapes -/

theorem toList_toString (c : Char) : c.toString.toList = [c] := by simp

theorem valid_toNat (c : Char) : c.toNat < 0xD800 ∨ 0xDFFF < c.toNat ∧ c.toNat ≤ 0x10FFFF := by
  have valid := c.valid
  simp only [UInt32.isValidChar, Nat.isValidChar] at valid
  show c.val.toNat < _ ∨ _ < c.val.toNat ∧ c.val.toNat ≤ _
  omega

theorem numericEscape?_upperHex {c : Char} {width : Nat} (wide : 0 < width)
    (fits : c.toNat < 16 ^ width) :
    numericEscape? width (upperHex width c.toNat).toList = some c := by
  have length := length_upperHex wide fits
  have valid : (c.toNat < 0xD800 || (0xDFFF < c.toNat && c.toNat ≤ 0x10FFFF)) = true := by
    simpa only [Bool.or_eq_true, Bool.and_eq_true, decide_eq_true_eq] using valid_toNat c
  rw [numericEscape?, List.take_of_length_le (Nat.le_of_eq length), length,
    if_neg (Nat.lt_irrefl _), foldlM_upperHex]
  simp only [bind, Option.bind_some]
  rw [if_pos valid, Char.ofNat_toNat]

/-- The ways in which a character stands between double quotes: as itself, after a letter's
escape, or by its number. The tables of the reader lead back to it. -/
inductive Escapes (c : Char) : List Char → Prop
  | itself (unquoted : c ≠ '"') (unescaped : c ≠ '\\') : Escapes c [c]
  | letter {letter : Char} (reads : letterEscape? letter = some c) : Escapes c ['\\', letter]
  | number {letter : Char} {width : Nat} {digits : List Char} (named : letterEscape? letter = none)
      (marks : escapeWidth? letter = some width) (length : digits.length = width)
      (reads : numericEscape? width digits = some c) : Escapes c ('\\' :: letter :: digits)

/-- What is written for a character is one of its escapes, or the character itself. -/
theorem escapes_escape (c : Char) : Escapes c (escape c).toList := by
  have of_letter {n : Nat} {written other : String} (letter : Char)
      (spelled : written.toList = ['\\', letter])
      (reads : letterEscape? letter = some (Char.ofNat n)) (otherwise : Escapes c other.toList) :
      Escapes c (if c.toNat = n then written else other).toList := by
    split
    · rw [spelled]
      exact .letter (by rw [reads, ← ‹c.toNat = n›, Char.ofNat_toNat])
    · exact otherwise
  have of_number {width : Nat} {mark : String} (letter : Char)
      (spelled : mark.toList = ['\\', letter]) (named : letterEscape? letter = none)
      (marks : escapeWidth? letter = some width) (wide : 0 < width)
      (fits : c.toNat < 16 ^ width) :
      Escapes c (mark ++ upperHex width c.toNat).toList := by
    rw [String.toList_append, spelled]
    exact .number named marks (length_upperHex wide fits) (numericEscape?_upperHex wide fits)
  rw [escape]
  by_cases quote : c = '"'
  · rw [if_pos quote, quote]
    exact @Escapes.letter '"' '"' rfl
  rw [if_neg quote]
  by_cases backslash : c = '\\'
  · rw [if_pos backslash, backslash]
    exact @Escapes.letter '\\' '\\' rfl
  rw [if_neg backslash]
  by_cases printable : (isPrintable c && !isBreak c) = true
  · rw [if_pos printable, toList_toString]
    exact .itself quote backslash
  rw [if_neg printable]
  -- From here on the escapes are tried one after the other, as the printer does.
  refine of_letter '0' rfl rfl ?_
  refine of_letter 'a' rfl rfl ?_
  refine of_letter 'b' rfl rfl ?_
  refine of_letter 't' rfl rfl ?_
  refine of_letter 'n' rfl rfl ?_
  refine of_letter 'v' rfl rfl ?_
  refine of_letter 'f' rfl rfl ?_
  refine of_letter 'r' rfl rfl ?_
  refine of_letter 'e' rfl rfl ?_
  refine of_letter 'N' rfl rfl ?_
  refine of_letter 'L' rfl rfl ?_
  refine of_letter 'P' rfl rfl ?_
  split
  · exact of_number 'x' rfl rfl rfl (by decide) (by omega)
  split
  · exact of_number 'u' rfl rfl rfl (by decide) (by omega)
  · have valid := valid_toNat c
    exact of_number 'U' rfl rfl rfl (by decide) (by omega)

/-- A character is read back from its escape, whatever follows. -/
theorem Escapes.append_inj {c d : Char} {written shown x y : List Char} (first : Escapes c written)
    (second : Escapes d shown) (same : written ++ x = shown ++ y) : c = d ∧ x = y := by
  cases first with
  -- Only the quote and the backslash are never written as themselves.
  | itself unquoted unescaped =>
    cases second with
    | itself => simpa using same
    | letter => exact absurd (List.cons.inj same).1 unescaped
    | number => exact absurd (List.cons.inj same).1 unescaped
  | @letter mark reads =>
    -- A letter that has a meaning of its own is no mark of a number.
    cases second with
    | itself _ unescaped => exact absurd (List.cons.inj same).1.symm unescaped
    | letter other =>
      obtain ⟨rfl, rfl⟩ := List.cons.inj (List.cons.inj same).2
      exact ⟨Option.some.inj (reads.symm.trans other), rfl⟩
    | number named =>
      obtain ⟨rfl, -⟩ := List.cons.inj (List.cons.inj same).2
      cases reads.symm.trans named
  | @number mark width digits named marks length reads =>
    cases second with
    | itself _ unescaped => exact absurd (List.cons.inj same).1.symm unescaped
    | letter other =>
      obtain ⟨rfl, -⟩ := List.cons.inj (List.cons.inj same).2
      cases named.symm.trans other
    | number _ others as many =>
      obtain ⟨rfl, rest⟩ := List.cons.inj (List.cons.inj same).2
      cases marks.symm.trans others
      obtain ⟨rfl, rfl⟩ := List.append_inj rest (length.trans as.symm)
      exact ⟨Option.some.inj (reads.symm.trans many), rfl⟩

theorem Escapes.head_ne_quote {c : Char} {written x y : List Char} (escapes : Escapes c written) :
    written ++ x ≠ '"' :: y := by
  intro same
  cases escapes with
  | itself unquoted => exact unquoted (List.cons.inj same).1
  | letter => cases (List.cons.inj same).1
  | number => cases (List.cons.inj same).1

/-! ### Double quotes -/

/-- What is written character by character comes after what was there. -/
theorem toList_foldl_append (escape : Char → String) (content : List Char) (written : String) :
    (content.foldl (fun written c => written ++ escape c) written).toList =
      written.toList ++ content.flatMap (fun c => (escape c).toList) := by
  induction content generalizing written with
  | nil => simp
  | cons c rest ih =>
    rw [List.foldl_cons, ih, String.toList_append, List.flatMap_cons, List.append_assoc]

/-- Escaped characters are told apart, and the first quote among them is the end. -/
theorem escaped_append_inj {escape : Char → List Char} (escapes : ∀ c, Escapes c (escape c))
    {first second x y : List Char}
    (same : first.flatMap escape ++ '"' :: x = second.flatMap escape ++ '"' :: y) :
    first = second ∧ x = y := by
  -- By induction on the first text; neither can end where the other has an escape.
  induction first generalizing second with
  | nil =>
    cases second with
    | nil => exact ⟨rfl, (List.cons.inj same).2⟩
    | cons d rest =>
      rw [List.flatMap_cons, List.append_assoc] at same
      exact absurd same.symm (escapes d).head_ne_quote
  | cons c rest ih =>
    cases second with
    | nil =>
      rw [List.flatMap_cons, List.append_assoc] at same
      exact absurd same (escapes c).head_ne_quote
    | cons d others =>
      rw [List.flatMap_cons, List.flatMap_cons, List.append_assoc, List.append_assoc] at same
      obtain ⟨rfl, onward⟩ := (escapes c).append_inj (escapes d) same
      obtain ⟨rfl, rest⟩ := ih onward
      exact ⟨rfl, rest⟩

theorem toList_doubleQuoted (content : List Char) :
    (doubleQuoted content).toList =
      '"' :: content.flatMap (fun c => (escape c).toList) ++ ['"'] := by
  rw [doubleQuoted, String.toList_append, toList_foldl_append]
  rfl

theorem doubleQuoted_append_inj {first second x y : List Char}
    (same : (doubleQuoted first).toList ++ x = (doubleQuoted second).toList ++ y) :
    first = second ∧ x = y := by
  rw [toList_doubleQuoted, toList_doubleQuoted] at same
  exact escaped_append_inj escapes_escape (by simpa using same)

/-! ### Single quotes -/

theorem toList_blanks (indent : Nat) : (blanks indent).toList = List.replicate indent ' ' := by
  rw [blanks, String.toList_ofList]

/-- A line that is indented, and one that is not, starts with no break. -/
theorem replicate_append_ne_break {count : Nat} {c d : Char} {x y : List Char}
    (noBreak : isBreak c = false) (isBreak : isBreak d = true) :
    List.replicate count ' ' ++ c :: x ≠ d :: y := by
  intro same
  cases count with
  | zero =>
    cases (List.cons.inj same).1
    cases noBreak.symm.trans isBreak
  | succ count =>
    cases (List.cons.inj same).1
    cases isBreak

/-- A quote stands twice between single quotes, any other character as itself. -/
def singly (c : Char) : List Char := if c = '\'' then ['\'', '\''] else [c]

theorem toList_singleQuotedFrom_nil (indent : Nat) (broken : Bool) :
    (singleQuotedFrom indent broken []).toList =
      List.replicate (if broken then indent else 0) ' ' := by
  cases broken <;> simp [singleQuotedFrom, toList_blanks]

/-- A break is written as itself, and a new line begins. -/
theorem toList_singleQuotedFrom_break {indent : Nat} {broken : Bool} {c : Char} {rest : List Char}
    (isBreak : isBreak c = true) :
    (singleQuotedFrom indent broken (c :: rest)).toList =
      c :: (singleQuotedFrom indent true rest).toList := by
  rw [singleQuotedFrom, if_pos isBreak, String.toList_append, toList_toString]
  rfl

theorem toList_singleQuotedFrom_cons {indent : Nat} {broken : Bool} {c : Char} {rest : List Char}
    (noBreak : isBreak c = false) :
    (singleQuotedFrom indent broken (c :: rest)).toList =
      List.replicate (if broken then indent else 0) ' ' ++
        (singly c ++ (singleQuotedFrom indent false rest).toList) := by
  have shown : (if c = '\'' then "''" else c.toString).toList = singly c := by
    rw [apply_ite String.toList, toList_toString]
    rfl
  rw [singleQuotedFrom, if_neg (by rw [noBreak]; exact Bool.false_ne_true),
    String.toList_append, String.toList_append, shown, List.append_assoc]
  cases broken
  · rfl
  · simp [toList_blanks]

theorem exists_singly (c : Char) : ∃ rest, singly c = c :: rest := by
  by_cases quote : c = '\''
  · exact ⟨['\''], by rw [singly, if_pos quote, quote]⟩
  · exact ⟨[], by rw [singly, if_neg quote]⟩

theorem singly_append_inj {c d : Char} {x y : List Char}
    (same : singly c ++ x = singly d ++ y) : c = d ∧ x = y := by
  obtain ⟨more, shown⟩ := exists_singly c
  obtain ⟨others, too⟩ := exists_singly d
  have head : c = d := by
    rw [shown, too] at same
    exact (List.cons.inj same).1
  subst head
  exact ⟨rfl, List.append_cancel_left same⟩

theorem quote_ne_singly {c : Char} {x y : List Char} (ended : x.head? ≠ some '\'') :
    '\'' :: x ≠ singly c ++ y := by
  intro same
  rw [singly] at same
  split at same
  · rw [(List.cons.inj same).2] at ended
    exact ended rfl
  · exact absurd (List.cons.inj same).1.symm ‹_›

/-- The content of single quotes is read character by character. -/
theorem singleQuotedFrom_append_inj {indent : Nat} {broken : Bool} {first second x y : List Char}
    (ended : x.head? ≠ some '\'') (closed : y.head? ≠ some '\'')
    (same : (singleQuotedFrom indent broken first).toList ++ '\'' :: x =
      (singleQuotedFrom indent broken second).toList ++ '\'' :: y) :
    first = second ∧ x = y := by
  -- A break moves on without the indentation of the next line, so `broken` is not fixed.
  induction first generalizing broken second with
  | nil =>
    rw [toList_singleQuotedFrom_nil] at same
    cases second with
    | nil =>
      rw [toList_singleQuotedFrom_nil] at same
      exact ⟨rfl, (List.cons.inj (List.append_cancel_left same)).2⟩
    | cons d others =>
      -- The second text goes on with a break or with what is written for a character, never a
      -- quote.
      cases breaks : isBreak d with
      | true =>
        rw [toList_singleQuotedFrom_break breaks] at same
        exact absurd same (replicate_append_ne_break rfl breaks)
      | false =>
        rw [toList_singleQuotedFrom_cons breaks, List.append_assoc, List.append_assoc] at same
        exact absurd (List.append_cancel_left same) (quote_ne_singly ended)
  | cons c rest ih =>
    cases breaks : isBreak c with
    | true =>
      rw [toList_singleQuotedFrom_break breaks] at same
      cases second with
      | nil =>
        rw [toList_singleQuotedFrom_nil] at same
        exact absurd same.symm (replicate_append_ne_break rfl breaks)
      | cons d others =>
        cases too : isBreak d with
        | true =>
          rw [toList_singleQuotedFrom_break too] at same
          obtain ⟨rfl, onward⟩ := List.cons.inj same
          obtain ⟨rfl, rest⟩ := ih onward
          exact ⟨rfl, rest⟩
        | false =>
          obtain ⟨more, shown⟩ := exists_singly d
          rw [toList_singleQuotedFrom_cons too, List.append_assoc, shown] at same
          exact absurd same.symm (replicate_append_ne_break too breaks)
    | false =>
      rw [toList_singleQuotedFrom_cons breaks, List.append_assoc, List.append_assoc] at same
      cases second with
      | nil =>
        rw [toList_singleQuotedFrom_nil] at same
        exact absurd (List.append_cancel_left same).symm (quote_ne_singly closed)
      | cons d others =>
        -- Indentation and character are written together, so that they are compared together.
        cases too : isBreak d with
        | true =>
          obtain ⟨more, shown⟩ := exists_singly c
          rw [toList_singleQuotedFrom_break too, shown] at same
          exact absurd same (replicate_append_ne_break breaks too)
        | false =>
          rw [toList_singleQuotedFrom_cons too, List.append_assoc, List.append_assoc] at same
          obtain ⟨rfl, onward⟩ := singly_append_inj (List.append_cancel_left same)
          obtain ⟨rfl, rest⟩ := ih onward
          exact ⟨rfl, rest⟩

/-- On one line the indentation does not matter. -/
theorem singleQuotedFrom_of_noBreak {content : List Char}
    (oneLine : ∀ c ∈ content, isBreak c = false) (indent other : Nat) :
    singleQuotedFrom indent false content = singleQuotedFrom other false content := by
  induction content with
  | nil => rfl
  | cons c rest ih =>
    obtain ⟨noBreak, others⟩ := List.forall_mem_cons.mp oneLine
    rw [singleQuotedFrom, singleQuotedFrom, noBreak, ih others]
    rfl

/-- A text in single quotes is read back, unless another quote follows. -/
theorem singleQuoted_append_inj {indent : Nat} {first second x y : List Char}
    (ended : x.head? ≠ some '\'') (closed : y.head? ≠ some '\'')
    (same : (singleQuoted indent first).toList ++ x = (singleQuoted indent second).toList ++ y) :
    first = second ∧ x = y := by
  have between (content z : List Char) : (singleQuoted indent content).toList ++ z =
      '\'' :: ((singleQuotedFrom indent false content).toList ++ '\'' :: z) := by
    simp [singleQuoted]
  rw [between, between] at same
  exact singleQuotedFrom_append_inj ended closed (List.cons.inj same).2

end Yaml

end CloudSpace
