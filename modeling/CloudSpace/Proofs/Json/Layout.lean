import CloudSpace.Json.Printer
import CloudSpace.Proofs.Text
import CloudSpace.Proofs.Yaml.Quoted

/-!
# Both layouts tell values apart

No two values without floats are written as the same text, with blanks or without. A value tells by
its first character what sort of value it is, a text by its closing quote where it ends, and a
number by the first character that is no digit. What is inside a list or a record is written part
by part, so that the rest is an induction over the value.
-/
namespace CloudSpace.Json

/-! ### Texts -/

/-- What stands for a character is what stands for it between double quotes elsewhere. -/
theorem escapes_escape (c : Char) : Yaml.Escapes c (escape c).toList := by
  -- A character with a letter of its own is written as that letter, after the backslash.
  have of_letter {d : Char} {written other : String} (letter : Char)
      (spelled : written.toList = ['\\', letter]) (reads : Yaml.letterEscape? letter = some d)
      (otherwise : c ≠ d → Yaml.Escapes c other.toList) :
      Yaml.Escapes c (if c = d then written else other).toList := by
    split
    next same =>
      rw [spelled, same]
      exact .letter reads
    next distinct => exact otherwise distinct
  -- Those without a literal of their own are told by their number.
  have of_number {n : Nat} {written other : String} (letter : Char)
      (spelled : written.toList = ['\\', letter])
      (reads : Yaml.letterEscape? letter = some (Char.ofNat n))
      (otherwise : Yaml.Escapes c other.toList) :
      Yaml.Escapes c (if c.toNat = n then written else other).toList := by
    split
    next same =>
      rw [spelled, ← Char.ofNat_toNat c, same]
      exact .letter reads
    next => exact otherwise
  have digits : ∀ n < 0x20, (fourHexDigits n).toList.length = 4 ∧
      Yaml.numericEscape? 4 (fourHexDigits n).toList = some (Char.ofNat n) := by decide +kernel
  -- The escapes are tried one after the other, as the printer does.
  refine of_letter '"' rfl rfl fun unquoted => ?_
  refine of_letter '\\' rfl rfl fun unescaped => ?_
  refine of_letter 'n' rfl rfl fun _ => ?_
  refine of_letter 'r' rfl rfl fun _ => ?_
  refine of_letter 't' rfl rfl fun _ => ?_
  refine of_number 'b' rfl rfl ?_
  refine of_number 'f' rfl rfl ?_
  -- All other control characters are written with four digits.
  split
  next control =>
    obtain ⟨length, reads⟩ := digits c.toNat control
    rw [Char.ofNat_toNat] at reads
    rw [String.toList_append]
    exact .number rfl rfl length reads
  next =>
    rw [Yaml.toList_toString]
    exact .itself unquoted unescaped

theorem toList_quote (content : String) : (quote content).toList =
    '"' :: (content.toList.flatMap (fun c => (escape c).toList) ++ ['"']) := by
  rw [quote, String.foldl_eq_foldl_toList, String.toList_append, Yaml.toList_foldl_append]
  rfl

theorem quote_append_inj {first second : String} {x y : List Char}
    (same : (quote first).toList ++ x = (quote second).toList ++ y) : first = second ∧ x = y := by
  rw [toList_quote, toList_quote] at same
  obtain ⟨content, rest⟩ := Yaml.escaped_append_inj escapes_escape
    (by simpa using (List.cons.inj same).2)
  exact ⟨String.toList_inj.mp content, rest⟩

/-! ### Numbers -/

/-- What may follow a number. -/
def NoDigit (text : List Char) : Prop := ∀ c rest, text = c :: rest → c.isDigit = false

theorem digits_append_inj {first second : Nat} {x y : List Char} (before : NoDigit x)
    (after : NoDigit y) (same : Nat.toDigits 10 first ++ x = Nat.toDigits 10 second ++ y) :
    first = second ∧ x = y := by
  -- The digits of a number are the longest beginning that has digits only.
  have digits (n : Nat) {z : List Char} (ends : NoDigit z) :
      (Nat.toDigits 10 n ++ z).takeWhile Char.isDigit = Nat.toDigits 10 n := by
    have nothing : z.takeWhile Char.isDigit = [] := by
      cases z with
      | nil => rfl
      | cons c rest => rw [List.takeWhile_cons, ends c rest rfl]; rfl
    rw [List.takeWhile_append_of_pos fun c member => Nat.isDigit_of_mem_toDigits (by decide)
      (by decide) member, nothing, List.append_nil]
  have number : Nat.toDigits 10 first = Nat.toDigits 10 second := by
    rw [← digits first before, same, digits second after]
  rw [number] at same
  exact ⟨toDigits_ten_inj number, List.append_cancel_left same⟩

theorem toList_toString_natCast (n : Nat) : (toString (n : Int)).toList = Nat.toDigits 10 n :=
  Nat.toList_repr

theorem toList_toString_negSucc (n : Nat) :
    (toString (Int.negSucc n)).toList = '-' :: Nat.toDigits 10 (n + 1) := by
  show ("-" ++ Nat.repr (n + 1)).toList = _
  rw [String.toList_append, Nat.toList_repr]
  rfl

/-- Integers are read off what they are printed as, as long as no digit follows. -/
theorem int_append_inj {first second : Int} {x y : List Char} (before : NoDigit x)
    (after : NoDigit y) (same : (toString first).toList ++ x = (toString second).toList ++ y) :
    first = second ∧ x = y := by
  -- A sign is no digit.
  have unsigned {m n : Nat} {x y : List Char} :
      (toString (m : Int)).toList ++ x ≠ (toString (Int.negSucc n)).toList ++ y := by
    rw [toList_toString_natCast, toList_toString_negSucc]
    intro same
    cases digits : Nat.toDigits 10 m with
    | nil => exact Nat.toDigits_ne_nil digits
    | cons c rest =>
      have isDigit : c.isDigit = true :=
        Nat.isDigit_of_mem_toDigits (by decide) (by decide) (digits ▸ List.mem_cons_self)
      rw [digits] at same
      rw [(List.cons.inj same).1] at isDigit
      cases isDigit
  cases first with
  | ofNat m =>
    cases second with
    | ofNat n =>
      rw [Int.ofNat_eq_natCast, Int.ofNat_eq_natCast, toList_toString_natCast,
        toList_toString_natCast] at same
      obtain ⟨rfl, rest⟩ := digits_append_inj before after same
      exact ⟨rfl, rest⟩
    | negSucc n => exact absurd same unsigned
  | negSucc m =>
    cases second with
    | ofNat n => exact absurd same.symm unsigned
    | negSucc n =>
      rw [toList_toString_negSucc, toList_toString_negSucc] at same
      obtain ⟨number, rest⟩ := digits_append_inj before after (List.cons.inj same).2
      cases Nat.succ.inj number
      exact ⟨rfl, rest⟩

/-! ### Parts -/

/-- Parts, each after a line break or what stands for one, with commas in between. -/
def parts (line : List Char) : List (List Char) → List Char
  | [] => []
  | [part] => line ++ part
  | part :: rest => line ++ part ++ ',' :: parts line rest

/-- What stands inside the brackets of a list or of a record. -/
def inside (line last : List Char) (texts : List (List Char)) : List Char :=
  if texts = [] then [] else parts line texts ++ last

/-- What may follow a part that is the last one. -/
structure Closes (text : List Char) : Prop where
  noDigit : NoDigit text
  noComma : ∀ rest, text ≠ ',' :: rest

theorem noDigit_cons {c : Char} {rest : List Char} (noDigit : c.isDigit = false) :
    NoDigit (c :: rest) := by
  rintro _ _ ⟨⟩
  exact noDigit

section

variable {α : Type} {write : α → List Char} {line last x y : List Char}

/-- Parts that are told apart are told apart one after the other. -/
theorem parts_append_inj {firsts seconds : List α} (filled : firsts ≠ []) (too : seconds ≠ [])
    (apart : ∀ first ∈ firsts, ∀ second ∈ seconds, ∀ x y, NoDigit x → NoDigit y →
      write first ++ x = write second ++ y → first = second ∧ x = y)
    (before : Closes x) (after : Closes y)
    (same : parts line (firsts.map write) ++ x = parts line (seconds.map write) ++ y) :
    firsts = seconds ∧ x = y := by
  -- Between two parts stands a comma, and neither a part nor what follows the last one begins with
  -- it.
  have comma (rest : List Char) : NoDigit (',' :: rest) := noDigit_cons rfl
  have single (part : α) (z : List Char) :
      parts line ([part].map write) ++ z = line ++ (write part ++ z) := List.append_assoc ..
  have onward (part next : α) (rest : List α) (z : List Char) :
      parts line ((part :: next :: rest).map write) ++ z =
        line ++ (write part ++ ',' :: (parts line ((next :: rest).map write) ++ z)) := by
    simp only [List.map_cons, parts, List.append_assoc, List.cons_append]
  -- By induction on the parts of both: as long as both go on the comma is taken off both.
  induction firsts generalizing seconds with
  | nil => exact absurd rfl filled
  | cons first rest ih =>
    cases seconds with
    | nil => exact absurd rfl too
    | cons second others =>
      have here := apart first List.mem_cons_self second List.mem_cons_self
      cases rest with
      | nil =>
        cases others with
        | nil =>
          rw [single, single] at same
          obtain ⟨rfl, tails⟩ := here _ _ before.noDigit after.noDigit
            (List.append_cancel_left same)
          exact ⟨rfl, tails⟩
        | cons next more =>
          rw [single, onward] at same
          obtain ⟨_, tails⟩ := here _ _ before.noDigit (comma _) (List.append_cancel_left same)
          exact absurd tails (before.noComma _)
      | cons next more =>
        cases others with
        | nil =>
          rw [onward, single] at same
          obtain ⟨_, tails⟩ := here _ _ (comma _) after.noDigit (List.append_cancel_left same)
          exact absurd tails.symm (after.noComma _)
        | cons other further =>
          rw [onward, onward] at same
          obtain ⟨rfl, tails⟩ := here _ _ (comma _) (comma _) (List.append_cancel_left same)
          obtain ⟨alike, ends⟩ := ih (List.cons_ne_nil _ _) (List.cons_ne_nil _ _)
            (fun one isOne two isTwo => apart one (List.mem_cons_of_mem _ isOne) two
              (List.mem_cons_of_mem _ isTwo)) (List.cons.inj tails).2
          exact ⟨by rw [alike], ends⟩

/-- A break is no bracket. -/
def IsLine (text : List Char) : Prop := text = [] ∨ ∃ rest, text = '\n' :: rest

theorem IsLine.closes (isLine : IsLine last) {close : Char} {rest : List Char}
    (noDigit : close.isDigit = false) (noComma : close ≠ ',') :
    Closes (last ++ close :: rest) := by
  obtain rfl | ⟨blanks, rfl⟩ := isLine
  · refine ⟨noDigit_cons noDigit, ?_⟩
    rintro _ ⟨⟩
    exact noComma rfl
  · refine ⟨noDigit_cons rfl, ?_⟩
    rintro _ ⟨⟩

/-- The parts between brackets are known from the text, wherever the bracket closes. -/
theorem inside_append_inj {firsts seconds : List α} {close : Char} (isLine : IsLine line)
    (isLast : IsLine last) (noDigit : close.isDigit = false) (noComma : close ≠ ',')
    (noBreak : close ≠ '\n')
    (starts : ∀ part ∈ firsts ++ seconds, ∀ y z, write part ++ y ≠ close :: z)
    (apart : ∀ first ∈ firsts, ∀ second ∈ seconds, ∀ x y, NoDigit x → NoDigit y →
      write first ++ x = write second ++ y → first = second ∧ x = y)
    (same : inside line last (firsts.map write) ++ close :: x =
      inside line last (seconds.map write) ++ close :: y) : firsts = seconds ∧ x = y := by
  have filled (part : α) (rest : List α) (z : List Char) :
      inside line last ((part :: rest).map write) ++ z =
        parts line ((part :: rest).map write) ++ (last ++ z) := by
    rw [inside, if_neg (by simp), List.append_assoc]
  -- Neither a break nor a part begins as the bracket at the end does.
  have opens (part : α) (rest : List α) (member : part ∈ firsts ++ seconds) (z w : List Char) :
      inside line last ((part :: rest).map write) ++ z ≠ close :: w := by
    obtain ⟨more, begins⟩ : ∃ more, parts line ((part :: rest).map write) =
        line ++ (write part ++ more) := by
      cases rest with
      | nil => exact ⟨[], by simp [parts]⟩
      | cons next rest => exact ⟨_, List.append_assoc ..⟩
    rw [filled, begins, List.append_assoc, List.append_assoc]
    obtain rfl | ⟨blanks, rfl⟩ := isLine
    · exact starts part member _ _
    · rintro ⟨⟩
      exact noBreak rfl
  have closes (z : List Char) : Closes (last ++ close :: z) := isLast.closes noDigit noComma
  cases firsts with
  | nil =>
    -- Nothing between the brackets and something between them do not begin alike.
    cases seconds with
    | nil => exact ⟨rfl, (List.cons.inj same).2⟩
    | cons second others => exact absurd same.symm (opens second others (by simp) _ _)
  | cons first rest =>
    cases seconds with
    | nil => exact absurd same (opens first rest (by simp) _ _)
    | cons second others =>
      rw [filled, filled] at same
      obtain ⟨alike, tails⟩ := parts_append_inj (List.cons_ne_nil _ _) (List.cons_ne_nil _ _)
        apart (closes x) (closes y) same
      exact ⟨alike, (List.cons.inj (List.append_cancel_left tails)).2⟩

end

/-! ### Layouts -/

/-- A way to lay values out, inside so many lists and records: with something at the start of each
line, which may be nothing, and something after each colon. -/
structure Layout where
  write : Nat → Value → String
  line : Nat → List Char
  gap : List Char
  isLine : ∀ level, IsLine (line level)
  write_scalar : ∀ level value, value.items? = none → value.fields? = none →
    write level value = scalar value
  write_list : ∀ level items, (write level (.list items)).toList =
    '[' :: (inside (line (level + 1)) (line level)
      (items.map fun item => (write (level + 1) item).toList) ++ [']'])
  write_record : ∀ level fields, (write level (.record fields)).toList =
    '\x7b' :: (inside (line (level + 1)) (line level) (fields.map fun field =>
      (quote field.1).toList ++ ':' :: (gap ++ (write (level + 1) field.2).toList)) ++ ['\x7d'])

/-- What is written of parts one after the other, with commas in between. -/
theorem toList_joined {α : Type} {joined : List α → String} {one : α → String} {line : String}
    (single : ∀ part, joined [part] = line ++ one part)
    (more : ∀ part next rest,
      joined (part :: next :: rest) = line ++ one part ++ "," ++ joined (next :: rest))
    {items : List α} (filled : items ≠ []) :
    (joined items).toList = parts line.toList (items.map fun part => (one part).toList) := by
  induction items with
  | nil => exact absurd rfl filled
  | cons part rest ih =>
    cases rest with
    | nil => rw [single, String.toList_append]; rfl
    | cons next rest =>
      rw [more, String.toList_append, String.toList_append, String.toList_append,
        ih (List.cons_ne_nil _ _), List.append_assoc]
      rfl

/-- The same between an opening and a closing bracket. -/
theorem toList_bracketed {α : Type} (joined : List α → String) (one : α → String)
    (line last opening closing : String) {items : List α} {written : String}
    (empty : items = [] → written = opening ++ closing)
    (filled : items ≠ [] → written = opening ++ joined items ++ last ++ closing)
    (single : ∀ part, joined [part] = line ++ one part)
    (more : ∀ part next rest,
      joined (part :: next :: rest) = line ++ one part ++ "," ++ joined (next :: rest)) :
    written.toList = opening.toList ++
      (inside line.toList last.toList (items.map fun part => (one part).toList) ++
        closing.toList) := by
  cases items with
  | nil =>
    rw [empty rfl, String.toList_append]
    rfl
  | cons part rest =>
    rw [filled (List.cons_ne_nil _ _), inside, if_neg (by simp), String.toList_append,
      String.toList_append, String.toList_append,
      toList_joined single more (List.cons_ne_nil _ _)]
    simp only [List.append_assoc]

/-- One field, with a text after its colon. -/
def fieldText (colon : String) (print : Value → String) (field : String × Value) : String :=
  quote field.1 ++ colon ++ print field.2

theorem toList_fieldText {colon : String} {gap : List Char} (spelled : colon.toList = ':' :: gap)
    (print : Value → String) (field : String × Value) :
    (fieldText colon print field).toList =
      (quote field.1).toList ++ ':' :: (gap ++ (print field.2).toList) := by
  rw [fieldText, String.toList_append, String.toList_append, spelled, List.append_assoc]
  rfl

def compactLayout : Layout where
  write _ := compact
  line _ := []
  gap := []
  isLine _ := .inl rfl
  write_scalar _ value noList noRecord := by
    cases value with
    | list => cases noList
    | record => cases noRecord
    | _ => rfl
  write_list _ items := by
    refine toList_bracketed compactItems compact "" "" "[" "]" ?_ ?_ ?_ ?_
    · rintro rfl
      rfl
    · intro _
      rw [compact, String.append_empty]
    · intro part
      rw [compactItems, String.empty_append]
    · intro part next rest
      simp [compactItems]
  write_record _ fields := by
    simp only [← toList_fieldText (show ":".toList = ':' :: [] from rfl)]
    refine toList_bracketed compactFields (fieldText ":" compact) "" "" "\x7b" "\x7d" ?_ ?_ ?_ ?_
    · rintro rfl
      rfl
    · intro _
      rw [compact, String.append_empty]
    · intro part
      rw [compactFields, String.empty_append, fieldText]
    · intro part next rest
      simp [compactFields, fieldText]

def prettyLayout : Layout where
  write := prettyAt
  line level := (newLine level).toList
  gap := [' ']
  isLine level := .inr ⟨_, String.toList_append⟩
  write_scalar _ value noList noRecord := by
    cases value with
    | list => cases noList
    | record => cases noRecord
    | _ => rfl
  write_list level items := by
    refine toList_bracketed (prettyItems (level + 1)) (prettyAt (level + 1)) (newLine (level + 1))
      (newLine level) "[" "]" ?_ ?_ ?_ ?_
    · rintro rfl
      rfl
    · intro filled
      cases items with
      | nil => exact absurd rfl filled
      | cons => rfl
    · intro part
      rfl
    · intro part next rest
      rfl
  write_record level fields := by
    simp only [← toList_fieldText (show ": ".toList = ':' :: [' '] from rfl)]
    refine toList_bracketed (prettyFields (level + 1)) (fieldText ": " (prettyAt (level + 1)))
      (newLine (level + 1)) (newLine level) "\x7b" "\x7d" ?_ ?_ ?_ ?_
    · rintro rfl
      rfl
    · intro filled
      cases fields with
      | nil => exact absurd rfl filled
      | cons => rfl
    · intro part
      simp [prettyFields, fieldText, String.append_assoc]
    · intro part next rest
      simp [prettyFields, fieldText, String.append_assoc]

/-! ### Values -/

/-- The values without floats. -/
inductive Exact : Value → Prop
  | null : Exact .null
  | bool (flag : Bool) : Exact (.bool flag)
  | int (number : Int) : Exact (.int number)
  | text (content : String) : Exact (.text content)
  | list {items : List Value} (each : ∀ item ∈ items, Exact item) : Exact (.list items)
  | record {fields : List (String × Value)} (each : ∀ field ∈ fields, Exact field.2) :
      Exact (.record fields)

/-- What the first character of a value tells of it. -/
inductive Start
  | null | bool (flag : Bool) | number | text | list | record

def Start.of : Value → Start
  | .null => null
  | .bool flag => bool flag
  | .int _ | .float _ => number
  | .text _ => text
  | .list _ => list
  | .record _ => record

def Start.ofChar (c : Char) : Option Start :=
  if c.isDigit = true ∨ c = '-' then some number
  else if c = 'n' then some null
  else if c = 't' then some (bool true)
  else if c = 'f' then some (bool false)
  else if c = '"' then some text
  else if c = '[' then some list
  else if c = '\x7b' then some record
  else none

namespace Layout

variable (layout : Layout) {first second value : Value} {level : Nat} {x y : List Char}

/-- What a value begins with tells its kind. -/
theorem starts (exact : Exact value) (level : Nat) : ∃ c rest,
    (layout.write level value).toList = c :: rest ∧
      Start.ofChar c = some (Start.of value) := by
  have scalar (noList : value.items? = none) (noRecord : value.fields? = none) :=
    congrArg String.toList (layout.write_scalar level value noList noRecord)
  -- Null and the flags are words, numbers begin with a digit or a sign, all else with a mark.
  cases exact with
  | null => exact ⟨_, _, scalar rfl rfl, rfl⟩
  | bool flag => cases flag <;> exact ⟨_, _, scalar rfl rfl, rfl⟩
  | int number =>
    cases number with
    | ofNat n =>
      cases digits : Nat.toDigits 10 n with
      | nil => exact absurd digits Nat.toDigits_ne_nil
      | cons c rest =>
        have isDigit : c.isDigit = true :=
          Nat.isDigit_of_mem_toDigits (by decide) (by decide) (digits ▸ List.mem_cons_self)
        exact ⟨c, rest, (scalar rfl rfl).trans ((toList_toString_natCast n).trans digits),
          if_pos (.inl isDigit)⟩
    | negSucc n => exact ⟨_, _, (scalar rfl rfl).trans (toList_toString_negSucc n), rfl⟩
  | text content => exact ⟨_, _, (scalar rfl rfl).trans (toList_quote content), rfl⟩
  | list each => exact ⟨_, _, layout.write_list level _, rfl⟩
  | record each => exact ⟨_, _, layout.write_record level _, rfl⟩

theorem start_eq (exact : Exact first) (too : Exact second)
    (same : (layout.write level first).toList ++ x = (layout.write level second).toList ++ y) :
    Start.of first = Start.of second := by
  obtain ⟨c, rest, begins, mark⟩ := layout.starts exact level
  obtain ⟨d, others, beginsToo, markToo⟩ := layout.starts too level
  rw [begins, beginsToo] at same
  rw [(List.cons.inj same).1] at mark
  exact Option.some.inj (mark.symm.trans markToo)

/-- No value begins as a list ends. -/
theorem ne_bracket (exact : Exact value) :
    (layout.write level value).toList ++ x ≠ ']' :: y := by
  obtain ⟨c, rest, begins, mark⟩ := layout.starts exact level
  rw [begins]
  rintro ⟨⟩
  cases mark

theorem field_append_inj {first second : String × Value}
    (apart : ∀ x y, NoDigit x → NoDigit y →
      (layout.write level first.2).toList ++ x = (layout.write level second.2).toList ++ y →
      first.2 = second.2 ∧ x = y) (before : NoDigit x) (after : NoDigit y)
    (same : (quote first.1).toList ++
        ':' :: (layout.gap ++ (layout.write level first.2).toList) ++ x =
      (quote second.1).toList ++
        ':' :: (layout.gap ++ (layout.write level second.2).toList) ++ y) :
    first = second ∧ x = y := by
  rw [List.append_assoc, List.append_assoc] at same
  obtain ⟨name, rest⟩ := quote_append_inj same
  rw [List.cons_append, List.cons_append, List.append_assoc, List.append_assoc] at rest
  obtain ⟨value, tails⟩ := apart x y before after (List.append_cancel_left (List.cons.inj rest).2)
  exact ⟨Prod.ext name value, tails⟩

/-- A value is told by its text, and so is what follows unless it goes on with a digit. -/
theorem append_inj (exact : Exact first) (too : Exact second) (before : NoDigit x)
    (after : NoDigit y)
    (same : (layout.write level first).toList ++ x = (layout.write level second).toList ++ y) :
    first = second ∧ x = y := by
  -- By induction on the first value; the second one is of the same kind, as both begin alike.
  induction exact generalizing second level x y with
  | null =>
    have begins := layout.start_eq .null too same
    cases too with
    | null => exact ⟨rfl, List.append_cancel_left same⟩
    | _ => cases begins
  | bool flag =>
    have begins := layout.start_eq (.bool flag) too same
    cases too with
    | bool other =>
      cases begins
      exact ⟨rfl, List.append_cancel_left same⟩
    | _ => cases begins
  | int number =>
    have begins := layout.start_eq (.int number) too same
    cases too with
    | int other =>
      rw [layout.write_scalar _ _ rfl rfl, layout.write_scalar _ _ rfl rfl] at same
      obtain ⟨rfl, tails⟩ := int_append_inj before after same
      exact ⟨rfl, tails⟩
    | _ => cases begins
  | text content =>
    have begins := layout.start_eq (.text content) too same
    cases too with
    | text other =>
      rw [layout.write_scalar _ _ rfl rfl, layout.write_scalar _ _ rfl rfl] at same
      obtain ⟨rfl, tails⟩ := quote_append_inj same
      exact ⟨rfl, tails⟩
    | _ => cases begins
  | list each ih =>
    have begins := layout.start_eq (.list each) too same
    cases too with
    | @list others eachToo =>
      rw [layout.write_list, layout.write_list, List.cons_append, List.cons_append,
        List.append_assoc, List.append_assoc] at same
      have inner := (List.cons.inj same).2
      obtain ⟨rfl, tails⟩ := inside_append_inj (layout.isLine _) (layout.isLine _) rfl (by decide)
        (by decide) (List.forall_mem_append.mpr
          ⟨fun item member y z => layout.ne_bracket (each item member),
            fun item member y z => layout.ne_bracket (eachToo item member)⟩)
        (fun item member other isOther x y before after same =>
          ih item member (eachToo other isOther) before after same) inner
      exact ⟨rfl, tails⟩
    | _ => cases begins
  | record each ih =>
    have begins := layout.start_eq (.record each) too same
    cases too with
    | @record others eachToo =>
      rw [layout.write_record, layout.write_record, List.cons_append, List.cons_append,
        List.append_assoc, List.append_assoc] at same
      have inner := (List.cons.inj same).2
      have opens (field : String × Value) (y z : List Char) :
          (quote field.1).toList ++
            ':' :: (layout.gap ++ (layout.write (level + 1) field.2).toList) ++ y ≠
              '\x7d' :: z := by
        rw [toList_quote]
        rintro ⟨⟩
      obtain ⟨rfl, tails⟩ := inside_append_inj (layout.isLine _) (layout.isLine _) rfl (by decide)
        (by decide) (fun field _ => opens field)
        (fun field member other isOther x y before after same =>
          layout.field_append_inj (fun x y before after same =>
            ih field member (eachToo other isOther) before after same) before after same) inner
      exact ⟨rfl, tails⟩
    | _ => cases begins

theorem write_inj (exact : Exact first) (too : Exact second)
    (same : layout.write level first = layout.write level second) : first = second := by
  have nothing : NoDigit [] := by rintro _ _ ⟨⟩
  have texts : (layout.write level first).toList ++ [] =
      (layout.write level second).toList ++ [] := by rw [same]
  exact (layout.append_inj exact too nothing nothing texts).1

end Layout

theorem compact_inj {first second : Value} (exact : Exact first) (too : Exact second)
    (same : compact first = compact second) : first = second :=
  @Layout.write_inj compactLayout first second 0 exact too same

theorem pretty_inj {first second : Value} (exact : Exact first) (too : Exact second)
    (same : pretty first = pretty second) : first = second :=
  prettyLayout.write_inj exact too same

end CloudSpace.Json
