import CloudSpace.Proofs.Yaml.Block
import CloudSpace.Proofs.Yaml.Word

/-!
# Scalars are told apart

The first character of what is written of a scalar tells its notation, and within each notation what
is written determines the scalar and where it ends.
-/
namespace CloudSpace.Yaml

/-! ### Scalars on one line -/

/-- How a scalar is written, unless as a block. -/
inductive Spells (indent : Nat) : Value → List Char → Prop
  | word {word : String} {value : Value} (isWord : IsWord word.toList)
      (stands : standsFor word = value) : Spells indent value word.toList
  | single (content : String) :
      Spells indent (.text content) (singleQuoted indent content.toList).toList
  | double (content : String) : Spells indent (.text content) (doubleQuoted content.toList).toList

theorem singleQuoted_eq_cons (indent : Nat) (content : List Char) :
    ∃ rest, (singleQuoted indent content).toList = '\'' :: rest :=
  ⟨_, by rw [singleQuoted, String.toList_append, String.toList_append]; rfl⟩

theorem doubleQuoted_eq_cons (content : List Char) :
    ∃ rest, (doubleQuoted content).toList = '"' :: rest :=
  ⟨_, by rw [toList_doubleQuoted]; rfl⟩

theorem EndsScalar.head?_ne_quote {text : List Char} (ends : EndsScalar text) :
    text.head? ≠ some '\'' := by
  cases ends <;> simp

/-- The first character of a word is not one of another notation. -/
theorem IsWord.ne_cons {word x y : List Char} {mark : Char} (isWord : IsWord word)
    (isMark : mark ∈ [' ', '|', '"', '\'']) : word ++ x ≠ mark :: y := by
  intro same
  cases word with
  | nil => exact isWord.inhabited rfl
  | cons c rest =>
    obtain ⟨rfl, -⟩ := List.cons.inj same
    exact (isWord.noMark c rest rfl).1 isMark

/-- What is spelled is read back, each spelling by its first character. -/
theorem Spells.append_inj {indent : Nat} {first second : Value} {written shown x y : List Char}
    (spells : Spells indent first written) (spellsToo : Spells indent second shown)
    (ended : EndsScalar x) (closed : EndsScalar y) (same : written ++ x = shown ++ y) :
    first = second ∧ x = y := by
  cases spells with
  -- No word begins with a quote.
  | @word word first isWord stands =>
    cases spellsToo with
    | @word other second isToo too =>
      obtain ⟨alike, rest⟩ := isWord.append_inj isToo ended closed same
      rw [String.toList_inj] at alike
      exact ⟨by rw [← stands, ← too, alike], rest⟩
    | single content =>
      obtain ⟨rest, quoted⟩ := singleQuoted_eq_cons indent content.toList
      rw [quoted] at same
      exact absurd same (isWord.ne_cons (by decide))
    | double content =>
      obtain ⟨rest, quoted⟩ := doubleQuoted_eq_cons content.toList
      rw [quoted] at same
      exact absurd same (isWord.ne_cons (by decide))
  | single content =>
    obtain ⟨rest, quoted⟩ := singleQuoted_eq_cons indent content.toList
    cases spellsToo with
    | word isWord =>
      rw [quoted] at same
      exact absurd same.symm (isWord.ne_cons (by decide))
    | single other =>
      obtain ⟨alike, rest⟩ := singleQuoted_append_inj ended.head?_ne_quote
        closed.head?_ne_quote same
      exact ⟨congrArg Value.text (String.toList_inj.mp alike), rest⟩
    | double other =>
      obtain ⟨more, too⟩ := doubleQuoted_eq_cons other.toList
      rw [quoted, too] at same
      cases (List.cons.inj same).1
  | double content =>
    obtain ⟨rest, quoted⟩ := doubleQuoted_eq_cons content.toList
    cases spellsToo with
    | word isWord =>
      rw [quoted] at same
      exact absurd same.symm (isWord.ne_cons (by decide))
    | single other =>
      obtain ⟨more, too⟩ := singleQuoted_eq_cons indent other.toList
      rw [quoted, too] at same
      cases (List.cons.inj same).1
    | double other =>
      obtain ⟨alike, rest⟩ := doubleQuoted_append_inj same
      exact ⟨congrArg Value.text (String.toList_inj.mp alike), rest⟩

/-- A scalar on one line starts with a quote, unless it is a word. -/
theorem Spells.cases_head {indent : Nat} {value : Value} {written : List Char}
    (spells : Spells indent value written) :
    IsWord written ∨ ∃ rest, written = '\'' :: rest ∨ written = '"' :: rest := by
  cases spells with
  | word isWord => exact .inl isWord
  | single content => exact .inr ((singleQuoted_eq_cons _ _).imp fun _ => .inl)
  | double content => exact .inr ((doubleQuoted_eq_cons _).imp fun _ => .inr)

theorem Spells.ne_bar {indent : Nat} {value : Value} {written x y : List Char}
    (spells : Spells indent value written) : written ++ x ≠ '|' :: y := by
  obtain isWord | ⟨rest, rfl | rfl⟩ := spells.cases_head
  · exact isWord.ne_cons (by decide)
  · exact fun same => absurd (List.cons.inj same).1 (by decide)
  · exact fun same => absurd (List.cons.inj same).1 (by decide)

/-- A scalar does not start like an item, or like a key that is marked as one. -/
theorem Spells.ne_mark {indent : Nat} {value : Value} {written x y : List Char} {mark : Char}
    (spells : Spells indent value written) (ended : EndsScalar x) (isMark : mark ∈ ['-', '?']) :
    written ++ x ≠ mark :: ' ' :: y := by
  have other : mark ≠ '\'' ∧ mark ≠ '"' := by
    have each : ∀ mark ∈ ['-', '?'], mark ≠ '\'' ∧ mark ≠ '"' := by simp
    exact each mark isMark
  intro same
  -- Quotes are no marks, and a word that begins with one has no blank after it.
  obtain isWord | ⟨rest, rfl | rfl⟩ := spells.cases_head
  · cases written with
    | nil => exact isWord.inhabited rfl
    | cons c rest =>
      obtain ⟨rfl, more⟩ := List.cons.inj same
      cases rest with
      | nil =>
        subst more
        cases ended
      | cons d others =>
        refine (isWord.noMark c (d :: others) rfl).2 isMark ?_
        rw [List.head?_cons, (List.cons.inj more).1]
  · exact other.1 (List.cons.inj same).1.symm
  · exact other.2 (List.cons.inj same).1.symm

/-- A scalar that is not a block does not end its line. -/
theorem Spells.freshLine_eq {indent : Nat} {value : Value} {written : String}
    (spells : Spells indent value written.toList) :
    (freshLine written).toList = written.toList ++ ['\n'] := by
  -- A spelling never ends with a break, as words have none and quotes are closed.
  have unended : written.toList.getLast?.all isBreak = false := by
    generalize written.toList = text at spells
    cases spells with
    | @word word _ isWord =>
      cases last : word.toList.getLast? with
      | none => exact absurd (List.getLast?_eq_none_iff.mp last) isWord.inhabited
      | some c => exact isWord.noBreak c (List.mem_of_getLast? last)
    | single content =>
      rw [singleQuoted, String.toList_append, List.getLast?_append]
      rfl
    | double content =>
      rw [toList_doubleQuoted, List.getLast?_concat]
      rfl
  rw [toList_freshLine, unended, if_neg Bool.false_ne_true]

/-! ### Texts -/

theorem notMem_of_startsWithMark {c : Char} {rest : List Char}
    (unmarked : startsWithMark (c :: rest) = false) :
    c ∉ ['|', '"', '\'', '[', '\x7b'] ∧ (c ∈ ['-', '?'] → rest.head? ≠ some ' ') := by
  simp only [startsWithMark, Bool.or_eq_false_iff, Bool.and_eq_false_iff] at unmarked
  obtain ⟨⟨-, unlisted⟩, unseparated⟩ := unmarked
  constructor
  · intro member
    have listed : ∀ c ∈ ['|', '"', '\'', '[', '\x7b'],
        "#,[]\x7b\x7d&*!|>'\"%@`".toList.contains c = true := by simp
    cases (listed c member).symm.trans unlisted
  · intro member blank
    -- Of the three marks that need a blank behind them two are asked for here.
    have asked : c = '-' ∨ c = '?' := by simpa using member
    obtain ⟨⟨question, -⟩, hyphen⟩ | apart := unseparated
    · obtain rfl | rfl := asked
      · cases hyphen
      · cases question
    · rw [blank] at apart
      cases apart

theorem isWord_of_plain {content : List Char} (inhabited : content ≠ [])
    (plain : (shape content).plain = true) :
    IsWord content ∧ ∀ c ∈ ['[', '\x7b'], content.head? ≠ some c := by
  rw [shape, if_neg (by simpa using inhabited)] at plain
  simp only [Bool.not_eq_true', Bool.or_eq_false_iff] at plain
  -- The shape has been found to be plain, which rules out all marks one by one.
  obtain ⟨⟨⟨-, oneLine⟩, unpadded, -⟩, ⟨unmarked, noKeyMark⟩, -⟩ := plain
  cases content with
  | nil => exact absurd rfl inhabited
  | cons c rest =>
    obtain ⟨noMark, noItem⟩ := notMem_of_startsWithMark unmarked
    refine ⟨⟨inhabited, ?_, noKeyMark, ?_⟩, ?_⟩
    · simpa using oneLine
    · rintro _ _ ⟨⟩
      refine ⟨fun member => ?_, noItem⟩
      obtain rfl | member := List.mem_cons.mp member
      · cases unpadded
      · exact noMark (List.mem_append_left ['[', '\x7b'] member)
    · rintro d member ⟨⟩
      exact noMark (List.mem_append_right ['|', '"', '\''] member)

/-- A text is spelled on its line, or has lines of its own where it is no key. -/
theorem textScalar_cases (indent : Nat) (asKey : Bool) (content : String) :
    Spells indent (.text content) (textScalar indent asKey content).toList ∨
      '\n' ∈ content.toList ∧ asKey = false ∧
        textScalar indent asKey content = literal indent content.toList := by
  rw [textScalar]
  dsimp only
  split
  -- Breaks are written in a block where one is allowed, and escaped elsewhere.
  · split
    · rename_i lines allowed
      simp only [Bool.and_eq_true, Bool.not_eq_true'] at allowed
      exact .inr ⟨by simpa using lines, allowed.2, rfl⟩
    · exact .inl (.double content)
  · split
    -- A plain text begins with no mark, so that it is not taken for an empty list or record.
    · rename_i plain
      simp only [Bool.and_eq_true, beq_iff_eq] at plain
      obtain ⟨⟨reads, -⟩, plain⟩ := plain
      have inhabited : content.toList ≠ [] := by
        intro empty
        rw [String.toList_eq_nil_iff.mp empty] at reads
        cases reads
      obtain ⟨isWord, unmarked⟩ := isWord_of_plain inhabited plain
      have noList : content ≠ "[]" := by
        rintro rfl
        exact unmarked '[' (by decide) rfl
      have noRecord : content ≠ "\x7b\x7d" := by
        rintro rfl
        exact unmarked '\x7b' (by decide) rfl
      exact .inl (.word isWord (by rw [standsFor, if_neg noList, if_neg noRecord, reads]))
    · split
      · exact .inl (.single content)
      · exact .inl (.double content)

/-! ### Values on their own -/

/-- The values without parts that documents have. -/
inductive Leaf : Value → Prop
  | null : Leaf .null
  | bool (flag : Bool) : Leaf (.bool flag)
  | number {n : Nat} (narrow : n < wordSize 64) : Leaf (.int n)
  | text (content : String) : Leaf (.text content)
  | emptyList : Leaf (.list [])
  | emptyRecord : Leaf (.record [])

theorem isWord_emptyList : IsWord "[]".toList where
  inhabited := by decide
  noBreak := by simp [isBreak]
  noKeyMark := by decide
  noMark := by
    rintro c rest ⟨⟩
    exact ⟨by decide, by decide⟩

theorem isWord_emptyRecord : IsWord "\x7b\x7d".toList where
  inhabited := by decide
  noBreak := by simp [isBreak]
  noKeyMark := by decide
  noMark := by
    rintro c rest ⟨⟩
    exact ⟨by decide, by decide⟩

theorem standsFor_toString {n : Nat} (narrow : n < wordSize 64) :
    standsFor (toString n) = .int n := by
  have reads := Plain.resolve_toString narrow
  have noList : toString n ≠ "[]" := by
    intro same
    rw [same] at reads
    cases reads
  have noRecord : toString n ≠ "\x7b\x7d" := by
    intro same
    rw [same] at reads
    cases reads
  rw [standsFor, if_neg noList, if_neg noRecord, reads]

/-- A leaf is spelled on its line, or it is a text in lines of its own. -/
theorem Leaf.scalar_cases {value : Value} (leaf : Leaf value) (indent : Nat) :
    Spells indent value (scalar indent false value).toList ∨
      ∃ content, value = .text content ∧ content.toList ≠ [] ∧
        scalar indent false value = literal indent content.toList := by
  have alphanum {word : String} (inhabited : word.toList ≠ [])
      (all : word.toList.all Char.isAlphanum = true) : IsWord word.toList :=
    isWord_of_isAlphanum inhabited (List.all_eq_true.mp all)
  cases leaf with
  -- The words for null, flags and numbers consist of letters and digits.
  | null => exact .inl (@Spells.word indent "null" _ (alphanum (by decide) (by decide)) rfl)
  | bool flag =>
    cases flag
    · exact .inl (@Spells.word indent "false" _ (alphanum (by decide) (by decide)) rfl)
    · exact .inl (@Spells.word indent "true" _ (alphanum (by decide) (by decide)) rfl)
  | @number n narrow =>
    have digits : (toString n).toList = Nat.toDigits 10 n := Nat.toList_repr
    have isWord : IsWord (toString n).toList := by
      rw [digits]
      refine isWord_of_isAlphanum Nat.toDigits_ne_nil fun c member => ?_
      rw [Char.isAlphanum, Plain.isDigit_of_mem member, Bool.or_true]
    exact .inl (.word isWord (standsFor_toString narrow))
  | text content =>
    obtain spells | ⟨lines, -, literal⟩ := textScalar_cases indent false content
    · exact .inl spells
    · exact .inr ⟨content, rfl, List.ne_nil_of_mem lines, literal⟩
  | emptyList => exact .inl (@Spells.word indent "[]" _ isWord_emptyList rfl)
  | emptyRecord => exact .inl (@Spells.word indent "\x7b\x7d" _ isWord_emptyRecord rfl)

theorem Leaf.append_inj {first second : Value} (leaf : Leaf first) (isToo : Leaf second)
    {indent : Nat} (deep : 0 < indent) {x y : List Char} (before : Below indent x)
    (after : Below indent y)
    (same : (freshLine (scalar indent false first)).toList ++ x =
      (freshLine (scalar indent false second)).toList ++ y) :
    first = second ∧ x = y := by
  -- Blocks begin with a bar and no spelling does, so that both values are written in the same way.
  obtain spells | ⟨content, rfl, inhabited, block⟩ := leaf.scalar_cases indent
  · rw [spells.freshLine_eq, List.append_assoc] at same
    obtain spellsToo | ⟨content, rfl, -, block⟩ := isToo.scalar_cases indent
    · rw [spellsToo.freshLine_eq, List.append_assoc] at same
      obtain ⟨alike, rest⟩ := spells.append_inj spellsToo (.line _) (.line _) same
      exact ⟨alike, (List.cons.inj rest).2⟩
    · rw [block, toList_freshLine_literal] at same
      exact absurd same spells.ne_bar
  · rw [block] at same
    obtain spells | ⟨other, rfl, nonempty, too⟩ := isToo.scalar_cases indent
    · rw [spells.freshLine_eq, List.append_assoc, toList_freshLine_literal] at same
      exact absurd same.symm spells.ne_bar
    · rw [too] at same
      obtain ⟨alike, rest⟩ := literal_append_inj deep inhabited nonempty before after same
      exact ⟨congrArg Value.text (String.toList_inj.mp alike), rest⟩

end CloudSpace.Yaml
