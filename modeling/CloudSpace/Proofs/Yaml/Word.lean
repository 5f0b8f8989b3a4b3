import CloudSpace.Proofs.Text
import CloudSpace.Proofs.Yaml.Quoted

/-!
# Words are told apart

A scalar without quotes ends before the first break, or before the first colon that counts. What it
stands for is what it reads as, which for a whole number is the number.
-/
namespace CloudSpace.Yaml

/-! ### Words -/

/-- A scalar without quotes: it fits on one line, has no colon that counts, and does not start with
a blank, or like another notation, an item or a key. -/
structure IsWord (word : List Char) : Prop where
  inhabited : word ≠ []
  noBreak : ∀ c ∈ word, isBreak c = false
  noKeyMark : hasKeyMark word = false
  noMark : ∀ c rest, word = c :: rest → c ∉ [' ', '|', '"', '\''] ∧
    (c ∈ ['-', '?'] → rest.head? ≠ some ' ')

/-- What ends a scalar on its line: the end of the line, or the colon after a key. -/
inductive EndsScalar : List Char → Prop
  | line (rest : List Char) : EndsScalar ('\n' :: rest)
  | key {separator : Char} (separates : isSeparator separator = true) (rest : List Char) :
      EndsScalar (':' :: separator :: rest)

theorem hasKeyMark_of_append {before after : List Char}
    (unmarked : hasKeyMark (before ++ after) = false) : hasKeyMark after = false := by
  induction before with
  | nil => exact unmarked
  | cons c rest ih =>
    cases more : rest ++ after with
    | nil => rw [(List.append_eq_nil_iff.mp more).2, hasKeyMark]
    | cons d others =>
      rw [List.cons_append, more, hasKeyMark, Bool.or_eq_false_iff, ← more] at unmarked
      exact ih unmarked.2

theorem hasKeyMark_eq_false {content : List Char} (absent : ':' ∉ content) :
    hasKeyMark content = false := by
  induction content with
  | nil => rfl
  | cons c rest ih =>
    obtain ⟨other, others⟩ := List.ne_and_not_mem_of_not_mem_cons absent
    cases rest with
    | nil => simpa [hasKeyMark] using other.symm
    | cons d more => rw [hasKeyMark, ih others]; simp [other.symm]

/-- A word does not go on where a scalar ends. -/
theorem IsWord.not_endsScalar {before rest ending : List Char} {c : Char}
    (isWord : IsWord (before ++ c :: rest)) : ¬EndsScalar (c :: rest ++ ending) := by
  intro ends
  have unmarked := hasKeyMark_of_append isWord.noKeyMark
  -- A scalar is ended by a break or by the colon of a key, and a word has neither.
  generalize whole : c :: rest ++ ending = text at ends
  cases ends with
  | line =>
    have noBreak := isWord.noBreak c (List.mem_append_right _ List.mem_cons_self)
    rw [(List.cons.inj whole).1] at noBreak
    cases noBreak
  | @key separator separates =>
    obtain ⟨rfl, more⟩ := List.cons.inj whole
    cases rest with
    | nil => cases unmarked
    | cons d others =>
      obtain ⟨rfl, -⟩ := List.cons.inj more
      rw [hasKeyMark, separates] at unmarked
      cases unmarked

/-- A word goes on until it is ended, so that it is known where it ends. -/
theorem IsWord.append_inj {first second x y : List Char} (isWord : IsWord first)
    (isToo : IsWord second) (ended : EndsScalar x) (closed : EndsScalar y)
    (same : first ++ x = second ++ y) : first = second ∧ x = y := by
  obtain ⟨more, rfl, rfl⟩ | ⟨more, rfl, rfl⟩ := List.append_eq_append_iff.mp same
  · cases more with
    | nil => exact ⟨(List.append_nil _).symm, rfl⟩
    | cons c rest => exact absurd ended isToo.not_endsScalar
  · cases more with
    | nil => exact ⟨List.append_nil _, rfl⟩
    | cons c rest => exact absurd closed isWord.not_endsScalar

/-- What a word stands for: the marks of what is empty, or what it reads as. -/
def standsFor (word : String) : Value :=
  if word = "[]" then .list []
  else if word = "\x7b\x7d" then .record []
  else
    match Plain.resolve word with
    | .null | .tooWide => .null
    | .bool flag => .bool flag
    | .int number => .int number
    | .float number => .float number
    | .text => .text word

/-! ### Words of letters and digits -/

/-- Letters and digits stand after the blank and before the line separators beyond ASCII. -/
theorem range_of_isAlphanum {c : Char} (alphanum : c.isAlphanum = true) :
    0x20 < c.toNat ∧ c.toNat < 0x85 := by
  have between {first last : Char} (above : first.val ≤ c.val) (below : c.val ≤ last.val) :
      first.toNat ≤ c.toNat ∧ c.toNat ≤ last.toNat :=
    ⟨UInt32.le_iff_toNat_le.mp above, UInt32.le_iff_toNat_le.mp below⟩
  -- Upper case, lower case and digits are three ranges of codes.
  obtain letter | digit := Bool.or_eq_true_iff.mp alphanum
  · obtain upper | lower := Bool.or_eq_true_iff.mp letter
    · obtain ⟨above, below⟩ := of_decide_eq_true upper
      have ends : 65 ≤ c.toNat ∧ c.toNat ≤ 90 := between above below
      omega
    · obtain ⟨above, below⟩ := Bool.and_eq_true_iff.mp lower
      have ends : 97 ≤ c.toNat ∧ c.toNat ≤ 122 :=
        between (of_decide_eq_true above) (of_decide_eq_true below)
      omega
  · obtain ⟨above, below⟩ := Bool.and_eq_true_iff.mp digit
    have ends : 48 ≤ c.toNat ∧ c.toNat ≤ 57 :=
      between (of_decide_eq_true above) (of_decide_eq_true below)
    omega

theorem of_isAlphanum {c : Char} (alphanum : c.isAlphanum = true) :
    isBreak c = false ∧ c ∉ [':', ' ', '|', '"', '\'', '-', '?'] := by
  constructor
  · have range := range_of_isAlphanum alphanum
    simp only [isBreak, Bool.or_eq_false_iff, decide_eq_false_iff_not, beq_eq_false_iff_ne]
    refine ⟨⟨⟨⟨?_, ?_⟩, by omega⟩, by omega⟩, by omega⟩
    · rintro rfl
      exact absurd range.1 (by decide)
    · rintro rfl
      exact absurd range.1 (by decide)
  · intro member
    have none : ∀ mark ∈ [':', ' ', '|', '"', '\'', '-', '?'], mark.isAlphanum = false := by simp
    cases (none c member).symm.trans alphanum

/-- Letters and digits make words. -/
theorem isWord_of_isAlphanum {word : List Char} (inhabited : word ≠ [])
    (alphanum : ∀ c ∈ word, c.isAlphanum = true) : IsWord word where
  inhabited := inhabited
  noBreak c member := (of_isAlphanum (alphanum c member)).1
  noKeyMark := hasKeyMark_eq_false fun member =>
    absurd (alphanum ':' member) (by decide)
  noMark c rest starts := by
    have plain := (of_isAlphanum (alphanum c (starts ▸ List.mem_cons_self))).2
    simp only [List.mem_cons, List.not_mem_nil, or_false, not_or] at plain ⊢
    obtain ⟨-, blank, bar, double, single, mark⟩ := plain
    exact ⟨⟨blank, bar, double, single⟩, fun isMark => absurd isMark (not_or.mpr mark)⟩

/-! ### Whole numbers -/

theorem toDigits_ten_cases (n : Nat) :
    Nat.toDigits 10 n = ['0'] ∨ ∃ c rest, Nat.toDigits 10 n = c :: rest ∧ c ≠ '0' := by
  induction n using Nat.strongRecOn with
  | ind n ih =>
    rw [Nat.toDigits_eq_if (by decide)]
    split
    · by_cases zero : n.digitChar = '0'
      · exact .inl (by rw [zero])
      · exact .inr ⟨_, _, rfl, zero⟩
    · obtain zero | ⟨c, rest, digits, leading⟩ := ih (n / 10) (by omega)
      · have none := toDigits_ten_inj (zero.trans (Nat.toDigits_zero 10).symm)
        omega
      · exact .inr ⟨c, _, by rw [digits]; rfl, leading⟩

namespace Plain

theorem isDigit_of_mem {n : Nat} {c : Char} (member : c ∈ Nat.toDigits 10 n) : c.isDigit = true :=
  Nat.isDigit_of_mem_toDigits (by decide) (by decide) member

theorem digits?_toDigits (n : Nat) : digits? 10 (Nat.toDigits 10 n) = some n := by
  have reads : ∀ digit < 10, digit? 10 digit.digitChar = some digit := by decide
  have whole := @foldlM_toDigits 10 (digit? 10) id (by decide) reads n
  rw [List.map_id] at whole
  rw [digits?, if_neg (by simp), whole]

theorem notMem_toDigits {n : Nat} {c : Char} (other : c.isDigit = false) :
    c ∉ Nat.toDigits 10 n := fun member => by cases other.symm.trans (isDigit_of_mem member)

theorem isZeroPadded_toDigits (n : Nat) : isZeroPadded (Nat.toDigits 10 n) = false := by
  obtain zero | ⟨c, rest, digits, leading⟩ := toDigits_ten_cases n
  · rw [zero]
    rfl
  -- No sign can be the first of the digits.
  · have unsigned (sign : Char) (other : sign.isDigit = false) : c ≠ sign := by
      rintro rfl
      exact notMem_toDigits other (digits ▸ List.mem_cons_self)
    have plus := unsigned '+' rfl
    have minus := unsigned '-' rfl
    rw [digits]
    unfold isZeroPadded
    dsimp only
    split
    · split at * <;> simp_all
    · rfl

theorem magnitude?_toDigits (n : Nat) : magnitude? (Nat.toDigits 10 n) = some n := by
  have unmarked : marked? (Nat.toDigits 10 n) = none := by
    rw [marked?.eq_def]
    -- None of the letters that mark a base is a digit.
    have absent (mark : Char) (other : mark.isDigit = false) : mark ∉ Nat.toDigits 10 n :=
      fun member => by cases other.symm.trans (isDigit_of_mem member)
    split
    · exact absurd (by rw [‹Nat.toDigits 10 n = _›]; simp) (absent 'x' rfl)
    · exact absurd (by rw [‹Nat.toDigits 10 n = _›]; simp) (absent 'o' rfl)
    · exact absurd (by rw [‹Nat.toDigits 10 n = _›]; simp) (absent 'b' rfl)
    · rfl
  rw [magnitude?, unmarked]
  simp only [isZeroPadded_toDigits, digits?_toDigits]
  rfl

/-- A number is read back as a whole number. -/
theorem whole?_toString (n : Nat) : whole? (toString n) = some (n : Int) := by
  have digits : (toString n).toList = Nat.toDigits 10 n := Nat.toList_repr
  have unsigned {sign : Char} {rest : List Char} (other : sign.isDigit = false) :
      Nat.toDigits 10 n ≠ sign :: rest :=
    fun starts => notMem_toDigits other (starts ▸ List.mem_cons_self)
  rw [whole?, digits]
  split
  · exact absurd ‹_› (unsigned rfl)
  · exact absurd ‹_› (unsigned rfl)
  · rw [magnitude?_toDigits]
    rfl

/-- A number that fits is resolved as one: no word for null or for a flag is made of digits. -/
theorem resolve_toString {n : Nat} (narrow : n < wordSize 64) :
    resolve (toString n) = .int n := by
  have digits : (toString n).toList = Nat.toDigits 10 n := Nat.toList_repr
  -- Words that stand for something else have at least one letter.
  have other (word : String) (named : word.toList.all Char.isDigit = false) :
      toString n ≠ word := by
    rintro rfl
    rw [digits] at named
    obtain ⟨c, member, other⟩ := List.all_eq_false.mp named
    exact other (isDigit_of_mem member)
  have inhabited : (toString n).isEmpty = false := by
    rw [← Bool.not_eq_true, String.isEmpty_iff]
    intro empty
    rw [empty] at digits
    exact Nat.toDigits_ne_nil digits.symm
  have null : isNull (toString n) = false := by
    simp only [isNull, Bool.or_eq_false_iff, decide_eq_false_iff_not]
    exact ⟨⟨⟨other _ rfl, other _ rfl⟩, other _ rfl⟩, other _ rfl⟩
  have flag : bool? (toString n) = none := by
    have neither (words : List String)
        (named : ∀ word ∈ words, word.toList.all Char.isDigit = false) : toString n ∉ words :=
      fun member => other _ (named _ member) rfl
    have yes := neither ["true", "True", "TRUE"] (by decide)
    have no := neither ["false", "False", "FALSE"] (by decide)
    simp only [List.mem_cons, List.not_mem_nil, or_false] at yes no
    rw [bool?, if_neg (by simpa only [Bool.or_eq_true, decide_eq_true_eq, or_assoc] using yes),
      if_neg (by simpa only [Bool.or_eq_true, decide_eq_true_eq, or_assoc] using no)]
  -- What fits into 64 bits is both recognised and held.
  have bounds : n < wordSize 64 ∧ wordSize 64 ≤ wordSize 128 := ⟨narrow, by decide⟩
  have recognised : isRecognised (n : Int) = true := by
    simp only [isRecognised, Bool.and_eq_true, decide_eq_true_eq]
    omega
  have held : isHeld (n : Int) = true := by
    simp only [isHeld, Bool.and_eq_true, decide_eq_true_eq]
    omega
  rw [resolve, inhabited, null, flag, ofNumber, whole?_toString, Option.filter_some,
    if_pos recognised]
  simp [held]

end Plain

end CloudSpace.Yaml
