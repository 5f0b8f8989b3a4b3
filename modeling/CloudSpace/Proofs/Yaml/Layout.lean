import CloudSpace.Proofs.Yaml.Scalar

/-!
# The printer tells values apart

No two values that stand in documents are written as the same text. A line tells by its indentation
where a collection ends, and by its first characters whether it is an item, a key or a scalar; the
rest is an induction over the value, whose parts are written one below the other.
-/
namespace CloudSpace.Yaml

/-! ### Lines -/

/-- Parts with their lines ended, each part indented. -/
def lines (indent : Nat) (parts : List String) : List Char :=
  parts.flatMap fun part => List.replicate indent ' ' ++ (freshLine part).toList

theorem toList_freshLine_append (first : String) {second : String}
    (inhabited : second.toList ≠ []) :
    (freshLine (first ++ second)).toList = first.toList ++ (freshLine second).toList := by
  have last := List.getLast?_eq_some_getLast inhabited
  rw [toList_freshLine, toList_freshLine, String.toList_append, List.getLast?_append, last,
    Option.some_or, List.append_assoc]

theorem stack_cons (indent : Nat) (part next : String) (rest : List String) :
    stack indent (part :: next :: rest) =
      freshLine part ++ blanks indent ++ stack indent (next :: rest) := rfl

/-- A stack has a part and hence a character. -/
theorem toList_stack_ne_nil (indent : Nat) {part : String} (rest : List String)
    (inhabited : part.toList ≠ []) : (stack indent (part :: rest)).toList ≠ [] := by
  cases rest with
  | nil => exact inhabited
  | cons next rest =>
    rw [stack_cons, String.toList_append, String.toList_append, toList_freshLine,
      List.append_assoc, List.append_assoc]
    exact List.append_ne_nil_of_left_ne_nil inhabited _

/-- The parts of a stack each begin a line. -/
theorem toList_freshLine_stack (indent : Nat) {parts : List String} (nonempty : parts ≠ [])
    (inhabited : ∀ part ∈ parts, part.toList ≠ []) :
    List.replicate indent ' ' ++ (freshLine (stack indent parts)).toList = lines indent parts := by
  induction parts with
  | nil => exact absurd rfl nonempty
  | cons part rest ih =>
    cases rest with
    | nil => rw [lines, List.flatMap_singleton, stack]
    | cons next rest =>
      obtain ⟨-, others⟩ := List.forall_mem_cons.mp inhabited
      have below := toList_stack_ne_nil indent rest (others next List.mem_cons_self)
      rw [stack_cons, toList_freshLine_append _ below, String.toList_append, toList_blanks,
        List.append_assoc, ih (List.cons_ne_nil _ _) others, ← List.append_assoc]
      rfl

/-- Parts that are told apart are told apart in a list, where what follows a list does not look
like a further part. -/
theorem lines_append_inj {α : Type} {indent : Nat} {write : α → String}
    {stops goesOn : List Char → Prop} {firsts seconds : List α}
    (apart : ∀ first ∈ firsts, ∀ second ∈ seconds, ∀ x y, goesOn x → goesOn y →
      (freshLine (write first)).toList ++ x = (freshLine (write second)).toList ++ y →
      first = second ∧ x = y)
    (next : ∀ part z, goesOn (lines indent [write part] ++ z))
    (stopped : ∀ z, stops z → goesOn z)
    (ended : ∀ part z, ¬stops (lines indent [write part] ++ z)) {x y : List Char}
    (before : stops x) (after : stops y)
    (same : lines indent (firsts.map write) ++ x = lines indent (seconds.map write) ++ y) :
    firsts = seconds ∧ x = y := by
  -- The first part stands on its own line, and the others after it.
  have one (part : α) (rest : List α) (z : List Char) :
      lines indent ((part :: rest).map write) ++ z =
        lines indent [write part] ++ (lines indent (rest.map write) ++ z) := by
    rw [List.map_cons, ← List.append_assoc]
    simp [lines]
  have nothing (z : List Char) : lines indent (([] : List α).map write) ++ z = z := rfl
  have onward (rest : List α) {z : List Char} (stop : stops z) :
      goesOn (lines indent (rest.map write) ++ z) := by
    cases rest with
    | nil => exact stopped z stop
    | cons part rest =>
      rw [one]
      exact next part _
  -- What follows one part is the next part or what follows the list; `onward` is for both.
  induction firsts generalizing seconds with
  | nil =>
    cases seconds with
    | nil => exact ⟨rfl, same⟩
    | cons second others =>
      rw [one, nothing] at same
      exact absurd (same ▸ before) (ended second _)
  | cons first rest ih =>
    cases seconds with
    | nil =>
      rw [one, nothing] at same
      exact absurd (same ▸ after) (ended first _)
    | cons second others =>
      obtain ⟨here, further⟩ := List.forall_mem_cons.mp apart
      rw [one, one] at same
      simp only [lines, List.flatMap_singleton, List.append_assoc] at same
      obtain ⟨rfl, onwards⟩ := here second List.mem_cons_self _ _ (onward rest before)
        (onward others after) (List.append_cancel_left same)
      obtain ⟨rfl, rest⟩ := ih (fun other member second isOther =>
        further other member second (List.mem_cons_of_mem _ isOther)) onwards
      exact ⟨rfl, rest⟩

/-! ### Parts -/

/-- The text of one field of a record. -/
def fieldAt (indent : Nat) (field : String × Value) : String :=
  if isSimpleKey field.1 then
    textScalar (indent + 2) true field.1 ++ ":" ++ afterColon indent field.2
  else
    freshLine ("? " ++ textScalar (indent + 2) false field.1) ++ blanks indent ++ ": " ++
      inlineAt indent field.2

/-- The text of one item of a list. -/
def itemAt (indent : Nat) (item : Value) : String := "- " ++ inlineAt indent item

theorem itemsAt_eq_map (indent : Nat) (items : List Value) :
    itemsAt indent items = items.map (itemAt indent) := by
  induction items with
  | nil => rfl
  | cons item rest ih => rw [itemsAt, ih, List.map_cons, itemAt]

theorem fieldsAt_eq_map (indent : Nat) (fields : List (String × Value)) :
    fieldsAt indent fields = fields.map (fieldAt indent) := by
  induction fields with
  | nil => rfl
  | cons field rest ih => rw [fieldsAt, ih, List.map_cons, fieldAt]

/-- A value on its own: its parts at one indentation, a scalar's further lines at another. -/
def blockAt (outer inner : Nat) : Value → String
  | .list (item :: rest) => stack outer ((item :: rest).map (itemAt outer))
  | .record (field :: rest) => stack outer ((field :: rest).map (fieldAt outer))
  | value => scalar inner false value

/-- What is written after a dash is indented as far as the dash and the blank after it. -/
theorem inlineAt_eq (indent : Nat) (value : Value) :
    inlineAt indent value = blockAt (indent + 2) (indent + 2) value := by
  match value with
  | .list (item :: rest) => rw [inlineAt, itemsAt_eq_map, blockAt]
  | .record (field :: rest) => rw [inlineAt, fieldsAt_eq_map, blockAt]
  | .list [] | .record [] => rfl
  | .null | .bool _ | .int _ | .float _ | .text _ => rfl

theorem print_eq (value : Value) : print value = freshLine (blockAt 0 2 value) := by
  match value with
  | .list (item :: rest) => rw [print, itemsAt_eq_map, blockAt]
  | .record (field :: rest) => rw [print, fieldsAt_eq_map, blockAt]
  | .list [] | .record [] => rfl
  | .null | .bool _ | .int _ | .float _ | .text _ => rfl

/-! ### Values -/

/-- The values that documents are made of. -/
inductive Writable : Value → Prop
  | leaf {value : Value} (leaf : Leaf value) : Writable value
  | list {item : Value} {rest : List Value} (each : ∀ other ∈ item :: rest, Writable other) :
      Writable (.list (item :: rest))
  | record {field : String × Value} {rest : List (String × Value)}
      (each : ∀ other ∈ field :: rest, Writable other.2) : Writable (.record (field :: rest))

theorem Leaf.blockAt_eq {value : Value} (leaf : Leaf value) (outer inner : Nat) :
    blockAt outer inner value = scalar inner false value := by
  cases leaf <;> rfl

theorem Leaf.afterColon_eq {value : Value} (leaf : Leaf value) (indent : Nat) :
    afterColon indent value = " " ++ scalar (indent + 2) false value := by
  cases leaf <;> rfl

theorem Leaf.toList_scalar_ne_nil {value : Value} (leaf : Leaf value) (indent : Nat) :
    (scalar indent false value).toList ≠ [] := by
  intro empty
  obtain spells | ⟨content, -, -, block⟩ := leaf.scalar_cases indent
  · obtain isWord | ⟨rest, quoted | quoted⟩ := spells.cases_head
    · exact isWord.inhabited empty
    · cases empty.symm.trans quoted
    · cases empty.symm.trans quoted
  · rw [block, literal] at empty
    simp at empty

theorem toList_itemAt_ne_nil (indent : Nat) (item : Value) : (itemAt indent item).toList ≠ [] := by
  rw [itemAt, String.toList_append]
  exact List.cons_ne_nil _ _

theorem toList_fieldAt_ne_nil (indent : Nat) (field : String × Value) :
    (fieldAt indent field).toList ≠ [] := by
  rw [fieldAt]
  split <;> simp

/-- No value is written as nothing. -/
theorem Writable.toList_blockAt_ne_nil {value : Value} (writable : Writable value)
    (outer inner : Nat) : (blockAt outer inner value).toList ≠ [] := by
  cases writable with
  | leaf leaf =>
    rw [leaf.blockAt_eq]
    exact leaf.toList_scalar_ne_nil inner
  | list each => exact toList_stack_ne_nil outer _ (toList_itemAt_ne_nil outer _)
  | record each => exact toList_stack_ne_nil outer _ (toList_fieldAt_ne_nil outer _)

/-! ### What parts start with -/

/-- What stands after the items of a list: nothing, a line that is indented by less, or one that is
indented as they are and is no item. -/
def After (indent : Nat) (text : List Char) : Prop :=
  Below indent text ∨ ∃ c rest, c ≠ ' ' ∧ isBreak c = false ∧ (c = '-' → rest.head? ≠ some ' ') ∧
    text = List.replicate indent ' ' ++ c :: rest

theorem Below.mono {indent deeper : Nat} {text : List Char} (below : Below indent text)
    (deep : indent ≤ deeper) : Below deeper text := by
  obtain rfl | ⟨count, c, rest, less, plain⟩ := below
  · exact .inl rfl
  · exact .inr ⟨count, c, rest, Nat.lt_of_lt_of_le less deep, plain⟩

theorem After.below {indent deeper : Nat} {text : List Char} (after : After indent text)
    (deep : indent < deeper) : Below deeper text := by
  obtain below | ⟨c, rest, noBlank, noBreak, -, rfl⟩ := after
  · exact below.mono (Nat.le_of_lt deep)
  · exact .inr ⟨indent, c, rest, deep, noBlank, noBreak, rfl⟩

theorem Below.ne_line {indent : Nat} {text rest : List Char} {c : Char}
    (below : Below indent text) : text ≠ List.replicate indent ' ' ++ c :: rest := by
  cases indent with
  | zero =>
    obtain rfl | ⟨_, _, _, less, -⟩ := below
    · exact (List.cons_ne_nil _ _).symm
    · cases less
  | succ indent => exact below.ne_indented (Nat.succ_pos _)

theorem itemAt_starts (indent : Nat) (item : Value) :
    ∃ rest, (freshLine (itemAt indent item)).toList = '-' :: ' ' :: rest :=
  ⟨_, by rw [toList_freshLine, itemAt, String.toList_append]; rfl⟩

theorem afterColon_starts (indent : Nat) (value : Value) :
    ∃ c rest, (afterColon indent value).toList = c :: rest ∧ isSeparator c = true := by
  match value with
  | .list (item :: rest) | .record (field :: rest) =>
    exact ⟨'\n', _, by rw [afterColon, String.append_assoc, String.toList_append]; rfl, rfl⟩
  | .list [] | .record [] | .null | .bool _ | .int _ | .float _ | .text _ =>
    exact ⟨' ', (scalar (indent + 2) false _).toList, String.toList_append, rfl⟩

theorem endsScalar_afterColon (indent : Nat) (value : Value) (text : List Char) :
    EndsScalar (':' :: ((freshLine (afterColon indent value)).toList ++ text)) := by
  obtain ⟨c, rest, starts, separates⟩ := afterColon_starts indent value
  rw [toList_freshLine, starts]
  exact .key separates _

/-- A key in front of its colon has one line, so that no indentation shows in it. -/
theorem spells_key {key : String} (simple : isSimpleKey key = true) (indent other : Nat) :
    Spells other (.text key) (textScalar indent true key).toList := by
  have oneLine : ∀ c ∈ key.toList, isBreak c = false := by
    simp only [isSimpleKey, Bool.and_eq_true, Bool.not_eq_true'] at simple
    simpa using simple.1
  -- Without a break the indentation is never written.
  have same : textScalar indent true key = textScalar other true key := by
    have noNewline : key.toList.contains '\n' = false := by
      rw [← Bool.not_eq_true, List.contains_iff_mem]
      intro member
      cases oneLine '\n' member
    simp only [textScalar, noNewline, singleQuoted,
      singleQuotedFrom_of_noBreak oneLine indent other, Bool.false_eq_true, if_false]
  rw [same]
  -- Only a value may be a block of lines.
  refine (textScalar_cases other true key).resolve_right ?_
  rintro ⟨-, asKey, -⟩
  cases asKey

theorem fieldAt_simple {indent : Nat} {field : String × Value}
    (simple : isSimpleKey field.1 = true) (text : List Char) :
    (freshLine (fieldAt indent field)).toList ++ text =
      (textScalar (indent + 2) true field.1).toList ++
        ':' :: ((freshLine (afterColon indent field.2)).toList ++ text) := by
  obtain ⟨c, rest, starts, -⟩ := afterColon_starts indent field.2
  have inhabited : (afterColon indent field.2).toList ≠ [] := by
    rw [starts]
    exact List.cons_ne_nil _ _
  rw [fieldAt, if_pos simple, toList_freshLine_append _ inhabited, String.toList_append]
  simp

theorem fieldAt_marked {indent : Nat} {field : String × Value}
    (marked : isSimpleKey field.1 = false) (writable : Writable field.2) (text : List Char) :
    (freshLine (fieldAt indent field)).toList ++ text =
      '?' :: ' ' :: ((freshLine (scalar (indent + 2) false (.text field.1))).toList ++
        (List.replicate indent ' ' ++
          ':' :: ' ' :: ((freshLine (inlineAt indent field.2)).toList ++ text))) := by
  have value := writable.toList_blockAt_ne_nil (indent + 2) (indent + 2)
  rw [← inlineAt_eq] at value
  have key := (Leaf.text field.1).toList_scalar_ne_nil (indent + 2)
  rw [scalar] at key ⊢
  rw [fieldAt, if_neg (by rw [marked]; exact Bool.false_ne_true),
    toList_freshLine_append _ value, String.toList_append, String.toList_append,
    toList_freshLine_append "? " key, toList_blanks]
  simp

/-- A field starts with what spells its key, or with the mark of one. -/
theorem fieldAt_starts (indent other : Nat) (field : String × Value) (text : List Char) :
    (∃ key rest, Spells other (.text field.1) key ∧ EndsScalar (':' :: rest) ∧
      (freshLine (fieldAt indent field)).toList ++ text = key ++ ':' :: rest) ∨
    ∃ rest, (freshLine (fieldAt indent field)).toList ++ text = '?' :: ' ' :: rest := by
  cases simple : isSimpleKey field.1 with
  | true => exact .inl ⟨_, _, spells_key simple (indent + 2) other,
      endsScalar_afterColon indent field.2 text, fieldAt_simple simple text⟩
  | false =>
    refine .inr ?_
    rw [toList_freshLine, fieldAt, if_neg (by rw [simple]; exact Bool.false_ne_true), freshLine]
    split <;> exact ⟨_, by simp only [String.toList_append, List.append_assoc]; rfl⟩

/-- Fields begin lines that are no items. -/
theorem line_fieldAt (indent : Nat) (field : String × Value) (text : List Char) :
    ∃ c rest, c ≠ ' ' ∧ isBreak c = false ∧ (c = '-' → rest.head? ≠ some ' ') ∧
      lines indent [fieldAt indent field] ++ text = List.replicate indent ' ' ++ c :: rest := by
  rw [lines, List.flatMap_singleton, List.append_assoc]
  obtain ⟨key, rest, spells, ends, starts⟩ | ⟨rest, starts⟩ := fieldAt_starts indent 0 field text
  -- A field begins with its key, plain or in quotes, or with the mark of one.
  · rw [starts]
    obtain isWord | ⟨more, rfl | rfl⟩ := spells.cases_head
    · cases key with
      | nil => exact absurd rfl isWord.inhabited
      | cons c others =>
        have noBlank : c ≠ ' ' := by
          rintro rfl
          exact (isWord.noMark ' ' others rfl).1 List.mem_cons_self
        refine ⟨c, others ++ ':' :: rest, noBlank, isWord.noBreak c List.mem_cons_self, ?_, rfl⟩
        rintro rfl item
        cases next : others ++ ':' :: rest with
        | nil =>
          rw [next] at item
          cases item
        | cons d more =>
          rw [next] at item
          cases item
          exact spells.ne_mark ends (by decide) (congrArg (List.cons '-') next)
    · exact ⟨'\'', _, by decide, rfl, fun hyphen => absurd hyphen (by decide), rfl⟩
    · exact ⟨'"', _, by decide, rfl, fun hyphen => absurd hyphen (by decide), rfl⟩
  · rw [starts]
    exact ⟨'?', _, by decide, rfl, fun hyphen => absurd hyphen (by decide), rfl⟩

/-! ### Values are told apart -/

/-- Values that are told apart by what is written of them, on their own and after a colon. -/
structure Apart (first second : Value) : Prop where
  own : ∀ {outer inner : Nat} {x y : List Char}, 0 < inner → outer ≤ inner → Below outer x →
    Below outer y →
    (freshLine (blockAt outer inner first)).toList ++ x =
      (freshLine (blockAt outer inner second)).toList ++ y → first = second ∧ x = y
  field : ∀ {indent : Nat} {x y : List Char}, After indent x → After indent y →
    (freshLine (afterColon indent first)).toList ++ x =
      (freshLine (afterColon indent second)).toList ++ y → first = second ∧ x = y

/-- Values are apart whichever is named first. -/
theorem Apart.symm {first second : Value} (apart : Apart first second) : Apart second first where
  own deep inward before after same := by
    obtain ⟨rfl, rfl⟩ := apart.own deep inward after before same.symm
    exact ⟨rfl, rfl⟩
  field before after same := by
    obtain ⟨rfl, rfl⟩ := apart.field after before same.symm
    exact ⟨rfl, rfl⟩

/-- Items are read one by one: what begins the next one ends the one before. -/
theorem items_append_inj {indent : Nat} {firsts seconds : List Value}
    (writable : ∀ item ∈ firsts, Writable item) (too : ∀ item ∈ seconds, Writable item)
    (apart : ∀ first ∈ firsts, ∀ second ∈ seconds, Apart first second) {x y : List Char}
    (before : After indent x) (after : After indent y)
    (same : lines indent (firsts.map (itemAt indent)) ++ x =
      lines indent (seconds.map (itemAt indent)) ++ y) : firsts = seconds ∧ x = y := by
  -- Every item begins with the same mark, after the indentation of the list.
  have line (item : Value) (z : List Char) : ∃ rest,
      lines indent [itemAt indent item] ++ z =
        List.replicate indent ' ' ++ '-' :: ' ' :: rest := by
    obtain ⟨rest, starts⟩ := itemAt_starts indent item
    exact ⟨rest ++ z, by rw [lines, List.flatMap_singleton, starts, List.append_assoc]; rfl⟩
  have item {value : Value} (writable : Writable value) :
      (freshLine (itemAt indent value)).toList =
        '-' :: ' ' :: (freshLine (blockAt (indent + 2) (indent + 2) value)).toList := by
    rw [itemAt, inlineAt_eq, toList_freshLine_append _ (writable.toList_blockAt_ne_nil _ _)]
    rfl
  -- What comes after the list at this depth is below what is within the items.
  have stopped (z : List Char) (stop : After indent z) : Below (indent + 2) z :=
    stop.below (by omega)
  refine lines_append_inj ?_ ?_ stopped ?_ before after same
  · intro first isFirst second isSecond x y before after same
    rw [item (writable first isFirst), item (too second isSecond)] at same
    exact (apart first isFirst second isSecond).own (by omega) (Nat.le_refl _) before after
      (List.cons.inj (List.cons.inj same).2).2
  · intro value z
    obtain ⟨rest, starts⟩ := line value z
    rw [starts]
    exact .inr ⟨indent, '-', _, by omega, by decide, rfl, rfl⟩
  · intro value z stop
    obtain ⟨rest, starts⟩ := line value z
    rw [starts] at stop
    -- What comes after a list at its depth is no further item.
    obtain below | ⟨c, more, -, -, noItem, same⟩ := stop
    · exact below.ne_line rfl
    · obtain ⟨rfl, rfl⟩ := List.cons.inj (List.append_cancel_left same)
      exact noItem rfl rfl

/-- A field is read as its key and then its value. -/
theorem field_append_inj {indent : Nat} {first second : String × Value}
    (writable : Writable first.2) (too : Writable second.2) (apart : Apart first.2 second.2)
    {x y : List Char} (before : After indent x) (after : After indent y)
    (same : (freshLine (fieldAt indent first)).toList ++ x =
      (freshLine (fieldAt indent second)).toList ++ y) : first = second ∧ x = y := by
  -- A simple key does not begin as a marked one.
  have simple_ne_marked {field other : String × Value} {z w : List Char}
      (simple : isSimpleKey field.1 = true) (marked : isSimpleKey other.1 = false)
      (writable : Writable other.2) : (freshLine (fieldAt indent field)).toList ++ z ≠
        (freshLine (fieldAt indent other)).toList ++ w := by
    rw [fieldAt_simple simple, fieldAt_marked marked writable]
    exact (spells_key simple _ 0).ne_mark (endsScalar_afterColon indent field.2 z) (by decide)
  cases simple : isSimpleKey first.1 <;> cases alike : isSimpleKey second.1
  · rw [fieldAt_marked simple writable, fieldAt_marked alike too] at same
    have below (z : List Char) : Below (indent + 2) (List.replicate indent ' ' ++ ':' :: z) :=
      .inr ⟨indent, ':', z, by omega, by decide, rfl, rfl⟩
    obtain ⟨key, values⟩ := (Leaf.text first.1).append_inj (.text second.1) (by omega)
      (below _) (below _) (List.cons.inj (List.cons.inj same).2).2
    have onward := (List.cons.inj (List.cons.inj (List.append_cancel_left values)).2).2
    rw [inlineAt_eq, inlineAt_eq] at onward
    obtain ⟨value, rest⟩ := apart.own (by omega) (Nat.le_refl _) (before.below (by omega))
      (after.below (by omega)) onward
    exact ⟨Prod.ext (Value.text.inj key) value, rest⟩
  · exact absurd same.symm (simple_ne_marked alike simple writable)
  · exact absurd same (simple_ne_marked simple alike too)
  · rw [fieldAt_simple simple, fieldAt_simple alike] at same
    obtain ⟨key, values⟩ := (spells_key simple _ 0).append_inj (spells_key alike _ 0)
      (endsScalar_afterColon indent _ x) (endsScalar_afterColon indent _ y) same
    obtain ⟨value, rest⟩ := apart.field before after (List.cons.inj values).2
    exact ⟨Prod.ext (Value.text.inj key) value, rest⟩

/-- Fields are read one by one, as items are. -/
theorem fields_append_inj {indent : Nat} {firsts seconds : List (String × Value)}
    (writable : ∀ field ∈ firsts, Writable field.2) (too : ∀ field ∈ seconds, Writable field.2)
    (apart : ∀ first ∈ firsts, ∀ second ∈ seconds, Apart first.2 second.2) {x y : List Char}
    (before : Below indent x) (after : Below indent y)
    (same : lines indent (firsts.map (fieldAt indent)) ++ x =
      lines indent (seconds.map (fieldAt indent)) ++ y) : firsts = seconds ∧ x = y := by
  have next (field : String × Value) (z : List Char) :
      After indent (lines indent [fieldAt indent field] ++ z) := .inr (line_fieldAt indent field z)
  have stopped (z : List Char) (stop : Below indent z) : After indent z := .inl stop
  refine lines_append_inj ?_ next stopped ?_ before after same
  · intro first isFirst second isSecond x y before after same
    exact field_append_inj (writable first isFirst) (too second isSecond)
      (apart first isFirst second isSecond) before after same
  · intro field z stop
    obtain ⟨c, rest, -, -, -, starts⟩ := line_fieldAt indent field z
    exact stop.ne_line starts

theorem toList_freshLine_blockAt_list (outer inner : Nat) (item : Value) (rest : List Value) :
    List.replicate outer ' ' ++ (freshLine (blockAt outer inner (.list (item :: rest)))).toList =
      lines outer ((item :: rest).map (itemAt outer)) := by
  refine toList_freshLine_stack outer (List.cons_ne_nil _ _) ?_
  exact List.forall_mem_map.mpr fun item _ => toList_itemAt_ne_nil outer item

theorem toList_freshLine_blockAt_record (outer inner : Nat) (field : String × Value)
    (rest : List (String × Value)) :
    List.replicate outer ' ' ++ (freshLine (blockAt outer inner (.record (field :: rest)))).toList =
      lines outer ((field :: rest).map (fieldAt outer)) := by
  refine toList_freshLine_stack outer (List.cons_ne_nil _ _) ?_
  exact List.forall_mem_map.mpr fun field _ => toList_fieldAt_ne_nil outer field

theorem toList_freshLine_afterColon_list (indent : Nat) (item : Value) (rest : List Value) :
    (freshLine (afterColon indent (.list (item :: rest)))).toList =
      '\n' :: lines indent ((item :: rest).map (itemAt indent)) := by
  have inhabited := toList_stack_ne_nil indent (rest.map (itemAt indent))
    (toList_itemAt_ne_nil indent item)
  rw [← toList_freshLine_blockAt_list indent indent, afterColon, itemsAt_eq_map, List.map_cons,
    toList_freshLine_append _ inhabited, String.toList_append, toList_blanks]
  rfl

theorem toList_freshLine_afterColon_record (indent : Nat) (field : String × Value)
    (rest : List (String × Value)) :
    (freshLine (afterColon indent (.record (field :: rest)))).toList =
      '\n' :: lines (indent + 2) ((field :: rest).map (fieldAt (indent + 2))) := by
  have inhabited := toList_stack_ne_nil (indent + 2) (rest.map (fieldAt (indent + 2)))
    (toList_fieldAt_ne_nil (indent + 2) field)
  rw [← toList_freshLine_blockAt_record (indent + 2) indent, afterColon, fieldsAt_eq_map,
    List.map_cons, toList_freshLine_append _ inhabited, String.toList_append, toList_blanks]
  rfl

theorem Leaf.toList_freshLine_afterColon {value : Value} (leaf : Leaf value) (indent : Nat) :
    (freshLine (afterColon indent value)).toList =
      ' ' :: (freshLine (scalar (indent + 2) false value)).toList := by
  rw [leaf.afterColon_eq, toList_freshLine_append _ (leaf.toList_scalar_ne_nil _)]
  rfl

/-- Leaves are apart, as their scalars are. -/
theorem Apart.of_leaves {first second : Value} (leaf : Leaf first) (too : Leaf second) :
    Apart first second where
  own deep inward before after same := by
    rw [leaf.blockAt_eq, too.blockAt_eq] at same
    exact leaf.append_inj too deep (before.mono inward) (after.mono inward) same
  field before after same := by
    rw [leaf.toList_freshLine_afterColon, too.toList_freshLine_afterColon] at same
    exact leaf.append_inj too (by omega) (before.below (by omega)) (after.below (by omega))
      (List.cons.inj same).2

/-- Lists are apart if their items are. -/
theorem Apart.of_lists {item other : Value} {rest others : List Value}
    (writable : ∀ value ∈ item :: rest, Writable value)
    (too : ∀ value ∈ other :: others, Writable value)
    (apart : ∀ first ∈ item :: rest, ∀ second ∈ other :: others, Apart first second) :
    Apart (.list (item :: rest)) (.list (other :: others)) where
  own {outer inner x y} deep inward before after same := by
    -- The first item stands where the list does: with its indentation put back it is like the rest.
    have whole := congrArg (List.replicate outer ' ' ++ ·) same
    simp only [← List.append_assoc, toList_freshLine_blockAt_list] at whole
    obtain ⟨items, rest⟩ := items_append_inj writable too apart (.inl before) (.inl after) whole
    exact ⟨congrArg Value.list items, rest⟩
  field before after same := by
    rw [toList_freshLine_afterColon_list, toList_freshLine_afterColon_list] at same
    obtain ⟨items, rest⟩ := items_append_inj writable too apart before after
      (List.cons.inj same).2
    exact ⟨congrArg Value.list items, rest⟩

/-- Records are apart if their fields are. -/
theorem Apart.of_records {field other : String × Value} {rest others : List (String × Value)}
    (writable : ∀ value ∈ field :: rest, Writable value.2)
    (too : ∀ value ∈ other :: others, Writable value.2)
    (apart : ∀ first ∈ field :: rest, ∀ second ∈ other :: others, Apart first.2 second.2) :
    Apart (.record (field :: rest)) (.record (other :: others)) where
  own {outer inner x y} deep inward before after same := by
    have whole := congrArg (List.replicate outer ' ' ++ ·) same
    simp only [← List.append_assoc, toList_freshLine_blockAt_record] at whole
    obtain ⟨fields, rest⟩ := fields_append_inj writable too apart before after whole
    exact ⟨congrArg Value.record fields, rest⟩
  field before after same := by
    rw [toList_freshLine_afterColon_record, toList_freshLine_afterColon_record] at same
    obtain ⟨fields, rest⟩ := fields_append_inj writable too apart (before.below (by omega))
      (after.below (by omega)) (List.cons.inj same).2
    exact ⟨congrArg Value.record fields, rest⟩

/-! Values of different kinds start in different ways. -/

/-- No leaf begins as an item or a marked key does. -/
theorem Leaf.ne_mark {value : Value} (leaf : Leaf value) {indent : Nat} {mark : Char}
    (isMark : mark ∈ ['-', '?']) {x y : List Char} :
    (freshLine (scalar indent false value)).toList ++ x ≠ mark :: ' ' :: y := by
  obtain spells | ⟨content, -, -, block⟩ := leaf.scalar_cases indent
  · rw [spells.freshLine_eq, List.append_assoc]
    exact spells.ne_mark (.line x) isMark
  · rw [block, toList_freshLine_literal]
    intro same
    rw [← (List.cons.inj same).1] at isMark
    exact absurd isMark (by decide)

/-- No leaf begins as a field does, where a key is followed by a colon. -/
theorem Leaf.ne_fieldAt {value : Value} (leaf : Leaf value) {indent inner : Nat}
    {field : String × Value} {x y : List Char} :
    (freshLine (scalar inner false value)).toList ++ x ≠
      (freshLine (fieldAt indent field)).toList ++ y := by
  -- Where the field has a key, the scalar is compared with the key.
  obtain ⟨key, rest, key_spells, ends, starts⟩ | ⟨rest, starts⟩ :=
    fieldAt_starts indent inner field y
  · rw [starts]
    obtain spells | ⟨content, -, -, block⟩ := leaf.scalar_cases inner
    · rw [spells.freshLine_eq, List.append_assoc]
      intro same
      obtain ⟨-, rest⟩ := spells.append_inj key_spells (.line x) ends same
      cases (List.cons.inj rest).1
    · rw [block, toList_freshLine_literal]
      exact fun same => key_spells.ne_bar same.symm
  · rw [starts]
    exact leaf.ne_mark (by decide)

/-- No item begins as a field does. -/
theorem item_ne_fieldAt {indent : Nat} {field : String × Value} {x y : List Char} :
    '-' :: ' ' :: x ≠ (freshLine (fieldAt indent field)).toList ++ y := by
  obtain ⟨key, rest, spells, ends, starts⟩ | ⟨rest, starts⟩ := fieldAt_starts indent 0 field y
  · rw [starts]
    exact fun same => spells.ne_mark ends (by decide) same.symm
  · rw [starts]
    exact fun same => absurd (List.cons.inj same).1 (by decide)

theorem blockAt_list_starts (outer inner : Nat) (item : Value) (rest : List Value)
    (text : List Char) : ∃ more,
    (freshLine (blockAt outer inner (.list (item :: rest)))).toList ++ text =
      '-' :: ' ' :: more := by
  obtain ⟨more, starts⟩ := itemAt_starts outer item
  have whole := toList_freshLine_blockAt_list outer inner item rest
  rw [List.map_cons, lines, List.flatMap_cons, List.append_assoc, starts] at whole
  rw [List.append_cancel_left whole]
  exact ⟨_, rfl⟩

theorem blockAt_record_starts (outer inner : Nat) (field : String × Value)
    (rest : List (String × Value)) (text : List Char) : ∃ more,
    (freshLine (blockAt outer inner (.record (field :: rest)))).toList ++ text =
      (freshLine (fieldAt outer field)).toList ++ more := by
  have whole := toList_freshLine_blockAt_record outer inner field rest
  rw [List.map_cons, lines, List.flatMap_cons, List.append_assoc] at whole
  rw [List.append_cancel_left whole, List.append_assoc]
  exact ⟨_, rfl⟩

theorem Apart.of_leaf_list {value item : Value} {rest : List Value} (leaf : Leaf value) :
    Apart value (.list (item :: rest)) where
  own {outer inner x y} _ _ _ _ same := by
    obtain ⟨more, starts⟩ := blockAt_list_starts outer inner item rest y
    rw [leaf.blockAt_eq, starts] at same
    exact absurd same (leaf.ne_mark (by decide))
  field _ _ same := by
    rw [leaf.toList_freshLine_afterColon, toList_freshLine_afterColon_list] at same
    cases (List.cons.inj same).1

theorem Apart.of_leaf_record {value : Value} {field : String × Value}
    {rest : List (String × Value)} (leaf : Leaf value) :
    Apart value (.record (field :: rest)) where
  own {outer inner x y} _ _ _ _ same := by
    obtain ⟨more, starts⟩ := blockAt_record_starts outer inner field rest y
    rw [leaf.blockAt_eq, starts] at same
    exact absurd same leaf.ne_fieldAt
  field _ _ same := by
    rw [leaf.toList_freshLine_afterColon, toList_freshLine_afterColon_record] at same
    cases (List.cons.inj same).1

/-- Lists and records are apart. -/
theorem Apart.of_list_record {item : Value} {items : List Value} {field : String × Value}
    {fields : List (String × Value)} :
    Apart (.list (item :: items)) (.record (field :: fields)) where
  -- At the beginning of a line the dash tells them apart.
  own {outer inner x y} _ _ _ _ same := by
    obtain ⟨more, starts⟩ := blockAt_list_starts outer inner item items x
    obtain ⟨others, begins⟩ := blockAt_record_starts outer inner field fields y
    rw [starts, begins] at same
    exact absurd same item_ne_fieldAt
  -- After a colon the fields are indented deeper than the items.
  field {indent x y} _ _ same := by
    obtain ⟨more, starts⟩ := itemAt_starts indent item
    rw [toList_freshLine_afterColon_list, toList_freshLine_afterColon_record, List.map_cons,
      List.map_cons, lines, lines, List.flatMap_cons, List.flatMap_cons, starts,
      List.replicate_add] at same
    simp only [List.cons_append, List.append_assoc] at same
    cases (List.cons.inj (List.append_cancel_left (List.cons.inj same).2)).1

/-- All values that stand in documents are told apart. -/
theorem Writable.apart {first second : Value} (writable : Writable first)
    (too : Writable second) : Apart first second := by
  -- By induction on the first value; the parts of the second are arbitrary all along.
  induction writable generalizing second with
  | leaf leaf =>
    cases too with
    | leaf too => exact .of_leaves leaf too
    | list each => exact .of_leaf_list leaf
    | record each => exact .of_leaf_record leaf
  | list each ih =>
    cases too with
    | leaf too => exact (Apart.of_leaf_list too).symm
    | list others =>
      exact .of_lists each others fun item member other isOther =>
        ih item member (others other isOther)
    | record others => exact .of_list_record
  | record each ih =>
    cases too with
    | leaf too => exact (Apart.of_leaf_record too).symm
    | list others => exact Apart.of_list_record.symm
    | record others =>
      exact .of_records each others fun field member other isOther =>
        ih field member (others other isOther)

/-- The printer loses nothing of a value that stands in a document. -/
theorem print_inj {first second : Value} (writable : Writable first) (too : Writable second)
    (same : print first = print second) : first = second := by
  have texts := congrArg String.toList same
  rw [print_eq, print_eq, ← List.append_nil (String.toList _),
    ← List.append_nil (freshLine (blockAt 0 2 second)).toList] at texts
  exact ((writable.apart too).own (by decide) (by decide) (.inl rfl) (.inl rfl) texts).1

end CloudSpace.Yaml
