import CloudSpace.Files
import Mathlib.Data.List.Find
import Mathlib.Data.List.Infix

/-!
# Where a search for a document leads

The search drops one name of the path after the other and never looks at where it stands. So it
goes through the directories that the first names of the path lead to, and these are the ones
around the start only as far as its names go: from a relative start nothing above the working
directory is ever looked into.
-/
namespace CloudSpace

namespace FilePath

/-! ### Names along a path -/

/-- The parts of a path that lead on: a part that is empty or a dot stays where it is. -/
def leading (path : List Char) : List (List Char) :=
  (path.splitOn '/').filter fun part => part ≠ [] ∧ part ≠ ['.']

/-- The names along a path. -/
def names (path : String) : List String := (leading path.toList).map String.ofList

/-- Whether a path starts at the root and not at the working directory. -/
def isAbsolute (path : String) : Bool := path.toList.head? = some '/'

/-- A name that leads on by itself. -/
structure Single (name : String) : Prop where
  noSeparator : '/' ∉ name.toList
  nonempty : name.toList ≠ []
  noDot : name.toList ≠ ['.']

@[simp] theorem leading_nil : leading [] = [] := rfl

theorem leading_append (directory name : List Char) :
    leading (directory ++ '/' :: name) = leading directory ++ leading name := by
  rw [leading, List.splitOn_append_cons_self, List.filter_append]
  rfl

theorem leading_concat_separator (path : List Char) : leading (path ++ ['/']) = leading path := by
  rw [leading_append, leading_nil, List.append_nil]

theorem length_leading_le_one {part : List Char} (single : '/' ∉ part) :
    (leading part).length ≤ 1 := by
  rw [leading, List.splitOn_eq_singleton single]
  exact List.length_filter_le _ _

/-! ### The directory around a path -/

theorem leading_trimmedBackward (path : List Char) :
    leading (trimmedBackward path).reverse = leading path.reverse := by
  fun_induction trimmedBackward path with
  | case1 => rfl
  | case2 rest _ ih => rw [ih, List.reverse_cons, leading_concat_separator]
  | case3 rest ih =>
    have dropped : leading (rest.reverse ++ ['/', '.']) = leading rest.reverse := by
      rw [leading_append]
      exact List.append_nil _
    rw [ih, List.reverse_cons, leading_concat_separator, List.reverse_cons, List.reverse_cons,
      List.append_assoc, List.singleton_append, dropped]
  | case4 => rfl

theorem getLast?_trimmedBackward (path : List Char) :
    (trimmedBackward path).getLast? = path.getLast? := by
  fun_induction trimmedBackward path with
  | case1 => rfl
  | case2 rest more ih =>
    cases rest with
    | nil => exact absurd rfl more
    | cons next rest => rw [ih, List.getLast?_cons_cons]
  | case3 rest ih => rw [ih, List.getLast?_cons_cons]
  | case4 => rfl

/-- What is left of a path begins with a name, unless nothing or the root is left. -/
theorem trimmedBackward_begins {path rest : List Char}
    (trimmed : trimmedBackward path = '/' :: rest) : rest = [] := by
  fun_induction trimmedBackward path with
  | case1 => exact (List.cons.inj trimmed).2.symm
  | case2 rest _ ih => exact ih trimmed
  | case3 rest ih => exact ih trimmed
  | case4 path _ separator _ => exact absurd trimmed (separator _)

/-- Without what stands after its last separator, a path has lost one name at most. -/
theorem leading_dropWhile (backward : List Char) :
    ∃ last, last.length ≤ 1 ∧ leading backward.reverse =
      leading (backward.dropWhile (· != '/')).reverse ++ last := by
  have single : '/' ∉ (backward.takeWhile (· != '/')).reverse := fun member => by
    have passed := List.all_eq_true.mp List.all_takeWhile '/' (List.mem_reverse.mp member)
    simp at passed
  have parts := List.takeWhile_append_dropWhile (p := (· != '/')) (l := backward)
  have stopped := List.head?_dropWhile_not (· != '/') backward
  generalize backward.takeWhile (· != '/') = last, backward.dropWhile (· != '/') = after at *
  refine ⟨leading last.reverse, length_leading_le_one single, ?_⟩
  -- Behind the last name there is nothing, or a separator that parts it from the rest.
  cases after with
  | nil => rw [← parts, List.append_nil, List.reverse_nil, leading_nil, List.nil_append]
  | cons next rest =>
    have separator : next = '/' := by simpa using stopped
    rw [← parts, separator, List.reverse_append, List.reverse_cons, List.append_assoc,
      List.singleton_append, leading_append, leading_concat_separator]

theorem getLast?_dropWhile (backward : List Char) :
    (backward.dropWhile (· != '/')).getLast? = some '/' ↔ backward.getLast? = some '/' := by
  induction backward with
  | nil => rfl
  | cons next rest ih =>
    by_cases separator : next = '/'
    · simp [separator]
    · rw [List.dropWhile_cons_of_pos (by simpa using separator), ih]
      cases rest with
      | nil => simp [separator]
      | cons => rw [List.getLast?_cons_cons]

theorem isAbsolute_ofList (path : List Char) :
    isAbsolute (String.ofList path) = decide (path.reverse.getLast? = some '/') := by
  rw [isAbsolute, String.toList_ofList, List.getLast?_reverse]

/-- There is a directory around a path unless, without what stands for nothing, nothing or the
root is left. -/
theorem parent?_cases (path : String) :
    (parent? path = none ∧ leading path.toList = []) ∨
      ∃ next rest, trimmedBackward path.toList.reverse = next :: rest ∧ next ≠ '/' ∧
        parent? path = some (String.ofList
          (trimmedBackward ((next :: rest).dropWhile (· != '/'))).reverse) := by
  have kept := leading_trimmedBackward path.toList.reverse
  rw [List.reverse_reverse] at kept
  -- What is left of the path is nothing, or the root, or it ends with a name.
  cases left : trimmedBackward path.toList.reverse with
  | nil => exact .inl ⟨by simp only [parent?, left], by rw [← kept, left]; rfl⟩
  | cons next rest =>
    by_cases separator : next = '/'
    · subst separator
      cases trimmedBackward_begins left
      exact .inl ⟨by simp only [parent?, left], by rw [← kept, left]; rfl⟩
    · refine .inr ⟨next, rest, rfl, separator, ?_⟩
      simp only [parent?, left]
      split
      · contradiction
      · exact absurd (List.cons.inj ‹_›).1 separator
      · rfl

/-- One step upward drops one name at most, and the path starts where it did. -/
theorem of_parent? {path parent : String} (around : parent? path = some parent) :
    parent.length < path.length ∧ isAbsolute parent = isAbsolute path ∧
      (names path = names parent ∨ ∃ name, names path = names parent ++ [name]) := by
  have shorter := length_trimmedBackward_le path.toList.reverse
  have kept := leading_trimmedBackward path.toList.reverse
  have ended := getLast?_trimmedBackward path.toList.reverse
  obtain ⟨none, -⟩ | ⟨next, rest, left, named, some⟩ := parent?_cases path
  · cases around.symm.trans none
  cases around.symm.trans some
  rw [left] at shorter kept ended
  have dropped : (next :: rest).dropWhile (· != '/') = rest.dropWhile (· != '/') :=
    List.dropWhile_cons_of_pos (by simpa using named)
  refine ⟨?_, ?_, ?_⟩
  -- The directory around is shorter, since at least the one character of the name is missing.
  · have inner := length_trimmedBackward_le (rest.dropWhile (· != '/'))
    have after := (List.dropWhile_suffix (l := rest) (· != '/')).length_le
    rw [dropped, String.length_ofList, List.length_reverse]
    simp only [List.length_cons, List.length_reverse, String.length_toList] at shorter
    omega
  -- It starts where the path did, because its beginning is the same.
  · rw [isAbsolute_ofList, List.reverse_reverse, getLast?_trimmedBackward]
    simp only [getLast?_dropWhile, ended, List.getLast?_reverse]
    rfl
  -- And it leads through the same names but the last, unless what is missing leads nowhere.
  · obtain ⟨last, single, split⟩ := leading_dropWhile (next :: rest)
    rw [kept, List.reverse_reverse] at split
    simp only [names, String.toList_ofList, leading_trimmedBackward, split, List.map_append]
    match last, single with
    | [], _ => exact .inl (List.append_nil _)
    | [name], _ => exact .inr ⟨String.ofList name, rfl⟩

theorem names_eq_nil_of_parent? {path : String} (outermost : parent? path = none) :
    names path = [] := by
  obtain ⟨-, nothing⟩ | ⟨_, _, _, _, some⟩ := parent?_cases path
  · rw [names, nothing, List.map_nil]
  · cases outermost.symm.trans some

/-! ### Going upward -/

theorem inits_concat_reverse (names : List String) (name : String) :
    (names ++ [name]).inits.reverse = (names ++ [name]) :: names.inits.reverse := by
  simp [List.inits_append]

/-- All the names come first among the first names of a path. -/
theorem findSome?_inits_reverse {α : Type} (find? : List String → Option α)
    (names : List String) :
    names.inits.reverse.findSome? find? =
      (find? names).or (names.inits.reverse.findSome? find?) := by
  have first : ∃ shorter, names.inits.reverse = names :: shorter := by
    cases List.eq_nil_or_concat' names with
    | inl nothing => exact ⟨[], by rw [nothing]; rfl⟩
    | inr more =>
      obtain ⟨before, last, rfl⟩ := more
      exact ⟨_, inits_concat_reverse before last⟩
  obtain ⟨shorter, first⟩ := first
  rw [first, List.findSome?_cons]
  cases find? names <;> rfl

/-- What is found first on the way upward is what is found first at the first names of the path,
as long as it depends on nothing else. -/
theorem findSome?_upward {α : Type} (find? : Bool → List String → Option α) (path : String) :
    (upward path).findSome? (fun directory => find? (isAbsolute directory) (names directory)) =
      (names path).inits.reverse.findSome? (find? (isAbsolute path)) := by
  -- A path has no more directories around it than characters, so that the steps never run out.
  suffices bounded : ∀ steps, ∀ path : String, path.length ≤ steps →
      (path :: ancestors path steps).findSome?
          (fun directory => find? (isAbsolute directory) (names directory)) =
        (names path).inits.reverse.findSome? (find? (isAbsolute path)) from
    bounded path.length path (Nat.le_refl _)
  intro steps
  -- By induction on the steps that are left, over all paths that are short enough for them.
  induction steps with
  | zero =>
    intro path short
    cases around : parent? path with
    | some parent => exact absurd (of_parent? around).1 (by omega)
    | none =>
      rw [names_eq_nil_of_parent? around, ancestors, List.findSome?_cons,
        names_eq_nil_of_parent? around]
      rfl
  | succ steps ih =>
    intro path short
    cases around : parent? path with
    | none =>
      rw [names_eq_nil_of_parent? around, ancestors, around, List.findSome?_cons,
        names_eq_nil_of_parent? around]
      rfl
    | some parent =>
      obtain ⟨shorter, start, along⟩ := of_parent? around
      have above := ih parent (by omega)
      rw [ancestors, around, List.findSome?_cons, above, start]
      -- The directory around has the same names, in which case the search is repeated to no effect,
      -- or one less.
      obtain same | ⟨name, more⟩ := along
      · rw [same, findSome?_inits_reverse]
        cases find? (isAbsolute path) (names parent) <;> rfl
      · rw [more, inits_concat_reverse, List.findSome?_cons]

/-! ### Within a directory -/

theorem Single.leading_eq {name : String} (single : Single name) :
    leading name.toList = [name.toList] := by
  rw [leading, List.splitOn_eq_singleton single.noSeparator]
  simp [single.nonempty, single.noDot]

theorem Single.join_eq {name : String} (single : Single name) (directory : String) :
    (directory = "" ∧ join directory name = name) ∨
    (['/'] <:+ directory.toList ∧ join directory name = directory ++ name) ∨
      (directory ≠ "" ∧ join directory name = directory ++ "/" ++ name) := by
  -- What starts with a separator would replace the directory, but a single name has none.
  have relative : ¬name.startsWith "/" = true := by
    rw [← String.startsWith_toSlice, String.Slice.startsWith_string_iff]
    intro starts
    have begins : ['/'] <+: name.toList := by simpa using starts
    exact single.noSeparator (begins.subset (List.mem_singleton_self _))
  rw [join, if_neg relative]
  by_cases empty : directory = ""
  · subst empty
    exact .inl ⟨rfl, String.empty_append⟩
  · have inhabited : directory.isEmpty = false := by simpa using empty
    by_cases ends : directory.endsWith "/" = true
    · rw [if_pos (by rw [ends, Bool.or_true])]
      rw [← String.endsWith_toSlice, String.Slice.endsWith_string_iff] at ends
      refine .inr (.inl ⟨?_, rfl⟩)
      simpa using ends
    · rw [if_neg (by rw [inhabited, Bool.false_or]; exact ends)]
      exact .inr (.inr ⟨empty, rfl⟩)

theorem leading_join (directory : String) {name : String} (single : Single name) :
    leading (join directory name).toList = leading directory.toList ++ [name.toList] := by
  obtain ⟨rfl, joined⟩ | ⟨⟨path, ends⟩, joined⟩ | ⟨-, joined⟩ :=
    single.join_eq directory
  · rw [joined, single.leading_eq]
    rfl
  · rw [joined, String.toList_append, ← ends, List.append_assoc, List.singleton_append,
      leading_append, leading_concat_separator, single.leading_eq]
  · rw [joined, String.toList_append, String.toList_append, List.append_assoc]
    exact (leading_append _ _).trans (congrArg _ single.leading_eq)

theorem names_join (directory : String) {name : String} (single : Single name) :
    names (join directory name) = names directory ++ [name] := by
  rw [names, leading_join directory single, List.map_append, List.map_singleton,
    String.ofList_toList]
  rfl

theorem isAbsolute_join (directory : String) {name : String} (single : Single name) :
    isAbsolute (join directory name) = isAbsolute directory := by
  -- The directory is empty, ends with a separator, or has one put behind it.
  obtain ⟨rfl, joined⟩ | ⟨⟨path, ends⟩, joined⟩ | ⟨inhabited, joined⟩ :=
    single.join_eq directory
  · rw [joined, isAbsolute, isAbsolute]
    -- A single name has no separator, hence does not start with one.
    have relative : name.toList.head? ≠ some '/' := fun starts =>
      single.noSeparator (List.mem_of_mem_head? starts)
    simpa using relative
  · have inhabited : directory.toList ≠ [] := by simp [← ends]
    rw [joined, isAbsolute, isAbsolute, String.toList_append,
      List.head?_append_of_ne_nil _ inhabited]
  · have inhabited : directory.toList ≠ [] := by simpa using inhabited
    rw [joined, isAbsolute, isAbsolute, String.toList_append, String.toList_append,
      List.append_assoc, List.head?_append_of_ne_nil _ inhabited]

end FilePath

/-! ### File systems -/

/-- What paths lead through: places, and where each name leads from a place. Two dots lead to the
directory around a place, and from the root back to the root. -/
structure FileSystem where
  Place : Type
  root : Place
  entry : Place → Entry
  within? : Place → String → Option Place
  above_root : within? root ".." = some root

namespace FileSystem

variable (files : FileSystem)

/-- Where names lead, one within the other. -/
def reach? (place : files.Place) (names : List String) : Option files.Place :=
  names.foldlM files.within? place

/-- Where a path starts, for a working directory. -/
def base (current : files.Place) (path : String) : files.Place :=
  if FilePath.isAbsolute path then files.root else current

/-- The place that a path leads to, for a working directory. -/
def at? (current : files.Place) (path : String) : Option files.Place :=
  files.reach? (files.base current path) (FilePath.names path)

/-- What a path leads to, for a working directory. The empty path leads nowhere. -/
def entryAt? (current : files.Place) (path : String) : Option Entry :=
  if path = "" then none else (files.at? current path).map files.entry

/-- The place that a path leads to without its last names. -/
def along? (current : files.Place) (path : String) (levels : Nat) : Option files.Place :=
  files.reach? (files.base current path)
    ((FilePath.names path).take ((FilePath.names path).length - levels))

/-- The directory some levels above a place. -/
def above? (place : files.Place) (levels : Nat) : Option files.Place :=
  files.reach? place (List.replicate levels "..")

/-- The name of the document that a directory holds, the preferred one of several. -/
def document? (place : files.Place) : Option String :=
  Document.fileNames.find? fun name => (files.within? place name).isSome

/-- The name of the document in the directory that a path leads to without its last names. -/
def documentAlong? (current : files.Place) (path : String) (levels : Nat) : Option String :=
  (files.along? current path levels).bind files.document?

/-- Names that lead down to a place: from each place on the way the next name leads to a place
that is directly within. -/
inductive Descends : files.Place → List String → files.Place → Prop
  | here (place : files.Place) : Descends place [] place
  | step {place inner last : files.Place} {name : String} {names : List String}
      (leads : files.within? place name = some inner)
      (around : files.within? inner ".." = some place) (rest : Descends inner names last) :
      Descends place (name :: names) last

/-- What a table says is at the end of names, the last one first. The root is a directory. -/
def listed (table : List (List String × Entry)) : List String → Entry
  | [] => .directory
  | place => (table.lookup place).getD .directory

/-- The file system of a table of all there is, by the names that lead there from the root, the
last one first. -/
def ofTable (table : List (List String × Entry)) : FileSystem where
  Place := List String
  root := []
  entry := listed table
  within? place name :=
    if listed table place = .directory then
      if name = ".." then some place.tail
      else if (table.lookup (name :: place)).isSome then some (name :: place) else none
    else none
  above_root := rfl

variable {files}

theorem reach?_concat (place : files.Place) (names : List String) (name : String) :
    files.reach? place (names ++ [name]) =
      (files.reach? place names).bind (files.within? · name) := by
  rw [reach?, List.foldlM_append]
  simp only [List.foldlM_cons, List.foldlM_nil, bind_pure]
  rfl

theorem above?_succ (place : files.Place) (levels : Nat) :
    files.above? place (levels + 1) = (files.above? place levels).bind (files.within? · "..") := by
  rw [above?, List.replicate_succ', reach?_concat]
  rfl

/-- Without its last names, a path that descends to a place leads to the directories above. -/
theorem Descends.reach?_take {place last : files.Place} {names : List String}
    (descends : files.Descends place names last) :
    ∀ levels ≤ names.length,
      files.reach? place (names.take (names.length - levels)) = files.above? last levels := by
  -- By induction on the way down, of which each step has the place before it around the next.
  induction descends with
  | here place =>
    intro levels none
    cases Nat.le_zero.mp none
    rfl
  | @step place inner last name names leads around rest ih =>
    have onward (onward : List String) :
        files.reach? place (name :: onward) = files.reach? inner onward := by
      rw [reach?, List.foldlM_cons, leads]
      rfl
    intro levels within
    rw [List.length_cons] at within ⊢
    -- All levels are gone up, so that the start is reached, or there is a first name to keep.
    by_cases all : levels = names.length + 1
    · have outer := ih names.length (Nat.le_refl _)
      rw [Nat.sub_self, List.take_zero] at outer
      rw [all, above?_succ, ← outer, Nat.sub_self, List.take_zero]
      exact around.symm
    · rw [show names.length + 1 - levels = names.length - levels + 1 by omega,
        List.take_succ_cons, onward, ih levels (by omega)]

/-- From the root on, two dots lead nowhere else. -/
theorem above?_of_le {place : files.Place} {top levels : Nat}
    (reached : files.above? place top = some files.root) (beyond : top ≤ levels) :
    files.above? place levels = some files.root := by
  induction levels, beyond using Nat.le_induction with
  | base => exact reached
  | succ levels _ ih =>
    rw [above?_succ, ih]
    exact files.above_root

end FileSystem

/-! ### The search -/

namespace Document

open FilePath

variable {files : FileSystem} {current : files.Place} {start : String}

theorem single_of_mem_fileNames {name : String} (member : name ∈ fileNames) : Single name := by
  have each : ∀ name ∈ fileNames,
      '/' ∉ name.toList ∧ name.toList ≠ [] ∧ name.toList ≠ ['.'] := by
    decide
  exact ⟨(each name member).1, (each name member).2.1, (each name member).2.2⟩

theorem isSome_entryAt?_join (directory : String) {name : String} (single : Single name) :
    (files.entryAt? current (join directory name)).isSome =
      ((files.at? current directory).bind (files.within? · name)).isSome := by
  have inhabited : join directory name ≠ "" := fun empty => by
    have along := names_join directory single
    rw [empty] at along
    exact List.append_ne_nil_of_right_ne_nil _ (List.cons_ne_nil _ _) along.symm
  rw [FileSystem.entryAt?, if_neg inhabited, Option.isSome_map, FileSystem.at?,
    names_join directory single, FileSystem.reach?_concat, FileSystem.base,
    isAbsolute_join directory single]
  rfl

/-- In one directory, the search comes upon the document that the directory holds. -/
theorem find?_fileNames (directory : String) :
    (fileNames.map (join directory)).find? (fun path => (files.entryAt? current path).isSome) =
      ((files.at? current directory).bind files.document?).map (join directory) := by
  have each (name : String) (member : name ∈ fileNames) :=
    @isSome_entryAt?_join files current directory name (single_of_mem_fileNames member)
  rw [List.find?_map]
  congr 1
  -- A directory that is nowhere holds no document.
  cases reached : files.at? current directory with
  | none =>
    refine List.find?_eq_none.mpr fun name member found => ?_
    rw [Function.comp_apply, each name member, reached] at found
    cases found
  | some place =>
    rw [Option.bind_some, FileSystem.document?]
    refine List.find?_congr fun name member => ?_
    rw [Function.comp_apply, each name member, reached, Option.bind_some]

/-- Where the search ends: at the longest of the first names of the path that lead to a directory
with a document. -/
theorem find?_candidates (start : String) :
    ((candidates start).find? fun path => (files.entryAt? current path).isSome).map
        (fun path => (isAbsolute path, names path)) =
      (names start).inits.reverse.findSome? fun first =>
        ((files.reach? (files.base current start) first).bind files.document?).map
          fun name => (isAbsolute start, first ++ [name]) := by
  -- A candidate in a directory is its name, appended to the directory.
  have along (directory : String) :
      (((files.at? current directory).bind files.document?).map (join directory)).map
          (fun path => (isAbsolute path, names path)) =
        ((files.at? current directory).bind files.document?).map
          fun name => (isAbsolute directory, names directory ++ [name]) := by
    rw [Option.map_map]
    refine Option.map_congr fun name held => ?_
    obtain ⟨place, -, held⟩ := Option.bind_eq_some_iff.mp held
    have single := single_of_mem_fileNames (List.mem_of_find?_eq_some held)
    rw [Function.comp_apply, isAbsolute_join directory single, names_join directory single]
  rw [candidates, List.find?_flatMap, List.map_findSome?]
  -- The directories upward are the prefixes of the names, the longest first.
  have upward := findSome?_upward (fun absolute first =>
    ((files.reach? (if absolute then files.root else current) first).bind files.document?).map
      fun name => (absolute, first ++ [name])) start
  refine Eq.trans ?_ upward
  congr 1
  funext directory
  rw [Function.comp_apply, find?_fileNames, along]
  rfl

theorem inits_reverse_eq (names : List String) :
    names.inits.reverse =
      (List.range (names.length + 1)).map fun levels => names.take (names.length - levels) := by
  refine List.ext_getElem (by simp) fun levels _ _ => ?_
  simp

/-- What is found first among levels is found at the least of them where there is anything. -/
theorem of_findSome?_range {α : Type} {find? : Nat → Option α} {levels : Nat} {found : α}
    (first : (List.range levels).findSome? find? = some found) :
    ∃ level < levels, find? level = some found ∧ ∀ nearer < level, find? nearer = none := by
  obtain ⟨before, level, after, range, here, nothing⟩ := List.findSome?_eq_some_iff.mp first
  rw [List.range_eq_range'] at range
  obtain ⟨passed, -, rfl, rest⟩ := List.range'_eq_append_iff.mp range
  obtain ⟨rfl, more, -⟩ := List.range'_eq_cons_iff.mp rest.symm
  refine ⟨_, by omega, here, fun nearer below => nothing nearer ?_⟩
  simpa using below

/-- The directories around a start that a search goes through: up to the root from an absolute
start, and as far as the names of a relative start go. -/
def Searched (start : String) (levels : Nat) : Prop :=
  isAbsolute start = true ∨ levels ≤ (names start).length

/-- Where the names of a start lead down to a place, the search goes through the directories around
the place. -/
theorem along?_eq_above? {place : files.Place}
    (descends : files.Descends (files.base current start) (names start) place) {levels : Nat}
    (searched : Searched start levels) :
    files.along? current start levels = files.above? place levels := by
  by_cases within : levels ≤ (names start).length
  · exact descends.reach?_take levels within
  · have absolute := searched.resolve_right within
    have top := descends.reach?_take _ (Nat.le_refl _)
    rw [Nat.sub_self, List.take_zero, FileSystem.base, if_pos absolute] at top
    rw [FileSystem.above?_of_le top.symm (by omega), FileSystem.along?,
      Nat.sub_eq_zero_of_le (by omega), List.take_zero, FileSystem.base, if_pos absolute]
    rfl

theorem find_eq_ok_iff {entryAt? : String → Option Entry} {path : String} :
    find entryAt? start = .ok path ↔
      ((candidates start).find? fun path => (entryAt? path).isSome) = some path := by
  rw [find]
  cases (candidates start).find? fun path => (entryAt? path).isSome <;> simp [found]

/-- Without a document the error names the preferred one in the start. -/
theorem eq_notFound_of_find {entryAt? : String → Option Entry} {error : Error}
    (failed : find entryAt? start = .error error) :
    error = notFound (join start defaultName) := by
  rw [find] at failed
  cases searched : (candidates start).find? fun path => (entryAt? path).isSome with
  | none =>
    rw [searched] at failed
    exact (Except.error.inj failed).symm
  | some path =>
    rw [searched] at failed
    cases failed

/-- A search without an end has come upon no document in any directory it goes through. -/
theorem documentAlong?_of_find?_none
    (missed : (candidates start).find? (fun path => (files.entryAt? current path).isSome) = none)
    (levels : Nat) : files.documentAlong? current start levels = none := by
  have ended := @find?_candidates files current start
  rw [missed, Option.map_none, inits_reverse_eq, List.findSome?_map] at ended
  have bounded : min levels (names start).length ∈ List.range ((names start).length + 1) :=
    List.mem_range.mpr (by omega)
  have here := List.findSome?_eq_none_iff.mp ended.symm _ bounded
  rw [Function.comp_apply, Option.map_eq_none_iff,
    show (names start).length - min levels (names start).length =
      (names start).length - levels by omega] at here
  exact here

/-- A search ends in the nearest directory that holds a document. -/
theorem nearest_of_find {path : String}
    (returned : find (files.entryAt? current) start = .ok path) :
    ∃ levels name, Searched start levels ∧
      files.documentAlong? current start levels = some name ∧
      (∀ nearer < levels, files.documentAlong? current start nearer = none) ∧
      files.at? current path = (files.along? current start levels).bind (files.within? · name) ∧
      isAbsolute path = isAbsolute start ∧
      names path = (names start).take ((names start).length - levels) ++ [name] := by
  have ended := @find?_candidates files current start
  rw [find_eq_ok_iff.mp returned, Option.map_some, inits_reverse_eq, List.findSome?_map] at ended
  obtain ⟨levels, within, here, before⟩ := of_findSome?_range ended.symm
  obtain ⟨name, held, route⟩ := Option.map_eq_some_iff.mp here
  obtain ⟨absolute, along⟩ := Prod.mk.inj route
  refine ⟨levels, name, .inr (by omega), held, fun nearer below =>
    Option.map_eq_none_iff.mp (before nearer below), ?_, absolute.symm, along.symm⟩
  rw [FileSystem.at?, FileSystem.base, ← absolute, ← along, FileSystem.reach?_concat]
  rfl

theorem exists_find_iff :
    (∃ path, find (files.entryAt? current) start = .ok path) ↔
      ∃ levels, Searched start levels ∧ (files.documentAlong? current start levels).isSome := by
  constructor
  · rintro ⟨path, returned⟩
    obtain ⟨levels, name, searched, held, -⟩ := nearest_of_find returned
    exact ⟨levels, searched, Option.isSome_of_eq_some held⟩
  · rintro ⟨levels, -, holds⟩
    cases searched : (candidates start).find? fun path => (files.entryAt? current path).isSome with
    | some path => exact ⟨path, find_eq_ok_iff.mpr searched⟩
    | none =>
      rw [documentAlong?_of_find?_none searched levels] at holds
      cases holds

/-- The search succeeds just when one of the directories that the first names of the start lead to
holds a document, and then ends at the nearest of these, with the preferred name. Without a document
the error names the preferred one in the start. Where the names lead down to a place, these are the
directories around the place, as far as the search goes. -/
theorem find_nearest (files : FileSystem) (current : files.Place) (start : String) :
    ((∃ path, find (files.entryAt? current) start = .ok path) ↔
      ∃ levels, Searched start levels ∧ (files.documentAlong? current start levels).isSome) ∧
    (∀ path, find (files.entryAt? current) start = .ok path →
      ∃ levels name, Searched start levels ∧
        files.documentAlong? current start levels = some name ∧
        (∀ nearer < levels, files.documentAlong? current start nearer = none) ∧
        files.at? current path = (files.along? current start levels).bind (files.within? · name) ∧
        isAbsolute path = isAbsolute start ∧
        names path = (names start).take ((names start).length - levels) ++ [name]) ∧
    (∀ error, find (files.entryAt? current) start = .error error →
      error = notFound (join start defaultName)) ∧
    ∀ place, files.Descends (files.base current start) (names start) place →
      ∀ levels, Searched start levels →
        files.along? current start levels = files.above? place levels :=
  ⟨exists_find_iff, fun _ => nearest_of_find, fun _ => eq_notFound_of_find,
    fun _ descends _ => along?_eq_above? descends⟩

/-- From a directory below, the document beside it is found by its second name. -/
theorem find_nearest_from_root :
    let files := FileSystem.ofTable [(["srv"], .directory), (["cfconverge.yml", "srv"], .file []),
      (["app", "srv"], .directory)]
    files.Descends (files.base ["srv"] "/srv/app") (names "/srv/app") ["app", "srv"] ∧
      ∃ path, find (files.entryAt? ["srv"]) "/srv/app" = .ok path ∧
        names path = ["srv", "cfconverge.yml"] := by
  intro files
  have descends : files.Descends (files.base ["srv"] "/srv/app") (names "/srv/app")
      ["app", "srv"] := by
    have inner : files.Descends ["srv"] ["app"] ["app", "srv"] := .step rfl rfl (.here _)
    exact .step rfl rfl inner
  obtain ⟨succeeds, nearest, -, around⟩ := find_nearest files ["srv"] "/srv/app"
  have along (levels : Nat) :
      files.documentAlong? ["srv"] "/srv/app" levels =
        (files.above? ["app", "srv"] levels).bind files.document? :=
    congrArg (·.bind files.document?) (around _ descends levels (.inl rfl))
  -- The directory itself holds none, and the one around it does.
  have empty : files.documentAlong? ["srv"] "/srv/app" 0 = none := by
    rw [along]
    decide +kernel
  have held : files.documentAlong? ["srv"] "/srv/app" 1 = some "cfconverge.yml" := by
    rw [along]
    decide +kernel
  obtain ⟨path, returned⟩ := succeeds.mpr ⟨1, .inl rfl, Option.isSome_of_eq_some held⟩
  obtain ⟨levels, name, -, holds, before, -, -, route⟩ := nearest path returned
  -- The nearest level is the one with the document, since there is none before it.
  have here : levels = 1 := by
    match levels, holds, before with
    | 0, holds, _ => cases empty.symm.trans holds
    | 1, _, _ => rfl
    | levels + 2, _, before => cases (before 1 (by omega)).symm.trans held
  subst here
  cases held.symm.trans holds
  exact ⟨descends, path, returned, route.trans (by decide +kernel)⟩

/-- From a relative start the directory above the working directory is not searched. -/
theorem find_misses_above :
    let files := FileSystem.ofTable [(["cfconverge.yaml"], .file []), (["sub"], .directory)]
    files.Descends (files.base ["sub"] ".") (names ".") ["sub"] ∧
      (files.above? ["sub"] 1).bind files.document? = some "cfconverge.yaml" ∧
      find (files.entryAt? ["sub"]) "." = .error (notFound "./cfconverge.yaml") := by
  intro files
  exact ⟨.here _, by decide +kernel, by decide +kernel⟩

end Document

end CloudSpace
