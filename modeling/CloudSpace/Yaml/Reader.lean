import CloudSpace.Yaml.Alias
import CloudSpace.Yaml.Token

/-!
# Trees of tokens

The tree of the one document in a text. Reading goes on as far as the text makes sense: what
comes before an error is in the tree, with a `broken` node where the error was met, so that a
tree can be found wanting before its text is.

An alias refers to its anchor by number. An anchor has the number of different names given before
it, its own included if it was given before. So a name that is given again may share its number
with a name that follows, and of all anchors with one number the last to begin counts, for
aliases before it as well.
-/
namespace CloudSpace.Yaml

/-- The anchors of a text so far. -/
structure Anchors where
  /-- The numbers of the names, latest first. -/
  names : List (String × Nat) := []
  /-- How many different names there are. -/
  distinct : Nat := 0
  /-- How many anchors have begun. -/
  begun : Nat := 0
  /-- The numbers of the anchors by the order in which they began, latest first. -/
  numbers : List (Nat × Nat) := []
  /-- The trees of the anchors by the order in which they began. -/
  trees : List (Nat × Node) := []
deriving Inhabited

namespace Anchors

/-- The number an alias with this name refers to. -/
def number? (anchors : Anchors) (name : String) : Option Nat :=
  (anchors.names.find? (·.1 = name)).map (·.2)

/-- Begin the tree of an anchor. -/
def start (anchors : Anchors) (name : String) : Anchors :=
  { anchors with
    names := (name, anchors.distinct) :: anchors.names
    distinct := if (anchors.number? name).isSome then anchors.distinct else anchors.distinct + 1
    begun := anchors.begun + 1
    numbers := (anchors.begun, anchors.distinct) :: anchors.numbers }

/-- Give the anchor that began in this place its tree. -/
def finish (anchors : Anchors) (place : Nat) (tree : Node) : Anchors :=
  { anchors with trees := (place, tree) :: anchors.trees }

/-- The trees by their numbers. A tree that was not finished is broken. -/
def table (anchors : Anchors) : Array Node :=
  let trees := anchors.trees.foldl (fun trees tree => trees.setIfInBounds tree.1 tree.2)
    (Array.replicate anchors.begun .broken)
  anchors.numbers.foldr (fun (place, number) table =>
    table.setIfInBounds number (trees.getD place .broken))
    (Array.replicate (anchors.distinct + 1) .broken)

end Anchors

/-- What is left to be read, and the names known so far. -/
structure Pending where
  tokens : List Token
  anchors : Anchors := {}
  /-- What the handles of tags stand for. -/
  handles : List (String × String) := []
  /-- Whether an error has been met. -/
  failed : Bool := false
deriving Inhabited

namespace Pending

def standardHandles : List (String × String) := [("!", "!"), ("!!", "tag:yaml.org,2002:")]

def peek (p : Pending) : Option Token := p.tokens.head?

def drop (p : Pending) : Pending := { p with tokens := p.tokens.tail }

/-- Whether the next token is one of these. -/
def sees (p : Pending) (tokens : List Token) : Bool := p.peek.any tokens.contains

def fail (p : Pending) : Node × Pending := (.broken, { p with failed := true })

/-- The scalar that stands for nothing. -/
def emptyScalar : Node := .written "" .plain none

/-- An anchor and a tag before a node, in either order. -/
structure Properties where
  anchor : Option String := none
  tag : Option (String × String) := none

def properties (p : Pending) : Properties × Pending :=
  match p.tokens with
  | .anchor name :: .tag handle suffix :: rest =>
    ({ anchor := some name, tag := some (handle, suffix) }, { p with tokens := rest })
  | .tag handle suffix :: .anchor name :: rest =>
    ({ anchor := some name, tag := some (handle, suffix) }, { p with tokens := rest })
  | .anchor name :: rest => ({ anchor := some name }, { p with tokens := rest })
  | .tag handle suffix :: rest => ({ tag := some (handle, suffix) }, { p with tokens := rest })
  | _ => ({}, p)

/-- The full name of a tag, if its handle is known. -/
def fullTag? (p : Pending) : String × String → Option String
  | ("", suffix) => some suffix
  | (handle, suffix) => (p.handles.find? (·.1 = handle)).map (·.2 ++ suffix)

/-- Begin the tree of an anchor, if there is one. -/
def startTree (p : Pending) (anchor : Option String) : Pending :=
  match anchor with
  | some name => { p with anchors := p.anchors.start name }
  | none => p

/-- Give an anchor, if there is one, the tree that began before these anchors did. -/
def finishTree (p : Pending) (anchor : Option String) (before : Anchors) (node : Node) : Pending :=
  if anchor.isSome then { p with anchors := p.anchors.finish before.begun node } else p

/-- The entry a record broke off with. -/
def brokenEntry : Node × Node := (.broken, .broken)

mutual

/-- A node. Block collections are nodes only in a block context, and a list whose entries are
not indented only as the value of a block record. -/
def node : Nat → Bool → Bool → Pending → Node × Pending
  | 0, _, _, p => p.fail
  | fuel + 1, inBlock, indentless, p =>
    match p.tokens with
    | .alias name :: rest =>
      match p.anchors.number? name with
      | some number => (.anchored number, { p with tokens := rest })
      | none => p.fail
    | _ =>
      let (props, p) := p.properties
      match props.tag.map p.fullTag? with
      | some none => p.fail
      | tag =>
        let tag := tag.join
        -- The anchor begins before its content, where an alias may already name it.
        let (content, q) := body fuel inBlock indentless tag (p.startTree props.anchor)
        let bare := props.anchor.isNone && props.tag.isNone
        match content with
        | some node => (node, q.finishTree props.anchor p.anchors node)
        | none =>
          -- Properties without content stand for an empty scalar.
          if bare then q.fail
          else
            let node := Node.written "" .plain tag
            (node, q.finishTree props.anchor p.anchors node)

/-- The content of a node after its properties, if there is any. -/
def body : Nat → Bool → Bool → Option String → Pending → Option Node × Pending
  | 0, _, _, _, p => (some .broken, { p with failed := true })
  | fuel + 1, inBlock, indentless, tag, p =>
    match p.peek with
    | some .blockEntry =>
      if indentless then
        let (items, p) := indentlessItems fuel p
        (some (.list items), p)
      else (none, p)
    | some (.scalar content style) =>
      -- The tag that names no type says nothing here.
      (some (.written content style (if tag = some "!" then none else tag)), p.drop)
    | some .flowSequenceStart =>
      let (items, p) := flowItems fuel true p.drop
      (some (.list items), p)
    | some .flowMappingStart =>
      let (entries, p) := flowEntries fuel true p.drop
      (some (.record entries), p)
    | some .blockSequenceStart =>
      if inBlock then
        let (items, p) := blockItems fuel p.drop
        (some (.list items), p)
      else (none, p)
    | some .blockMappingStart =>
      if inBlock then
        let (entries, p) := blockEntries fuel p.drop
        (some (.record entries), p)
      else (none, p)
    | _ => (none, p)

/-- The items of a block list up to its end. -/
def blockItems : Nat → Pending → List Node × Pending
  | 0, p => ([.broken], { p with failed := true })
  | fuel + 1, p =>
    match p.peek with
    | some .blockEntry =>
      let p := p.drop
      let (item, p) :=
        -- An entry with nothing in it holds the empty scalar.
        if p.sees [.blockEntry, .blockEnd] then (emptyScalar, p) else node fuel true false p
      if p.failed then ([item, .broken], p)
      else
        let (items, p) := blockItems fuel p
        (item :: items, p)
    | some .blockEnd => ([], p.drop)
    | _ => ([.broken], { p with failed := true })

/-- The items of a list that is not indented, up to what is no entry any more. -/
def indentlessItems : Nat → Pending → List Node × Pending
  | 0, p => ([.broken], { p with failed := true })
  | fuel + 1, p =>
    match p.peek with
    | some .blockEntry =>
      let p := p.drop
      let (item, p) :=
        if p.sees [.blockEntry, .key, .value, .blockEnd] then (emptyScalar, p)
        else node fuel true false p
      if p.failed then ([item, .broken], p)
      else
        let (items, p) := indentlessItems fuel p
        (item :: items, p)
    | none => ([.broken], { p with failed := true })
    | _ => ([], p)

/-- The entries of a block record up to its end. -/
def blockEntries : Nat → Pending → List (Node × Node) × Pending
  | 0, p => ([brokenEntry], { p with failed := true })
  | fuel + 1, p =>
    match p.peek with
    | some .key =>
      let p := p.drop
      let (key, p) :=
        if p.sees [.key, .value, .blockEnd] then (emptyScalar, p) else node fuel true true p
      if p.failed then ([(key, .broken), brokenEntry], p)
      else
        let (value, p) :=
          match p.peek with
          | some .value =>
            let p := p.drop
            if p.sees [.key, .value, .blockEnd] then (emptyScalar, p) else node fuel true true p
          | some _ => (emptyScalar, p)
          | none => p.fail
        if p.failed then ([(key, value), brokenEntry], p)
        else
          let (entries, p) := blockEntries fuel p
          ((key, value) :: entries, p)
    | some .blockEnd => ([], p.drop)
    | _ => ([brokenEntry], { p with failed := true })

/-- The items of a list in brackets up to its end. An item may be a record of one entry. -/
def flowItems : Nat → Bool → Pending → List Node × Pending
  | 0, _, p => ([.broken], { p with failed := true })
  | fuel + 1, first, p =>
    if p.sees [.flowSequenceEnd] then ([], p.drop)
    else if !first && !p.sees [.flowEntry] then ([.broken], { p with failed := true })
    else
      let p := if first then p else p.drop
      match p.peek with
      | some .flowSequenceEnd => ([], p.drop)
      | none => ([.broken], { p with failed := true })
      | some .key =>
        let (entry, p) := flowPair fuel p.drop
        if p.failed then ([.record [entry, brokenEntry], .broken], p)
        else
          let (items, p) := flowItems fuel false p
          (.record [entry] :: items, p)
      | some _ =>
        let (item, p) := node fuel false false p
        if p.failed then ([item, .broken], p)
        else
          let (items, p) := flowItems fuel false p
          (item :: items, p)

/-- The one entry of a record that is an item of a list in brackets. -/
def flowPair : Nat → Pending → (Node × Node) × Pending
  | 0, p => (brokenEntry, { p with failed := true })
  | fuel + 1, p =>
    let (key, p) :=
      -- The token that shows the key to be empty is passed along with it.
      if p.sees [.value, .flowEntry, .flowSequenceEnd] then (emptyScalar, p.drop)
      else node fuel false false p
    if p.failed then ((key, .broken), p)
    else
      match p.peek with
      | some .value =>
        let p := p.drop
        let (value, p) :=
          if p.sees [.flowEntry, .flowSequenceEnd] then (emptyScalar, p)
          else node fuel false false p
        ((key, value), p)
      | some _ => ((key, emptyScalar), p)
      | none => ((key, .broken), { p with failed := true })

/-- The entries of a record in braces up to its end. -/
def flowEntries : Nat → Bool → Pending → List (Node × Node) × Pending
  | 0, _, p => ([brokenEntry], { p with failed := true })
  | fuel + 1, first, p =>
    if p.sees [.flowMappingEnd] then ([], p.drop)
    else if !first && !p.sees [.flowEntry] then ([brokenEntry], { p with failed := true })
    else
      let p := if first then p else p.drop
      match p.peek with
      | some .flowMappingEnd => ([], p.drop)
      | none => ([brokenEntry], { p with failed := true })
      | some .key =>
        let p := p.drop
        let (key, p) :=
          if p.sees [.value, .flowEntry, .flowMappingEnd] then (emptyScalar, p)
          else node fuel false false p
        if p.failed then ([(key, .broken), brokenEntry], p)
        else
          let (value, p) :=
            match p.peek with
            | some .value =>
              let p := p.drop
              if p.sees [.flowEntry, .flowMappingEnd] then (emptyScalar, p)
              else node fuel false false p
            | some _ => (emptyScalar, p)
            | none => p.fail
          if p.failed then ([(key, value), brokenEntry], p)
          else
            let (entries, p) := flowEntries fuel false p
            ((key, value) :: entries, p)
      | some _ =>
        let (key, p) := node fuel false false p
        if p.failed then ([(key, .broken), brokenEntry], p)
        else
          let (entries, p) := flowEntries fuel false p
          ((key, emptyScalar) :: entries, p)

end

/-! ### Documents -/

/-- The directives before a document; a version other than 1.1 and 1.2, a second version and a
second meaning of a handle are errors. -/
def directives (versioned : Bool) (handles : List (String × String)) :
    List Token → Option (List (String × String) × List Token)
  | .versionDirective major minor :: rest =>
    if versioned || major ≠ 1 || (minor ≠ 1 && minor ≠ 2) then none
    else directives true handles rest
  | .tagDirective handle start :: rest =>
    if handles.any (·.1 = handle) then none
    else directives versioned (handles ++ [(handle, start)]) rest
  | rest => some (handles, rest)

/-- The tree of the first document. An empty text has an empty one. -/
def document (p : Pending) : Node × Pending :=
  -- No token takes more than four steps.
  let fuel := 4 * p.tokens.length + 8
  match p.peek with
  | some (.versionDirective ..) | some (.tagDirective ..) | some .documentStart =>
    match directives false [] p.tokens with
    | some (handles, .documentStart :: rest) =>
      let p := { p with tokens := rest, handles := handles ++ standardHandles }
      match p.peek with
      | some (.versionDirective ..) | some (.tagDirective ..) | some .documentStart
      | some .documentEnd | some .streamEnd => (emptyScalar, p)
      | _ => node fuel true false p
    | _ => p.fail
  | some .streamEnd => (emptyScalar, p)
  | _ => node fuel true false { p with handles := standardHandles }

/-- Whether nothing follows but marks of an end. -/
def isAtEnd (p : Pending) : Bool :=
  p.tokens.dropWhile (· = .documentEnd) = [.streamEnd]

end Pending

/-- The trees of a text. -/
def read (content : String) : Source :=
  let (tokens, complete) := tokens content
  let (root, rest) := Pending.document { tokens }
  { root, anchors := rest.anchors.table, whole := complete && !rest.failed && rest.isAtEnd }

end CloudSpace.Yaml
