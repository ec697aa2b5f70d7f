import ScriptEval.Yaml.Token

/-!
# Nodes of a document

The tree of a document: scalars, sequences and mappings, each with the tag that says what it denotes. A node may have
an anchor, by which other places in the document refer to it; anchored nodes are numbered in the order of their
beginnings, and a reference is an `alias` node with the number. Collections are numbered too (`id`), so that one that is
met again by an alias is known again.

`Node.ofTokens` reads the tokens of a document. It goes by recursion on a bound that the number of tokens gives: each
step takes a token, or reads an entry of a collection whose first token was taken.
-/

namespace ScriptEval.Yaml

/-- The tag of a node as far as the document tells: given, left to the content (`plain` for an unquoted scalar), or
left open in a way that makes any scalar count as unquoted. -/
inductive NodeTag
  | given (tag : Text)
  | ofContent (plain : Bool)
  deriving DecidableEq, Repr

inductive Node
  | scalar (tag : NodeTag) (content : Text)
  | sequence (id : Nat) (tag : NodeTag) (items : List Node)
  | mapping (id : Nat) (tag : NodeTag) (entries : List (Node × Node))
  | anchored (number : Nat) (node : Node)
  | alias (number : Nat)
  deriving Inhabited

/-- The state of reading nodes. -/
structure Parse where
  /-- The tokens that are left; none stands for the end of the document. -/
  rest : List Token
  /-- The prefixes of tags by their handles. -/
  prefixes : List (Text × Text) := []
  /-- The anchors so far, with their numbers. -/
  anchors : List (Text × Nat) := []
  /-- The anchored nodes that are complete. -/
  nodes : List (Nat × Node) := []
  /-- The number of collections so far. -/
  collections : Nat := 0

abbrev ParseM := StateT Parse (Except Fault)

namespace ParseM

def fail {α : Type} : ParseM α := throw .malformed

/-- The next token, not taken; `none` at the end. -/
def peek : ParseM (Option Token) := do return (← get).rest.head?

/-- Drops the next token. -/
def drop : ParseM Unit := modify fun p => { p with rest := p.rest.tail }

/-- Takes the next token if it is `t`. -/
def accept (t : Token) : ParseM Bool := do
  if (← peek) = some t then
    drop
    return true
  else return false

/-- Takes the token `t`, which must come next. -/
def expect (t : Token) : ParseM Unit := do
  if !(← accept t) then fail

/-- Whether the next token is one of these; `atEnd` is the answer at the end. -/
def nextIs (ts : List Token) (atEnd : Bool := false) : ParseM Bool := do
  match ← peek with
  | some t => return ts.contains t
  | none => return atEnd

/-! ## Properties of nodes -/

/-- What a tag of the document stands for. -/
def expandTag (handle : Option Text) (suffix : Text) : ParseM Text := do
  match handle with
  | none => return suffix
  | some handle =>
    match (← get).prefixes.lookup handle with
    | some tagPrefix => return tagPrefix ++ suffix
    | none => fail

/-- The properties of a node: a tag and an anchor in either order. -/
structure Properties where
  tag : Option (Option Text × Text) := none
  anchor : Option Text := none

def takeProperties : ParseM Properties := do
  match ← peek with
  | some (.anchor name) =>
    drop
    match ← peek with
    | some (.tag handle suffix) =>
      drop
      return { tag := some (handle, suffix), anchor := some name }
    | _ => return { anchor := some name }
  | some (.tag handle suffix) =>
    drop
    match ← peek with
    | some (.anchor name) =>
      drop
      return { tag := some (handle, suffix), anchor := some name }
    | _ => return { tag := some (handle, suffix) }
  | _ => return {}

/-- Gives a new anchor its number. An anchor may come up only once. -/
def newAnchor (name : Text) : ParseM Nat := do
  let p ← get
  if (p.anchors.lookup name).isSome then fail
  set { p with anchors := (name, p.anchors.length) :: p.anchors }
  return p.anchors.length

/-- Puts a node, once it is read, under its anchor. -/
def underAnchor (name : Option Text) (read : ParseM Node) : ParseM Node := do
  match name with
  | none => read
  | some name =>
    let number ← newAnchor name
    let node ← read
    modify fun p => { p with nodes := (number, node) :: p.nodes }
    return .anchored number node

/-- A collection of items or entries, which `read` reads, with its number. -/
def collection {α : Type} (make : Nat → α → Node) (read : ParseM α) : ParseM Node := do
  let id := (← get).collections
  modify fun p => { p with collections := id + 1 }
  return make id (← read)

/-- The empty scalar, which stands where a node is left out. -/
def emptyScalar : Node := .scalar (.ofContent true) []

/-- The tag of a node, from the tag it has in the document. -/
def nodeTag (tag : Option Text) (plain : Bool) : NodeTag :=
  match tag with
  | none => .ofContent plain
  | some ['!'] => .ofContent true
  | some tag => .given tag

/-! ## The grammar -/

/-- Where a node stands, as far as it matters for which tokens may begin it. -/
inductive Place
  | flow
  | block
  /-- After the mark of a key or a value in a block mapping, where a sequence need not be indented. -/
  | entry
  deriving DecidableEq, Repr

mutual

def node (place : Place) : (bound : Nat) → ParseM Node
  | 0 => fail
  | bound + 1 => do
    match ← peek with
    | some (.alias name) =>
      drop
      match (← get).anchors.lookup name with
      | some number => return .alias number
      | none => fail
    | _ =>
      let properties ← takeProperties
      let tag ← match properties.tag with
        | some (handle, suffix) => some <$> expandTag handle suffix
        | none => pure none
      underAnchor properties.anchor do
        match ← peek with
        | some (.scalar plain content) =>
          drop
          return .scalar (nodeTag tag plain) content
        | some .flowSequence =>
          drop
          collection (.sequence · (nodeTag tag false)) (flowItems true bound)
        | some .flowMapping =>
          drop
          collection (.mapping · (nodeTag tag false)) (flowEntries true bound)
        | t =>
          if t = some .blockEntry ∧ place = .entry then
            collection (.sequence · (nodeTag tag false)) (plainItems bound)
          else if t = some .blockSequence ∧ place ≠ .flow then
            drop
            collection (.sequence · (nodeTag tag false)) (blockItems bound)
          else if t = some .blockMapping ∧ place ≠ .flow then
            drop
            collection (.mapping · (nodeTag tag false)) (blockEntries bound)
          else if properties.tag.isSome ∨ properties.anchor.isSome then
            return .scalar (nodeTag tag true) []
          else fail

/-- The items of a block sequence and its end. -/
def blockItems : (bound : Nat) → ParseM (List Node)
  | 0 => fail
  | bound + 1 => do
    if ← accept .blockEntry then
      let item ← if ← nextIs [.blockEntry, .blockEnd] then pure emptyScalar else node .block bound
      return item :: (← blockItems bound)
    else
      expect .blockEnd
      return []

/-- The items of a sequence that is not indented; it ends where no other item follows. -/
def plainItems : (bound : Nat) → ParseM (List Node)
  | 0 => fail
  | bound + 1 => do
    if ← accept .blockEntry then
      let item ← if ← nextIs [.blockEntry, .key, .value, .blockEnd] then pure emptyScalar else node .block bound
      return item :: (← plainItems bound)
    else return []

/-- The entries of a block mapping and its end. -/
def blockEntries : (bound : Nat) → ParseM (List (Node × Node))
  | 0 => fail
  | bound + 1 => do
    if ← accept .key then
      let omitted := [Token.key, .value, .blockEnd]
      let key ← if ← nextIs omitted then pure emptyScalar else node .entry bound
      let value ← if ← accept .value then
          if ← nextIs omitted then pure emptyScalar else node .entry bound
        else pure emptyScalar
      return (key, value) :: (← blockEntries bound)
    else
      expect .blockEnd
      return []

/-- The items of a flow sequence and its end. A single pair with a key mark or a colon is a mapping. -/
def flowItems (first : Bool) : (bound : Nat) → ParseM (List Node)
  | 0 => fail
  | bound + 1 => do
    if ← accept .flowSequenceEnd then return []
    if !first then expect .flowEntry
    if ← accept .flowSequenceEnd then return []
    let item ← if ← accept .key then
        let key ← if ← nextIs [.value, .flowEntry, .flowSequenceEnd] then pure emptyScalar else node .flow bound
        let value ← if ← accept .value then
            if ← nextIs [.flowEntry, .flowSequenceEnd] then pure emptyScalar else node .flow bound
          else pure emptyScalar
        collection (.mapping · (.ofContent false)) (pure [(key, value)])
      else node .flow bound
    return item :: (← flowItems false bound)

/-- The entries of a flow mapping and its end. -/
def flowEntries (first : Bool) : (bound : Nat) → ParseM (List (Node × Node))
  | 0 => fail
  | bound + 1 => do
    if ← accept .flowMappingEnd then return []
    if !first then expect .flowEntry
    if ← accept .flowMappingEnd then return []
    let entry ← if ← accept .key then
        let key ← if ← nextIs [.value, .flowEntry, .flowMappingEnd] then pure emptyScalar else node .flow bound
        let value ← if ← accept .value then
            if ← nextIs [.flowEntry, .flowMappingEnd] then pure emptyScalar else node .flow bound
          else pure emptyScalar
        pure (key, value)
      else pure (← node .flow bound, emptyScalar)
    return entry :: (← flowEntries false bound)

end

/-! ## Documents -/

/-- The handles that need no directive. -/
def standardPrefixes : List (Text × Text) := [("!".toList, "!".toList), ("!!".toList, "tag:yaml.org,2002:".toList)]

/-- The directives before a document. -/
def directives : (bound : Nat) → (version : Bool) → (given : List (Text × Text)) → ParseM (List (Text × Text))
  | 0, _, _ => fail
  | bound + 1, version, given => do
    match ← peek with
    | some (.version major) =>
      drop
      if version ∨ major ≠ 1 then fail else directives bound true given
    | some (.tagPrefix handle tagPrefix) =>
      drop
      if (given.lookup handle).isSome then fail else directives bound version (given ++ [(handle, tagPrefix)])
    | some .otherDirective =>
      drop
      directives bound version given
    | _ => return given ++ standardPrefixes

/-- Drops the ends of documents that come next. -/
def dropEnds : (bound : Nat) → ParseM Unit
  | 0 => return ()
  | bound + 1 => do
    if ← accept .documentEnd then dropEnds bound

/-- The one document that the tokens are; `none` if there is none at all. -/
def document (bound : Nat) : ParseM (Option Node) := do
  let explicit : Bool := match ← peek with
    | some (.version _) | some (.tagPrefix _ _) | some .otherDirective | some .documentStart | none => true
    | _ => false
  if (← peek).isNone then return none
  let root ← if explicit then
      let given ← directives bound false []
      modify fun p => { p with prefixes := given }
      expect .documentStart
      let empty ← match ← peek with
        | some (.version _) | some (.tagPrefix _ _) | some .otherDirective | some .documentStart | some .documentEnd
        | none => pure true
        | _ => pure false
      if empty then pure emptyScalar else node .block bound
    else
      modify fun p => { p with prefixes := standardPrefixes }
      node .block bound
  dropEnds bound
  if (← peek).isSome then fail
  return some root

end ParseM

/-- The document of a list of tokens and its anchored nodes by number. -/
def Node.ofTokens (ts : List Token) : Except Fault (Option Node × List (Nat × Node)) := do
  let (root, p) ← (ParseM.document (2 * ts.length + 4)).run { rest := ts }
  return (root, p.nodes)

end ScriptEval.Yaml
