import ScriptEval.Yaml.Scalar

/-!
# What documents denote

From the nodes of a document to data. `Node.shape` tells what a node is made of, once its tag is known: a datum, or
parts that are nodes again. Three things need care:

* *Sharing.* An alias denotes what the node with its anchor does, also inside of that node; a collection that contains
  itself in this way becomes a knot (`Data.knot`).
* *Merging.* In a mapping the entries of the mappings under merge keys come first, so that its own entries win.
* *The first fault.* A document may have several. They are looked for level by level, from the root down, and the first
  one found is reported (`Document.check`).
-/

namespace ScriptEval.Yaml

/-- A document: its root, and its anchored nodes by number in the order in which they end. -/
structure Document where
  root : Node
  anchors : List (Nat × Node)
  /-- A bound on the depth of nodes. -/
  depth : Nat

namespace Document

/-- The node that stands at a place, without its anchor. -/
def bare (doc : Document) : Node → Node
  | .alias n => (doc.anchors.lookup n).getD (.scalar (.ofContent true) [])
  | .anchored _ node => node
  | node => node

/-- The number of the collection that stands at a place. -/
def idOf (doc : Document) (node : Node) : Option Nat :=
  match doc.bare node with
  | .sequence id _ _ | .mapping id _ _ => some id
  | _ => none

/-- The tag of the node that stands at a place. -/
def tagOf (doc : Document) (node : Node) : Tag := ((doc.bare node).tag?).getD .unknown

/-! ## Scalars -/

/-- The content of a node where a scalar is needed: that of the scalar, or in a mapping that of the value under the
value mark. -/
def scalarContent (doc : Document) : (bound : Nat) → Node → Except Fault Text
  | 0, _ => .error .malformed
  | bound + 1, node =>
    match doc.bare node with
    | .scalar _ content => .ok content
    | .mapping _ _ entries =>
      match entries.find? fun (key, _) => doc.tagOf key == .value with
      | some (_, value) => scalarContent doc bound value
      | none => .error .malformed
    | _ => .error .malformed

/-! ## Merging -/

/-- The entries of a mapping with those of the mappings under its merge keys before them, inside the mappings with the
numbers `outer`. Of the mappings in a list under one merge key the first one counts most, so its entries come last. -/
def merged (doc : Document) (outer : List Nat) : (bound : Nat) → List (Node × Node) → Except Fault (List (Node × Node))
  | 0, _ => .error .malformed
  | bound + 1, entries => do
    let own := entries.filter fun (key, _) => doc.tagOf key != .merge
    let ofMapping (node : Node) : Except Fault (List (Node × Node)) :=
      match doc.bare node with
      | .mapping id _ entries =>
        if outer.contains id then .ok (entries.filter fun (key, _) => doc.tagOf key != .merge)
        else merged doc (id :: outer) bound entries
      | _ => .error .malformed
    let others ← (entries.filter fun (key, _) => doc.tagOf key == .merge).mapM fun (_, value) =>
      match doc.bare value with
      | .sequence _ _ items => do return (← items.mapM ofMapping).reverse.flatten
      | _ => ofMapping value
    return others.flatten ++ own

/-! ## Shapes -/

/-- What a node is made of. -/
inductive Shape
  | leaf (d : Data)
  | sequence (items : List Node)
  | mapping (entries : List (Node × Node))
  | set (entries : List (Node × Node))
  | pairs (entries : List (Node × Node))

/-- Whether the data of a tag have parts. -/
def isCollection : Tag → Bool
  | .sequence | .mapping | .set | .orderedPairs => true
  | _ => false

/-- The single entry of a mapping. -/
def singleEntry (doc : Document) (node : Node) : Except Fault (Node × Node) :=
  match doc.bare node with
  | .mapping _ _ [entry] => .ok entry
  | _ => .error .malformed

/-- What a node is made of. The mark of values is an ordinary text as a key. -/
def shape (doc : Document) (node : Node) : Except Fault Shape :=
  match doc.tagOf node, doc.bare node with
  | .sequence, .sequence _ _ items => .ok (.sequence items)
  | .mapping, .mapping id _ entries => (merged doc [id] doc.depth entries).map Shape.mapping
  | .set, .mapping id _ entries => (merged doc [id] doc.depth entries).map Shape.set
  | .orderedPairs, .sequence _ _ items => (items.mapM doc.singleEntry).map Shape.pairs
  | tag, _ => do return .leaf (← tag.read (← doc.scalarContent doc.depth node))

/-- The shape of a key of a mapping. -/
def keyShape (doc : Document) (node : Node) : Except Fault Shape :=
  match doc.tagOf node, doc.bare node with
  | .value, .scalar _ content => .ok (.leaf (.text content))
  | tag, _ => if isCollection tag then .error .malformed else doc.shape node

/-! ## The first fault -/

/-- Checks a part of a collection. A collection in turn is left for the next level. -/
def checkPart (doc : Document) (node : Node) : Except Fault (List Node) :=
  if isCollection (doc.tagOf node) then .ok [node] else (doc.shape node).map fun _ => []

/-- Checks a key; a collection cannot be one. -/
def checkKey (doc : Document) (node : Node) : Except Fault (List Node) := (doc.keyShape node).map fun _ => []

/-- Checks the parts of a node and gives those that have parts themselves. -/
def checkParts (doc : Document) (node : Node) : Except Fault (List Node) := do
  match ← doc.shape node with
  | .leaf _ => return []
  | .sequence items => return (← items.mapM doc.checkPart).flatten
  | .mapping entries | .set entries =>
    return (← entries.mapM fun (key, value) => do return (← doc.checkKey key) ++ (← doc.checkPart value)).flatten
  | .pairs entries =>
    return (← entries.mapM fun (key, value) => do return (← doc.checkPart key) ++ (← doc.checkPart value)).flatten

/-- The collections that were not `visited`, each once, and all numbers visited then. -/
def unvisited (doc : Document) (visited : List Nat) : List Node → List Node × List Nat
  | [] => ([], visited)
  | node :: nodes =>
    match doc.idOf node with
    | none =>
      let (rest, visited) := unvisited doc visited nodes
      (node :: rest, visited)
    | some n =>
      if visited.contains n then unvisited doc visited nodes
      else
        let (rest, visited) := unvisited doc (n :: visited) nodes
        (node :: rest, visited)

/-- Checks a level of nodes and all levels below it. -/
def checkLevels (doc : Document) : (bound : Nat) → (visited : List Nat) → List Node → Except Fault Unit
  | 0, _, _ => .ok ()
  | _, _, [] => .ok ()
  | bound + 1, visited, level => do
    let (level, visited) := doc.unvisited visited level
    checkLevels doc bound visited (← level.mapM doc.checkParts).flatten

/-- The first fault of a document, level by level. -/
def check (doc : Document) : Except Fault Unit := doc.checkLevels doc.depth [] [doc.root]

end Document

/-! ## Data -/

/-- Whether two numbers, truth values counting as 1 and 0, are the same. -/
def sameNumber : Data → Data → Bool
  | .int m, .int n => m == n
  | .int m, .float x | .float x, .int m => x == Float.ofInt m
  | .float x, .float y => x == y
  | _, _ => false

/-- Whether two moments are the same: the same time in universal time if both zones are known, the same readings if
none is. -/
def sameMoment (a b : Calendar.Moment) : Bool :=
  match a.zone, b.zone with
  | none, none => a == b
  | some y, some z =>
    a.unixSeconds - y.offset == b.unixSeconds - z.offset && a.time.micro == b.time.micro
  | _, _ => false

/-- Whether two keys are the same. -/
def sameKey (a b : Data) : Bool :=
  let number : Data → Data
    | .bool b => .int (if b then 1 else 0)
    | d => d
  match a, b with
  | .null, .null => true
  | .text s, .text t => s == t
  | .bytes s, .bytes t => s == t
  | .date d, .date e => d == e
  | .moment d, .moment e => sameMoment d e
  | a, b => sameNumber (number a) (number b)

/-- Entries with one more, in the place of the entry that has the same key, if there is one. -/
def putEntry (key value : Data) : List (Data × Data) → List (Data × Data)
  | [] => [(key, value)]
  | (k, v) :: rest => if sameKey k key then (k, value) :: rest else (k, v) :: putEntry key value rest

mutual

/-- Whether all aliases in a node are among the given ones. -/
def Node.refersWithin (numbers : List Nat) : Node → Bool
  | .scalar _ _ => true
  | .sequence _ _ items => refersWithinAll numbers items
  | .mapping _ _ entries => refersWithinEntries numbers entries
  | .anchored _ node => node.refersWithin numbers
  | .alias n => numbers.contains n

def refersWithinAll (numbers : List Nat) : List Node → Bool
  | [] => true
  | node :: nodes => node.refersWithin numbers && refersWithinAll numbers nodes

def refersWithinEntries (numbers : List Nat) : List (Node × Node) → Bool
  | [] => true
  | (key, value) :: entries =>
    key.refersWithin numbers && value.refersWithin numbers && refersWithinEntries numbers entries

end

namespace Document

/-- The data of anchored nodes. -/
abbrev Known := List (Nat × Data)

/-- The datum of an anchored node that is known. -/
def known? (known : Known) : Node → Option Data
  | .alias n | .anchored n _ => known.lookup n
  | _ => none

/-- What stands for a collection that was opened twice among `outer`. -/
def reopened? (doc : Document) (outer : List Nat) (node : Node) : Option Data :=
  (doc.idOf node).bind fun id =>
    if outer.count id < 2 then none
    else some (if doc.tagOf node == .mapping then .again id '\x7b' '\x7d' else .again id '[' ']')

/-- The datum of a node inside the collections with the numbers `outer`. `known` are the data of anchored nodes that do
not contain themselves. If others do (`tied`), all collections become knots, and what contains itself is unfolded
twice: so also a part of it holds the whole of it. -/
def data (doc : Document) (tied : Bool) (known : Known) : (bound : Nat) → (outer : List Nat) → Node → Except Fault Data
  | 0, _, _ => .error .malformed
  | bound + 1, outer, node => do
    if let some d := known? known node <|> doc.reopened? outer node then return d
    let id := doc.idOf node
    let part := doc.data tied known bound (id.toList ++ outer)
    let leaf : Shape → Data
      | .leaf d => d
      | _ => .null
    let collect (entries : List (Node × Node)) : Except Fault (List (Data × Data)) :=
      entries.foldlM (fun done (key, value) => do
        return putEntry (leaf (← doc.keyShape key)) (← part value) done) []
    let tie (d : Data) : Data := match id with
      | some id => if tied then .knot id d else d
      | none => d
    match ← doc.shape node with
    | .leaf d => return d
    | .sequence items => return tie (.list (← items.mapM part))
    | .mapping entries => return tie (.mapping (← collect entries))
    | .set entries => return tie (.set ((← collect entries).map (·.1)))
    | .pairs entries =>
      return tie (.list (← entries.mapM fun (key, value) => do return .tuple [← part key, ← part value]))

/-- The data of the anchored nodes that do not contain themselves. -/
def known (doc : Document) : Known :=
  doc.anchors.foldl (fun known (number, node) =>
    if node.refersWithin (known.map (·.1)) then
      match doc.data false known doc.depth [] node with
      | .ok d => (number, d) :: known
      | .error _ => known
    else known) []

/-- What a document denotes. -/
def read (doc : Document) : Except Fault Data := do
  doc.check
  let known := doc.known
  doc.data (known.length < doc.anchors.length) known doc.depth [] doc.root

end Document

end ScriptEval.Yaml
