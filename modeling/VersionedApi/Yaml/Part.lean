import VersionedApi.Value.Slots
import VersionedApi.Yaml.Node
import VersionedApi.Yaml.Scalar

/-!
# Parts

What each node of a document stands for: the value of a scalar, or a collection of further nodes. Parts are
made from the outermost node on, level by level: a scalar as soon as it is met, the collections that are met
on a level after the whole level. So the first fault of a document is the outermost one, and among
those of one level the first.

Main definitions: `Graph.flatten`, which takes the merge keys out of a mapping, and `Parts.ofGraph`.
-/

namespace VersionedApi.Yaml

/-!
## Merge keys

A mapping may merge others: the entries of a merged mapping, or of the mappings of a list from the last one
to the first, come in front of its own. Merging takes place in the graph, so a mapping that is merged
twice is flattened once, and a mapping that merges itself finds itself half flattened. Value keys become
texts on the way.
-/

namespace Node

/-- The entries of a mapping, none for other nodes. -/
def entries (n : Node) : Array (Nat × Nat) :=
  match n.content with
  | .mapping entries => entries
  | _ => #[]

end Node

namespace Graph

/-- The node of a number. -/
def node (nodes : Array Node) (number : Nat) : Node :=
  nodes.getD number default

/-- Gives a mapping other entries. -/
def setEntries (nodes : Array Node) (number : Nat) (entries : Array (Nat × Nat)) : Array Node :=
  nodes.modify number fun n => { n with content := .mapping entries }

/-- Gives a node another tag. -/
def setTag (nodes : Array Node) (number : Nat) (tag : Tag) : Array Node :=
  nodes.modify number fun n => { n with tag := tag }

/-- Whether the entries of a mapping have to be looked through. -/
def needsFlattening (nodes : Array Node) (number : Nat) : Bool :=
  (node nodes number).entries.any fun (key, _) =>
    (node nodes key).tag == .merge || (node nodes key).tag == .value

mutual

/-- Flattens a mapping from an entry on; `merged` are the entries to come in front. In both functions `fuel`
bounds the number of calls. -/
def flattenFrom : Nat → Nat → Nat → Array (Nat × Nat) → Array Node → Except Fault (Array Node)
  | 0, _, _, _, _ => .error (.misuse .tooDeep)
  | fuel + 1, number, place, merged, nodes =>
      let entries := (node nodes number).entries
      match entries[place]? with
      | none => .ok (if merged.isEmpty then nodes else setEntries nodes number (merged ++ entries))
      | some (key, value) =>
          match (node nodes key).tag with
          | .merge => do
              let nodes := setEntries nodes number (entries.eraseIdxIfInBounds place)
              match (node nodes value).content with
              | .mapping _ =>
                  let nodes ← flattenFrom fuel value 0 #[] nodes
                  flattenFrom fuel number place (merged ++ (node nodes value).entries) nodes
              | .sequence items =>
                  let (found, nodes) ← flattenItems fuel items.toList nodes
                  flattenFrom fuel number place (merged ++ found) nodes
              | .scalar _ => .error (.document "expected a mapping or a list of mappings for merging")
          | .value => flattenFrom fuel number (place + 1) merged (setTag nodes key .text)
          | _ => flattenFrom fuel number (place + 1) merged nodes

/-- Flattens the mappings of a list and puts their entries together, those of the last one first. -/
def flattenItems : Nat → List Nat → Array Node → Except Fault (Array (Nat × Nat) × Array Node)
  | 0, _, _ => .error (.misuse .tooDeep)
  | _, [], nodes => .ok (#[], nodes)
  | fuel + 1, item :: rest, nodes =>
      match (node nodes item).content with
      | .mapping _ => do
          let nodes ← flattenFrom fuel item 0 #[] nodes
          let entries := (node nodes item).entries
          let (others, nodes) ← flattenItems fuel rest nodes
          return (others ++ entries, nodes)
      | _ => .error (.document "expected a mapping for merging")

end

/-- The number of entries of all mappings. -/
def entryCount (nodes : Array Node) : Nat :=
  nodes.foldl (fun count n => count + n.entries.size) 0

/-- Flattens a mapping: no merge key and no value key is left in it. -/
def flatten (nodes : Array Node) (number : Nat) : Except Fault (Array Node) :=
  if needsFlattening nodes number then
    flattenFrom (4 * (entryCount nodes + nodes.size) + 16) number 0 #[] nodes
  else .ok nodes

end Graph

/-! ## Parts of nodes -/

/-- What a node stands for. Items, and the values of entries, are numbers of nodes; keys are values, for a
collection is no key. -/
inductive Part where
  | leaf (v : Value)
  | list (items : List Nat)
  | map (entries : List (Value × Nat))
  | set (members : List Value)
  /-- A list of pairs: the nodes of the mappings of one entry, of their keys and of their values. -/
  | pairs (entries : List (Nat × Nat × Nat))
deriving Repr

/-- Parts in the making. -/
structure Parts where
  /-- The number of the document. -/
  document : Nat
  nodes : Array Node
  /-- The parts of nodes so far. A collection is empty until its turn comes. -/
  parts : Array (Option Part)
  /-- The collections whose turn has still to come, the last one first. -/
  waiting : List Nat

namespace Parts

/-- The number of times that the value of a mapping which stands for a scalar is looked up. -/
def valueKeyLimit : Nat := 985

/-- The text of a scalar, or of the value entry of a mapping that stands for one; `fuel` bounds how many
mappings stand for others. -/
def scalarText (nodes : Array Node) : Nat → Nat → Except Fault String
  | 0, _ => .error (.misuse .tooDeep)
  | fuel + 1, number =>
      match (Graph.node nodes number).content with
      | .scalar text => .ok text
      | .sequence _ => .error (.document "expected a scalar, but found a sequence")
      | .mapping entries =>
          match entries.find? fun (key, _) => (Graph.node nodes key).tag == .value with
          | some (_, value) => scalarText nodes fuel value
          | none => .error (.document "expected a scalar, but found a mapping")

/-- The value of a scalar. A point in time is not looked for in a mapping that stands for its text. -/
def leafOf (p : Parts) (number : Nat) (tag : Tag) : Except Fault Value := do
  let text ← scalarText p.nodes valueKeyLimit number
  match tag, (Graph.node p.nodes number).content with
  | .timestamp, .mapping _ => .error (.misuse (.notSearchable "list"))
  | _, _ => scalarValue (.ofDocument p.document number) tag text

/-- Makes room for a collection, whose turn comes later. -/
def begin (p : Parts) (number : Nat) (part : Part) : Parts :=
  { p with parts := p.parts.set! number (some part), waiting := number :: p.waiting }

/-- Meets a node. -/
def meet (p : Parts) (number : Nat) : Except Fault Parts :=
  match p.parts.getD number none with
  | some _ => .ok p
  | none =>
      match (Graph.node p.nodes number).tag with
      | .seq => .ok (p.begin number (.list []))
      | .map => .ok (p.begin number (.map []))
      | .set => .ok (p.begin number (.set []))
      | .omap => .ok (p.begin number (.pairs []))
      | .pairs => .ok (p.begin number (.pairs []))
      | .merge => .error (.document "could not determine a constructor for the tag of a merge key")
      | .value => .error (.document "could not determine a constructor for the tag of a value key")
      | .other name => .error (.document ("could not determine a constructor for the tag " ++ name))
      | tag => (p.leafOf number tag).map fun v =>
          { p with parts := p.parts.set! number (some (.leaf v)) }

/-- The value of a key that was met. -/
def keyOf (p : Parts) (number : Nat) : Except Fault Value :=
  match p.parts.getD number none with
  | some (.leaf v) => .ok v
  | _ => .error (.document "found an unhashable key")

/-- Meets the keys and the values of entries. A repeated key keeps its first place and takes its last
value. -/
def meetEntries : Parts → List (Value × Nat) → List (Nat × Nat) →
    Except Fault (Parts × List (Value × Nat))
  | p, done, [] => .ok (p, done)
  | p, done, (key, value) :: rest => do
      let p ← p.meet key
      let k ← p.keyOf key
      let p ← p.meet value
      meetEntries p (Value.put k value done) rest

/-- Meets the entries of a mapping with those that it merges. -/
def meetMapping (p : Parts) (number : Nat) : Except Fault (Parts × List (Value × Nat)) := do
  match (Graph.node p.nodes number).content with
  | .mapping _ =>
      let nodes ← Graph.flatten p.nodes number
      meetEntries { p with nodes := nodes } [] (Graph.node nodes number).entries.toList
  | _ => .error (.document "expected a mapping")

/-- Meets the key and the value of each mapping of one entry. -/
def meetPairs : Parts → List (Nat × Nat × Nat) → List Nat →
    Except Fault (Parts × List (Nat × Nat × Nat))
  | p, done, [] => .ok (p, done.reverse)
  | p, done, item :: rest =>
      match (Graph.node p.nodes item).content with
      | .mapping #[(key, value)] => do
          let p ← p.meet key
          let p ← p.meet value
          meetPairs p ((item, key, value) :: done) rest
      | _ => .error (.document "expected a mapping of length 1")

/-- Takes the turn of a collection. -/
def fill (p : Parts) (number : Nat) : Except Fault Parts := do
  let n := Graph.node p.nodes number
  let finish (p : Parts) (part : Part) : Parts := { p with parts := p.parts.set! number (some part) }
  match n.tag, n.content with
  | .seq, .sequence items => return finish (← items.foldlM meet p) (.list items.toList)
  | .omap, .sequence items =>
      let (p, entries) ← meetPairs p [] items.toList
      return finish p (.pairs entries)
  | .pairs, .sequence items =>
      let (p, entries) ← meetPairs p [] items.toList
      return finish p (.pairs entries)
  | .set, _ =>
      let (p, entries) ← p.meetMapping number
      return finish p (.set (Value.slotOrder (entries.map Prod.fst)))
  | .map, _ =>
      let (p, entries) ← p.meetMapping number
      return finish p (.map entries)
  | _, _ => .error (.document "expected a sequence")

/-- Takes the turns of all collections, level by level; `fuel` bounds the number of levels. -/
def fillAll : Nat → Parts → Except Fault Parts
  | 0, p => .ok p
  | fuel + 1, p => do
      if p.waiting.isEmpty then return p
      else fillAll fuel (← p.waiting.reverse.foldlM fill { p with waiting := [] })

/-- The parts of a document. -/
def ofGraph (document : Nat) (g : Graph) : Except Fault (Array (Option Part)) := do
  let start : Parts := ⟨document, g.nodes, Array.replicate g.nodes.size none, []⟩
  let p ← start.meet g.root
  return (← fillAll (g.nodes.size + 1) p).parts

end Parts

end VersionedApi.Yaml
