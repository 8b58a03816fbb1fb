import VersionedApi.Yaml.Lexer
import VersionedApi.Yaml.Plain

/-!
# Nodes

A document is a graph of scalars, sequences and mappings, each with its tag. A node is known by its number;
an alias stands for the number of the node of its anchor, which may be a node around the alias. The graph is
read from the tokens by descent; a text holds one document at most.

Main definition: `Graph.ofTokens`, the document that tokens spell.
-/

namespace VersionedApi.Yaml

/-- What a node holds. -/
inductive NodeContent where
  | scalar (text : String)
  | sequence (items : Array Nat)
  | mapping (entries : Array (Nat × Nat))
deriving Repr, Inhabited

/-- A node of a document. -/
structure Node where
  tag : Tag
  content : NodeContent
deriving Repr, Inhabited

/-- The nodes of a document, each at the place of its number, and the number of the outermost one. -/
structure Graph where
  nodes : Array Node
  root : Nat
deriving Repr

/-- The names that tags have in full, and the tags themselves. -/
def tagNames : List (String × Tag) :=
  [("null", .null), ("bool", .bool), ("int", .int), ("float", .float), ("str", .text),
    ("binary", .binary), ("timestamp", .timestamp), ("merge", .merge), ("value", .value),
    ("seq", .seq), ("map", .map), ("set", .set), ("omap", .omap), ("pairs", .pairs)]

/-- The tag of a full name. -/
def Tag.ofName (name : String) : Tag :=
  match tagNames.find? fun (short, _) => tagAuthority ++ short == name with
  | some (_, tag) => tag
  | none => .other name

/-- What reading nodes has to remember. -/
structure NodeReader where
  tokens : List Token
  /-- The fault behind the last token. -/
  fault : Option Fault
  /-- The nodes read so far; those around the next token are still empty. -/
  nodes : Array Node
  /-- The numbers of the nodes that have anchors. -/
  anchors : List (String × Nat)
  /-- The expansions of the handles of tags. -/
  handles : List (String × String)

/-- The anchor and the tag in front of a node. -/
structure Properties where
  anchor : Option String
  /-- The full name of the tag, `!` for the one that leaves the choice open. -/
  tag : Option String

namespace Properties

/-- Whether the tag of the node follows from its content. -/
def isOpen (p : Properties) : Bool :=
  p.tag == none || p.tag == some "!"

/-- The tag of a collection. -/
def collectionTag (p : Properties) (default : Tag) : Tag :=
  if p.isOpen then default else Tag.ofName (p.tag.getD "")

/-- The tag of a scalar. -/
def scalarTag (p : Properties) (text : String) (isPlain : Bool) : Tag :=
  match p.tag with
  | none => if isPlain then plainTag text else .text
  | some name => if name == "!" then openTag text else Tag.ofName name

end Properties

/-- The largest number of collections around a node. -/
def nestingLimit : Nat := 485

namespace NodeReader

/-- The reader behind the next token. -/
def skip (r : NodeReader) : NodeReader :=
  { r with tokens := r.tokens.drop 1 }

/-- Whether the next token is one of some kinds. -/
def sees (r : NodeReader) (kinds : List Token) : Bool :=
  r.tokens.head?.any kinds.contains

/-- The fault of a reader that cannot go on: the fault of the text if its tokens are used up, else one of the
document. -/
def fail {α : Type} (r : NodeReader) (reason : String) : Except Fault α :=
  match r.tokens, r.fault with
  | [], some fault => .error fault
  | _, _ => .error (.document reason)

/-- The full name of a tag. -/
def fullName (r : NodeReader) (handle : Option String) (suffix : String) : Except Fault String :=
  match handle with
  | none => .ok suffix
  | some h =>
      match r.handles.lookup h with
      | some expansion => .ok (expansion ++ suffix)
      | none => r.fail "found an undefined handle of a tag"

/-- Reads an anchor and a tag, in any order, at most one of each. An anchor behind a tag is looked for before
the handle of the tag. -/
def properties (r : NodeReader) : Except Fault (Properties × NodeReader) :=
  match r.tokens with
  | .anchor a :: .tag handle suffix :: rest => do
      let name ← r.fullName handle suffix
      return (⟨some a, some name⟩, { r with tokens := rest })
  | .anchor a :: rest => .ok (⟨some a, none⟩, { r with tokens := rest })
  | .tag handle suffix :: .anchor a :: rest => do
      let name ← r.fullName handle suffix
      return (⟨some a, some name⟩, { r with tokens := rest })
  | .tag handle suffix :: rest => do
      let behind := { r with tokens := rest }
      let name ← behind.fullName handle suffix
      return (⟨none, some name⟩, behind)
  | _ => .ok (⟨none, none⟩, r)

/-- Adds a node with the properties in front of it. No two nodes have one anchor. -/
def add (r : NodeReader) (p : Properties) (n : Node) : Except Fault (Nat × NodeReader) :=
  let number := r.nodes.size
  let grown := { r with nodes := r.nodes.push n }
  match p.anchor with
  | none => .ok (number, grown)
  | some name =>
      if (r.anchors.lookup name).isSome then .error (.document "found a duplicate anchor")
      else .ok (number, { grown with anchors := (name, number) :: r.anchors })

/-- Gives a sequence its items. -/
def setItems (r : NodeReader) (number : Nat) (items : List Nat) : NodeReader :=
  { r with nodes := r.nodes.modify number fun n => { n with content := .sequence items.toArray } }

/-- Gives a mapping its entries. -/
def setEntries (r : NodeReader) (number : Nat) (entries : List (Nat × Nat)) : NodeReader :=
  { r with nodes := r.nodes.modify number fun n => { n with content := .mapping entries.toArray } }

/-- The node of an alias. -/
def aliased (r : NodeReader) (name : String) : Except Fault Nat :=
  match r.anchors.lookup name with
  | some number => .ok number
  | none => .error (.document "found an undefined alias")

/-- Adds the scalar that stands where nothing is written. -/
def addEmpty (r : NodeReader) : Nat × NodeReader :=
  (r.nodes.size, { r with nodes := r.nodes.push ⟨.null, .scalar ""⟩ })

end NodeReader

/-- Where a node stands: in a flow collection, in a block, or in a block mapping, where the dashes of a
sequence need not be indented. -/
inductive Place where
  | flow
  | block
  | mappingBlock
deriving DecidableEq, Repr

/-- The fault of reading on without end, which the bound on the number of calls excludes. -/
def unboundedFault : Fault :=
  .document "found more nodes than tokens"

mutual

/-- Reads a node inside a number of collections. In all functions here `fuel` bounds the number of calls. -/
def readNode : Nat → Nat → Place → NodeReader → Except Fault (Nat × NodeReader)
  | 0, _, _, _ => .error unboundedFault
  | fuel + 1, depth, place, r =>
      if nestingLimit < depth then .error (.misuse .tooDeep)
      else
        match r.tokens with
        | .alias name :: _ => do
            let number ← r.aliased name
            return (number, r.skip)
        | _ => do
            let (p, r) ← r.properties
            readContent fuel depth place p r

/-- Reads what follows the anchor and the tag of a node. -/
def readContent : Nat → Nat → Place → Properties → NodeReader → Except Fault (Nat × NodeReader)
  | 0, _, _, _, _ => .error unboundedFault
  | fuel + 1, depth, place, p, r =>
      match r.tokens with
      | .scalar text isPlain :: _ => r.skip.add p ⟨p.scalarTag text isPlain, .scalar text⟩
      | .flowSequenceStart :: _ => do
          let (number, r) ← r.skip.add p ⟨p.collectionTag .seq, .sequence #[]⟩
          let (items, r) ← readFlowItems fuel (depth + 1) true r
          return (number, r.setItems number items)
      | .flowMappingStart :: _ => do
          let (number, r) ← r.skip.add p ⟨p.collectionTag .map, .mapping #[]⟩
          let (entries, r) ← readFlowEntries fuel (depth + 1) true r
          return (number, r.setEntries number entries)
      | .blockEntry :: _ =>
          if place = .mappingBlock then do
            let (number, r) ← r.add p ⟨p.collectionTag .seq, .sequence #[]⟩
            let (items, r) ← readDashes fuel (depth + 1) r
            return (number, r.setItems number items)
          else missingContent p r
      | .blockSequenceStart :: _ =>
          if place ≠ .flow then do
            let (number, r) ← r.skip.add p ⟨p.collectionTag .seq, .sequence #[]⟩
            let (items, r) ← readBlockItems fuel (depth + 1) r
            return (number, r.setItems number items)
          else missingContent p r
      | .blockMappingStart :: _ =>
          if place ≠ .flow then do
            let (number, r) ← r.skip.add p ⟨p.collectionTag .map, .mapping #[]⟩
            let (entries, r) ← readBlockEntries fuel (depth + 1) r
            return (number, r.setEntries number entries)
          else missingContent p r
      | _ => missingContent p r

/-- A node without content: allowed behind an anchor or a tag only. -/
def missingContent (p : Properties) (r : NodeReader) : Except Fault (Nat × NodeReader) :=
  if r.tokens.isEmpty && r.fault.isSome then r.fail "expected the content of a node"
  else if p.anchor.isSome || p.tag.isSome then
    r.add p ⟨if p.isOpen then .null else Tag.ofName (p.tag.getD ""), .scalar ""⟩
  else r.fail "expected the content of a node"

/-- Reads a node, or an empty one if a token of the given kinds follows. -/
def readUnless : Nat → Nat → List Token → Place → NodeReader → Except Fault (Nat × NodeReader)
  | 0, _, _, _, _ => .error unboundedFault
  | fuel + 1, depth, kinds, place, r =>
      if r.sees kinds then .ok r.addEmpty else readNode fuel depth place r

/-- Reads the items of a block sequence and its end. -/
def readBlockItems : Nat → Nat → NodeReader → Except Fault (List Nat × NodeReader)
  | 0, _, _ => .error unboundedFault
  | fuel + 1, depth, r =>
      match r.tokens with
      | .blockEntry :: _ => do
          let (item, r) ← readUnless fuel depth [.blockEntry, .blockEnd] .block r.skip
          let (others, r) ← readBlockItems fuel depth r
          return (item :: others, r)
      | .blockEnd :: _ => .ok ([], r.skip)
      | _ => r.fail "expected the end of a block sequence"

/-- Reads the items of a sequence whose dashes are not indented. -/
def readDashes : Nat → Nat → NodeReader → Except Fault (List Nat × NodeReader)
  | 0, _, _ => .error unboundedFault
  | fuel + 1, depth, r =>
      match r.tokens with
      | .blockEntry :: _ => do
          let (item, r) ← readUnless fuel depth [.blockEntry, .key, .value, .blockEnd] .block r.skip
          let (others, r) ← readDashes fuel depth r
          return (item :: others, r)
      | _ => .ok ([], r)

/-- Reads the entries of a block mapping and its end. -/
def readBlockEntries : Nat → Nat → NodeReader → Except Fault (List (Nat × Nat) × NodeReader)
  | 0, _, _ => .error unboundedFault
  | fuel + 1, depth, r =>
      match r.tokens with
      | .key :: _ => do
          let (k, r) ← readUnless fuel depth [.key, .value, .blockEnd] .mappingBlock r.skip
          let (v, r) ← readBlockValue fuel depth r
          let (others, r) ← readBlockEntries fuel depth r
          return ((k, v) :: others, r)
      | .blockEnd :: _ => .ok ([], r.skip)
      | _ => r.fail "expected the end of a block mapping"

/-- Reads the value of a key of a block mapping. -/
def readBlockValue : Nat → Nat → NodeReader → Except Fault (Nat × NodeReader)
  | 0, _, _ => .error unboundedFault
  | fuel + 1, depth, r =>
      match r.tokens with
      | .value :: _ => readUnless fuel depth [.key, .value, .blockEnd] .mappingBlock r.skip
      | _ => .ok r.addEmpty

/-- Reads the items of a flow sequence and its end. -/
def readFlowItems : Nat → Nat → Bool → NodeReader → Except Fault (List Nat × NodeReader)
  | 0, _, _, _ => .error unboundedFault
  | fuel + 1, depth, isFirst, r =>
      if r.sees [.flowSequenceEnd] then .ok ([], r.skip)
      else if !isFirst && !r.sees [.flowEntry] then r.fail "expected a comma or the end of a sequence"
      else
        let r := if isFirst then r else r.skip
        match r.tokens with
        | .flowSequenceEnd :: _ => .ok ([], r.skip)
        | .key :: _ => do
            let (number, r) ← r.skip.add ⟨none, none⟩ ⟨.map, .mapping #[]⟩
            let (k, r) ← readUnless fuel (depth + 1) [.value, .flowEntry, .flowSequenceEnd] .flow r
            let (v, r) ← readFlowValue fuel (depth + 1) .flowSequenceEnd r
            let (others, r) ← readFlowItems fuel depth false (r.setEntries number [(k, v)])
            return (number :: others, r)
        | _ => do
            let (item, r) ← readNode fuel depth .flow r
            let (others, r) ← readFlowItems fuel depth false r
            return (item :: others, r)

/-- Reads the value of a key in a flow collection with the given end. -/
def readFlowValue : Nat → Nat → Token → NodeReader → Except Fault (Nat × NodeReader)
  | 0, _, _, _ => .error unboundedFault
  | fuel + 1, depth, ending, r =>
      match r.tokens with
      | .value :: _ => readUnless fuel depth [.flowEntry, ending] .flow r.skip
      | _ => .ok r.addEmpty

/-- Reads the entries of a flow mapping and its end. -/
def readFlowEntries : Nat → Nat → Bool → NodeReader → Except Fault (List (Nat × Nat) × NodeReader)
  | 0, _, _, _ => .error unboundedFault
  | fuel + 1, depth, isFirst, r =>
      if r.sees [.flowMappingEnd] then .ok ([], r.skip)
      else if !isFirst && !r.sees [.flowEntry] then r.fail "expected a comma or the end of a mapping"
      else
        let r := if isFirst then r else r.skip
        match r.tokens with
        | .flowMappingEnd :: _ => .ok ([], r.skip)
        | .key :: _ => do
            let (k, r) ← readUnless fuel depth [.value, .flowEntry, .flowMappingEnd] .flow r.skip
            let (v, r) ← readFlowValue fuel depth .flowMappingEnd r
            let (others, r) ← readFlowEntries fuel depth false r
            return ((k, v) :: others, r)
        | _ => do
            let (k, r) ← readNode fuel depth .flow r
            let (v, r) := r.addEmpty
            let (others, r) ← readFlowEntries fuel depth false r
            return ((k, v) :: others, r)

end

/-! ## Documents -/

/-- The handles that every document has. -/
def defaultHandles : List (String × String) :=
  [("!", "!"), ("!!", tagAuthority)]

/-- Reads the directives in front of a document: whether one gives the version, and the handles. -/
def readDirectives : Bool → List (String × String) → List Token →
    Except Fault (List (String × String) × List Token)
  | versioned, handles, tokens =>
      match tokens with
      | .versionDirective major :: rest =>
          if versioned then .error (.document "found a duplicate version directive")
          else if major ≠ 1 then .error (.document "found an incompatible document")
          else readDirectives true handles rest
      | .tagDirective handle expansion :: rest =>
          if (handles.lookup handle).isSome then .error (.document "found a duplicate handle of a tag")
          else readDirectives versioned (handles ++ [(handle, expansion)]) rest
      | .otherDirective :: rest => readDirectives versioned handles rest
      | _ => .ok (handles, tokens)

/-- Whether a document starts without a marker. -/
def startsImplicitly : List Token → Bool
  | [] => false
  | .versionDirective _ :: _ => false
  | .tagDirective _ _ :: _ => false
  | .otherDirective :: _ => false
  | .documentStart :: _ => false
  | _ => true

/-- Whether a document that starts with a marker has no content. -/
def endsAtOnce : List Token → Bool
  | [] => true
  | .versionDirective _ :: _ => true
  | .tagDirective _ _ :: _ => true
  | .otherDirective :: _ => true
  | .documentStart :: _ => true
  | .documentEnd :: _ => true
  | _ => false

/-- Drops the markers of the end of a document. -/
def dropEnds : List Token → List Token
  | .documentEnd :: rest => dropEnds rest
  | tokens => tokens

/-- Checks that nothing follows a document with a given root. -/
def onlyDocument (root : Nat) (r : NodeReader) : Except Fault (Option Graph) := do
  let r := { r with tokens := dropEnds r.tokens }
  if r.tokens.isEmpty && r.fault.isNone then return some ⟨r.nodes, root⟩
  else
    let (_, tokens) ← readDirectives false [] r.tokens
    { r with tokens := tokens }.fail "expected a single document in the text"

namespace Graph

/-- Reads the document behind the marker of its start, or one that starts without a marker. -/
def ofDocument (r : NodeReader) (isExplicit : Bool) : Except Fault (Option Graph) := do
  if isExplicit && endsAtOnce r.tokens then
    if r.tokens.isEmpty && r.fault.isSome then r.fail "expected the content of a document"
    else
      let (root, r) := r.addEmpty
      onlyDocument root r
  else
    let (root, r) ← readNode (4 * r.tokens.length + 16) 0 .block r
    onlyDocument root r

/-- The document that tokens spell; none if they spell no document. -/
def ofTokens (stream : TokenStream) : Except Fault (Option Graph) := do
  if startsImplicitly stream.tokens then
    ofDocument ⟨stream.tokens, stream.fault, #[], [], defaultHandles⟩ false
  else
    let tokens := dropEnds stream.tokens
    if tokens.isEmpty && stream.fault.isNone then return none
    else
      let (handles, tokens) ← readDirectives false [] tokens
      let others := defaultHandles.filter fun (h, _) => (handles.lookup h).isNone
      let r : NodeReader := ⟨tokens, stream.fault, #[], [], handles ++ others⟩
      match tokens with
      | .documentStart :: _ => ofDocument r.skip true
      | _ => r.fail "expected the start of a document"

end Graph

end VersionedApi.Yaml
