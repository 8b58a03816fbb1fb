import VersionedApi.Yaml.Part

/-!
# Unfolding

The parts of a document are put together to its value. Parts that lead to themselves have an endless
value: they are unfolded down to a depth that no reading reaches, and each bears a mark, by which it is
recognized when it is met inside itself. A text is read as tokens, these as the nodes of a document, and its
nodes as parts.

Main definitions: `Parts.value`, and `Value.ofYaml`, the value of a text.
-/

namespace VersionedApi.Yaml

namespace Part

/-- The nodes that a part holds. -/
def held : Part → List Nat
  | .leaf _ => []
  | .list items => items
  | .map entries => entries.map Prod.snd
  | .set _ => []
  | .pairs entries => entries.flatMap fun (_, key, value) => [key, value]

/-- Puts a part together from the values of the nodes that it holds. Collections and pairs bear marks if
`mark` gives them; the marks of pairs are asked for at the numbers of their mappings. -/
def assemble (value : Nat → Value) (loop : Option Mark) (mark : Nat → Option Mark) : Part → Value
  | .leaf v => v
  | .list items => .list loop (items.map value)
  | .map entries => .map loop (entries.map fun (key, item) => (key, value item))
  | .set members => .set members
  | .pairs entries =>
      .list loop (entries.map fun (item, key, second) => .pair (mark item) (value key) (value second))

end Part

/-- How far the value of a node is known. -/
inductive Settled where
  | unseen
  /-- The node is around the one that is looked at. -/
  | around
  | known (v : Value)
  /-- The node leads to a node around itself. -/
  | endless
deriving Repr, Inhabited

namespace Parts

/-- The part of a node. -/
def partOf (parts : Array (Option Part)) (number : Nat) : Part :=
  (parts.getD number none).getD (.leaf .null)

/-- The value of a node as far as it is known. -/
def knownValue (settled : Array Settled) (number : Nat) : Value :=
  match settled.getD number .unseen with
  | .known v => v
  | _ => .null

/-- Whether the value of a node is known. -/
def isKnown (settled : Array Settled) (number : Nat) : Bool :=
  match settled.getD number .unseen with
  | .known _ => true
  | _ => false

/-- Finds the values of a node and of those that it leads to, the endless ones apart; `fuel` bounds the
length of the way to a node. -/
def settle (parts : Array (Option Part)) : Nat → Array Settled → Nat → Array Settled
  | 0, settled, _ => settled
  | fuel + 1, settled, number =>
      match settled.getD number .unseen with
      | .unseen =>
          let part := partOf parts number
          let inside := part.held.foldl (settle parts fuel) (settled.set! number .around)
          let result : Settled :=
            if part.held.all (isKnown inside) then
              .known (part.assemble (knownValue inside) none fun _ => none)
            else .endless
          inside.set! number result
      | _ => settled

/-- The depth down to which endless values are unfolded. -/
def unfoldedDepth : Nat := 1100

/-- The marks of the collections of a document and of its pairs, which are told apart. -/
def markOf (document count : Nat) (isPair : Bool) (number : Nat) : Mark :=
  .ofDocument document (if isPair then count + number else number)

/-- Unfolds all endless nodes one level further. -/
def unfoldOnce (parts : Array (Option Part)) (document : Nat) (endless : List Nat)
    (values : Array Value) : Array Value :=
  let value (number : Nat) : Value := values.getD number .null
  let mark := markOf document parts.size
  endless.foldl (fun after number =>
    after.set! number ((partOf parts number).assemble value (some (mark false number))
      fun item => some (mark true item))) values

/-- Unfolds all endless nodes a number of levels further. -/
def unfold (parts : Array (Option Part)) (document : Nat) (endless : List Nat) :
    Nat → Array Value → Array Value
  | 0, values => values
  | depth + 1, values => unfold parts document endless depth (unfoldOnce parts document endless values)

/-- Whether a node is endless. -/
def isEndless (settled : Array Settled) (number : Nat) : Bool :=
  match settled.getD number .unseen with
  | .endless => true
  | _ => false

/-- The value of a node of a document with the given parts. -/
def value (parts : Array (Option Part)) (document root : Nat) : Value :=
  let settled := settle parts (parts.size + 1) (Array.replicate parts.size .unseen) root
  if isEndless settled root then
    let endless := (List.range parts.size).filter (isEndless settled)
    let start := (Array.range parts.size).map (knownValue settled)
    (unfold parts document endless unfoldedDepth start).getD root .null
  else knownValue settled root

end Parts

end VersionedApi.Yaml

namespace VersionedApi

/-- The value of the document with a number; none if its text holds no document. -/
def Value.ofYaml (document : Nat) (text : String) : Except Yaml.Fault (Option Value) := do
  match ← Yaml.Graph.ofTokens (Yaml.TokenStream.ofText text) with
  | none => return none
  | some g => return some (Yaml.Parts.value (← Yaml.Parts.ofGraph document g) document g.root)

end VersionedApi

