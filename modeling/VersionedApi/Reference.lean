import VersionedApi.Failure.Basic
import VersionedApi.Pointer
import VersionedApi.Text.Integer

/-!
# References inside a document

A reference is an object with a `$ref` entry that points at another place of the same document.
References are followed one node at a time, so that the modeler learns which component a node came from.
A chain of references that comes back to one of its own hops, or to a place that is being visited, is
cyclic.

Main definitions:

* `Document.lookup`: the node that a reference points at;
* `Document.resolve`: the node at the end of a chain of references;
* `Visits.enter`: puts a place on the stack of places being visited.
-/

namespace VersionedApi

/-- A document with its name. -/
structure Document where
  root : Value
  name : Option String
deriving Repr, Inhabited

/-- The node at the end of a chain of references, the component it was found under (if the chain is not
empty) and its place. -/
structure Resolved where
  node : Value
  component : Option String
  pointer : String
deriving Repr

/-- The places being visited, the outermost first. -/
abbrev Visits := List String

/-- What a node refers to, if it is a reference. -/
def Value.reference? : Value → Option Value
  | .map _ entries => Value.lookup? "$ref" entries
  | _ => none

mutual

/-- The number of references inside a value that stands inside collections with the given marks. A
collection that is met inside itself is not counted again. -/
def Value.referenceCountWithin (around : List Mark) : Value → Nat
  | .list loop items =>
      if Value.isMetAgain around loop then 0
      else Value.referenceCountItems (loop.toList ++ around) items
  | .map loop entries =>
      if Value.isMetAgain around loop then 0
      else
        (if Value.hasEntry entries "$ref" then 1 else 0) +
          Value.referenceCountEntries (loop.toList ++ around) entries
  | _ => 0

/-- The number of references inside the items of a list. -/
def Value.referenceCountItems (around : List Mark) : List Value → Nat
  | [] => 0
  | v :: rest => Value.referenceCountWithin around v + Value.referenceCountItems around rest

/-- The number of references inside the values of an object. -/
def Value.referenceCountEntries (around : List Mark) : List (Value × Value) → Nat
  | [] => 0
  | (_, v) :: rest => Value.referenceCountWithin around v + Value.referenceCountEntries around rest

end

/-- The number of references inside a value. -/
def Value.referenceCount (v : Value) : Nat :=
  v.referenceCountWithin []

namespace Document

/-- The index that a segment names: its digits must all be decimal ones, and not too many. -/
def index (segment : String) : Except Misuse Nat :=
  (Text.integer segment).map Int.toNat

/-- The child of a node under a segment: an entry of an object, or an item of a list. -/
def child? (node : Value) (segment : String) : Except Misuse (Option Value) :=
  match node with
  | .map _ entries => .ok (Value.lookup? segment entries)
  | .list _ items =>
      if Text.allDigitLike segment then (index segment).map fun i => items[i]?
      else .ok none
  | _ => .ok none

/-- Walks down from a node; a segment that leads nowhere is reported at the given place. -/
def walk (document : Option String) (place : Option String) (ref : String) :
    Value → List String → Except Failure Value
  | node, [] => .ok node
  | node, segment :: rest =>
      match child? node segment with
      | .error m => .error (.misuse m)
      | .ok (some next) => walk document place ref next rest
      | .ok none => .error (.located (.danglingReference ref segment) document place)

/-- The node that a reference points at, without following references further. -/
def lookup (d : Document) (ref : Value) (place : Option String) : Except Failure Value :=
  match ref with
  | .text s =>
      if s.startsWith "#/" then walk d.name place s d.root (Pointer.segments s)
      else .error (.located (.externalReference ref) d.name place)
  | _ => .error (.located (.externalReference ref) d.name place)

/-- Follows references from a node. `chain` holds the hops taken so far, the first one first; `fuel`
bounds their number. -/
def follow (d : Document) (visits : Visits) :
    Nat → List String → Resolved → Except Failure Resolved
  | 0, _, _ => .error (.misuse .tooDeep)
  | fuel + 1, chain, here =>
      match here.node.reference? with
      | none => .ok here
      | some ref =>
          match ref with
          | .text hop =>
              if chain.contains hop || visits.contains hop then
                .error (.located (.cyclicReference (visits ++ chain ++ [hop])) d.name
                  (some here.pointer))
              else do
                let node ← d.lookup ref (some here.pointer)
                follow d visits fuel (chain ++ [hop]) ⟨node, Pointer.component? hop, hop⟩
          | _ =>
              match ref.keyFault? with
              | some part => .error (.misuse (.notKey part.typeName))
              | none => .error (.located (.externalReference ref) d.name (some here.pointer))

/-- How many hops are taken before the references of the document are counted. -/
def shortChain : Nat := 64

/-- The node at the end of the references that start at a node. The number of hops is bounded by the
number of references that the document and the node hold, since no hop is taken twice; they are counted
only for a long chain. -/
def resolve (d : Document) (visits : Visits) (node : Value) (pointer : String) :
    Except Failure Resolved :=
  match d.follow visits shortChain [] ⟨node, none, pointer⟩ with
  | .error (.misuse .tooDeep) =>
      d.follow visits (d.root.referenceCount + 2) [] ⟨node, none, pointer⟩
  | outcome => outcome

/-- Puts a place on the stack of places being visited; a place that is there already is cyclic. -/
def enter (d : Document) (visits : Visits) (pointer : String) : Except Failure Visits :=
  if visits.contains pointer then
    .error (.located (.cyclicReference (visits ++ [pointer])) d.name (some pointer))
  else .ok (visits ++ [pointer])

/-- A place can be visited exactly when it is not being visited; it then is the innermost one. -/
theorem enter_eq_ok_iff {d : Document} {visits after : Visits} {pointer : String} :
    d.enter visits pointer = .ok after ↔ pointer ∉ visits ∧ after = visits ++ [pointer] := by
  unfold enter
  split
  next h => simp_all
  next h => simp_all [eq_comm]

end Document

end VersionedApi
