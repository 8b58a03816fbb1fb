import VersionedApi.Value.Equality
import VersionedApi.Value.Text

/-!
# Labels

What an identifier was derived from: a value of the document, or the text of an error response together
with its status code.
-/

namespace VersionedApi

/-- The origin of an identifier. -/
inductive Label where
  | value (v : Value)
  | status (code : Nat) (text : String)
deriving Repr

namespace Label

/-- The text of a label in messages. -/
def quoted : Label → String
  | .value v => v.quoted
  | .status code text => s!"({code}, " ++ Text.quoted text ++ ")"

/-- The values whose text the text of a label holds. -/
def shownValues : Label → List Value
  | .value v => [v]
  | .status .. => []

/-- Whether two labels count as the same one, if their comparison ends. -/
def compared : Label → Label → Option Bool
  | .value a, .value b => a.equal? b
  | .status c s, .status d t => some (c == d && s == t)
  | _, _ => some false

/-- Whether two labels are found to be the same one. -/
def same (a b : Label) : Bool :=
  a.compared b == some true

end Label

end VersionedApi
