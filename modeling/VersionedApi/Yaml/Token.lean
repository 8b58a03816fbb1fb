import VersionedApi.Failure.Misuse

/-!
# Tokens and faults

The tokens of the format, and why a text has no value.
-/

namespace VersionedApi.Yaml

/-!
## Faults

The document itself is in error, or one of its scalars is misused.
-/

/-- Why a text has no value. -/
inductive Fault where
  /-- A scalar has no meaning for what it was taken as. -/
  | misuse (m : Misuse)
  /-- The document is in error. -/
  | document (reason : String)
deriving Repr

/-!
## Tokens

Keys and the starts and ends of blocks have tokens of their own, whether or not the text spells them.
-/

/-- A token. -/
inductive Token where
  | versionDirective (major : Nat)
  | tagDirective (handle expansion : String)
  | otherDirective
  | documentStart
  | documentEnd
  | blockSequenceStart
  | blockMappingStart
  | blockEnd
  | flowSequenceStart
  | flowSequenceEnd
  | flowMappingStart
  | flowMappingEnd
  | blockEntry
  | flowEntry
  | key
  | value
  | alias (name : String)
  | anchor (name : String)
  | tag (handle : Option String) (suffix : String)
  | scalar (text : String) (isPlain : Bool)
deriving DecidableEq, Repr, Inhabited

end VersionedApi.Yaml
