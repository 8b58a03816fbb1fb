/-!
# Options and operands

The arguments of a command are options and operands. An option is spelled with two dashes and a word or
with one dash and a letter. Letters may share a dash; an option with a value takes the rest of its
argument or the next one, whatever that looks like. Two dashes alone end the options.

Main definitions: `Grammar`, the options that a command has, and `Grammar.read`, which sorts arguments
into options and operands.
-/

namespace VersionedApi.CommandLine

/-- Why the arguments of a command have no meaning. -/
inductive UsageError where
  | unknownOption (spelling : String)
  | valueMissing (spelling : String)
  | valueUnexpected (spelling : String)
  | commandMissing
  | unknownCommand (name : String)
  | operandMissing (name : String)
  | operandUnexpected (operand : String)
  | badNumber (spelling value : String)
deriving DecidableEq, Repr

/-- The text of a usage error. -/
def UsageError.message : UsageError → String
  | .unknownOption spelling => s!"No such option: {spelling}"
  | .valueMissing spelling => s!"Option '{spelling}' requires an argument."
  | .valueUnexpected spelling => s!"Option '{spelling}' does not take a value."
  | .commandMissing => "Missing command."
  | .unknownCommand name => s!"No such command '{name}'."
  | .operandMissing name => s!"Missing argument '{name}'."
  | .operandUnexpected operand => s!"Got unexpected extra argument ({operand})"
  | .badNumber spelling value => s!"Invalid value for '{spelling}': '{value}'"

/-- An option: its spellings, whether it takes a value, and what it stands for. -/
structure OptionForm (ω : Type) where
  spellings : List String
  takesValue : Bool
  meaning : ω
deriving Repr

/-- An option that was given, with its value or the empty text. -/
structure Given (ω : Type) where
  meaning : ω
  value : String
deriving DecidableEq, Repr

/-- The arguments of a command, sorted. -/
structure Arguments (ω : Type) where
  given : List (Given ω)
  operands : List String
deriving DecidableEq, Repr

/-- The options of a command, and whether they may stand behind operands. -/
structure Grammar (ω : Type) where
  forms : List (OptionForm ω)
  mixed : Bool
deriving Repr

/-- The options in one argument. The last one may still need the next argument as its value. -/
structure Piece (ω : Type) where
  given : List (Given ω)
  waiting : Option (String × ω)
deriving Repr

namespace Grammar

variable {ω : Type}

/-- The option of a spelling. -/
def form? (g : Grammar ω) (spelling : String) : Option (OptionForm ω) :=
  g.forms.find? fun f => f.spellings.contains spelling

/-- Reads letters behind a dash. -/
def readLetters (g : Grammar ω) : List Char → Except UsageError (Piece ω)
  | [] => .ok ⟨[], none⟩
  | c :: rest =>
      let spelling := String.ofList ['-', c]
      match g.form? spelling with
      | none => .error (.unknownOption spelling)
      | some f =>
          if f.takesValue then
            if rest.isEmpty then .ok ⟨[], some (spelling, f.meaning)⟩
            else .ok ⟨[⟨f.meaning, String.ofList rest⟩], none⟩
          else (readLetters g rest).map fun piece => { piece with given := ⟨f.meaning, ""⟩ :: piece.given }

/-- Cuts an argument at its first equals sign. -/
def splitEquals (argument : List Char) : List Char × Option (List Char) :=
  let word := argument.takeWhile fun c => c != '='
  match argument.drop word.length with
  | _ :: value => (word, some value)
  | [] => (word, none)

/-- Reads an argument that starts with a dash. -/
def readPiece (g : Grammar ω) (argument : String) : Except UsageError (Piece ω) :=
  let (word, value) := splitEquals argument.toList
  let spelling := String.ofList word
  match word with
  | '-' :: '-' :: _ =>
      match g.form? spelling with
      | none => .error (.unknownOption spelling)
      | some f =>
          match f.takesValue, value with
          | true, some v => .ok ⟨[⟨f.meaning, String.ofList v⟩], none⟩
          | true, none => .ok ⟨[], some (spelling, f.meaning)⟩
          | false, some _ => .error (.valueUnexpected spelling)
          | false, none => .ok ⟨[⟨f.meaning, ""⟩], none⟩
  | _ => g.readLetters (argument.toList.drop 1)

/-- Whether an argument looks like an option. -/
def isOption (argument : String) : Bool :=
  match argument.toList with
  | '-' :: _ :: _ => true
  | _ => false

/-- Puts options in front of sorted arguments. -/
def withGiven (given : List (Given ω)) (rest : Except UsageError (Arguments ω)) :
    Except UsageError (Arguments ω) :=
  rest.map fun a => { a with given := given ++ a.given }

/-- Puts an operand in front of sorted arguments. -/
def withOperand (operand : String) (rest : Except UsageError (Arguments ω)) :
    Except UsageError (Arguments ω) :=
  rest.map fun a => { a with operands := operand :: a.operands }

/-- Sorts arguments, some options of which were read before and one of which may wait for its value. -/
def readFrom (g : Grammar ω) : Option (String × ω) → List String → Except UsageError (Arguments ω)
  | some (spelling, _), [] => .error (.valueMissing spelling)
  | some (_, meaning), value :: rest => withGiven [⟨meaning, value⟩] (readFrom g none rest)
  | none, [] => .ok ⟨[], []⟩
  | none, argument :: rest =>
      if argument == "--" then .ok ⟨[], rest⟩
      else if isOption argument then
        match g.readPiece argument with
        | .error e => .error e
        | .ok piece => withGiven piece.given (readFrom g piece.waiting rest)
      else if g.mixed then withOperand argument (readFrom g none rest)
      else .ok ⟨[], argument :: rest⟩

/-- Sorts the arguments of a command. -/
def read (g : Grammar ω) (arguments : List String) : Except UsageError (Arguments ω) :=
  g.readFrom none arguments

end Grammar

namespace Arguments

variable {ω : Type} [BEq ω]

/-- The values of an option, in the order in which they were given. -/
def values (a : Arguments ω) (meaning : ω) : List String :=
  (a.given.filter fun g => g.meaning == meaning).map (·.value)

/-- The value of an option that counts: the last one. -/
def value? (a : Arguments ω) (meaning : ω) : Option String :=
  (a.values meaning).getLast?

/-- Whether an option was given. -/
def has (a : Arguments ω) (meaning : ω) : Bool :=
  a.given.any fun g => g.meaning == meaning

end Arguments

end VersionedApi.CommandLine
