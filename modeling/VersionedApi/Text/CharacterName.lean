import VersionedApi.Text.CharacterName.Basic
import VersionedApi.Text.CharacterName.Letters
import VersionedApi.Text.CharacterName.Signs

/-!
# Names of characters

A character is found by its name. Capital and small letters are alike in names that are listed, but not at the
start of those that are composed.

Main definition: `charOfName?`.
-/

namespace VersionedApi.Text

/-- The names that are listed. -/
def nameRuns : List NameRun :=
  NameRun.latin ++ NameRun.latinMore ++ NameRun.marks ++ NameRun.wide ++ NameRun.greek ++ NameRun.cyrillic ++
    NameRun.semitic ++ NameRun.kana ++ NameRun.punctuation ++ NameRun.letterlike ++ NameRun.mathematics ++
    NameRun.specials ++ NameRun.enclosed ++ NameRun.boxes ++ NameRun.ornaments ++ NameRun.pictures ++
    NameRun.faces ++ NameRun.morePictures

/-- What stands behind the first words of a name, if it starts with them. -/
def behind? (start : String) (name : List Char) : Option (List Char) :=
  if start.toList.isPrefixOf name then some (name.drop start.length) else none

/-- The code point of a name that is listed, in capital letters. -/
def codeOfListed? (name : String) : Option Nat :=
  (nameRuns.findSome? fun run => run.code? (name.splitOn " ")).or <|
    (codeOfNickname? name).or <|
      ((behind? "VARIATION SELECTOR-" name.toList).or (behind? "VS" name.toList)).bind codeOfSelector?

/-- The code point of a name. -/
def codeOfName? (name : List Char) : Option Nat :=
  match behind? "HANGUL SYLLABLE " name with
  | some sounds => codeOfSyllable? sounds
  | none =>
      match behind? "CJK UNIFIED IDEOGRAPH-" name with
      | some digits => codeOfIdeograph? digits
      | none => codeOfListed? (String.ofList (name.map Char.toUpper))

/-- The character of a name. -/
def charOfName? (name : List Char) : Option Char :=
  (codeOfName? name).map Char.ofNat

end VersionedApi.Text
