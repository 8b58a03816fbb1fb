import VersionedApi.Text.Charset.Escaped
import VersionedApi.Text.Charset.Punycode
import VersionedApi.Text.Charset.Switched
import VersionedApi.Text.Charset.Unicode
import VersionedApi.Text.OctetTable.Known

/-!
# Character sets

The bytes of an answer are read in the character set that the answer names. Bytes that are no characters
of the set become replacement characters. Some names stand for codings that are known but are no character
sets, or do not replace anything: to read in them is a fault.

Main definitions: `Charset.ofName?`, the character set of a name, `Charset.decode`, which replaces, and
`Charset.decodeExact`, which does not.
-/

namespace VersionedApi.Text

/-- A character set. -/
inductive Charset where
  /-- UTF-8, with a byte order mark that is dropped if `marked` is set. -/
  | utf8 (marked : Bool)
  /-- UTF-16; a byte order mark tells an order that is not given. -/
  | utf16 (order : Option ByteOrder)
  /-- UTF-32; a byte order mark tells an order that is not given. -/
  | utf32 (order : Option ByteOrder)
  | utf7
  /-- Bytes as the characters of their numbers, with escapes in the raw form or the full one. -/
  | escaped (raw : Bool)
  | punycode
  /-- One byte for each character. -/
  | octets (table : OctetTable)
  /-- The extended Japanese coding, of an edition of the extended standard if one is given. -/
  | japanese (edition : Option Japanese.Edition)
  | shifted (kind : Japanese.Shifted)
  | switched (coding : Switched.Coding)
  | korean (coding : Korean.Coding)
  | simplified (extension : Chinese.Extension)
  /-- Simplified ideographs between tildes. -/
  | tilde
  | traditional (addition : Chinese.Addition)
  /-- Names of domains, which are never read in spite of faults. -/
  | domain
  /-- A coding that does not read bytes as text. -/
  | refused (fault : CodingFault)
deriving DecidableEq, Repr

namespace Charset

/-! ## Reading -/

/-- Reads bytes. Units whose order is not given need a mark of it if `marked` is set. -/
def reading (charset : Charset) (marked : Bool) (bytes : List UInt8) : Reading :=
  match charset with
  | .utf8 false => .ofItems (utf8From none bytes)
  | .utf8 true => .ofItems (withoutMark (utf8From none bytes))
  | .utf16 (some order) => .ofItems (utf16From order none bytes)
  | .utf16 none =>
      let items := fun order => utf16From order none
      if marked then readMarked 2 items bytes else readAssumed 2 items bytes
  | .utf32 (some order) => .ofItems (utf32From order bytes)
  | .utf32 none => if marked then readMarked 4 utf32From bytes else readAssumed 4 utf32From bytes
  | .utf7 => Utf7.decoder.read bytes
  | .escaped true => Escaped.raw.read bytes
  | .escaped false => Escaped.full.read bytes
  | .punycode => Punycode.read bytes
  | .octets table => .ofItems (table.characters bytes)
  | .japanese edition => (Japanese.extended edition).read bytes
  | .shifted kind => (Japanese.shifted kind).read bytes
  | .switched coding => (Switched.decoder coding).read bytes
  | .korean coding => (Korean.decoder coding).read bytes
  | .simplified extension => (Chinese.simplified extension).read bytes
  | .tilde => Chinese.tilde.read bytes
  | .traditional addition => (Chinese.traditional addition).read bytes
  | .domain => .failed (.noReplacement "Unsupported error handling replace")
  | .refused fault => .failed fault

/-- The text of bytes. No bytes are the empty text in every coding. -/
def decode (charset : Charset) (bytes : List UInt8) : Except CodingFault String :=
  if bytes.isEmpty then .ok ""
  else
    let r := charset.reading true bytes
    match r.fault with
    | some fault => .error fault
    | none => .ok (String.ofList r.text)

/-- The text of bytes, if all of them belong to characters. -/
def decodeExact (charset : Charset) (bytes : List UInt8) : Except CodingFault (Option String) :=
  if bytes.isEmpty then .ok (some "")
  else
    let r : Reading := match charset with
      | .domain => .ofItems (OctetTable.ascii.characters bytes)
      | _ => charset.reading false bytes
    match r.exact, r.fault with
    | false, _ => .ok none
    | true, none => .ok (some (String.ofList r.text))
    | true, some fault => if fault.isOfBytes then .ok none else .error fault

/-- The empty text is no bytes in every coding. -/
theorem decode_nil (charset : Charset) : charset.decode [] = .ok "" := rfl

/-! ## Names -/

/-- Takes the letters, digits and points of a name; other characters between them become one underscore. -/
def nameChars : Bool → Bool → List Char → List Char
  | _, _, [] => []
  | started, gap, c :: rest =>
      if c.isAlphanum || c == '.' then
        (if gap && started then ['_', c.toLower] else [c.toLower]) ++ nameChars true false rest
      else nameChars started true rest

/-- The form in which names are compared. -/
def normalName (name : String) : String :=
  String.ofList (nameChars false false name.toList)

/-- A character set with its name and its other names. -/
structure Entry where
  charset : Charset
  name : String
  aliases : List String
deriving Repr

/-- The character sets that are no tables of single bytes. -/
def named : List Entry := [
  ⟨.utf8 false, "utf_8", ["cp65001", "u8", "utf", "utf8", "utf8_ucs2", "utf8_ucs4"]⟩,
  ⟨.utf8 true, "utf_8_sig", []⟩,
  ⟨.utf16 none, "utf_16", ["u16", "utf16"]⟩,
  ⟨.utf16 (some .little), "utf_16_le", ["unicodelittleunmarked", "utf_16le"]⟩,
  ⟨.utf16 (some .big), "utf_16_be", ["unicodebigunmarked", "utf_16be"]⟩,
  ⟨.utf32 none, "utf_32", ["u32", "utf32"]⟩,
  ⟨.utf32 (some .little), "utf_32_le", ["utf_32le"]⟩,
  ⟨.utf32 (some .big), "utf_32_be", ["utf_32be"]⟩,
  ⟨.utf7, "utf_7", ["u7", "unicode_1_1_utf_7", "utf7"]⟩,
  ⟨.escaped false, "unicode_escape", []⟩,
  ⟨.escaped true, "raw_unicode_escape", []⟩,
  ⟨.punycode, "punycode", []⟩,
  ⟨.japanese none, "euc_jp", ["eucjp", "u_jis", "ujis"]⟩,
  ⟨.japanese (some .of2004), "euc_jis_2004", ["euc_jis2004", "eucjis2004", "jisx0213"]⟩,
  ⟨.japanese (some .of2000), "euc_jisx0213", ["eucjisx0213"]⟩,
  ⟨.shifted .basic, "shift_jis", ["csshiftjis", "s_jis", "shiftjis", "sjis", "x_mac_japanese"]⟩,
  ⟨.shifted .page932, "cp932", ["932", "ms932", "ms_kanji", "mskanji"]⟩,
  ⟨.shifted (.extended .of2004), "shift_jis_2004", ["s_jis_2004", "shiftjis2004", "sjis_2004"]⟩,
  ⟨.shifted (.extended .of2000), "shift_jisx0213", ["s_jisx0213", "shiftjisx0213", "sjisx0213"]⟩,
  ⟨.switched .basic, "iso2022_jp", ["csiso2022jp", "iso2022jp", "iso_2022_jp"]⟩,
  ⟨.switched .supplemented, "iso2022_jp_1", ["iso2022jp_1", "iso_2022_jp_1"]⟩,
  ⟨.switched .international, "iso2022_jp_2", ["iso2022jp_2", "iso_2022_jp_2"]⟩,
  ⟨.switched (.extended .of2004), "iso2022_jp_2004", ["iso2022jp_2004", "iso_2022_jp_2004"]⟩,
  ⟨.switched (.extended .of2000), "iso2022_jp_3", ["iso2022jp_3", "iso_2022_jp_3"]⟩,
  ⟨.switched .kana, "iso2022_jp_ext", ["iso2022jp_ext", "iso_2022_jp_ext"]⟩,
  ⟨.switched .korean, "iso2022_kr", ["csiso2022kr", "iso2022kr", "iso_2022_kr"]⟩,
  ⟨.korean .extended, "euc_kr", ["euckr", "korean", "ks_c_5601", "ks_c_5601_1987", "ks_x_1001",
    "ksc5601", "ksx1001", "x_mac_korean"]⟩,
  ⟨.korean .unified, "cp949", ["949", "ms949", "uhc"]⟩,
  ⟨.korean .composed, "johab", ["cp1361", "ms1361"]⟩,
  ⟨.simplified .none, "gb2312", ["chinese", "csiso58gb231280", "euc_cn", "euccn", "eucgb2312_cn",
    "gb2312_1980", "gb2312_80", "iso_ir_58", "x_mac_simp_chinese"]⟩,
  ⟨.simplified .first, "gbk", ["936", "cp936", "ms936"]⟩,
  ⟨.simplified .second, "gb18030", ["gb18030_2000"]⟩,
  ⟨.tilde, "hz", ["hz_gb", "hz_gb_2312", "hzgb"]⟩,
  ⟨.traditional .none, "big5", ["big5_tw", "csbig5", "x_mac_trad_chinese"]⟩,
  ⟨.traditional .page950, "cp950", ["950", "ms950"]⟩,
  ⟨.traditional .hongKong, "big5hkscs", ["big5_hkscs", "hkscs"]⟩,
  ⟨.refused .strictOnly, "hex_codec", ["hex"]⟩,
  ⟨.refused .strictOnly, "base64_codec", ["base64", "base_64"]⟩,
  ⟨.refused .strictOnly, "bz2_codec", ["bz2"]⟩,
  ⟨.refused .strictOnly, "quopri_codec", ["quopri", "quoted_printable", "quotedprintable"]⟩,
  ⟨.refused .strictOnly, "uu_codec", ["uu"]⟩,
  ⟨.refused .strictOnly, "zlib_codec", ["zip", "zlib"]⟩,
  ⟨.refused .textOnly, "rot_13", ["rot13"]⟩,
  ⟨.domain, "idna", []⟩,
  ⟨.refused (.noReplacement "undefined encoding"), "undefined", []⟩]

/-- All character sets with their names. -/
def all : List Entry :=
  named ++ OctetTable.all.map fun table => ⟨.octets table, table.name, table.aliases⟩

/-- The character set of a name, if it is known. Other names go first, and may have points in the place of
underscores. -/
def ofName? (name : String) : Option Charset :=
  let normal := normalName name
  let withoutPoints := String.ofList (normal.toList.map fun c => if c == '.' then '_' else c)
  let found := (all.find? fun e => e.aliases.contains normal)
    <|> (all.find? fun e => e.aliases.contains withoutPoints)
    <|> (all.find? fun e => e.name == normal)
  found.map Entry.charset

end Charset

end VersionedApi.Text
