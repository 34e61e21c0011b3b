import Phrasing.Charset.Escaped
import Phrasing.Charset.Shifting
import Phrasing.Charset.Utf7
import Phrasing.Domain.Punycode
import Phrasing.Fault
import Phrasing.Text.Encoding
import Phrasing.Text.Split

/-!
# Character sets by name

A reply names the character set of its body.  `Charset.ofName?` finds the set: case does not matter in a name,
nor which signs stand between its letters and digits.  `Charset.decode` gives the text, with a replacement
character for bytes that stand for none; some sets cannot be used so.
-/

namespace Phrasing

open Text Charset

/-- Why a character set cannot be used for a text. -/
inductive Unusable where
  /-- It is for domain names, and has no replacement characters. -/
  | names
  /-- It is there to fail. -/
  | undefined
  /-- It leads from texts to texts. -/
  | rotation
  /-- It leads from bytes to bytes. -/
  | bytes
  deriving DecidableEq, Repr

/-- A character set. -/
inductive Charset where
  | unicode (e : Encoding)
  | codePage (p : CodePage)
  | doubleByte (e : DoubleByte)
  | shifting (e : Shifting)
  | utf7
  /-- Backslash escapes, in the plainer form or in the fuller one. -/
  | escaped (raw : Bool)
  | punycode
  | unusable (reason : Unusable)
  deriving DecidableEq, Repr

namespace Charset

/-! ### Names -/

/-- A name with its letters in lower case and an underscore for whatever stands between letters and digits. -/
def plainName (name : List Char) : List Char :=
  let words := splitAtEach ' ' (name.map fun c => if isLetterOrDigit c || c == '.' then lowerAscii c else ' ')
  List.intercalate ['_'] (words.filter (!·.isEmpty))

/-- The names of all sets but the code pages: the first one, and the others. -/
def names : List (Charset × String × List String) := [
  (.unicode .ascii, "ascii", ["646", "ansi_x3.4_1968", "ansi_x3.4_1986", "ansi_x3_4_1968", "cp367",
    "csascii", "ibm367", "iso646_us", "iso_646.irv_1991", "iso_ir_6", "us", "us_ascii"]),
  (.unicode .latin1, "latin_1", ["8859", "cp819", "csisolatin1", "ibm819", "iso8859", "iso8859_1",
    "iso_8859_1", "iso_8859_1_1987", "iso_ir_100", "l1", "latin", "latin1"]),
  (.unicode .latin1, "charmap", []),
  (.unicode .utf8, "utf_8", ["cp65001", "u8", "utf", "utf8", "utf8_ucs2", "utf8_ucs4"]),
  (.unicode .utf8Signed, "utf_8_sig", []),
  (.unicode .utf16Marked, "utf_16", ["u16", "utf16"]),
  (.unicode (.utf16 true), "utf_16_be", ["unicodebigunmarked", "utf_16be"]),
  (.unicode (.utf16 false), "utf_16_le", ["unicodelittleunmarked", "utf_16le"]),
  (.unicode .utf32Marked, "utf_32", ["u32", "utf32"]),
  (.unicode (.utf32 true), "utf_32_be", ["utf_32be"]),
  (.unicode (.utf32 false), "utf_32_le", ["utf_32le"]),
  (.utf7, "utf_7", ["u7", "unicode_1_1_utf_7", "utf7"]),
  (.escaped false, "unicode_escape", []),
  (.escaped true, "raw_unicode_escape", []),
  (.punycode, "punycode", []),
  (.unusable .names, "idna", []),
  (.unusable .undefined, "undefined", []),
  (.unusable .rotation, "rot_13", ["rot13"]),
  (.unusable .bytes, "base64_codec", ["base64", "base_64"]),
  (.unusable .bytes, "bz2_codec", ["bz2"]),
  (.unusable .bytes, "hex_codec", ["hex"]),
  (.unusable .bytes, "quopri_codec", ["quopri", "quoted_printable", "quotedprintable"]),
  (.unusable .bytes, "uu_codec", ["uu"]),
  (.unusable .bytes, "zlib_codec", ["zip", "zlib"]),
  (.doubleByte .gb2312, "gb2312", ["chinese", "csiso58gb231280", "euc_cn", "euccn", "eucgb2312_cn",
    "gb2312_1980", "gb2312_80", "iso_ir_58", "x_mac_simp_chinese"]),
  (.doubleByte .gbk, "gbk", ["936", "cp936", "ms936"]),
  (.doubleByte .gb18030, "gb18030", ["gb18030_2000"]),
  (.doubleByte .big5, "big5", ["big5_tw", "csbig5", "x_mac_trad_chinese"]),
  (.doubleByte .cp950, "cp950", ["950", "ms950"]),
  (.doubleByte .big5hkscs, "big5hkscs", ["big5_hkscs", "hkscs"]),
  (.doubleByte .eucKr, "euc_kr", ["euckr", "korean", "ks_c_5601", "ks_c_5601_1987", "ks_x_1001", "ksc5601",
    "ksx1001", "x_mac_korean"]),
  (.doubleByte .cp949, "cp949", ["949", "ms949", "uhc"]),
  (.doubleByte .johab, "johab", ["cp1361", "ms1361"]),
  (.doubleByte .shiftJis, "shift_jis", ["csshiftjis", "s_jis", "shiftjis", "sjis", "x_mac_japanese"]),
  (.doubleByte .cp932, "cp932", ["932", "ms932", "ms_kanji", "mskanji"]),
  (.doubleByte .shiftJis2004, "shift_jis_2004", ["s_jis_2004", "shiftjis2004", "sjis_2004"]),
  (.doubleByte .shiftJisX0213, "shift_jisx0213", ["s_jisx0213", "shiftjisx0213", "sjisx0213"]),
  (.doubleByte .eucJp, "euc_jp", ["eucjp", "u_jis", "ujis"]),
  (.doubleByte .eucJis2004, "euc_jis_2004", ["euc_jis2004", "eucjis2004", "jisx0213"]),
  (.doubleByte .eucJisX0213, "euc_jisx0213", ["eucjisx0213"]),
  (.shifting .hz, "hz", ["hz_gb", "hz_gb_2312", "hzgb"]),
  (.shifting .jp, "iso2022_jp", ["csiso2022jp", "iso2022jp", "iso_2022_jp"]),
  (.shifting .jp1, "iso2022_jp_1", ["iso2022jp_1", "iso_2022_jp_1"]),
  (.shifting .jp2, "iso2022_jp_2", ["iso2022jp_2", "iso_2022_jp_2"]),
  (.shifting .jp2004, "iso2022_jp_2004", ["iso2022jp_2004", "iso_2022_jp_2004"]),
  (.shifting .jp3, "iso2022_jp_3", ["iso2022jp_3", "iso_2022_jp_3"]),
  (.shifting .jpExt, "iso2022_jp_ext", ["iso2022jp_ext", "iso_2022_jp_ext"]),
  (.shifting .kr, "iso2022_kr", ["csiso2022kr", "iso2022kr", "iso_2022_kr"])]

/-- The set with one of the other names. -/
def otherwise? (name : String) : Option Charset :=
  ((names.find? fun (_, _, ns) => ns.contains name).map Prod.fst).or
    ((codePages.find? fun p => p.otherNames.contains name).map Charset.codePage)

/-- The set with a first name. -/
def first? (name : String) : Option Charset :=
  ((names.find? fun (_, n, _) => n == name).map Prod.fst).or
    ((codePages.find? fun p => p.name == name).map Charset.codePage)

/-- The set with a name; a point counts as an underscore in the other names where it means nothing itself. -/
def ofName? (name : String) : Option Charset :=
  let plain := plainName name.toList
  (otherwise? (String.ofList plain)).or
    ((otherwise? (String.ofList (plain.map fun c => if c = '.' then '_' else c))).or (first? (String.ofList plain)))

/-! ### Decoding -/

/-- The text of glyphs, with replacement characters. -/
def replaced (glyphs : Glyphs) : List Char :=
  glyphs.map (·.getD '\uFFFD')

/-- A mishap that stops a decoder. -/
def stopped {α : Type} (label text : String) : Except Mishap α :=
  .error (.reported label text)

/-- Bytes in UTF-16 or UTF-32 that start without a mark, with as many as a character has. -/
def lacksMark (e : Encoding) (bytes : List UInt8) : Bool :=
  match e with
  | .utf16Marked => 2 ≤ bytes.length && bytes.take 2 != [0xFE, 0xFF] && bytes.take 2 != [0xFF, 0xFE]
  | .utf32Marked =>
    4 ≤ bytes.length && bytes.take 4 != [0x00, 0x00, 0xFE, 0xFF] && bytes.take 4 != [0xFF, 0xFE, 0x00, 0x00]
  | _ => false

/-- The text that Punycode stands for: what is readable of it. -/
def ofPunycode (bytes : List UInt8) : Except Mishap (List Char) :=
  let (plain, numbers) := Domain.Punycode.cutAtLastHyphen (bytes.map fun b => Char.ofNat b.toNat)
  match numbers.findIdx? (!isAscii ·) with
  | some i =>
    let place := "byte 0x" ++ String.ofList (hexDigits 2 ((numbers[i]?.getD ' ').toNat)) ++ " in position " ++ toString i
    .error (.undecodable ("'ascii' codec can't decode " ++ place ++ ": ordinal not in range(128)"))
  | none =>
    let plain := plain.map fun c => if isAscii c then c else '\uFFFD'
    .ok ((Domain.Punycode.readNumbers? true (.start plain) numbers).getD plain)

/-- Why a set cannot be used, as a mishap. -/
def stopFor {α : Type} : Unusable → Except Mishap α
  | .names => stopped "UnicodeError" "Unsupported error handling replace"
  | .undefined => stopped "UnicodeError" "undefined encoding"
  | .rotation =>
    stopped "TypeError" "descriptor 'translate' for 'str' objects doesn't apply to a 'bytes' object"
  | .bytes => stopped "AssertionError" ""

/-- The text of all bytes of a body that arrives piece by piece.  UTF-16 and UTF-32 need a mark there, and of a
mark that is not complete nothing is seen. -/
def decodeArriving (set : Charset) (bytes : List UInt8) : Except Mishap (List Char) :=
  match set with
  | .unicode e =>
    if lacksMark e bytes then
      stopped "UnicodeError"
        ((if e = .utf16Marked then "UTF-16" else "UTF-32") ++ " stream does not start with BOM")
    else if e = .utf8Signed ∧ bytes.length < 3 ∧ bytes.isPrefixOf [0xEF, 0xBB, 0xBF] then .ok []
    else .ok (e.decodeTolerant bytes)
  | .codePage p => .ok (replaced (p.decode bytes))
  | .doubleByte e => .ok (replaced (decodeAll e.step () bytes).1)
  | .shifting e =>
    let (glyphs, missing) := e.decode bytes
    if 8 < missing then stopped "UnicodeError" "pending buffer overflow" else .ok (replaced glyphs)
  | .utf7 => .ok (replaced (Utf7.decode bytes))
  | .escaped raw => .ok (replaced (Escaped.decode raw bytes))
  | .punycode => ofPunycode bytes
  | .unusable reason => stopFor reason

/-- The text of a body that is there as a whole.  Sets that are not for texts give way to UTF-8. -/
def decodeWhole (set : Charset) (bytes : List UInt8) : Except Mishap (List Char) :=
  match set with
  | .unicode e => .ok (e.decodeTolerant bytes)
  | .shifting e => .ok (replaced (e.decode bytes).1)
  | .unusable .rotation | .unusable .bytes => .ok (Encoding.utf8.decodeTolerant bytes)
  | set => set.decodeArriving bytes

/-- The text of bytes all of which stand for characters. -/
def decodeStrict? (set : Charset) (bytes : List UInt8) : Option (List Char) :=
  match set with
  | .unicode e => (e.decodeStrict false bytes).toOption
  | .codePage p => (p.decode bytes).mapM id
  | .doubleByte e => (decodeAll e.step () bytes).1.mapM id
  | .shifting e => (e.decode bytes).1.mapM id
  | .utf7 => (Utf7.decode bytes).mapM id
  | .escaped raw => (Escaped.decode raw bytes).mapM id
  | .punycode => Domain.Punycode.decode? (bytes.map fun b => Char.ofNat b.toNat)
  | .unusable _ => none

end Charset

end Phrasing
