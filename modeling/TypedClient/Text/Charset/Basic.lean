import TypedClient.Text.Charset.Escaped
import TypedClient.Text.Charset.Pages
import TypedClient.Text.Charset.Switched
import TypedClient.Text.Charset.Utf7
import TypedClient.Text.Punycode

/-!
Charsets by their names. In a name, letters, digits and points count; what stands between them only
separates them. Besides charsets, some ways to write octets have names of this kind.
-/

namespace TypedClient.Text

/-- A charset. Without an order the octets of a unit are ordered as a mark in front of the text
says. -/
inductive Charset where
  | ascii
  | latin1
  | utf7
  | utf8 (isMarked : Bool)
  | utf16 (order : Option OctetOrder)
  | utf32 (order : Option OctetOrder)
  | page (table : CodePage)
  | chinese (charset : Chinese)
  | korean (charset : Korean)
  | japanese (charset : Japanese)
  | switched (charset : Switched)
  | escaped (isShort : Bool)
  /-- One label of the name of a host. -/
  | hostLabel
  /-- Names of hosts, which cannot be decoded in part. -/
  | hostNames
  /-- A charset that no text is in. -/
  | nothing
  /-- A way to write octets as other octets. -/
  | octetsAsOctets
  /-- A way to write text as other text. -/
  | textAsText

/-- Why octets have no text in a charset. -/
inductive CharsetFault where
  /-- The octets have to be marked with their order, or too many wait for more at the end, or the
  charset is not one of texts. -/
  | undecodable
  /-- The octets have to be in ASCII. -/
  | notAscii
  | notForOctets
  | notForText
  deriving DecidableEq, Repr

/-- What is said about octets without a text. -/
def CharsetFault.message : CharsetFault → String
  | undecodable => "the octets cannot be decoded in this charset"
  | notAscii => "the octets of this charset are in ASCII"
  | notForOctets => "the charset is one for texts"
  | notForText => "the charset gives no texts"

namespace Charset

/-- Separates the parts of a name by underscores. A separator counts only behind a part. -/
def joinParts (isBehindPart isSeparated : Bool) : List Char → List Char
  | [] => []
  | c :: rest =>
    if c.isAlphanum || c == '.' then
      let separator := if isBehindPart && isSeparated then ['_'] else []
      separator ++ c.toLower :: joinParts true false rest
    else joinParts isBehindPart true rest

def normalName (name : String) : String :=
  String.ofList (joinParts false false name.toList)

/-- Charsets other than code pages, by their names. -/
def named : List (List String × Charset) := [
  (["ascii", "646", "ansi_x3.4_1968", "ansi_x3_4_1968", "ansi_x3.4_1986", "cp367", "csascii",
    "ibm367", "iso646_us", "iso_646.irv_1991", "iso_ir_6", "us", "us_ascii"], .ascii),
  (["latin_1", "8859", "charmap", "cp819", "csisolatin1", "ibm819", "iso8859", "iso8859_1",
    "iso_8859_1", "iso_8859_1_1987", "iso_ir_100", "l1", "latin", "latin1"], .latin1),
  (["utf_7", "u7", "utf7", "unicode_1_1_utf_7"], .utf7),
  (["utf_8", "u8", "utf", "utf8", "utf8_ucs2", "utf8_ucs4", "cp65001"], .utf8 false),
  (["utf_8_sig"], .utf8 true),
  (["utf_16", "u16", "utf16"], .utf16 none),
  (["utf_16_le", "unicodelittleunmarked", "utf_16le"], .utf16 (some .lowFirst)),
  (["utf_16_be", "unicodebigunmarked", "utf_16be"], .utf16 (some .highFirst)),
  (["utf_32", "u32", "utf32"], .utf32 none),
  (["utf_32_le", "utf_32le"], .utf32 (some .lowFirst)),
  (["utf_32_be", "utf_32be"], .utf32 (some .highFirst)),
  (["unicode_escape"], .escaped false),
  (["raw_unicode_escape"], .escaped true),
  (["punycode"], .hostLabel),
  (["idna"], .hostNames),
  (["undefined"], .nothing),
  (["base64_codec", "base64", "base_64"], .octetsAsOctets),
  (["bz2_codec", "bz2"], .octetsAsOctets),
  (["hex_codec", "hex"], .octetsAsOctets),
  (["quopri_codec", "quopri", "quoted_printable", "quotedprintable"], .octetsAsOctets),
  (["uu_codec", "uu"], .octetsAsOctets),
  (["zlib_codec", "zip", "zlib"], .octetsAsOctets),
  (["rot_13", "rot13"], .textAsText)]

/-- Charsets of Chinese, Korean and Japanese, by their names. -/
def eastAsian : List (List String × Charset) := [
  (["gb2312", "chinese", "csiso58gb231280", "euc_cn", "euccn", "eucgb2312_cn", "gb2312_1980",
    "gb2312_80", "iso_ir_58", "x_mac_simp_chinese"], .chinese .standard),
  (["gbk", "936", "cp936", "ms936"], .chinese .extended),
  (["gb18030", "gb18030_2000"], .chinese .full),
  (["hz", "hz_gb", "hz_gb_2312", "hzgb"], .chinese .inAscii),
  (["big5", "big5_tw", "csbig5", "x_mac_trad_chinese"], .chinese .common),
  (["cp950", "950", "ms950"], .chinese .vendor),
  (["big5hkscs", "big5_hkscs", "hkscs"], .chinese .hongKong),
  (["euc_kr", "euckr", "korean", "ks_c_5601", "ks_c_5601_1987", "ks_x_1001", "ksc5601", "ksx1001",
    "x_mac_korean"], .korean .standard),
  (["cp949", "949", "ms949", "uhc"], .korean .unified),
  (["johab", "cp1361", "ms1361"], .korean .byLetters),
  (["shift_jis", "csshiftjis", "s_jis", "shiftjis", "sjis", "x_mac_japanese"],
    .japanese .shifted),
  (["cp932", "932", "ms932", "ms_kanji", "mskanji"], .japanese .vendor),
  (["shift_jisx0213", "s_jisx0213", "shiftjisx0213", "sjisx0213"],
    .japanese (.shiftedExtended .first)),
  (["shift_jis_2004", "s_jis_2004", "shiftjis2004", "sjis_2004"],
    .japanese (.shiftedExtended .second)),
  (["euc_jp", "eucjp", "u_jis", "ujis"], .japanese .plain),
  (["euc_jisx0213", "eucjisx0213"], .japanese (.plainExtended .first)),
  (["euc_jis_2004", "euc_jis2004", "eucjis2004", "jisx0213"],
    .japanese (.plainExtended .second)),
  (["iso2022_kr", "csiso2022kr", "iso2022kr", "iso_2022_kr"], .switched .korean),
  (["iso2022_jp", "csiso2022jp", "iso2022jp", "iso_2022_jp"], .switched .japanese),
  (["iso2022_jp_1", "iso2022jp_1", "iso_2022_jp_1"], .switched .japanese1),
  (["iso2022_jp_2", "iso2022jp_2", "iso_2022_jp_2"], .switched .japanese2),
  (["iso2022_jp_3", "iso2022jp_3", "iso_2022_jp_3"], .switched .japanese3),
  (["iso2022_jp_2004", "iso2022jp_2004", "iso_2022_jp_2004"], .switched .japanese2004),
  (["iso2022_jp_ext", "iso2022jp_ext", "iso_2022_jp_ext"], .switched .japaneseExtension)]

/-- A name is one of some. A name with points is none of the first one's spellings, but may have
points in place of underscores. -/
def isNamed (name : String) (names : List String) : Bool :=
  if name.toList.contains '.' then
    let plain := String.ofList (name.toList.map fun c => if c == '.' then '_' else c)
    (names.drop 1).contains name || (names.drop 1).contains plain
  else names.contains name

def ofNormalName? (name : String) : Option Charset :=
  match (named ++ eastAsian).find? fun entry => isNamed name entry.1 with
  | some (_, charset) => some charset
  | none => (codePages.find? fun table => isNamed name table.names).map .page

def ofName? (name : String) : Option Charset :=
  ofNormalName? (normalName name)

/-- The order that a mark in front of a text of wide units says, and the octets behind the mark. -/
def readMark? (width : Nat) (octets : List UInt8) : Option (OctetOrder × List UInt8) :=
  let padding : List UInt8 := List.replicate (width - 2) 0
  if ([0xff, 0xfe] ++ padding).isPrefixOf octets then some (.lowFirst, octets.drop width)
  else if (padding ++ [0xfe, 0xff]).isPrefixOf octets then some (.highFirst, octets.drop width)
  else none

/-- The text of octets in wide units with a mark. Without a whole unit there can be no mark. -/
def decodeMarked (width : Nat) (decode : OctetOrder → List UInt8 → List Char)
    (octets : List UInt8) : Except CharsetFault (List Char) :=
  match readMark? width octets with
  | some (order, rest) => .ok (decode order rest)
  | none => if octets.length < width then .ok (decode .lowFirst octets) else .error .undecodable

/-- The text of octets, if they have one. -/
def orUndecodable (text : Option (List Char)) : Except CharsetFault (List Char) :=
  match text with
  | some chars => .ok (spelled chars)
  | none => .error .undecodable

def asciiChar (octet : UInt8) : Char :=
  if octet < 0x80 then Char.ofNat octet.toNat else replacement

/-- The text of the label of a host. Its numbers have to be in ASCII. -/
def decodeLabel (octets : List UInt8) : Except CharsetFault (List Char) :=
  let (plain, numbers) := Punycode.cut 0x2d octets
  if numbers.all (· < 0x80) then
    .ok (spelling (Punycode.decodeAny (plain.map asciiChar) (numbers.map asciiChar)))
  else .error .notAscii

/-- The spelling of the text of octets in a charset. What is no character is replaced; only halves of
pairs stay, where the charset writes them alone. -/
def decode (charset : Charset) (octets : List UInt8) : Except CharsetFault (List Char) :=
  match charset with
  | .ascii => .ok (octets.map asciiChar)
  | .latin1 => .ok (octets.map fun octet => Char.ofNat octet.toNat)
  | .utf7 => .ok (Utf7.decode octets)
  | .utf8 false => .ok (spelled (Utf8.decode octets))
  | .utf8 true => .ok (spelled (Utf8.decodeMarked octets))
  | .utf16 (some order) => .ok (spelled (Utf16.decode order octets))
  | .utf16 none => (decodeMarked 2 Utf16.decode octets).map spelled
  | .utf32 (some order) => .ok (spelled (Utf32.decode order octets))
  | .utf32 none => (decodeMarked 4 Utf32.decode octets).map spelled
  | .page table => .ok (spelled (table.decode octets))
  | .chinese charset => orUndecodable (charset.decode octets)
  | .korean charset => orUndecodable (charset.decode octets)
  | .japanese charset => orUndecodable (charset.decode octets)
  | .switched charset => orUndecodable (charset.decode octets)
  | .escaped isShort => .ok (Escaped.decode isShort octets)
  | .hostLabel => decodeLabel octets
  | .hostNames | .nothing => .error .undecodable
  | .octetsAsOctets => .error .notForText
  | .textAsText => .error .notForOctets

end Charset

end TypedClient.Text
