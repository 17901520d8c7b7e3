import Crosscheck.Text.Glyph
/-!
# Encodings of XML documents

How the bytes of a document become characters: UTF-8, UTF-16 and a number of encodings with one byte
to a character. The upper half of such an encoding is a table of 128 code points, in which `0xFFFD`
stands for a byte without a character.
-/

namespace Crosscheck.Document.Xml

open Crosscheck.Text

/-- How bytes stand for characters. -/
inductive Encoding
  | utf8
  | utf16 (bigEndian : Bool)
  /-- One byte to a character: ASCII, and a table for the rest. -/
  | table (upper : Array Nat)

/-- What a name in a declaration may turn out to be. -/
inductive NamedEncoding
  | known (encoding : Encoding)
  /-- An encoding that takes several bytes to a character. -/
  | wide
  | unknown

/-- No bytes past ASCII. -/
def asciiUpper : Array Nat := (List.replicate 128 0xFFFD).toArray

/-- Every byte is the character of its number. -/
def latin1Upper : Array Nat := ((List.range 128).map (128 + ·)).toArray

/-- Central European letters of Windows. -/
def windows1250Upper : Array Nat := #[
  0x20AC, 0xFFFD, 0x201A, 0xFFFD, 0x201E, 0x2026, 0x2020, 0x2021, 0xFFFD, 0x2030, 0x160, 0x2039,
  0x15A, 0x164, 0x17D, 0x179, 0xFFFD, 0x2018, 0x2019, 0x201C, 0x201D, 0x2022, 0x2013, 0x2014,
  0xFFFD, 0x2122, 0x161, 0x203A, 0x15B, 0x165, 0x17E, 0x17A, 0xA0, 0x2C7, 0x2D8, 0x141, 0xA4, 0x104,
  0xA6, 0xA7, 0xA8, 0xA9, 0x15E, 0xAB, 0xAC, 0xAD, 0xAE, 0x17B, 0xB0, 0xB1, 0x2DB, 0x142, 0xB4,
  0xB5, 0xB6, 0xB7, 0xB8, 0x105, 0x15F, 0xBB, 0x13D, 0x2DD, 0x13E, 0x17C, 0x154, 0xC1, 0xC2, 0x102,
  0xC4, 0x139, 0x106, 0xC7, 0x10C, 0xC9, 0x118, 0xCB, 0x11A, 0xCD, 0xCE, 0x10E, 0x110, 0x143, 0x147,
  0xD3, 0xD4, 0x150, 0xD6, 0xD7, 0x158, 0x16E, 0xDA, 0x170, 0xDC, 0xDD, 0x162, 0xDF, 0x155, 0xE1,
  0xE2, 0x103, 0xE4, 0x13A, 0x107, 0xE7, 0x10D, 0xE9, 0x119, 0xEB, 0x11B, 0xED, 0xEE, 0x10F, 0x111,
  0x144, 0x148, 0xF3, 0xF4, 0x151, 0xF6, 0xF7, 0x159, 0x16F, 0xFA, 0x171, 0xFC, 0xFD, 0x163, 0x2D9]

/-- Cyrillic letters of Windows. -/
def windows1251Upper : Array Nat := #[
  0x402, 0x403, 0x201A, 0x453, 0x201E, 0x2026, 0x2020, 0x2021, 0x20AC, 0x2030, 0x409, 0x2039, 0x40A,
  0x40C, 0x40B, 0x40F, 0x452, 0x2018, 0x2019, 0x201C, 0x201D, 0x2022, 0x2013, 0x2014, 0xFFFD,
  0x2122, 0x459, 0x203A, 0x45A, 0x45C, 0x45B, 0x45F, 0xA0, 0x40E, 0x45E, 0x408, 0xA4, 0x490, 0xA6,
  0xA7, 0x401, 0xA9, 0x404, 0xAB, 0xAC, 0xAD, 0xAE, 0x407, 0xB0, 0xB1, 0x406, 0x456, 0x491, 0xB5,
  0xB6, 0xB7, 0x451, 0x2116, 0x454, 0xBB, 0x458, 0x405, 0x455, 0x457, 0x410, 0x411, 0x412, 0x413,
  0x414, 0x415, 0x416, 0x417, 0x418, 0x419, 0x41A, 0x41B, 0x41C, 0x41D, 0x41E, 0x41F, 0x420, 0x421,
  0x422, 0x423, 0x424, 0x425, 0x426, 0x427, 0x428, 0x429, 0x42A, 0x42B, 0x42C, 0x42D, 0x42E, 0x42F,
  0x430, 0x431, 0x432, 0x433, 0x434, 0x435, 0x436, 0x437, 0x438, 0x439, 0x43A, 0x43B, 0x43C, 0x43D,
  0x43E, 0x43F, 0x440, 0x441, 0x442, 0x443, 0x444, 0x445, 0x446, 0x447, 0x448, 0x449, 0x44A, 0x44B,
  0x44C, 0x44D, 0x44E, 0x44F]

/-- Western European letters of Windows. -/
def windows1252Upper : Array Nat := #[
  0x20AC, 0xFFFD, 0x201A, 0x192, 0x201E, 0x2026, 0x2020, 0x2021, 0x2C6, 0x2030, 0x160, 0x2039,
  0x152, 0xFFFD, 0x17D, 0xFFFD, 0xFFFD, 0x2018, 0x2019, 0x201C, 0x201D, 0x2022, 0x2013, 0x2014,
  0x2DC, 0x2122, 0x161, 0x203A, 0x153, 0xFFFD, 0x17E, 0x178, 0xA0, 0xA1, 0xA2, 0xA3, 0xA4, 0xA5,
  0xA6, 0xA7, 0xA8, 0xA9, 0xAA, 0xAB, 0xAC, 0xAD, 0xAE, 0xAF, 0xB0, 0xB1, 0xB2, 0xB3, 0xB4, 0xB5,
  0xB6, 0xB7, 0xB8, 0xB9, 0xBA, 0xBB, 0xBC, 0xBD, 0xBE, 0xBF, 0xC0, 0xC1, 0xC2, 0xC3, 0xC4, 0xC5,
  0xC6, 0xC7, 0xC8, 0xC9, 0xCA, 0xCB, 0xCC, 0xCD, 0xCE, 0xCF, 0xD0, 0xD1, 0xD2, 0xD3, 0xD4, 0xD5,
  0xD6, 0xD7, 0xD8, 0xD9, 0xDA, 0xDB, 0xDC, 0xDD, 0xDE, 0xDF, 0xE0, 0xE1, 0xE2, 0xE3, 0xE4, 0xE5,
  0xE6, 0xE7, 0xE8, 0xE9, 0xEA, 0xEB, 0xEC, 0xED, 0xEE, 0xEF, 0xF0, 0xF1, 0xF2, 0xF3, 0xF4, 0xF5,
  0xF6, 0xF7, 0xF8, 0xF9, 0xFA, 0xFB, 0xFC, 0xFD, 0xFE, 0xFF]

/-- Central European letters. -/
def latin2Upper : Array Nat := #[
  0x80, 0x81, 0x82, 0x83, 0x84, 0x85, 0x86, 0x87, 0x88, 0x89, 0x8A, 0x8B, 0x8C, 0x8D, 0x8E, 0x8F,
  0x90, 0x91, 0x92, 0x93, 0x94, 0x95, 0x96, 0x97, 0x98, 0x99, 0x9A, 0x9B, 0x9C, 0x9D, 0x9E, 0x9F,
  0xA0, 0x104, 0x2D8, 0x141, 0xA4, 0x13D, 0x15A, 0xA7, 0xA8, 0x160, 0x15E, 0x164, 0x179, 0xAD,
  0x17D, 0x17B, 0xB0, 0x105, 0x2DB, 0x142, 0xB4, 0x13E, 0x15B, 0x2C7, 0xB8, 0x161, 0x15F, 0x165,
  0x17A, 0x2DD, 0x17E, 0x17C, 0x154, 0xC1, 0xC2, 0x102, 0xC4, 0x139, 0x106, 0xC7, 0x10C, 0xC9,
  0x118, 0xCB, 0x11A, 0xCD, 0xCE, 0x10E, 0x110, 0x143, 0x147, 0xD3, 0xD4, 0x150, 0xD6, 0xD7, 0x158,
  0x16E, 0xDA, 0x170, 0xDC, 0xDD, 0x162, 0xDF, 0x155, 0xE1, 0xE2, 0x103, 0xE4, 0x13A, 0x107, 0xE7,
  0x10D, 0xE9, 0x119, 0xEB, 0x11B, 0xED, 0xEE, 0x10F, 0x111, 0x144, 0x148, 0xF3, 0xF4, 0x151, 0xF6,
  0xF7, 0x159, 0x16F, 0xFA, 0x171, 0xFC, 0xFD, 0x163, 0x2D9]

/-- Western European letters with the euro sign. -/
def latin9Upper : Array Nat := #[
  0x80, 0x81, 0x82, 0x83, 0x84, 0x85, 0x86, 0x87, 0x88, 0x89, 0x8A, 0x8B, 0x8C, 0x8D, 0x8E, 0x8F,
  0x90, 0x91, 0x92, 0x93, 0x94, 0x95, 0x96, 0x97, 0x98, 0x99, 0x9A, 0x9B, 0x9C, 0x9D, 0x9E, 0x9F,
  0xA0, 0xA1, 0xA2, 0xA3, 0x20AC, 0xA5, 0x160, 0xA7, 0x161, 0xA9, 0xAA, 0xAB, 0xAC, 0xAD, 0xAE,
  0xAF, 0xB0, 0xB1, 0xB2, 0xB3, 0x17D, 0xB5, 0xB6, 0xB7, 0x17E, 0xB9, 0xBA, 0xBB, 0x152, 0x153,
  0x178, 0xBF, 0xC0, 0xC1, 0xC2, 0xC3, 0xC4, 0xC5, 0xC6, 0xC7, 0xC8, 0xC9, 0xCA, 0xCB, 0xCC, 0xCD,
  0xCE, 0xCF, 0xD0, 0xD1, 0xD2, 0xD3, 0xD4, 0xD5, 0xD6, 0xD7, 0xD8, 0xD9, 0xDA, 0xDB, 0xDC, 0xDD,
  0xDE, 0xDF, 0xE0, 0xE1, 0xE2, 0xE3, 0xE4, 0xE5, 0xE6, 0xE7, 0xE8, 0xE9, 0xEA, 0xEB, 0xEC, 0xED,
  0xEE, 0xEF, 0xF0, 0xF1, 0xF2, 0xF3, 0xF4, 0xF5, 0xF6, 0xF7, 0xF8, 0xF9, 0xFA, 0xFB, 0xFC, 0xFD,
  0xFE, 0xFF]

/-- Russian letters. -/
def koi8rUpper : Array Nat := #[
  0x2500, 0x2502, 0x250C, 0x2510, 0x2514, 0x2518, 0x251C, 0x2524, 0x252C, 0x2534, 0x253C, 0x2580,
  0x2584, 0x2588, 0x258C, 0x2590, 0x2591, 0x2592, 0x2593, 0x2320, 0x25A0, 0x2219, 0x221A, 0x2248,
  0x2264, 0x2265, 0xA0, 0x2321, 0xB0, 0xB2, 0xB7, 0xF7, 0x2550, 0x2551, 0x2552, 0x451, 0x2553,
  0x2554, 0x2555, 0x2556, 0x2557, 0x2558, 0x2559, 0x255A, 0x255B, 0x255C, 0x255D, 0x255E, 0x255F,
  0x2560, 0x2561, 0x401, 0x2562, 0x2563, 0x2564, 0x2565, 0x2566, 0x2567, 0x2568, 0x2569, 0x256A,
  0x256B, 0x256C, 0xA9, 0x44E, 0x430, 0x431, 0x446, 0x434, 0x435, 0x444, 0x433, 0x445, 0x438, 0x439,
  0x43A, 0x43B, 0x43C, 0x43D, 0x43E, 0x43F, 0x44F, 0x440, 0x441, 0x442, 0x443, 0x436, 0x432, 0x44C,
  0x44B, 0x437, 0x448, 0x44D, 0x449, 0x447, 0x44A, 0x42E, 0x410, 0x411, 0x426, 0x414, 0x415, 0x424,
  0x413, 0x425, 0x418, 0x419, 0x41A, 0x41B, 0x41C, 0x41D, 0x41E, 0x41F, 0x42F, 0x420, 0x421, 0x422,
  0x423, 0x416, 0x412, 0x42C, 0x42B, 0x417, 0x428, 0x42D, 0x429, 0x427, 0x42A]

/-- A name in lower case, with every run of marks between letters and digits as one underscore. -/
def canonicalName (cs : List Char) : List Char :=
  match cs with
  | [] => []
  | c :: rest =>
    let more := canonicalName rest
    if c.isAlphanum then c.toLower :: more
    else if more.isEmpty || more.head? == some '_' then more else '_' :: more

/-- Names of encodings that hold ASCII only. -/
def asciiNames : List String :=
  ["ascii", "646", "us", "us_ascii", "iso646_us", "cp367", "ibm367", "csascii", "iso_ir_6",
    "ansi_x3_4_1968", "ansi_x3_4_1986", "utf8", "u8", "utf", "utf_8", "utf_8_sig", "cp65001"]

/-- Names of encodings that hold the first 256 characters. -/
def latin1Names : List String :=
  ["latin_1", "latin1", "latin", "l1", "8859", "iso8859", "iso8859_1", "iso_8859_1", "cp819",
    "ibm819", "iso_ir_100", "csisolatin1"]

/-- Tables by name. -/
def tableNames : List (List String × Array Nat) :=
  [(asciiNames, asciiUpper), (latin1Names, latin1Upper),
    (["cp1250", "1250", "windows_1250"], windows1250Upper),
    (["cp1251", "1251", "windows_1251"], windows1251Upper),
    (["cp1252", "1252", "windows_1252"], windows1252Upper),
    (["iso8859_2", "iso_8859_2", "latin2", "l2"], latin2Upper),
    (["iso8859_15", "iso_8859_15", "latin9", "l9"], latin9Upper),
    (["koi8_r", "cskoi8r"], koi8rUpper)]

/-- Names of encodings that take several bytes to a character. -/
def wideNames : List String :=
  ["big5", "big5_tw", "big5hkscs", "cp932", "ms932", "windows_31j", "cp949", "uhc", "cp950",
    "euc_jp", "eucjp", "ujis", "euc_kr", "euckr", "gb18030", "gb2312", "gb_2312_80", "euccn",
    "gbk", "936", "cp936", "ms936", "iso2022_kr", "iso_2022_kr", "johab", "shift_jis", "shiftjis",
    "sjis", "s_jis", "utf_16_be", "utf_16_le", "utf16", "u16", "utf_32", "utf32", "u32",
    "utf_32_be", "utf_32_le", "utf_7", "utf7", "u7"]

/-- The encoding of a name, other than those that a document is in without saying so. -/
def encodingOfName (name : String) : NamedEncoding :=
  let name := String.ofList (canonicalName name.toList)
  match tableNames.find? (·.1.contains name) with
  | some (_, upper) => .known (.table upper)
  | none => if wideNames.contains name then .wide else .unknown

/-- The characters of code units. Half a pair of surrogates is no character. -/
def ofUnits? : List Nat → Option (List Char)
  | [] => some []
  | a :: rest =>
    if 0xD800 ≤ a && a ≤ 0xDBFF then
      match rest with
      | b :: rest =>
        if 0xDC00 ≤ b && b ≤ 0xDFFF then
          (ofUnits? rest).map (Char.ofNat (0x10000 + (a - 0xD800) * 0x400 + (b - 0xDC00)) :: ·)
        else none
      | [] => none
    else if 0xDC00 ≤ a && a ≤ 0xDFFF then none
    else (ofUnits? rest).map (Char.ofNat a :: ·)

/-- The code units of bytes. -/
def units? (bigEndian : Bool) : Bytes → Option (List Nat)
  | [] => some []
  | [_] => none
  | a :: b :: rest =>
    (units? bigEndian rest).map
      ((if bigEndian then a.toNat * 256 + b.toNat else b.toNat * 256 + a.toNat) :: ·)

/-- The character of a byte by a table. -/
def ofByte? (upper : Array Nat) (b : UInt8) : Option Char :=
  if b < 0x80 then some (Char.ofNat b.toNat)
  else
    match upper[b.toNat - 128]? with
    | some n => if n == 0xFFFD then none else some (Char.ofNat n)
    | none => none

/-- The characters of bytes. -/
def Encoding.decode? : Encoding → Bytes → Option (List Char)
  | .utf8, bytes => (Text.decode bytes).mapM Glyph.char?
  | .utf16 bigEndian, bytes => (units? bigEndian bytes).bind ofUnits?
  | .table upper, bytes => bytes.mapM (ofByte? upper)

/-- The encoding that the first bytes show, and the bytes after a byte order mark. -/
def detect : Bytes → Encoding × Bytes
  | 0xEF :: 0xBB :: 0xBF :: rest => (.utf8, rest)
  | 0xFE :: 0xFF :: rest => (.utf16 true, rest)
  | 0xFF :: 0xFE :: rest => (.utf16 false, rest)
  | 0x00 :: 0x3C :: rest => (.utf16 true, 0x00 :: 0x3C :: rest)
  | 0x3C :: 0x00 :: rest => (.utf16 false, 0x3C :: 0x00 :: rest)
  | bytes => (.utf8, bytes)

end Crosscheck.Document.Xml
