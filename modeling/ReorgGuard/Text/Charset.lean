import ReorgGuard.Text.CodePage
import ReorgGuard.Text.Shifted
import ReorgGuard.Text.Utf8

/-!
Text in a character set that a name tells.

Names are compared in lower case, and any characters but letters, digits and full stops separate their
parts.  Octets that are no character are replaced, each piece once.  A set of wide units whose order is
open takes it from the mark in front and is unreadable without.  Some names stand for ways to recode text
that are no sets of characters; nothing can be read by them.
-/

namespace ReorgGuard.Text

inductive CharsetFault where
  /-- The mark that tells the order of wide units is missing. -/
  | unmarked (octets : Nat)
  /-- Nothing can be replaced in what is recoded. -/
  | strictOnly
  /-- What is recoded has to be text already. -/
  | textOnly
  | refused (reason : String)

def CharsetFault.message : CharsetFault → String
  | unmarked octets =>
      let bits := octets * 8
      s!"UTF-{bits} stream does not start with BOM"
  | strictOnly => ""
  | textOnly => ""
  | refused reason => reason

inductive Charset where
  | ascii
  | latin
  | utf8
  /-- A mark may stand in front. -/
  | markedUtf8
  /-- Seven bits with stretches of base 64. -/
  | shifted
  /-- Wide units of some octets, the lowest octet first or last, or as a mark in front tells. -/
  | wide (octets : Nat) (littleEndian : Option Bool)
  | page (codes : Array (Option Nat))
  | pairs (set : PairSet)
  | barred (fault : CharsetFault)

def universalCharsets : List (String × Charset) :=
  [("ascii 646 ansi_x3.4_1968 ansi_x3.4_1986 ansi_x3_4_1968 cp367 csascii ibm367 iso646_us
      iso_646.irv_1991 iso_ir_6 us us_ascii", .ascii),
    ("latin_1 8859 cp819 csisolatin1 ibm819 iso8859 iso8859_1 iso_8859_1 iso_8859_1_1987 iso_ir_100 l1
      latin latin1", .latin),
    ("iso8859_1", .latin),
    ("utf_8 cp65001 u8 utf utf8 utf8_ucs2 utf8_ucs4", .utf8),
    ("utf_8_sig", .markedUtf8),
    ("charmap", .latin),
    ("utf_7 u7 unicode_1_1_utf_7 utf7", .shifted),
    ("utf_16 u16 utf16", .wide 2 none),
    ("utf_16_le unicodelittleunmarked utf_16le", .wide 2 (some true)),
    ("utf_16_be unicodebigunmarked utf_16be", .wide 2 (some false)),
    ("utf_32 u32 utf32", .wide 4 none),
    ("utf_32_le utf_32le", .wide 4 (some true)),
    ("utf_32_be utf_32be", .wide 4 (some false)),
    ("base64_codec base64 base_64", .barred .strictOnly),
    ("bz2_codec bz2", .barred .strictOnly),
    ("hex_codec hex", .barred .strictOnly),
    ("quopri_codec quopri quoted_printable quotedprintable", .barred .strictOnly),
    ("uu_codec uu", .barred .strictOnly),
    ("zlib_codec zip zlib", .barred .strictOnly),
    ("rot_13 rot13", .barred .textOnly),
    ("idna", .barred (.refused "Unsupported error handling replace")),
    ("undefined", .barred (.refused "undefined encoding"))]

def charsetName (s : String) : List Char :=
  let step (state : List Char × Bool) (c : Char) : List Char × Bool :=
    if c.isAlphanum || c == '.' then
      (c.toLower :: (if state.2 && !state.1.isEmpty then '_' :: state.1 else state.1), false)
    else (state.1, true)
  (s.toList.foldl step ([], false)).1.reverse

/-- Whether a name is one of those in a row.  In all names but the main one a full stop is as good as an
underscore. -/
def isNamed (name : List Char) (row : String) : Bool :=
  let names := wordsOf row
  let plain := name.map fun c => if c == '.' then '_' else c
  names.contains name || (names.drop 1).contains plain

def Charset.ofName? (s : String) : Option Charset :=
  let name := charsetName s
  ((universalCharsets.find? fun row => isNamed name row.1).map (·.2)).or
    (((pairSets.find? fun row => isNamed name row.1).map fun row => .pairs row.2).or
      (((codePages ++ wholePages).find? fun row => isNamed name row.1).map fun row => .page (pageOf row.2)))

def unitOf (littleEndian : Bool) (octets : List UInt8) : Nat :=
  (if littleEndian then octets.reverse else octets).foldl (fun n b => n * 256 + b.toNat) 0

/-- Reads units of two octets; what cannot be a character on its own is replaced. -/
def readTwo (littleEndian : Bool) : List UInt8 → List Char
  | [] => []
  | [_] => [replacement]
  | a :: b :: rest =>
      let n := unitOf littleEndian [a, b]
      if 0xDC00 ≤ n ∧ n < 0xE000 then replacement :: readTwo littleEndian rest
      else if 0xD800 ≤ n ∧ n < 0xDC00 then
        match rest with
        | c :: d :: behind =>
            let m := unitOf littleEndian [c, d]
            if 0xDC00 ≤ m ∧ m < 0xE000 then
              Char.ofNat (0x10000 + (n - 0xD800) * 1024 + (m - 0xDC00)) :: readTwo littleEndian behind
            else replacement :: readTwo littleEndian (c :: d :: behind)
        | _ => [replacement]
      else Char.ofNat n :: readTwo littleEndian rest

def readFour (littleEndian : Bool) : List UInt8 → List Char
  | a :: b :: c :: d :: rest => charOf (unitOf littleEndian [a, b, c, d]) :: readFour littleEndian rest
  | [] => []
  | _ => [replacement]

def readWide (octets : Nat) (littleEndian : Bool) (content : List UInt8) : List Char :=
  if octets = 2 then readTwo littleEndian content else readFour littleEndian content

def Charset.read (charset : Charset) (content : List UInt8) : Except CharsetFault String :=
  match charset with
  | ascii => .ok (String.ofList (content.map fun b => if b < 0x80 then Char.ofNat b.toNat else replacement))
  | latin => .ok (String.ofList (content.map fun b => Char.ofNat b.toNat))
  | utf8 => .ok (ofUtf8Lossy content)
  | markedUtf8 =>
      match content with
      | 0xEF :: 0xBB :: 0xBF :: rest => .ok (ofUtf8Lossy rest)
      | [0xEF] => .ok ""
      | [0xEF, 0xBB] => .ok ""
      | _ => .ok (ofUtf8Lossy content)
  | wide octets (some littleEndian) => .ok (String.ofList (readWide octets littleEndian content))
  | wide octets none =>
      let mark := content.take octets
      if mark.length < octets then
        .ok (String.ofList (if mark.isEmpty then [] else [replacement]))
      else if unitOf true mark = 0xFEFF then .ok (String.ofList (readWide octets true (content.drop octets)))
      else if unitOf false mark = 0xFEFF then .ok (String.ofList (readWide octets false (content.drop octets)))
      else .error (.unmarked octets)
  | shifted => .ok (String.ofList (readShifted none (content.map UInt8.toNat)))
  | page codes =>
      .ok (String.ofList (content.map fun b => (codes[b.toNat]?.join.map charOf).getD replacement))
  | pairs set => .ok (String.ofList (set.read content))
  | barred fault => .error fault

end ReorgGuard.Text
