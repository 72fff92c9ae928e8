/-!
Text as octets, in UTF-8.

One octet is read at a time.  A character under way is the number of octets it still owes, the
bounds of the next one and the value read so far.  The longest run of octets that begins a
character but does not complete it counts as one unreadable piece.
-/

namespace ReorgGuard.Text

structure Unfinished where
  owed : Nat
  low : Nat
  high : Nat
  value : Nat

/-- What has been read of a run of octets: the pieces, last one first, and a character under way. -/
structure Utf8 where
  pieces : List (Option Char)
  pending : Option Unfinished

/-- The character of a code point; a surrogate has none and is replaced. -/
def charOf (n : Nat) : Char :=
  if h : n.isValidChar then Char.ofNatAux n h else Char.ofNat 0xFFFD

def Utf8.begin (surrogates : Bool) (pieces : List (Option Char)) (b : Nat) : Utf8 :=
  if b < 0x80 then ⟨some (charOf b) :: pieces, none⟩
  else if b < 0xC2 then ⟨none :: pieces, none⟩
  else if b < 0xE0 then ⟨pieces, some ⟨1, 0x80, 0xBF, b - 0xC0⟩⟩
  else if b == 0xE0 then ⟨pieces, some ⟨2, 0xA0, 0xBF, 0⟩⟩
  else if b == 0xED && !surrogates then ⟨pieces, some ⟨2, 0x80, 0x9F, 0xD⟩⟩
  else if b < 0xF0 then ⟨pieces, some ⟨2, 0x80, 0xBF, b - 0xE0⟩⟩
  else if b == 0xF0 then ⟨pieces, some ⟨3, 0x90, 0xBF, 0⟩⟩
  else if b < 0xF4 then ⟨pieces, some ⟨3, 0x80, 0xBF, b - 0xF0⟩⟩
  else if b == 0xF4 then ⟨pieces, some ⟨3, 0x80, 0x8F, 4⟩⟩
  else ⟨none :: pieces, none⟩

def Utf8.step (surrogates : Bool) (s : Utf8) (octet : UInt8) : Utf8 :=
  let b := octet.toNat
  match s.pending with
  | none => .begin surrogates s.pieces b
  | some u =>
      if u.low ≤ b && b ≤ u.high then
        let value := u.value * 64 + (b - 0x80)
        if u.owed ≤ 1 then ⟨some (charOf value) :: s.pieces, none⟩
        else ⟨s.pieces, some ⟨u.owed - 1, 0x80, 0xBF, value⟩⟩
      else .begin surrogates (none :: s.pieces) b

def utf8Pieces (surrogates : Bool) (octets : List UInt8) : List (Option Char) :=
  let s := octets.foldl (Utf8.step surrogates) ⟨[], none⟩
  let pieces := match s.pending with
    | none => s.pieces
    | some _ => none :: s.pieces
  pieces.reverse

def ofUtf8? (octets : List UInt8) : Option String :=
  ((utf8Pieces false octets).mapM id).map String.ofList

/-- Reads octets as above, but takes a surrogate for a replacement character. -/
def ofUtf8WithSurrogates? (octets : List UInt8) : Option String :=
  ((utf8Pieces true octets).mapM id).map String.ofList

/-- Reads octets with a replacement character for each unreadable piece. -/
def ofUtf8Lossy (octets : List UInt8) : String :=
  String.ofList ((utf8Pieces false octets).map fun piece => piece.getD (Char.ofNat 0xFFFD))

def charOctets (c : Char) : List UInt8 :=
  let n := c.toNat
  if n < 0x80 then [n.toUInt8]
  else if n < 0x800 then [(0xC0 + n / 64).toUInt8, (0x80 + n % 64).toUInt8]
  else if n < 0x10000 then
    [(0xE0 + n / 4096).toUInt8, (0x80 + n / 64 % 64).toUInt8, (0x80 + n % 64).toUInt8]
  else
    [(0xF0 + n / 262144).toUInt8, (0x80 + n / 4096 % 64).toUInt8, (0x80 + n / 64 % 64).toUInt8,
      (0x80 + n % 64).toUInt8]

def toUtf8 (s : String) : List UInt8 :=
  s.toList.flatMap charOctets

end ReorgGuard.Text
