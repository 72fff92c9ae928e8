import ReorgGuard.Text.Utf8

/-!
Text of a document whose encoding is told by its first octets.

A byte order mark decides first.  Without one, zeros among the first four octets tell the
encodings with wide units; everything else is UTF-8.  Surrogates that do not form a pair are
replaced.
-/

namespace ReorgGuard.Text

def unitsOf? (width : Nat) (littleEndian : Bool) (octets : List UInt8) : Option (List Nat) :=
  let value (group : List UInt8) : Nat :=
    (if littleEndian then group.reverse else group).foldl (fun n b => n * 256 + b.toNat) 0
  let (full, group) := octets.foldl
    (fun (s : List Nat × List UInt8) b =>
      let group := s.2 ++ [b]
      if group.length == width then (value group :: s.1, []) else (s.1, group))
    ([], [])
  if group.isEmpty then some full.reverse else none

def joinPairs : List Nat → List Nat
  | high :: low :: rest =>
      if 0xD800 ≤ high ∧ high < 0xDC00 ∧ 0xDC00 ≤ low ∧ low < 0xE000 then
        (0x10000 + (high - 0xD800) * 1024 + (low - 0xDC00)) :: joinPairs rest
      else high :: joinPairs (low :: rest)
  | units => units

def ofUtf16? (littleEndian : Bool) (octets : List UInt8) : Option String :=
  (unitsOf? 2 littleEndian octets).map fun units =>
    String.ofList ((joinPairs units).map charOf)

def ofUtf32? (littleEndian : Bool) (octets : List UInt8) : Option String :=
  match unitsOf? 4 littleEndian octets with
  | some units =>
      if units.all (· < 0x110000) then some (String.ofList (units.map charOf)) else none
  | none => none

/-- Reads a document in the encoding that its first octets tell. -/
def ofDocument? (octets : List UInt8) : Option String :=
  match octets with
  | 0 :: 0 :: 0xFE :: 0xFF :: rest => ofUtf32? false rest
  | 0xFF :: 0xFE :: 0 :: 0 :: rest => ofUtf32? true rest
  | 0xFE :: 0xFF :: rest => ofUtf16? false rest
  | 0xFF :: 0xFE :: rest => ofUtf16? true rest
  | 0xEF :: 0xBB :: 0xBF :: rest => ofUtf8WithSurrogates? rest
  | a :: b :: c :: d :: _ =>
      if a == 0 then if b == 0 then ofUtf32? false octets else ofUtf16? false octets
      else if b == 0 then
        if c == 0 && d == 0 then ofUtf32? true octets else ofUtf16? true octets
      else ofUtf8WithSurrogates? octets
  | [a, b] =>
      if a == 0 then ofUtf16? false octets
      else if b == 0 then ofUtf16? true octets
      else ofUtf8WithSurrogates? octets
  | _ => ofUtf8WithSurrogates? octets

end ReorgGuard.Text
