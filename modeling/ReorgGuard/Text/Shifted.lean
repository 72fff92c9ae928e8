import ReorgGuard.Text.PairSet

/-!
Text of seven bits, in which a plus sign begins a stretch of base 64.

A stretch holds units of sixteen bits, two of them for characters beyond FFFF, and ends at the first octet
that is no digit; a hyphen there belongs to it.  A plus sign and a hyphen stand for a plus sign.  Bits left
over at the end of a stretch have to be fewer than six and zero.
-/

namespace ReorgGuard.Text

def base64Digit? (n : Nat) : Option Nat :=
  if 0x41 ≤ n ∧ n ≤ 0x5A then some (n - 0x41)
  else if 0x61 ≤ n ∧ n ≤ 0x7A then some (n - 0x61 + 26)
  else if 0x30 ≤ n ∧ n ≤ 0x39 then some (n - 0x30 + 52)
  else if n = 0x2B then some 62
  else if n = 0x2F then some 63
  else none

/-- A stretch of base 64 on the way: bits not used yet and how many they are, and the first half of a pair of
units. -/
structure Stretch where
  bits : Nat
  count : Nat
  half : Option Nat

namespace Stretch

def empty : Stretch := ⟨0, 0, none⟩

/-- Whether what is left over at the end of a stretch is more than padding. -/
def isBroken (s : Stretch) : Bool := 6 ≤ s.count || (0 < s.count && s.bits ≠ 0)

/-- One more unit: what it adds to the text, and the half that waits. -/
def unit (half : Option Nat) (n : Nat) : List Char × Option Nat :=
  let lone := if half.isSome then [replacement] else []
  match half with
  | some high =>
      if 0xDC00 ≤ n ∧ n < 0xE000 then ([Char.ofNat (0x10000 + (high - 0xD800) * 1024 + (n - 0xDC00))], none)
      else if 0xD800 ≤ n ∧ n < 0xDC00 then (lone, some n)
      else (lone ++ [Char.ofNat n], none)
  | none =>
      if 0xD800 ≤ n ∧ n < 0xDC00 then ([], some n)
      else ([if 0xDC00 ≤ n ∧ n < 0xE000 then replacement else Char.ofNat n], none)

def digit (s : Stretch) (d : Nat) : List Char × Stretch :=
  let bits := s.bits * 64 + d
  let count := s.count + 6
  if count < 16 then ([], { s with bits := bits, count := count })
  else
    let left := count - 16
    let (chars, half) := unit s.half (bits / Nat.pow 2 left)
    (chars, ⟨bits % Nat.pow 2 left, left, half⟩)

end Stretch

def readShifted (stretch : Option Stretch) : List Nat → List Char
  | [] =>
      match stretch with
      | some s => if s.half.isSome || s.isBroken then [replacement] else []
      | none => []
  | n :: rest =>
      match stretch with
      | some s =>
          match base64Digit? n with
          | some d =>
              let (chars, s) := s.digit d
              chars ++ readShifted (some s) rest
          | none =>
              if s.isBroken then replacement :: readShifted none rest
              else
                let lone := if s.half.isSome && n < 0x80 then [replacement] else []
                let last := if n = 0x2D then [] else if n < 0x80 then [Char.ofNat n] else [replacement]
                lone ++ last ++ readShifted none rest
      | none =>
          if n = 0x2B then
            match rest with
            | 0x2D :: behind => '+' :: readShifted none behind
            | next :: behind =>
                if (base64Digit? next).isSome then readShifted (some .empty) (next :: behind)
                else replacement :: readShifted none behind
            | [] => readShifted (some .empty) []
          else (if n < 0x80 then Char.ofNat n else replacement) :: readShifted none rest

end ReorgGuard.Text
