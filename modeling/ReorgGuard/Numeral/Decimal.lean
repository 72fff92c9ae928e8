import ReorgGuard.Numeral.Digits
import ReorgGuard.Numeral.Nearest

/-!
Decimal text read as a floating point number.

The grammar is digits with an optional fraction and an optional exponent; the value is
the nearest floating point number.  Exponents far outside the range of floating point
numbers give zero or infinity at once.
-/

namespace ReorgGuard.Numeral

structure Scientific where
  negative : Bool
  whole : List Char
  fraction : List Char
  exponent : Int

def Scientific.toFloat (s : Scientific) : Float :=
  let digits := (s.whole ++ s.fraction).dropWhile (· == '0')
  let exponent := s.exponent - s.fraction.length
  let size : Float :=
    if digits.isEmpty then 0.0
    else if 400 < digits.length + exponent then 1.0 / 0.0
    else if digits.length + exponent < -400 then 0.0
    else nearest (read 10 digits * Nat.pow 10 exponent.toNat) (Nat.pow 10 (-exponent).toNat)
  if s.negative then -size else size

def takeSign : List Char → Bool × List Char
  | '-' :: rest => (true, rest)
  | '+' :: rest => (false, rest)
  | rest => (false, rest)

def exponent? (cs : List Char) : Option Int :=
  let (negative, digits) := takeSign cs
  if digits.isEmpty || !digits.all isDecimal then none
  else
    let size : Int := read 10 digits
    some (if negative then -size else size)

/-- Takes an unsigned decimal apart.  At least one digit stands before or behind the point. -/
def unsigned? (negative : Bool) (cs : List Char) : Option Scientific :=
  let whole := cs.takeWhile isDecimal
  let afterWhole := cs.dropWhile isDecimal
  let (fraction, afterFraction) := match afterWhole with
    | '.' :: rest => (rest.takeWhile isDecimal, rest.dropWhile isDecimal)
    | rest => ([], rest)
  if whole.isEmpty && fraction.isEmpty then none
  else
    match afterFraction with
    | [] => some ⟨negative, whole, fraction, 0⟩
    | mark :: rest =>
        if mark = 'e' ∨ mark = 'E' then
          (exponent? rest).map fun exponent => ⟨negative, whole, fraction, exponent⟩
        else none

/-- Reads a decimal with an optional sign; `inf`, `infinity` and `nan` are numbers in any case. -/
def float? (cs : List Char) : Option Float :=
  let (negative, rest) := takeSign cs
  let word := String.ofList (rest.map Char.toLower)
  if word == "inf" || word == "infinity" then some (if negative then -1.0 / 0.0 else 1.0 / 0.0)
  else if word == "nan" then some (0.0 / 0.0)
  else (unsigned? negative rest).map Scientific.toFloat

end ReorgGuard.Numeral
