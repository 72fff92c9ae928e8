import ReorgGuard.Numeral.Nearest
import ReorgGuard.Numeral.Shortest

/-!
Decimals of a given number of places.

A quotient of natural numbers is rounded to the nearest decimal; a tie goes to the even last
digit.
-/

namespace ReorgGuard.Numeral

def pointed (places : Nat) (always : Bool) (digits : List Char) : List Char :=
  let whole := digits.take (digits.length - places)
  let fraction := digits.drop (digits.length - places)
  whole ++ if fraction.isEmpty && !always then [] else '.' :: fraction

def fixed (places : Nat) (always : Bool) (num den : Nat) : List Char :=
  pointed places always (padded 10 (places + 1) (roundDiv (num * Nat.pow 10 places) den))

/-- The digits of a quotient, one and so many places, and the power of ten that the first one counts. -/
def significant (places num den : Nat) : Nat × Int :=
  if num = 0 then (0, 0)
  else
    let exponent := decade num den - 1
    let shift := (places : Int) - exponent
    let n := roundDiv (num * Nat.pow 10 shift.toNat) (den * Nat.pow 10 (-shift).toNat)
    if n = Nat.pow 10 (places + 1) then (Nat.pow 10 places, exponent + 1) else (n, exponent)

def exponentText (exponent : Int) : List Char :=
  'e' :: (if exponent < 0 then '-' else '+') :: padded 10 2 exponent.natAbs

def scientific (places : Nat) (always : Bool) (num den : Nat) : List Char :=
  let (n, exponent) := significant places num den
  pointed places always (padded 10 (places + 1) n) ++ exponentText exponent

/-- Text without the zeros that end it and without a point that ends it then. -/
def withoutTrailing (cs : List Char) : List Char :=
  if cs.contains '.' then
    let kept := cs.reverse.dropWhile (· == '0')
    (if kept.head? == some '.' then kept.drop 1 else kept).reverse
  else cs

/-- A quotient of so many significant digits, with an exponent where it is very small or has more digits
in front of the point. -/
def general (digits : Nat) (always : Bool) (num den : Nat) : List Char :=
  let digits := max digits 1
  let (n, exponent) := significant (digits - 1) num den
  let tidy (cs : List Char) : List Char := if always then cs else withoutTrailing cs
  if -4 ≤ exponent ∧ exponent < digits then
    tidy (fixed ((digits : Int) - 1 - exponent).toNat always num den)
  else tidy (pointed (digits - 1) always (padded 10 digits n)) ++ exponentText exponent

end ReorgGuard.Numeral
