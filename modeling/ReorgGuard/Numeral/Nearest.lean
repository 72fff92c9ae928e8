/-!
The nearest floating point number.

A quotient of natural numbers is rounded to the nearest number that can be held; a tie goes to
the even significand.  What lies beyond the greatest number is infinite.
-/

namespace ReorgGuard.Numeral

/-- A quotient rounded to the nearest integer; a tie goes to the even one. -/
def roundDiv (num den : Nat) : Nat :=
  let low := num / den
  let twice := 2 * (num % den)
  if twice < den then low
  else if den < twice then low + 1
  else low + low % 2

/-- The greatest power of two not above a positive quotient, as its exponent. -/
def binaryExponent (num den : Nat) : Int :=
  let guess : Int := (num.log2 : Int) - den.log2
  if den * Nat.pow 2 guess.toNat ≤ num * Nat.pow 2 (-guess).toNat then guess else guess - 1

/-- The number with a significand of at most fifty-three bits and an exponent. -/
def assemble (significand : Nat) (exponent : Int) : Float :=
  let hidden := Nat.pow 2 52
  let (significand, exponent) :=
    if significand = 2 * hidden then (hidden, exponent + 1) else (significand, exponent)
  if significand < hidden then Float.ofBits significand.toUInt64
  else if 971 < exponent then 1.0 / 0.0
  else Float.ofBits ((exponent + 1075).toNat * hidden + (significand - hidden)).toUInt64

def nearest (num den : Nat) : Float :=
  if num = 0 then 0.0
  else
    let exponent := max (binaryExponent num den - 52) (-1074)
    if 971 < exponent then 1.0 / 0.0
    else
      assemble (roundDiv (num * Nat.pow 2 (-exponent).toNat) (den * Nat.pow 2 exponent.toNat)) exponent

def nearestInt (n : Int) : Float :=
  let size := nearest n.natAbs 1
  if n < 0 then -size else size

end ReorgGuard.Numeral
