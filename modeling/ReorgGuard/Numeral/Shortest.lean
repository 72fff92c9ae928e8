import ReorgGuard.Numeral.Digits

/-!
The shortest decimal text of a binary floating point number.

A finite number is a significand times a power of two.  Among the decimals that round
to it, those with the fewest digits are taken, and of those the nearest; an exact tie goes
to the even last digit.  All comparisons are between natural numbers.
-/

namespace ReorgGuard.Numeral

inductive Decoded where
  | nan
  | infinite (negative : Bool)
  /-- The number `significand * 2 ^ exponent`; `narrow` when the gap below is half the gap above. -/
  | finite (negative : Bool) (significand : Nat) (exponent : Int) (narrow : Bool)

def decode (x : Float) : Decoded :=
  let bits : Nat := x.toBits.toNat
  let negative : Bool := bits / Nat.pow 2 63 == 1
  let biased : Nat := bits / Nat.pow 2 52 % Nat.pow 2 11
  let fraction : Nat := bits % Nat.pow 2 52
  if biased == 2047 then
    if fraction == 0 then .infinite negative else .nan
  else if biased == 0 then .finite negative fraction (-1074) false
  else .finite negative (fraction + Nat.pow 2 52) ((biased : Int) - 1075) (fraction == 0 && biased > 1)

/-- A decimal: the digits stand directly behind the point, moved `point` places to the left. -/
structure Digits where
  digits : List Char
  point : Int

def leadingZeros (fuel num den : Nat) : Nat :=
  match fuel with
  | 0 => 0
  | fuel + 1 => if den ≤ num then 0 else leadingZeros fuel (num * 10) den + 1

/-- The place of the decimal point in front of which the digits of `num / den` begin. -/
def decade (num den : Nat) : Int :=
  if den ≤ num then (write 10 (num / den)).length
  else 1 - (leadingZeros 400 num den : Int)

/-- The multiple of `10 ^ (place - count)` that rounds to the number, if there is one.  The number is
`value / den`; what rounds to it lies between `low / den` and `high / den`. -/
def onGrid (value low high den : Nat) (closed : Bool) (place : Int) (count : Nat) : Option Nat :=
  let shift := place - count
  let up := Nat.pow 10 shift.toNat
  let down := Nat.pow 10 (-shift).toNat
  let lower := value * down / (den * up)
  let inside (c : Nat) : Bool :=
    let scaled := c * up * den
    if closed then low * down ≤ scaled && scaled ≤ high * down
    else low * down < scaled && scaled < high * down
  let below := value * down - lower * up * den
  let above := (lower + 1) * up * den - value * down
  match inside lower, inside (lower + 1) with
  | true, true =>
      if below < above then some lower
      else if above < below then some (lower + 1)
      else some (if lower % 2 == 0 then lower else lower + 1)
  | true, false => some lower
  | false, true => some (lower + 1)
  | false, false => none

/-- The first grid with a hit, from `count` digits on. -/
def firstGrid (value low high den : Nat) (closed : Bool) (place : Int) :
    Nat → Nat → Nat × Nat
  | 0, count => (0, count)
  | fuel + 1, count =>
      match onGrid value low high den closed place count with
      | some c => (c, count)
      | none => firstGrid value low high den closed place fuel (count + 1)

def shortest (significand : Nat) (exponent : Int) (narrow : Bool) : Digits :=
  let scale := exponent - 2
  let up := Nat.pow 2 scale.toNat
  let den := Nat.pow 2 (-scale).toNat
  let value := 4 * significand * up
  let low := (4 * significand - if narrow then 1 else 2) * up
  let high := (4 * significand + 2) * up
  let place := decade value den
  let hit := firstGrid value low high den (significand % 2 == 0) place 17 1
  let digits := write 10 hit.1
  { digits := (digits.reverse.dropWhile (· == '0')).reverse
    point := digits.length + (place - hit.2) }

/-- Positional notation for values from 0.0001 up to below 10 to the sixteenth, otherwise an exponent
of at least two digits after `e` and its sign. -/
def Digits.layout (d : Digits) : List Char :=
  if -4 < d.point ∧ d.point ≤ 16 then
    if d.point ≤ 0 then
      '0' :: '.' :: List.replicate (-d.point).toNat '0' ++ d.digits
    else
      let whole := d.point.toNat
      if d.digits.length ≤ whole then
        d.digits ++ List.replicate (whole - d.digits.length) '0' ++ ['.', '0']
      else d.digits.take whole ++ '.' :: d.digits.drop whole
  else
    let exponent := d.point - 1
    let size := write 10 exponent.natAbs
    d.digits.take 1 ++ (if d.digits.length ≤ 1 then [] else '.' :: d.digits.drop 1) ++
      'e' :: (if exponent < 0 then '-' else '+') :: List.replicate (2 - size.length) '0' ++ size

/-- A floating point number as text: `1.5`, `10.0`, `1e+16`, `inf`, `nan`. -/
def floatText (x : Float) : String :=
  match decode x with
  | .nan => "nan"
  | .infinite negative => if negative then "-inf" else "inf"
  | .finite negative significand exponent narrow =>
      let body := if significand == 0 then ['0', '.', '0']
        else (shortest significand exponent narrow).layout
      String.ofList (if negative then '-' :: body else body)

def wholeOf? (x : Float) : Option Int :=
  match decode x with
  | .finite negative significand exponent _ =>
      let size : Option Nat :=
        if 0 ≤ exponent then some (significand * Nat.pow 2 exponent.toNat)
        else if significand % Nat.pow 2 (-exponent).toNat == 0 then some (significand / Nat.pow 2 (-exponent).toNat)
        else none
      size.map fun n => if negative then -(n : Int) else n
  | _ => none

def floorOf? (x : Float) : Option Int :=
  match decode x with
  | .finite negative significand exponent _ =>
      let scaled : Int := (if negative then -1 else 1) * significand * Nat.pow 2 exponent.toNat
      some (scaled.fdiv (Nat.pow 2 (-exponent).toNat))
  | _ => none

end ReorgGuard.Numeral
