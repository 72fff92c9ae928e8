import ReorgGuard.Breakdown
import ReorgGuard.Numeral.Integer
import ReorgGuard.Numeral.Nearest
import ReorgGuard.Value

/-!
Values taken for whole numbers.

A floating point number loses its fraction, and text is read in base ten.
-/

namespace ReorgGuard.Value

def wholePart (x : Float) : Except Breakdown Int :=
  match Numeral.decode x with
  | .nan => .error (.noMeaning "cannot convert float NaN to integer")
  | .infinite _ => .error .overflow
  | .finite negative significand exponent _ =>
      let size : Int := significand * Nat.pow 2 exponent.toNat / Nat.pow 2 (-exponent).toNat
      .ok (if negative then -size else size)

def asWhole : Value → Except Breakdown Int
  | bool b => .ok (if b then 1 else 0)
  | int n => .ok n
  | float x => wholePart x
  | text s => (Numeral.integer 10 s).mapError fun fault => .noMeaning fault.message
  | _ => .error .unfitKind

def asNumber? : Value → Option Float
  | bool b => some (if b then 1.0 else 0.0)
  | int n => some (Numeral.nearestInt n)
  | float x => some x
  | _ => none

end ReorgGuard.Value
