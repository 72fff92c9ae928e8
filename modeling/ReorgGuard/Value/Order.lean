import ReorgGuard.Value

/-!
Comparison of values.

Truth values, integers and floating point numbers are compared by the numbers that they are,
without rounding.  Text is compared by code points, octets by octets, and lists by the first
item in which they differ.  Values of other kinds, and of kinds that do not go together, have no
order, but any two values are equal or not.
-/

namespace ReorgGuard.Value

mutual

def same : Value → Value → Bool
  | list xs, other =>
      match other with
      | list ys => sameItems xs ys
      | _ => false
  | tuple xs, other =>
      match other with
      | tuple ys => sameItems xs ys
      | _ => false
  | dict xs, other =>
      match other with
      | dict ys => xs.length == ys.length && sameEntries xs ys
      | _ => false
  | octets .view xs, other =>
      match other with
      | octets _ ys => xs == ys
      | _ => false
  | float x, other =>
      match other with
      | float y => x == y
      | b => (float x).sameKey b
  | a, b => a.sameKey b

def sameItems : List Value → List Value → Bool
  | [], ys => ys.isEmpty
  | x :: xs, ys =>
      match ys with
      | y :: ys => same x y && sameItems xs ys
      | [] => false

def sameEntries : List (Value × Value) → List (Value × Value) → Bool
  | [], _ => true
  | (key, value) :: rest, ys =>
      (match entry? ys key with
        | some other => same value other
        | none => false) && sameEntries rest ys

end

/-- A number as it is compared: nothing for what is no number at all, no integer for what is not a number
or infinite. -/
inductive Magnitude where
  | nan
  | infinite (negative : Bool)
  /-- The number `size` over a power of two. -/
  | fraction (size : Int) (denominator : Nat)

def magnitude? : Value → Option Magnitude
  | bool b => some (.fraction (if b then 1 else 0) 1)
  | int n => some (.fraction n 1)
  | float x =>
      match Numeral.decode x with
      | .nan => some .nan
      | .infinite negative => some (.infinite negative)
      | .finite negative significand exponent _ =>
          let size : Int := significand * Nat.pow 2 exponent.toNat
          some (.fraction (if negative then -size else size) (Nat.pow 2 (-exponent).toNat))
  | _ => none

def Magnitude.atMost : Magnitude → Magnitude → Bool
  | .nan, _ => false
  | _, .nan => false
  | .infinite true, _ => true
  | _, .infinite false => true
  | .infinite false, _ => false
  | _, .infinite true => false
  | .fraction m c, .fraction n d => m * d ≤ n * c

def Magnitude.below : Magnitude → Magnitude → Bool
  | .nan, _ => false
  | _, .nan => false
  | a, b => !b.atMost a

def octetsAtMost : List UInt8 → List UInt8 → Bool
  | [], _ => true
  | _ :: _, [] => false
  | x :: xs, y :: ys => x < y || (x == y && octetsAtMost xs ys)

def Buffer.isOrdered : Buffer → Bool
  | .view => false
  | _ => true

mutual

/-- Whether a value is at most another one; nothing if the two have no order. -/
def atMost? : Value → Value → Option Bool
  | list xs, other =>
      match other with
      | list ys => itemsAtMost? xs ys
      | _ => none
  | text s, other =>
      match other with
      | text t => some (s ≤ t)
      | _ => none
  | octets a xs, other =>
      match other with
      | octets b ys => if Buffer.isOrdered a && Buffer.isOrdered b then some (octetsAtMost xs ys) else none
      | _ => none
  | a, b => do
      let m ← magnitude? a
      let n ← magnitude? b
      some (m.atMost n)

def itemsAtMost? : List Value → List Value → Option Bool
  | [], _ => some true
  | x :: xs, ys =>
      match ys with
      | [] => some false
      | y :: ys => if same x y then itemsAtMost? xs ys else atMost? x y

end

end ReorgGuard.Value
