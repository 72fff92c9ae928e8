import ReorgGuard.Checkpoint.Fault
import ReorgGuard.Text.Blank
import ReorgGuard.Value

/-!
Block heights.

A height is a natural number of at most sixty-four bits.  It is read from an integer or from
decimal text, which may stand between blanks and begin with zeros.

A height that is merely asked about need not be one: any number will do, and each question
rounds it in the direction that keeps its answer.
-/

namespace ReorgGuard.Checkpoint

def maxHeight : Nat := Nat.pow 2 64 - 1

def Height.ofInt (n : Int) : Except Unread Nat :=
  if 0 ≤ n ∧ n ≤ maxHeight then .ok n.toNat
  else if Numeral.tooLong n then .error (.limit .number)
  else .error (.fault (.heightOutOfRange (Numeral.intText n)))

def Height.ofText (s : String) : Except Unread Nat :=
  let digits := Text.trim s.toList
  if digits.isEmpty || !digits.all Numeral.isDecimal then
    .error (.fault (.heightNotDecimal (Text.quote s)))
  else if Numeral.digitLimit < digits.length then .error (.limit (.text digits.length))
  else Height.ofInt (Numeral.read 10 digits)

def Height.ofValue : Value → Except Unread Nat
  | .bool b => .error (.fault (.heightNotInteger (if b then "True" else "False")))
  | .text s => Height.ofText s
  | .ragged s => .error (.fault (.heightNotDecimal (Text.quote s)))
  | .int n => Height.ofInt n
  | value => .error (.fault (.heightKind value.kind))

namespace Height

def beyond : Int := maxHeight + 1

/-- The greatest integer not above a number.  What is not a number of any size counts as beyond every
height; text and the like give nothing. -/
def floor? : Value → Option Int
  | .float x =>
      match Numeral.decode x with
      | .finite .. => Numeral.floorOf? x
      | .infinite true => some (-1)
      | _ => some beyond
  | value => value.whole?

def ceil? : Value → Option Int
  | .float x =>
      match Numeral.decode x with
      | .finite .. => (Numeral.floorOf? (-x)).map (- ·)
      | .infinite true => some (-1)
      | _ => some beyond
  | value => value.whole?

def away? : Value → Option Int
  | .float x =>
      match Numeral.decode x with
      | .finite .. => if x < 0.0 then floor? (.float x) else ceil? (.float x)
      | .infinite false => some beyond
      | _ => some (-1)
  | value => value.whole?

def toward? : Value → Option Int
  | .float x => if x < 0.0 then ceil? (.float x) else floor? (.float x)
  | value => value.whole?

end Height

end ReorgGuard.Checkpoint
