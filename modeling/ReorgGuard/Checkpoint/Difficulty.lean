import ReorgGuard.Checkpoint.Fault
import ReorgGuard.Text.Blank
import ReorgGuard.Value

/-!
Cumulative difficulties.

A difficulty is a natural number of any size.  Text is hexadecimal behind `0x` and decimal
otherwise, also when it begins with a zero.  No value and blank text assert no difficulty.
-/

namespace ReorgGuard.Checkpoint.Difficulty

def afterMark? : List Char → Option (List Char)
  | '0' :: x :: rest => if x = 'x' ∨ x = 'X' then some rest else none
  | _ => none

def ofText (s : String) : Except Unread (Option Nat) :=
  let cs := Text.trim s.toList
  let unreadable : Except Unread (Option Nat) :=
    .error (.fault (.difficultyUnreadable (Text.quote s)))
  if cs.isEmpty then .ok none
  else
    match afterMark? cs with
    | some digits =>
        if digits.isEmpty || !digits.all Numeral.isHex then unreadable
        else .ok (some (Numeral.read 16 digits))
    | none =>
        if !cs.all Numeral.isDecimal then unreadable
        else if Numeral.digitLimit < cs.length then .error (.limit (.text cs.length))
        else .ok (some (Numeral.read 10 cs))

def ofValue : Value → Except Unread (Option Nat)
  | .null => .ok none
  | .bool b => .error (.fault (.difficultyNotInteger (if b then "True" else "False")))
  | .int n =>
      if 0 ≤ n then .ok (some n.toNat)
      else if Numeral.tooLong n then .error (.limit .number)
      else .error (.fault (.difficultyNegative (Numeral.intText n)))
  | .text s => ofText s
  | .ragged s => .error (.fault (.difficultyUnreadable (Text.quote s)))
  | value => .error (.fault (.difficultyKind value.kind))

end ReorgGuard.Checkpoint.Difficulty
