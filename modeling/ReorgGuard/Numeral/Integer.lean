import ReorgGuard.Numeral.Decimal
import ReorgGuard.Text.Blank
import ReorgGuard.Text.Letters
import ReorgGuard.Text.Quoted

/-!
Text read as an integer in some base.

Digits of any script count, single underscores may stand between digits, and white space may
stand around the whole.  Base two, eight and sixteen may be named by a mark in front of the
digits.  A decimal text of too many digits is not turned into a number.
-/

namespace ReorgGuard.Numeral

inductive IntegerFault where
  | malformed (base : Nat) (shown : String)
  | tooManyDigits (digits : Nat)

def quotationLimit : Nat := 200

def IntegerFault.message : IntegerFault → String
  | malformed base shown =>
      s!"invalid literal for int() with base {base}: " ++ String.ofList (shown.toList.take quotationLimit)
  | tooManyDigits digits => tooManyDigitsMessage digits

def digitIn? (base : Nat) (c : Char) : Option Nat :=
  ((Text.digit? c).or (hexDigit? c)).filter (· < base)

def baseLetter? : Nat → Option Char
  | 2 => some 'b'
  | 8 => some 'o'
  | 16 => some 'x'
  | _ => none

/-- Text without the mark of a base; an underscore may follow the mark. -/
def withoutMark (base : Nat) (cs : List Char) : List Char :=
  match cs, baseLetter? base with
  | '0' :: letter :: rest, some c =>
      if letter.toLower = c then (if rest.head? = some '_' then rest.drop 1 else rest) else cs
  | _, _ => cs

/-- The digits of a run of digits and single underscores between them. -/
def runDigits? (run : List Char) : Option (List Char) :=
  if run.head? == some '_' || run.getLast? == some '_' || (run.zip run.tail).contains ('_', '_') then none
  else some (run.filter (· != '_'))

def integer (base : Nat) (s : String) : Except IntegerFault Int :=
  let malformed : IntegerFault := .malformed base (Text.quote s)
  let (negative, body) := takeSign (Text.trimBy Text.isWhite s.toList)
  let body := withoutMark base body
  let run := body.takeWhile fun c => (digitIn? base c).isSome || c == '_'
  match runDigits? run with
  | none => .error malformed
  | some digits =>
      if digits.isEmpty then .error malformed
      else if base = 10 ∧ digitLimit < digits.length then .error (.tooManyDigits digits.length)
      else if run.length < body.length then .error malformed
      else
        let size := digits.foldl (fun value c => value * base + (digitIn? base c).getD 0) 0
        .ok (if negative then -(size : Int) else size)

end ReorgGuard.Numeral
