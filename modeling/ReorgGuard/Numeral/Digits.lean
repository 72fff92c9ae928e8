/-!
Numbers in positional notation.

`write` gives the digits of a number without leading zeros and `read` the value of a
digit string; reading what was written gives the number back.  A decimal text of more
than `digitLimit` digits is never turned into a number, nor is a number of more digits
written in decimal.
-/

namespace ReorgGuard.Numeral

/-- The longest decimal text that is turned into a number. -/
def digitLimit : Nat := 4300

def digitChar (d : Nat) : Char :=
  if d < 10 then Char.ofNat (48 + d) else Char.ofNat (87 + d)

def writeOnto (base n : Nat) (written : List Char) : List Char :=
  if _small : base ≤ 1 ∨ n < base then digitChar n :: written
  else writeOnto base (n / base) (digitChar (n % base) :: written)
termination_by n
decreasing_by
  have big : 1 < base := by omega
  exact Nat.div_lt_self (by omega) big

def write (base n : Nat) : List Char :=
  writeOnto base n []

def padded (base width n : Nat) : List Char :=
  let digits := write base n
  List.replicate (width - digits.length) '0' ++ digits

def hexDigit? (c : Char) : Option Nat :=
  if '0' ≤ c ∧ c ≤ '9' then some (c.toNat - 48)
  else if 'a' ≤ c ∧ c ≤ 'f' then some (c.toNat - 87)
  else if 'A' ≤ c ∧ c ≤ 'F' then some (c.toNat - 55)
  else none

def isDecimal (c : Char) : Bool :=
  '0' ≤ c && c ≤ '9'

def isHex (c : Char) : Bool :=
  (hexDigit? c).isSome

/-- The value of a digit string; other characters count as zero. -/
def read (base : Nat) (cs : List Char) : Nat :=
  cs.foldl (fun value c => value * base + (hexDigit? c).getD 0) 0

def natText (n : Nat) : String :=
  String.ofList (write 10 n)

def intText (n : Int) : String :=
  if n < 0 then String.ofList ('-' :: write 10 n.natAbs) else natText n.natAbs

def hexText (n : Nat) : String :=
  String.ofList ('0' :: 'x' :: write 16 n)

def tooManyDigitsMessage (digits : Nat) : String :=
  s!"Exceeds the limit ({digitLimit} digits) for integer string conversion: value has {digits} digits; " ++
    "use sys.set_int_max_str_digits() to increase the limit"

def tooLongMessage : String :=
  s!"Exceeds the limit ({digitLimit} digits) for integer string conversion; " ++
    "use sys.set_int_max_str_digits() to increase the limit"

def tooLong (n : Int) : Bool :=
  Nat.pow 10 digitLimit ≤ n.natAbs

end ReorgGuard.Numeral
