import ReorgGuard.Numeral.Digits

/-!
Why a value is no height, no hash or no cumulative difficulty.

A fault concerns one record, which is then refused.  The limits on the digits of numbers are
kept apart: a number beyond them is not examined any further, and whoever asked is told so.
-/

namespace ReorgGuard.Checkpoint

/-- What is wrong with a value.  The text of the value, where a constructor carries it, is the
text between quotation marks. -/
inductive Fault where
  | heightNotInteger (shown : String)
  | heightNotDecimal (shown : String)
  | heightKind (kind : String)
  | heightOutOfRange (shown : String)
  | hashSize (octets : Nat)
  | hashKind (kind : String)
  | hashLength (characters : Nat)
  | hashNotHex (shown : String)
  | difficultyNotInteger (shown : String)
  | difficultyNegative (shown : String)
  | difficultyKind (kind : String)
  | difficultyUnreadable (shown : String)

def Fault.inDifficulty : Fault → Bool
  | difficultyNotInteger _ => true
  | difficultyNegative _ => true
  | difficultyKind _ => true
  | difficultyUnreadable _ => true
  | _ => false

def Fault.message : Fault → String
  | heightNotInteger shown => s!"height must be an integer, got {shown}"
  | heightNotDecimal shown => s!"height is not a decimal integer: {shown}"
  | heightKind kind => s!"height must be an integer, got {kind}"
  | heightOutOfRange shown => s!"height out of range: {shown}"
  | hashSize octets => s!"hash must be 32 bytes, got {octets}"
  | hashKind kind => s!"hash must be hex text or bytes, got {kind}"
  | hashLength characters => s!"hash must be 64 hex chars, got {characters}"
  | hashNotHex shown => s!"hash is not hex: {shown}"
  | difficultyNotInteger shown => s!"difficulty must be an integer, got {shown}"
  | difficultyNegative shown => s!"difficulty must be non-negative, got {shown}"
  | difficultyKind kind => s!"difficulty must be text or int, got {kind}"
  | difficultyUnreadable shown => s!"unparseable difficulty: {shown}"

inductive BeyondLimit where
  /-- Text with so many digits is not turned into a number. -/
  | text (digits : Nat)
  /-- The number is not written in decimal. -/
  | number

def BeyondLimit.message : BeyondLimit → String
  | text digits => Numeral.tooManyDigitsMessage digits
  | number => Numeral.tooLongMessage

inductive Unread where
  | fault (fault : Fault)
  | limit (limit : BeyondLimit)

def Unread.message : Unread → String
  | fault f => f.message
  | limit l => l.message

end ReorgGuard.Checkpoint
