import ReorgGuard.Numeral.Decimal
import ReorgGuard.Text.Blank
import ReorgGuard.Text.Letters
import ReorgGuard.Text.Utf8
import ReorgGuard.Value

/-!
Lenient readings of values from files and settings.

A number may be given as text, a truth value as a word, and the like.  What does not fit is a
mismatch, named by a short word.
-/

namespace ReorgGuard

inductive Mismatch where
  | boolParsing
  | boolType
  | intParsing
  | intParsingSize
  | intFromFloat
  | intType
  | finiteNumber
  | floatParsing
  | floatType
  | stringType
  | stringUnicode
  | listType
  | dictType
  | modelType
  | pathType
  | enumeration
  | extraForbidden
  | valueError
  deriving DecidableEq

def Mismatch.name : Mismatch → String
  | boolParsing => "bool_parsing"
  | boolType => "bool_type"
  | intParsing => "int_parsing"
  | intParsingSize => "int_parsing_size"
  | intFromFloat => "int_from_float"
  | intType => "int_type"
  | finiteNumber => "finite_number"
  | floatParsing => "float_parsing"
  | floatType => "float_type"
  | stringType => "string_type"
  | stringUnicode => "string_unicode"
  | listType => "list_type"
  | dictType => "dict_type"
  | modelType => "model_type"
  | pathType => "path_type"
  | enumeration => "enum"
  | extraForbidden => "extra_forbidden"
  | valueError => "value_error"

namespace Value

/-- Text without underscores, if each of them stands alone and none at an end. -/
def withoutUnderscores? (cs : List Char) : Option (List Char) :=
  if cs.head? == some '_' || cs.getLast? == some '_' || (cs.zip cs.tail).contains ('_', '_') then none
  else some (cs.filter (· != '_'))

def withoutZeroFraction (cs : List Char) : List Char :=
  match cs.dropWhile (· != '.') with
  | '.' :: zeros => if !zeros.isEmpty && zeros.all (· == '0') then cs.takeWhile (· != '.') else cs
  | _ => cs

/-- Digits without the zeros that lead them; underscores between those zeros go with them.  The last
character in front of a point or of the end stays. -/
def withoutLeadingZeros? (cs : List Char) : Option (List Char) :=
  match cs with
  | '0' :: _ =>
      let zeros := cs.takeWhile fun c => c == '0' || c == '_'
      match cs.dropWhile fun c => c == '0' || c == '_' with
      | [] => some (zeros.drop (zeros.length - 1))
      | '.' :: rest => some (zeros.drop (zeros.length - 1) ++ '.' :: rest)
      | c :: rest => if Numeral.isDecimal c then some (c :: rest) else none
  | c :: _ => if Numeral.isDecimal c then some cs else none
  | [] => none

/-- Reads text as an integer: a sign, digits among which underscores may stand, and possibly a fraction of
zeros. -/
def integerText? (s : String) : Except Mismatch Int :=
  let trimmed := Text.trimBy Text.isWhite s.toList
  let (positive, rest) := match trimmed with
    | '+' :: rest => (true, rest)
    | rest => (false, rest)
  let (negative, rest) := match rest with
    | '-' :: digits => (true, digits)
    | rest => (false, rest)
  match withoutLeadingZeros? rest with
  | none => .error .intParsing
  | some cs =>
      let cs := withoutZeroFraction cs
      let digits := (withoutUnderscores? cs).getD cs
      if positive && negative then .error .intParsing
      else if Numeral.digitLimit < digits.length + (if negative then 1 else 0) then .error .intParsingSize
      else if digits.isEmpty || !digits.all Numeral.isDecimal then .error .intParsing
      else
        let size : Int := Numeral.read 10 digits
        .ok (if negative then -size else size)

/-- The integer that a floating point number is, if it is one of at most sixty-three bits. -/
def integerOfFloat (x : Float) : Except Mismatch Int :=
  match Numeral.decode x with
  | .finite .. =>
      match Numeral.wholeOf? x with
      | some n => if n.natAbs < Nat.pow 2 63 then .ok n else .error .intParsingSize
      | none => .error .intFromFloat
  | _ => .error .finiteNumber

def heldText? (unreadable : Mismatch) : Value → Option (Except Mismatch String)
  | text s => some (.ok s)
  | ragged _ => some (.error .stringUnicode)
  | octets .fixed bytes => some ((Text.ofUtf8? bytes).elim (.error unreadable) .ok)
  | _ => none

def asInt : Value → Except Mismatch Int
  | bool b => .ok (if b then 1 else 0)
  | int n => .ok n
  | float x => integerOfFloat x
  | value =>
      match value.heldText? .intParsing with
      | some held => held.bind integerText?
      | none => .error .intType

def truthOfInt (n : Int) : Except Mismatch Bool :=
  if n = 0 then .ok false else if n = 1 then .ok true else .error .boolParsing

def trueWords : List String := ["1", "on", "t", "true", "y", "yes"]

def falseWords : List String := ["0", "off", "f", "false", "n", "no"]

def truthOfWord (s : String) : Except Mismatch Bool :=
  let word := String.ofList (s.toList.map Char.toLower)
  if trueWords.contains word then .ok true
  else if falseWords.contains word then .ok false
  else .error .boolParsing

def isWord (n : Int) : Bool :=
  -(Nat.pow 2 63 : Int) ≤ n && n < (Nat.pow 2 63 : Int)

def asBool : Value → Except Mismatch Bool
  | bool b => .ok b
  | int n => if isWord n then truthOfInt n else .error .boolType
  | float x =>
      match integerOfFloat x with
      | .ok n => truthOfInt n
      | .error _ => .error .boolType
  | value =>
      match value.heldText? .boolParsing with
      | some held => held.bind truthOfWord
      | none => .error .boolType

def floatingText? (s : String) : Except Mismatch Float :=
  let cs := s.toList
  match (Numeral.float? (Text.trimBy Text.isWhite cs)).or ((withoutUnderscores? cs).bind Numeral.float?) with
  | some x => .ok x
  | none => .error .floatParsing

def asFloat : Value → Except Mismatch Float
  | float x => .ok x
  | bool b => .ok (if b then 1.0 else 0.0)
  | int n =>
      let x := Numeral.nearestInt n
      match Numeral.decode x with
      | .finite .. => .ok x
      | _ => .error .floatType
  | value =>
      match value.heldText? .floatParsing with
      | some held => held.bind floatingText?
      | none => .error .floatType

/-- Reads a value as text.  Ragged text stays as it is. -/
def asText : Value → Except Mismatch String
  | ragged s => .ok s
  | octets .growing bytes => (Text.ofUtf8? bytes).elim (.error .stringUnicode) .ok
  | value =>
      match value.heldText? .stringUnicode with
      | some held => held
      | none => .error .stringType

def asList : Value → Except Mismatch (List Value)
  | list items => .ok items
  | tuple items => .ok items
  | set items => .ok items
  | _ => .error .listType

end Value

end ReorgGuard
