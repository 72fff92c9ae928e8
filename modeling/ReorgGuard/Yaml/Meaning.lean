import ReorgGuard.Numeral.Digits
import ReorgGuard.Text.Lines

/-!
What a scalar in a YAML document is.

Plain text has a meaning by its form: words for truth values and for nothing, integers, floating
point numbers and dates; everything else is text.  Integers may be binary, octal behind a zero,
hexadecimal or in base sixty, and underscores among digits are ignored.  A floating point number
has a point.
-/

namespace ReorgGuard.Yaml

inductive Meaning where
  | nothing
  | truth
  | integer
  | floating
  | octets
  | date
  /-- A list of pairs; the two kinds differ in name only. -/
  | pairs
  | set
  | text
  | sequence
  | mapping
  | merge
  /-- The mark of a value that stands for the mapping that holds it. -/
  | usual
  | unknown
  deriving DecidableEq, Inhabited

def tagStart : String := "tag:yaml.org,2002:"

def knownTags : List (String × Meaning) :=
  [("null", .nothing), ("bool", .truth), ("int", .integer), ("float", .floating), ("binary", .octets),
    ("timestamp", .date), ("omap", .pairs), ("pairs", .pairs), ("set", .set), ("str", .text),
    ("seq", .sequence), ("map", .mapping), ("merge", .merge), ("value", .usual)]

def Meaning.ofTag (tag : String) : Meaning :=
  if tag.startsWith tagStart then
    (knownTags.lookup (tag.drop tagStart.length).toString).getD .unknown
  else .unknown

def truthWords : List String :=
  ["yes", "Yes", "YES", "true", "True", "TRUE", "on", "On", "ON", "no", "No", "NO", "false", "False", "FALSE",
    "off", "Off", "OFF"]

def nullWords : List String := ["~", "null", "Null", "NULL"]

/-- Marks that have a meaning of their own, which no value has. -/
def loneMarks : List String := ["!", "&", "*"]

def isDigits (cs : List Char) : Bool :=
  match cs with
  | c :: rest => Numeral.isDecimal c && rest.all fun c => Numeral.isDecimal c || c == '_'
  | [] => false

def isSixtieth : List Char → Bool
  | [a] => Numeral.isDecimal a
  | [a, b] => '0' ≤ a && a ≤ '5' && Numeral.isDecimal b
  | _ => false

def unsign : List Char → List Char
  | '-' :: rest => rest
  | '+' :: rest => rest
  | rest => rest

def isInteger (cs : List Char) : Bool :=
  let body := unsign cs
  match Text.splitAt ':' body with
  | first :: others@(_ :: _) =>
      isDigits first && first.head? != some '0' && others.all isSixtieth
  | _ =>
      match body with
      | ['0'] => true
      | '0' :: 'b' :: digits => !digits.isEmpty && digits.all fun c => c == '0' || c == '1' || c == '_'
      | '0' :: 'x' :: digits => !digits.isEmpty && digits.all fun c => Numeral.isHex c || c == '_'
      | '0' :: digits => digits.all fun c => ('0' ≤ c && c ≤ '7') || c == '_'
      | digits => isDigits digits

def isExponent : List Char → Bool
  | [] => true
  | mark :: sign :: digits =>
      (mark == 'e' || mark == 'E') && (sign == '-' || sign == '+') && !digits.isEmpty &&
        digits.all Numeral.isDecimal
  | _ => false

def isDigitOrGap (c : Char) : Bool := Numeral.isDecimal c || c == '_'

def isFloating (cs : List Char) : Bool :=
  let body := unsign cs
  let whole := body.takeWhile (· != '.')
  let behind := (body.dropWhile (· != '.')).drop 1
  let fraction := behind.takeWhile isDigitOrGap
  let exponent := behind.dropWhile isDigitOrGap
  if !body.contains '.' then false
  else if whole.isEmpty then
    [".inf", ".Inf", ".INF"].contains (String.ofList body) ||
      [".nan", ".NaN", ".NAN"].contains (String.ofList cs) ||
        (cs.head? == some '.' && isDigits fraction && isExponent exponent)
  else
    match Text.splitAt ':' whole with
    | [digits] => isDigits digits && isExponent exponent
    | first :: others => isDigits first && others.all isSixtieth && exponent.isEmpty
    | [] => false

def takeDigits (least most : Nat) (cs : List Char) : Option (Nat × List Char) :=
  let digits := (cs.take most).takeWhile Numeral.isDecimal
  if digits.length < least then none else some (Numeral.read 10 digits, cs.drop digits.length)

def takeMark (mark : Char) : List Char → Option (List Char)
  | c :: rest => if c = mark then some rest else none
  | [] => none

/-- A date as it is written, with a time of day and an offset from world time in minutes if they are given.
The parts need not exist in the calendar. -/
structure DateParts where
  year : Nat
  month : Nat
  day : Nat
  time : Option (Nat × Nat × Nat × Nat)
  offset : Option Int

def offset? (cs : List Char) : Option (Option Int) :=
  match cs with
  | [] => some none
  | _ =>
      match cs.dropWhile fun c => c == ' ' || c == '\t' with
      | ['Z'] => some (some 0)
      | sign :: rest => do
          if sign ≠ '+' ∧ sign ≠ '-' then none
          else
            let (hours, rest) ← takeDigits 1 2 rest
            let minutes ← match rest with
              | [] => some 0
              | ':' :: rest => (takeDigits 2 2 rest).bind fun p => if p.2.isEmpty then some p.1 else none
              | _ => none
            let size : Int := hours * 60 + minutes
            some (some (if sign = '-' then -size else size))
      | [] => none

def timeOfDay? (cs : List Char) : Option ((Nat × Nat × Nat × Nat) × Option Int) := do
  let rest ← match cs with
    | 'T' :: rest => some rest
    | 't' :: rest => some rest
    | c :: _ =>
        if c == ' ' || c == '\t' then some (cs.dropWhile fun c => c == ' ' || c == '\t') else none
    | [] => none
  let (hour, rest) ← takeDigits 1 2 rest
  let rest ← takeMark ':' rest
  let (minute, rest) ← takeDigits 2 2 rest
  let rest ← takeMark ':' rest
  let (second, rest) ← takeDigits 2 2 rest
  let (fraction, rest) := match rest with
    | '.' :: rest => (rest.takeWhile Numeral.isDecimal, rest.dropWhile Numeral.isDecimal)
    | rest => ([], rest)
  let micros := Numeral.read 10 ((fraction ++ List.replicate 6 '0').take 6)
  let offset ← offset? rest
  some ((hour, minute, second, micros), offset)

def dateParts? (cs : List Char) : Option DateParts := do
  let (year, rest) ← takeDigits 4 4 cs
  let rest ← takeMark '-' rest
  let (month, rest) ← takeDigits 1 2 rest
  let rest ← takeMark '-' rest
  let (day, rest) ← takeDigits 1 2 rest
  if rest.isEmpty then some ⟨year, month, day, none, none⟩
  else
    let (time, offset) ← timeOfDay? rest
    some ⟨year, month, day, some time, offset⟩

def withoutLastBreak (cs : List Char) : List Char :=
  if cs.getLast? == some '\n' then cs.dropLast else cs

/-- Whether text has the form of a date.  A date without a time of day has ten characters. -/
def isDate (cs : List Char) : Bool :=
  match dateParts? cs with
  | some parts => parts.time.isSome || cs.length == 10
  | none => false

def Meaning.ofText (s : String) : Meaning :=
  if s.isEmpty then .nothing
  else
    let cs := withoutLastBreak s.toList
    let word := String.ofList cs
    if truthWords.contains word then .truth
    else if nullWords.contains word then .nothing
    else if isFloating cs then .floating
    else if isInteger cs then .integer
    else if word == "<<" then .merge
    else if word == "=" then .usual
    else if isDate cs then .date
    else if loneMarks.contains word then .unknown
    else .text

end ReorgGuard.Yaml
