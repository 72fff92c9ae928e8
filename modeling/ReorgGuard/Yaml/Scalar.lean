import ReorgGuard.Numeral.Integer
import ReorgGuard.Value
import ReorgGuard.Yaml.Cursor
import ReorgGuard.Yaml.Meaning

/-!
The values of YAML scalars.

What a scalar is has been decided; here its text gets a value.  Text that was only declared to be
a number or a date may have none.
-/

namespace ReorgGuard.Yaml

def noMeaning (message : String) : Fault := .broken (.noMeaning message)

/-- The first character of a text that has none is asked for. -/
def emptyText : Fault := .broken (.beyondEnd "string index out of range")

def digits (base : Nat) (cs : List Char) : Except Fault Int :=
  (Numeral.integer base (String.ofList cs)).mapError fun fault => noMeaning fault.message

def ofSixtieths (parts : List Int) : Int :=
  parts.foldl (fun value part => value * 60 + part) 0

def integer (s : String) : Except Fault Int := do
  let cs := s.toList.filter (· != '_')
  if cs.isEmpty then .error emptyText
  else
    let body := unsign cs
    let size ← match body with
      | [] => .error emptyText
      | ['0'] => .ok 0
      | '0' :: 'b' :: rest => digits 2 rest
      | '0' :: 'x' :: rest => digits 16 rest
      | '0' :: _ => digits 8 body
      | _ =>
          if body.contains ':' then ((Text.splitAt ':' body).mapM (digits 10)).map ofSixtieths
          else digits 10 body
    .ok (if cs.head? == some '-' then -size else size)

def decimal (cs : List Char) : Except Fault Float :=
  let plain (c : Char) : Char := ((Text.digit? c).map Numeral.digitChar).getD c
  match Numeral.float? ((Text.trimBy Text.isWhite cs).map plain) with
  | some x => .ok x
  | none => .error (noMeaning ("could not convert string to float: " ++ Text.quote (String.ofList cs)))

/-- The sum of parts in base sixty, least significant first; the first one counts so often as given. -/
def sumSixtieths (weight : Nat) (sum : Float) : List Float → Except Fault Float
  | [] => .ok sum
  | part :: rest =>
      let factor := Numeral.nearest weight 1
      if factor.isInf then .error (.broken .overflow)
      else sumSixtieths (weight * 60) (sum + part * factor) rest

def floating (s : String) : Except Fault Float := do
  let cs := (Text.lower (String.ofList (s.toList.filter (· != '_')))).toList
  if cs.isEmpty then .error emptyText
  else
    let body := unsign cs
    if body == ".nan".toList then .ok (0.0 / 0.0)
    else
      let size ←
        if body == ".inf".toList then .ok (1.0 / 0.0)
        else if body.contains ':' then do
          let parts ← (Text.splitAt ':' body).mapM decimal
          sumSixtieths 1 0.0 parts.reverse
        else decimal body
      .ok (if cs.head? == some '-' then -size else size)

def truth (s : String) : Except Fault Bool :=
  let word := Text.lower s
  if ["yes", "true", "on"].contains word then .ok true
  else if ["no", "false", "off"].contains word then .ok false
  else .error (.broken (.unlisted (Text.quote word)))

/-- The moment that the parts of a date name, if there is such a moment.  The offset is examined first. -/
def DateParts.moment (parts : DateParts) : Except Fault Moment :=
  let seconds : Int := (parts.offset.getD 0) * 60
  if 86400 ≤ seconds.natAbs then
    .error (noMeaning ("offset must be a timedelta strictly between -timedelta(hours=24) and " ++
      "timedelta(hours=24), not " ++ spanText seconds ++ "."))
  else if parts.year = 0 then .error (noMeaning "year 0 is out of range")
  else if parts.month = 0 ∨ 12 < parts.month then .error (noMeaning "month must be in 1..12")
  else if parts.day = 0 ∨ monthDays parts.year parts.month < parts.day then
    .error (noMeaning "day is out of range for month")
  else
    match parts.time with
    | none => .ok ⟨parts.year, parts.month, parts.day, none⟩
    | some (hour, minute, second, micros) =>
        if 23 < hour then .error (noMeaning "hour must be in 0..23")
        else if 59 < minute then .error (noMeaning "minute must be in 0..59")
        else if 59 < second then .error (noMeaning "second must be in 0..59")
        else
          .ok ⟨parts.year, parts.month, parts.day, some ⟨hour, minute, second, micros, parts.offset.map (· * 60)⟩⟩

def date (s : String) : Except Fault Moment :=
  match dateParts? (withoutLastBreak s.toList) with
  | some parts => parts.moment
  | none => .error (.broken .noPart)

/-! ### Octets as text -/

def sextet? (c : Char) : Option Nat :=
  if 'A' ≤ c ∧ c ≤ 'Z' then some (c.toNat - 65)
  else if 'a' ≤ c ∧ c ≤ 'z' then some (c.toNat - 71)
  else if Numeral.isDecimal c then some (c.toNat + 4)
  else if c = '+' then some 62
  else if c = '/' then some 63
  else none

/-- The octets read so far, last one first, the characters and the bits of a group under way, and the marks
of a missing character seen in a row. -/
structure Sextets where
  octets : List UInt8
  taken : Nat
  bits : Nat
  missing : Nat

def Sextets.push (s : Sextets) (six : Nat) : Sextets :=
  let bits := s.bits * 64 + six
  match s.taken with
  | 0 => ⟨s.octets, 1, bits, 0⟩
  | 1 => ⟨(bits / 16).toUInt8 :: s.octets, 2, bits % 16, 0⟩
  | 2 => ⟨(bits / 4).toUInt8 :: s.octets, 3, bits % 4, 0⟩
  | _ => ⟨bits.toUInt8 :: s.octets, 0, 0, 0⟩

/-- Reads octets written four characters to three octets.  Characters that mean nothing are passed over, and
the text may end where marks fill up a group. -/
def sextets? (s : Sextets) : List Char → Option (List UInt8)
  | [] => if s.taken = 0 then some s.octets.reverse else none
  | c :: rest =>
      if c = '=' then
        if s.taken < 2 then sextets? s rest
        else if 4 ≤ s.taken + s.missing + 1 then some s.octets.reverse
        else sextets? { s with missing := s.missing + 1 } rest
      else
        match sextet? c with
        | some six => sextets? (s.push six) rest
        | none => sextets? s rest

def octets (s : String) : Except Fault (List UInt8) :=
  let cs := s.toList
  if cs.all (·.toNat < 0x80) then (sextets? ⟨[], 0, 0, 0⟩ cs).elim (.error .malformed) .ok
  else .error .malformed

end ReorgGuard.Yaml
