import ReorgGuard.Checkpoint.Fault
import ReorgGuard.Value

/-!
Block hashes.

A hash is thirty-two octets.  It is read from the octets themselves or from sixty-four
hexadecimal digits in either case, and written in lower case.
-/

namespace ReorgGuard.Checkpoint

structure Hash where
  octets : List UInt8
  size : octets.length = 32
  deriving DecidableEq

namespace Hash

def octetDigits (octet : UInt8) : List Char :=
  [Numeral.digitChar (octet.toNat / 16), Numeral.digitChar (octet.toNat % 16)]

def octets? : List Char → Option (List UInt8)
  | [] => some []
  | high :: low :: rest => do
      let h ← Numeral.hexDigit? high
      let l ← Numeral.hexDigit? low
      let others ← octets? rest
      some ((h * 16 + l).toUInt8 :: others)
  | [_] => none

def digits (hash : Hash) : List Char :=
  hash.octets.flatMap octetDigits

def text (hash : Hash) : String :=
  String.ofList hash.digits

def ofOctets (octets : List UInt8) : Except Fault Hash :=
  if size : octets.length = 32 then .ok ⟨octets, size⟩ else .error (.hashSize octets.length)

def ofText (s : String) : Except Fault Hash :=
  let cs := s.toList
  if cs.length ≠ 64 then .error (.hashLength cs.length)
  else
    match octets? cs with
    | some octets => ofOctets octets
    | none => .error (.hashNotHex (Text.quote s))

def ofValue : Value → Except Fault Hash
  | .octets _ octets => ofOctets octets
  | .text s => ofText s
  | .ragged s =>
      .error (if s.length ≠ 64 then .hashLength s.length else .hashNotHex (Text.quote s))
  | value => .error (.hashKind value.kind)

end Hash

end ReorgGuard.Checkpoint
