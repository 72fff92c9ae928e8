import ReorgGuard.Numeral.Digits
import ReorgGuard.Text.Utf8

/-!
Text written with percent signs, as URLs are.

A character that may not stand for itself is written by its octets in UTF-8, each as a percent sign and
two hexadecimal digits.  What is already written so stays as it is.
-/

namespace ReorgGuard.Text

def isUnreserved (c : Char) : Bool :=
  c.isAlphanum || c == '-' || c == '.' || c == '_' || c == '~'

def percentOctet (octet : UInt8) : List Char :=
  '%' :: (Numeral.padded 16 2 octet.toNat).map Char.toUpper

def percentChar (safe : Char → Bool) (c : Char) : List Char :=
  if isUnreserved c || safe c then [c] else (charOctets c).flatMap percentOctet

def percentEncode (safe : Char → Bool) : List Char → List Char
  | [] => []
  | '%' :: a :: b :: rest =>
      if Numeral.isHex a && Numeral.isHex b then '%' :: a :: b :: percentEncode safe rest
      else percentChar safe '%' ++ percentEncode safe (a :: b :: rest)
  | c :: rest => percentChar safe c ++ percentEncode safe rest

def percentOctets : List Char → List UInt8
  | [] => []
  | '%' :: a :: b :: rest =>
      match Numeral.hexDigit? a, Numeral.hexDigit? b with
      | some high, some low => (high * 16 + low).toUInt8 :: percentOctets rest
      | _, _ => charOctets '%' ++ percentOctets (a :: b :: rest)
  | c :: rest => charOctets c ++ percentOctets rest

/-- Reads text; octets that are no text are replaced. -/
def percentDecode (cs : List Char) : String :=
  ofUtf8Lossy (percentOctets cs)

end ReorgGuard.Text
