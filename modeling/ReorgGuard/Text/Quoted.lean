import ReorgGuard.Text.Printable
import ReorgGuard.Numeral.Digits

/-!
Quoted text, as messages show a value that could not be read.

Single quotes are used unless the text holds one and no double quote.  The backslash, the
quote in use, line feed, carriage return and tab have short escapes; any other unprintable
character is written by its code point with two, four or eight hexadecimal digits.
-/

namespace ReorgGuard.Text

def quoteFor (cs : List Char) : Char :=
  if cs.contains '\'' && !cs.contains '"' then '"' else '\''

def escapeIn (quote c : Char) : List Char :=
  if c = '\\' then ['\\', '\\']
  else if c = quote then ['\\', quote]
  else if c = '\n' then ['\\', 'n']
  else if c = '\r' then ['\\', 'r']
  else if c = '\t' then ['\\', 't']
  else if isPrintable c then [c]
  else if c.toNat < 0x100 then '\\' :: 'x' :: Numeral.padded 16 2 c.toNat
  else if c.toNat < 0x10000 then '\\' :: 'u' :: Numeral.padded 16 4 c.toNat
  else '\\' :: 'U' :: Numeral.padded 16 8 c.toNat

def quote (s : String) : String :=
  let mark := quoteFor s.toList
  String.ofList (mark :: s.toList.flatMap (escapeIn mark) ++ [mark])

end ReorgGuard.Text
