import ReorgGuard.Breakdown
import ReorgGuard.Text.Quoted
import ReorgGuard.Value

/-!
Values written as JSON text.

All text is written in ASCII.  A document is laid out over lines, each level of nesting two
columns deeper, or on one line with a blank after commas and colons.  A container without
contents is written without a gap.
-/

namespace ReorgGuard.Json

inductive Layout where
  | inline
  | lines
  deriving DecidableEq

def Layout.gap (layout : Layout) (depth : Nat) (first : Bool) : List Char :=
  match layout with
  | .inline => if first then [] else [' ']
  | .lines => '\n' :: List.replicate (2 * depth) ' '

def Layout.last (layout : Layout) (depth : Nat) : List Char :=
  match layout with
  | .inline => []
  | .lines => '\n' :: List.replicate (2 * depth) ' '

def unitEscape (n : Nat) : List Char :=
  '\\' :: 'u' :: Numeral.padded 16 4 n

def escape (c : Char) : List Char :=
  if c = '"' then ['\\', '"']
  else if c = '\\' then ['\\', '\\']
  else if c = '\n' then ['\\', 'n']
  else if c = '\r' then ['\\', 'r']
  else if c = '\t' then ['\\', 't']
  else if c.toNat = 8 then ['\\', 'b']
  else if c.toNat = 12 then ['\\', 'f']
  else if 0x20 ≤ c.toNat ∧ c.toNat < 0x7F then [c]
  else if c.toNat < 0x10000 then unitEscape c.toNat
  else
    let n := c.toNat - 0x10000
    unitEscape (0xD800 + n / 1024) ++ unitEscape (0xDC00 + n % 1024)

def quote (s : String) : List Char :=
  '"' :: s.toList.flatMap escape ++ ['"']

def floatWord (x : Float) : String :=
  match Numeral.decode x with
  | .nan => "NaN"
  | .infinite negative => if negative then "-Infinity" else "Infinity"
  | .finite .. => Numeral.floatText x

/-- Writes the key of an entry; a key that is no text is written as text. -/
def writeKey : Value → List Char
  | .text s => quote s
  | .bool b => quote (if b then "true" else "false")
  | .null => quote "null"
  | .float x => quote (floatWord x)
  | key => quote (key.display?.getD "")

mutual

/-- Writes a value at a depth of nesting.  Values of kinds that JSON does not know become null. -/
def write (layout : Layout) (depth : Nat) : Value → List Char
  | .null => "null".toList
  | .bool b => if b then "true".toList else "false".toList
  | .int n => (Numeral.intText n).toList
  | .float x => (floatWord x).toList
  | .text s => quote s
  | .list [] => ['[', ']']
  | .list (item :: rest) =>
      '[' :: layout.gap (depth + 1) true ++ write layout (depth + 1) item ++
        writeItems layout (depth + 1) rest ++ layout.last depth ++ [']']
  | .dict [] => ['\x7b', '\x7d']
  | .dict ((key, value) :: rest) =>
      '\x7b' :: layout.gap (depth + 1) true ++ writeKey key ++ ':' :: ' ' ::
        write layout (depth + 1) value ++ writeEntries layout (depth + 1) rest ++
          layout.last depth ++ ['\x7d']
  | _ => "null".toList

def writeItems (layout : Layout) (depth : Nat) : List Value → List Char
  | [] => []
  | item :: rest =>
      ',' :: layout.gap depth false ++ write layout depth item ++ writeItems layout depth rest

def writeEntries (layout : Layout) (depth : Nat) : List (Value × Value) → List Char
  | [] => []
  | (key, value) :: rest =>
      ',' :: layout.gap depth false ++ writeKey key ++ ':' :: ' ' ::
        write layout depth value ++ writeEntries layout depth rest

end

mutual

/-- What keeps a value from being written, if anything does: a kind that JSON does not know, or a number of
too many digits. -/
def writable? : Value → Option Breakdown
  | .int n => if Numeral.tooLong n then some (.noMeaning Numeral.tooLongMessage) else none
  | .list items => itemsWritable? items
  | .tuple items => itemsWritable? items
  | .dict entries => entriesWritable? entries
  | .octets .. => some .unfitKind
  | .moment _ => some .unfitKind
  | .set _ => some .unfitKind
  | _ => none

def itemsWritable? : List Value → Option Breakdown
  | [] => none
  | item :: rest => (writable? item).or (itemsWritable? rest)

def entriesWritable? : List (Value × Value) → Option Breakdown
  | [] => none
  | (_, value) :: rest => (writable? value).or (entriesWritable? rest)

end

def print (layout : Layout) (value : Value) : String :=
  String.ofList (write layout 0 value)

end ReorgGuard.Json
