import ReorgGuard.Moment
import ReorgGuard.Numeral.Shortest
import ReorgGuard.Text.Quoted

/-!
Values as callers and configuration files supply them, before they are checked.

A value may be of any kind; the readers of heights, hashes, difficulties and settings decide
what they accept.  Truth values, integers and floating point numbers are compared as numbers,
so that `true`, `1` and `1.0` are one key of a mapping.
-/

namespace ReorgGuard

inductive Buffer where
  | fixed
  | growing
  | view
  deriving DecidableEq

/-- A value that nobody has checked yet. -/
inductive Value where
  | null
  | bool (b : Bool)
  | int (n : Int)
  | float (x : Float)
  | text (s : String)
  /-- Text that holds half of a surrogate pair; each half is replaced. -/
  | ragged (s : String)
  | octets (buffer : Buffer) (bytes : List UInt8)
  | moment (m : Moment)
  | list (items : List Value)
  /-- A list of a fixed length. -/
  | tuple (items : List Value)
  /-- Values without order, each once. -/
  | set (items : List Value)
  /-- A mapping in the order of its keys. -/
  | dict (entries : List (Value × Value))
  deriving Inhabited

namespace Value

def kind : Value → String
  | null => "NoneType"
  | bool _ => "bool"
  | int _ => "int"
  | float _ => "float"
  | text _ => "str"
  | ragged _ => "str"
  | octets .fixed _ => "bytes"
  | octets .growing _ => "bytearray"
  | octets .view _ => "memoryview"
  | moment m => if m.time.isSome then "datetime" else "date"
  | list _ => "list"
  | tuple _ => "tuple"
  | set _ => "set"
  | dict _ => "dict"

def whole? : Value → Option Int
  | bool b => some (if b then 1 else 0)
  | int n => some n
  | float x => Numeral.wholeOf? x
  | _ => none

/-- Whether two floating point numbers are one key.  One that equals no integer is the same key as itself alone;
so is what is not a number, though it is equal to nothing. -/
def sameFloat (x y : Float) : Bool :=
  match Numeral.wholeOf? x, Numeral.wholeOf? y with
  | some m, some n => m == n
  | none, none => x.toBits == y.toBits
  | _, _ => false

def sameKey : Value → Value → Bool
  | null, null => true
  | text s, text t => s == t
  | ragged s, ragged t => s == t
  | moment m, moment n => m.same n
  | octets _ xs, octets _ ys => xs == ys
  | float x, float y => sameFloat x y
  | a, b =>
      match a.whole?, b.whole? with
      | some m, some n => m == n
      | _, _ => false

def isKey : Value → Bool
  | list _ => false
  | set _ => false
  | dict _ => false
  | octets .growing _ => false
  | _ => true

/-- Whether a value stands for a missing one: nothing, false, zero or empty. -/
def isEmpty : Value → Bool
  | null => true
  | bool b => !b
  | int n => n == 0
  | float x => x == 0.0
  | text s => s.isEmpty
  | ragged _ => false
  | octets _ bytes => bytes.isEmpty
  | moment _ => false
  | list items => items.isEmpty
  | tuple items => items.isEmpty
  | set items => items.isEmpty
  | dict entries => entries.isEmpty

/-- What a value consists of, one item after the other: the items of a list, the keys of a mapping, the
characters of text, the numbers of octets. -/
def items? : Value → Option (List Value)
  | list items => some items
  | tuple items => some items
  | set items => some items
  | dict entries => some (entries.map (·.1))
  | text s => some (s.toList.map fun c => .text (String.ofList [c]))
  | octets _ bytes => some (bytes.map fun b => .int b.toNat)
  | _ => none

def entry? (entries : List (Value × Value)) (key : Value) : Option Value :=
  (entries.find? fun e => e.1.sameKey key).map (·.2)

def field? (entries : List (Value × Value)) (name : String) : Option Value :=
  entry? entries (text name)

/-- Gives a key a value.  A key that is present keeps its place and its spelling. -/
def put (entries : List (Value × Value)) (key value : Value) : List (Value × Value) :=
  match entries with
  | [] => [(key, value)]
  | e :: rest => if e.1.sameKey key then (e.1, value) :: rest else e :: put rest key value

def escapeOctet (mark : Char) (octet : UInt8) : List Char :=
  let c := Char.ofNat octet.toNat
  if octet.toNat < 0x80 then Text.escapeIn mark c else '\\' :: 'x' :: Numeral.padded 16 2 octet.toNat

def quoteOctets (bytes : List UInt8) : String :=
  let mark := Text.quoteFor (bytes.map fun octet => Char.ofNat octet.toNat)
  String.ofList ('b' :: mark :: bytes.flatMap (escapeOctet mark) ++ [mark])

mutual

/-- A value as it is written inside a list or a message.  Nothing is given for a value that holds an
integer of more digits than are ever written. -/
def shown? : Value → Option String
  | null => some "None"
  | bool b => some (if b then "True" else "False")
  | int n => if Numeral.tooLong n then none else some (Numeral.intText n)
  | float x => some (Numeral.floatText x)
  | text s => some (Text.quote s)
  | ragged s => some (Text.quote s)
  | octets .fixed bytes => some (quoteOctets bytes)
  | octets .growing bytes => some ("bytearray(" ++ quoteOctets bytes ++ ")")
  | octets .view _ => some "<memory>"
  | moment m => some m.shown
  | list items => do
      let shown ← shownItems? items
      some ("[" ++ ", ".intercalate shown ++ "]")
  | tuple items => do
      let shown ← shownItems? items
      some ("(" ++ ", ".intercalate shown ++ (if shown.length = 1 then ",)" else ")"))
  | set items => do
      let shown ← shownItems? items
      some (if shown.isEmpty then "set()" else "\x7b" ++ ", ".intercalate shown ++ "\x7d")
  | dict entries => do
      let shown ← shownEntries? entries
      some ("\x7b" ++ ", ".intercalate shown ++ "\x7d")

def shownItems? : List Value → Option (List String)
  | [] => some []
  | item :: rest => do
      let shown ← shown? item
      let others ← shownItems? rest
      some (shown :: others)

def shownEntries? : List (Value × Value) → Option (List String)
  | [] => some []
  | (key, value) :: rest => do
      let shownKey ← shown? key
      let shownValue ← shown? value
      let others ← shownEntries? rest
      some ((shownKey ++ ": " ++ shownValue) :: others)

end

/-- A value as it stands on its own: text stands for itself. -/
def display? : Value → Option String
  | text s => some s
  | ragged s => some s
  | moment m => some m.text
  | value => value.shown?

end Value

end ReorgGuard
