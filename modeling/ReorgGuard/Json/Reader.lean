import ReorgGuard.Json.Token
import ReorgGuard.Numeral.Decimal
import ReorgGuard.Value

/-!
JSON text read as a value.

Besides the standard's numbers the words `NaN`, `Infinity` and `-Infinity` are numbers.  A
number without point and exponent is an integer of any size up to the digit limit.  Of several
entries with one key the last one counts.  The strict reading refuses surrogates without a
partner and values nested too deeply.
-/

namespace ReorgGuard.Json

structure Dialect where
  /-- Whether nothing doubtful is let through: no surrogate without a partner, and no number whose whole
  part is too long. -/
  strict : Bool
  /-- Whether a container without contents counts towards the depth. -/
  countsEmpty : Bool
  /-- The greatest number of containers of which each lies in the one before. -/
  depth : Nat

def Dialect.file : Dialect := ⟨true, false, 200⟩

def Dialect.message : Dialect := ⟨false, true, 985⟩

def Dialect.request : Dialect := ⟨false, true, Nat.pow 2 40⟩

inductive ReadFault where
  | malformed
  | tooDeep

/-- A number with nothing left over; leading zeros are refused. -/
def number? (strict : Bool) (word : List Char) : Option Value :=
  let (negative, rest) := match word with
    | '-' :: rest => (true, rest)
    | rest => (false, rest)
  let whole := rest.takeWhile Numeral.isDecimal
  if whole.isEmpty || (whole.length > 1 && whole.head? == some '0') then none
  else if strict && Numeral.digitLimit < whole.length + (if negative then 1 else 0) then none
  else
    match rest.dropWhile Numeral.isDecimal with
    | [] =>
        if whole.length > Numeral.digitLimit then none
        else
          let size : Int := Numeral.read 10 whole
          some (.int (if negative then -size else size))
    | mark :: behind =>
        if mark == '.' && !(behind.takeWhile Numeral.isDecimal).isEmpty || mark == 'e' || mark == 'E' then
          (Numeral.unsigned? negative rest).map fun s => .float s.toFloat
        else none

def word? (strict : Bool) (word : List Char) : Option Value :=
  if word == "null".toList then some .null
  else if word == "true".toList then some (.bool true)
  else if word == "false".toList then some (.bool false)
  else if word == "NaN".toList then some (.float (0.0 / 0.0))
  else if word == "Infinity".toList then some (.float (1.0 / 0.0))
  else if word == "-Infinity".toList then some (.float (-1.0 / 0.0))
  else number? strict word

/-- A container that is not closed yet; entries are held last one first. -/
inductive Frame where
  | list (items : List Value)
  | dict (entries : List (Value × Value))
  /-- A mapping whose next value belongs to the key. -/
  | keyed (entries : List (Value × Value)) (key : Value)

inductive Expected where
  | value
  | valueOrClose
  | keyOrClose
  | key
  | colon
  | commaOrClose
  | done (value : Value)

/-- Values under construction, innermost container first. -/
structure Builder where
  frames : List Frame
  depth : Nat
  expected : Expected

/-- The entries of a mapping, each key once with its last value, from a list with the last entry first. -/
def distinct (entries : List (Value × Value)) : List (Value × Value) :=
  entries.foldr (fun e kept => Value.put kept e.1 e.2) []

abbrev Built := Except ReadFault Builder

namespace Builder

def finish (frames : List Frame) (depth : Nat) (value : Value) : Built :=
  match frames with
  | [] => .ok ⟨[], depth, .done value⟩
  | .list items :: outer => .ok ⟨.list (value :: items) :: outer, depth, .commaOrClose⟩
  | .keyed entries key :: outer => .ok ⟨.dict ((key, value) :: entries) :: outer, depth, .commaOrClose⟩
  | .dict _ :: _ => .error .malformed

def opened (dialect : Dialect) (b : Builder) (frame : Frame) (expected : Expected) : Built :=
  if dialect.countsEmpty && dialect.depth ≤ b.depth then .error .tooDeep
  else .ok ⟨frame :: b.frames, b.depth + 1, expected⟩

def filled (dialect : Dialect) (b : Builder) (result : Built) : Built :=
  if dialect.depth < b.depth then .error .tooDeep else result

def value (dialect : Dialect) (b : Builder) : Token → Built
  | .openList => b.opened dialect (.list []) .valueOrClose
  | .openDict => b.opened dialect (.dict []) .keyOrClose
  | .text s => finish b.frames b.depth (.text s)
  | .ragged s => finish b.frames b.depth (.ragged s)
  | .word cs =>
      match word? dialect.strict cs with
      | some value => finish b.frames b.depth value
      | none => .error .malformed
  | _ => .error .malformed

def key (b : Builder) (token : Token) : Built :=
  match b.frames, token with
  | .dict entries :: outer, .text s => .ok ⟨.keyed entries (.text s) :: outer, b.depth, .colon⟩
  | .dict entries :: outer, .ragged s => .ok ⟨.keyed entries (.ragged s) :: outer, b.depth, .colon⟩
  | _, _ => .error .malformed

def close (b : Builder) (token : Token) : Built :=
  match token, b.frames with
  | .closeList, .list items :: outer => finish outer (b.depth - 1) (.list items.reverse)
  | .closeDict, .dict entries :: outer => finish outer (b.depth - 1) (.dict (distinct entries))
  | _, _ => .error .malformed

def step (dialect : Dialect) (b : Builder) (token : Token) : Built :=
  match b.expected with
  | .value => b.value dialect token
  | .valueOrClose =>
      match token with
      | .closeList => b.close token
      | _ => b.filled dialect (b.value dialect token)
  | .keyOrClose =>
      match token with
      | .closeDict => b.close token
      | _ => b.filled dialect (b.key token)
  | .key => b.key token
  | .colon =>
      match token with
      | .colon => .ok { b with expected := .value }
      | _ => .error .malformed
  | .commaOrClose =>
      match token, b.frames with
      | .comma, .list _ :: _ => .ok { b with expected := .value }
      | .comma, _ => .ok { b with expected := .key }
      | _, _ => b.close token
  | .done _ => .error .malformed

end Builder

def read (dialect : Dialect) (s : String) : Except ReadFault Value := do
  let b ← (tokens dialect.strict s.toList).foldlM (Builder.step dialect) ⟨[], 0, .value⟩
  match b.expected with
  | .done value => .ok value
  | _ => .error .malformed

end ReorgGuard.Json
