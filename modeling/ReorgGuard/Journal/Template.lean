import ReorgGuard.Numeral.Places
import ReorgGuard.Text.Utf8
import ReorgGuard.Value.Whole

/-!
Message templates.

A template is text with marks that begin with a percent sign; two percent signs stand for one.
Each mark is replaced by the next argument, written as the letter at its end says: as it stands
on its own, as it stands inside a list, or as a number.  In front of the letter a mark may give
flags, a width, a precision and a size that means nothing; an asterisk takes a width or a precision from
the arguments.  A mark that names a key takes the entry of a mapping, and that alone.
-/

namespace ReorgGuard.Journal

structure Mark where
  flags : List Char
  width : Nat
  precision : Option Nat
  kind : Char

structure Supply where
  entries : Option (List (Value × Value))
  left : List Value

namespace Supply

/-- The arguments of a template.  A mapping that is the only one may be taken as a whole or by its keys. -/
def ofArguments : List Value → Supply
  | [.dict (entry :: entries)] => ⟨some (entry :: entries), [.dict (entry :: entries)]⟩
  | arguments => ⟨none, arguments⟩

def take? (supply : Supply) : Option (Value × Supply) :=
  match supply.left with
  | [] => none
  | argument :: left => some (argument, { supply with left := left })

def select? (supply : Supply) (key : String) : Option Supply := do
  let entries ← supply.entries
  let value ← Value.field? entries key
  some { supply with left := [value] }

end Supply

namespace Mark

def has (mark : Mark) (flag : Char) : Bool := mark.flags.contains flag

def takeKey? (depth : Nat) (taken : List Char) : List Char → Option (String × List Char)
  | [] => none
  | ')' :: rest =>
      match depth with
      | 0 => some (String.ofList taken.reverse, rest)
      | depth + 1 => takeKey? depth (')' :: taken) rest
  | '(' :: rest => takeKey? (depth + 1) ('(' :: taken) rest
  | c :: rest => takeKey? depth (c :: taken) rest

def widest : Nat := Nat.pow 2 31

def given? : Value → Option Int
  | .bool b => some (if b then 1 else 0)
  | .int n => if n.natAbs < widest then some n else none
  | _ => none

/-- Takes a number: an asterisk takes it from the arguments, digits write it. -/
def takeNumber? (supply : Supply) : List Char → Option (Option Int × Supply × List Char)
  | '*' :: rest => do
      let (argument, supply) ← supply.take?
      let n ← given? argument
      some (some n, supply, rest)
  | cs =>
      let digits := cs.takeWhile Numeral.isDecimal
      let n := Numeral.read 10 digits
      if digits.isEmpty then some (none, supply, cs)
      else if widest ≤ n then none
      else some (some n, supply, cs.drop digits.length)

/-- Reads a mark behind its percent sign and its key.  A negative width fills on the right; a negative
precision is none at all. -/
def read? (supply : Supply) (cs : List Char) : Option (Mark × Supply × List Char) := do
  let flags := cs.takeWhile fun c => "#0- +".contains c
  let (width, supply, cs) ← takeNumber? supply (cs.drop flags.length)
  let flags := if width.elim false (· < 0) then '-' :: flags else flags
  let (precision, supply, cs) ← match cs with
    | '.' :: cs => do
        let (n, supply, cs) ← takeNumber? supply cs
        some (some (n.getD 0).toNat, supply, cs)
    | cs => some (none, supply, cs)
  let sized := cs.head?.elim false fun c => "hlL".contains c
  let cs := if sized then cs.drop 1 else cs
  match cs with
  | kind :: rest => some (⟨flags, (width.getD 0).natAbs, precision, kind⟩, supply, rest)
  | [] => none

def cutSign (mark : Mark) (cs : List Char) : List Char × List Char :=
  if cs.head? = some '-' then (['-'], cs.drop 1)
  else if mark.has '+' then (['+'], cs)
  else if mark.has ' ' then ([' '], cs)
  else ([], cs)

/-- Fills text up to the width of a mark.  Zeros, where they are wanted, stand behind what leads. -/
def fill (mark : Mark) (zeros : Bool) (lead body : List Char) : List Char :=
  let missing := mark.width - (lead.length + body.length)
  if mark.has '-' then lead ++ body ++ List.replicate missing ' '
  else if zeros then lead ++ List.replicate missing '0' ++ body
  else List.replicate missing ' ' ++ lead ++ body

def number (mark : Mark) (leading : Nat) (cs : List Char) : List Char :=
  let (sign, body) := mark.cutSign cs
  mark.fill (mark.has '0') (sign ++ body.take leading) (body.drop leading)

/-- Text in a mark: at most so many characters as the precision says. -/
def text (mark : Mark) (s : String) : List Char :=
  mark.fill false [] (match mark.precision with
    | some most => s.toList.take most
    | none => s.toList)

/-- An integer in a mark: at least so many digits as the precision says. -/
def integer (mark : Mark) (base : Nat) (baseMark : List Char) (n : Int) : List Char :=
  let digits := Numeral.write base n.natAbs
  let sign := if n < 0 then ['-'] else []
  let lead := if mark.has '#' then baseMark else []
  let least := mark.precision.getD 1
  mark.number lead.length (sign ++ lead ++ List.replicate (least - digits.length) '0' ++ digits)

def floating (mark : Mark) (x : Float) : List Char :=
  match Numeral.decode x with
  | .nan => mark.number 0 "nan".toList
  | .infinite negative => mark.number 0 ((if negative then ['-'] else []) ++ "inf".toList)
  | .finite negative significand exponent _ =>
      let num := significand * Nat.pow 2 exponent.toNat
      let den := Nat.pow 2 (-exponent).toNat
      let places := mark.precision.getD 6
      let body := match mark.kind.toLower with
        | 'f' => Numeral.fixed places (mark.has '#') num den
        | 'e' => Numeral.scientific places (mark.has '#') num den
        | _ => Numeral.general places (mark.has '#') num den
      mark.number 0 ((if negative then ['-'] else []) ++ body)

def integerPart? : Value → Option Int
  | .text _ => none
  | value => value.asWhole.toOption

def integerOf? : Value → Option Int
  | .float _ => none
  | value => value.whole?

def cased (mark : Mark) (cs : List Char) : List Char :=
  if mark.kind.isUpper then cs.map Char.toUpper else cs

def asciiChar (c : Char) : List Char :=
  if c.toNat < 0x80 then [c]
  else if c.toNat < 0x100 then '\\' :: 'x' :: Numeral.padded 16 2 c.toNat
  else if c.toNat < 0x10000 then '\\' :: 'u' :: Numeral.padded 16 4 c.toNat
  else '\\' :: 'U' :: Numeral.padded 16 8 c.toNat

def character? : Value → Option (List Char)
  | .text s => if s.length = 1 then some s.toList else none
  | value => do
      let n ← integerOf? value
      if 0 ≤ n ∧ n < 0x110000 then some [Text.charOf n.toNat] else none

def show? (mark : Mark) (value : Value) : Option (List Char) :=
  match mark.kind with
  | 's' => value.display?.map mark.text
  | 'r' => value.shown?.map mark.text
  | 'a' => value.shown?.map fun s => mark.text (String.ofList (s.toList.flatMap asciiChar))
  | 'c' => (character? value).map (mark.fill false [])
  | 'o' => (integerOf? value).map (mark.integer 8 ['0', 'o'])
  | 'x' => (integerOf? value).map (mark.integer 16 ['0', 'x'])
  | 'X' => (integerOf? value).map fun n => mark.cased (mark.integer 16 ['0', 'x'] n)
  | kind =>
      if kind = 'd' ∨ kind = 'i' ∨ kind = 'u' then do
        let n ← integerPart? value
        if Numeral.tooLong n then none else some (mark.integer 10 [] n)
      else if "eEfFgG".contains kind then
        -- An integer beyond all floating point numbers is none of them.
        match value.asNumber? with
        | some x => if value.whole?.isSome && x.isInf then none else some (mark.cased (mark.floating x))
        | none => none
      else none

end Mark

/-- Fills the mark at the beginning of a text, behind its percent sign.  A mark of a mapping leaves no
argument over. -/
def fillMark? (supply : Supply) (cs : List Char) : Option (List Char × Supply × List Char) := do
  let (supply, cs) ← match cs with
    | '(' :: rest => do
        let (key, rest) ← Mark.takeKey? 0 [] rest
        let supply ← supply.select? key
        some (supply, rest)
    | cs => some (supply, cs)
  let (mark, supply, rest) ← Mark.read? supply cs
  let (argument, supply) ← supply.take?
  let shown ← mark.show? argument
  if supply.entries.isSome && !supply.left.isEmpty then none else some (shown, supply, rest)

def fillFrom (steps : Nat) (supply : Supply) (cs : List Char) : Option (List Char) :=
  match steps, cs with
  | _, [] => if supply.entries.isNone && !supply.left.isEmpty then none else some []
  | 0, _ => none
  | steps + 1, '%' :: '%' :: rest => ('%' :: ·) <$> fillFrom steps supply rest
  | steps + 1, '%' :: rest => do
      let (shown, supply, rest) ← fillMark? supply rest
      (shown ++ ·) <$> fillFrom steps supply rest
  | steps + 1, c :: rest => (c :: ·) <$> fillFrom steps supply rest

/-- The message of a template and its arguments.  Without arguments a template is the message; with
arguments that do not fit it there is none. -/
def message? (template : String) (arguments : List Value) : Option String :=
  if arguments.isEmpty then some template
  else
    let cs := template.toList
    (fillFrom (cs.length + 1) (.ofArguments arguments) cs).map String.ofList

end ReorgGuard.Journal
