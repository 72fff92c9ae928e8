import ReorgGuard.Hostname.Direction
import ReorgGuard.Hostname.Letters
import ReorgGuard.Hostname.Punycode
import ReorgGuard.Text.Composition
import ReorgGuard.Text.Quoted

/-!
The labels of a host name, which dots separate.

A label has an everyday form in letters of any script and a plain form in ASCII, which marks itself by
`xn--` in front.  Its everyday form is spelled in the composed way, holds only permitted characters,
neither begins nor ends with a hyphen and keeps the rules for text that runs from right to left.
-/

namespace ReorgGuard.Hostname

inductive LabelFault where
  | empty
  | tooLong
  | notComposed
  | innerHyphens
  | outerHyphen
  | leadingMark
  | joiner (n place : Nat) (label : String)
  | outOfContext (n place : Nat) (label : String)
  | notPermitted (n place : Nat) (label : String)
  | unknownDirection (label : String) (place : Nat)
  | firstDirection (label : String)
  | directionToLeft (place : Nat)
  | directionToRight (place : Nat)
  | mixedNumbers
  | lastDirection
  /-- Nothing follows the mark of the plain form. -/
  | noContent
  | hyphenAtEnd
  | unreadable

def codePointText (n : Nat) : String :=
  "U+" ++ String.ofList ((Numeral.padded 16 4 n).map Char.toUpper)

def LabelFault.message : LabelFault → String
  | empty => "Empty Label"
  | tooLong => "Label too long"
  | notComposed => "Label must be in Normalization Form C"
  | innerHyphens => "Label has disallowed hyphens in 3rd and 4th position"
  | outerHyphen => "Label must not start or end with a hyphen"
  | leadingMark => "Label begins with an illegal combining character"
  | joiner n place label =>
      s!"Unknown codepoint adjacent to joiner {codePointText n} at position {place} in {label}"
  | outOfContext n place label => s!"Codepoint {codePointText n} not allowed at position {place} in {label}"
  | notPermitted n place label => s!"Codepoint {codePointText n} at position {place} of {label} not allowed"
  | unknownDirection label place => s!"Unknown directionality in label {label} at position {place}"
  | firstDirection label => s!"First codepoint in label {label} must be directionality L, R or AL"
  | directionToLeft place => s!"Invalid direction for codepoint at position {place} in a right-to-left label"
  | directionToRight place => s!"Invalid direction for codepoint at position {place} in a left-to-right label"
  | mixedNumbers => "Can not mix numeral types in a right-to-left label"
  | lastDirection => "Label ends with illegal codepoint directionality"
  | noContent => "Malformed A-label, no Punycode eligible content found"
  | hyphenAtEnd => "A-label must not end with a hyphen"
  | unreadable => "Invalid A-label"

/-- Code points between quotation marks; half of a surrogate pair is written by its number. -/
def quoteCodes (codes : List Nat) : String :=
  let cs := codes.map Char.ofNat
  let mark := Text.quoteFor cs
  let one (n : Nat) : List Char :=
    if 0xD800 ≤ n ∧ n < 0xE000 then '\\' :: 'u' :: Numeral.padded 16 4 n
    else Text.escapeIn mark (Char.ofNat n)
  String.ofList (mark :: codes.flatMap one ++ [mark])

/-- The class of marks that let letters join. -/
def viramaClass : Nat := 9

def joinsNext (kinds : List Text.Runs) : List Nat → Bool
  | [] => false
  | n :: rest => if joinThrough.holds n then joinsNext kinds rest else kinds.any (·.holds n)

/-- Whether a joiner stands where it may, given what is in front of it, last character first, and behind
it. -/
def joinerFits (front : List Nat) (n : Nat) (behind : List Nat) : Bool :=
  if front.head?.elim false fun m => Text.markClass m = viramaClass then true
  else n = 0x200C && joinsNext [joinLeft, joinBoth] front && joinsNext [joinRight, joinBoth] behind

def contextFits (front : List Nat) (n : Nat) (behind : List Nat) : Bool :=
  if n = 0xB7 then front.head? = some 0x6C && behind.head? = some 0x6C
  else if n = 0x375 then behind.head?.elim false greek.holds
  else if n = 0x5F3 ∨ n = 0x5F4 then front.head?.elim false hebrew.holds
  else if n = 0x30FB then (front ++ behind).any fun m => m != 0x30FB && eastAsian.holds m
  else if 0x660 ≤ n ∧ n ≤ 0x669 then !(front ++ behind).any fun m => 0x6F0 ≤ m && m ≤ 0x6F9
  else !(front ++ behind).any fun m => 0x660 ≤ m && m ≤ 0x669

def checkCharacters (label : String) (front : List Nat) : List Nat → Except LabelFault Unit
  | [] => .ok ()
  | n :: behind =>
      let place := front.length + 1
      let fault? : Option LabelFault :=
        if permitted.holds n then none
        else if Text.Runs.holds joiners n then
          if joinerFits front n behind then none
          else some (.joiner n place label)
        else if conditional.holds n then
          if contextFits front n behind then none else some (.outOfContext n place label)
        else some (.notPermitted n place label)
      match fault? with
      | some fault => .error fault
      | none => checkCharacters label (n :: front) behind

def beginsToLeft : Direction → Bool
  | .rightToLeft => true
  | .arabicLetter => true
  | _ => false

def isNumber : Direction → Bool
  | .arabicNumber => true
  | .europeanNumber => true
  | _ => false

/-- Checks the directions of a label; the numbers of a label from right to left are of one kind. -/
def checkDirections (toLeft : Bool) (numbers : Option Direction) (ending : Bool) (place : Nat) :
    List Direction → Except LabelFault Unit
  | [] => if ending then .ok () else .error .lastDirection
  | d :: rest =>
      let fits := if toLeft then d ≠ .leftToRight else !(beginsToLeft d || d = .arabicNumber)
      if !fits then .error (if toLeft then .directionToLeft place else .directionToRight place)
      else
        let closes :=
          if toLeft then beginsToLeft d || isNumber d else d = .leftToRight || d = .europeanNumber
        let ending := closes || (ending && d = .mark)
        if toLeft && isNumber d then
          if numbers.elim false (· ≠ d) then .error .mixedNumbers
          else checkDirections toLeft (some d) ending (place + 1) rest
        else checkDirections toLeft numbers ending (place + 1) rest

/-- The rules for text in both directions; they bind only where something runs from right to left. -/
def checkBothDirections (label : String) (codes : List Nat) : Except LabelFault Unit :=
  let directions := codes.map directionOf
  match directions.findIdx? (· = .unknown) with
  | some i => .error (.unknownDirection label (i + 1))
  | none =>
      if !directions.any fun d => beginsToLeft d || d = .arabicNumber then .ok ()
      else
        match directions.head? with
        | some d =>
            if beginsToLeft d then checkDirections true none false 1 directions
            else if d = .leftToRight then checkDirections false none false 1 directions
            else .error (.firstDirection label)
        | none => .ok ()

def longestEveryday : Nat := 254

def longestPlain : Nat := 63

def checkLabel (codes : List Nat) : Except LabelFault Unit :=
  let label := quoteCodes codes
  if codes.isEmpty then .error .empty
  else if longestEveryday < codes.length then .error .tooLong
  else if Text.compose codes ≠ codes then .error .notComposed
  else if (codes.drop 2).take 2 = [0x2D, 0x2D] then .error .innerHyphens
  else if codes.head? = some 0x2D ∨ codes.getLast? = some 0x2D then .error .outerHyphen
  else if codes.head?.elim false marks.holds then .error .leadingMark
  else do
    checkCharacters label [] codes
    checkBothDirections label codes

def plainMark : List Char := ['x', 'n', '-', '-']

def checkEitherForm (label : List Char) : Except LabelFault Unit :=
  if !label.all fun c => c.toNat < 0x80 then checkLabel (label.map Char.toNat)
  else
    let small := label.map Char.toLower
    if small.take 4 = plainMark then
      let content := small.drop 4
      if content.isEmpty then .error .noContent
      else if content.getLast? = some '-' then .error .hyphenAtEnd
      else
        match Punycode.read? content with
        | some codes => checkLabel codes
        | none => .error .unreadable
    else checkLabel (small.map Char.toNat)

def plainLabel (label : List Char) : Except LabelFault (List Char) := do
  checkEitherForm label
  let plain :=
    if label.all fun c => c.toNat < 0x80 then label
    else plainMark ++ Punycode.write (label.map Char.toNat)
  if longestPlain < plain.length then .error .tooLong else .ok plain

end ReorgGuard.Hostname
