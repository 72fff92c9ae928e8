import ReorgGuard.Text.Utf8
import ReorgGuard.Numeral.Digits

/-!
Tokens of JSON text.

The text is read one character at a time.  Outside quotation marks a run of letters, digits,
signs and points is one word; what the word means is decided later.  Inside quotation marks
control characters are refused and escapes are resolved.  Two escapes that form a surrogate
pair are one character; a surrogate on its own is replaced, and the text is marked as ragged, or
refused in the strict reading.
-/

namespace ReorgGuard.Json

inductive Token where
  | openList
  | closeList
  | openDict
  | closeDict
  | comma
  | colon
  | text (s : String)
  /-- Text that holds half of a surrogate pair; each half is replaced. -/
  | ragged (s : String)
  | word (cs : List Char)
  /-- Something that is no token; nothing behind it is read. -/
  | broken

/-- Text that is being read inside quotation marks. -/
structure Quotation where
  /-- The characters read so far, last one first. -/
  backwards : List Char
  /-- A first half of a surrogate pair that waits for the second. -/
  half : Option Nat
  /-- Whether a half found no partner. -/
  ragged : Bool

def Quotation.start : Quotation := ⟨[], none, false⟩

def Quotation.text (q : Quotation) : String :=
  String.ofList q.backwards.reverse

def Quotation.token (q : Quotation) : Token :=
  if q.ragged then .ragged q.text else .text q.text

/-- The quotation when a half of a surrogate pair found no partner, if it waits for one. -/
def Quotation.settle? (strict : Bool) (q : Quotation) : Option Quotation :=
  match q.half with
  | none => some q
  | some _ => if strict then none else some ⟨Char.ofNat 0xFFFD :: q.backwards, none, true⟩

def Quotation.push (q : Quotation) (c : Char) : Quotation :=
  { q with backwards := c :: q.backwards }

def Quotation.unit? (strict : Bool) (q : Quotation) (unit : Nat) : Option Quotation :=
  if 0xDC00 ≤ unit ∧ unit < 0xE000 then
    match q.half with
    | some high =>
        some { q with
          backwards := Text.charOf (0x10000 + (high - 0xD800) * 1024 + (unit - 0xDC00)) :: q.backwards
          half := none }
    | none => { q with half := some unit }.settle? strict
  else
    (q.settle? strict).map fun q =>
      if 0xD800 ≤ unit ∧ unit < 0xDC00 then { q with half := some unit } else q.push (Text.charOf unit)

inductive Mode where
  | between
  /-- Inside a word; its characters are held last one first. -/
  | word (cs : List Char)
  | quoted (q : Quotation)
  | escape (q : Quotation)
  | unit (q : Quotation) (left value : Nat)
  | stopped

/-- The tokens read so far, last one first. -/
structure Scan where
  tokens : List Token
  mode : Mode

def Token.ofMark? : Char → Option Token
  | '[' => some .openList
  | ']' => some .closeList
  | '\x7b' => some .openDict
  | '\x7d' => some .closeDict
  | ',' => some .comma
  | ':' => some .colon
  | _ => none

def isWordChar (c : Char) : Bool :=
  c.isAlphanum || c == '+' || c == '-' || c == '.'

def Scan.outside? (tokens : List Token) (c : Char) : Option Scan :=
  if c == ' ' || c == '\t' || c == '\n' || c == '\r' then some ⟨tokens, .between⟩
  else if c == '"' then some ⟨tokens, .quoted .start⟩
  else if isWordChar c then some ⟨tokens, .word [c]⟩
  else (Token.ofMark? c).map fun t => ⟨t :: tokens, .between⟩

def shortEscape? : Char → Option Char
  | '"' => some '"'
  | '\\' => some '\\'
  | '/' => some '/'
  | 'b' => some (Char.ofNat 8)
  | 'f' => some (Char.ofNat 12)
  | 'n' => some '\n'
  | 'r' => some '\r'
  | 't' => some '\t'
  | _ => none

def Scan.step? (strict : Bool) (scan : Scan) (c : Char) : Option Scan :=
  match scan.mode with
  | .stopped => some scan
  | .between => outside? scan.tokens c
  | .word cs =>
      if isWordChar c then some ⟨scan.tokens, .word (c :: cs)⟩
      else outside? (.word cs.reverse :: scan.tokens) c
  | .quoted q =>
      if c == '\\' then some ⟨scan.tokens, .escape q⟩
      else
        (q.settle? strict).bind fun q =>
          if c == '"' then some ⟨q.token :: scan.tokens, .between⟩
          else if c.toNat < 0x20 then none
          else some ⟨scan.tokens, .quoted (q.push c)⟩
  | .escape q =>
      if c == 'u' then some ⟨scan.tokens, .unit q 4 0⟩
      else
        match q.settle? strict, shortEscape? c with
        | some q, some d => some ⟨scan.tokens, .quoted (q.push d)⟩
        | _, _ => none
  | .unit q left value =>
      (Numeral.hexDigit? c).bind fun d =>
        let value := value * 16 + d
        if left ≤ 1 then (q.unit? strict value).map fun q => ⟨scan.tokens, .quoted q⟩
        else some ⟨scan.tokens, .unit q (left - 1) value⟩

def Scan.step (strict : Bool) (scan : Scan) (c : Char) : Scan :=
  (scan.step? strict c).getD
    ⟨.broken :: (match scan.mode with
      | .word cs => .word cs.reverse :: scan.tokens
      | _ => scan.tokens), .stopped⟩

def tokens (strict : Bool) (cs : List Char) : List Token :=
  let last := cs.foldl (Scan.step strict) ⟨[], .between⟩
  let found := match last.mode with
    | .between => last.tokens
    | .stopped => last.tokens
    | .word cs => .word cs.reverse :: last.tokens
    | _ => .broken :: last.tokens
  found.reverse

end ReorgGuard.Json
