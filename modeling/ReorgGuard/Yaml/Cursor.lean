import ReorgGuard.Breakdown

/-!
A place in a YAML document.

The place knows its line and column, since indentation carries meaning.  Lines end at a line
feed, at U+0085 and at the two Unicode separators.
-/

namespace ReorgGuard.Yaml

inductive Fault where
  | malformed
  /-- The document is well formed up to a value that stops its reader. -/
  | broken (breakdown : Breakdown)

/-- The characters that are left, how many they are, and where they begin. -/
structure Cursor where
  rest : List Char
  left : Nat
  line : Nat
  column : Nat

def isBreak (c : Char) : Bool :=
  c == '\n' || c == '\x85' || c == '\u2028' || c == '\u2029'

def isGap (c : Char) : Bool :=
  c == ' ' || c == '\t' || isBreak c

def gapOrEnd : Option Char → Bool
  | some c => isGap c
  | none => true

def breakOrEnd : Option Char → Bool
  | some c => isBreak c
  | none => true

def blankOrEnd (c : Option Char) : Bool :=
  c == some ' ' || breakOrEnd c

def breakText (c : Char) : Char :=
  if c == '\x85' then '\n' else c

namespace Cursor

def start (cs : List Char) : Cursor := ⟨cs, cs.length, 0, 0⟩

def peek (c : Cursor) (n : Nat) : Option Char := c.rest[n]?

def next (c : Cursor) : Cursor :=
  match c.rest with
  | [] => c
  | ch :: rest =>
      if isBreak ch then ⟨rest, c.left - 1, c.line + 1, 0⟩
      else ⟨rest, c.left - 1, c.line, if ch == '\uFEFF' then c.column else c.column + 1⟩

def advance (c : Cursor) : Nat → Cursor
  | 0 => c
  | n + 1 => advance c.next n

def span (c : Cursor) (p : Char → Bool) : List Char × Cursor :=
  let taken := c.rest.takeWhile p
  (taken, c.advance taken.length)

def skipBlanks (c : Cursor) : Cursor := (c.span (· == ' ')).2

def skipLine (c : Cursor) : Cursor := (c.span fun ch => !isBreak ch).2

def takeBreak (c : Cursor) : Option Char × Cursor :=
  match c.rest with
  | ch :: _ => if isBreak ch then (some (breakText ch), c.next) else (none, c)
  | [] => (none, c)

def atMarks (c : Cursor) (mark : Char) : Bool :=
  c.peek 0 == some mark && c.peek 1 == some mark && c.peek 2 == some mark && gapOrEnd (c.peek 3)

def atSeparator (c : Cursor) : Bool := c.atMarks '-' || c.atMarks '.'

end Cursor

end ReorgGuard.Yaml
