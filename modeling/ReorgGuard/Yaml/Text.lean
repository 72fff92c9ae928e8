import ReorgGuard.Numeral.Digits
import ReorgGuard.Text.Utf8
import ReorgGuard.Yaml.Cursor

/-!
The text of YAML scalars: plain, between quotation marks, and as blocks.

Line ends inside a scalar are folded: a single one becomes a blank, and of several all but the
first stay.
-/

namespace ReorgGuard.Yaml

structure Taken where
  text : List Char
  cursor : Cursor

/-- Blanks and line ends behind a line end: the line ends, and the place behind them.  The line ends found so
far are given, last one first. -/
def blankLines (fuel : Nat) (c : Cursor) (found : List Char) : Taken :=
  match fuel with
  | 0 => ⟨found.reverse, c⟩
  | fuel + 1 =>
      match c.rest with
      | ch :: _ =>
          if ch == ' ' then blankLines fuel c.next found
          else if isBreak ch then blankLines fuel c.next (breakText ch :: found)
          else ⟨found.reverse, c⟩
      | [] => ⟨found.reverse, c⟩

def fold (first : Char) (more : List Char) : List Char :=
  if first ≠ '\n' then first :: more else if more.isEmpty then [' '] else more

/-! ### Plain scalars -/

def plainLength (flow : Bool) : List Char → Nat
  | [] => 0
  | ch :: rest =>
      let closesKey := ch == ':' &&
        match rest with
        | [] => true
        | next :: _ => isGap next || (flow && ",[]\x7b\x7d".contains next)
      if isGap ch || closesKey || (flow && ",?[]\x7b\x7d".contains ch) then 0
      else plainLength flow rest + 1

def separatorAhead (fuel : Nat) (c : Cursor) : Bool :=
  match fuel with
  | 0 => false
  | fuel + 1 =>
      c.atSeparator ||
        let c := c.skipBlanks
        match c.takeBreak with
        | (some _, c) => separatorAhead fuel c
        | (none, _) => false

structure PlainGap where
  text : List Char
  cursor : Cursor
  broken : Bool

/-- Blanks and folded line ends behind a run of plain characters.  Nothing counts before a document
separator. -/
def plainGap (c : Cursor) : PlainGap :=
  let (blanks, c) := c.span (· == ' ')
  match c.takeBreak with
  | (none, c) => ⟨blanks, c, false⟩
  | (some first, c) =>
      let fuel := c.left + 1
      let lines := blankLines fuel c []
      if separatorAhead fuel c then ⟨[], lines.cursor, true⟩
      else ⟨fold first lines.text, lines.cursor, true⟩

structure Plain where
  text : List Char
  cursor : Cursor
  /-- Whether the scalar is followed by a line end that was read along with it. -/
  broken : Bool

/-- Reads a plain scalar from a place on, behind what was read already, last character first. -/
def plainFrom (fuel : Nat) (flow : Bool) (indent : Int) (backwards gap : List Char) (broken : Bool)
    (c : Cursor) : Plain :=
  match fuel with
  | 0 => ⟨backwards.reverse, c, broken⟩
  | fuel + 1 =>
      let length := plainLength flow c.rest
      if c.peek 0 == some '#' || length == 0 then ⟨backwards.reverse, c, broken⟩
      else
        let backwards := (c.rest.take length).reverse ++ (gap.reverse ++ backwards)
        let after := plainGap (c.advance length)
        if after.text.isEmpty || after.cursor.peek 0 == some '#' ||
            (!flow && (after.cursor.column : Int) < indent) then
          ⟨backwards.reverse, after.cursor, after.broken⟩
        else plainFrom fuel flow indent backwards after.text after.broken after.cursor

def plain (flow : Bool) (indent : Int) (c : Cursor) : Plain :=
  plainFrom (c.left + 1) flow indent [] [] false c

/-! ### Scalars between quotation marks -/

def shortEscapes : List (Char × Char) :=
  [('0', '\x00'), ('a', '\x07'), ('b', '\x08'), ('t', '\t'), ('\t', '\t'), ('n', '\n'), ('v', '\x0b'),
    ('f', '\x0c'), ('r', '\r'), ('e', '\x1b'), (' ', ' '), ('"', '"'), ('\\', '\\'), ('/', '/'),
    ('N', '\x85'), ('_', '\xa0'), ('L', '\u2028'), ('P', '\u2029')]

def escapeWidth? : Char → Option Nat
  | 'x' => some 2
  | 'u' => some 4
  | 'U' => some 8
  | _ => none

def codePoint (code : Nat) : Except Fault Nat :=
  if code < 0x110000 then .ok code
  else if code < Nat.pow 2 31 then
    .error (.broken (.noMeaning "chr() arg not in range(0x110000)"))
  else .error (.broken .overflow)

structure Quotation where
  backwards : List Char
  ragged : Bool

def Quotation.push (q : Quotation) (c : Char) : Quotation :=
  { q with backwards := c :: q.backwards }

def Quotation.append (q : Quotation) (cs : List Char) : Quotation :=
  cs.foldl Quotation.push q

def Quotation.pushCode (q : Quotation) (code : Nat) : Quotation :=
  { q.push (Text.charOf code) with ragged := q.ragged || (0xD800 ≤ code && code < 0xE000) }

/-- Blanks, tabs and line ends behind a line end inside quotation marks.  The line ends found so far are
given, last one first. -/
def quotedLines (fuel : Nat) (c : Cursor) (found : List Char) : Except Fault Taken :=
  match fuel with
  | 0 => .ok ⟨found.reverse, c⟩
  | fuel + 1 =>
      if c.atSeparator then .error .malformed
      else
        let c := (c.span fun ch => ch == ' ' || ch == '\t').2
        match c.takeBreak with
        | (some b, c) => quotedLines fuel c (b :: found)
        | (none, c) => .ok ⟨found.reverse, c⟩

def escaped (q : Quotation) (c : Cursor) : Except Fault (Quotation × Cursor) :=
  match c.peek 0 with
  | none => .error .malformed
  | some ch =>
      match shortEscapes.lookup ch, escapeWidth? ch with
      | some d, _ => .ok (q.push d, c.next)
      | none, some width =>
          let digits := c.next.rest.take width
          if digits.length < width || !digits.all Numeral.isHex then .error .malformed
          else (codePoint (Numeral.read 16 digits)).map fun code => (q.pushCode code, c.next.advance width)
      | none, none =>
          match c.takeBreak with
          | (some _, c) => (quotedLines (c.left + 1) c []).map fun t => (q.append t.text, t.cursor)
          | (none, _) => .error .malformed

def quotedFrom (fuel : Nat) (double : Bool) (q : Quotation) (c : Cursor) : Except Fault (Quotation × Cursor) :=
  match fuel with
  | 0 => .error .malformed
  | fuel + 1 =>
      match c.rest with
      | [] => .error .malformed
      | ch :: _ =>
          if double && ch == '"' then .ok (q, c.next)
          else if !double && ch == '\'' then
            if c.peek 1 == some '\'' then quotedFrom fuel double (q.push '\'') (c.advance 2)
            else .ok (q, c.next)
          else if double && ch == '\\' then do
            let (q, c) ← escaped q c.next
            quotedFrom fuel double q c
          else if isGap ch then
            let (blanks, c) := c.span fun ch => ch == ' ' || ch == '\t'
            match c.takeBreak with
            | (some first, c) => do
                let lines ← quotedLines (c.left + 1) c []
                quotedFrom fuel double (q.append (fold first lines.text)) lines.cursor
            | (none, c) => quotedFrom fuel double (q.append blanks) c
          else quotedFrom fuel double (q.push ch) c.next

def quoted (c : Cursor) : Except Fault (Quotation × Cursor) :=
  quotedFrom (c.left + 1) (c.peek 0 == some '"') ⟨[], false⟩ c.next

/-! ### Block scalars -/

inductive Chomp where
  | strip
  | clip
  | keep

def chomp? : Option Char → Option Chomp
  | some '+' => some .keep
  | some '-' => some .strip
  | _ => none

def indentDigit? (c : Option Char) : Except Fault (Option Nat) :=
  match c with
  | some ch =>
      if Numeral.isDecimal ch then
        if ch == '0' then .error .malformed else .ok (some (ch.toNat - 48))
      else .ok none
  | none => .ok none

/-- The head of a block: what is done with line ends, the indentation if it is given, and the place behind
the head's line. -/
def blockHead (c : Cursor) : Except Fault (Chomp × Option Nat × Cursor) := do
  let (chomp, digit, c) ← match chomp? (c.peek 0) with
    | some chomp => do
        let digit ← indentDigit? (c.peek 1)
        .ok (chomp, digit, c.advance (if digit.isSome then 2 else 1))
    | none => do
        let digit ← indentDigit? (c.peek 0)
        match digit with
        | none => .ok (Chomp.clip, digit, c)
        | some _ =>
            match chomp? (c.peek 1) with
            | some chomp => .ok (chomp, digit, c.advance 2)
            | none => .ok (Chomp.clip, digit, c.advance 1)
  if !blankOrEnd (c.peek 0) then .error .malformed
  else
    let c := c.skipBlanks
    let c := if c.peek 0 == some '#' then c.skipLine else c
    if !breakOrEnd (c.peek 0) then .error .malformed
    else .ok (chomp, digit, c.takeBreak.2)

/-- Blank lines at the head of a block: the line ends, the place behind and the widest column reached.  The
line ends found so far are given, last one first. -/
def blockOpening (fuel : Nat) (c : Cursor) (found : List Char) (widest : Nat) : Taken × Nat :=
  match fuel with
  | 0 => (⟨found.reverse, c⟩, widest)
  | fuel + 1 =>
      match c.rest with
      | ch :: _ =>
          if ch == ' ' then blockOpening fuel c.next found (max widest c.next.column)
          else if isBreak ch then blockOpening fuel c.next (breakText ch :: found) widest
          else (⟨found.reverse, c⟩, widest)
      | [] => (⟨found.reverse, c⟩, widest)

def skipToColumn (column : Nat) (c : Cursor) : Cursor :=
  let blanks := (c.rest.takeWhile (· == ' ')).length
  c.advance (min blanks (column - c.column))

def blockBreaks (fuel : Nat) (indent : Nat) (c : Cursor) (found : List Char) : Taken :=
  match fuel with
  | 0 => ⟨found.reverse, c⟩
  | fuel + 1 =>
      let c := skipToColumn indent c
      match c.takeBreak with
      | (some b, c) => blockBreaks fuel indent c (b :: found)
      | (none, c) => ⟨found.reverse, c⟩

def indented (c : Cursor) : Bool :=
  c.peek 0 == some ' ' || c.peek 0 == some '\t'

/-- The lines of a block: the text up to the end of the last line, the line end behind it, the blank lines
that follow and the place behind them.  The text read so far is given, last character first. -/
def blockLines (fuel : Nat) (folded : Bool) (indent : Nat) (backwards breaks : List Char) (c : Cursor) :
    List Char × Option Char × Taken :=
  match fuel with
  | 0 => (backwards.reverse, none, ⟨breaks, c⟩)
  | fuel + 1 =>
      if c.column == indent && !c.rest.isEmpty then
        let deep := indented c
        let (line, c) := c.span fun ch => !isBreak ch
        let (ended, c) := c.takeBreak
        let after := blockBreaks (c.left + 1) indent c []
        let backwards := line.reverse ++ (breaks.reverse ++ backwards)
        if after.cursor.column == indent && !after.cursor.rest.isEmpty then
          let joint : List Char :=
            if folded && ended == some '\n' && !deep && !indented after.cursor then
              if after.text.isEmpty then [' '] else []
            else ended.toList
          blockLines fuel folded indent (joint.reverse ++ backwards) after.text after.cursor
        else (backwards.reverse, ended, after)
      else (backwards.reverse, none, ⟨breaks, c⟩)

def block (folded : Bool) (outer : Int) (c : Cursor) : Except Fault Taken := do
  let (chomp, digit, c) ← blockHead c.next
  let least := (max (outer + 1) 1).toNat
  let fuel := c.left + 1
  let (opening, indent) := match digit with
    | none =>
        let (opening, widest) := blockOpening fuel c [] 0
        (opening, max least widest)
    | some digit =>
        let indent := least + digit - 1
        (blockBreaks fuel indent c [], indent)
  let (text, ended, after) := blockLines fuel folded indent [] opening.text opening.cursor
  let tail : List Char := match chomp with
    | .strip => []
    | .clip => ended.toList
    | .keep => ended.toList ++ after.text
  .ok ⟨text ++ tail, after.cursor⟩

end ReorgGuard.Yaml
