import ReorgGuard.Yaml.Text

/-!
Tokens of a YAML document.

Blocks are opened and closed by indentation.  What turns out to be a key only at its colon is
remembered together with its place among the tokens, and the mark of a key is put there then.
Such a key stands on one line and takes at most 1024 characters.
-/

namespace ReorgGuard.Yaml

inductive Directive where
  | version (major : Nat)
  | handle (name expansion : String)
  | reserved

inductive Token where
  | openSequence
  | openMapping
  | closeBlock
  | openFlowSequence
  | closeFlowSequence
  | openFlowMapping
  | closeFlowMapping
  | entry
  | comma
  | key
  | value
  | alias (name : String)
  | anchor (name : String)
  | tag (handle : Option String) (suffix : String)
  /-- A scalar; it is ragged if it holds half of a surrogate pair. -/
  | scalar (plain : Bool) (text : String) (ragged : Bool)
  | directive (directive : Directive)
  | documentStart
  | documentEnd
  /-- What cannot be read as a token; nothing comes behind it. -/
  | fault (fault : Fault)

/-- What may turn out to be a key: its place among the tokens, and where it begins. -/
structure Candidate where
  position : Nat
  required : Bool
  start : Cursor

/-- The state between two tokens.  The tokens are held last one first. -/
structure Lexer where
  cursor : Cursor
  tokens : List Token
  count : Nat
  indent : Int
  outer : List Int
  keyAllowed : Bool
  /-- What may turn out to be a key outside of flow collections. -/
  base : Option Candidate
  /-- What may turn out to be a key inside each of the open flow collections, innermost first. -/
  flows : List (Option Candidate)

namespace Lexer

def emit (s : Lexer) (token : Token) : Lexer :=
  { s with tokens := token :: s.tokens, count := s.count + 1 }

def emitAt (s : Lexer) (position : Nat) (token : Token) : Lexer :=
  let behind := s.count - position
  { s with tokens := s.tokens.take behind ++ token :: s.tokens.drop behind, count := s.count + 1 }

def inFlow (s : Lexer) : Bool := !s.flows.isEmpty

def unwind (s : Lexer) (column : Int) : Lexer :=
  if s.inFlow then s
  else
    let rec close (s : Lexer) : List Int → Lexer
      | [] => { s with outer := [] }
      | next :: rest =>
          if column < s.indent then close ({ s with indent := next }.emit .closeBlock) rest
          else { s with outer := next :: rest }
    close s s.outer

def isBehind (s : Lexer) (k : Candidate) : Bool :=
  k.start.line ≠ s.cursor.line || 1024 < k.start.left - s.cursor.left

def candidate? (s : Lexer) : Option Candidate :=
  (s.flows.headD s.base).filter fun k => !s.isBehind k

def setCandidate (s : Lexer) (k : Option Candidate) : Lexer :=
  match s.flows with
  | [] => { s with base := k }
  | _ :: outer => { s with flows := k :: outer }

/-- Forgets the candidate outside of flow collections if the current place is too far from it. -/
def forgetStale (s : Lexer) : Except Fault Lexer :=
  match s.base with
  | some k =>
      if !s.isBehind k then .ok s
      else if k.required then .error .malformed
      else .ok { s with base := none }
  | none => .ok s

def forget (s : Lexer) : Except Fault Lexer :=
  if s.candidate?.any (·.required) then .error .malformed else .ok (s.setCandidate none)

def remember (s : Lexer) : Except Fault Lexer :=
  if s.keyAllowed then do
    let s ← s.forget
    .ok (s.setCandidate (some ⟨s.count, !s.inFlow && s.indent == s.cursor.column, s.cursor⟩))
  else .ok s

/-- Starts a block at a column if it lies deeper than the current one; tells whether it does. -/
def deepen (s : Lexer) (column : Nat) : Lexer × Bool :=
  if s.indent < column then
    ({ s with outer := s.indent :: s.outer, indent := column }, true)
  else (s, false)

/-- The place behind blanks, comments and line ends.  A line end allows a key outside flow collections. -/
def skipGap (fuel : Nat) (s : Lexer) : Lexer :=
  match fuel with
  | 0 => s
  | fuel + 1 =>
      let c := s.cursor.skipBlanks
      let c := if c.peek 0 == some '#' then c.skipLine else c
      match c.takeBreak with
      | (some _, c) => skipGap fuel { s with cursor := c, keyAllowed := s.keyAllowed || !s.inFlow }
      | (none, c) => { s with cursor := c }

def mark (s : Lexer) (width : Nat) (token : Token) : Lexer :=
  { s with cursor := s.cursor.advance width }.emit token

def separator (s : Lexer) (token : Token) : Except Fault Lexer := do
  let s ← (s.unwind (-1)).forget
  .ok ({ s with keyAllowed := false }.mark 3 token)

def openFlow (s : Lexer) (token : Token) : Except Fault Lexer := do
  let s ← s.remember
  .ok ({ s with flows := none :: s.flows, keyAllowed := true }.mark 1 token)

def closeFlow (s : Lexer) (token : Token) : Except Fault Lexer := do
  let s ← s.forget
  match s.flows with
  | [] => .error .malformed
  | _ :: outer => .ok ({ s with flows := outer, keyAllowed := false }.mark 1 token)

def comma (s : Lexer) : Except Fault Lexer := do
  let s ← s.forget
  .ok ({ s with keyAllowed := true }.mark 1 .comma)

def openBlock (s : Lexer) (token : Token) : Except Fault Lexer :=
  if s.inFlow then .ok s
  else if !s.keyAllowed then .error .malformed
  else
    let (deeper, isNew) := s.deepen s.cursor.column
    .ok (if isNew then deeper.emit token else deeper)

def entry (s : Lexer) : Except Fault Lexer := do
  let s ← s.openBlock .openSequence
  let s ← { s with keyAllowed := true }.forget
  .ok (s.mark 1 .entry)

def key (s : Lexer) : Except Fault Lexer := do
  let s ← s.openBlock .openMapping
  let s ← { s with keyAllowed := !s.inFlow }.forget
  .ok (s.mark 1 .key)

def value (s : Lexer) : Except Fault Lexer := do
  match s.candidate? with
  | some k =>
      let s := (s.setCandidate none).emitAt k.position .key
      let s :=
        if s.inFlow then s
        else
          let (deeper, isNew) := s.deepen k.start.column
          if isNew then deeper.emitAt k.position .openMapping else deeper
      .ok ({ s with keyAllowed := false }.mark 1 .value)
  | none => do
      let s ← s.openBlock .openMapping
      let s ← { s with keyAllowed := !s.inFlow }.forget
      .ok (s.mark 1 .value)

def isNameChar (c : Char) : Bool :=
  c.isAlphanum || c == '-' || c == '_'

def isTagChar (c : Char) : Bool :=
  c.isAlphanum || "-;/?:@&=+$,_.!~*'()[]%".contains c

def anchorName (c : Cursor) : Except Fault Taken :=
  let (name, c) := c.next.span isNameChar
  let ends := match c.peek 0 with
    | some ch => isGap ch || "?:,]\x7d%@`".contains ch
    | none => true
  if name.isEmpty || !ends then .error .malformed else .ok ⟨name, c⟩

def anchor (s : Lexer) (token : String → Token) : Except Fault Lexer := do
  let s ← s.remember
  let taken ← anchorName s.cursor
  .ok ({ s with keyAllowed := false, cursor := taken.cursor }.emit (token (String.ofList taken.text)))

def unescapeTag (fuel : Nat) (cs : List Char) : Except Fault (List UInt8) :=
  match fuel with
  | 0 => .ok []
  | fuel + 1 =>
      match cs with
      | [] => .ok []
      | '%' :: a :: b :: rest => do
          match Numeral.hexDigit? a, Numeral.hexDigit? b with
          | some x, some y => do
              let others ← unescapeTag fuel rest
              .ok ((x * 16 + y).toUInt8 :: others)
          | _, _ => .error .malformed
      | '%' :: _ => .error .malformed
      | c :: rest => do
          let others ← unescapeTag fuel rest
          .ok (Text.charOctets c ++ others)

def tagText (c : Cursor) : Except Fault Taken := do
  let (raw, c) := c.span isTagChar
  if raw.isEmpty then .error .malformed
  else
    let octets ← unescapeTag (raw.length + 1) raw
    match Text.ofUtf8? octets with
    | some s => .ok ⟨s.toList, c⟩
    | none => .error .malformed

/-- The handle of a tag: a name between exclamation marks, or one such mark alone. -/
def tagHandle (c : Cursor) : Except Fault Taken :=
  if c.peek 0 ≠ some '!' then .error .malformed
  else if c.peek 1 == some ' ' then .ok ⟨['!'], c.next⟩
  else
    let (name, c) := c.next.span isNameChar
    if c.peek 0 == some '!' then .ok ⟨'!' :: name ++ ['!'], c.next⟩ else .error .malformed

def tag (s : Lexer) : Except Fault Lexer := do
  let s ← s.remember
  let c := s.cursor
  let (handle, suffix, c) ←
    if c.peek 1 == some '<' then do
      let taken ← tagText (c.advance 2)
      if taken.cursor.peek 0 == some '>' then .ok (none, taken.text, taken.cursor.next)
      else .error Fault.malformed
    else if gapOrEnd (c.peek 1) then .ok (none, ['!'], c.next)
    else do
      let word := c.next.rest.takeWhile fun ch => !(ch == ' ' || isBreak ch)
      let handle ← if word.contains '!' then tagHandle c else .ok ⟨['!'], c.next⟩
      let taken ← tagText handle.cursor
      .ok (some (String.ofList handle.text), taken.text, taken.cursor)
  if !blankOrEnd (c.peek 0) then .error .malformed
  else .ok ({ s with keyAllowed := false, cursor := c }.emit (.tag handle (String.ofList suffix)))

def directiveNumber (c : Cursor) : Except Fault (Nat × Cursor) :=
  let (digits, c) := c.span Numeral.isDecimal
  if digits.isEmpty then .error .malformed
  else if Numeral.digitLimit < digits.length then
    .error (.broken (.noMeaning (Numeral.tooManyDigitsMessage digits.length)))
  else .ok (Numeral.read 10 digits, c)

def directive (s : Lexer) : Except Fault Lexer := do
  let s ← (s.unwind (-1)).forget
  let (name, c) := s.cursor.next.span isNameChar
  if name.isEmpty || !blankOrEnd (c.peek 0) then .error .malformed
  else
    let (found, c) ←
      if name == "YAML".toList then do
        let (major, c) ← directiveNumber c.skipBlanks
        if c.peek 0 ≠ some '.' then .error Fault.malformed
        else
          let (_, c) ← directiveNumber c.next
          if blankOrEnd (c.peek 0) then .ok (Directive.version major, c) else .error .malformed
      else if name == "TAG".toList then do
        let handle ← tagHandle c.skipBlanks
        if handle.cursor.peek 0 ≠ some ' ' then .error Fault.malformed
        else
          let expansion ← tagText handle.cursor.skipBlanks
          if blankOrEnd (expansion.cursor.peek 0) then
            .ok (Directive.handle (String.ofList handle.text) (String.ofList expansion.text), expansion.cursor)
          else .error .malformed
      else .ok (Directive.reserved, c.skipLine)
    let c := c.skipBlanks
    let c := if c.peek 0 == some '#' then c.skipLine else c
    if breakOrEnd (c.peek 0) then
      .ok ({ s with keyAllowed := false, cursor := c }.emit (.directive found))
    else .error .malformed

def blockScalar (s : Lexer) (folded : Bool) : Except Fault Lexer := do
  let s ← { s with keyAllowed := true }.forget
  let taken ← block folded s.indent s.cursor
  .ok ({ s with cursor := taken.cursor }.emit (.scalar false (String.ofList taken.text) false))

def quotedScalar (s : Lexer) : Except Fault Lexer := do
  let s ← s.remember
  let (q, c) ← quoted s.cursor
  .ok ({ s with keyAllowed := false, cursor := c }.emit
    (.scalar false (String.ofList q.backwards.reverse) q.ragged))

def plainScalar (s : Lexer) : Except Fault Lexer := do
  let s ← s.remember
  let taken := plain s.inFlow (s.indent + 1) s.cursor
  .ok ({ s with keyAllowed := taken.broken, cursor := taken.cursor }.emit
    (.scalar true (String.ofList taken.text) false))

def beginsPlain (s : Lexer) (c : Char) : Bool :=
  !(isGap c || "-?:,[]\x7b\x7d#&*!|>'\"%@`".contains c) ||
    (!gapOrEnd (s.cursor.peek 1) && (c == '-' || (!s.inFlow && (c == '?' || c == ':'))))

def token (s : Lexer) (c : Char) : Except Fault Lexer :=
  let alone := gapOrEnd (s.cursor.peek 1)
  let atStart := s.cursor.column == 0
  if c == '%' && atStart then s.directive
  else if atStart && s.cursor.atMarks '-' then s.separator .documentStart
  else if atStart && s.cursor.atMarks '.' then s.separator .documentEnd
  else if c == '[' then s.openFlow .openFlowSequence
  else if c == '\x7b' then s.openFlow .openFlowMapping
  else if c == ']' then s.closeFlow .closeFlowSequence
  else if c == '\x7d' then s.closeFlow .closeFlowMapping
  else if c == ',' then s.comma
  else if c == '-' && alone then s.entry
  else if c == '?' && (s.inFlow || alone) then s.key
  else if c == ':' && (s.inFlow || alone) then s.value
  else if c == '*' then s.anchor .alias
  else if c == '&' then s.anchor .anchor
  else if c == '!' then s.tag
  else if c == '|' && !s.inFlow then s.blockScalar false
  else if c == '>' && !s.inFlow then s.blockScalar true
  else if c == '\'' || c == '"' then s.quotedScalar
  else if s.beginsPlain c then s.plainScalar
  else .error .malformed

/-- Reads the next token behind a gap; at the end all blocks are closed, and nothing is left to read. -/
def advance (s : Lexer) : Except Fault (Lexer × Bool) := do
  let s ← (skipGap (s.cursor.left + 1) s).forgetStale
  let s := s.unwind s.cursor.column
  match s.cursor.rest with
  | [] => do
      let s ← (s.unwind (-1)).forget
      .ok (s, true)
  | c :: _ => do
      let s ← s.token c
      .ok (s, false)

/-- The tokens when the next one cannot be read.  Who looks at a token that may turn out to be a key has to
know the tokens behind it, and so meets the fault there already. -/
def stopped (s : Lexer) (fault : Fault) : List Token :=
  let candidates := (s.base :: s.flows).filterMap fun k => k.filter fun k => !s.isBehind k
  let kept := (candidates.map (·.position)).foldl min s.count
  (Token.fault fault :: s.tokens.drop (s.count - kept)).reverse

def run (fuel : Nat) (s : Lexer) : List Token :=
  match fuel with
  | 0 => s.stopped .malformed
  | fuel + 1 =>
      match s.forgetStale with
      | .error fault => s.stopped fault
      | .ok s =>
          match s.advance with
          | .error fault => s.stopped fault
          | .ok (s, true) => s.tokens.reverse
          | .ok (s, false) => run fuel s

end Lexer

def isAllowed (c : Char) : Bool :=
  let n := c.toNat
  n == 9 || n == 10 || n == 13 || (0x20 ≤ n && n ≤ 0x7E) || n == 0x85 || (0xA0 ≤ n && n ≤ 0xD7FF) ||
    (0xE000 ≤ n && n ≤ 0xFFFD) || 0x10000 ≤ n

/-- The tokens of a document.  A byte order mark at the beginning is skipped. -/
def tokens (cs : List Char) : List Token :=
  if !cs.all isAllowed then [.fault .malformed]
  else
    let start := Cursor.start cs
    let start := if cs.head? == some '\uFEFF' then start.next else start
    Lexer.run (start.left + 1) ⟨start, [], 0, -1, [], true, none, []⟩

end ReorgGuard.Yaml
