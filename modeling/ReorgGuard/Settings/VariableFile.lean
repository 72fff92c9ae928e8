import ReorgGuard.Text.Blank
import ReorgGuard.Text.Lines

/-!
Files of variables.

Each line binds a name to a text: `name=text`.  The text may stand between quotation marks, behind
which a comment may follow; a text without marks ends before a comment.  A line that cannot be read
is passed over.  A text may call for the variables known so far: `$` and a name in braces, and what
stands for a missing one behind `:-`.
-/

namespace ReorgGuard.Settings

open ReorgGuard.Text

abbrev Binding := String × Option String

def isLineGap (c : Char) : Bool :=
  isBlank c && c != '\n' && c != '\r'

def skipLineGaps (cs : List Char) : List Char :=
  cs.dropWhile isLineGap

def skipExport (cs : List Char) : List Char :=
  let word := "export".toList
  if word.isPrefixOf cs then
    match cs.drop word.length with
    | c :: rest => if isLineGap c then skipLineGaps rest else cs
    | [] => cs
  else cs

/-- Text up to the mark that closes it, and what is left behind the mark.  A mark behind a backslash closes
nothing, unless no other mark would. -/
def marked? (mark : Char) : List Char → Option (List Char × List Char)
  | [] => none
  | c :: rest =>
      if c = mark then some ([], rest)
      else
        match c, rest with
        | '\\', d :: behind =>
            if d = mark then
              match marked? mark behind with
              | some (text, left) => some ('\\' :: d :: text, left)
              | none => some (['\\'], behind)
            else (marked? mark (d :: behind)).map fun found => ('\\' :: found.1, found.2)
        | c, rest => (marked? mark rest).map fun found => (c :: found.1, found.2)

def doubleEscapes : List (Char × Char) :=
  [('\\', '\\'), ('\'', '\''), ('"', '"'), ('a', '\x07'), ('b', '\x08'), ('f', '\x0c'), ('n', '\n'), ('r', '\r'),
    ('t', '\t'), ('v', '\x0b')]

def singleEscapes : List (Char × Char) := [('\\', '\\'), ('\'', '\'')]

/-- Text with its escapes resolved; a backslash in front of any other character stands for itself. -/
def resolveEscapes (escapes : List (Char × Char)) : List Char → List Char
  | '\\' :: c :: rest =>
      match escapes.lookup c with
      | some d => d :: resolveEscapes escapes rest
      | none => '\\' :: resolveEscapes escapes (c :: rest)
  | c :: rest => c :: resolveEscapes escapes rest
  | [] => []

/-- Text without the comment behind it, which a gap and a number sign begin; the gaps seen last are given. -/
def withoutComment (gaps : List Char) : List Char → List Char
  | [] => []
  | c :: rest =>
      if isBlank c then withoutComment (gaps ++ [c]) rest
      else if c = '#' && !gaps.isEmpty then []
      else gaps ++ c :: withoutComment [] rest

def boundText? (cs : List Char) : Option (List Char × List Char) :=
  match cs with
  | '\'' :: rest => (marked? '\'' rest).map fun found => (resolveEscapes singleEscapes found.1, found.2)
  | '"' :: rest => (marked? '"' rest).map fun found => (resolveEscapes doubleEscapes found.1, found.2)
  | cs =>
      let isText (c : Char) : Bool := c != '\n' && c != '\r'
      some (withoutComment [] (cs.takeWhile isText), cs.dropWhile isText)

def boundName? (cs : List Char) : Option (Option (List Char) × List Char) :=
  match cs with
  | '#' :: _ => some (none, cs)
  | '\'' :: rest =>
      let name := rest.takeWhile (· != '\'')
      match rest.dropWhile (· != '\'') with
      | _ :: behind => if name.isEmpty then none else some (some name, behind)
      | [] => none
  | cs =>
      let isName (c : Char) : Bool := !(c == '=' || c == '#' || isBlank c)
      let name := cs.takeWhile isName
      if name.isEmpty then none else some (some name, cs.dropWhile isName)

def lineEnd? (cs : List Char) : Option (List Char) :=
  let behind := match skipLineGaps cs with
    | '#' :: rest => rest.dropWhile fun c => c != '\n' && c != '\r'
    | rest => rest
  match behind with
  | [] => some []
  | c :: rest => if c == '\n' || c == '\r' then some rest else none

def skipLine (cs : List Char) : List Char :=
  (cs.dropWhile fun c => c != '\n' && c != '\r').drop 1

def binding (cs : List Char) : Option Binding × List Char :=
  match boundName? (skipExport cs) with
  | none => (none, skipLine (skipExport cs))
  | some (name, rest) =>
      let rest := skipLineGaps rest
      let text : Option (Option (List Char) × List Char) := match rest with
        | '=' :: behind => (boundText? (skipLineGaps behind)).map fun found => (some found.1, found.2)
        | rest => some (none, rest)
      match text with
      | none => (none, skipLine rest)
      | some (text, rest) =>
          match lineEnd? rest with
          | none => (none, skipLine rest)
          | some behind => (name.map fun n => (String.ofList n, text.map String.ofList), behind)

def bindings (fuel : Nat) (cs : List Char) : List Binding :=
  match fuel, cs.dropWhile isBlank with
  | 0, _ => []
  | _, [] => []
  | fuel + 1, cs =>
      let (found, rest) := binding cs
      found.toList ++ bindings fuel rest

def reference? (cs : List Char) : Option (List Char × List Char × List Char) :=
  let name := cs.takeWhile fun c => c != '\x7d' && c != ':'
  match cs.dropWhile fun c => c != '\x7d' && c != ':' with
  | '\x7d' :: behind => some (name, [], behind)
  | ':' :: '-' :: rest =>
      match rest.dropWhile (· != '\x7d') with
      | _ :: behind => some (name, rest.takeWhile (· != '\x7d'), behind)
      | [] => none
  | _ => none

def substitute (known : String → Option (Option String)) (fuel : Nat) (cs : List Char) : List Char :=
  match fuel, cs with
  | 0, cs => cs
  | _, [] => []
  | fuel + 1, '$' :: '\x7b' :: rest =>
      match reference? rest with
      | some (name, otherwise, behind) =>
          let found := match known (String.ofList name) with
            | some text => (text.getD "").toList
            | none => otherwise
          found ++ substitute known fuel behind
      | none => '$' :: substitute known fuel ('\x7b' :: rest)
  | fuel + 1, c :: rest => c :: substitute known fuel rest

/-- Binds a name; of several bindings of one name the last one counts. -/
def putBinding (bound : List Binding) (name : String) (text : Option String) : List Binding :=
  if bound.any (·.1 = name) then bound.map fun e => if e.1 = name then (name, text) else e
  else bound ++ [(name, text)]

/-- What a file of variables binds.  The variables of the environment may be called for, too. -/
def variablesOf (environment : List (String × String)) (text : String) : List Binding :=
  let cs := unifyLineEnds text.toList
  (bindings (cs.length + 1) cs).foldl
    (fun bound (name, text) =>
      let known (asked : String) : Option (Option String) :=
        (bound.lookup asked).or ((environment.lookup asked).map some)
      putBinding bound name (text.map fun s => String.ofList (substitute known (s.length + 1) s.toList)))
    []

end ReorgGuard.Settings
