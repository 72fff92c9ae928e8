import ReorgGuard.Command.Usage
import ReorgGuard.Numeral.Digits
import ReorgGuard.Text.Letters
import ReorgGuard.Text.Lines

/-!
The words of a command line.

A word that begins with a dash is an option, unless it is a negative number, holds a blank or
stands behind a pair of dashes.  The name of a long option may be cut short as long as it stays
clear which one is meant, and a value may be attached behind an equals sign.
-/

namespace ReorgGuard.Command

inductive WordKind where
  | plain
  /-- The pair of dashes behind which all words are plain. -/
  | dashes
  /-- An option, the name that stands for it and the value attached to it. -/
  | flag (flag : Flag) (name : String) (attached : Option String)
  | unknown

structure Word where
  text : String
  kind : WordKind

namespace Word

def isOption (word : Word) : Bool :=
  match word.kind with
  | .flag .. => true
  | .unknown => true
  | _ => false

def isPlain (word : Word) : Bool :=
  word.kind matches .plain

def isDashes (word : Word) : Bool :=
  word.kind matches .dashes

end Word

def namesOf (flags : List Flag) : List (String × Flag) :=
  flags.flatMap fun flag => flag.names.map (·, flag)

def cutAtEquals (cs : List Char) : List Char × Option String :=
  if cs.contains '=' then
    (cs.takeWhile (· ≠ '='), some (String.ofList ((cs.dropWhile (· ≠ '=')).drop 1)))
  else (cs, none)

structure Candidate where
  flag : Flag
  name : String
  attached : Option String

def candidates (flags : List Flag) (cs : List Char) : List Candidate :=
  match cs with
  | '-' :: '-' :: _ =>
      let (start, attached) := cutAtEquals cs
      (namesOf flags).filterMap fun (name, flag) =>
        if start.isPrefixOf name.toList then some ⟨flag, name, attached⟩ else none
  | _ =>
      (namesOf flags).filterMap fun (name, flag) =>
        if name.toList = cs.take 2 then some ⟨flag, name, some (String.ofList (cs.drop 2))⟩
        else if cs.isPrefixOf name.toList then some ⟨flag, name, none⟩
        else none

/-- Whether a word behind a dash is a number: digits of any script, possibly with a point in front of the
last of them, and possibly a line feed at the end. -/
def isNumber (cs : List Char) : Bool :=
  let body := if cs.getLast? == some '\n' then cs.dropLast else cs
  let isDigits (cs : List Char) : Bool := cs.all fun c => (Text.digit? c).isSome
  match Text.splitAt '.' body with
  | [digits] => !digits.isEmpty && isDigits digits
  | [whole, fraction] => isDigits whole && !fraction.isEmpty && isDigits fraction
  | _ => false

/-- What a word is that does not stand behind a pair of dashes, or the names that it may stand for if there
are several. -/
def kindOf (flags : List Flag) (text : String) : Except (List String) WordKind :=
  match text.toList with
  | '-' :: rest =>
      let (start, attached) := cutAtEquals text.toList
      match (namesOf flags).lookup text, rest, (namesOf flags).lookup (String.ofList start) with
      | some flag, _, _ => .ok (.flag flag text none)
      | none, [], _ => .ok .plain
      | none, _, some flag => .ok (.flag flag (String.ofList start) attached)
      | none, _, none =>
          match candidates flags text.toList with
          | [c] => .ok (.flag c.flag c.name c.attached)
          | [] => .ok (if isNumber rest || text.toList.contains ' ' then .plain else .unknown)
          | several => .error (several.map Candidate.name)
  | _ => .ok .plain

structure Ambiguity where
  word : String
  names : List String

def wordsOf (flags : List Flag) : List String → Except Ambiguity (List Word)
  | [] => .ok []
  | text :: rest =>
      if text = "--" then .ok (⟨text, .dashes⟩ :: rest.map (⟨·, .plain⟩))
      else
        match kindOf flags text with
        | .error names => .error ⟨text, names⟩
        | .ok kind => (wordsOf flags rest).map (⟨text, kind⟩ :: ·)

end ReorgGuard.Command
