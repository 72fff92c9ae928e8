import ReorgGuard.Command.Word
import ReorgGuard.Numeral.Integer
import ReorgGuard.Path
import ReorgGuard.Value

/-!
The request in a command line.

Options and arguments are taken in turns, from left to right.  The first word that is no option
names the task, and everything behind it belongs to the task.  Faults are found in the order in
which the words are taken; words that nobody takes are refused at the end.
-/

namespace ReorgGuard.Command

open ReorgGuard.Checkpoint

inductive Misuse where
  | ambiguous (ambiguity : Ambiguity)
  | valueExpected (flag : Flag)
  | valueIgnored (flag : Flag) (value : String)
  | invalidChoice (place value : String) (choices : List String)
  | invalidInteger (place value : String)
  | missing (names : List String)
  | unrecognized (words : List String)

def Misuse.message : Misuse → String
  | ambiguous a => s!"ambiguous option: {a.word} could match " ++ ", ".intercalate a.names
  | valueExpected flag => s!"argument {flag.label}: expected one argument"
  | valueIgnored flag value => s!"argument {flag.label}: ignored explicit argument " ++ Text.quote value
  | invalidChoice place value choices =>
      let listed := ", ".intercalate (choices.map Text.quote)
      s!"argument {place}: invalid choice: " ++ Text.quote value ++ s!" (choose from {listed})"
  | invalidInteger place value => s!"argument {place}: invalid int value: " ++ Text.quote value
  | missing names => "the following arguments are required: " ++ ", ".intercalate names
  | unrecognized words => "unrecognized arguments: " ++ " ".intercalate words

inductive Stop where
  | help (part : Part)
  | misuse (part : Part) (misuse : Misuse)

/-- What the program is asked to do.  Where a second pair of dashes stands in place of the last argument,
the argument is an empty list. -/
inductive Request where
  | summary
  | checkBlock (height : Int) (hash : Value)
  | canFork (chainHeight : Int) (blockHeight : Value)
  | verifyFile (path : Path)
  | dump

structure Invocation where
  version : Bool
  network : Option Network
  file : Option Path
  remote : Bool
  request : Option Request
  /-- Words behind the task that the task does not take. -/
  leftOver : List String

def Invocation.empty : Invocation := ⟨false, none, none, false, none, []⟩

structure Taking (σ : Type) where
  part : Part
  /-- Takes an option with its value; the value is empty for an option that takes none. -/
  setFlag : Flag → String → σ → Except Stop σ
  /-- Whether the arguments take everything behind them. -/
  takesRest : Bool
  setArgument : List String → σ → Except Stop σ

/-- Where the taking of words stands: what was taken, the number of arguments that are still wanted, and
the words that nobody took. -/
structure Progress (σ : Type) where
  state : σ
  wanted : Nat
  extras : List String

/-- Splits the words of one argument off: a plain word, and the pair of dashes beside it. -/
def takeGroup (takesRest : Bool) (words : List Word) : Option (List String × List Word) :=
  let lead := words.takeWhile Word.isDashes
  match words.dropWhile Word.isDashes with
  | word :: behind =>
      if !word.isPlain then none
      else if takesRest then some (words.map Word.text, [])
      else
        let trail := behind.takeWhile Word.isDashes
        some ((lead ++ word :: trail).map Word.text, behind.dropWhile Word.isDashes)
  | [] => none

def takeArguments (taking : Taking σ) (words : List Word) (state : σ) :
    Nat → Except Stop (σ × Nat × List Word)
  | 0 => .ok (state, 0, words)
  | wanted + 1 =>
      match takeGroup taking.takesRest words with
      | none => .ok (state, wanted + 1, words)
      | some (texts, rest) => do
          let state ← taking.setArgument texts state
          takeArguments taking rest state wanted

/-- Takes the value attached to an option that takes none: it may be a run of further short options. -/
def takeCluster (taking : Taking σ) (flag : Flag) (name value : String) (state : σ) : Except Stop σ :=
  let isFlag (c : Char) : Bool := ((namesOf (flagsOf taking.part)).lookup (String.ofList ['-', c])).isSome
  let beyond := value.toList.dropWhile isFlag
  if "--".isPrefixOf name || value.isEmpty then .error (.misuse taking.part (.valueIgnored flag value))
  else if beyond.isEmpty then taking.setFlag flag "" state
  else .error (.misuse taking.part (.valueIgnored flag (String.ofList beyond)))

def takeFlag (taking : Taking σ) (flag : Flag) (name : String) (attached : Option String) (rest : List Word)
    (state : σ) : Except Stop (σ × List Word) :=
  match attached, flag.takesValue with
  | some value, true => (taking.setFlag flag value state).map (·, rest)
  | some value, false => (takeCluster taking flag name value state).map (·, rest)
  | none, false => (taking.setFlag flag "" state).map (·, rest)
  | none, true =>
      match rest with
      | word :: behind =>
          if word.isPlain then (taking.setFlag flag word.text state).map (·, behind)
          else .error (.misuse taking.part (.valueExpected flag))
      | [] => .error (.misuse taking.part (.valueExpected flag))

def takeWords (taking : Taking σ) (fuel : Nat) (words : List Word) (now : Progress σ) :
    Except Stop (Progress σ) :=
  match fuel, words with
  | 0, _ => .ok { now with extras := now.extras ++ words.map Word.text }
  | _, [] => .ok now
  | fuel + 1, word :: rest =>
      match word.kind with
      | .flag flag name attached => do
          let (state, behind) ← takeFlag taking flag name attached rest now.state
          takeWords taking fuel behind { now with state := state }
      | .unknown => takeWords taking fuel rest { now with extras := now.extras ++ [word.text] }
      | _ => do
          let (state, wanted, behind) ← takeArguments taking words now.state now.wanted
          if wanted < now.wanted then takeWords taking fuel behind { now with state := state, wanted := wanted }
          else
            let passed := words.takeWhile fun w => !w.isOption
            takeWords taking fuel (words.dropWhile fun w => !w.isOption)
              { now with extras := now.extras ++ passed.map Word.text }

def take (taking : Taking σ) (texts : List String) (state : σ) (wanted : Nat) :
    Except Stop (Progress σ) :=
  match wordsOf (flagsOf taking.part) texts with
  | .error a => .error (.misuse taking.part (.ambiguous a))
  | .ok words => takeWords taking (words.length + 1) words ⟨state, wanted, []⟩

def argumentValue (part : Part) (slot : Slot) (texts : List String) : Except Stop Value :=
  match texts.erase "--" with
  | text :: _ =>
      if slot.isInteger then
        match Numeral.integer 10 text with
        | .ok n => .ok (.int n)
        | .error _ => .error (.misuse part (.invalidInteger slot.name text))
      else .ok (.text text)
  | [] => .ok (.list [])

def taskTaking (task : Task) : Taking (List Value) :=
  { part := some task
    setFlag := fun _ _ _ => .error (.help (some task))
    takesRest := false
    setArgument := fun texts taken =>
      match task.slots[taken.length]? with
      | some slot => (argumentValue (some task) slot texts).map (taken ++ [·])
      | none => .ok taken }

def requestOf (task : Task) (arguments : List Value) : Except Stop Request :=
  match task, arguments with
  | .summary, _ => .ok .summary
  | .checkBlock, [.int height, hash] => .ok (.checkBlock height hash)
  | .canFork, [.int chainHeight, blockHeight] => .ok (.canFork chainHeight blockHeight)
  | .verifyFile, [.text path] => .ok (.verifyFile (Path.ofText path))
  | .dump, _ => .ok .dump
  | task, arguments =>
      .error (.misuse (some task) (.missing ((task.slots.drop arguments.length).map Slot.name)))

def setTask (texts : List String) (i : Invocation) : Except Stop Invocation :=
  match texts with
  | [] => .ok i
  | name :: rest =>
      match Task.ofName? name with
      | none => .error (.misuse none (.invalidChoice "command" name (Task.all.map Task.name)))
      | some task => do
          let taken ← take (taskTaking task) rest [] task.slots.length
          let request ← requestOf task taken.state
          .ok { i with request := some request, leftOver := taken.extras }

def setOption (flag : Flag) (value : String) (i : Invocation) : Except Stop Invocation :=
  match flag with
  | .help => .error (.help none)
  | .version => .ok { i with version := true }
  | .remote => .ok { i with remote := true }
  | .file => .ok { i with file := some (Path.ofText value) }
  | .network =>
      match Network.ofName? value with
      | some network => .ok { i with network := some network }
      | none =>
          .error (.misuse none (.invalidChoice flag.label value (Network.all.map Network.name)))

def programTaking : Taking Invocation :=
  { part := none
    setFlag := setOption
    takesRest := true
    setArgument := setTask }

def Invocation.read (texts : List String) : Except Stop Invocation := do
  let taken ← take programTaking texts .empty 1
  match taken.extras ++ taken.state.leftOver with
  | [] => .ok taken.state
  | words => .error (.misuse none (.unrecognized words))

end ReorgGuard.Command
