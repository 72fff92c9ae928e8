import ReorgGuard.Checkpoint.Network

/-!
The commands and options of the program, and the texts that explain them.
-/

namespace ReorgGuard.Command

open ReorgGuard.Checkpoint

inductive Task where
  | summary
  | checkBlock
  | canFork
  | verifyFile
  | dump
  deriving DecidableEq

structure Slot where
  name : String
  isInteger : Bool

namespace Task

def name : Task → String
  | summary => "show"
  | checkBlock => "check-block"
  | canFork => "can-fork"
  | verifyFile => "verify-file"
  | dump => "export"

def all : List Task := [summary, checkBlock, canFork, verifyFile, dump]

def ofName? (name : String) : Option Task :=
  all.find? (·.name == name)

def slots : Task → List Slot
  | summary => []
  | checkBlock => [⟨"height", true⟩, ⟨"hash", false⟩]
  | canFork => [⟨"chain_height", true⟩, ⟨"block_height", true⟩]
  | verifyFile => [⟨"path", false⟩]
  | dump => []

end Task

inductive Flag where
  | help
  | version
  | network
  | file
  | remote
  deriving DecidableEq

namespace Flag

def names : Flag → List String
  | help => ["-h", "--help"]
  | version => ["--version"]
  | network => ["--network"]
  | file => ["--file"]
  | remote => ["--remote"]

def takesValue : Flag → Bool
  | network => true
  | file => true
  | _ => false

def label (flag : Flag) : String :=
  "/".intercalate flag.names

end Flag

/-- The part of a command line that a text is about: all of it, or the arguments of a task. -/
abbrev Part := Option Task

def flagsOf : Part → List Flag
  | none => [.help, .version, .network, .file, .remote]
  | some _ => [.help]

def title : Part → String
  | none => "pinchain"
  | some task => "pinchain " ++ task.name

def usage (part : Part) : String :=
  match part with
  | none =>
      "usage: pinchain [-h] [--version] [--network \x7bmainnet,testnet,stagenet\x7d]\n" ++
      "                [--file FILE] [--remote]\n" ++
      "                \x7bshow,check-block,can-fork,verify-file,export\x7d ...\n"
  | some task =>
      "usage: " ++ title part ++ " [-h]" ++ String.join (task.slots.map fun slot => " " ++ slot.name) ++ "\n"

def programHelp : String :=
  "\n" ++
  "Block checkpoint table: pin heights to hashes, refuse deep reorgs.\n" ++
  "\n" ++
  "positional arguments:\n" ++
  "  \x7bshow,check-block,can-fork,verify-file,export\x7d\n" ++
  "    show                Print the merged checkpoint table summary\n" ++
  "    check-block         Check one block against the table\n" ++
  "    can-fork            May an alternative block exist at this height?\n" ++
  "    verify-file         Check a hashfile against the hardcoded checkpoints\n" ++
  "    export              Print the merged table as hashfile JSON\n" ++
  "\n" ++
  "options:\n" ++
  "  -h, --help            show this help message and exit\n" ++
  "  --version             Print version and exit.\n" ++
  "  --network \x7bmainnet,testnet,stagenet\x7d\n" ++
  "                        Override the configured network.\n" ++
  "  --file FILE           Checkpoints hashfile (overrides config).\n" ++
  "  --remote              Also load the remote checkpoint feed.\n"

def helpNames : String := ", ".intercalate Flag.help.names

/-- Blanks behind the names of an option, up to the column in which the explanations begin. -/
def helpGap (task : Task) : String :=
  let widest := (task.slots.map fun slot => slot.name.length).foldl max helpNames.length
  String.ofList (List.replicate (widest + 2 - helpNames.length) ' ')

def taskHelp (task : Task) : String :=
  let arguments :=
    if task.slots.isEmpty then ""
    else "\npositional arguments:\n" ++ String.join (task.slots.map fun slot => "  " ++ slot.name ++ "\n")
  arguments ++ "\noptions:\n  " ++ helpNames ++ helpGap task ++ "show this help message and exit\n"

def help (part : Part) : String :=
  usage part ++ match part with
    | none => programHelp
    | some task => taskHelp task

end ReorgGuard.Command
