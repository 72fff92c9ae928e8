import ReorgGuard.Checkpoint.Store
import ReorgGuard.Checkpoint.Verification
import ReorgGuard.Command.Arguments
import ReorgGuard.Settings.File

/-!
Runs of the program.

The exit code carries the verdict: zero for yes, one for no and for checkpoints that cannot be
loaded, two for a command line or configuration that cannot be used.  The answer goes to the
output; the journal and complaints go to the errors.
-/

namespace ReorgGuard.Command

open ReorgGuard.Checkpoint
open ReorgGuard.Settings (Config)

structure Situation where
  world : World
  web : Feed.Web
  environment : Settings.Environment
  stamp : Journal.Stamp

structure Ended where
  exit : Nat
  output : String
  errors : String

/-- Troubles that no exit code stands for. -/
inductive Escape where
  | settings (error : Settings.ResolveError)
  /-- The path of the checkpoints file holds the character zero. -/
  | brokenPath
  | build (error : BuildError)
  | read (error : ReadError)
  | verification (error : VerificationError)
  | noHeight

def brokenPathMessage : String := "embedded null byte"

inductive Halt where
  | ended (ended : Ended)
  | escaped (escape : Escape)

def version : String := "pinchain v1.0.0"

def withFile (home : Path) (file : Option Path) (config : Config) : Except Halt Config :=
  match file with
  | none => .ok config
  | some path =>
      if path.parts.any fun part => part.toList.contains '\x00' then .error (.escaped .brokenPath)
      else .ok { config with checkpointsFile := some (Path.absolute home path) }

def configure (here : Situation) (i : Invocation) : Except Halt Config :=
  let files := here.world.files
  match Settings.resolve files here.environment files.homePath (i.network.map fun n => .text n.name) with
  | .ok config => withFile files.homePath i.file config
  | .error (.refused refusal) => .error (.ended ⟨2, "", s!"config error: {refusal.message}\n"⟩)
  | .error error => .error (.escaped (.settings error))

structure Opened where
  config : Config
  store : Store
  records : List Journal.Record

def openStore (here : Situation) (i : Invocation) : Except Halt Opened := do
  let config ← configure here i
  let remote := if i.remote then some true else none
  let (built, store) := Store.bootstrap here.world here.web config none remote
  match store with
  | .ok store => .ok ⟨config, store, built.records⟩
  | .error (.notLoaded network) =>
      let complaint := s!"checkpoint load failed: {BuildError.notLoadedMessage network}\n"
      .error (.ended ⟨1, "", config.logging.text here.stamp built.records ++ complaint⟩)
  | .error error => .error (.escaped (.build error))

def exitOf (verdict : Bool) : Nat :=
  if verdict then 0 else 1

def reportLine (report : Report) : String :=
  s!"- source {report.source}: {report.counters}\n"

def summarize (here : Situation) (opened : Opened) : Ended :=
  let table := opened.store.table
  let lines :=
    ["pinchain checkpoints\n", s!"- points: {table.size}\n",
      s!"- difficulty points: {table.difficulties.length}\n", s!"- max height: {table.maxHeight}\n"]
  ⟨0, String.join (lines ++ opened.store.reports.map reportLine),
    opened.config.logging.text here.stamp opened.records⟩

def dump (here : Situation) (opened : Opened) : Ended :=
  ⟨0, Hashfile.ofTable opened.store.table ++ "\n", opened.config.logging.text here.stamp opened.records⟩

def blockLine (check : BlockCheck) (height : Int) : String :=
  let verdict := if check.accepted then "accepted" else "rejected"
  let label := if check.isCheckpoint then "checkpoint" else "unpinned"
  s!"{verdict} ({label}) height=" ++ Numeral.intText height ++ "\n"

def checkBlock (here : Situation) (i : Invocation) (height : Int) (hash : Value) : Except Halt Ended :=
  match Hash.ofValue hash with
  | .error fault => .ok ⟨2, "", s!"error: {fault.message}\n"⟩
  | .ok _ => do
      let opened ← openStore here i
      let verdict := opened.store.table.check height hash
      .ok ⟨exitOf verdict.check.accepted, blockLine verdict.check height,
        opened.config.logging.text here.stamp (opened.records ++ verdict.records)⟩

def forkLine (allowed : Bool) (chainHeight : Int) (blockHeight : Value) : String :=
  let verdict := if allowed then "allowed" else "forbidden"
  s!"{verdict} chain_height=" ++ Numeral.intText chainHeight ++ " block_height=" ++
    (blockHeight.display?).getD "" ++ "\n"

def checkFork (here : Situation) (i : Invocation) (chainHeight : Int) (blockHeight : Value) :
    Except Halt Ended := do
  let opened ← openStore here i
  match opened.store.table.mayForkValue (.int chainHeight) blockHeight with
  | .error _ => .error (.escaped .noHeight)
  | .ok allowed =>
      .ok ⟨exitOf allowed, forkLine allowed chainHeight blockHeight,
        opened.config.logging.text here.stamp opened.records⟩

def conflictLine (c : Conflict) : String :=
  s!"conflict height={c.height} kind={c.kind} ours={c.ours} theirs={c.theirs}\n"

def verificationText (v : Verification) : String :=
  let verdict := if v.ok then "ok" else "conflicts found"
  let malformed := v.report.malformed
  let duplicates := v.report.conflicts
  String.join (v.conflicts.map conflictLine) ++
    s!"records={v.lines} malformed={malformed} duplicates={duplicates}\n" ++
    s!"new above {v.hardcoded.maxHeight}: {v.newHeights.length}\n" ++ verdict ++ "\n"

def verifyFile (here : Situation) (i : Invocation) (path : Path) : Except Halt Ended := do
  let config ← configure here i
  match Hashfile.read here.world.files path with
  | .error (.source fault) => .ok ⟨1, "", s!"error: {fault.message}\n"⟩
  | .error error => .error (.escaped (.read error))
  | .ok none => .ok ⟨2, "", s!"error: file not found: {path.text}\n"⟩
  | .ok (some lines) =>
      let verified := verify config.network path.text lines
      match verified.answer with
      | .error error => .error (.escaped (.verification error))
      | .ok v => .ok ⟨exitOf v.ok, verificationText v, config.logging.text here.stamp verified.records⟩

def perform (here : Situation) (i : Invocation) (request : Request) : Except Halt Ended :=
  match request with
  | .summary => (openStore here i).map (summarize here)
  | .dump => (openStore here i).map (dump here)
  | .checkBlock height hash => checkBlock here i height hash
  | .canFork chainHeight blockHeight => checkFork here i chainHeight blockHeight
  | .verifyFile path => verifyFile here i path

def stopped : Stop → Ended
  | .help part => ⟨0, help part, ""⟩
  | .misuse part misuse => ⟨2, "", usage part ++ title part ++ ": error: " ++ misuse.message ++ "\n"⟩

def run (here : Situation) (arguments : List String) : Except Escape Ended :=
  match Invocation.read arguments with
  | .error stop => .ok (stopped stop)
  | .ok i =>
      if i.version then .ok ⟨0, version ++ "\n", ""⟩
      else
        match i.request with
        | none => .ok ⟨2, help none, ""⟩
        | some request =>
            match perform here i request with
            | .ok ended => .ok ended
            | .error (.ended ended) => .ok ended
            | .error (.escaped escape) => .error escape

end ReorgGuard.Command
