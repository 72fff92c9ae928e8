import ReorgGuard.Command.Run
import Std.Time.Format

/-!
The program on a computer.

The files that a run may look at are read first; the run itself is a function of them.  Nothing
is fetched from the network here: every endpoint of a feed counts as unreachable.
-/

namespace ReorgGuard.Command

/-- The number by which the system tells that a file is a directory. -/
def directoryCode : UInt32 := 21

def look (path : Path) : IO (Option FileNode) := do
  try
    let octets ← IO.FS.readBinFile path.text
    return some (.file octets.toList)
  catch
    | .inappropriateType _ code _ => return if code = directoryCode then some .directory else none
    | _ => return none

def withPath (files : Files) (path : Path) : IO Files := do
  match ← look (Path.absolute files.homePath path) with
  | some (.file octets) => return files.write path octets
  | some .directory => return files.makeDirectory path
  | none => return files

def withNetworkFile (files : Files) (path : Path) (network : Option Value) : IO Files := do
  match Settings.mapping files path with
  | .error _ => return files
  | .ok found =>
      let own := match network with
        | some value => found.set "network" value
        | none => found
      match Settings.networkName own with
      | .error _ => return files
      | .ok name => withPath files (Settings.networkFile path name)

def filesFor (home : Path) (environment : Settings.Environment) (i : Invocation) : IO Files := do
  let network := i.network.map fun n => Value.text n.name
  let mut files : Files := ⟨home.parts, []⟩
  for path in [Settings.userFile home, Settings.generalFile home] do
    files ← withPath files path
    files ← withNetworkFile files path network
  for path in i.file.toList do
    files ← withPath files path
  match i.request with
  | some (.verifyFile path) => files ← withPath files path
  | _ => pure ()
  match Settings.resolve files environment home network with
  | .error _ => return files
  | .ok config =>
      match config.checkpointsPath with
      | some path => withPath files path
      | none => return files

/-- The variables of the environment; the system lists them with a zero behind each. -/
def environmentNow : IO Settings.Environment := do
  try
    let octets ← IO.FS.readBinFile "/proc/self/environ"
    let entries := Text.splitAt '\x00' (Text.ofUtf8Lossy octets.toList).toList
    return entries.filterMap fun entry =>
      if entry.contains '=' then
        some (String.ofList (entry.takeWhile (· ≠ '=')), String.ofList ((entry.dropWhile (· ≠ '=')).drop 1))
      else none
  catch _ => return []

def stampNow : IO Journal.Stamp := do
  let now ← Std.Time.PlainDateTime.now
  let millis := now.time.nanosecond.val.toNat / 1000000
  return ⟨now.format "uuuu-MM-dd HH:mm:ss", millis⟩

def situation (arguments : List String) : IO Situation := do
  let home := Path.ofText (← IO.currentDir).toString
  let environment ← environmentNow
  let files ← match Invocation.read arguments with
    | .ok i => filesFor home environment i
    | .error _ => pure ⟨home.parts, []⟩
  return ⟨⟨files, ⟨fun _ => .failed, fun _ _ => 0.0⟩⟩, .scripted [], environment, ← stampNow⟩

def escapeText : Escape → String
  | .settings (.search fault) => fault.message
  | .settings (.broken breakdown) => breakdown.message?.getD "a configuration file cannot be read"
  | .settings (.settings (.invalid invalid)) => invalid.message
  | .settings (.settings (.outside fault)) => fault.message?.getD "a variable cannot be read"
  | .settings (.settings (.broken _)) => "the settings cannot be taken together"
  | .settings (.unknownNetwork name) => Settings.unknownNetworkMessage name
  | .settings _ => "a configuration file is no text"
  | .brokenPath => brokenPathMessage
  | .read (.search fault) => fault.message
  | .read _ => "a checkpoints file is no text"
  | .build _ => "the checkpoints cannot be read"
  | .verification _ => "the checkpoints cannot be compared"
  | .noHeight => "a height is no number"

end ReorgGuard.Command

def main (arguments : List String) : IO UInt32 := do
  match ReorgGuard.Command.run (← ReorgGuard.Command.situation arguments) arguments with
  | .ok ended =>
      IO.print ended.output
      IO.eprint ended.errors
      return ended.exit.toUInt32
  | .error escape =>
      IO.eprintln (ReorgGuard.Command.escapeText escape)
      return 1
