import ReorgGuard.Files
import ReorgGuard.Settings.Environment
import ReorgGuard.Settings.VariableFile
import ReorgGuard.Text.Charset

/-!
The configuration from everything that sets it.

What the caller sets goes before what the environment sets, that before the files of variables, and
those before the directories with one file for each field; nested settings are laid over each other
key by key.
-/

namespace ReorgGuard.Settings

inductive SettingsError where
  | invalid (invalid : Invalid)
  | outside (fault : OutsideFault)
  | search (fault : FileFault)
  | undecodable
  | broken (breakdown : Breakdown)

def SettingsError.ofMisfit : Misfit → SettingsError
  | .invalid found => .invalid found
  | .broken breakdown => .broken breakdown

/-! ### Files of variables -/

def Manner.textOf? (manner : Manner) (octets : List UInt8) : Option String :=
  match Text.Charset.ofName? manner.charset with
  | none => Text.ofUtf8? octets
  | some .utf8 => Text.ofUtf8? octets
  | some charset => (charset.read octets).toOption

def fileVariables (manner : Manner) (files : Files) (environment : Environment) :
    Except SettingsError Variables := do
  let given ← manner.variableFiles.mapM fun name =>
    let path := Path.ofText name
    match files.find path with
    | .file octets =>
        match manner.textOf? octets with
        | some text => .ok (variablesOf environment text)
        | none => .error SettingsError.undecodable
    | .nameTooLong => .error (.search (.nameTooLong path.text))
    | _ => .ok []
  .ok (manner.bindings given.flatten)

def Manner.concerns (manner : Manner) (name field : String) : Bool :=
  name = manner.nameOf field || (!(fieldsBelow field).isEmpty && name.startsWith (manner.nameOf field))

def strangers (manner : Manner) (bound : Variables) (found : List (Value × Value)) : List (Value × Value) :=
  bound.filterMap fun (name, held) =>
    match held.value? with
    | some value =>
        let isOwn := (Value.field? found name).isSome ||
          (manner.start != some "" && fieldNames.contains name) || fieldNames.any (manner.concerns name)
        if isOwn || value.same (.text "") then none else some (.text name, value)
    | none => none

def ofVariableFiles (manner : Manner) (bound : Variables) : Except OutsideFault (List (Value × Value)) := do
  let found ← ofVariables manner .variableFile bound
  .ok (found ++ strangers manner bound found)

/-! ### Directories with one file for each field -/

def Manner.secretIn? (manner : Manner) (files : Files) (directory : Path) (name : String) : Option FileNode :=
  let place := files.placeOf directory
  (files.nodes.find? fun node =>
    node.1.dropLast = place && node.1 ≠ place &&
      node.1.getLast?.any fun last => manner.spell last = manner.spell name).map (·.2)

/-- The text for a field in the directories, those looked through first in front. -/
def Manner.secret? (manner : Manner) (files : Files) (directories : List Path) (field : String) :
    Except OutsideFault (Option String) :=
  match directories with
  | [] => .ok none
  | directory :: rest =>
      match manner.secretIn? files directory (manner.nameOf field) with
      | some (.file octets) =>
          match Files.textOf? octets with
          | some text => .ok (some (String.ofList (Text.trim text.toList)))
          | none => .error (.unobtainable field .secrets)
      | _ => secret? manner files rest field

def ofSecrets (manner : Manner) (files : Files) : Except SettingsError (List (Value × Value)) := do
  let names ← (Manner.pathsOf manner.secrets).mapError .broken
  let found ← (names.map Path.ofText).filterMapM fun path =>
    match files.find path with
    | .directory => .ok (some (path, true))
    | .file _ => .ok (some (path, false))
    | .nameTooLong => .error (SettingsError.search (.nameTooLong path.text))
    | _ => .ok none
  if found.any fun e => !e.2 then .error (.outside .noDirectory)
  else if found.isEmpty then .ok []
  else
    let directories := (found.map (·.1)).reverse
    let value (field : String) : Except OutsideFault (Option Value) := do
      match ← manner.secret? files directories field with
      | none => .ok none
      | some text =>
          if (fieldsBelow field).isEmpty then .ok (some (.text text))
          else
            match ← jsonOf .secrets field text with
            | .null => .ok none
            | .dict entries => .ok (some (.dict (manner.properNames field entries)))
            | value => .ok (some value)
    (gather value).mapError .outside

/-! ### All together -/

def reservedName : String := "__pydantic_self__"

def isName : Value → Bool
  | .text s => s ≠ reservedName
  | .ragged _ => true
  | _ => false

/-- The settings among what a caller sets, with the proper spelling of their names.  Of several names that
differ in letter case only, the first one counts. -/
def properFields (set : List (Value × Value)) : List (Value × Value) :=
  set.foldl
    (fun kept (key, value) =>
      match key with
      | .text s =>
          if Manner.names.contains s then kept
          else
            match fieldNames.find? (Text.lower s = ·) with
            | some name => if (Value.field? kept name).isSome then kept else kept ++ [(.text name, value)]
            | none => kept ++ [(key, value)]
      | key => kept ++ [(key, value)])
    []

/-- Checks what is given for the words of a command line.  No command line is read here. -/
def checkWords : Value → Except SettingsError Unit
  | .null => .ok ()
  | .bool _ => .ok ()
  | .list _ => .ok ()
  | value =>
      if value.same (.int 0) then .ok () else .error (.outside (.noWords value.kind))

/-- What a caller gives in place of everything that lies outside: a pair, of which the first part lists the
sources.  No source can be given here, so the list is empty. -/
def checkSources (value : Value) : Except SettingsError Unit :=
  match value.items? with
  | some [sources, _] => if sources.isEmpty then .ok () else .error (.broken .unfitKind)
  | some items =>
      if items.length < 2 then
        .error (.broken (.noMeaning s!"not enough values to unpack (expected 2, got {items.length})"))
      else .error (.broken (.noMeaning "too many values to unpack (expected 2)"))
  | none => .error (.broken .unfitKind)

/-- The configuration from what a caller sets and from what lies outside. -/
def build (files : Files) (environment : Environment) (set : List (Value × Value)) :
    Except SettingsError Config := do
  if set.any fun e => !isName e.1 then .error (.broken .unfitKind)
  else if let some sources := asked? set "_build_sources" then do
    checkSources sources
    (config []).mapError .ofMisfit
  else
    let manner ← (Manner.ofSet set).mapError .broken
    let fromFiles ← fileVariables manner files environment
    checkWords ((asked? set "_cli_parse_args").getD .null)
    let bound := manner.bindings (environment.map fun e => (e.1, some e.2))
    let upper ← (ofVariables manner .environment bound).mapError .outside
    let middle ← (ofVariableFiles manner fromFiles).mapError .outside
    let lower ← ofSecrets manner files
    (config (Value.merge (Value.merge (Value.merge lower middle) upper) (properFields set))).mapError .ofMisfit

end ReorgGuard.Settings
