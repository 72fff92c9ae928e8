import ReorgGuard.Settings.Gathered
import ReorgGuard.Yaml.Document

/-!
Configuration files.

A configuration file is a YAML mapping.  A file for its network may lie beside it in a directory
of its own; the entries of the configuration file go before those of the network's file.  The
file of the user goes before the general one, and without any file the usual values hold.
-/

namespace ReorgGuard.Settings

inductive FileRefusal where
  | notFound (path : String)
  | isDirectory (path : String) (fault : FileFault)
  | malformed (path : String)
  | notMapping (path : String)
  | unfit (path : String) (invalid : Invalid)

def FileRefusal.message : FileRefusal → String
  | notFound path => s!"Config file not found: {path}"
  | isDirectory path fault => s!"Config file unreadable: {path}: {fault.message}"
  | malformed path => s!"Config file unreadable: {path}: "
  | notMapping path => s!"Config file must be a mapping: {path}"
  | unfit path invalid => s!"Invalid config {path}: {invalid.message}"

inductive ResolveError where
  | refused (refusal : FileRefusal)
  | search (fault : FileFault)
  | undecodable
  /-- A value in a file stops its reader, or is too long to be written. -/
  | broken (breakdown : Breakdown)
  | settings (error : SettingsError)
  /-- A value, as it is written, names no network. -/
  | unknownNetwork (shown : String)

def unknownNetworkMessage (shown : String) : String :=
  shown ++ " is not a valid Network"

def isThere (files : Files) (path : Path) : Except ResolveError Bool :=
  match files.find path with
  | .missing => .ok false
  | .belowFile => .ok false
  | .nameTooLong => .error (.search (.nameTooLong path.text))
  | .directory => .ok true
  | .file _ => .ok true

/-- A mapping that was read from a file, and how the value at a name in it is written. -/
structure Mapping where
  entries : List (Value × Value)
  textAt : String → Option (Option String)

/-- Reads the mapping in a text.  An empty value counts as an empty mapping. -/
def mappingOf (path : Path) (text : String) : Except ResolveError Mapping :=
  match Yaml.read text with
  | .error .malformed => .error (.refused (.malformed path.text))
  | .error (.broken breakdown) => .error (.broken breakdown)
  | .ok document =>
      match document.value with
      | .dict entries => .ok ⟨entries, document.fieldText?⟩
      | value => if value.isEmpty then .ok ⟨[], fun _ => none⟩ else .error (.refused (.notMapping path.text))

def mapping (files : Files) (path : Path) : Except ResolveError Mapping :=
  match files.find path with
  | .missing => .error (.refused (.notFound path.text))
  | .belowFile => .error (.refused (.notFound path.text))
  | .nameTooLong => .error (.search (.nameTooLong path.text))
  | .directory => .error (.refused (.isDirectory path.text (.isDirectory path.text)))
  | .file octets =>
      match Files.textOf? octets with
      | none => .error .undecodable
      | some text => mappingOf path text

def Mapping.set (m : Mapping) (name : String) (value : Value) : Mapping :=
  { entries := Value.put m.entries (.text name) value
    textAt := fun asked => if asked = name then some value.display? else m.textAt asked }

/-- The name of the network that a mapping sets, as the name of its network's file gives it. -/
def networkName (m : Mapping) : Except ResolveError String :=
  match m.textAt "network" with
  | none => .ok Config.default.network.name
  | some none => .error (.broken (.noMeaning Numeral.tooLongMessage))
  | some (some text) =>
      match Value.field? m.entries "network" with
      | some (.ragged _) => .ok (Path.unfindable text)
      | _ => .ok text

def networkFile (path : Path) (network : String) : Path :=
  (path.parent.child "networks").child (network ++ ".yaml")

/-- A common chain of mappings this long is not followed to its end: the interpreter goes a thousand calls deep,
of which a command has made seven when it lays one file over the other, and each mapping takes one more. -/
def chainLimit : Nat := 992

def layered (files : Files) (path : Path) (m : Mapping) : Except ResolveError (List (Value × Value)) := do
  let network ← networkName m
  let below := networkFile path network
  if ← isThere files below then
    let general ← mapping files below
    if Value.meetsDown chainLimit general.entries m.entries then .error (.broken .tooDeep)
    else .ok (Value.merge general.entries m.entries)
  else .ok m.entries

/-- Gives the configuration directory its usual value, the directory of the file. -/
def withDirectory (path : Path) (entries : List (Value × Value)) : List (Value × Value) :=
  if (Value.field? entries "config_dir").isSome then entries
  else Value.put entries (.text "config_dir") (.text path.parent.text)

def ofFile (files : Files) (environment : Environment) (path : Path) (network : Option Value) :
    Except ResolveError Config := do
  if ← isThere files path then
    let found ← mapping files path
    let own := network.elim found (found.set "network")
    let entries ← layered files path own
    match build files environment (withDirectory path entries) with
    | .ok config => .ok config
    | .error (.invalid invalid) => .error (.refused (.unfit path.text invalid))
    | .error error => .error (.settings error)
  else .error (.refused (.notFound path.text))

def generalFile (root : Path) : Path :=
  (root.child "config").child "default.yaml"

def userFile (root : Path) : Path :=
  (root.child "config").child "user.yaml"

def settledNetwork? : Value → Option Checkpoint.Network
  | .text name => Checkpoint.Network.ofName? name
  | _ => none

def withoutFile (files : Files) (environment : Environment) (network : Option Value) :
    Except ResolveError Config := do
  let set ← match network with
    | none => .ok []
    | some value =>
        match settledNetwork? value with
        | some name => .ok [(Value.text "network", Value.text name.name)]
        | none => .error (.unknownNetwork (value.shown?.getD ""))
  (build files environment set).mapError .settings

def resolve (files : Files) (environment : Environment) (root : Path) (network : Option Value) :
    Except ResolveError Config := do
  if ← isThere files (userFile root) then ofFile files environment (userFile root) network
  else if ← isThere files (generalFile root) then ofFile files environment (generalFile root) network
  else withoutFile files environment network

end ReorgGuard.Settings
