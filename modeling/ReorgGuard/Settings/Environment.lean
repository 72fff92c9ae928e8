import ReorgGuard.Json.Reader
import ReorgGuard.Settings.Config
import ReorgGuard.Settings.Manner
import ReorgGuard.Value.Merge

/-!
Settings from variables.

A variable sets the field that its name gives behind a fixed beginning, in any letter case.  The
settings of the feed and of the journal are JSON text, and two underscores in a name lead into
them.  The variables are those of the environment or those of a file.
-/

namespace ReorgGuard.Settings

abbrev Environment := List (String × String)

inductive Outside where
  | environment
  | variableFile
  | secrets

def Outside.name : Outside → String
  | environment => "EnvSettingsSource"
  | variableFile => "DotEnvSettingsSource"
  | secrets => "SecretsSettingsSource"

inductive OutsideFault where
  | unreadable (field : String) (outside : Outside)
  | unobtainable (field : String) (outside : Outside)
  /-- A file stands where a directory with one file for each field should be. -/
  | noDirectory
  /-- What should be the words of a command line is of another kind. -/
  | noWords (kind : String)
  | broken (breakdown : Breakdown)

def OutsideFault.message? : OutsideFault → Option String
  | unreadable field outside =>
      some s!"error parsing value for field \"{field}\" from source \"{outside.name}\""
  | unobtainable field outside =>
      some s!"error getting value for field \"{field}\" from source \"{outside.name}\""
  | noDirectory => some "secrets_dir must reference a directory, not a file"
  | noWords kind => some s!"cli_parse_args must be a list or tuple of strings, received <class '{kind}'>"
  | broken breakdown => breakdown.message?

inductive Held where
  | text (s : String)
  | nothing
  /-- Only the name of the variable is there. -/
  | bare

def Held.value? : Held → Option Value
  | text s => some (.text s)
  | nothing => some .null
  | bare => none

abbrev Variables := List (String × Held)

/-- The variables as the manner sees them; of several with one name the last one counts. -/
def Manner.bindings (manner : Manner) (given : List (String × Option String)) : Variables :=
  given.foldl
    (fun kept (name, text) =>
      let name := manner.spell name
      let held := match text with
        | none => Held.bare
        | some s => if manner.noneText == some s then .nothing else .text s
      if manner.ignoresEmpty && text == some "" then kept
      else if kept.any (·.1 = name) then kept.map fun e => if e.1 = name then (name, held) else e
      else kept ++ [(name, held)])
    []

def cutName (fuel : Nat) (divider : List Char) (most : Option Nat) (piece : List Char) :
    List Char → List (List Char)
  | [] => [piece.reverse]
  | c :: rest =>
      match fuel with
      | 0 => [piece.reverse ++ c :: rest]
      | fuel + 1 =>
          if most != some 0 && divider.isPrefixOf (c :: rest) then
            piece.reverse :: cutName fuel divider (most.map (· - 1)) [] ((c :: rest).drop divider.length)
          else cutName fuel divider most (c :: piece) rest

def fieldsBelow (field : String) : List String :=
  if field = "feed" then feedFields else if field = "logging" then loggingFields else []

def jsonOf? (text : String) : Except OutsideFault (Option Value) :=
  match Json.read .message text with
  | .ok value => .ok (some value)
  | .error .malformed => .ok none
  | .error .tooDeep => .error (.broken .tooDeep)

def jsonOf (outside : Outside) (field text : String) : Except OutsideFault Value := do
  match ← jsonOf? text with
  | some value => .ok value
  | none => .error (.unreadable field outside)

/-- The value of a variable that leads into a field.  The URLs have to be JSON text, the URLs of one network
may be, and everything else is plain text. -/
def nestedValue (manner : Manner) (outside : Outside) (field : String) (keys : List String) (text : String) :
    Except OutsideFault Value :=
  if text.isEmpty || field ≠ "feed" then .ok (.text text)
  else
    match keys.map manner.spell with
    | ["urls"] => jsonOf outside field text
    | ["urls", _] => do
        let value ← jsonOf? text
        .ok (value.getD (.text text))
    | _ => .ok (.text text)

/-- Puts a value at the end of a chain of keys.  A value on the way that is no mapping stays, and the text for
nothing takes only an empty place. -/
def putNested (entries : List (Value × Value)) (isNothing : Bool) (value : Value) :
    List String → List (Value × Value)
  | [] => entries
  | [key] =>
      match isNothing, Value.field? entries key with
      | true, some (.dict []) => Value.put entries (.text key) value
      | true, some _ => entries
      | _, _ => Value.put entries (.text key) value
  | key :: rest =>
      match Value.field? entries key with
      | none => Value.put entries (.text key) (.dict (putNested [] isNothing value rest))
      | some (.dict inner) => Value.put entries (.text key) (.dict (putNested inner isNothing value rest))
      | some _ => entries

def Manner.nameOf (manner : Manner) (field : String) : String :=
  manner.spell (manner.start.getD "" ++ field)

def nested (manner : Manner) (outside : Outside) (bound : Variables) (field : String) :
    Except OutsideFault (List (Value × Value)) :=
  if manner.divider.isEmpty then .ok []
  else
    let divider := manner.divider.toList
    let start := (manner.nameOf field).toList ++ divider
    bound.foldlM
      (fun entries (name, held) =>
        if start.isPrefixOf name.toList then do
          let behind := name.toList.drop start.length
          let keys := (cutName behind.length divider manner.dividers [] behind).map String.ofList
          match held with
          | .text text => do
              let value ← nestedValue manner outside field keys text
              .ok (putNested entries false value keys)
          | .nothing => .ok (putNested entries true .null keys)
          | .bare => .ok (putNested entries false .null keys)
        else .ok entries)
      []

def Manner.properNames (manner : Manner) (field : String) (entries : List (Value × Value)) :
    List (Value × Value) :=
  if manner.caseCounts then entries
  else
    entries.foldl
      (fun kept (key, value) =>
        let proper := match key with
          | .text s => ((fieldsBelow field).find? (Text.lower s = ·)).elim key .text
          | key => key
        Value.put kept proper value)
      []

def compound (manner : Manner) (outside : Outside) (bound : Variables) (field : String) :
    Except OutsideFault (Option Value) := do
  match (bound.lookup (manner.nameOf field)).getD .bare with
  | .bare =>
      let inner ← nested manner outside bound field
      .ok (if inner.isEmpty then none else some (.dict (manner.properNames field inner)))
  | .nothing => .ok (some .null)
  | .text text =>
      match ← jsonOf outside field text with
      | .null => .ok none
      | .dict entries => do
          let inner ← nested manner outside bound field
          .ok (some (.dict (manner.properNames field (Value.merge entries inner))))
      | value => .ok (some value)

def simple (manner : Manner) (bound : Variables) (field : String) : Option Value :=
  match (bound.lookup (manner.nameOf field)).bind Held.value? with
  | some (.text s) =>
      let network := (Checkpoint.Network.all.find? fun n => n.name.toUpper = s).filter fun _ =>
        manner.capitals && field = "network"
      some (.text ((network.map (·.name)).getD s))
  | found => found

def gather (find : String → Except OutsideFault (Option Value)) : Except OutsideFault (List (Value × Value)) :=
  fieldNames.foldlM
    (fun entries field => do
      .ok (match ← find field with
        | some value => Value.put entries (.text field) value
        | none => entries))
    []

def ofVariables (manner : Manner) (outside : Outside) (bound : Variables) :
    Except OutsideFault (List (Value × Value)) :=
  gather fun field =>
    if manner.start.isNone then .error (.unobtainable field outside)
    else if (fieldsBelow field).isEmpty then .ok (simple manner bound field)
    else compound manner outside bound field

end ReorgGuard.Settings
