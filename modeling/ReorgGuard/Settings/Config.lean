import ReorgGuard.Feed.Endpoints
import ReorgGuard.Journal.Output
import ReorgGuard.Path
import ReorgGuard.Settings.Checked

/-!
The configuration of a node and how it is read from unchecked values.

Every field has a usual value.  Numbers and truth values are read leniently.  Names that the
configuration does not know are refused at the top and ignored below.
-/

namespace ReorgGuard.Settings

open ReorgGuard.Checkpoint

structure Config where
  network : Network
  dataDir : Path
  configDir : Path
  checkpointsFile : Option Path
  feed : Feed.Settings
  logging : Journal.Output

namespace Config

def default : Config :=
  { network := .mainnet
    dataDir := Path.ofText "data"
    configDir := Path.ofText "config"
    checkpointsFile := some (Path.ofText "checkpoints.json")
    feed := .default
    logging := .default }

/-- The checkpoints file, seen from the data directory. -/
def checkpointsPath (config : Config) : Option Path :=
  config.checkpointsFile.map config.dataDir.join

end Config

def network (value : Value) : Checked Network :=
  match value with
  | .text s => .orElse .enumeration (Network.ofName? s)
  | .octets .fixed bytes => .orElse .enumeration ((Text.ofUtf8? bytes).bind Network.ofName?)
  | .ragged _ => .fault .stringUnicode
  | _ => .fault .enumeration

def path (value : Value) : Checked Path :=
  match value with
  | .text s => pure (Path.ofText s)
  | .ragged s => pure (Path.ofText (Path.unfindable s))
  | _ => .fault .pathType

def path? (value : Value) : Checked (Option Path) :=
  match value with
  | .null => pure none
  | value => some <$> path value

def keyPlace (key : Value) : String :=
  match key with
  | .text s => s
  | .bool b => if b then "1" else "0"
  | key => key.shown?.getD s!"<unprintable {key.kind} object>"

def link (value : Value) : Except Mismatch Feed.Link :=
  match value with
  | .ragged s => .ok ⟨s, true⟩
  | value => value.asText.map fun s => ⟨s, false⟩

def urlList (value : Value) : Checked (List Feed.Link) :=
  match value.asList with
  | .ok items => .all (fun i item => .under (Numeral.natText i) (.single (link item))) 0 items
  | .error mismatch => .fault mismatch

/-- Reads the URLs of all networks, those of the last key first: of two keys for one network the later one
counts. -/
def urls (value : Value) : Checked (List (Network × List Feed.Link)) :=
  match value with
  | .dict entries =>
      List.reverse <$> .all (fun _ (key, value) =>
        .under (keyPlace key)
          (Prod.mk <$> Checked.under "[key]" (network key) <*> urlList value)) 0 entries
  | _ => .fault .dictType

def retries (value : Value) : Checked Int :=
  match value.asInt with
  | .error mismatch => .fault mismatch
  | .ok n => if n < 0 then .fault .valueError else pure n

def feed (value : Value) : Checked Feed.Settings :=
  match value with
  | .dict entries =>
      let usual := Feed.Settings.default
      Feed.Settings.mk
        <$> .field entries "enabled" usual.enabled (.single ·.asBool)
        <*> .field entries "required" usual.required (.single ·.asBool)
        <*> .field entries "urls" usual.urls urls
        <*> .field entries "timeout_s" usual.timeout (.single ·.asFloat)
        <*> .field entries "max_retries" usual.maxRetries retries
        <*> .field entries "max_bytes" usual.maxBytes (.single ·.asInt)
        <*> .field entries "max_records" usual.maxRecords (.single ·.asInt)
        <*> .field entries "allow_private" usual.allowPrivate (.single ·.asBool)
  | _ => .fault .modelType

/-- Reads a level by its name in any case.  The complaint about any other text quotes it, so that there is none
about a text that cannot be encoded. -/
def level (value : Value) : Checked Journal.Level :=
  match value with
  | .ragged _ => .broken .unencodable
  | value =>
      match value.asText with
      | .error mismatch => .fault mismatch
      | .ok s => .orElse .valueError (Journal.Level.ofName? (Text.upperAscii s))

def logging (value : Value) : Checked Journal.Output :=
  match value with
  | .dict entries =>
      Journal.Output.mk
        <$> .field entries "level" Journal.Output.default.level level
        <*> .field entries "json_output" Journal.Output.default.json (.single ·.asBool)
  | _ => .fault .modelType

def fieldNames : List String :=
  ["network", "data_dir", "config_dir", "checkpoints_file", "feed", "logging"]

def feedFields : List String :=
  ["enabled", "required", "urls", "timeout_s", "max_retries", "max_bytes", "max_records", "allow_private"]

def loggingFields : List String := ["level", "json_output"]

def knownNames (entries : List (Value × Value)) : Checked Unit :=
  match entries.filter fun e => !fieldNames.any fun name => e.1.sameKey (.text name) with
  | [] => pure ()
  | unknown => .failed (unknown.map fun e => ⟨[keyPlace e.1], .extraForbidden⟩)

def config (entries : List (Value × Value)) : Except Misfit Config :=
  let usual := Config.default
  let checked : Checked Config :=
    Config.mk
      <$> .field entries "network" usual.network network
      <*> .field entries "data_dir" usual.dataDir path
      <*> .field entries "config_dir" usual.configDir path
      <*> .field entries "checkpoints_file" usual.checkpointsFile path?
      <*> .field entries "feed" usual.feed feed
      <*> .field entries "logging" usual.logging logging
  ((fun _ c => c) <$> knownNames entries <*> checked).answer "Config"

def feedAlone (entries : List (Value × Value)) : Except Misfit Feed.Settings :=
  (feed (.dict entries)).answer "FeedConfig"

def loggingAlone (entries : List (Value × Value)) : Except Misfit Journal.Output :=
  (logging (.dict entries)).answer "LoggingConfig"

end ReorgGuard.Settings
