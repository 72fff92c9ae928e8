import ReorgGuard.Breakdown
import ReorgGuard.Text.Letters
import ReorgGuard.Value

/-!
How settings are gathered.

Some names that a caller sets are no settings but tell how settings are looked for outside: how the
names of variables begin, what leads from a name into the fields below it, whether letter case
counts, which texts count as missing, and which files hold more settings.
-/

namespace ReorgGuard.Settings

structure Manner where
  /-- The beginning of the names that matter, unless no text was given for it. -/
  start : Option String
  /-- What leads from the name of a field into its own fields. -/
  divider : String
  /-- The greatest number of dividers that count, if they are limited. -/
  dividers : Option Nat
  caseCounts : Bool
  ignoresEmpty : Bool
  noneText : Option String
  /-- Whether a network may be given by its name in capitals. -/
  capitals : Bool
  /-- Files of variables; those of a later one go before those of an earlier one. -/
  variableFiles : List String
  charset : String
  /-- The directories with one file for each field, as the caller names them. -/
  secrets : Option Value

def asked? (set : List (Value × Value)) (name : String) : Option Value :=
  match Value.field? set name with
  | some .null => none
  | found => found

namespace Manner

def usual : Manner := ⟨some "PINCHAIN_", "__", none, false, false, none, false, [], "utf8", none⟩

def spell (manner : Manner) (name : String) : String :=
  if manner.caseCounts then name else Text.lower name

/-- The names that tell how settings are gathered; they are no settings. -/
def names : List String :=
  ["_case_sensitive", "_nested_model_default_partial_update", "_env_prefix", "_env_prefix_target", "_env_file",
    "_env_file_encoding", "_env_ignore_empty", "_env_nested_delimiter", "_env_nested_max_split",
    "_env_parse_none_str", "_env_parse_enums", "_cli_prog_name", "_cli_parse_args", "_cli_settings_source",
    "_cli_parse_none_str", "_cli_hide_none_type", "_cli_avoid_json", "_cli_enforce_required",
    "_cli_use_class_docs_for_groups", "_cli_exit_on_error", "_cli_prefix", "_cli_flag_prefix_char",
    "_cli_implicit_flags", "_cli_ignore_unknown_args", "_cli_kebab_case", "_cli_shortcuts", "_secrets_dir",
    "_build_sources"]

def pathsOf : Option Value → Except Breakdown (List String)
  | none => .ok []
  | some (.text s) => .ok [s]
  | some value =>
      match value.items? with
      | some items => items.mapM fun
        | .text s => .ok s
        | _ => .error .unfitKind
      | none => .error .unfitKind

def ofSet (set : List (Value × Value)) : Except Breakdown Manner := do
  let asked (name : String) : Option Value := asked? set name
  let text? (name : String) : Option String :=
    match asked name with
    | some (.text s) => some s
    | _ => none
  let holds (name : String) : Bool := (asked name).elim false fun value => !value.isEmpty
  let variableFiles ← pathsOf (asked "_env_file")
  .ok
    { start :=
        if text? "_env_prefix_target" = some "alias" then some ""
        else if (asked "_env_prefix").isSome then text? "_env_prefix"
        else usual.start
      divider := (text? "_env_nested_delimiter").getD usual.divider
      dividers :=
        match (asked "_env_nested_max_split").bind Value.whole? with
        | some n => if 1 ≤ n then some (n - 1).toNat else none
        | none => none
      caseCounts := holds "_case_sensitive"
      ignoresEmpty := holds "_env_ignore_empty"
      noneText := text? "_env_parse_none_str"
      capitals := holds "_env_parse_enums"
      variableFiles := variableFiles
      charset := (text? "_env_file_encoding").getD usual.charset
      secrets := asked "_secrets_dir" }

end Manner

end ReorgGuard.Settings
