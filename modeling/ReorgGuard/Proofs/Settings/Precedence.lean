import ReorgGuard.Proofs.Settings.FileEntries
import ReorgGuard.Proofs.Settings.Leaves
import ReorgGuard.Proofs.Settings.ProperFields

/-!
Which of the files and the variables decides a field.

What the files hand over counts as set by the caller, and the settings put that before the variables of the
environment.  So a field has the value of its variable only where the files have nothing at its place, or
where what is made of both reads the same.
-/

namespace ReorgGuard.Settings

/-- Nothing that is set tells how settings are gathered. -/
def Unguided (set : List (Value × Value)) : Prop :=
  ∀ name ∈ Manner.names, asked? set name = none

def environmentEntries (environment : Environment) : Except OutsideFault (List (Value × Value)) :=
  ofVariables .usual .environment (Manner.usual.bindings (environment.map fun e => (e.1, some e.2)))

/-! ### Gathered fields -/

theorem distinct_gather {find : String → Except OutsideFault (Option Value)} {entries : List (Value × Value)}
    (gathered : gather find = .ok entries) : Value.Distinct entries := by
  refine Fallible.foldlM_invariant (fun before field after distinct ran => ?_) List.Pairwise.nil gathered
  obtain ⟨found, _, same⟩ := Fallible.bind_eq_ok_iff.mp ran
  cases found with
  | none =>
      cases same
      exact distinct
  | some value =>
      cases same
      dsimp only
      rw [Value.put_eq_place]
      exact distinct.place _ _

/-! ### Settings that nothing guides -/

variable {set : List (Value × Value)}

theorem manner_of_unguided (unguided : Unguided set) : Manner.ofSet set = .ok .usual := by
  have nothing (name : String) (member : name ∈ Manner.names) : asked? set name = none := unguided name member
  unfold Manner.ofSet
  simp only [nothing "_env_file" (by decide), nothing "_env_prefix_target" (by decide),
    nothing "_env_prefix" (by decide), nothing "_env_nested_delimiter" (by decide),
    nothing "_env_nested_max_split" (by decide), nothing "_case_sensitive" (by decide),
    nothing "_env_ignore_empty" (by decide), nothing "_env_parse_none_str" (by decide),
    nothing "_env_parse_enums" (by decide), nothing "_env_file_encoding" (by decide),
    nothing "_secrets_dir" (by decide)]
  rfl

theorem fileVariables_usual (files : Files) (environment : Environment) :
    fileVariables .usual files environment = .ok [] := rfl

theorem ofVariableFiles_usual : ofVariableFiles .usual [] = .ok [] := rfl

theorem ofSecrets_usual (files : Files) : ofSecrets .usual files = .ok [] := rfl

theorem config_of_build {files : Files} {environment : Environment} {configuration : Config}
    (unguided : Unguided set) (built : build files environment set = .ok configuration) :
    ∃ outside, environmentEntries environment = .ok outside ∧
      config (Value.merge outside (properFields set)) = .ok configuration := by
  unfold build at built
  split at built
  · cases built
  · have noSources : asked? set "_build_sources" = none := unguided _ (by decide)
    have noWords : asked? set "_cli_parse_args" = none := unguided _ (by decide)
    simp only [noSources, noWords, manner_of_unguided unguided, Fallible.bind_eq_ok_iff,
      Fallible.mapError_eq_ok_iff] at built
    obtain ⟨_, isUsual, _, isFiles, _, _, outside, isOutside, _, isMiddle, _, isLower, read⟩ := built
    cases isUsual
    rw [fileVariables_usual] at isFiles
    cases isFiles
    rw [ofVariableFiles_usual] at isMiddle
    cases isMiddle
    rw [ofSecrets_usual] at isLower
    cases isLower
    have alone : Value.merge (Value.merge [] []) outside = outside := Value.merge_nil (distinct_gather isOutside)
    rw [alone] at read
    exact ⟨outside, isOutside, read⟩

/-! ### Files and variables -/

/-- Where a field is read when the files hand entries over and variables set others: the files decide, then
the variables, and else the usual value stands. -/
theorem read_of_config {outside handed : List (Value × Value)} {configuration : Config}
    (tidy : Value.Tidy (.dict handed)) (read : config (Value.merge outside handed) = .ok configuration)
    {leaf : Leaf Config} (member : leaf ∈ leaves) :
    match Value.at? handed leaf.place, Value.at? outside leaf.place with
    | some other, below => leaf.read (Value.laid below other) = .passed (leaf.get configuration)
    | none, some value => leaf.read value = .passed (leaf.get configuration)
    | none, none => leaf.get configuration = leaf.get .default := by
  have holds := leaves_of_config read leaf member
  have merged := Value.at?_merge tidy holds.passes
  split
  · rename_i other isHanded
    rw [isHanded] at merged
    exact holds.set _ merged
  · rename_i value isHanded isOutside
    rw [isHanded, isOutside] at merged
    exact holds.set _ merged
  · rename_i isHanded isOutside
    rw [isHanded, isOutside] at merged
    exact holds.unset merged

variable {files : Files} {environment : Environment} {path : Path} {network : Option String}
  {configuration : Config}

/-- A field that a variable of the environment sets has the value of the variable exactly if the files have
nothing at its place, or what they have there makes it read the same. -/
theorem variable_decides_iff (made : ofFile files environment path (network.map .text) = .ok configuration) :
    ∃ given, fileEntries files path network = .ok given ∧
      (Unguided given → ∃ outside, environmentEntries environment = .ok outside ∧
        ∀ leaf ∈ leaves, ∀ value, Value.at? outside leaf.place = some value →
          (leaf.read value = .passed (leaf.get configuration) ↔
            ∀ other, Value.at? (properFields given) leaf.place = some other →
              leaf.read (Value.mergeAt value other) = leaf.read value)) := by
  obtain ⟨given, isGiven, built⟩ := build_of_ofFile made
  refine ⟨given, isGiven, fun unguided => ?_⟩
  obtain ⟨outside, isOutside, read⟩ := config_of_build unguided built
  refine ⟨outside, isOutside, fun leaf member value isValue => ?_⟩
  have decided := read_of_config (tidy_properFields (tidy_fileEntries isGiven)) read member
  rw [isValue] at decided
  cases isHanded : Value.at? (properFields given) leaf.place with
  | none =>
      rw [isHanded] at decided
      exact iff_of_true decided fun _ impossible => (by cases impossible)
  | some other =>
      rw [isHanded] at decided
      change leaf.read (Value.mergeAt value other) = _ at decided
      constructor
      · intro follows another same
        cases same
        rw [decided, follows]
      · intro alike
        rw [← alike other rfl, decided]

def withFile (text : String) : Files :=
  ⟨["work"], [(["work", "default.yaml"], .file text.toUTF8.toList)]⟩

def networkLeaf : Leaf Config :=
  ⟨Checkpoint.Network, ["network"], Settings.network, (·.network)⟩

theorem networkLeaf_mem : networkLeaf ∈ leaves := List.mem_cons_self

theorem variable_reads_stagenet :
    ∃ outside, environmentEntries [("PINCHAIN_NETWORK", "stagenet")] = .ok outside ∧
      ∃ value, Value.at? outside ["network"] = some value ∧ Settings.network value = .passed .stagenet := by
  have any : (environmentEntries [("PINCHAIN_NETWORK", "stagenet")]).toOption.any (fun outside =>
      (Value.at? outside ["network"]).any fun value =>
        ((Settings.network value).answer "Config").toOption.any (· = .stagenet)) = true := by decide +kernel
  obtain ⟨outside, isOutside, any⟩ := Fallible.exists_ok_of_any any
  obtain ⟨value, isValue, any⟩ := (Option.any_eq_true _ _).mp any
  obtain ⟨found, isFound, same⟩ := Fallible.exists_ok_of_any any
  rw [Checked.answer_eq_ok_iff, of_decide_eq_true same] at isFound
  exact ⟨outside, isOutside, value, isValue, isFound⟩

theorem eq_text_of_any {found : Option Value} {name : String}
    (any : found.any (·.sameKey (.text name)) = true) : found = some (.text name) := by
  obtain ⟨value, isFound, same⟩ := (Option.any_eq_true _ _).mp any
  rw [isFound, Value.sameKey_text_iff.mp same]

def jsonLeaf : Leaf Config :=
  ⟨Bool, ["logging", "json_output"], (.single ·.asBool), (·.logging.json)⟩

theorem jsonLeaf_mem : jsonLeaf ∈ leaves :=
  List.mem_append_right _ (List.mem_cons_of_mem _ List.mem_cons_self)

/-- A file that sets a directory, and the form of the journal by another word than the variable. -/
def alikeFile : String :=
  "\"data_dir\": \"srv\"\n\"logging\":\n  \"json_output\": \"yes\"\n"

theorem variable_decides_where_file_reads_alike :
    ∃ configuration outside,
      ofFile (withFile alikeFile) [("PINCHAIN_LOGGING__JSON_OUTPUT", "true")] (Path.ofText "default.yaml") none =
        .ok configuration ∧
      configuration.dataDir = Path.ofText "srv" ∧
      environmentEntries [("PINCHAIN_LOGGING__JSON_OUTPUT", "true")] = .ok outside ∧
      Value.at? outside jsonLeaf.place = some (.text "true") ∧
      jsonLeaf.read (.text "true") = .passed configuration.logging.json := by
  have any : (ofFile (withFile alikeFile) [("PINCHAIN_LOGGING__JSON_OUTPUT", "true")] (Path.ofText "default.yaml")
      ((none : Option String).map .text)).toOption.any (·.dataDir = Path.ofText "srv") = true := by decide +kernel
  obtain ⟨configuration, made, isElsewhere⟩ := Fallible.exists_ok_of_any any
  have handed : (fileEntries (withFile alikeFile) (Path.ofText "default.yaml") none).toOption.any (fun given =>
      (Manner.names.all fun name => (asked? given name).isNone) &&
        (Value.at? (properFields given) jsonLeaf.place).any (·.sameKey (.text "yes"))) = true := by decide +kernel
  obtain ⟨given, isGiven, handed⟩ := Fallible.exists_ok_of_any handed
  obtain ⟨unasked, isYes⟩ := (Bool.and_eq_true _ _).mp handed
  have set : (environmentEntries [("PINCHAIN_LOGGING__JSON_OUTPUT", "true")]).toOption.any (fun outside =>
      (Value.at? outside jsonLeaf.place).any (·.sameKey (.text "true"))) = true := by decide +kernel
  obtain ⟨outside, isOutside, isTrue⟩ := Fallible.exists_ok_of_any set
  obtain ⟨_, sameGiven, decides⟩ := variable_decides_iff made
  rw [isGiven] at sameGiven
  cases sameGiven
  obtain ⟨_, sameOutside, decides⟩ := decides fun name member =>
    Option.isNone_iff_eq_none.mp (List.all_eq_true.mp unasked name member)
  rw [isOutside] at sameOutside
  cases sameOutside
  have follows := (decides jsonLeaf jsonLeaf_mem _ (eq_text_of_any isTrue)).mpr fun other isOther => by
    rw [eq_text_of_any isYes] at isOther
    cases isOther
    rfl
  exact ⟨configuration, outside, made, of_decide_eq_true isElsewhere, isOutside, eq_text_of_any isTrue, follows⟩

theorem file_outweighs_variable :
    ∃ configuration outside,
      ofFile (withFile "\"network\": \"testnet\"\n") [("PINCHAIN_NETWORK", "stagenet")]
        (Path.ofText "default.yaml") none = .ok configuration ∧
      environmentEntries [("PINCHAIN_NETWORK", "stagenet")] = .ok outside ∧
      ∃ leaf ∈ leaves, ∃ value, Value.at? outside leaf.place = some value ∧
        leaf.read value ≠ .passed (leaf.get configuration) := by
  have any : (ofFile (withFile "\"network\": \"testnet\"\n") [("PINCHAIN_NETWORK", "stagenet")]
      (Path.ofText "default.yaml") none).toOption.any (·.network = .testnet) = true := by decide +kernel
  obtain ⟨configuration, made, isTestnet⟩ := Fallible.exists_ok_of_any any
  obtain ⟨outside, isOutside, value, isValue, reads⟩ := variable_reads_stagenet
  refine ⟨configuration, outside, made, isOutside, networkLeaf, networkLeaf_mem, value, isValue, fun follows => ?_⟩
  have same : Checkpoint.Network.stagenet = configuration.network :=
    Checked.passed.inj (reads.symm.trans follows)
  rw [of_decide_eq_true isTestnet] at same
  cases same

end ReorgGuard.Settings
