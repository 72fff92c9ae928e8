import ReorgGuard.Proofs.Build.HashfileLoad
import ReorgGuard.Proofs.Settings.BadVariables
import ReorgGuard.Proofs.Settings.RaggedLevel

/-!
What a configuration file is answered with.

A configuration file should lead to a configuration or be refused, whatever it holds.  Not everything that goes
wrong is refused, though: a file that is no text, a network that cannot be written or has too long a name, and
whatever goes wrong while settings are gathered that do not merely fail to fit.
-/

namespace ReorgGuard.Settings

open ReorgGuard.Fallible

/-! ### Where an error escapes -/

def SettingsError.IsInvalid (error : SettingsError) : Prop :=
  ∃ invalid, error = .invalid invalid

def ResolveError.IsRefusal (error : ResolveError) : Prop :=
  ∃ refusal, error = .refused refusal

/-- The content of a file is no text, or one that stops its reader. -/
inductive Unreadable (octets : List UInt8) : Prop
  | noText (isNoText : ¬∃ text, Text.toUtf8 text = octets) : Unreadable octets
  | broken {text : String} {breakdown : Breakdown} (isText : Files.textOf? octets = some text)
      (stops : Yaml.read text = .error (.broken breakdown)) : Unreadable octets

def Mapping.asked (found : Mapping) (network : Option Value) : Mapping :=
  network.elim found (found.set "network")

/-- An error that is no refusal ends the work on a configuration file. -/
inductive BreaksOff (files : Files) (environment : Environment) (path : Path) (network : Option Value) : Prop
  | unreadable {octets : List UInt8} (isFile : files.find path = .file octets) (unreadable : Unreadable octets) :
      BreaksOff files environment path network
  | unwritten {found : Mapping} (read : mapping files path = .ok found)
      (unwritten : (found.asked network).textAt "network" = some none) : BreaksOff files environment path network
  | tooLong {found : Mapping} {name : String} (read : mapping files path = .ok found)
      (named : networkName (found.asked network) = .ok name)
      (tooLong : files.find (networkFile path name) = .nameTooLong) : BreaksOff files environment path network
  | unreadableBelow {found : Mapping} {name : String} {octets : List UInt8} (read : mapping files path = .ok found)
      (named : networkName (found.asked network) = .ok name)
      (isFile : files.find (networkFile path name) = .file octets) (unreadable : Unreadable octets) :
      BreaksOff files environment path network
  | tooDeep {found general : Mapping} {name : String} (read : mapping files path = .ok found)
      (named : networkName (found.asked network) = .ok name)
      (readBelow : mapping files (networkFile path name) = .ok general)
      (meets : Value.meetsDown chainLimit general.entries (found.asked network).entries = true) :
      BreaksOff files environment path network
  | ungathered {found : Mapping} {entries : List (Value × Value)} (read : mapping files path = .ok found)
      (isLayered : layered files path (found.asked network) = .ok entries)
      (ungathered : Escapes SettingsError.IsInvalid (build files environment (withDirectory path entries))) :
      BreaksOff files environment path network

/-! ### Settings -/

variable {files : Files} {environment : Environment} {set : List (Value × Value)}

/-- Where nothing guides them the settings come from the variables of the environment and from what is set. -/
theorem build_of_unguided (unguided : Unguided set) (named : (set.any fun e => !isName e.1) = false) :
    build files environment set = ((environmentEntries environment).mapError .outside >>= fun outside =>
      (config (Value.merge (Value.merge [] outside) (properFields set))).mapError .ofMisfit) := by
  have noSources : asked? set "_build_sources" = none := unguided _ (by decide)
  have noWords : asked? set "_cli_parse_args" = none := unguided _ (by decide)
  unfold build
  rw [if_neg (Bool.eq_false_iff.mp named)]
  simp only [noSources, noWords, manner_of_unguided unguided]
  rfl

theorem distinct_environmentEntries {outside : List (Value × Value)}
    (gathered : environmentEntries environment = .ok outside) : Value.Distinct outside := by
  unfold environmentEntries ofVariables at gathered
  exact distinct_gather gathered

/-- The level of the journal that what is set and the variables come to holds half of a surrogate pair. -/
def RaggedSettings (environment : Environment) (set : List (Value × Value)) : Prop :=
  ∃ outside, environmentEntries environment = .ok outside ∧ RaggedLevel (Value.merge outside (properFields set))

theorem escapes_build_iff (unguided : Unguided set) :
    Escapes SettingsError.IsInvalid (build files environment set) ↔
      (∃ e ∈ set, isName e.1 = false) ∨ BadVariable environment ∨ RaggedSettings environment set := by
  cases named : set.any fun e => !isName e.1 with
  | true =>
      have unfit : build files environment set = .error (.broken .unfitKind) := if_pos named
      rw [List.any_eq_true] at named
      obtain ⟨e, member, isUnnamed⟩ := named
      rw [unfit, escapes_error_iff]
      refine iff_of_true (fun isInvalid => ?_) (Or.inl ⟨e, member, by simpa using isUnnamed⟩)
      obtain ⟨_, impossible⟩ := isInvalid
      cases impossible
  | false =>
      have allNamed : ¬∃ e ∈ set, isName e.1 = false := by
        intro unnamed
        obtain ⟨e, member, isUnnamed⟩ := unnamed
        have isName := List.any_eq_false.mp named e member
        rw [isUnnamed] at isName
        exact isName rfl
      have notInvalid (fault : OutsideFault) : ¬SettingsError.IsInvalid (.outside fault) := by
        intro isInvalid
        obtain ⟨_, impossible⟩ := isInvalid
        cases impossible
      rw [build_of_unguided unguided named, escapes_bind_iff, escapes_mapError_iff notInvalid,
        fails_environmentEntries_iff, or_iff_right allNamed]
      simp only [Fallible.mapError_eq_ok_iff]
      refine or_congr_right (exists_congr fun outside => and_congr_right fun isOutside => ?_)
      rw [Value.merge_nil (distinct_environmentEntries isOutside), ← config_broken_iff]
      cases config (Value.merge outside (properFields set)) with
      | ok configuration => simp [Except.mapError, not_escapes_ok]
      | error misfit =>
          cases misfit <;> simp [Except.mapError, escapes_error_iff, SettingsError.ofMisfit, SettingsError.IsInvalid]

example : RaggedSettings [("PINCHAIN_LOGGING", "\x7b\"level\": \"\\ud800\"\x7d")] [] := by
  have any : (environmentEntries [("PINCHAIN_LOGGING", "\x7b\"level\": \"\\ud800\"\x7d")]).toOption.any
      (fun outside => (Value.at? (Value.merge outside (properFields [])) ["logging", "level"]).any fun value =>
        match value with
        | .ragged _ => true
        | _ => false) = true := by decide +kernel
  obtain ⟨outside, isOutside, any⟩ := exists_ok_of_any any
  obtain ⟨value, isValue, isRagged⟩ := (Option.any_eq_true _ _).mp any
  cases value with
  | ragged s => exact ⟨outside, isOutside, s, isValue⟩
  | _ => cases isRagged

/-! ### Files -/

variable {path : Path} {network : Option Value}

theorem escapes_mappingOf_iff (path : Path) (text : String) :
    Escapes ResolveError.IsRefusal (mappingOf path text) ↔
      ∃ breakdown, Yaml.read text = .error (.broken breakdown) := by
  unfold mappingOf
  cases Yaml.read text with
  | error fault => cases fault <;> simp [escapes_error_iff, ResolveError.IsRefusal]
  | ok document =>
      dsimp only
      split
      · simp [not_escapes_ok]
      · split <;> simp [not_escapes_ok, escapes_error_iff, ResolveError.IsRefusal]

theorem escapes_mapping_iff : Escapes ResolveError.IsRefusal (mapping files path) ↔
    files.find path = .nameTooLong ∨ ∃ octets, files.find path = .file octets ∧ Unreadable octets := by
  unfold mapping
  cases files.find path with
  | file octets =>
      cases isText : Files.textOf? octets with
      | none =>
          have unreadable : Unreadable octets := .noText (Files.textOf?_eq_none_iff.mp isText)
          simp [isText, unreadable, escapes_error_iff, ResolveError.IsRefusal]
      | some text =>
          have unreadable : Unreadable octets ↔ ∃ breakdown, Yaml.read text = .error (.broken breakdown) := by
            constructor
            · intro unreadable
              cases unreadable with
              | noText isNoText => cases isText.symm.trans (Files.textOf?_eq_none_iff.mpr isNoText)
              | broken isOther stops =>
                  cases isText.symm.trans isOther
                  exact ⟨_, stops⟩
            · intro stops
              obtain ⟨_, stops⟩ := stops
              exact .broken isText stops
          simp [isText, unreadable, escapes_mappingOf_iff]
  | _ => simp [escapes_error_iff, ResolveError.IsRefusal]

theorem escapes_networkName_iff (m : Mapping) :
    Escapes ResolveError.IsRefusal (networkName m) ↔ m.textAt "network" = some none := by
  unfold networkName
  rcases m.textAt "network" with _ | _ | text
  · simp [not_escapes_ok]
  · simp [escapes_error_iff, ResolveError.IsRefusal]
  · dsimp only
    split <;> simp [not_escapes_ok]

def BreaksBelow (files : Files) (path : Path) (m : Mapping) (name : String) : Prop :=
  files.find (networkFile path name) = .nameTooLong ∨
    (∃ octets, files.find (networkFile path name) = .file octets ∧ Unreadable octets) ∨
    ∃ general, mapping files (networkFile path name) = .ok general ∧
      Value.meetsDown chainLimit general.entries m.entries = true

theorem escapes_layered_iff (m : Mapping) : Escapes ResolveError.IsRefusal (layered files path m) ↔
    m.textAt "network" = some none ∨ ∃ name, networkName m = .ok name ∧ BreaksBelow files path m name := by
  unfold layered
  rw [escapes_bind_iff, escapes_networkName_iff]
  refine or_congr_right (exists_congr fun name => and_congr_right fun _ => ?_)
  unfold BreaksBelow
  cases isBelow : files.find (networkFile path name) with
  | file octets =>
      have deep (general : Mapping) : Escapes ResolveError.IsRefusal
          (if Value.meetsDown chainLimit general.entries m.entries then .error (.broken .tooDeep)
            else .ok (Value.merge general.entries m.entries) : Except ResolveError (List (Value × Value))) ↔
          Value.meetsDown chainLimit general.entries m.entries = true := by
        split <;> simp_all [escapes_error_iff, not_escapes_ok, ResolveError.IsRefusal]
      simp [isThere, isBelow, escapes_bind_iff, escapes_mapping_iff, not_escapes_ok, deep]
  | nameTooLong => simp [isThere, isBelow, escapes_bind_iff, escapes_error_iff, ResolveError.IsRefusal]
  | _ => simp [isThere, mapping, isBelow, escapes_bind_iff, escapes_error_iff, not_escapes_ok, ResolveError.IsRefusal]

def BreaksBehind (files : Files) (environment : Environment) (path : Path) (m : Mapping) : Prop :=
  m.textAt "network" = some none ∨ (∃ name, networkName m = .ok name ∧ BreaksBelow files path m name) ∨
    ∃ entries, layered files path m = .ok entries ∧
      Escapes SettingsError.IsInvalid (build files environment (withDirectory path entries))

theorem breaksOff_iff {octets : List UInt8} (isFile : files.find path = .file octets) :
    BreaksOff files environment path network ↔ Unreadable octets ∨
      ∃ found, mapping files path = .ok found ∧ BreaksBehind files environment path (found.asked network) := by
  constructor
  · intro broken
    cases broken with
    | unreadable isOther unreadable =>
        cases isFile.symm.trans isOther
        exact Or.inl unreadable
    | unwritten read unwritten => exact Or.inr ⟨_, read, Or.inl unwritten⟩
    | tooLong read named tooLong => exact Or.inr ⟨_, read, Or.inr (Or.inl ⟨_, named, Or.inl tooLong⟩)⟩
    | unreadableBelow read named isBelow unreadable =>
        exact Or.inr ⟨_, read, Or.inr (Or.inl ⟨_, named, Or.inr (Or.inl ⟨_, isBelow, unreadable⟩)⟩)⟩
    | tooDeep read named readBelow meets =>
        exact Or.inr ⟨_, read, Or.inr (Or.inl ⟨_, named, Or.inr (Or.inr ⟨_, readBelow, meets⟩)⟩)⟩
    | ungathered read isLayered ungathered =>
        exact Or.inr ⟨_, read, Or.inr (Or.inr ⟨_, isLayered, ungathered⟩)⟩
  · intro broken
    rcases broken with unreadable | ⟨found, read, unwritten | ⟨name, named, below⟩ | ⟨entries, isLayered, ungathered⟩⟩
    · exact .unreadable isFile unreadable
    · exact .unwritten read unwritten
    · rcases below with tooLong | ⟨_, isBelow, unreadable⟩ | ⟨_, readBelow, meets⟩
      · exact .tooLong read named tooLong
      · exact .unreadableBelow read named isBelow unreadable
      · exact .tooDeep read named readBelow meets
    · exact .ungathered read isLayered ungathered

theorem escapes_ofFile_iff {octets : List UInt8} (isFile : files.find path = .file octets) :
    Escapes ResolveError.IsRefusal (ofFile files environment path network) ↔
      BreaksOff files environment path network := by
  rw [breaksOff_iff isFile]
  unfold ofFile isThere
  rw [isFile]
  -- The file is there, so that the stages behind are left.
  change Escapes _ (mapping files path >>= fun found => layered files path (found.asked network) >>= _) ↔ _
  rw [escapes_bind_iff, escapes_mapping_iff]
  refine or_congr ?_ (exists_congr fun found => and_congr_right fun _ => ?_)
  · simp [isFile]
  · rw [escapes_bind_iff, escapes_layered_iff, or_assoc]
    refine or_congr_right (or_congr_right (exists_congr fun entries => and_congr_right fun _ => ?_))
    cases build files environment (withDirectory path entries) with
    | ok configuration => simp [not_escapes_ok]
    | error error => cases error <;> simp [escapes_error_iff, ResolveError.IsRefusal, SettingsError.IsInvalid]

/-- A configuration file that exists leads to a configuration or is refused exactly if no other error ends the
work on it.  Where nothing that is set guides how settings are gathered, gathering them ends in such an error
exactly if something that is set has no name, a variable is not the JSON text that it has to be, or the level of
the journal holds half of a surrogate pair. -/
theorem config_file_answers_iff {octets : List UInt8} (isFile : files.find path = .file octets) :
    (((∃ configuration, ofFile files environment path network = .ok configuration) ∨
        ∃ refusal, ofFile files environment path network = .error (.refused refusal)) ↔
      ¬BreaksOff files environment path network) ∧
    ∀ given, Unguided given →
      (Escapes SettingsError.IsInvalid (build files environment given) ↔
        (∃ e ∈ given, isName e.1 = false) ∨ BadVariable environment ∨ RaggedSettings environment given) := by
  refine ⟨?_, fun given unguided => escapes_build_iff unguided⟩
  rw [← escapes_ofFile_iff isFile]
  cases ofFile files environment path network with
  | ok configuration => exact iff_of_true (Or.inl ⟨configuration, rfl⟩) (not_escapes_ok configuration)
  | error error =>
      rw [escapes_error_iff, not_not]
      simp [ResolveError.IsRefusal]

theorem find_withFile (text : String) :
    (withFile text).find (Path.ofText "default.yaml") = .file text.toUTF8.toList := rfl

theorem testnet_file_answered :
    let files := withFile "\"network\": \"testnet\"\n"
    let path := Path.ofText "default.yaml"
    files.find path = .file "\"network\": \"testnet\"\n".toUTF8.toList ∧ ¬BreaksOff files [] path none ∧
      Unguided [] ∧ Escapes SettingsError.IsInvalid (build files [("PINCHAIN_FEED", "junk")] []) := by
  intro files path
  have isFile : files.find path = .file "\"network\": \"testnet\"\n".toUTF8.toList := find_withFile _
  have any : (ofFile files [] path none).toOption.any (fun _ => true) = true := by decide +kernel
  obtain ⟨configuration, made, _⟩ := exists_ok_of_any any
  have unguided : Unguided [] := fun _ _ => rfl
  have noJson : Json.read .message "junk" = .error .malformed := rfl
  have bad : BadVariable [("PINCHAIN_FEED", "junk")] := .field (Or.inl rfl) rfl noJson
  have answered := (config_file_answers_iff isFile).1.mp (Or.inl ⟨configuration, made⟩)
  have gathered := (@config_file_answers_iff files [("PINCHAIN_FEED", "junk")] path none _ isFile).2 [] unguided
  exact ⟨isFile, answered, unguided, gathered.mpr (Or.inr (Or.inl bad))⟩

def strayFile : Files :=
  ⟨["work"], [(["work", "default.yaml"], .file [0xff])]⟩

theorem breaksOff_strayFile : BreaksOff strayFile [] (Path.ofText "default.yaml") none := by
  have noText : Files.textOf? [0xff] = none := by decide +kernel
  have isFile : strayFile.find (Path.ofText "default.yaml") = .file [0xff] := rfl
  exact .unreadable isFile (.noText (Files.textOf?_eq_none_iff.mp noText))

theorem stray_file_not_refused :
    ¬∀ (files : Files) (environment : Environment) (path : Path) (network : Option Value) (octets : List UInt8),
      files.find path = .file octets →
      (∃ configuration, ofFile files environment path network = .ok configuration) ∨
        ∃ refusal, ofFile files environment path network = .error (.refused refusal) := by
  intro claim
  have isFile : strayFile.find (Path.ofText "default.yaml") = .file [0xff] := rfl
  obtain ⟨fault, ran, notRefused⟩ := (escapes_ofFile_iff isFile).mpr breaksOff_strayFile
  rcases claim strayFile [] (Path.ofText "default.yaml") none [0xff] isFile with ⟨_, answered⟩ | ⟨refusal, refused⟩
  · cases answered.symm.trans ran
  · cases refused.symm.trans ran
    exact notRefused ⟨refusal, rfl⟩

end ReorgGuard.Settings
