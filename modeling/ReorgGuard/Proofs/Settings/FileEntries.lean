import ReorgGuard.Proofs.Yaml.Values
import ReorgGuard.Proofs.Fallible
import ReorgGuard.Settings.File

/-!
What a configuration file hands over to the settings.

The mapping of the file, with the network that is asked for, is laid over that of a network's file and gets a
directory.  In each of these steps every key is there once, at every depth, and what is written for a name
agrees with what stands there.
-/

namespace ReorgGuard.Settings

/-! ### Mappings of files -/

/-- The mapping has each key once, and what it writes for its names agrees with it. -/
structure Mapping.Sound (m : Mapping) : Prop where
  tidy : Value.Tidy (.dict m.entries)
  written : Yaml.Written m.entries m.textAt

theorem sound_nothing : Mapping.Sound ⟨[], fun _ => none⟩ where
  tidy := Value.tidy_dict_iff.mpr ⟨.nil, List.forall_mem_nil _⟩
  written := ⟨fun _ => iff_of_true rfl rfl, fun _ _ impossible => (by cases impossible)⟩

theorem whole_of_read {text : String} {document : Yaml.Document} (made : Yaml.read text = .ok document) :
    document.Whole := by
  unfold Yaml.read at made
  obtain ⟨_, _, isDocument⟩ := Fallible.bind_eq_ok_iff.mp made
  exact Yaml.whole_document isDocument

theorem sound_mappingOf {path : Path} {text : String} {m : Mapping} (found : mappingOf path text = .ok m) :
    m.Sound := by
  unfold mappingOf at found
  split at found
  · cases found
  · cases found
  · rename_i document made
    have whole := whole_of_read made
    split at found
    · rename_i entries isDict
      cases found
      refine ⟨?_, Yaml.written_fieldText? whole isDict⟩
      rw [← isDict]
      exact Yaml.Document.tidy_value whole
    · split at found
      · cases found
        exact sound_nothing
      · cases found

variable {files : Files} {path : Path} {m : Mapping} {entries : List (Value × Value)}

theorem sound_mapping (found : mapping files path = .ok m) : m.Sound := by
  unfold mapping at found
  split at found
  · cases found
  · cases found
  · cases found
  · cases found
  · split at found
    · cases found
    · exact sound_mappingOf found

theorem Mapping.Sound.set (sound : m.Sound) (name : String) {value : Value} (plain : value.IsPlain) :
    (m.set name value).Sound where
  tidy := Value.tidy_put sound.tidy (Yaml.tidy_of_isPlain plain)
  written := by
    refine ⟨fun asked => ?_, fun asked other found isPlain => ?_⟩
    · by_cases same : asked = name
      · subst same
        simp [Mapping.set, Value.field?_put_self]
      · have distinct : Value.text name ≠ .text asked := fun isText => same (Value.text.inj isText).symm
        simp only [Mapping.set, if_neg same, Value.field?_put_of_ne distinct]
        exact sound.written.none_iff asked
    · by_cases same : asked = name
      · subst same
        rw [Mapping.set, Value.field?_put_self] at found
        cases found
        exact if_pos rfl
      · have distinct : Value.text name ≠ .text asked := fun isText => same (Value.text.inj isText).symm
        rw [Mapping.set, Value.field?_put_of_ne distinct] at found
        exact (if_neg same).trans (sound.written.plain asked other found isPlain)

/-! ### From the file to the settings -/

/-- The mapping of a configuration file, in which a network that is asked for goes before its own. -/
def ownMapping (files : Files) (path : Path) (network : Option String) : Except ResolveError Mapping := do
  let found ← mapping files path
  .ok (network.elim found fun name => found.set "network" (.text name))

/-- What a configuration file hands over to the settings. -/
def fileEntries (files : Files) (path : Path) (network : Option String) :
    Except ResolveError (List (Value × Value)) := do
  let own ← ownMapping files path network
  let entries ← layered files path own
  .ok (withDirectory path entries)

theorem sound_ownMapping {network : Option String} {own : Mapping}
    (found : ownMapping files path network = .ok own) : own.Sound := by
  obtain ⟨m, isMapping, same⟩ := Fallible.bind_eq_ok_iff.mp found
  cases same
  cases network with
  | none => exact sound_mapping isMapping
  | some name => exact (sound_mapping isMapping).set "network" trivial

/-- The entries are those of the mapping itself, or laid over those of the file of its network. -/
theorem layered_cases (made : layered files path m = .ok entries) :
    ∃ name, networkName m = .ok name ∧
      ((isThere files (networkFile path name) = .ok false ∧ entries = m.entries) ∨
        isThere files (networkFile path name) = .ok true ∧
          ∃ general, mapping files (networkFile path name) = .ok general ∧
            entries = Value.merge general.entries m.entries) := by
  unfold layered at made
  obtain ⟨name, isName, made⟩ := Fallible.bind_eq_ok_iff.mp made
  obtain ⟨there, found, made⟩ := Fallible.bind_eq_ok_iff.mp made
  refine ⟨name, isName, ?_⟩
  cases there with
  | false =>
      cases made
      exact Or.inl ⟨found, rfl⟩
  | true =>
      obtain ⟨general, isGeneral, made⟩ := Fallible.bind_eq_ok_iff.mp made
      split at made
      · cases made
      · cases made
        exact Or.inr ⟨found, general, isGeneral, rfl⟩

theorem tidy_layered (sound : m.Sound) (made : layered files path m = .ok entries) :
    Value.Tidy (.dict entries) := by
  obtain ⟨_, _, ⟨_, rfl⟩ | ⟨_, general, isGeneral, rfl⟩⟩ := layered_cases made
  · exact sound.tidy
  · exact Value.tidy_merge (sound_mapping isGeneral).tidy m.entries sound.tidy

theorem tidy_withDirectory (path : Path) (tidy : Value.Tidy (.dict entries)) :
    Value.Tidy (.dict (withDirectory path entries)) := by
  unfold withDirectory
  split
  · exact tidy
  · exact Value.tidy_put tidy trivial

theorem field?_withDirectory (path : Path) (entries : List (Value × Value)) {name : String}
    (other : name ≠ "config_dir") :
    Value.field? (withDirectory path entries) name = Value.field? entries name := by
  unfold withDirectory
  split
  · rfl
  · exact Value.field?_put_of_ne fun same => other (Value.text.inj same).symm

theorem tidy_fileEntries {network : Option String} (made : fileEntries files path network = .ok entries) :
    Value.Tidy (.dict entries) := by
  obtain ⟨own, isOwn, made⟩ := Fallible.bind_eq_ok_iff.mp made
  obtain ⟨merged, isMerged, same⟩ := Fallible.bind_eq_ok_iff.mp made
  cases same
  exact tidy_withDirectory path (tidy_layered (sound_ownMapping isOwn) isMerged)

theorem build_of_ofFile {environment : Environment} {network : Option String} {configuration : Config}
    (made : ofFile files environment path (network.map .text) = .ok configuration) :
    ∃ given, fileEntries files path network = .ok given ∧ build files environment given = .ok configuration := by
  unfold ofFile at made
  obtain ⟨there, _, made⟩ := Fallible.bind_eq_ok_iff.mp made
  cases there with
  | false => cases made
  | true =>
      obtain ⟨m, isMapping, made⟩ := Fallible.bind_eq_ok_iff.mp made
      obtain ⟨entries, isLayered, made⟩ := Fallible.bind_eq_ok_iff.mp made
      have isOwn : ownMapping files path network =
          .ok ((network.map Value.text).elim m (m.set "network")) := by
        refine Fallible.bind_eq_ok_iff.mpr ⟨m, isMapping, ?_⟩
        cases network <;> rfl
      refine ⟨withDirectory path entries, ?_, ?_⟩
      · exact Fallible.bind_eq_ok_iff.mpr ⟨_, isOwn, Fallible.bind_eq_ok_iff.mpr ⟨entries, isLayered, rfl⟩⟩
      · split at made
        · rename_i built
          cases made
          exact built
        · cases made
        · cases made

end ReorgGuard.Settings
