import ReorgGuard.Proofs.Value.Merging
import ReorgGuard.Proofs.Fallible
import ReorgGuard.Settings.Config

/-!
The fields of a configuration by their places.

A field has a place, a chain of names, and is read from the value there by a check of its own.  A
configuration that is read from entries has in each field what its check reads from the value at its place,
or the usual value if there is none.
-/

namespace ReorgGuard.Settings

namespace Checked

variable {α β : Type}

theorem seq_eq_passed_iff {f : Checked (α → β)} {x : Checked α} {answer : β} :
    f <*> x = .passed answer ↔ ∃ g found, f = .passed g ∧ x = .passed found ∧ g found = answer := by
  change also f x = .passed answer ↔ _
  cases f <;> cases x <;> simp [also]

theorem map_eq_passed_iff {f : α → β} {x : Checked α} {answer : β} :
    f <$> x = .passed answer ↔ ∃ found, x = .passed found ∧ f found = answer := by
  change also (.passed f) x = .passed answer ↔ _
  cases x <;> simp [also]

theorem under_eq_passed_iff {name : String} {x : Checked α} {answer : α} :
    under name x = .passed answer ↔ x = .passed answer := by
  cases x <;> simp [under]

theorem answer_eq_ok_iff {model : String} {x : Checked α} {answer : α} :
    x.answer model = .ok answer ↔ x = .passed answer := by
  cases x <;> simp [Checked.answer]

end Checked

/-- A field of a whole: its place, how it is read there, and where the whole holds it. -/
structure Leaf (Whole : Type) where
  Kind : Type
  place : List String
  read : Value → Checked Kind
  get : Whole → Kind

def Leaf.within {Whole Outer : Type} (name : String) (part : Outer → Whole) (leaf : Leaf Whole) : Leaf Outer :=
  ⟨leaf.Kind, name :: leaf.place, leaf.read, leaf.get ∘ part⟩

def feedLeaves : List (Leaf Feed.Settings) :=
  [⟨Bool, ["enabled"], (.single ·.asBool), (·.enabled)⟩,
    ⟨Bool, ["required"], (.single ·.asBool), (·.required)⟩,
    ⟨List (Checkpoint.Network × List Feed.Link), ["urls"], urls, (·.urls)⟩,
    ⟨Float, ["timeout_s"], (.single ·.asFloat), (·.timeout)⟩,
    ⟨Int, ["max_retries"], retries, (·.maxRetries)⟩,
    ⟨Int, ["max_bytes"], (.single ·.asInt), (·.maxBytes)⟩,
    ⟨Int, ["max_records"], (.single ·.asInt), (·.maxRecords)⟩,
    ⟨Bool, ["allow_private"], (.single ·.asBool), (·.allowPrivate)⟩]

def loggingLeaves : List (Leaf Journal.Output) :=
  [⟨Journal.Level, ["level"], level, (·.level)⟩,
    ⟨Bool, ["json_output"], (.single ·.asBool), (·.json)⟩]

def leaves : List (Leaf Config) :=
  [⟨Checkpoint.Network, ["network"], network, (·.network)⟩,
    ⟨Path, ["data_dir"], path, (·.dataDir)⟩,
    ⟨Path, ["config_dir"], path, (·.configDir)⟩,
    ⟨Option Path, ["checkpoints_file"], path?, (·.checkpointsFile)⟩] ++
    feedLeaves.map (.within "feed" (·.feed)) ++ loggingLeaves.map (.within "logging" (·.logging))

/-- A whole has in a field what is read at its place, or what is usual. -/
structure Leaf.Holds {Whole : Type} (leaf : Leaf Whole) (usual : Whole) (entries : List (Value × Value))
    (whole : Whole) : Prop where
  passes : Value.Passes entries leaf.place
  set : ∀ value, Value.at? entries leaf.place = some value → leaf.read value = .passed (leaf.get whole)
  unset : Value.at? entries leaf.place = none → leaf.get whole = leaf.get usual

variable {entries : List (Value × Value)}

theorem field_eq_passed {α : Type} {name : String} {usual found : α} {check : Value → Checked α}
    (passed : Checked.field entries name usual check = .passed found) :
    (∀ value, Value.field? entries name = some value → check value = .passed found) ∧
      (Value.field? entries name = none → found = usual) := by
  unfold Checked.field at passed
  cases isField : Value.field? entries name with
  | none =>
      rw [isField] at passed
      exact ⟨fun _ impossible => (by cases impossible), fun _ => (Checked.passed.inj passed).symm⟩
  | some value =>
      rw [isField] at passed
      refine ⟨fun other same => ?_, fun impossible => (by cases impossible)⟩
      cases same
      exact Checked.under_eq_passed_iff.mp passed

theorem holds_field {Whole Kind : Type} {name : String} {read : Value → Checked Kind} {get : Whole → Kind}
    {usual whole : Whole} (passed : Checked.field entries name (get usual) read = .passed (get whole)) :
    Leaf.Holds ⟨Kind, [name], read, get⟩ usual entries whole :=
  ⟨trivial, (field_eq_passed passed).1, (field_eq_passed passed).2⟩

theorem leaves_of_feed {value : Value} {settings : Feed.Settings} (passed : feed value = .passed settings) :
    ∃ inner, value = .dict inner ∧ ∀ leaf ∈ feedLeaves, leaf.Holds .default inner settings := by
  unfold feed at passed
  split at passed
  · rename_i inner
    refine ⟨inner, rfl, ?_⟩
    simp only [Checked.seq_eq_passed_iff, Checked.map_eq_passed_iff] at passed
    obtain ⟨_, _, ⟨_, _, ⟨_, _, ⟨_, _, ⟨_, _, ⟨_, _, ⟨_, _, ⟨_, enabled, rfl⟩, required, rfl⟩, urls, rfl⟩,
      timeout, rfl⟩, retries, rfl⟩, bytes, rfl⟩, records, rfl⟩, allowed, rfl⟩ := passed
    simp only [feedLeaves, List.forall_mem_cons, List.not_mem_nil, false_imp_iff, implies_true, and_true]
    exact ⟨holds_field enabled, holds_field required, holds_field urls, holds_field timeout,
      holds_field retries, holds_field bytes, holds_field records, holds_field allowed⟩
  · cases passed

theorem leaves_of_logging {value : Value} {output : Journal.Output} (passed : logging value = .passed output) :
    ∃ inner, value = .dict inner ∧ ∀ leaf ∈ loggingLeaves, leaf.Holds .default inner output := by
  unfold logging at passed
  split at passed
  · rename_i inner
    refine ⟨inner, rfl, ?_⟩
    simp only [Checked.seq_eq_passed_iff, Checked.map_eq_passed_iff] at passed
    obtain ⟨_, _, ⟨_, level, rfl⟩, json, rfl⟩ := passed
    simp only [loggingLeaves, List.forall_mem_cons, List.not_mem_nil, false_imp_iff, implies_true, and_true]
    exact ⟨holds_field level, holds_field json⟩
  · cases passed

theorem Leaf.Holds.within {Whole Outer : Type} {leaf : Leaf Whole} {usual whole : Whole} {part : Outer → Whole}
    {name : String} {inner : List (Value × Value)} {usualOuter outer : Outer}
    (holds : leaf.Holds usual inner whole) (isNamed : leaf.place ≠ [])
    (isField : Value.field? entries name = some (.dict inner)) (isUsual : part usualOuter = usual)
    (isPart : part outer = whole) : (leaf.within name part).Holds usualOuter entries outer := by
  subst isUsual isPart
  obtain ⟨next, rest, isPlace⟩ := List.exists_cons_of_ne_nil isNamed
  have same : Value.at? entries (name :: leaf.place) = Value.at? inner leaf.place := by
    rw [isPlace, Value.at?, isField]
  refine ⟨?_, fun value found => ?_, fun nothing => ?_⟩
  · change Value.Passes entries (name :: leaf.place)
    rw [isPlace]
    intro value found
    rw [isField] at found
    cases found
    refine ⟨inner, rfl, ?_⟩
    rw [← isPlace]
    exact holds.passes
  · exact holds.set value (same.symm.trans found)
  · exact holds.unset (same.symm.trans nothing)

theorem Leaf.holds_within_of_missing {Whole Outer : Type} (leaf : Leaf Whole) {part : Outer → Whole}
    {name : String} {usual outer : Outer} (isNamed : leaf.place ≠ [])
    (missing : Value.field? entries name = none) (same : part outer = part usual) :
    (leaf.within name part).Holds usual entries outer := by
  obtain ⟨next, rest, isPlace⟩ := List.exists_cons_of_ne_nil isNamed
  have nothing : Value.at? entries (name :: leaf.place) = none := by
    rw [isPlace, Value.at?, missing]
  refine ⟨?_, fun value found => ?_, fun _ => congrArg leaf.get same⟩
  · change Value.Passes entries (name :: leaf.place)
    rw [isPlace]
    intro value found
    rw [missing] at found
    cases found
  · cases nothing.symm.trans found

theorem holds_part {Whole Outer : Type} {name : String} {part : Outer → Whole} {usual outer : Outer}
    {check : Value → Checked Whole} {fields : List (Leaf Whole)} (named : ∀ leaf ∈ fields, leaf.place ≠ [])
    (inside : ∀ value found, check value = .passed found →
      ∃ inner, value = .dict inner ∧ ∀ leaf ∈ fields, leaf.Holds (part usual) inner found)
    (passed : Checked.field entries name (part usual) check = .passed (part outer)) :
    ∀ leaf ∈ fields.map (Leaf.within name part), leaf.Holds usual entries outer := by
  obtain ⟨set, unset⟩ := field_eq_passed passed
  intro leaf member
  obtain ⟨field, isField, rfl⟩ := List.mem_map.mp member
  cases found : Value.field? entries name with
  | none => exact field.holds_within_of_missing (named field isField) found (unset found)
  | some value =>
      obtain ⟨inner, rfl, holds⟩ := inside value _ (set value found)
      exact (holds field isField).within (named field isField) found rfl rfl

theorem leaves_of_config {configuration : Config} (read : config entries = .ok configuration) :
    ∀ leaf ∈ leaves, leaf.Holds .default entries configuration := by
  unfold config at read
  rw [Checked.answer_eq_ok_iff] at read
  simp only [Checked.seq_eq_passed_iff, Checked.map_eq_passed_iff] at read
  obtain ⟨_, _, ⟨_, _, rfl⟩, ⟨_, _, ⟨_, _, ⟨_, _, ⟨_, _, ⟨_, _, ⟨_, network, rfl⟩, data, rfl⟩, directory, rfl⟩,
    checkpoints, rfl⟩, feed, rfl⟩, logging, rfl⟩, rfl⟩ := read
  intro leaf member
  simp only [leaves, List.mem_append] at member
  rcases member with (top | inFeed) | inLogging
  · revert leaf
    simp only [List.forall_mem_cons, List.not_mem_nil, false_imp_iff, implies_true, and_true]
    exact ⟨holds_field network, holds_field data, holds_field directory, holds_field checkpoints⟩
  · revert leaf
    exact holds_part (by simp [feedLeaves]) (fun _ _ => leaves_of_feed) feed
  · revert leaf
    exact holds_part (by simp [loggingLeaves]) (fun _ _ => leaves_of_logging) logging

end ReorgGuard.Settings
