import ReorgGuard.Proofs.Settings.Leaves

/-!
Settings whose check breaks off.

A check breaks off where the complaint about a value cannot be put into words.  Of all the fields of a
configuration this can only happen to the level of the journal, and there it does happen, whatever else is at
fault.
-/

namespace ReorgGuard.Settings

/-! ### Checks -/

def Checked.Breaks {α : Type} (x : Checked α) : Prop :=
  ∃ breakdown, x = .broken breakdown

namespace Checked

variable {α β : Type}

theorem not_breaks_passed (value : α) : ¬(passed value).Breaks := nofun

theorem not_breaks_fault (mismatch : Mismatch) : ¬(fault mismatch : Checked α).Breaks := nofun

theorem breaks_seq_iff {f : Checked (α → β)} {x : Checked α} : (f <*> x).Breaks ↔ f.Breaks ∨ x.Breaks := by
  change (also f x).Breaks ↔ _
  cases f <;> cases x <;> simp [also, Breaks]

theorem breaks_map_iff {f : α → β} {x : Checked α} : (f <$> x).Breaks ↔ x.Breaks := by
  change (also (passed f) x).Breaks ↔ _
  cases x <;> simp [also, Breaks]

theorem breaks_under_iff {name : String} {x : Checked α} : (under name x).Breaks ↔ x.Breaks := by
  cases x <;> simp [under, Breaks]

theorem not_breaks_single (read : Except Mismatch α) : ¬(single read).Breaks := by
  cases read <;> exact nofun

theorem not_breaks_orElse (mismatch : Mismatch) (found : Option α) : ¬(orElse mismatch found).Breaks := by
  cases found <;> exact nofun

theorem not_breaks_all {check : Nat → α → Checked β} (never : ∀ i item, ¬(check i item).Breaks) (start : Nat)
    (items : List α) : ¬(all check start items).Breaks := by
  induction items generalizing start with
  | nil => exact not_breaks_passed []
  | cons item rest ih =>
      rw [all, breaks_seq_iff, breaks_map_iff]
      exact not_or.mpr ⟨never start item, ih (start + 1)⟩

theorem breaks_field_iff {entries : List (Value × Value)} {name : String} {usual : α} {check : Value → Checked α} :
    (field entries name usual check).Breaks ↔
      ∃ value, Value.field? entries name = some value ∧ (check value).Breaks := by
  unfold field
  cases Value.field? entries name with
  | none => simp [not_breaks_passed]
  | some value => simp [breaks_under_iff]

theorem not_breaks_field {entries : List (Value × Value)} {name : String} {usual : α} {check : Value → Checked α}
    (never : ∀ value, ¬(check value).Breaks) : ¬(field entries name usual check).Breaks := by
  intro breaks
  obtain ⟨value, _, breaks⟩ := breaks_field_iff.mp breaks
  exact never value breaks

theorem answer_broken_iff {model : String} {x : Checked α} :
    (∃ breakdown, x.answer model = .error (.broken breakdown)) ↔ x.Breaks := by
  cases x <;> simp [Checked.answer, Breaks]

end Checked

/-! ### Fields -/

open Checked

theorem not_breaks_network (value : Value) : ¬(Settings.network value).Breaks := by
  unfold Settings.network
  split
  · exact not_breaks_orElse _ _
  · exact not_breaks_orElse _ _
  · exact not_breaks_fault _
  · exact not_breaks_fault _

theorem not_breaks_path (value : Value) : ¬(Settings.path value).Breaks := by
  unfold Settings.path
  split
  · exact not_breaks_passed _
  · exact not_breaks_passed _
  · exact not_breaks_fault _

theorem not_breaks_path? (value : Value) : ¬(Settings.path? value).Breaks := by
  unfold Settings.path?
  split
  · exact not_breaks_passed _
  · rw [breaks_map_iff]
    exact not_breaks_path _

theorem not_breaks_urlList (value : Value) : ¬(urlList value).Breaks := by
  unfold urlList
  split
  · refine not_breaks_all (fun i item => ?_) 0 _
    rw [breaks_under_iff]
    exact not_breaks_single _
  · exact not_breaks_fault _

theorem not_breaks_urls (value : Value) : ¬(urls value).Breaks := by
  unfold urls
  split
  · rw [breaks_map_iff]
    refine not_breaks_all (fun i item => ?_) 0 _
    rw [breaks_under_iff, breaks_seq_iff, breaks_map_iff, breaks_under_iff]
    exact not_or.mpr ⟨not_breaks_network _, not_breaks_urlList _⟩
  · exact not_breaks_fault _

theorem not_breaks_retries (value : Value) : ¬(retries value).Breaks := by
  unfold retries
  split
  · exact not_breaks_fault _
  · split
    · exact not_breaks_fault _
    · exact not_breaks_passed _

theorem not_breaks_feed (value : Value) : ¬(feed value).Breaks := by
  unfold feed
  split
  · simp only [breaks_seq_iff, breaks_map_iff, not_or]
    have single {α : Type} {read : Value → Except Mismatch α} (value : Value) : ¬(single (read value)).Breaks :=
      not_breaks_single _
    refine ⟨⟨⟨⟨⟨⟨⟨?_, ?_⟩, ?_⟩, ?_⟩, ?_⟩, ?_⟩, ?_⟩, ?_⟩ <;> apply not_breaks_field
    · exact single
    · exact single
    · exact not_breaks_urls
    · exact single
    · exact not_breaks_retries
    · exact single
    · exact single
    · exact single
  · exact not_breaks_fault _

theorem breaks_level_iff (value : Value) : (level value).Breaks ↔ ∃ s, value = .ragged s := by
  unfold level
  split
  · exact iff_of_true ⟨_, rfl⟩ ⟨_, rfl⟩
  · rename_i unlike
    refine iff_of_false ?_ (fun isRagged => ?_)
    · split
      · exact not_breaks_fault _
      · exact not_breaks_orElse _ _
    · obtain ⟨s, isRagged⟩ := isRagged
      exact unlike s isRagged

def RaggedLevel (entries : List (Value × Value)) : Prop :=
  ∃ s, Value.at? entries ["logging", "level"] = some (.ragged s)

theorem breaks_logging_iff (value : Value) :
    (logging value).Breaks ↔ ∃ inner, value = .dict inner ∧ ∃ s, Value.field? inner "level" = some (.ragged s) := by
  unfold logging
  split
  · rename_i inner
    have json : ¬(field inner "json_output" Journal.Output.default.json (.single ·.asBool)).Breaks :=
      not_breaks_field fun _ => not_breaks_single _
    rw [breaks_seq_iff, breaks_map_iff, or_iff_left json, breaks_field_iff]
    simp [breaks_level_iff]
  · rename_i noDict
    refine iff_of_false (not_breaks_fault _) fun isDict => ?_
    obtain ⟨inner, isDict, _⟩ := isDict
    exact noDict inner isDict

/-- Nothing but such a level breaks off the check of a configuration. -/
theorem config_broken_iff (entries : List (Value × Value)) :
    (∃ breakdown, config entries = .error (.broken breakdown)) ↔ RaggedLevel entries := by
  have names : ¬(knownNames entries).Breaks := by
    unfold knownNames
    split <;> exact nofun
  unfold config
  rw [answer_broken_iff]
  simp only [breaks_seq_iff, breaks_map_iff, names, not_breaks_field not_breaks_network,
    not_breaks_field not_breaks_path, not_breaks_field not_breaks_path?, not_breaks_field not_breaks_feed,
    false_or, breaks_field_iff, breaks_logging_iff]
  unfold RaggedLevel
  simp only [Value.at?]
  constructor
  · intro breaks
    obtain ⟨_, isLogging, inner, rfl, s, isLevel⟩ := breaks
    exact ⟨s, by rw [isLogging]; exact isLevel⟩
  · intro ragged
    obtain ⟨s, isLevel⟩ := ragged
    split at isLevel
    · rename_i inner isLogging
      exact ⟨_, isLogging, inner, rfl, s, isLevel⟩
    · cases isLevel

end ReorgGuard.Settings
