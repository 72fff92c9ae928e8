import ReorgGuard.Proofs.Settings.Precedence

/-!
Which variables of the environment cannot be read.

The variable of a field with fields below it has to be JSON text, and so has the one that leads to the URLs of the
feed; one that leads to the URLs of a single network may be any text that is not nested too deeply.  Variables that
lead into the feed are looked at only if the feed has no variable of its own, or one that is a mapping.  All
others are taken as they are.
-/

namespace ReorgGuard.Settings

open ReorgGuard.Fallible

def boundBy (environment : Environment) : Variables :=
  Manner.usual.bindings (environment.map fun e => (e.1, some e.2))

/-- The chain of names to which the name of a variable leads, if it leads into a field. -/
def chain? (field name : String) : Option (List String) :=
  let divider := Manner.usual.divider.toList
  let start := (Manner.usual.nameOf field).toList ++ divider
  if start.isPrefixOf name.toList then
    let behind := name.toList.drop start.length
    some ((cutName behind.length divider none [] behind).map String.ofList)
  else none

def FeedIsOpen (environment : Environment) : Prop :=
  (boundBy environment).lookup (Manner.usual.nameOf "feed") = none ∨
    ∃ text entries, (boundBy environment).lookup (Manner.usual.nameOf "feed") = some (.text text) ∧
      Json.read .message text = .ok (.dict entries)

def BadAt (keys : List String) (text : String) : Prop :=
  text ≠ "" ∧ ((keys.map Text.lower = ["urls"] ∧ ∃ fault, Json.read .message text = .error fault) ∨
    ∃ key, keys.map Text.lower = ["urls", key] ∧ Json.read .message text = .error .tooDeep)

/-- Some variable of the environment is not the JSON text that it has to be. -/
inductive BadVariable (environment : Environment) : Prop
  | field {field text : String} {fault : Json.ReadFault} (compound : field = "feed" ∨ field = "logging")
      (isBound : (boundBy environment).lookup (Manner.usual.nameOf field) = some (.text text))
      (unread : Json.read .message text = .error fault) : BadVariable environment
  | nested {name text : String} {keys : List String} (reached : FeedIsOpen environment)
      (isBound : (name, .text text) ∈ boundBy environment) (leads : chain? "feed" name = some keys)
      (bad : BadAt keys text) : BadVariable environment

/-! ### One variable -/

theorem fails_jsonOf?_iff (text : String) : Fails (jsonOf? text) ↔ Json.read .message text = .error .tooDeep := by
  unfold jsonOf?
  cases read : Json.read .message text with
  | ok value => exact iff_of_false (not_fails_ok _) (fun impossible => by cases impossible)
  | error fault =>
      cases fault with
      | malformed => exact iff_of_false (not_fails_ok _) (fun impossible => by cases impossible)
      | tooDeep => exact iff_of_true (fails_error _) rfl

theorem jsonOf_eq_ok_iff {outside : Outside} {field text : String} {value : Value} :
    jsonOf outside field text = .ok value ↔ Json.read .message text = .ok value := by
  unfold jsonOf jsonOf?
  cases Json.read .message text with
  | ok found =>
      change Except.ok found = Except.ok value ↔ Except.ok found = Except.ok value
      rw [Except.ok.injEq, Except.ok.injEq]
  | error fault =>
      cases fault <;>
        exact iff_of_false (fun impossible => by cases impossible) (fun impossible => by cases impossible)

theorem fails_jsonOf_iff (outside : Outside) (field text : String) :
    Fails (jsonOf outside field text) ↔ ∃ fault, Json.read .message text = .error fault := by
  cases isJson : jsonOf outside field text with
  | ok value =>
      rw [jsonOf_eq_ok_iff] at isJson
      rw [isJson]
      exact iff_of_false (not_fails_ok value) (by simp)
  | error fault =>
      refine iff_of_true (fails_error fault) ?_
      cases read : Json.read .message text with
      | ok value =>
          rw [← jsonOf_eq_ok_iff, isJson] at read
          cases read
      | error unread => exact ⟨unread, rfl⟩

theorem fails_nestedValue_iff (outside : Outside) (field : String) (keys : List String) (text : String) :
    Fails (nestedValue .usual outside field keys text) ↔ field = "feed" ∧ BadAt keys text := by
  have spelled : keys.map Manner.usual.spell = keys.map Text.lower := rfl
  unfold nestedValue BadAt
  rw [spelled]
  by_cases plain : (text.isEmpty || decide (field ≠ "feed")) = true
  · rw [if_pos plain]
    refine iff_of_false (not_fails_ok _) (fun bad => ?_)
    simp [bad.1, bad.2.1] at plain
  · rw [if_neg plain]
    simp only [Bool.or_eq_true, String.isEmpty_iff, decide_eq_true_eq, not_or, not_not] at plain
    split
    · rename_i isUrls
      rw [fails_jsonOf_iff]
      simp [plain, isUrls]
    · rename_i key isUrls
      rw [fails_bind_iff, fails_jsonOf?_iff]
      simp [plain, isUrls, not_fails_ok]
    · rename_i noUrls noUrlsOfNetwork
      refine iff_of_false (not_fails_ok _) (fun bad => ?_)
      obtain ⟨_, _, ⟨isUrls, _⟩ | ⟨key, isUrls, _⟩⟩ := bad
      · exact noUrls isUrls
      · exact noUrlsOfNetwork key isUrls

/-! ### The variables of a field -/

theorem boundBy_text (environment : Environment) : ∀ e ∈ boundBy environment, ∃ text, e.2 = .text text := by
  unfold boundBy Manner.bindings
  refine List.foldlRecOn (motive := fun bound : Variables => ∀ e ∈ bound, ∃ text, e.2 = .text text) _ _
    (List.forall_mem_nil _) fun bound texts given member => ?_
  obtain ⟨⟨name, text⟩, _, rfl⟩ := List.mem_map.mp member
  intro e isKept
  change e ∈ if (bound.any fun other => decide (other.1 = Text.lower name)) = true then
      bound.map fun other => if other.1 = Text.lower name then (Text.lower name, Held.text text) else other
    else bound ++ [(Text.lower name, Held.text text)] at isKept
  split at isKept
  · obtain ⟨other, isOther, rfl⟩ := List.mem_map.mp isKept
    split
    · exact ⟨text, rfl⟩
    · exact texts other isOther
  · rcases List.mem_append.mp isKept with before | isNew
    · exact texts e before
    · rw [List.mem_singleton.mp isNew]
      exact ⟨text, rfl⟩

theorem fails_nested_iff (outside : Outside) (bound : Variables) (field : String) :
    Fails (nested .usual outside bound field) ↔
      field = "feed" ∧ ∃ e ∈ bound, ∃ text keys, e.2 = .text text ∧ chain? field e.1 = some keys ∧
        BadAt keys text := by
  unfold nested
  have divided : Manner.usual.divider.isEmpty = false := rfl
  rw [divided, if_neg Bool.false_ne_true]
  dsimp only
  -- Whether a variable can be read does not depend on what those before it gave.
  rw [fails_foldlM_iff fun e => field = "feed" ∧ ∃ text keys, e.2 = .text text ∧ chain? field e.1 = some keys ∧
    BadAt keys text]
  · constructor
    · intro bad
      obtain ⟨e, member, isFeed, bad⟩ := bad
      exact ⟨isFeed, e, member, bad⟩
    · intro bad
      obtain ⟨isFeed, e, member, bad⟩ := bad
      exact ⟨e, member, isFeed, bad⟩
  · intro e member entries
    obtain ⟨name, held⟩ := e
    unfold chain?
    dsimp only
    split
    · cases held with
      | text text =>
          have unlimited : Manner.usual.dividers = none := rfl
          rw [unlimited, fails_bind_iff, fails_nestedValue_iff]
          generalize (cutName _ _ none [] _).map String.ofList = keys
          simp [not_fails_ok]
      | nothing => simp [not_fails_ok]
      | bare => simp [not_fails_ok]
    · simp [not_fails_ok]

theorem fails_compound_iff (environment : Environment) (field : String) :
    Fails (compound .usual .environment (boundBy environment) field) ↔
      (∃ text fault, (boundBy environment).lookup (Manner.usual.nameOf field) = some (.text text) ∧
        Json.read .message text = .error fault) ∨
      ((boundBy environment).lookup (Manner.usual.nameOf field) = none ∨
        ∃ text entries, (boundBy environment).lookup (Manner.usual.nameOf field) = some (.text text) ∧
          Json.read .message text = .ok (.dict entries)) ∧
      Fails (nested .usual .environment (boundBy environment) field) := by
  unfold compound
  cases isBound : (boundBy environment).lookup (Manner.usual.nameOf field) with
  | none =>
      simp only [Option.getD_none, fails_bind_iff]
      simp [not_fails_ok]
  | some held =>
      obtain ⟨_, _, isSplit, _⟩ := List.lookup_eq_some_iff.mp isBound
      obtain ⟨text, isText⟩ := boundBy_text environment (Manner.usual.nameOf field, held) (by simp [isSplit])
      change held = .text text at isText
      subst isText
      simp only [Option.getD_some, fails_bind_iff, fails_jsonOf_iff, jsonOf_eq_ok_iff]
      cases read : Json.read .message text with
      | error fault => simp [read]
      | ok value => cases value <;> simp [read, fails_bind_iff, not_fails_ok]

theorem fails_gather_iff (find : String → Except OutsideFault (Option Value)) :
    Fails (gather find) ↔ ∃ field ∈ fieldNames, Fails (find field) := by
  unfold gather
  rw [fails_foldlM_iff]
  intro field _ entries
  rw [fails_bind_iff]
  simp [not_fails_ok]

theorem fieldsBelow_isEmpty_iff (field : String) :
    (fieldsBelow field).isEmpty = true ↔ ¬(field = "feed" ∨ field = "logging") := by
  unfold fieldsBelow
  split
  · simp_all [feedFields]
  · split
    · simp_all [loggingFields]
    · simp_all

theorem fails_environmentEntries_iff (environment : Environment) :
    Fails (environmentEntries environment) ↔ BadVariable environment := by
  have started : Manner.usual.start.isNone = false := rfl
  unfold environmentEntries ofVariables
  rw [fails_gather_iff]
  simp only [started, Bool.false_eq_true, if_false]
  constructor
  · intro failed
    obtain ⟨field, _, failed⟩ := failed
    split at failed
    · exact absurd failed (not_fails_ok _)
    · rename_i compound
      rw [fieldsBelow_isEmpty_iff, not_not] at compound
      rcases (fails_compound_iff environment field).mp failed with ⟨text, fault, isBound, unread⟩ | ⟨reached, failed⟩
      · exact .field compound isBound unread
      · obtain ⟨rfl, ⟨name, _⟩, isBound, text, keys, rfl, leads, bad⟩ := (fails_nested_iff _ _ _).mp failed
        exact .nested reached isBound leads bad
  · intro bad
    have gathered {field : String} (compound : field = "feed" ∨ field = "logging")
        (failed : Fails (Settings.compound .usual .environment (boundBy environment) field)) :
        ∃ field ∈ fieldNames, Fails (if (fieldsBelow field).isEmpty = true then
          .ok (simple .usual (boundBy environment) field)
        else Settings.compound .usual .environment (boundBy environment) field) := by
      have isNamed : field ∈ fieldNames := by
        rcases compound with rfl | rfl <;> decide
      refine ⟨field, isNamed, ?_⟩
      rw [if_neg ((fieldsBelow_isEmpty_iff field).not.mpr (not_not_intro compound))]
      exact failed
    cases bad with
    | field compound isBound unread =>
        exact gathered compound ((fails_compound_iff _ _).mpr (Or.inl ⟨_, _, isBound, unread⟩))
    | nested reached isBound leads bad =>
        have failed := (fails_nested_iff .environment _ "feed").mpr ⟨rfl, _, isBound, _, _, rfl, leads, bad⟩
        exact gathered (Or.inl rfl) ((fails_compound_iff _ _).mpr (Or.inr ⟨reached, failed⟩))

end ReorgGuard.Settings
