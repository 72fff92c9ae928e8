import ReorgGuard.Proofs.Value.Merging
import ReorgGuard.Settings.Gathered

/-!
What a caller sets, by the proper names of the fields.

Names that tell how settings are gathered are passed over, names that differ from that of a field in letter
case only stand for it, and all others stay.  Of several names for one field the first one counts.
-/

namespace ReorgGuard.Settings

def spells (name : String) : Value → Bool
  | .text s => Text.lower s = name
  | _ => false

def takeProper (kept : List (Value × Value)) (entry : Value × Value) : List (Value × Value) :=
  match entry.1 with
  | .text s =>
      if Manner.names.contains s then kept
      else
        match fieldNames.find? (Text.lower s = ·) with
        | some name => if (Value.field? kept name).isSome then kept else kept ++ [(.text name, entry.2)]
        | none => kept ++ [entry]
  | _ => kept ++ [entry]

theorem properFields_eq_foldl (set : List (Value × Value)) : properFields set = set.foldl takeProper [] := by
  unfold properFields
  congr 1
  funext kept entry
  rcases entry with ⟨key, value⟩
  cases key <;> rfl

theorem lower_of_mem_fieldNames {name : String} (isField : name ∈ fieldNames) : Text.lower name = name := by
  revert name
  decide +kernel

theorem lower_not_field_of_mem_names {name : String} (member : name ∈ Manner.names) :
    Text.lower name ∉ fieldNames := by
  revert name
  decide +kernel

theorem find?_fieldNames {s name : String} :
    fieldNames.find? (Text.lower s = ·) = some name ↔ name ∈ fieldNames ∧ Text.lower s = name := by
  constructor
  · intro found
    exact ⟨List.mem_of_find?_eq_some found, by simpa using List.find?_some found⟩
  · rintro ⟨isField, same⟩
    subst same
    have isSome : (fieldNames.find? (Text.lower s = ·)).isSome = true := by
      rw [List.find?_isSome]
      exact ⟨_, isField, decide_eq_true rfl⟩
    obtain ⟨found, isFound⟩ := Option.isSome_iff_exists.mp isSome
    have same : Text.lower s = found := by simpa using List.find?_some isFound
    rw [isFound, same]

theorem spells_of_eq {name : String} (isField : name ∈ fieldNames) {key : Value} (same : key = .text name) :
    spells name key = true := by
  rw [same, spells, lower_of_mem_fieldNames isField]
  exact decide_eq_true rfl

theorem eq_of_spells {first second : String} {key : Value} (isFirst : spells first key = true)
    (isSecond : spells second key = true) : first = second := by
  cases key with
  | text s => exact (of_decide_eq_true isFirst).symm.trans (of_decide_eq_true isSecond)
  | _ => cases isFirst

theorem takeProper_cases (kept : List (Value × Value)) (entry : Value × Value) :
    (takeProper kept entry = kept ∧ ∀ name ∈ fieldNames, spells name entry.1 = true →
      (Value.field? kept name).isSome = true) ∨
    (∃ name ∈ fieldNames, spells name entry.1 = true ∧ Value.field? kept name = none ∧
      takeProper kept entry = kept ++ [(.text name, entry.2)]) ∨
    ((∀ name ∈ fieldNames, spells name entry.1 = false) ∧ takeProper kept entry = kept ++ [entry]) := by
  rcases entry with ⟨key, value⟩
  unfold takeProper
  cases key with
  | text s =>
      dsimp only
      split
      · rename_i member
        refine Or.inl ⟨rfl, fun name isField isSpelled => ?_⟩
        have lower : Text.lower s = name := of_decide_eq_true isSpelled
        rw [← lower] at isField
        exact absurd isField (lower_not_field_of_mem_names (List.contains_iff_mem.mp member))
      · split
        · rename_i name found
          obtain ⟨isField, lower⟩ := find?_fieldNames.mp found
          have isSpelled : spells name (.text s) = true := decide_eq_true lower
          split
          · rename_i isSome
            refine Or.inl ⟨rfl, fun other _ isOther => ?_⟩
            rw [eq_of_spells isOther isSpelled]
            exact isSome
          · rename_i isNone
            exact Or.inr (Or.inl ⟨name, isField, isSpelled, Option.not_isSome_iff_eq_none.mp isNone, rfl⟩)
        · rename_i noField
          refine Or.inr (Or.inr ⟨fun name isField => ?_, rfl⟩)
          refine decide_eq_false fun lower => ?_
          rw [find?_fieldNames.mpr ⟨isField, lower⟩] at noField
          cases noField
  | _ => exact Or.inr (Or.inr ⟨fun _ _ => rfl, rfl⟩)

/-! ### What stands at a field -/

theorem field?_append_single (kept : List (Value × Value)) (entry : Value × Value) (name : String) :
    Value.field? (kept ++ [entry]) name =
      (Value.field? kept name).or (if entry.1.sameKey (.text name) = true then some entry.2 else none) := by
  unfold Value.field? Value.entry?
  rw [List.find?_append]
  cases kept.find? fun e => e.1.sameKey (.text name) with
  | some found => rfl
  | none =>
      rw [List.find?_singleton]
      cases entry.1.sameKey (.text name) <;> rfl

theorem field?_takeProper (kept : List (Value × Value)) (entry : Value × Value) {name : String}
    (isField : name ∈ fieldNames) : Value.field? (takeProper kept entry) name =
      (Value.field? kept name).or (if spells name entry.1 = true then some entry.2 else none) := by
  rcases takeProper_cases kept entry with ⟨same, isSome⟩ | ⟨other, _, isSpelled, isNone, added⟩ | ⟨foreign, added⟩
  · rw [same]
    split
    · rename_i isSpelled
      obtain ⟨value, found⟩ := Option.isSome_iff_exists.mp (isSome name isField isSpelled)
      rw [found, Option.some_or]
    · rw [Option.or_none]
  · rw [added, field?_append_single]
    by_cases same : other = name
    · subst same
      rw [if_pos (Value.sameKey_text_iff.mpr rfl), if_pos isSpelled]
    · rw [if_neg fun isText => same (Value.text.inj (Value.sameKey_text_iff.mp isText)),
        if_neg fun isName => same (eq_of_spells isSpelled isName)]
  · rw [added, field?_append_single, foreign name isField]
    rw [if_neg Bool.false_ne_true, if_neg]
    intro same
    have isSpelled := spells_of_eq isField (Value.sameKey_text_iff.mp same)
    exact Bool.false_ne_true ((foreign name isField).symm.trans isSpelled)

/-- The first entry that spells the name of a field stands for it. -/
theorem field?_properFields (set : List (Value × Value)) {name : String} (isField : name ∈ fieldNames) :
    Value.field? (properFields set) name = (set.find? fun e => spells name e.1).map Prod.snd := by
  -- What is kept already goes before all that is still to come.
  have run (kept : List (Value × Value)) : Value.field? (set.foldl takeProper kept) name =
      (Value.field? kept name).or ((set.find? fun e => spells name e.1).map Prod.snd) := by
    induction set generalizing kept with
    | nil => rw [List.foldl_nil, List.find?_nil, Option.map_none, Option.or_none]
    | cons entry rest ih =>
        rw [List.foldl_cons, ih, field?_takeProper kept entry isField, Option.or_assoc, List.find?_cons]
        cases spells name entry.1 <;> rfl
  rw [properFields_eq_foldl, run]
  rfl

/-! ### Keys -/

/-- Each key is there once, and those that are no proper names will not come again. -/
structure ProperSoFar (kept rest : List (Value × Value)) : Prop where
  distinct : Value.Distinct kept
  keys : ∀ e ∈ kept, (∃ name ∈ fieldNames, e.1 = .text name) ∨ ∀ later ∈ rest, e.1.sameKey later.1 = false

theorem ProperSoFar.step {kept rest : List (Value × Value)} {entry : Value × Value}
    (proper : ProperSoFar kept (entry :: rest)) (once : ∀ later ∈ rest, entry.1.sameKey later.1 = false) :
    ProperSoFar (takeProper kept entry) rest := by
  have keys : ∀ e ∈ kept, (∃ name ∈ fieldNames, e.1 = .text name) ∨ ∀ later ∈ rest, e.1.sameKey later.1 = false :=
    fun e member => (proper.keys e member).imp_right fun unlike later isLater =>
      unlike later (List.mem_cons_of_mem _ isLater)
  have append {new : Value × Value} (absent : ∀ e ∈ kept, e.1.sameKey new.1 = false)
      (isNew : (∃ name ∈ fieldNames, new.1 = .text name) ∨ ∀ later ∈ rest, new.1.sameKey later.1 = false) :
      ProperSoFar (kept ++ [new]) rest := by
    refine ⟨?_, fun e member => ?_⟩
    · rw [Value.Distinct, List.pairwise_append]
      refine ⟨proper.distinct, List.pairwise_singleton _ _, fun e member last isLast => ?_⟩
      rw [List.mem_singleton.mp isLast]
      exact absent e member
    · rcases List.mem_append.mp member with isOld | isLast
      · exact keys e isOld
      · rw [List.mem_singleton.mp isLast]
        exact isNew
  rcases takeProper_cases kept entry with ⟨same, _⟩ | ⟨name, isField, _, isNone, added⟩ | ⟨foreign, added⟩
  · rw [same]
    exact ⟨proper.distinct, keys⟩
  · rw [added]
    refine append (fun e member => ?_) (Or.inl ⟨name, isField, rfl⟩)
    rw [Value.field?_eq_standing?, Value.standing?_eq_none_iff] at isNone
    exact Bool.eq_false_iff.mpr (Value.sameKey_text_iff.not.mpr (isNone e member))
  · rw [added]
    refine append (fun e member => ?_) (Or.inr once)
    rcases proper.keys e member with ⟨name, isField, isName⟩ | unlike
    · refine Bool.eq_false_iff.mpr fun same => ?_
      rw [isName, Value.text_sameKey_iff] at same
      exact Bool.false_ne_true ((foreign name isField).symm.trans (spells_of_eq isField same))
    · exact unlike entry List.mem_cons_self

theorem distinct_properFields {set : List (Value × Value)} (distinct : Value.Distinct set) :
    Value.Distinct (properFields set) := by
  have run (kept : List (Value × Value)) (proper : ProperSoFar kept set) :
      ProperSoFar (set.foldl takeProper kept) [] := by
    induction set generalizing kept with
    | nil => exact proper
    | cons entry rest ih =>
        rcases List.pairwise_cons.mp distinct with ⟨once, others⟩
        exact ih others _ (proper.step once)
  rw [properFields_eq_foldl]
  exact (run [] ⟨List.Pairwise.nil, List.forall_mem_nil _⟩).distinct

theorem value_mem_takeProper {kept : List (Value × Value)} {entry e : Value × Value}
    (member : e ∈ takeProper kept entry) : e ∈ kept ∨ e.2 = entry.2 := by
  rcases takeProper_cases kept entry with ⟨same, _⟩ | ⟨_, _, _, _, added⟩ | ⟨_, added⟩
  · rw [same] at member
    exact Or.inl member
  · rw [added, List.mem_append, List.mem_singleton] at member
    exact member.imp_right fun same => (by rw [same])
  · rw [added, List.mem_append, List.mem_singleton] at member
    exact member.imp_right fun same => (by rw [same])

theorem tidy_properFields {set : List (Value × Value)} (tidy : Value.Tidy (.dict set)) :
    Value.Tidy (.dict (properFields set)) := by
  obtain ⟨distinct, values⟩ := Value.tidy_dict_iff.mp tidy
  have run (kept : List (Value × Value)) (tidyKept : ∀ e ∈ kept, e.2.Tidy) :
      ∀ e ∈ set.foldl takeProper kept, e.2.Tidy := by
    clear distinct tidy
    induction set generalizing kept with
    | nil => exact tidyKept
    | cons entry rest ih =>
        rw [List.forall_mem_cons] at values
        refine ih values.2 _ fun e member => ?_
        rcases value_mem_takeProper member with isOld | same
        · exact tidyKept e isOld
        · rw [same]
          exact values.1
  rw [Value.tidy_dict_iff]
  refine ⟨distinct_properFields distinct, ?_⟩
  rw [properFields_eq_foldl]
  exact run [] (List.forall_mem_nil _)

end ReorgGuard.Settings
