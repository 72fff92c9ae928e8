import ReorgGuard.Proofs.Value.SameKey

/-!
Merged mappings path by path.

A path of keys leads through mappings to a value, or ends where there is none.  In merged mappings the second one
wins along each path: what it has there stands, and merges with a mapping of the first one if it is one itself.
Where the second mapping has nothing the first one stays as it is, unless the path runs against a value of the
second one that is no mapping.
-/

namespace ReorgGuard.Value

def reach? : Value → List Value → Option Value
  | value, [] => some value
  | dict entries, key :: rest =>
      match entry? entries key with
      | some inner => reach? inner rest
      | none => none
  | _, _ :: _ => none

def blocks : Value → List Value → Bool
  | _, [] => false
  | dict entries, key :: rest =>
      match entry? entries key with
      | some inner => blocks inner rest
      | none => false
  | _, _ :: _ => true

/-- A mapping as callers hold it, as deep as mappings go: each key once, and each found again. -/
inductive Keyed : Value → Prop
  | leaf {value : Value} (notDict : ∀ entries, value ≠ dict entries) : Keyed value
  | mapping {entries : List (Value × Value)} (distinct : Distinct entries)
      (keys : ∀ key ∈ entries.map Prod.fst, key.sameKey key = true) (inner : ∀ e ∈ entries, Keyed e.2) :
      Keyed (dict entries)

variable {value key : Value} {path : List Value} {entries first second : List (Value × Value)}

/-! ### Paths -/

theorem reach?_cons (entries : List (Value × Value)) (key : Value) (rest : List Value) :
    reach? (dict entries) (key :: rest) = ( entry? entries key).bind fun inner => reach? inner rest := by
  rw [reach?]
  cases entry? entries key <;> rfl

theorem reach?_of_not_dict (notDict : ∀ entries, value ≠ dict entries) (key : Value) (rest : List Value) :
    reach? value (key :: rest) = none := by
  cases value with
  | dict entries => exact absurd rfl (notDict entries)
  | _ => rfl

theorem blocks_of_not_dict (notDict : ∀ entries, value ≠ dict entries) (key : Value) (rest : List Value) :
    blocks value (key :: rest) = true := by
  cases value with
  | dict entries => exact absurd rfl (notDict entries)
  | _ => rfl

theorem blocks_cons (entries : List (Value × Value)) (key : Value) (rest : List Value) :
    blocks (dict entries) (key :: rest) = ( entry? entries key).any fun inner => blocks inner rest := by
  rw [blocks]
  cases entry? entries key <;> rfl

theorem blocks_iff (value : Value) (path : List Value) : blocks value path = true ↔
    ∃ before key after blocker, path = before ++ key :: after ∧ reach? value before = some blocker ∧
      ∀ entries, blocker ≠ dict entries := by
  induction path generalizing value with
  | nil => simp [blocks]
  | cons key rest ih =>
      by_cases isDict : ∃ entries, value = dict entries
      · obtain ⟨entries, rfl⟩ := isDict
        rw [blocks_cons, Option.any_eq_true]
        constructor
        · intro blocked
          obtain ⟨inner, found, blocked⟩ := blocked
          obtain ⟨before, next, after, blocker, rfl, reached, notDict⟩ := (ih inner).mp blocked
          refine ⟨key :: before, next, after, blocker, rfl, ?_, notDict⟩
          rw [reach?_cons, found, Option.bind_some, reached]
        · intro blocked
          obtain ⟨before, next, after, blocker, isPath, reached, notDict⟩ := blocked
          cases before with
          | nil => exact absurd (Option.some.inj reached).symm (notDict entries)
          | cons first before =>
              obtain ⟨rfl, rfl⟩ := List.cons.inj isPath
              rw [reach?_cons, Option.bind_eq_some_iff] at reached
              obtain ⟨inner, found, reached⟩ := reached
              exact ⟨inner, found, (ih inner).mpr ⟨before, next, after, blocker, rfl, reached, notDict⟩⟩
      · rw [not_exists] at isDict
        rw [blocks_of_not_dict isDict]
        exact iff_of_true rfl ⟨[], key, rest, value, rfl, rfl, isDict⟩

theorem reach?_of_blocks {value : Value} {path : List Value} (blocked : blocks value path = true) :
    reach? value path = none := by
  induction path generalizing value with
  | nil => cases blocked
  | cons key rest ih =>
      cases value with
      | dict entries =>
          rw [blocks_cons, Option.any_eq_true] at blocked
          obtain ⟨inner, found, blocked⟩ := blocked
          rw [reach?_cons, found, Option.bind_some, ih blocked]
      | _ => rfl

theorem tidy_reach? {value reached : Value} {path : List Value} (tidy : Tidy value)
    (isReached : reach? value path = some reached) : Tidy reached := by
  induction path generalizing value with
  | nil =>
      cases isReached
      exact tidy
  | cons key rest ih =>
      cases value with
      | dict entries =>
          rw [reach?_cons, Option.bind_eq_some_iff] at isReached
          obtain ⟨inner, found, isReached⟩ := isReached
          exact ih (tidy_of_found tidy found) isReached
      | _ => cases isReached

/-! ### Merged mappings -/

/-- What merged mappings have at the end of a path, from what both have there. -/
def decided (old new : Option Value) (blocked : Bool) : Option Value :=
  match new with
  | some new => some (laid old new)
  | none => if blocked then none else old

theorem decided_of_laid {old : Option Value} {new : Value} (same : laid old new = new) (blocked : Bool) :
    decided old (some new) blocked = some new := by
  rw [decided, same]

theorem decided_of_nothing (new : Option Value) (blocked : Bool) : decided none new blocked = new := by
  cases new with
  | none => exact ite_self _
  | some new => rfl

theorem reach?_laid {new : Value} (tidy : Tidy new) (path : List Value)
    (merged : ∀ first second, Tidy (dict second) → reach? (dict (merge first second)) path =
      decided (reach? (dict first) path) (reach? (dict second) path) (blocks (dict second) path))
    (old : Option Value) :
    reach? (laid old new) path =
      decided (old.bind fun inner => reach? inner path) (reach? new path) (blocks new path) := by
  cases path with
  | nil => simp only [reach?, Option.bind_fun_some, decided]
  | cons key rest =>
      by_cases isDict : ∃ above, new = dict above
      · obtain ⟨above, rfl⟩ := isDict
        rcases laid_dict old above with ⟨below, rfl, isLaid⟩ | ⟨noDict, isLaid⟩
        · rw [isLaid]
          exact merged below above tidy
        · -- Below what is no mapping there is nothing to be merged.
          have nothing : (old.bind fun inner => reach? inner (key :: rest)) = none := by
            rw [Option.bind_eq_none_iff]
            intro inner isOld
            refine reach?_of_not_dict (fun entries isDict => noDict entries ?_) key rest
            rw [isOld, isDict]
          rw [isLaid, nothing, decided_of_nothing]
      · rw [not_exists] at isDict
        rw [laid_of_not_dict isDict, reach?_of_not_dict isDict, blocks_of_not_dict isDict]
        rfl

/-- Along a path the second mapping decides if it has something there.  Otherwise it stands in the way or leaves
the first mapping as it is. -/
theorem reach?_merge (tidy : Tidy (dict second)) (path : List Value) :
    reach? (dict (merge first second)) path =
      decided (reach? (dict first) path) (reach? (dict second) path) (blocks (dict second) path) := by
  induction path generalizing first second with
  | nil => rfl
  | cons key rest ih =>
      rw [reach?_cons, reach?_cons, reach?_cons, blocks_cons, entry?_merge (tidy_dict_iff.mp tidy).1]
      cases found : entry? second key with
      | none => rfl
      | some new =>
          exact reach?_laid (tidy_of_found tidy found) rest (fun _ _ inner => ih inner) ( entry? first key)

/-! ### Mappings as callers hold them -/

theorem Keyed.tidy {value : Value} (keyed : Keyed value) : Tidy value := by
  induction keyed with
  | leaf notDict => exact tidy_of_plain notDict
  | mapping distinct _ _ ih => exact tidy_dict_iff.mpr ⟨distinct, ih⟩

theorem Keyed.found {key value : Value} (keyed : Keyed (dict entries)) (found : entry? entries key = some value) :
    Keyed value := by
  obtain ⟨e, isFound, rfl⟩ := Option.map_eq_some_iff.mp found
  cases keyed with
  | leaf notDict => exact absurd rfl (notDict entries)
  | mapping _ _ inner => exact inner e (List.mem_of_find?_eq_some isFound)

theorem Keyed.distinct (keyed : Keyed (dict entries)) : Distinct entries :=
  (tidy_dict_iff.mp keyed.tidy).1

theorem Keyed.isKey (keyed : Keyed (dict entries)) : ∀ key ∈ entries.map Prod.fst, key.sameKey key = true := by
  cases keyed with
  | leaf notDict => exact absurd rfl (notDict entries)
  | mapping _ keys _ => exact keys

/-! ### Merging once more -/

theorem keys_put (entries : List (Value × Value)) (key value : Value) :
    (put entries key value).map Prod.fst =
      entries.map Prod.fst ++ [key].filter fun key => ( entry? entries key).isNone := by
  induction entries with
  | nil => rfl
  | cons e rest ih =>
      rw [put]
      split
      · rename_i same
        simp [entry?_cons, same]
      · rename_i different
        rw [List.map_cons, ih]
        simp [entry?_cons, List.filter_cons, different]

theorem keys_merge (distinct : Distinct second) : (merge first second).map Prod.fst =
    first.map Prod.fst ++ (second.map Prod.fst).filter fun key => ( entry? first key).isNone := by
  induction second generalizing first with
  | nil => rw [merge, List.map_nil, List.filter_nil, List.append_nil]
  | cons e rest ih =>
      obtain ⟨key, value⟩ := e
      obtain ⟨unlike, others⟩ := List.pairwise_cons.mp distinct
      have unchanged : ∀ later ∈ rest.map Prod.fst,
          ( entry? (put first key (laid ( entry? first key) value)) later).isNone = ( entry? first later).isNone := by
        intro later member
        obtain ⟨e, inRest, rfl⟩ := List.mem_map.mp member
        rw [entry?_put, if_neg (Bool.eq_false_iff.mp (unlike e inRest))]
      have split : (key, value) :: rest = [(key, value)] ++ rest := rfl
      rw [merge_cons, ih others, keys_put, List.filter_congr unchanged, split, List.map_append, List.filter_append,
        List.append_assoc]
      rfl

theorem entry?_of_mem (distinct : Distinct entries) {e : Value × Value} (member : e ∈ entries)
    (isKey : e.1.sameKey e.1 = true) : entry? entries e.1 = some e.2 := by
  induction entries with
  | nil => cases member
  | cons head rest ih =>
      obtain ⟨unlike, others⟩ := List.pairwise_cons.mp distinct
      rw [entry?_cons]
      rcases List.mem_cons.mp member with rfl | inRest
      · rw [if_pos isKey]
      · rw [if_neg (Bool.eq_false_iff.mp (unlike e inRest)), ih others inRest]

theorem map_entry?_keys (distinct : Distinct entries)
    (isKey : ∀ key ∈ entries.map Prod.fst, key.sameKey key = true) :
    (entries.map Prod.fst).map (fun key => (key, ( entry? entries key).getD null)) = entries := by
  rw [List.map_map]
  refine (List.map_congr_left fun e member => ?_).trans (List.map_id entries)
  rw [Function.comp_apply, entry?_of_mem distinct member (isKey e.1 (List.mem_map_of_mem member))]
  rfl

theorem eq_of_keys_eq (distinct : Distinct first) (otherDistinct : Distinct second)
    (keys : first.map Prod.fst = second.map Prod.fst)
    (isKey : ∀ key ∈ first.map Prod.fst, key.sameKey key = true)
    (same : ∀ key, entry? first key = entry? second key) : first = second := by
  have otherKey : ∀ key ∈ second.map Prod.fst, key.sameKey key = true := by
    rw [← keys]
    exact isKey
  rw [← map_entry?_keys distinct isKey, ← map_entry?_keys otherDistinct otherKey, keys]
  simp only [same]

/-- The first mapping of a merge, or what stands at one of its keys, merges into the result without a change. -/
def Settles (value : Value) : Prop :=
  ∀ first, value = dict first → ∀ second, Keyed (dict second) → merge first (merge first second) = merge first second

theorem laid_self (settles : Settles value) : laid (some value) value = value := by
  by_cases isDict : ∃ entries, value = dict entries
  · obtain ⟨entries, rfl⟩ := isDict
    have nothing : Keyed (dict []) := .mapping List.Pairwise.nil (List.forall_mem_nil _) (List.forall_mem_nil _)
    have again : merge entries (merge entries []) = merge entries [] := settles entries rfl [] nothing
    rw [merge] at again
    exact congrArg dict again
  · exact laid_of_not_dict (not_exists.mp isDict)

theorem laid_again {old : Option Value} {new : Value} (settles : ∀ value, old = some value → Settles value)
    (keyed : Keyed new) : laid old (laid old new) = laid old new := by
  by_cases isDict : ∃ entries, new = dict entries
  · obtain ⟨second, rfl⟩ := isDict
    rcases laid_dict old second with ⟨first, rfl, isLaid⟩ | ⟨_, isLaid⟩
    · rw [isLaid]
      exact congrArg dict (settles _ rfl first rfl second keyed)
    · rw [isLaid, isLaid]
  · rw [laid_of_not_dict (not_exists.mp isDict), laid_of_not_dict (not_exists.mp isDict)]

theorem Keyed.isKey_merge (isFirst : Keyed (dict first)) (isSecond : Keyed (dict second)) :
    ∀ key ∈ (merge first second).map Prod.fst, key.sameKey key = true := by
  intro key member
  rw [keys_merge isSecond.distinct, List.mem_append, List.mem_filter] at member
  rcases member with own | ⟨added, _⟩
  · exact isFirst.isKey key own
  · exact isSecond.isKey key added

theorem Keyed.keys_merge_again (isFirst : Keyed (dict first)) (isSecond : Keyed (dict second)) :
    (merge first (merge first second)).map Prod.fst = (merge first second).map Prod.fst := by
  have ownKeys : (first.map Prod.fst).filter (fun key => ( entry? first key).isNone) = [] := by
    rw [List.filter_eq_nil_iff, List.forall_mem_map]
    intro e member
    rw [entry?_of_mem isFirst.distinct member (isFirst.isKey e.1 (List.mem_map_of_mem member))]
    exact Bool.false_ne_true
  have distinct : Distinct (merge first second) :=
    (tidy_dict_iff.mp (tidy_merge isFirst.tidy second isSecond.tidy)).1
  rw [keys_merge distinct, keys_merge isSecond.distinct, List.filter_append, ownKeys, List.nil_append,
    List.filter_filter]
  simp only [Bool.and_self]

theorem Keyed.settles {value : Value} (keyed : Keyed value) : Settles value := by
  -- The second mapping is any all along: below a key the first one may meet another.
  induction keyed with
  | leaf notDict => exact fun first isDict => absurd isDict (notDict first)
  | @mapping first distinct isKey inner ih =>
      intro _ same second isSecond
      cases same
      have isFirst : Keyed (dict first) := .mapping distinct isKey inner
      have once : Tidy (dict (merge first second)) := tidy_merge isFirst.tidy second isSecond.tidy
      have twice : Tidy (dict (merge first (merge first second))) := tidy_merge isFirst.tidy _ once
      refine (eq_of_keys_eq (tidy_dict_iff.mp once).1 (tidy_dict_iff.mp twice).1
        (isFirst.keys_merge_again isSecond).symm (isFirst.isKey_merge isSecond) fun key => ?_).symm
      have settled : ∀ old, entry? first key = some old → Settles old := by
        intro old found
        obtain ⟨e, isFound, rfl⟩ := Option.map_eq_some_iff.mp found
        exact ih e (List.mem_of_find?_eq_some isFound)
      rw [entry?_merge (tidy_dict_iff.mp once).1, entry?_merge isSecond.distinct]
      cases added : entry? second key with
      | some new =>
          have again := laid_again settled (isSecond.found added)
          exact congrArg some again.symm
      | none =>
          cases own : entry? first key with
          | none => rfl
          | some old => exact congrArg some (laid_self (settled old own)).symm

/-! ### The whole of a merge -/

/-- Merged mappings have along each path what the second one has there, mappings merged into those of the first
one; where it has nothing they have what the first one has, unless the second one has a value on the way that is no
mapping.  Merging the result once more changes nothing. -/
theorem second_wins_path_by_path (isFirst : Keyed (dict first)) (isSecond : Keyed (dict second)) :
    (∀ path : List Value,
      let lower := reach? (dict first) path
      let upper := reach? (dict second) path
      let merged := reach? (dict (merge first second)) path
      let blocked := ∃ before key after blocker, path = before ++ key :: after ∧
        reach? (dict second) before = some blocker ∧ ∀ entries, blocker ≠ dict entries
      (∀ value, upper = some value → (∀ entries, value ≠ dict entries) → merged = some value) ∧
      (∀ above below, upper = some (dict above) → lower = some (dict below) →
        ∃ both, merged = some (dict both) ∧
          ∀ key, ( entry? both key).isSome ↔ ( entry? above key).isSome ∨ ( entry? below key).isSome) ∧
      (∀ above, upper = some (dict above) → (∀ below, lower ≠ some (dict below)) → merged = some (dict above)) ∧
      (upper = none → ¬blocked → merged = lower) ∧
      (blocked → merged = none)) ∧
    merge first (merge first second) = merge first second := by
  refine ⟨fun path => ?_, isFirst.settles first rfl second isSecond⟩
  intro lower upper merged blocked
  have isDecided : merged = decided lower upper (blocks (dict second) path) := reach?_merge isSecond.tidy path
  have isBlocked : blocks (dict second) path = true ↔ blocked := blocks_iff _ path
  refine ⟨fun value isUpper notDict => ?_, fun above below isUpper isLower => ?_, fun above isUpper noLower => ?_,
    fun noUpper notBlocked => ?_, fun inTheWay => ?_⟩
  · rw [isDecided, isUpper]
    exact decided_of_laid (laid_of_not_dict notDict) _
  · refine ⟨merge below above, ?_, fun key => ?_⟩
    · rw [isDecided, isUpper, isLower]
      rfl
    · rw [entry?_merge (tidy_dict_iff.mp (tidy_reach? isSecond.tidy isUpper)).1]
      cases entry? above key <;> simp
  · rw [isDecided, isUpper]
    rcases laid_dict lower above with ⟨below, isLower, _⟩ | ⟨_, isLaid⟩
    · exact absurd isLower (noLower below)
    · exact decided_of_laid isLaid _
  · rw [isDecided, noUpper, Bool.eq_false_iff.mpr (isBlocked.not.mpr notBlocked)]
    rfl
  · have noUpper : upper = none := reach?_of_blocks (isBlocked.mpr inTheWay)
    rw [isDecided, noUpper, isBlocked.mpr inTheWay]
    rfl

theorem keyed_of_no_dict (distinct : Distinct entries) (keys : ∀ key ∈ entries.map Prod.fst, key.sameKey key = true)
    (noDict : ∀ e ∈ entries, ∀ inner, e.2 ≠ dict inner) : Keyed (dict entries) :=
  .mapping distinct keys fun e member => .leaf (noDict e member)

def oldSettings : List (Value × Value) :=
  [(text "feed", dict [(text "enabled", bool true), (text "required", bool true)]), (text "network", text "testnet")]

def newSettings : List (Value × Value) :=
  [(text "network", dict [(int 1, text "stagenet")]), (text "feed", dict [(text "enabled", bool false)])]

theorem keyed_oldSettings : Keyed (dict oldSettings) := by
  refine .mapping (by unfold Distinct; decide +kernel) (by decide +kernel) ?_
  have feed : Keyed (dict [(text "enabled", bool true), (text "required", bool true)]) :=
    keyed_of_no_dict (by unfold Distinct; decide +kernel) (by decide +kernel) (by simp)
  simpa [oldSettings] using ⟨feed, Keyed.leaf (by simp)⟩

theorem keyed_newSettings : Keyed (dict newSettings) := by
  refine .mapping (by unfold Distinct; decide +kernel) (by decide +kernel) ?_
  have network : Keyed (dict [(int 1, text "stagenet")]) :=
    keyed_of_no_dict (by unfold Distinct; decide +kernel) (by decide +kernel) (by simp)
  have feed : Keyed (dict [(text "enabled", bool false)]) :=
    keyed_of_no_dict (by unfold Distinct; decide +kernel) (by decide +kernel) (by simp)
  simpa [newSettings] using ⟨network, feed⟩

theorem two_mappings_merged :
    let merged := merge oldSettings newSettings
    reach? (dict merged) [text "network"] = some (dict [(int 1, text "stagenet")]) ∧
      reach? (dict merged) [text "feed", text "enabled"] = some (bool false) ∧
      reach? (dict merged) [text "feed", text "required"] = some (bool true) ∧
      merge oldSettings merged = merged := by
  obtain ⟨paths, again⟩ := second_wins_path_by_path keyed_oldSettings keyed_newSettings
  obtain ⟨_, _, replaced, _⟩ := paths [text "network"]
  obtain ⟨wins, _⟩ := paths [text "feed", text "enabled"]
  obtain ⟨_, _, _, kept, _⟩ := paths [text "feed", text "required"]
  refine ⟨replaced _ rfl ?_, wins _ rfl ?_, (kept rfl ?_).trans rfl, again⟩
  · intro inner impossible
    cases impossible
  · intro inner impossible
    cases impossible
  · rw [← blocks_iff]
    exact Bool.false_ne_true

end ReorgGuard.Value
