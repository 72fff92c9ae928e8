import ReorgGuard.Checkpoint.Table

/-!
What one accepted checkpoint does to a table.

A table admits a checkpoint when neither its hash nor its difficulty contradicts what is pinned
at the height, and accepting it writes the parts that are missing.  What a call writes is a
sequence of such steps, so an invariant of tables is proved for one step.

Why a value cannot be read, and which refusal a table gives, is not looked into here.
-/

namespace ReorgGuard.Checkpoint

/-- The entries with the given value, if any, for a key that has none yet. -/
def supply {α : Type} (entries : List (Nat × α)) (key : Nat) : Option α → List (Nat × α)
  | none => entries
  | some value =>
      if (entries.lookup key).isSome then entries else entries ++ [(key, value)]

theorem lookup_supply {α : Type} (entries : List (Nat × α)) (key other : Nat) (given : Option α) :
    (supply entries key given).lookup other =
      (entries.lookup other).or (if other = key then given else none) := by
  cases given with
  | none => simp [supply]
  | some value =>
      by_cases present : (entries.lookup key).isSome
      · rw [supply, if_pos present]
        by_cases same : other = key
        · subst other
          obtain ⟨old, found⟩ := Option.isSome_iff_exists.mp present
          rw [found, Option.some_or]
        · rw [if_neg same, Option.or_none]
      · rw [supply, if_neg present, List.lookup_append, List.lookup_cons, List.lookup_nil]
        by_cases same : other = key
        · rw [if_pos same, same, beq_self_eq_true]
        · rw [if_neg same, beq_false_of_ne same]

structure Pin.ReadFrom (offered : Pin) (height hash difficulty : Value) : Prop where
  readHeight : Height.ofValue height = .ok offered.height
  readHash : Hash.ofValue hash = .ok offered.hash
  readDifficulty : Difficulty.ofValue difficulty = .ok offered.difficulty

namespace Table

/-- Nothing pinned at the height of a checkpoint contradicts it. -/
structure Admits (table : Table) (offered : Pin) : Prop where
  sameHash : ∀ pinned, table.hash? offered.height = some pinned → pinned = offered.hash
  sameDifficulty : ∀ known given, table.difficulty? offered.height = some known →
    offered.difficulty = some given → known = given

/-- Adds what a table does not know of a checkpoint yet, and replaces nothing. -/
def write (table : Table) (offered : Pin) : Table :=
  { points := supply table.points offered.height (some offered.hash)
    difficulties := supply table.difficulties offered.height offered.difficulty
    heights :=
      if (table.hash? offered.height).isSome then table.heights
      else insertHeight offered.height table.heights
    frozen := table.frozen }

/-- A hash that is pinned stays; only the written height can gain one. -/
@[simp]
theorem hash?_write (table : Table) (offered : Pin) (height : Nat) :
    (table.write offered).hash? height =
      (table.hash? height).or (if height = offered.height then some offered.hash else none) :=
  lookup_supply table.points offered.height height (some offered.hash)

@[simp]
theorem difficulty?_write (table : Table) (offered : Pin) (height : Nat) :
    (table.write offered).difficulty? height =
      (table.difficulty? height).or
        (if height = offered.height then offered.difficulty else none) :=
  lookup_supply table.difficulties offered.height height offered.difficulty

variable {table next : Table} {offered : Pin}

private theorem acceptDifficulty_eq_ok_iff {height : Nat} {given : Option Nat} :
    table.acceptDifficulty height given = .ok next ↔
      (∀ known d, table.difficulty? height = some known → given = some d → known = d) ∧
        { table with difficulties := supply table.difficulties height given } = next := by
  cases given with
  | none => simp [acceptDifficulty, supply]
  | some d =>
      cases found : table.difficulty? height with
      | none =>
          have lacking : table.difficulties.lookup height = none := found
          simp [acceptDifficulty, found, supply, lacking]
      | some known =>
          have present : table.difficulties.lookup height = some known := found
          by_cases same : known = d
          · simp [acceptDifficulty, found, supply, present, same]
          · simp [acceptDifficulty, found, same]

theorem write_of_pinned {pinned : Hash}
    (found : table.hash? offered.height = some pinned) :
    table.write offered =
      { table with difficulties := supply table.difficulties offered.height offered.difficulty } := by
  have present : table.points.lookup offered.height = some pinned := found
  simp [write, found, supply, present]

private theorem write_of_unpinned (found : table.hash? offered.height = none) :
    table.write offered =
      Table.pin
        { table with difficulties := supply table.difficulties offered.height offered.difficulty }
        offered.height offered.hash := by
  have lacking : table.points.lookup offered.height = none := found
  simp [write, found, supply, lacking, pin]

/-- A checkpoint is accepted exactly when it is admitted, and then it is written. -/
theorem accept_eq_ok_iff :
    table.accept offered = .ok next ↔ table.Admits offered ∧ table.write offered = next := by
  cases found : table.hash? offered.height with
  | some pinned =>
      by_cases same : pinned = offered.hash
      · simp only [accept, found, if_pos same, acceptDifficulty_eq_ok_iff, write_of_pinned found]
        constructor
        · intro both
          rcases both with ⟨agreed, result⟩
          refine ⟨⟨fun other atHeight => ?_, agreed⟩, result⟩
          rw [found] at atHeight
          exact (Option.some.inj atHeight).symm.trans same
        · intro both
          rcases both with ⟨admitted, result⟩
          exact ⟨admitted.sameDifficulty, result⟩
      · simp only [accept, found, if_neg same, reduceCtorEq, false_iff]
        intro both
        rcases both with ⟨admitted, _⟩
        exact same (admitted.sameHash pinned found)
  | none =>
      have opened : table.accept offered = .ok next ↔
          ∃ between, table.acceptDifficulty offered.height offered.difficulty = .ok between ∧
            between.pin offered.height offered.hash = next := by
        simp only [accept, found]
        cases table.acceptDifficulty offered.height offered.difficulty <;> simp [Except.map]
      rw [opened, write_of_unpinned found]
      constructor
      · intro taken
        rcases taken with ⟨between, accepted, result⟩
        rcases acceptDifficulty_eq_ok_iff.mp accepted with ⟨agreed, rfl⟩
        refine ⟨⟨fun other atHeight => ?_, agreed⟩, result⟩
        rw [found] at atHeight
        cases atHeight
      · intro both
        rcases both with ⟨admitted, result⟩
        exact ⟨_, acceptDifficulty_eq_ok_iff.mpr ⟨admitted.sameDifficulty, rfl⟩, result⟩

theorem add_of_read {height hash difficulty : Value} (opened : table.frozen = false)
    (read : offered.ReadFrom height hash difficulty) :
    table.add height hash difficulty =
      match table.accept offered with
      | .ok after => .accepted after
      | .error why => .refused why := by
  rcases offered with ⟨h, x, d⟩
  obtain ⟨readHeight, readHash, readDifficulty⟩ := read
  dsimp only at readHeight readHash readDifficulty
  cases accepted : table.accept ⟨h, x, d⟩ <;>
    simp only [add, opened, readHeight, readHash, readDifficulty, accepted, Bool.false_eq_true, if_false]

theorem add_eq_accepted_iff {height hash difficulty : Value} :
    table.add height hash difficulty = .accepted next ↔
      table.frozen = false ∧ ∃ offered : Pin, offered.ReadFrom height hash difficulty ∧
        table.Admits offered ∧ table.write offered = next := by
  constructor
  · intro added
    unfold add at added
    split at added
    · cases added
    · rename_i opened
      split at added <;> try cases added
      rename_i h readHeight
      split at added <;> try cases added
      rename_i x readHash
      split at added <;> try cases added
      rename_i d readDifficulty
      split at added <;> cases added
      rename_i accepted
      rcases accept_eq_ok_iff.mp accepted with ⟨admitted, written⟩
      exact ⟨by simpa using opened, ⟨h, x, d⟩, ⟨readHeight, readHash, readDifficulty⟩, admitted, written⟩
  · intro both
    rcases both with ⟨opened, offered, read, admitted, written⟩
    rw [add_of_read opened read, accept_eq_ok_iff.mpr ⟨admitted, written⟩]

theorem Admits.write_of_ne {other : Pin} (admitted : table.Admits other) (apart : other.height ≠ offered.height) :
    (table.write offered).Admits other := by
  constructor
  · intro pinned found
    rw [hash?_write, if_neg apart, Option.or_none] at found
    exact admitted.sameHash pinned found
  · intro known given found
    rw [difficulty?_write, if_neg apart, Option.or_none] at found
    exact admitted.sameDifficulty known given found

/-! ### Several checkpoints -/

def writeAll (table : Table) (pins : List Pin) : Table :=
  pins.foldl write table

/-- Of several hashes for one height the first counts. -/
theorem hash?_writeAll (table : Table) (pins : List Pin) (height : Nat) :
    (table.writeAll pins).hash? height =
      (table.hash? height).or ((pins.map fun p => (p.height, p.hash)).lookup height) := by
  induction pins generalizing table with
  | nil => exact (Option.or_none).symm
  | cons pin rest ih =>
      change ((table.write pin).writeAll rest).hash? height = _
      rw [ih, hash?_write, Option.or_assoc, List.map_cons, List.lookup_cons]
      by_cases same : height = pin.height
      · simp [same]
      · rw [if_neg same, Option.none_or, beq_false_of_ne same]

theorem difficulty?_writeAll (table : Table) (pins : List Pin) (height : Nat) :
    (table.writeAll pins).difficulty? height =
      (table.difficulty? height).or
        ((pins.filterMap fun p => p.difficulty.map fun d => (p.height, d)).lookup height) := by
  induction pins generalizing table with
  | nil => exact (Option.or_none).symm
  | cons pin rest ih =>
      change ((table.write pin).writeAll rest).difficulty? height = _
      rw [ih, difficulty?_write, Option.or_assoc, List.filterMap_cons]
      cases given : pin.difficulty with
      | none => simp
      | some d =>
          rw [Option.map_some, List.lookup_cons]
          by_cases same : height = pin.height
          · simp [same]
          · rw [if_neg same, Option.none_or, beq_false_of_ne same]

end Table

end ReorgGuard.Checkpoint
