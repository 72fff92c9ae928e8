import ReorgGuard.Checkpoint.Verdict
import ReorgGuard.Proofs.Table.Growth

/-!
What the verdicts on forks and on the zone say about the set of pinned heights.

A fork is decided by one search for the nearest pinned height at or below the tip, the zone by the
greatest pinned height.  Both answers are the expected statements about all pinned heights, and
above the greatest of them the two are opposites.

Nothing is said here about the hashes of blocks.
-/

namespace ReorgGuard.Checkpoint.Table

variable {table : Table}

/-- A fork is allowed exactly above every pinned height that the tip has reached. -/
theorem Shaped.mayFork_iff (shaped : table.Shaped) (tip block : Int) :
    table.mayFork tip block = true ↔
      block ≠ 0 ∧ ∀ pinned ∈ table.pinnedHeights, (pinned : Int) ≤ tip → (pinned : Int) < block := by
  unfold mayFork
  by_cases first : block = 0
  · simp [first]
  · rw [if_neg first]
    cases nearest : table.floor? tip with
    | none =>
        have above := (shaped.floor?_eq_none_iff tip).mp nearest
        refine iff_of_true rfl ⟨first, fun pinned member reached => ?_⟩
        have beyond := above pinned member
        omega
    | some height =>
        have greatest := (shaped.floor?_eq_some_iff tip height).mp nearest
        rw [decide_eq_true_eq]
        constructor
        · intro below
          refine ⟨first, fun pinned member reached => ?_⟩
          have atMost : pinned ≤ height := greatest.2 ⟨member, reached⟩
          omega
        · intro allowed
          rcases allowed with ⟨_, clear⟩
          exact clear height greatest.1.1 greatest.1.2

/-- A height is in the zone exactly when some pinned height is at or above it. -/
theorem Shaped.inZone_iff (shaped : table.Shaped) (height : Int) :
    table.inZone height = true ↔ ∃ pinned ∈ table.pinnedHeights, height ≤ (pinned : Int) := by
  unfold inZone size
  rw [Bool.and_eq_true, decide_eq_true_eq, decide_eq_true_eq, List.length_pos_iff]
  constructor
  · intro inside
    rcases inside with ⟨filled, within⟩
    exact ⟨table.maxHeight, (shaped.maxHeight_isGreatest filled).1, within⟩
  · intro reached
    rcases reached with ⟨pinned, member, within⟩
    have atMost := shaped.le_maxHeight member
    exact ⟨Shaped.points_ne_nil member, by omega⟩

theorem Shaped.mayFork_iff_not_inZone (shaped : table.Shaped) {tip block : Int}
    (reached : (table.maxHeight : Int) ≤ tip) (positive : 1 ≤ block) :
    table.mayFork tip block = true ↔ table.inZone block = false := by
  have underTip (pinned : Nat) (member : pinned ∈ table.pinnedHeights) : (pinned : Int) ≤ tip := by
    have atMost := shaped.le_maxHeight member
    omega
  rw [shaped.mayFork_iff, ← Bool.not_eq_true, shaped.inZone_iff]
  constructor
  · intro allowed inside
    rcases allowed with ⟨_, clear⟩
    rcases inside with ⟨pinned, member, within⟩
    have above := clear pinned member (underTip pinned member)
    omega
  · intro outside
    refine ⟨by omega, fun pinned member _ => ?_⟩
    by_contra notAbove
    exact outside ⟨pinned, member, by omega⟩

/-- On every table that operations can make, the verdicts on forks and on the zone are what the set of pinned
heights says. -/
theorem performAll_verdicts_of_pins (operations : List Operation) :
    let table := empty.performAll operations
    (∀ tip block : Int, table.mayFork tip block = true ↔
      block ≠ 0 ∧ ∀ pinned ∈ table.pinnedHeights, (pinned : Int) ≤ tip → (pinned : Int) < block) ∧
    (∀ height : Int, table.inZone height = true ↔
      ∃ pinned ∈ table.pinnedHeights, height ≤ (pinned : Int)) ∧
    (∀ tip block : Int, (table.maxHeight : Int) ≤ tip → 1 ≤ block →
      (table.mayFork tip block = true ↔ table.inZone block = false)) := by
  intro table
  have shaped : table.Shaped := performAll_shaped shaped_empty operations
  exact ⟨shaped.mayFork_iff, shaped.inZone_iff, fun _ _ reached positive =>
    shaped.mayFork_iff_not_inZone reached positive⟩

end ReorgGuard.Checkpoint.Table
