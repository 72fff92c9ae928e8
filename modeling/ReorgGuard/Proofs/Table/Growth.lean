import Mathlib.Algebra.Ring.Nat
import Mathlib.Logic.Relation
import ReorgGuard.Checkpoint.Hardcoded
import ReorgGuard.Checkpoint.Source
import ReorgGuard.Proofs.Numeral
import ReorgGuard.Proofs.Table.Shape

/-!
Tables in use.

Whatever an operation answers, what it did to the table is a run of accepted checkpoints, or the
closing of the table.  A property that one accepted checkpoint keeps is therefore kept by every
sequence of operations; the first such property is the shape of the table.
-/

namespace ReorgGuard.Checkpoint

theorem Height.ofInt_le {n : Int} {height : Nat} (read : Height.ofInt n = .ok height) :
    height ≤ maxHeight ∧ (height : Int) = n := by
  unfold Height.ofInt at read
  split at read
  · rename_i inRange
    cases read
    omega
  · split at read <;> cases read

theorem Height.ofInt_natCast {height : Nat} (inRange : height ≤ maxHeight) :
    Height.ofInt height = .ok height := by
  rw [Height.ofInt, if_pos ⟨Int.natCast_nonneg _, Int.ofNat_le.mpr inRange⟩, Int.toNat_natCast]

theorem Height.writable_of_le {height : Nat} (inRange : height ≤ maxHeight) : Numeral.tooLong height = false := by
  apply Numeral.tooLong_of_word
  change height ≤ 2 ^ 64 - 1 at inRange
  omega

theorem Height.ofText_le {s : String} {height : Nat} (read : Height.ofText s = .ok height) :
    height ≤ maxHeight := by
  unfold Height.ofText at read
  dsimp only at read
  split at read
  · cases read
  · split at read
    · cases read
    · exact (Height.ofInt_le read).1

theorem Height.ofValue_le {value : Value} {height : Nat} (read : Height.ofValue value = .ok height) :
    height ≤ maxHeight := by
  cases value with
  | int n => exact (Height.ofInt_le read).1
  | text s => exact Height.ofText_le read
  | _ => cases read

inductive Operation where
  | add (height hash difficulty : Value)
  | seed (network : Network)
  | absorb (intake : Intake) (entries : List Entry)
  /-- Taking in a source without a name, for its yes or no alone. -/
  | load (floor : Value) (strict : Bool) (entries : List Entry)
  | freeze

namespace Table

/-- One table comes from another by one accepted checkpoint. -/
def Took (before after : Table) : Prop :=
  before.frozen = false ∧ ∃ offered : Pin, offered.height ≤ Checkpoint.maxHeight ∧
    before.Admits offered ∧ before.write offered = after

/-- One table comes from another by accepted checkpoints, one after the other. -/
def Grew : Table → Table → Prop :=
  Relation.ReflTransGen Took

def perform (table : Table) : Operation → Table
  | .add height hash difficulty => (table.add height hash difficulty).table table
  | .seed network => (table.seed network).table
  | .absorb intake entries => (table.absorb intake entries).table
  | .load floor strict entries => (table.absorb ⟨"source", floor, strict⟩ entries).table
  | .freeze => table.freeze

def performAll (table : Table) (operations : List Operation) : Table :=
  operations.foldl perform table

theorem Grew.refl (table : Table) : table.Grew table :=
  Relation.ReflTransGen.refl

theorem Grew.trans {first second third : Table} (early : first.Grew second)
    (late : second.Grew third) : first.Grew third :=
  Relation.ReflTransGen.trans early late

theorem Grew.of_accepted {before after : Table} {height hash difficulty : Value}
    (added : before.add height hash difficulty = .accepted after) : before.Grew after := by
  obtain ⟨opened, offered, read, admitted, written⟩ := add_eq_accepted_iff.mp added
  exact Relation.ReflTransGen.single
    ⟨opened, offered, Height.ofValue_le read.readHeight, admitted, written⟩

theorem Grew.frozen_eq {before after : Table} (grew : before.Grew after) :
    after.frozen = before.frozen := by
  induction grew with
  | refl => rfl
  | tail _ took ih =>
      rcases took with ⟨_, offered, _, _, rfl⟩
      exact ih

theorem Grew.hash?_of_some {before after : Table} (grew : before.Grew after) {height : Nat} {hash : Hash}
    (pinned : before.hash? height = some hash) : after.hash? height = some hash := by
  induction grew with
  | refl => exact pinned
  | tail _ took ih =>
      rcases took with ⟨_, offered, _, _, rfl⟩
      rw [hash?_write, ih, Option.some_or]

theorem add_grew (table : Table) (height hash difficulty : Value) :
    table.Grew ((table.add height hash difficulty).table table) := by
  cases added : table.add height hash difficulty with
  | accepted next => exact Grew.of_accepted added
  | refused why => exact Grew.refl table
  | failed error => exact Grew.refl table

theorem seedFrom_grew (network : Network) (table : Table) (points : List Hardcoded) :
    table.Grew (table.seedFrom network points).table := by
  induction points generalizing table with
  | nil => exact Grew.refl table
  | cons point rest ih =>
      unfold seedFrom
      split
      · rename_i next added
        exact (Grew.of_accepted added).trans (ih next)
      · exact Grew.refl table
      · exact Grew.refl table

theorem absorbFrom_grew (intake : Intake) (table : Table) (report : Report) (entries : List Entry) :
    table.Grew (table.absorbFrom intake report entries).table := by
  induction entries generalizing table report with
  | nil => exact Grew.refl table
  | cons entry rest ih =>
      unfold absorbFrom
      split
      · exact Grew.refl table
      · exact ih table _
      · split
        · exact Grew.refl table
        · exact ih table _
        · split
          · exact Grew.refl table
          · rename_i next added
            exact (Grew.of_accepted added).trans (ih next _)
          · dsimp only
            split
            · exact Grew.refl table
            · exact ih table _

theorem perform_grew_or_freezes (table : Table) (operation : Operation) :
    table.Grew (table.perform operation) ∨ table.perform operation = table.freeze := by
  cases operation with
  | add height hash difficulty => exact Or.inl (add_grew table height hash difficulty)
  | seed network => exact Or.inl (seedFrom_grew network table _)
  | absorb intake entries => exact Or.inl (absorbFrom_grew intake table _ entries)
  | load floor strict entries => exact Or.inl (absorbFrom_grew _ table _ entries)
  | freeze => exact Or.inr rfl

theorem Grew.shaped {before after : Table} (grew : before.Grew after) (shaped : before.Shaped) :
    after.Shaped := by
  induction grew with
  | refl => exact shaped
  | tail _ took ih =>
      obtain ⟨_, offered, inRange, _, rfl⟩ := took
      exact ih.write offered inRange

theorem performAll_shaped {table : Table} (shaped : table.Shaped) (operations : List Operation) :
    (table.performAll operations).Shaped := by
  induction operations generalizing table with
  | nil => exact shaped
  | cons operation rest ih =>
      apply ih
      rcases table.perform_grew_or_freezes operation with grew | closed
      · exact grew.shaped shaped
      · rw [closed]
        exact shaped.freeze

/-- Every table that operations can make of the empty one mirrors its pins, and its searches and listings
answer for the set of pins. -/
theorem performAll_represents_pins (operations : List Operation) :
    let table := empty.performAll operations
    (table.heights.Pairwise (· < ·) ∧
      (∀ height, height ∈ table.heights ↔ height ∈ table.points.map Prod.fst) ∧
      (table.points.map Prod.fst).Nodup ∧ (table.difficulties.map Prod.fst).Nodup ∧
      (∀ height ∈ table.difficulties.map Prod.fst, height ∈ table.points.map Prod.fst) ∧
      (∀ height ∈ table.heights, 0 ≤ height ∧ height ≤ 2 ^ 64 - 1) ∧
      (∀ point ∈ table.points, point.2.octets.length = 32) ∧
      (∀ point ∈ table.difficulties, 0 ≤ point.2)) ∧
    (table.points = [] → table.maxHeight = 0) ∧
    (table.points ≠ [] → IsGreatest table.pinnedHeights table.maxHeight) ∧
    (∀ (bound : Int) (height : Nat), table.floor? bound = some height ↔
      IsGreatest {pinned | pinned ∈ table.pinnedHeights ∧ (pinned : Int) ≤ bound} height) ∧
    (∀ bound : Int, table.floor? bound = none ↔
      ∀ pinned ∈ table.pinnedHeights, bound < (pinned : Int)) ∧
    (table.entries.Perm table.points ∧ table.entries.Pairwise (fun a b => a.1 < b.1)) ∧
    (table.difficultyEntries.Perm table.difficulties ∧
      table.difficultyEntries.Pairwise (fun a b => a.1 < b.1)) := by
  intro table
  have shaped : table.Shaped := performAll_shaped shaped_empty operations
  refine ⟨⟨shaped.ascending, shaped.mem_heights_iff, shaped.pointsDistinct, shaped.distinct,
      shaped.covered, fun height member => ⟨Nat.zero_le height, shaped.bounded height member⟩,
      fun point _ => point.2.size, fun point _ => Nat.zero_le point.2⟩,
    shaped.maxHeight_of_empty, shaped.maxHeight_isGreatest, shaped.floor?_eq_some_iff,
    shaped.floor?_eq_none_iff, ⟨shaped.entries_perm, shaped.entries_ascending⟩,
    ⟨Shaped.difficultyEntries_perm, shaped.difficultyEntries_ascending⟩⟩

end Table

end ReorgGuard.Checkpoint
