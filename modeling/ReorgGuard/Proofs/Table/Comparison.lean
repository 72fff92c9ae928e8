import ReorgGuard.Checkpoint.Conflict
import ReorgGuard.Proofs.Table.Shape

/-!
What the comparison of two tables says about their pins.

Two tables agree exactly when they differ at no height that both pin.  The list of conflicts holds the
differences in hash and in difficulty, and no others, in its order; so of two tables with the same
difficulties its head stands at the least height at which the hashes differ.
-/

namespace ReorgGuard.Checkpoint

namespace Conflict

def Holds (table other : Table) : Conflict → Prop
  | hash height ours theirs =>
      table.hash? height = some ours ∧ other.hash? height = some theirs ∧ ours ≠ theirs
  | difficulty height ours theirs =>
      table.difficulty? height = some ours ∧ other.difficulty? height = some theirs ∧ ours ≠ theirs

theorem before_eq_true_iff (a b : Conflict) :
    a.before b = true ↔ a.height < b.height ∨ a.height = b.height ∧ a.rank ≤ b.rank := by
  simp [before]

theorem before_trans (a b c : Conflict) (first : a.before b = true) (second : b.before c = true) :
    a.before c = true := by
  rw [before_eq_true_iff] at first second ⊢
  omega

theorem before_total (a b : Conflict) : (a.before b || b.before a) = true := by
  rw [Bool.or_eq_true, before_eq_true_iff, before_eq_true_iff]
  omega

end Conflict

namespace Table

def DiffersAt (table other : Table) (height : Nat) : Prop :=
  ∃ ours theirs, table.hash? height = some ours ∧ other.hash? height = some theirs ∧ ours ≠ theirs

variable {table other : Table}

theorem eq_of_not_differsAt {height : Nat} (same : ¬table.DiffersAt other height) {ours theirs : Hash}
    (pinned : table.hash? height = some ours) (offered : other.hash? height = some theirs) :
    ours = theirs := by
  by_contra different
  exact same ⟨ours, theirs, pinned, offered, different⟩

theorem not_differsAt_of_agrees (agreed : table.agrees other = true) (height : Nat) :
    ¬table.DiffersAt other height := by
  intro differs
  rcases differs with ⟨ours, theirs, pinned, offered, different⟩
  rw [agrees, firstHashConflict?, Option.isNone_iff_eq_none, List.findSome?_eq_none_iff] at agreed
  have atHeight := agreed (height, theirs) (mem_of_lookup offered)
  simp [pinned, different] at atHeight

theorem agrees_eq_true_iff (shaped : other.Shaped) :
    table.agrees other = true ↔ ∀ height, ¬table.DiffersAt other height := by
  refine ⟨not_differsAt_of_agrees, fun same => ?_⟩
  rw [agrees, firstHashConflict?, Option.isNone_iff_eq_none, List.findSome?_eq_none_iff]
  intro point member
  have offered := (shaped.mem_points_iff point.1 point.2).mp member
  dsimp only
  split
  · rename_i ours pinned
    exact if_pos (eq_of_not_differsAt (same point.1) pinned offered)
  · rfl

theorem Shaped.agrees_self (shaped : table.Shaped) : table.agrees table = true := by
  rw [agrees_eq_true_iff shaped]
  intro height differs
  rcases differs with ⟨ours, theirs, pinned, offered, different⟩
  rw [pinned] at offered
  exact different (Option.some.inj offered)

/-! ### The list of conflicts -/

theorem mem_hashConflicts_iff (shaped : other.Shaped) (conflict : Conflict) :
    conflict ∈ table.hashConflicts other ↔
      ∃ height ours theirs, .hash height ours theirs = conflict ∧
        (Conflict.hash height ours theirs).Holds table other := by
  rw [hashConflicts, List.mem_filterMap]
  constructor
  · intro listed
    rcases listed with ⟨⟨height, theirs⟩, member, found⟩
    have offered := (shaped.mem_points_iff height theirs).mp (shaped.entries_perm.mem_iff.mp member)
    dsimp only at found
    split at found
    · rename_i ours pinned
      split at found <;> cases found
      rename_i different
      exact ⟨height, ours, theirs, rfl, pinned, offered, different⟩
    · cases found
  · intro differs
    rcases differs with ⟨height, ours, theirs, rfl, pinned, offered, different⟩
    have member := shaped.entries_perm.mem_iff.mpr ((shaped.mem_points_iff height theirs).mpr offered)
    refine ⟨(height, theirs), member, ?_⟩
    simp only [pinned, if_neg different]

theorem mem_difficultyConflicts_iff (shaped : other.Shaped) (conflict : Conflict) :
    conflict ∈ table.difficultyConflicts other ↔
      ∃ height ours theirs, .difficulty height ours theirs = conflict ∧
        (Conflict.difficulty height ours theirs).Holds table other := by
  rw [difficultyConflicts, List.mem_filterMap]
  constructor
  · intro listed
    rcases listed with ⟨⟨height, theirs⟩, member, found⟩
    have offered :=
      (shaped.mem_difficulties_iff height theirs).mp (Shaped.difficultyEntries_perm.mem_iff.mp member)
    dsimp only at found
    split at found
    · rename_i ours known
      split at found <;> cases found
      rename_i different
      exact ⟨height, ours, theirs, rfl, known, offered, different⟩
    · cases found
  · intro differs
    rcases differs with ⟨height, ours, theirs, rfl, known, offered, different⟩
    have member :=
      Shaped.difficultyEntries_perm.mem_iff.mpr ((shaped.mem_difficulties_iff height theirs).mpr offered)
    refine ⟨(height, theirs), member, ?_⟩
    simp only [known, if_neg different]

/-- The list of conflicts holds every difference between the tables and nothing else. -/
theorem mem_conflicts_iff (shaped : other.Shaped) (conflict : Conflict) :
    conflict ∈ table.conflicts other ↔ conflict.Holds table other := by
  rw [conflicts, (List.mergeSort_perm _ _).mem_iff, List.mem_append, mem_hashConflicts_iff shaped,
    mem_difficultyConflicts_iff shaped]
  constructor
  · intro either
    rcases either with ⟨height, ours, theirs, rfl, holds⟩ | ⟨height, ours, theirs, rfl, holds⟩
    · exact holds
    · exact holds
  · intro holds
    cases conflict with
    | hash height ours theirs => exact Or.inl ⟨height, ours, theirs, rfl, holds⟩
    | difficulty height ours theirs => exact Or.inr ⟨height, ours, theirs, rfl, holds⟩

theorem conflicts_ordered (table other : Table) :
    (table.conflicts other).Pairwise (fun a b => a.before b = true) :=
  List.pairwise_mergeSort Conflict.before_trans Conflict.before_total _

theorem head?_conflicts_isLeast (shaped : other.Shaped) {first : Conflict}
    (isFirst : (table.conflicts other).head? = some first) :
    IsLeast {height | ∃ conflict : Conflict, conflict.Holds table other ∧ conflict.height = height}
      first.height := by
  obtain ⟨rest, listed⟩ := List.head?_eq_some_iff.mp isFirst
  have ordered := table.conflicts_ordered other
  rw [listed, List.pairwise_cons] at ordered
  constructor
  · have member : first ∈ table.conflicts other := by
      rw [listed]
      exact List.mem_cons_self
    exact ⟨first, (mem_conflicts_iff shaped first).mp member, rfl⟩
  · intro height differs
    rcases differs with ⟨conflict, holds, rfl⟩
    have member := (mem_conflicts_iff shaped conflict).mpr holds
    rw [listed, List.mem_cons] at member
    rcases member with rfl | later
    · exact le_rfl
    · have before := (Conflict.before_eq_true_iff _ _).mp (ordered.1 conflict later)
      omega

/-- Of tables with the same difficulties that do not agree, the first conflict stands at the least height at
which the hashes differ. -/
theorem exists_least_of_disagree (shaped : other.Shaped)
    (difficulties : ∀ height, table.difficulty? height = other.difficulty? height)
    (disagree : table.agrees other = false) :
    ∃ least, (table.conflicts other).head?.map Conflict.height = some least ∧
      IsLeast {height | table.DiffersAt other height} least := by
  have onlyHashes : {height | ∃ conflict : Conflict, conflict.Holds table other ∧ conflict.height = height} =
      {height | table.DiffersAt other height} := by
    ext height
    constructor
    · intro differs
      rcases differs with ⟨conflict, holds, rfl⟩
      cases conflict with
      | hash height ours theirs => exact ⟨ours, theirs, holds⟩
      | difficulty height ours theirs =>
          rcases holds with ⟨known, offered, different⟩
          rw [difficulties, offered] at known
          exact absurd (Option.some.inj known).symm different
    · intro differs
      rcases differs with ⟨ours, theirs, holds⟩
      exact ⟨.hash height ours theirs, holds, rfl⟩
  cases isFirst : (table.conflicts other).head? with
  | some first =>
      refine ⟨first.height, rfl, ?_⟩
      rw [← onlyHashes]
      exact head?_conflicts_isLeast shaped isFirst
  | none =>
      have noConflict : ∀ height, ¬table.DiffersAt other height := by
        intro height differs
        obtain ⟨ours, theirs, holds⟩ := differs
        have member := (mem_conflicts_iff shaped (.hash height ours theirs)).mpr holds
        rw [List.head?_eq_none_iff.mp isFirst] at member
        cases member
      rw [(agrees_eq_true_iff shaped).mpr noConflict] at disagree
      cases disagree

end Table

end ReorgGuard.Checkpoint
