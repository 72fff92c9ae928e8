import ReorgGuard.Proofs.Table.Comparison
import ReorgGuard.Proofs.Table.Growth

/-!
The list of conflicts as a whole.

Every difference between two tables stands in the list once, the list ascends strictly by height and kind, and
the comparison the other way round gives the same list with the sides exchanged.

What is said when two tables disagree is not part of the list and is left aside.
-/

namespace ReorgGuard.Checkpoint

namespace Conflict

/-- The strict order of the list: by height, and at one height by the name of the kind. -/
def Precedes (a b : Conflict) : Prop :=
  a.height < b.height ∨ a.height = b.height ∧ a.kind < b.kind

def samePlace (a b : Conflict) : Bool :=
  a.height == b.height && a.kind == b.kind

def swap : Conflict → Conflict
  | hash height ours theirs => hash height theirs ours
  | difficulty height ours theirs => difficulty height theirs ours

theorem kind_lt_iff (a b : Conflict) : a.kind < b.kind ↔ a.rank < b.rank := by
  have names : "difficulty" < "hash" ∧ ¬"hash" < "difficulty" ∧
      ¬"hash" < "hash" ∧ ¬"difficulty" < "difficulty" := by decide
  cases a <;> cases b <;> simp [kind, rank, names]

theorem kind_eq_iff (a b : Conflict) : a.kind = b.kind ↔ a.rank = b.rank := by
  cases a <;> cases b <;> simp [kind, rank]

theorem precedes_iff (a b : Conflict) :
    a.Precedes b ↔ a.height < b.height ∨ a.height = b.height ∧ a.rank < b.rank := by
  rw [Precedes, kind_lt_iff]

theorem Precedes.asymm {a b : Conflict} (first : a.Precedes b) : ¬b.Precedes a := by
  rw [precedes_iff] at first ⊢
  omega

theorem Precedes.ne {a b : Conflict} (first : a.Precedes b) : a ≠ b := by
  rintro rfl
  exact first.asymm first

theorem samePlace_iff (a b : Conflict) : a.samePlace b = true ↔ a.height = b.height ∧ a.rank = b.rank := by
  rw [samePlace, Bool.and_eq_true, beq_iff_eq, beq_iff_eq, kind_eq_iff]

theorem swap_swap (conflict : Conflict) : conflict.swap.swap = conflict := by
  cases conflict <;> rfl

theorem precedes_swap_iff (a b : Conflict) : a.swap.Precedes b.swap ↔ a.Precedes b := by
  cases a <;> cases b <;> rfl

section Holds

variable {table other : Table} {a b : Conflict}

theorem swap_holds_iff : a.swap.Holds other table ↔ a.Holds table other := by
  cases a <;> exact ⟨fun h => ⟨h.2.1, h.1, h.2.2.symm⟩, fun h => ⟨h.2.1, h.1, h.2.2.symm⟩⟩

theorem Holds.unique (one : a.Holds table other) (another : b.Holds table other)
    (place : a.samePlace b = true) : a = b := by
  obtain ⟨height, rank⟩ := (samePlace_iff a b).mp place
  cases a with
  | hash h x y =>
      cases b with
      | difficulty => cases rank
      | hash h' x' y' =>
          cases height
          have ours : x = x' := Option.some.inj (one.1.symm.trans another.1)
          have theirs : y = y' := Option.some.inj (one.2.1.symm.trans another.2.1)
          rw [ours, theirs]
  | difficulty h d e =>
      cases b with
      | hash => cases rank
      | difficulty h' d' e' =>
          cases height
          have ours : d = d' := Option.some.inj (one.1.symm.trans another.1)
          have theirs : e = e' := Option.some.inj (one.2.1.symm.trans another.2.1)
          rw [ours, theirs]

end Holds

end Conflict

namespace Table

variable {table other : Table}

theorem filterMap_ascending {α : Type} {entries : List (Nat × α)} {f : Nat × α → Option Conflict}
    (ascending : entries.Pairwise (fun a b => a.1 < b.1))
    (own : ∀ entry conflict, f entry = some conflict → conflict.height = entry.1) :
    (entries.filterMap f).Pairwise (fun a b => a.height < b.height) := by
  refine ascending.filterMap f fun low high below first atLow second atHigh => ?_
  rw [own low first atLow, own high second atHigh]
  exact below

theorem hashConflicts_ascending (shaped : other.Shaped) :
    (table.hashConflicts other).Pairwise (fun a b => a.height < b.height) := by
  refine filterMap_ascending shaped.entries_ascending fun entry conflict found => ?_
  dsimp only at found
  split at found
  · split at found <;> cases found
    rfl
  · cases found

theorem difficultyConflicts_ascending (shaped : other.Shaped) :
    (table.difficultyConflicts other).Pairwise (fun a b => a.height < b.height) := by
  refine filterMap_ascending shaped.difficultyEntries_ascending fun entry conflict found => ?_
  dsimp only at found
  split at found
  · split at found <;> cases found
    rfl
  · cases found

theorem nodup_of_ascending {found : List Conflict} (ascending : found.Pairwise (fun a b => a.height < b.height)) :
    found.Nodup :=
  ascending.imp fun below same => Nat.ne_of_lt below (congrArg Conflict.height same)

theorem conflicts_nodup (shaped : other.Shaped) : (table.conflicts other).Nodup := by
  refine (List.mergeSort_perm _ _).nodup_iff.mpr (List.nodup_append.mpr
    ⟨nodup_of_ascending (hashConflicts_ascending shaped), nodup_of_ascending (difficultyConflicts_ascending shaped), ?_⟩)
  intro first isHash second isDifficulty
  obtain ⟨_, _, _, rfl, _⟩ := (mem_hashConflicts_iff shaped first).mp isHash
  obtain ⟨_, _, _, rfl, _⟩ := (mem_difficultyConflicts_iff shaped second).mp isDifficulty
  intro impossible
  cases impossible

theorem conflicts_strictly_ordered (shaped : other.Shaped) :
    (table.conflicts other).Pairwise Conflict.Precedes := by
  refine ((table.conflicts_ordered other).and (conflicts_nodup shaped)).imp_of_mem ?_
  intro a b isFirst isSecond both
  obtain ⟨before, different⟩ := both
  have apart : ¬(a.height = b.height ∧ a.rank = b.rank) := by
    intro place
    exact different (((mem_conflicts_iff shaped a).mp isFirst).unique ((mem_conflicts_iff shaped b).mp isSecond)
      ((Conflict.samePlace_iff a b).mpr place))
  rw [Conflict.before_eq_true_iff] at before
  rw [Conflict.precedes_iff]
  omega

theorem conflicts_at_place (shaped : other.Shaped) {conflict : Conflict} (listed : conflict ∈ table.conflicts other) :
    (table.conflicts other).filter conflict.samePlace = [conflict] := by
  have holds := (mem_conflicts_iff shaped conflict).mp listed
  have perm : ((table.conflicts other).filter conflict.samePlace).Perm [conflict] := by
    refine (List.perm_ext_iff_of_nodup ((conflicts_nodup shaped).filter _) (List.nodup_singleton _)).mpr fun a => ?_
    rw [List.mem_filter, List.mem_singleton]
    constructor
    · intro there
      exact (holds.unique ((mem_conflicts_iff shaped a).mp there.1) there.2).symm
    · intro same
      rw [same]
      exact ⟨listed, (Conflict.samePlace_iff _ _).mpr ⟨rfl, rfl⟩⟩
  exact List.perm_singleton.mp perm

theorem conflicts_swap (shaped : table.Shaped) (otherShaped : other.Shaped) :
    other.conflicts table = (table.conflicts other).map Conflict.swap := by
  -- Exchanging the sides moves no conflict, so both lists ascend strictly and have the same members.
  have ordered : (table.conflicts other).Pairwise Conflict.Precedes := conflicts_strictly_ordered otherShaped
  have swapped : ((table.conflicts other).map Conflict.swap).Pairwise Conflict.Precedes :=
    List.pairwise_map.mpr (ordered.imp (Conflict.precedes_swap_iff _ _).mpr)
  have backwards : (other.conflicts table).Pairwise Conflict.Precedes := conflicts_strictly_ordered shaped
  have members (conflict : Conflict) :
      conflict ∈ other.conflicts table ↔ conflict ∈ (table.conflicts other).map Conflict.swap := by
    rw [mem_conflicts_iff shaped, List.mem_map]
    constructor
    · intro holds
      refine ⟨conflict.swap, (mem_conflicts_iff otherShaped _).mpr ?_, conflict.swap_swap⟩
      exact Conflict.swap_holds_iff.mpr holds
    · intro listed
      obtain ⟨mirrored, isListed, rfl⟩ := listed
      exact Conflict.swap_holds_iff.mpr ((mem_conflicts_iff otherShaped mirrored).mp isListed)
  have perm : (other.conflicts table).Perm ((table.conflicts other).map Conflict.swap) :=
    (List.perm_ext_iff_of_nodup (backwards.imp Conflict.Precedes.ne) (swapped.imp Conflict.Precedes.ne)).mpr members
  exact perm.eq_of_pairwise (fun _ _ _ _ first second => absurd second first.asymm) backwards swapped

/-- The list of conflicts of two tables holds their differences with the values of either side and nothing else,
one for each height and kind, in strict order; from the other side it is the same list exchanged. -/
theorem conflicts_list_differences_once (operations others : List Operation) :
    let table := empty.performAll operations
    let other := empty.performAll others
    let found := table.conflicts other
    (∀ conflict, conflict ∈ found ↔ conflict.Holds table other) ∧
    (∀ conflict ∈ found, found.filter conflict.samePlace = [conflict]) ∧
    found.Pairwise Conflict.Precedes ∧
    other.conflicts table = found.map Conflict.swap := by
  intro table other found
  have shaped : table.Shaped := performAll_shaped shaped_empty operations
  have otherShaped : other.Shaped := performAll_shaped shaped_empty others
  exact ⟨mem_conflicts_iff otherShaped, fun _ => conflicts_at_place otherShaped,
    conflicts_strictly_ordered otherShaped, conflicts_swap shaped otherShaped⟩

end Table

end ReorgGuard.Checkpoint
