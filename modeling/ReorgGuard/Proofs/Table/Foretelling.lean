import ReorgGuard.Proofs.Source.FeedRecords
import ReorgGuard.Proofs.Table.Comparison

/-!
What the comparison of two tables foretells.

The entries of a table give each height once.  Taken into another table as a strict source, they are fine
exactly if the two tables agree; as a lenient source they lead to one conflict for each hash in the list of
conflicts, and add what stands at heights that were free.

Difficulties have no part in this: a source carries none.
-/

namespace ReorgGuard.Checkpoint

namespace Table

variable {table other : Table} {points : List (Nat × Hash)}

def asSource (table : Table) : List Entry :=
  FeedRecord.entries table.entries

def clashes (table : Table) (point : Nat × Hash) : Bool :=
  (table.hash? point.1).any (· ≠ point.2)

theorem clashes_eq_true_iff (table : Table) (point : Nat × Hash) :
    table.clashes point = true ↔ ∃ pinned, table.hash? point.1 = some pinned ∧ pinned ≠ point.2 := by
  simp only [clashes, Option.any_eq_true, decide_eq_true_eq]

theorem clashes_write_elsewhere {point later : Nat × Hash} (elsewhere : later.1 ≠ point.1) :
    (table.write (.ofPoint point)).clashes later = table.clashes later := by
  have other : ¬later.1 = (Pin.ofPoint point).height := elsewhere
  rw [clashes, hash?_write, if_neg other, Option.or_none, clashes]

/-! ### Points with distinct heights -/

theorem agrees_iff_of_distinct (distinct : (points.map Prod.fst).Nodup) :
    table.Agrees points ↔ ∀ point ∈ points, table.clashes point = false := by
  have own : ∀ point ∈ points, points.lookup point.1 = some point.2 := fun point member =>
    (lookup_eq_some_iff_mem distinct point.1 point.2).mpr member
  refine forall₂_congr fun point member => ?_
  rw [own point member, clashes]
  cases table.hash? point.1 <;> simp

theorem points_writeAll_of_distinct (distinct : (points.map Prod.fst).Nodup) :
    (table.writeAll (points.map .ofPoint)).points =
      table.points ++ points.filter fun point => (table.hash? point.1).isNone := by
  induction points generalizing table with
  | nil => exact (List.append_nil _).symm
  | cons point rest ih =>
      obtain ⟨fresh, restDistinct⟩ := List.nodup_cons.mp distinct
      have unmoved : rest.filter (fun later => ((table.write (.ofPoint point)).hash? later.1).isNone) =
          rest.filter fun later => (table.hash? later.1).isNone := by
        refine List.filter_congr fun later member => ?_
        have elsewhere : ¬later.1 = (Pin.ofPoint point).height := fun same =>
          fresh (List.mem_map.mpr ⟨later, member, same⟩)
        rw [hash?_write, if_neg elsewhere, Option.or_none]
      change ((table.write (.ofPoint point)).writeAll (rest.map .ofPoint)).points = _
      rw [ih restDistinct, unmoved]
      cases found : table.hash? point.1 with
      | some pinned =>
          rw [write_ofPoint_of_pinned found, List.filter_cons_of_neg]
          rw [found]
          exact Bool.false_ne_true
      | none =>
          have lacking : point.1 ∉ table.points.map Prod.fst := by
            rw [← lookup_isSome_iff_mem_map]
            change ¬(table.hash? point.1).isSome
            rw [found]
            exact Bool.false_ne_true
          have added : (table.write (.ofPoint point)).points = table.points ++ [point] :=
            supply_of_lacking lacking point.2
          rw [added, List.append_assoc, List.singleton_append, List.filter_cons_of_pos]
          rw [found]
          rfl

theorem absorbFrom_counts_clashes (source : String) (report : Report) (opened : table.frozen = false)
    (distinct : (points.map Prod.fst).Nodup) (bounded : ∀ point ∈ points, point.1 ≤ Checkpoint.maxHeight) :
    ∃ final : Report, final.conflicts = report.conflicts + points.countP table.clashes ∧
      (table.absorbFrom ⟨source, .int (-1), false⟩ report (FeedRecord.entries points)).answer = .ok final := by
  -- The table varies; what is written of a point is out of the way of the later ones.
  induction points generalizing table report with
  | nil => exact ⟨report, rfl, rfl⟩
  | cons point rest ih =>
      rcases List.nodup_cons.mp distinct with ⟨fresh, restDistinct⟩
      rw [List.forall_mem_cons] at bounded
      obtain ⟨plain, read⟩ := FeedRecord.entryOf_reads bounded.1
      have above : (-1 : Int) < point.1 := by omega
      by_cases clash : table.clashes point = true
      · obtain ⟨pinned, found, different⟩ := (clashes_eq_true_iff table point).mp clash
        obtain ⟨final, counted, answer⟩ :=
          ih { report with conflicts := report.conflicts + 1 } opened restDistinct bounded.2
        refine ⟨final, ?_, (congrArg Prod.snd (absorbFrom_conflict plain above opened read found different)).trans
          answer⟩
        rw [counted, List.countP_cons_of_pos clash]
        dsimp only
        omega
      · have fits : ∀ pinned, table.hash? point.1 = some pinned → pinned = point.2 := by
          intro pinned found
          by_contra different
          exact clash ((clashes_eq_true_iff table point).mpr ⟨pinned, found, different⟩)
        have unfrozen : (table.write (.ofPoint point)).frozen = false := opened
        obtain ⟨final, counted, answer⟩ :=
          ih { report with added := report.added + 1 } unfrozen restDistinct bounded.2
        refine ⟨final, ?_, (congrArg Prod.snd (absorbFrom_taken plain above opened read fits)).trans answer⟩
        rw [counted, List.countP_cons_of_neg clash, List.countP_congr]
        intro later member
        rw [clashes_write_elsewhere fun same => fresh (List.mem_map.mpr ⟨later, member, same⟩)]

/-! ### The entries of a table -/

theorem Shaped.entries_distinct (shaped : table.Shaped) : (table.entries.map Prod.fst).Nodup :=
  (shaped.entries_perm.map Prod.fst).nodup_iff.mpr shaped.pointsDistinct

theorem agrees_eq_true_iff_entries (shaped : other.Shaped) :
    table.agrees other = true ↔ ∀ point ∈ other.entries, table.clashes point = false := by
  rw [agrees_eq_true_iff shaped]
  constructor
  · intro same point member
    rw [Bool.eq_false_iff]
    intro clash
    obtain ⟨pinned, found, different⟩ := (clashes_eq_true_iff table point).mp clash
    exact same point.1 ⟨pinned, point.2, found, (shaped.mem_entries_iff point.1 point.2).mp member, different⟩
  · intro fits height differs
    rcases differs with ⟨ours, theirs, pinned, offered, different⟩
    have clash := (clashes_eq_true_iff table (height, theirs)).mpr ⟨ours, pinned, different⟩
    rw [fits _ ((shaped.mem_entries_iff height theirs).mpr offered)] at clash
    cases clash

theorem DiffersAt.symm {height : Nat} (differs : table.DiffersAt other height) : other.DiffersAt table height := by
  rcases differs with ⟨ours, theirs, pinned, offered, different⟩
  exact ⟨theirs, ours, offered, pinned, different.symm⟩

theorem agrees_comm (shaped : table.Shaped) (otherShaped : other.Shaped) :
    table.agrees other = other.agrees table := by
  rw [Bool.eq_iff_iff, agrees_eq_true_iff otherShaped, agrees_eq_true_iff shaped]
  exact forall_congr' fun height => not_congr ⟨DiffersAt.symm, DiffersAt.symm⟩

theorem length_hashConflicts (table other : Table) :
    (table.hashConflicts other).length = other.entries.countP table.clashes := by
  rw [hashConflicts, List.length_filterMap_eq_countP]
  refine List.countP_congr fun point _ => ?_
  rcases point with ⟨height, theirs⟩
  dsimp only [clashes]
  cases table.hash? height with
  | none => exact Iff.rfl
  | some pinned => by_cases same : pinned = theirs <;> simp [same]

theorem countP_conflicts (table other : Table) :
    (table.conflicts other).countP (fun conflict => conflict.kind = "hash") =
      other.entries.countP table.clashes := by
  have allHashes : ∀ conflict ∈ table.hashConflicts other, conflict.kind = "hash" := by
    intro conflict member
    obtain ⟨point, _, found⟩ := List.mem_filterMap.mp member
    dsimp only at found
    split at found
    · split at found <;> cases found
      rfl
    · cases found
  have noHashes : ∀ conflict ∈ table.difficultyConflicts other, conflict.kind ≠ "hash" := by
    intro conflict member
    obtain ⟨point, _, found⟩ := List.mem_filterMap.mp member
    dsimp only at found
    split at found
    · split at found <;> cases found
      simp [Conflict.kind]
    · cases found
  rw [conflicts, (List.mergeSort_perm _ _).countP_eq, List.countP_append, ← length_hashConflicts,
    List.countP_eq_length.mpr fun conflict member => decide_eq_true (allHashes conflict member),
    List.countP_eq_zero.mpr fun conflict member => by simpa using noHashes conflict member, Nat.add_zero]

/-- Comparing two tables foretells what taking the entries of the one into the other leads to. -/
theorem comparison_foretells_absorb (operations others : List Operation) (source : String)
    (opened : (empty.performAll operations).frozen = false) :
    let table := empty.performAll operations
    let other := empty.performAll others
    (∃ report, (table.absorb ⟨source, .int (-1), true⟩ other.asSource).answer = .ok report ∧
      (table.agrees other = true ↔ report.ok = true)) ∧
    (∃ report, (table.absorb ⟨source, .int (-1), false⟩ other.asSource).answer = .ok report ∧
      (table.conflicts other).countP (fun conflict => conflict.kind = "hash") = report.conflicts ∧
      (table.absorb ⟨source, .int (-1), false⟩ other.asSource).table.points =
        table.points ++ other.entries.filter fun point => (table.hash? point.1).isNone) ∧
    table.agrees other = other.agrees table := by
  intro table other
  have shaped : table.Shaped := performAll_shaped shaped_empty operations
  have otherShaped : other.Shaped := performAll_shaped shaped_empty others
  have bounded := otherShaped.entries_bounded
  have plain := FeedRecord.entries_plain bounded
  have listed : pointsAbove (-1) other.asSource = other.entries := by
    rw [pointsAbove_all, asSource, FeedRecord.entries_points bounded]
  refine ⟨?_, ?_, agrees_comm shaped otherShaped⟩
  · obtain ⟨report, after, absorbed, isFine, _⟩ :=
      absorbFrom_strict source (-1) (Report.start source) plain opened rfl
    refine ⟨report, congrArg Prod.snd absorbed, ?_⟩
    change report.ok = true ↔ table.Agrees (pointsAbove (-1) other.asSource) at isFine
    rw [isFine, listed, agrees_iff_of_distinct otherShaped.entries_distinct,
      agrees_eq_true_iff_entries otherShaped]
  · obtain ⟨report, counted, answer⟩ := absorbFrom_counts_clashes source (Report.start source) opened
      otherShaped.entries_distinct bounded
    obtain ⟨_, _, _, _, absorbed⟩ := absorbFrom_lenient source (-1) (Report.start source) plain opened
    have after : (table.absorb ⟨source, .int (-1), false⟩ other.asSource).table =
        table.writeAll (other.entries.map .ofPoint) := by
      rw [← listed]
      exact congrArg Prod.fst absorbed
    refine ⟨report, answer, ?_, ?_⟩
    · rw [countP_conflicts, counted]
      exact (Nat.zero_add _).symm
    · rw [after, points_writeAll_of_distinct otherShaped.entries_distinct]

def uniform (height : Nat) (octet : UInt8) : Operation :=
  .add (.int height) (.octets .fixed (List.replicate 32 octet)) .null

theorem comparison_foretells_one_clash :
    let table := empty.performAll [uniform 5 1, uniform 7 2]
    let other := empty.performAll [uniform 9 4, uniform 7 2, uniform 5 3]
    table.frozen = false ∧ table.agrees other = false ∧ other.agrees table = false ∧
      (∃ report, (table.absorb ⟨"peer", .int (-1), true⟩ other.asSource).answer = .ok report ∧
        report.ok = false) ∧
      ∃ report, (table.absorb ⟨"peer", .int (-1), false⟩ other.asSource).answer = .ok report ∧
        report.conflicts = 1 ∧
        (table.absorb ⟨"peer", .int (-1), false⟩ other.asSource).table.points.map Prod.fst = [5, 7, 9] := by
  intro table other
  obtain ⟨⟨strict, strictAnswer, fine⟩, ⟨lenient, answer, counted, points⟩, symmetric⟩ :=
    comparison_foretells_absorb [uniform 5 1, uniform 7 2] [uniform 9 4, uniform 7 2, uniform 5 3] "peer" rfl
  have disagree : table.agrees other = false := by decide +kernel
  refine ⟨rfl, disagree, symmetric.symm.trans disagree, ⟨strict, strictAnswer, ?_⟩, lenient, answer, ?_, ?_⟩
  · rw [Bool.eq_false_iff]
    exact fun isFine => Bool.false_ne_true (disagree.symm.trans (fine.mpr isFine))
  · rw [← counted]
    decide +kernel
  · rw [points]
    decide +kernel

end Table

end ReorgGuard.Checkpoint
