import Mathlib.Data.List.Nodup
import Mathlib.Order.Bounds.Basic
import ReorgGuard.Proofs.Table.Writing

/-!
The shape that every table keeps.

The list of heights ascends and mirrors the pinned hashes, each height is pinned once, and a
difficulty is known only of pinned heights.  Accepting a checkpoint keeps the shape.  Of a table
of this shape the searches in the list of heights are questions about the set of pinned heights:
greatest pinned height, greatest pinned height not above a number, listing in order.
-/

namespace ReorgGuard.Checkpoint

/-! ### Entries with one value for each key -/

theorem lookup_eq_some_iff_mem {α : Type} {entries : List (Nat × α)}
    (distinct : (entries.map Prod.fst).Nodup) (key : Nat) (value : α) :
    entries.lookup key = some value ↔ (key, value) ∈ entries := by
  induction entries with
  | nil => simp
  | cons entry rest ih =>
      rcases entry with ⟨other, held⟩
      have headTail := List.nodup_cons.mp distinct
      by_cases same : key = other
      · subst other
        have absent : (key, value) ∉ rest := fun member =>
          headTail.1 (List.mem_map.mpr ⟨(key, value), member, rfl⟩)
        simp [absent, eq_comm]
      · rw [List.lookup_cons, beq_false_of_ne same, List.mem_cons, ih headTail.2]
        constructor
        · exact Or.inr
        · intro member
          rcases member with atHead | inRest
          · exact absurd (congrArg Prod.fst atHead) same
          · exact inRest

theorem mem_of_lookup {α : Type} {entries : List (Nat × α)} {key : Nat} {value : α}
    (found : entries.lookup key = some value) : (key, value) ∈ entries := by
  rcases List.lookup_eq_some_iff.mp found with ⟨front, back, rfl, _⟩
  exact List.mem_append_right front List.mem_cons_self

theorem lookup_isSome_iff_mem_map {α : Type} {entries : List (Nat × α)} {key : Nat} :
    (entries.lookup key).isSome ↔ key ∈ entries.map Prod.fst := by
  rw [List.lookup_isSome_iff, List.mem_map]
  constructor
  · intro present
    rcases present with ⟨entry, member, same⟩
    exact ⟨entry, member, (beq_iff_eq.mp same).symm⟩
  · intro present
    rcases present with ⟨entry, member, same⟩
    exact ⟨entry, member, beq_iff_eq.mpr same.symm⟩

theorem supply_of_lacking {α : Type} {entries : List (Nat × α)} {key : Nat}
    (lacking : key ∉ entries.map Prod.fst) (value : α) :
    supply entries key (some value) = entries ++ [(key, value)] := by
  rw [supply, if_neg (fun present => lacking (lookup_isSome_iff_mem_map.mp present))]

theorem supply_of_present {α : Type} {entries : List (Nat × α)} {key : Nat}
    (present : key ∈ entries.map Prod.fst) (given : Option α) :
    supply entries key given = entries := by
  cases given with
  | none => rfl
  | some value => rw [supply, if_pos (lookup_isSome_iff_mem_map.mpr present)]

theorem mem_supply_keys_iff {α : Type} (entries : List (Nat × α)) (key other : Nat) (value : α) :
    other ∈ (supply entries key (some value)).map Prod.fst ↔
      other = key ∨ other ∈ entries.map Prod.fst := by
  rw [← lookup_isSome_iff_mem_map, lookup_supply, Option.isSome_or, ← lookup_isSome_iff_mem_map]
  by_cases same : other = key <;> simp [same]

theorem mem_supply_keys {α : Type} {entries : List (Nat × α)} {key other : Nat} {given : Option α}
    (member : other ∈ (supply entries key given).map Prod.fst) :
    other = key ∨ other ∈ entries.map Prod.fst := by
  cases given with
  | none => exact Or.inr member
  | some value => exact (mem_supply_keys_iff entries key other value).mp member

theorem supply_keys_nodup {α : Type} {entries : List (Nat × α)}
    (distinct : (entries.map Prod.fst).Nodup) (key : Nat) (given : Option α) :
    ((supply entries key given).map Prod.fst).Nodup := by
  by_cases present : key ∈ entries.map Prod.fst
  · rw [supply_of_present present]
    exact distinct
  · cases given with
    | none => exact distinct
    | some value =>
        rw [supply_of_lacking present, List.map_append]
        exact (List.perm_append_singleton key _).nodup_iff.mpr (List.nodup_cons.mpr ⟨present, distinct⟩)

/-! ### Ascending heights -/

theorem insertHeight_perm (height : Nat) (heights : List Nat) :
    (insertHeight height heights).Perm (height :: heights) := by
  induction heights with
  | nil => exact List.Perm.refl _
  | cons first rest ih =>
      unfold insertHeight
      split
      · exact List.Perm.refl _
      · exact (ih.cons first).trans (List.Perm.swap height first rest)

theorem insertHeight_ascending {height : Nat} {heights : List Nat}
    (ascending : heights.Pairwise (· < ·)) (fresh : height ∉ heights) :
    (insertHeight height heights).Pairwise (· < ·) := by
  induction heights with
  | nil => exact List.pairwise_singleton _ _
  | cons first rest ih =>
      rcases List.pairwise_cons.mp ascending with ⟨above, restAscending⟩
      obtain ⟨different, restFresh⟩ := not_or.mp (fun member => fresh (List.mem_cons.mpr member))
      unfold insertHeight
      split
      · rename_i below
        refine List.pairwise_cons.mpr ⟨fun other member => ?_, ascending⟩
        rcases List.mem_cons.mp member with atHead | inRest
        · rw [atHead]
          exact below
        · exact below.trans (above other inRest)
      · refine List.pairwise_cons.mpr ⟨fun other member => ?_, ih restAscending restFresh⟩
        rcases List.mem_cons.mp ((insertHeight_perm height rest).mem_iff.mp member) with atHead | inRest
        · omega
        · exact above other inRest

theorem eq_of_ascending {heights others : List Nat} (ascending : heights.Pairwise (· < ·))
    (othersAscending : others.Pairwise (· < ·)) (same : ∀ height, height ∈ heights ↔ height ∈ others) :
    heights = others := by
  have perm : heights.Perm others :=
    (List.perm_ext_iff_of_nodup (ascending.imp Nat.ne_of_lt) (othersAscending.imp Nat.ne_of_lt)).mpr same
  refine perm.eq_of_pairwise (fun low high _ _ below above => ?_) ascending othersAscending
  exact absurd above (Nat.lt_asymm below)

theorem getLast?_eq_some_iff_isGreatest {heights : List Nat}
    (ascending : heights.Pairwise (· < ·)) (height : Nat) :
    heights.getLast? = some height ↔ IsGreatest {other | other ∈ heights} height := by
  have last (found : Nat) (isLast : heights.getLast? = some found) :
      IsGreatest {other | other ∈ heights} found := by
    rcases List.getLast?_eq_some_iff.mp isLast with ⟨front, rfl⟩
    refine ⟨by simp, fun other member => ?_⟩
    rcases List.mem_append.mp member with inFront | atEnd
    · exact ((List.pairwise_append.mp ascending).2.2 other inFront found (by simp)).le
    · exact (List.mem_singleton.mp atEnd).le
  constructor
  · exact last height
  · intro greatest
    cases found : heights.getLast? with
    | none =>
        have empty := List.getLast?_eq_none_iff.mp found
        have member : height ∈ heights := greatest.1
        rw [empty] at member
        cases member
    | some other => rw [(last other found).unique greatest]

theorem mem_takeWhile_le_iff {heights : List Nat} (ascending : heights.Pairwise (· < ·))
    (bound : Int) (height : Nat) :
    height ∈ heights.takeWhile (fun (h : Nat) => (h : Int) ≤ bound) ↔
      height ∈ heights ∧ (height : Int) ≤ bound := by
  induction heights with
  | nil => simp
  | cons first rest ih =>
      obtain ⟨above, restAscending⟩ := List.pairwise_cons.mp ascending
      by_cases within : (first : Int) ≤ bound
      · rw [List.takeWhile_cons_of_pos (by simpa using within), List.mem_cons, List.mem_cons,
          ih restAscending]
        constructor
        · intro either
          rcases either with rfl | ⟨member, below⟩
          · exact ⟨Or.inl rfl, within⟩
          · exact ⟨Or.inr member, below⟩
        · intro both
          rcases both with ⟨atHead | member, below⟩
          · exact Or.inl atHead
          · exact Or.inr ⟨member, below⟩
      · rw [List.takeWhile_cons_of_neg (by simpa using within)]
        constructor
        · intro impossible
          cases impossible
        · intro both
          rcases both with ⟨member, below⟩
          rcases List.mem_cons.mp member with rfl | inRest
          · exact absurd below within
          · have later := above height inRest
            omega

namespace Table

def pinnedHeights (table : Table) : Set Nat :=
  {height | height ∈ table.points.map Prod.fst}

structure Shaped (table : Table) : Prop where
  ascending : table.heights.Pairwise (· < ·)
  mirrored : table.heights.Perm (table.points.map Prod.fst)
  distinct : (table.difficulties.map Prod.fst).Nodup
  covered : ∀ height ∈ table.difficulties.map Prod.fst, height ∈ table.points.map Prod.fst
  bounded : ∀ height ∈ table.heights, height ≤ Checkpoint.maxHeight

theorem shaped_empty : empty.Shaped := by
  constructor <;> simp [empty]

theorem pinned_iff_hash?_isSome {table : Table} {height : Nat} :
    height ∈ table.pinnedHeights ↔ (table.hash? height).isSome :=
  lookup_isSome_iff_mem_map.symm

namespace Shaped

variable {table : Table}

theorem freeze (shaped : table.Shaped) : table.freeze.Shaped :=
  ⟨shaped.ascending, shaped.mirrored, shaped.distinct, shaped.covered, shaped.bounded⟩

theorem mem_heights_iff (shaped : table.Shaped) (height : Nat) :
    height ∈ table.heights ↔ height ∈ table.pinnedHeights :=
  shaped.mirrored.mem_iff

theorem pointsDistinct (shaped : table.Shaped) : (table.points.map Prod.fst).Nodup :=
  shaped.mirrored.nodup_iff.mp (shaped.ascending.imp Nat.ne_of_lt)

theorem mem_points_iff (shaped : table.Shaped) (height : Nat) (hash : Hash) :
    (height, hash) ∈ table.points ↔ table.hash? height = some hash :=
  (lookup_eq_some_iff_mem shaped.pointsDistinct height hash).symm

theorem mem_difficulties_iff (shaped : table.Shaped) (height difficulty : Nat) :
    (height, difficulty) ∈ table.difficulties ↔ table.difficulty? height = some difficulty :=
  (lookup_eq_some_iff_mem shaped.distinct height difficulty).symm

private theorem write_heights (shaped : table.Shaped) (offered : Pin) :
    (table.write offered).heights.Pairwise (· < ·) ∧
      (table.write offered).heights.Perm ((table.write offered).points.map Prod.fst) := by
  by_cases pinned : offered.height ∈ table.pinnedHeights
  · have points : (table.write offered).points = table.points :=
      supply_of_present pinned (some offered.hash)
    have heights : (table.write offered).heights = table.heights :=
      if_pos (pinned_iff_hash?_isSome.mp pinned)
    rw [points, heights]
    exact ⟨shaped.ascending, shaped.mirrored⟩
  · have points : (table.write offered).points = table.points ++ [(offered.height, offered.hash)] :=
      supply_of_lacking pinned offered.hash
    have heights : (table.write offered).heights = insertHeight offered.height table.heights :=
      if_neg (fun present => pinned (pinned_iff_hash?_isSome.mpr present))
    have fresh : offered.height ∉ table.heights := fun member =>
      pinned ((shaped.mem_heights_iff offered.height).mp member)
    rw [points, heights, List.map_append]
    exact ⟨insertHeight_ascending shaped.ascending fresh,
      (insertHeight_perm offered.height table.heights).trans
        ((shaped.mirrored.cons offered.height).trans (List.perm_append_singleton _ _).symm)⟩

theorem write (shaped : table.Shaped) (offered : Pin)
    (inRange : offered.height ≤ Checkpoint.maxHeight) : (table.write offered).Shaped := by
  rcases shaped.write_heights offered with ⟨ascending, mirrored⟩
  have keys (height : Nat) : height ∈ (table.write offered).points.map Prod.fst ↔
      height = offered.height ∨ height ∈ table.points.map Prod.fst :=
    mem_supply_keys_iff table.points offered.height height offered.hash
  refine ⟨ascending, mirrored, supply_keys_nodup shaped.distinct _ _, ?_, ?_⟩
  · intro height member
    rw [keys]
    rcases mem_supply_keys member with same | known
    · exact Or.inl same
    · exact Or.inr (shaped.covered height known)
  · intro height member
    rcases (keys height).mp (mirrored.mem_iff.mp member) with same | pinned
    · rw [same]
      exact inRange
    · exact shaped.bounded height (shaped.mirrored.mem_iff.mpr pinned)

/-! ### Searches -/

theorem maxHeight_of_empty (shaped : table.Shaped) (empty : table.points = []) :
    table.maxHeight = 0 := by
  have noHeights : table.heights = [] := by
    have mirrored := shaped.mirrored
    rw [empty] at mirrored
    exact mirrored.eq_nil
  rw [maxHeight, noHeights]
  rfl

theorem maxHeight_isGreatest (shaped : table.Shaped) (filled : table.points ≠ []) :
    IsGreatest table.pinnedHeights table.maxHeight := by
  have someHeight : table.heights ≠ [] := by
    intro noHeights
    have mirrored := shaped.mirrored
    rw [noHeights] at mirrored
    exact filled (List.map_eq_nil_iff.mp mirrored.nil_eq.symm)
  rcases Option.isSome_iff_exists.mp (List.getLast?_isSome.mpr someHeight) with ⟨last, found⟩
  have greatest := (getLast?_eq_some_iff_isGreatest shaped.ascending last).mp found
  have heights : {other | other ∈ table.heights} = table.pinnedHeights :=
    Set.ext shaped.mem_heights_iff
  rw [maxHeight, found, Option.getD_some, ← heights]
  exact greatest

theorem points_ne_nil {height : Nat} (pinned : height ∈ table.pinnedHeights) :
    table.points ≠ [] := by
  intro empty
  unfold pinnedHeights at pinned
  rw [empty] at pinned
  cases pinned

theorem le_maxHeight (shaped : table.Shaped) {height : Nat}
    (pinned : height ∈ table.pinnedHeights) : height ≤ table.maxHeight :=
  (shaped.maxHeight_isGreatest (points_ne_nil pinned)).2 pinned

theorem floor?_eq_some_iff (shaped : table.Shaped) (bound : Int) (height : Nat) :
    table.floor? bound = some height ↔
      IsGreatest {pinned | pinned ∈ table.pinnedHeights ∧ (pinned : Int) ≤ bound} height := by
  have within : {other | other ∈ table.heights.takeWhile fun (h : Nat) => (h : Int) ≤ bound} =
      {pinned | pinned ∈ table.pinnedHeights ∧ (pinned : Int) ≤ bound} := by
    ext other
    simp only [Set.mem_ofPred_eq, mem_takeWhile_le_iff shaped.ascending, shaped.mem_heights_iff]
  rw [floor?, getLast?_eq_some_iff_isGreatest, within]
  exact shaped.ascending.sublist (List.takeWhile_sublist _)

theorem floor?_eq_none_iff (shaped : table.Shaped) (bound : Int) :
    table.floor? bound = none ↔ ∀ pinned ∈ table.pinnedHeights, bound < (pinned : Int) := by
  rw [floor?, List.getLast?_eq_none_iff, List.eq_nil_iff_forall_not_mem]
  simp only [mem_takeWhile_le_iff shaped.ascending, shaped.mem_heights_iff, not_and, not_le]

/-! ### Listings -/

theorem entries_perm (shaped : table.Shaped) : table.entries.Perm table.points := by
  have listed : (table.points.map Prod.fst).filterMap
      (fun height => (table.hash? height).map fun hash => (height, hash)) = table.points := by
    rw [List.filterMap_map]
    refine (List.filterMap_congr ?_).trans List.filterMap_some
    rintro ⟨height, hash⟩ member
    simp [(shaped.mem_points_iff height hash).mp member]
  have permuted := shaped.mirrored.filterMap
    (fun height => (table.hash? height).map fun hash => (height, hash))
  rw [listed] at permuted
  exact permuted

theorem entries_ascending (shaped : table.Shaped) :
    table.entries.Pairwise (fun a b => a.1 < b.1) := by
  refine shaped.ascending.filterMap _ fun low high below first atLow second atHigh => ?_
  obtain ⟨_, _, rfl⟩ := Option.map_eq_some_iff.mp atLow
  rcases Option.map_eq_some_iff.mp atHigh with ⟨_, _, rfl⟩
  exact below

theorem difficultyEntries_perm : table.difficultyEntries.Perm table.difficulties :=
  List.mergeSort_perm _ _

theorem difficultyEntries_ascending (shaped : table.Shaped) :
    table.difficultyEntries.Pairwise (fun a b => a.1 < b.1) := by
  have sorted : table.difficultyEntries.Pairwise (fun a b => a.1 ≤ b.1) := by
    refine (List.pairwise_mergeSort (fun first second third below above => ?_)
      (fun first second => ?_) table.difficulties).imp of_decide_eq_true
    · exact decide_eq_true ((of_decide_eq_true below).trans (of_decide_eq_true above))
    · simpa only [Bool.or_eq_true, decide_eq_true_eq] using Nat.le_total first.1 second.1
  have different : table.difficultyEntries.Pairwise (fun a b => a.1 ≠ b.1) :=
    List.pairwise_map.mp ((difficultyEntries_perm.map Prod.fst).nodup_iff.mpr shaped.distinct)
  exact (sorted.and different).imp fun both => Nat.lt_of_le_of_ne both.1 both.2

theorem mem_entries_iff (shaped : table.Shaped) (height : Nat) (hash : Hash) :
    (height, hash) ∈ table.entries ↔ table.hash? height = some hash :=
  shaped.entries_perm.mem_iff.trans (shaped.mem_points_iff height hash)

theorem entries_bounded (shaped : table.Shaped) : ∀ entry ∈ table.entries, entry.1 ≤ Checkpoint.maxHeight := by
  intro entry member
  apply shaped.bounded
  rw [shaped.mem_heights_iff]
  exact List.mem_map_of_mem (shaped.entries_perm.mem_iff.mp member)

/-! ### Tables that answer alike -/

section Alike

variable {other : Table} (shaped : table.Shaped) (otherShaped : other.Shaped)

include shaped otherShaped

theorem heights_eq (same : ∀ height, table.hash? height = other.hash? height) :
    table.heights = other.heights := by
  refine eq_of_ascending shaped.ascending otherShaped.ascending fun height => ?_
  rw [shaped.mem_heights_iff, otherShaped.mem_heights_iff, pinned_iff_hash?_isSome, pinned_iff_hash?_isSome,
    same]

theorem maxHeight_eq (same : ∀ height, table.hash? height = other.hash? height) :
    table.maxHeight = other.maxHeight := by
  rw [maxHeight, maxHeight, shaped.heights_eq otherShaped same]

theorem entries_eq (same : ∀ height, table.hash? height = other.hash? height) :
    table.entries = other.entries := by
  simp only [entries, shaped.heights_eq otherShaped same, same]

theorem points_perm (same : ∀ height, table.hash? height = other.hash? height) :
    table.points.Perm other.points := by
  have listed := shaped.entries_perm
  rw [shaped.entries_eq otherShaped same] at listed
  exact listed.symm.trans otherShaped.entries_perm

theorem difficulties_perm (same : ∀ height, table.difficulty? height = other.difficulty? height) :
    table.difficulties.Perm other.difficulties := by
  refine (List.perm_ext_iff_of_nodup (List.Nodup.of_map _ shaped.distinct)
    (List.Nodup.of_map _ otherShaped.distinct)).mpr fun point => ?_
  rcases point with ⟨height, difficulty⟩
  rw [shaped.mem_difficulties_iff, otherShaped.mem_difficulties_iff, same]

end Alike

end Shaped

end Table

end ReorgGuard.Checkpoint
