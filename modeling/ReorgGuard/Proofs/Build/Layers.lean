import ReorgGuard.Proofs.Source.Intake

/-!
Layers of a table.

Each source adds points above everything that came before it.  A layer of such points leaves the
lower ones as they are, and of its own points for one height the first stands.
-/

namespace ReorgGuard.Checkpoint

/-- The greatest height of points, zero if there are none. -/
def greatest (points : List (Nat × Hash)) : Nat :=
  (points.map Prod.fst).max?.getD 0

theorem greatest_isGreatest {points : List (Nat × Hash)} (filled : points ≠ []) :
    IsGreatest {height | height ∈ points.map Prod.fst} (greatest points) := by
  have someHeight : points.map Prod.fst ≠ [] := fun none => filled (List.map_eq_nil_iff.mp none)
  obtain ⟨height, found⟩ := Option.isSome_iff_exists.mp (List.isSome_max?_of_ne_nil someHeight)
  rw [greatest, found, Option.getD_some]
  exact List.max?_eq_some_iff.mp found

theorem le_greatest {points : List (Nat × Hash)} {point : Nat × Hash} (member : point ∈ points) :
    point.1 ≤ greatest points :=
  (greatest_isGreatest (List.ne_nil_of_mem member)).2 (List.mem_map_of_mem member)

theorem greatest_le_append (points more : List (Nat × Hash)) : greatest points ≤ greatest (points ++ more) := by
  by_cases empty : points = []
  · rw [empty]
    exact Nat.zero_le _
  · obtain ⟨point, member, same⟩ := List.mem_map.mp (greatest_isGreatest empty).1
    rw [← same]
    exact le_greatest (List.mem_append_left more member)

/-- Two points give one height different hashes. -/
def Contradictory (points : List (Nat × Hash)) : Prop :=
  ∃ first ∈ points, ∃ second ∈ points, first.1 = second.1 ∧ first.2 ≠ second.2

theorem lookup_iff_mem_of_consistent {points : List (Nat × Hash)} (consistent : ¬Contradictory points)
    {height : Nat} {hash : Hash} : points.lookup height = some hash ↔ (height, hash) ∈ points := by
  refine ⟨mem_of_lookup, fun member => ?_⟩
  have present : (points.lookup height).isSome :=
    lookup_isSome_iff_mem_map.mpr (List.mem_map_of_mem (f := Prod.fst) member)
  rcases Option.isSome_iff_exists.mp present with ⟨other, found⟩
  by_cases same : other = hash
  · rw [found, same]
  · exact absurd ⟨_, mem_of_lookup found, _, member, rfl, same⟩ consistent

namespace Table

variable {table : Table} {points : List (Nat × Hash)}

theorem agrees_iff_of_free (free : ∀ point ∈ points, table.hash? point.1 = none) :
    table.Agrees points ↔ ¬Contradictory points := by
  constructor
  · intro agreed contradictory
    rcases contradictory with ⟨first, isFirst, second, isSecond, sameHeight, different⟩
    have one := agreed first isFirst
    have other := agreed second isSecond
    rw [free first isFirst, Option.none_or] at one
    rw [free second isSecond, Option.none_or, ← sameHeight, one] at other
    exact different (Option.some.inj other)
  · intro consistent point member
    rw [free point member, Option.none_or]
    exact (lookup_iff_mem_of_consistent consistent).mpr member

theorem Shaped.hash?_above (shaped : table.Shaped) {height : Nat} (above : table.maxHeight < height) :
    table.hash? height = none := by
  cases found : table.hash? height with
  | none => rfl
  | some hash =>
      have pinned : height ∈ table.pinnedHeights := by
        rw [pinned_iff_hash?_isSome, found]
        rfl
      have atMost := shaped.le_maxHeight pinned
      omega

theorem Shaped.writeAll (shaped : table.Shaped) {pins : List Pin}
    (inRange : ∀ pin ∈ pins, pin.height ≤ Checkpoint.maxHeight) : (table.writeAll pins).Shaped := by
  induction pins generalizing table with
  | nil => exact shaped
  | cons pin rest ih =>
      rw [List.forall_mem_cons] at inRange
      exact ih (shaped.write pin inRange.1) inRange.2

theorem hash?_writeAll_ofPoint (height : Nat) :
    (table.writeAll (points.map .ofPoint)).hash? height =
      (table.hash? height).or (points.lookup height) := by
  have back : (points.map Pin.ofPoint).map (fun pin => (pin.height, pin.hash)) = points := by
    rw [List.map_map]
    exact List.map_id points
  rw [hash?_writeAll, back]

theorem difficulty?_writeAll_ofPoint (height : Nat) :
    (table.writeAll (points.map .ofPoint)).difficulty? height = table.difficulty? height := by
  have none : ((points.map Pin.ofPoint).filterMap fun pin =>
      pin.difficulty.map fun d => (pin.height, d)) = [] := by
    rw [List.filterMap_map]
    exact List.filterMap_eq_nil_iff.mpr fun point _ => rfl
  rw [difficulty?_writeAll, none, List.lookup_nil, Option.or_none]

/-- A layer above the table adds its points to those of the table. -/
theorem Shaped.hash?_layer (shaped : table.Shaped) (above : ∀ point ∈ points, table.maxHeight < point.1)
    {height : Nat} {hash : Hash} :
    (table.writeAll (points.map .ofPoint)).hash? height = some hash ↔
      table.hash? height = some hash ∨ points.lookup height = some hash := by
  rw [hash?_writeAll_ofPoint, Option.or_eq_some_iff]
  constructor
  · intro pinned
    rcases pinned with low | ⟨_, high⟩
    · exact Or.inl low
    · exact Or.inr high
  · intro either
    rcases either with low | high
    · exact Or.inl low
    · exact Or.inr ⟨shaped.hash?_above (above _ (mem_of_lookup high)), high⟩

theorem Shaped.maxHeight_eq_greatest (shaped : table.Shaped)
    (same : ∀ height, height ∈ table.pinnedHeights ↔ height ∈ points.map Prod.fst) :
    table.maxHeight = greatest points := by
  have heights : table.pinnedHeights = {height | height ∈ points.map Prod.fst} := Set.ext same
  by_cases empty : points = []
  · have noPoints : table.points = [] := by
      by_contra filled
      have pinned := (same _).mp (shaped.maxHeight_isGreatest filled).1
      rw [empty] at pinned
      cases pinned
    rw [shaped.maxHeight_of_empty noPoints, empty]
    rfl
  · obtain ⟨first, isFirst⟩ := List.exists_mem_of_ne_nil points empty
    have pinned := (same first.1).mpr (List.mem_map_of_mem isFirst)
    have greatestPinned := shaped.maxHeight_isGreatest (Shaped.points_ne_nil pinned)
    rw [heights] at greatestPinned
    exact greatestPinned.unique (greatest_isGreatest empty)

end Table

end ReorgGuard.Checkpoint
