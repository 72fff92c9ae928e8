import ReorgGuard.Proofs.Table.FirstWrite

/-!
The order in which the live views are gone through.

A view holds its heights in the order of their arrival: hashes as the heights were first pinned, difficulties
as the heights were first given one.  The sorted listings hold the same pins.  View and listing are one
sequence exactly if every height that was new to the view was above all that it held already.

A view that is gone through while its table grows is not looked at.
-/

namespace ReorgGuard.Checkpoint

/-! ### Arrivals -/

/-- A height that is not among the earlier ones is above all of them. -/
def Climbs (heights : List Nat) : Prop :=
  ∀ earlier height later, heights = earlier ++ height :: later → height ∉ earlier →
    ∀ other ∈ earlier, other < height

theorem climbs_nil : Climbs [] := by
  intro earlier height later split
  simp at split

theorem climbs_concat_iff (heights : List Nat) (last : Nat) :
    Climbs (heights ++ [last]) ↔ Climbs heights ∧ (last ∉ heights → ∀ other ∈ heights, other < last) := by
  constructor
  · intro climbs
    constructor
    · intro earlier height later split
      apply climbs earlier height (later ++ [last])
      rw [split, List.append_assoc, List.cons_append]
    · exact climbs heights last [] rfl
  · intro both earlier height later split
    rcases List.eq_nil_or_concat later with rfl | ⟨front, final, rfl⟩
    · obtain ⟨rfl, rfl⟩ := List.append_singleton_inj.mp split
      exact both.2
    · rw [List.concat_eq_append, ← List.cons_append, ← List.append_assoc] at split
      obtain ⟨same, -⟩ := List.append_singleton_inj.mp split
      exact both.1 earlier height front same

theorem eraseDups_concat (heights : List Nat) (last : Nat) :
    (heights ++ [last]).eraseDups =
      if last ∈ heights then heights.eraseDups else heights.eraseDups ++ [last] := by
  rw [List.eraseDups_append, List.removeAll]
  by_cases known : last ∈ heights
  · simp [known]
  · simp [known, List.eraseDups_cons]

theorem eraseDups_ascending_iff (heights : List Nat) :
    heights.eraseDups.Pairwise (· < ·) ↔ Climbs heights := by
  -- The last arrival is either known, and nothing is added, or it has to be above all the others.
  induction heights using List.reverseRecOn with
  | nil => simp [climbs_nil]
  | append_singleton heights last ih =>
      rw [eraseDups_concat, climbs_concat_iff]
      by_cases known : last ∈ heights
      · simp [known, ih]
      · simp [known, ih, List.pairwise_append]

theorem eq_iff_ascending {α : Type} {view listing : List (Nat × α)} (perm : view.Perm listing)
    (listed : listing.Pairwise (fun a b => a.1 < b.1)) :
    view = listing ↔ view.Pairwise (fun a b => a.1 < b.1) := by
  constructor
  · intro same
    rw [same]
    exact listed
  · intro ascending
    apply perm.eq_of_pairwise _ ascending listed
    intro low high _ _ below above
    exact absurd above (Nat.lt_asymm below)

/-! ### Entries that are supplied one after the other -/

def supplyAll {α : Type} (entries : List (Nat × α)) (offers : List (Nat × Option α)) : List (Nat × α) :=
  offers.foldl (fun held offer => supply held offer.1 offer.2) entries

theorem supplyAll_keys {α : Type} (offers : List (Nat × Option α)) :
    (supplyAll [] offers).map Prod.fst =
      ((offers.filter fun offer => offer.2.isSome).map Prod.fst).eraseDups := by
  induction offers using List.reverseRecOn with
  | nil => rfl
  | append_singleton offers last ih =>
      rcases last with ⟨key, given⟩
      have step : supplyAll [] (offers ++ [(key, given)]) = supply (supplyAll [] offers) key given := by
        simp [supplyAll]
      rw [step, List.filter_append, List.map_append]
      cases given with
      | none => simpa [supply] using ih
      | some value =>
          have keys : [(key, some value)].filter (fun offer => offer.2.isSome) = [(key, some value)] := rfl
          rw [keys, List.map_singleton, eraseDups_concat, ← ih]
          by_cases present : key ∈ (supplyAll [] offers).map Prod.fst
          · have known := present
            rw [ih, List.mem_eraseDups] at known
            rw [supply_of_present present, if_pos known]
          · have new := present
            rw [ih, List.mem_eraseDups] at new
            rw [supply_of_lacking present, if_neg new, List.map_append, List.map_singleton]

namespace Table

theorem points_writeAll (table : Table) (pins : List Pin) :
    (table.writeAll pins).points =
      supplyAll table.points (pins.map fun pin => (pin.height, some pin.hash)) := by
  induction pins generalizing table with
  | nil => rfl
  | cons pin rest ih => exact ih (table.write pin)

theorem difficulties_writeAll (table : Table) (pins : List Pin) :
    (table.writeAll pins).difficulties =
      supplyAll table.difficulties (pins.map fun pin => (pin.height, pin.difficulty)) := by
  induction pins generalizing table with
  | nil => rfl
  | cons pin rest ih => exact ih (table.write pin)

def heightsGiven (pins : List Pin) : List Nat :=
  (pins.filter fun pin => pin.difficulty.isSome).map Pin.height

section Accepted

variable {table : Table} {pins : List Pin} (accepts : Accepts empty pins table)

include accepts

theorem Accepts.points_arrival : table.points.map Prod.fst = (pins.map Pin.height).eraseDups := by
  have points : table.points = (empty.writeAll pins).points := by
    rcases accepts.eq_writeAll with rfl | rfl <;> rfl
  rw [points, points_writeAll]
  change (supplyAll [] _).map Prod.fst = _
  rw [supplyAll_keys, List.filter_map, List.map_map]
  simp [Function.comp_def]

theorem Accepts.difficulties_arrival : table.difficulties.map Prod.fst = (heightsGiven pins).eraseDups := by
  have difficulties : table.difficulties = (empty.writeAll pins).difficulties := by
    rcases accepts.eq_writeAll with rfl | rfl <;> rfl
  rw [difficulties, difficulties_writeAll]
  change (supplyAll [] _).map Prod.fst = _
  rw [supplyAll_keys, List.filter_map, List.map_map]
  rfl

end Accepted

/-- A live view holds what its sorted listing holds, in the order of arrival.  It ascends, and is the listing
element by element, exactly if every height that was new to it was above the heights before. -/
theorem live_views_ascend_iff (fillings : List Filling) :
    let table := empty.fillAll fillings
    let log := empty.log fillings
    Accepts empty log table ∧
    (table.points.map Prod.fst = (log.map Pin.height).eraseDups ∧ table.points.Perm table.entries) ∧
    (table.difficulties.map Prod.fst = (heightsGiven log).eraseDups ∧
      table.difficulties.Perm table.difficultyEntries) ∧
    (table.points.Pairwise (fun a b => a.1 < b.1) ↔ Climbs (log.map Pin.height)) ∧
    (table.points = table.entries ↔ Climbs (log.map Pin.height)) ∧
    (table.difficulties.Pairwise (fun a b => a.1 < b.1) ↔ Climbs (heightsGiven log)) ∧
    (table.difficulties = table.difficultyEntries ↔ Climbs (heightsGiven log)) := by
  intro table log
  have accepts : Accepts empty log table := accepts_fillAll empty fillings
  have shaped : table.Shaped := fillAll_shaped fillings
  have points : table.points.Pairwise (fun a b => a.1 < b.1) ↔ Climbs (log.map Pin.height) := by
    rw [← eraseDups_ascending_iff, ← accepts.points_arrival, List.pairwise_map]
  have difficulties : table.difficulties.Pairwise (fun a b => a.1 < b.1) ↔ Climbs (heightsGiven log) := by
    rw [← eraseDups_ascending_iff, ← accepts.difficulties_arrival, List.pairwise_map]
  have listed : table.points.Perm table.entries := shaped.entries_perm.symm
  have listedDifficulties : table.difficulties.Perm table.difficultyEntries :=
    Shaped.difficultyEntries_perm.symm
  exact ⟨accepts, ⟨accepts.points_arrival, listed⟩, ⟨accepts.difficulties_arrival, listedDifficulties⟩,
    points, (eq_iff_ascending listed shaped.entries_ascending).trans points,
    difficulties, (eq_iff_ascending listedDifficulties shaped.difficultyEntries_ascending).trans difficulties⟩

theorem live_views_out_of_order :
    let offer (height : Int) := Filling.perform
      (.add (.int height) (.octets .fixed (List.replicate 32 7)) (.int height))
    let table := empty.fillAll [offer 5, offer 3]
    table.points.map Prod.fst = [5, 3] ∧ table.entries.map Prod.fst = [3, 5] ∧
      table.difficulties = [(5, 5), (3, 3)] ∧ table.difficulties ≠ table.difficultyEntries := by
  intro offer table
  have difficulties : table.difficulties = [(5, 5), (3, 3)] := by decide +kernel
  refine ⟨by decide +kernel, by decide +kernel, difficulties, fun same => ?_⟩
  have ascending := (fillAll_shaped [offer 5, offer 3]).difficultyEntries_ascending
  change table.difficultyEntries.Pairwise _ at ascending
  rw [← same, difficulties] at ascending
  simp at ascending

end Table

end ReorgGuard.Checkpoint
