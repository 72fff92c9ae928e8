import Mathlib.Order.Lattice.Nat
import ReorgGuard.Proofs.Hardcoded
import ReorgGuard.Proofs.Table.FirstWrite
import ReorgGuard.Proofs.Table.Foretelling

/-!
Seeding a table that holds something already.

The hardcoded checkpoints are offered from the lowest one on.  If the table disputes none of them, by another
hash or another difficulty, it gains them all; otherwise seeding stops at the lowest height that is in
dispute, and the table has gained what lies below.

The records that are written meanwhile are left aside.
-/

namespace ReorgGuard.Checkpoint.Table

/-! ### Disputes -/

/-- At the height of the checkpoint the table has another hash or another difficulty. -/
def Disputes (table : Table) (pin : Pin) : Prop :=
  (∃ pinned, table.hash? pin.height = some pinned ∧ pinned ≠ pin.hash) ∨
    ∃ known given, table.difficulty? pin.height = some known ∧ pin.difficulty = some given ∧ known ≠ given

variable {table after : Table} {pin : Pin} {pins : List Pin}

theorem admits_iff_not_disputes : table.Admits pin ↔ ¬table.Disputes pin := by
  constructor
  · intro admitted disputed
    rcases disputed with ⟨pinned, found, different⟩ | ⟨known, given, found, isGiven, different⟩
    · exact different (admitted.sameHash pinned found)
    · exact different (admitted.sameDifficulty known given found isGiven)
  · intro undisputed
    constructor
    · intro pinned found
      by_contra different
      exact undisputed (Or.inl ⟨pinned, found, different⟩)
    · intro known given found isGiven
      by_contra different
      exact undisputed (Or.inr ⟨known, given, found, isGiven, different⟩)

theorem seedFrom_of_disputes (network : Network) {point : Hardcoded} (opened : table.frozen = false)
    (read : point.pin? = some pin) (disputed : table.Disputes pin) (rest : List Hardcoded) :
    (table.seedFrom network (point :: rest)).answer = .error (.rejected network point.height) ∧
      (table.seedFrom network (point :: rest)).table = table := by
  have refused : ∃ why, table.add (.int point.height) (.text point.hash) (.text point.difficulty) =
      .refused why := by
    rw [add_of_read opened (Hardcoded.readFrom_of_pin? read).1]
    cases accepted : table.accept pin with
    | error why => exact ⟨why, rfl⟩
    | ok next => exact absurd disputed (admits_iff_not_disputes.mp (accept_eq_ok_iff.mp accepted).1)
  obtain ⟨why, refused⟩ := refused
  rw [seedFrom, refused]
  exact ⟨rfl, rfl⟩

/-! ### Tables extended by checkpoints -/

/-- The later table has what the earlier one has and these checkpoints, and nothing else. -/
structure ExtendedBy (before : Table) (pins : List Pin) (after : Table) : Prop where
  hash : ∀ height hash, after.hash? height = some hash ↔
    before.hash? height = some hash ∨ ∃ pin ∈ pins, pin.height = height ∧ pin.hash = hash
  difficulty : ∀ height difficulty, after.difficulty? height = some difficulty ↔
    before.difficulty? height = some difficulty ∨
      ∃ pin ∈ pins, pin.height = height ∧ pin.difficulty = some difficulty
  sameFrozen : after.frozen = before.frozen

theorem writeAll_frozen (table : Table) (pins : List Pin) : (table.writeAll pins).frozen = table.frozen := by
  induction pins generalizing table with
  | nil => rfl
  | cons pin rest ih => exact ih (table.write pin)

theorem extendedBy_writeAll (distinct : (pins.map Pin.height).Nodup) (admitted : ∀ pin ∈ pins, table.Admits pin) :
    table.ExtendedBy pins (table.writeAll pins) := by
  constructor
  · intro height hash
    have keys : ((pins.map fun pin => (pin.height, pin.hash)).map Prod.fst).Nodup := by
      rw [List.map_map]
      exact distinct
    rw [hash?_writeAll, Option.or_eq_some_iff, lookup_eq_some_iff_mem keys]
    constructor
    · intro either
      rcases either with old | ⟨_, offered⟩
      · exact Or.inl old
      · obtain ⟨pin, member, same⟩ := List.mem_map.mp offered
        exact Or.inr ⟨pin, member, congrArg Prod.fst same, congrArg Prod.snd same⟩
    · intro either
      rcases either with old | ⟨pin, member, rfl, rfl⟩
      · exact Or.inl old
      · cases found : table.hash? pin.height with
        | none => exact Or.inr ⟨rfl, List.mem_map_of_mem member⟩
        | some pinned =>
            rw [(admitted pin member).sameHash pinned found]
            exact Or.inl rfl
  · intro height difficulty
    have keys : ((pins.filterMap fun pin => pin.difficulty.map fun d => (pin.height, d)).map Prod.fst).Nodup := by
      rw [List.Nodup, List.pairwise_map]
      rw [List.Nodup, List.pairwise_map] at distinct
      apply distinct.filterMap
      intro low high apart first atLow second atHigh
      obtain ⟨_, _, rfl⟩ := Option.map_eq_some_iff.mp atLow
      obtain ⟨_, _, rfl⟩ := Option.map_eq_some_iff.mp atHigh
      exact apart
    rw [difficulty?_writeAll, Option.or_eq_some_iff, lookup_eq_some_iff_mem keys]
    constructor
    · intro either
      rcases either with old | ⟨_, offered⟩
      · exact Or.inl old
      · obtain ⟨pin, member, same⟩ := List.mem_filterMap.mp offered
        obtain ⟨d, given, same⟩ := Option.map_eq_some_iff.mp same
        cases same
        exact Or.inr ⟨pin, member, rfl, given⟩
    · intro either
      rcases either with old | ⟨pin, member, rfl, given⟩
      · exact Or.inl old
      · cases found : table.difficulty? pin.height with
        | none =>
            apply Or.inr
            refine ⟨rfl, List.mem_filterMap.mpr ⟨pin, member, ?_⟩⟩
            rw [given]
            rfl
        | some known =>
            rw [(admitted pin member).sameDifficulty known difficulty found given]
            exact Or.inl rfl
  · exact writeAll_frozen table pins

namespace ExtendedBy

variable (extended : table.ExtendedBy pins after)

include extended

theorem disputes (disputed : table.Disputes pin) : after.Disputes pin := by
  rcases disputed with ⟨pinned, found, different⟩ | ⟨known, given, found, isGiven, different⟩
  · exact Or.inl ⟨pinned, (extended.hash _ _).mpr (Or.inl found), different⟩
  · exact Or.inr ⟨known, given, (extended.difficulty _ _).mpr (Or.inl found), isGiven, different⟩

theorem hash?_extended (member : pin ∈ pins) : after.hash? pin.height = some pin.hash :=
  (extended.hash _ _).mpr (Or.inr ⟨pin, member, rfl, rfl⟩)

theorem admits (member : pin ∈ pins) : after.Admits pin := by
  constructor
  · intro pinned found
    rw [extended.hash?_extended member] at found
    exact (Option.some.inj found).symm
  · intro known given found isGiven
    rw [(extended.difficulty _ _).mpr (Or.inr ⟨pin, member, rfl, isGiven⟩)] at found
    exact (Option.some.inj found).symm

theorem write_eq_self (member : pin ∈ pins) : after.write pin = after := by
  rw [write_of_pinned (extended.hash?_extended member)]
  cases given : pin.difficulty with
  | none => rfl
  | some d =>
      have known : (after.difficulties.lookup pin.height).isSome := by
        have found := (extended.difficulty _ _).mpr (Or.inr ⟨pin, member, rfl, given⟩)
        exact Option.isSome_of_eq_some found
      rw [supply, if_pos known]

end ExtendedBy

theorem writeAll_eq_self (settled : ∀ pin ∈ pins, table.write pin = table) : table.writeAll pins = table := by
  induction pins with
  | nil => rfl
  | cons pin rest ih =>
      rw [List.forall_mem_cons] at settled
      change (table.write pin).writeAll rest = table
      rw [settled.1]
      exact ih settled.2

/-! ### The hardcoded checkpoints -/

theorem map_pin?_hardcoded (network : Network) :
    (hardcoded network).map Hardcoded.pin? = (hardcodedPins network).map some := by
  have all (points : List Hardcoded) (readable : ∀ point ∈ points, point.Readable) :
      points.map Hardcoded.pin? = (points.filterMap Hardcoded.pin?).map some := by
    induction points with
    | nil => rfl
    | cons point rest ih =>
        rw [List.forall_mem_cons] at readable
        obtain ⟨pin, read⟩ := readable.1.read
        rw [List.map_cons, List.filterMap_cons_some read, List.map_cons, ih readable.2, read]
  exact all _ (hardcoded_readable network)

theorem hardcodedPins_assessed (network : Network) :
    ∀ pin ∈ hardcodedPins network, pin.difficulty.isSome = true := by
  intro pin member
  obtain ⟨point, isPoint, read⟩ := List.mem_filterMap.mp member
  obtain ⟨other, readAgain, assessed⟩ := hardcoded_read network point isPoint
  rw [read] at readAgain
  cases readAgain
  exact assessed

theorem hardcodedPins_distinct (network : Network) : ((hardcodedPins network).map Pin.height).Nodup := by
  rw [List.Nodup, List.pairwise_map]
  exact (hardcodedPins_ascending network).imp Nat.ne_of_lt

theorem filter_below_of_ascending {front back : List Pin}
    (ascending : (front ++ pin :: back).Pairwise (fun low high => low.height < high.height)) :
    (front ++ pin :: back).filter (fun other => other.height < pin.height) = front := by
  obtain ⟨_, behind, inFront⟩ := List.pairwise_append.mp ascending
  have below : front.filter (fun other => other.height < pin.height) = front := by
    apply List.filter_eq_self.mpr
    intro other member
    exact decide_eq_true (inFront other member pin List.mem_cons_self)
  have above : back.filter (fun other => other.height < pin.height) = [] := by
    apply List.filter_eq_nil_iff.mpr
    intro other member
    have higher := (List.pairwise_cons.mp behind).1 other member
    simp only [decide_eq_true_eq]
    omega
  rw [List.filter_append, List.filter_cons_of_neg (by simp), below, above, List.append_nil]

/-- Seeding stops at a disputed checkpoint if those below it are undisputed, which are written before. -/
theorem seed_of_disputes (network : Network) (opened : table.frozen = false) (member : pin ∈ hardcodedPins network)
    (disputed : table.Disputes pin)
    (admitted : ∀ other ∈ hardcodedPins network, other.height < pin.height → table.Admits other) :
    (table.seed network).answer = .error (.rejected network pin.height) ∧
      (table.seed network).table =
        table.writeAll ((hardcodedPins network).filter fun other => other.height < pin.height) := by
  obtain ⟨point, isPoint, read⟩ := List.mem_filterMap.mp member
  obtain ⟨front, back, split⟩ := List.append_of_mem isPoint
  have pins : hardcodedPins network =
      front.filterMap Hardcoded.pin? ++ pin :: back.filterMap Hardcoded.pin? := by
    rw [hardcodedPins, split, List.filterMap_append, List.filterMap_cons_some read]
  have ascending := hardcodedPins_ascending network
  rw [pins] at ascending admitted ⊢
  rw [filter_below_of_ascending ascending]
  have inFront (other : Pin) (isOther : other ∈ front.filterMap Hardcoded.pin?) : table.Admits other := by
    apply admitted other (List.mem_append_left _ isOther)
    exact (List.pairwise_append.mp ascending).2.2 other isOther pin List.mem_cons_self
  have readable := hardcoded_readable network
  have heights := hardcoded_ascending network
  rw [split] at readable heights
  rw [List.map_append] at heights
  have run := seedFrom_append network opened (fun other isOther => readable other (List.mem_append_left _ isOther))
    (List.pairwise_append.mp heights).1 inFront (point :: back)
  have distinct : ((front.filterMap Hardcoded.pin?).map Pin.height).Nodup := by
    rw [List.Nodup, List.pairwise_map]
    exact (List.pairwise_append.mp ascending).1.imp Nat.ne_of_lt
  have stillOpen : (table.writeAll (front.filterMap Hardcoded.pin?)).frozen = false := by
    rw [writeAll_frozen, opened]
  have disputedStill := (extendedBy_writeAll distinct inFront).disputes disputed
  have stops := seedFrom_of_disputes network stillOpen read disputedStill back
  rw [seed, split, run, (Hardcoded.readFrom_of_pin? read).2]
  exact stops

def disputedHeights (table : Table) (network : Network) : Set Nat :=
  {height | ∃ pin ∈ hardcodedPins network, pin.height = height ∧ table.Disputes pin}

theorem disputedHeights_eq_empty_iff (network : Network) :
    table.disputedHeights network = ∅ ↔ ∀ pin ∈ hardcodedPins network, table.Admits pin := by
  rw [Set.eq_empty_iff_forall_notMem]
  constructor
  · intro none pin member
    exact admits_iff_not_disputes.mpr fun disputed => none pin.height ⟨pin, member, rfl, disputed⟩
  · intro admitted height disputed
    obtain ⟨pin, member, _, disputed⟩ := disputed
    exact admits_iff_not_disputes.mp (admitted pin member) disputed

/-- Seeding an open table succeeds exactly if it disputes no hardcoded checkpoint; the table then gains them all,
with hashes and difficulties, and gains nothing by being seeded again.  Otherwise seeding is rejected at the least
height in dispute, and the table gains the hardcoded checkpoints below. -/
theorem seeding_stops_at_least_dispute (fillings : List Filling) (network : Network)
    (opened : (empty.fillAll fillings).frozen = false) :
    let table := empty.fillAll fillings
    let pins := hardcodedPins network
    let seeded := table.seed network
    ((hardcoded network).map Hardcoded.pin? = pins.map some ∧ ∀ pin ∈ pins, pin.difficulty.isSome = true) ∧
    (seeded.answer = .ok () ↔ table.disputedHeights network = ∅) ∧
    (seeded.answer = .ok () → table.ExtendedBy pins seeded.table ∧
      (seeded.table.seed network).answer = .ok () ∧ (seeded.table.seed network).table = seeded.table) ∧
    (seeded.answer ≠ .ok () → ∃ least, IsLeast (table.disputedHeights network) least ∧
      seeded.answer = .error (.rejected network least) ∧
      table.ExtendedBy (pins.filter fun pin => pin.height < least) seeded.table) := by
  intro table pins seeded
  refine ⟨⟨map_pin?_hardcoded network, hardcodedPins_assessed network⟩, ?_⟩
  have distinct := hardcodedPins_distinct network
  by_cases undisputed : table.disputedHeights network = ∅
  · have admitted := (disputedHeights_eq_empty_iff network).mp undisputed
    obtain ⟨answer, written⟩ := seed_of_admits network opened admitted
    have extended : table.ExtendedBy pins seeded.table := by
      rw [written]
      exact extendedBy_writeAll distinct admitted
    have openedAgain : seeded.table.frozen = false := extended.sameFrozen.trans opened
    obtain ⟨answerAgain, writtenAgain⟩ := seed_of_admits network openedAgain fun _ => extended.admits
    have settled : seeded.table.writeAll pins = seeded.table := writeAll_eq_self fun _ => extended.write_eq_self
    exact ⟨iff_of_true answer undisputed, fun _ => ⟨extended, answerAgain, writtenAgain.trans settled⟩,
      fun failed => absurd answer failed⟩
  -- Below the least height in dispute everything is admitted, so seeding gets there and no further.
  · have nonempty := Set.nonempty_iff_ne_empty.mpr undisputed
    have isLeast : IsLeast (table.disputedHeights network) (sInf (table.disputedHeights network)) :=
      ⟨Nat.sInf_mem nonempty, fun _ => Nat.sInf_le⟩
    obtain ⟨pin, member, same, disputed⟩ := isLeast.1
    have admitted (other : Pin) (isOther : other ∈ pins) (below : other.height < pin.height) :
        table.Admits other := by
      rw [admits_iff_not_disputes]
      intro disputedBelow
      have atLeast := isLeast.2 ⟨other, isOther, rfl, disputedBelow⟩
      omega
    obtain ⟨answer, written⟩ := seed_of_disputes network opened member disputed admitted
    have failed : seeded.answer ≠ .ok () := by
      intro succeeded
      cases answer.symm.trans succeeded
    have extended : table.ExtendedBy (pins.filter fun other => other.height < pin.height) seeded.table := by
      rw [written]
      apply extendedBy_writeAll
      · exact distinct.sublist (List.filter_sublist.map Pin.height)
      · intro other isOther
        obtain ⟨isHardcoded, below⟩ := List.mem_filter.mp isOther
        exact admitted other isHardcoded (of_decide_eq_true below)
    rw [← same] at isLeast
    exact ⟨iff_of_false failed undisputed, fun succeeded => absurd succeeded failed,
      fun _ => ⟨pin.height, isLeast, answer, extended⟩⟩

def rejectedAt? (seeded : Seeded) : Option Nat :=
  match seeded.answer with
  | .error (.rejected _ height) => some height
  | _ => none

theorem seeding_stops_at_five_hundred :
    let table := empty.fillAll [.perform (uniform 500 7)]
    let seeded := table.seed .mainnet
    table.frozen = false ∧ IsLeast (table.disputedHeights .mainnet) 500 ∧
      seeded.answer = .error (.rejected .mainnet 500) ∧ seeded.table.heights = [0, 500] ∧
      table.ExtendedBy ((hardcodedPins .mainnet).filter fun pin => pin.height < 500) seeded.table := by
  intro table seeded
  have rejected : rejectedAt? seeded = some 500 := by decide +kernel
  obtain ⟨_, _, _, stops⟩ := seeding_stops_at_least_dispute [.perform (uniform 500 7)] .mainnet rfl
  have failed : seeded.answer ≠ .ok () := by
    intro succeeded
    rw [rejectedAt?, succeeded] at rejected
    cases rejected
  obtain ⟨least, isLeast, answer, extended⟩ := stops failed
  rw [rejectedAt?, answer] at rejected
  cases rejected
  exact ⟨rfl, isLeast, answer, by decide +kernel, extended⟩

end ReorgGuard.Checkpoint.Table
