import ReorgGuard.Checkpoint.Loader
import ReorgGuard.Proofs.Build.Layers
import ReorgGuard.Proofs.Forks

/-!
What a feed cannot change.

However the taking in of a source ends, the table afterwards is the table before with points above
the floor of the source written over it.  The floor of a feed is the greatest height that the table
pins before the first record is looked at.  Up to that height the table answers as it did before, so
any two feeds leave the same answers there.

Nothing is said here about which points of a source are written.
-/

namespace ReorgGuard.Checkpoint

open ReorgGuard.Feed (FeedError)

theorem Height.floor_lt_of_ofValue {value : Value} {height : Nat} {floor : Int}
    (read : Height.ofValue value = .ok height) (above : value.atMost? (.int floor) = some false) :
    floor < (height : Int) := by
  have notLow := decide_eq_false_iff_not.mp (Height.low_eq_of_ofValue read above).symm
  omega

namespace Table

/-- One table comes from another by points above a floor that are written over it. -/
def Overlaid (base : Table) (floor : Int) (upper : Table) : Prop :=
  ∃ layer : List (Nat × Hash),
    (∀ point ∈ layer, floor < (point.1 : Int) ∧ point.1 ≤ Checkpoint.maxHeight) ∧
      base.writeAll (layer.map .ofPoint) = upper

variable {base upper : Table} {floor : Int}

theorem Overlaid.refl (base : Table) (floor : Int) : base.Overlaid floor base :=
  ⟨[], List.forall_mem_nil _, rfl⟩

theorem Overlaid.of_write {offered : Pin} (isPoint : offered.difficulty = none)
    (above : floor < (offered.height : Int)) (inRange : offered.height ≤ Checkpoint.maxHeight)
    (rest : (base.write offered).Overlaid floor upper) : base.Overlaid floor upper := by
  rcases offered with ⟨height, hash, difficulty⟩
  cases isPoint
  obtain ⟨layer, range, written⟩ := rest
  exact ⟨(height, hash) :: layer, List.forall_mem_cons.mpr ⟨⟨above, inRange⟩, range⟩, written⟩

/-! ### What an overlay keeps -/

theorem Overlaid.shaped (overlaid : base.Overlaid floor upper) (shaped : base.Shaped) : upper.Shaped := by
  rcases overlaid with ⟨layer, range, rfl⟩
  apply shaped.writeAll
  intro pin member
  obtain ⟨point, inLayer, rfl⟩ := List.mem_map.mp member
  exact (range point inLayer).2

theorem Overlaid.hash?_eq (overlaid : base.Overlaid floor upper) {height : Nat}
    (below : (height : Int) ≤ floor) : upper.hash? height = base.hash? height := by
  rcases overlaid with ⟨layer, range, rfl⟩
  have unlisted : layer.lookup height = none := by
    cases found : layer.lookup height with
    | none => rfl
    | some hash =>
        have above := (range _ (mem_of_lookup found)).1
        omega
  rw [hash?_writeAll_ofPoint, unlisted, Option.or_none]

theorem Overlaid.pinned_iff (overlaid : base.Overlaid floor upper) {height : Nat}
    (below : (height : Int) ≤ floor) : height ∈ upper.pinnedHeights ↔ height ∈ base.pinnedHeights := by
  rw [pinned_iff_hash?_isSome, pinned_iff_hash?_isSome, overlaid.hash?_eq below]

theorem Overlaid.difficulties_eq (overlaid : base.Overlaid floor upper) :
    upper.difficulties = base.difficulties := by
  rcases overlaid with ⟨layer, range, rfl⟩
  clear range
  induction layer generalizing base with
  | nil => rfl
  | cons point rest ih =>
      change ((base.write (.ofPoint point)).writeAll _).difficulties =
        (base.write (.ofPoint point)).difficulties
      exact ih

theorem Overlaid.check_eq (overlaid : base.Overlaid floor upper) {height : Int} (below : height ≤ floor)
    (hash : Value) : upper.check height hash = base.check height hash := by
  have pinned : upper.pinned? height = base.pinned? height := by
    unfold pinned?
    by_cases natural : 0 ≤ height
    · rw [if_pos natural, if_pos natural]
      apply overlaid.hash?_eq
      omega
    · rw [if_neg natural, if_neg natural]
  unfold check
  rw [pinned]

theorem Overlaid.mayFork_eq (overlaid : base.Overlaid floor upper) (shaped : base.Shaped) {tip : Int}
    (below : tip ≤ floor) (block : Int) : upper.mayFork tip block = base.mayFork tip block := by
  rw [Bool.eq_iff_iff, (overlaid.shaped shaped).mayFork_iff, shaped.mayFork_iff]
  apply and_congr_right'
  apply forall_congr'
  intro pinned
  constructor
  · intro clear member reached
    exact clear ((overlaid.pinned_iff (reached.trans below)).mpr member) reached
  · intro clear member reached
    exact clear ((overlaid.pinned_iff (reached.trans below)).mp member) reached

theorem Overlaid.inZone (overlaid : base.Overlaid base.maxHeight upper) (shaped : base.Shaped)
    (filled : base.points ≠ []) {height : Int} (below : height ≤ base.maxHeight) :
    upper.inZone height = true := by
  rw [(overlaid.shaped shaped).inZone_iff]
  have greatest := (shaped.maxHeight_isGreatest filled).1
  exact ⟨base.maxHeight, (overlaid.pinned_iff le_rfl).mpr greatest, below⟩

/-! ### Taking in a source -/

/-- Whatever a source holds and however it ends, only points above its floor are written. -/
theorem absorbFrom_overlaid {intake : Intake} (isFloor : intake.floor = .int floor) (table : Table)
    (report : Report) (entries : List Entry) :
    table.Overlaid floor (table.absorbFrom intake report entries).table := by
  induction entries generalizing table report with
  | nil => exact Overlaid.refl table floor
  | cons entry rest ih =>
      unfold absorbFrom
      split
      · exact Overlaid.refl table floor
      · exact ih table _
      · rename_i above
        rw [isFloor] at above
        split
        · exact Overlaid.refl table floor
        · exact ih table _
        · split
          · exact Overlaid.refl table floor
          · rename_i next added
            obtain ⟨_, offered, read, _, rfl⟩ := add_eq_accepted_iff.mp added
            have isPoint : offered.difficulty = none := (Except.ok.inj read.readDifficulty).symm
            exact Overlaid.of_write isPoint (Height.floor_lt_of_ofValue read.readHeight above)
              (Height.ofValue_le read.readHeight) (ih _ _)
          · dsimp only
            split
            · exact Overlaid.refl table floor
            · exact ih table _

end Table

namespace Load

theorem absorb_overlaid {intake : Intake} {floor : Int} (isFloor : intake.floor = .int floor) (load : Load)
    (entries : List Entry) : load.table.Overlaid floor (load.absorb intake entries).load.table := by
  have overlaid := Table.absorbFrom_overlaid isFloor load.table (Report.start intake.source) entries
  change load.table.Overlaid floor (load.table.absorb intake entries).table at overlaid
  unfold absorb
  dsimp only
  split <;> exact overlaid

theorem takeFileAt_overlaid (load : Load) (files : Files) (path : Option Path) (floor : Int) :
    load.table.Overlaid floor (load.takeFileAt files path (.int floor)).load.table := by
  cases path with
  | none => exact Table.Overlaid.refl load.table floor
  | some path =>
      unfold takeFileAt
      dsimp only
      cases Hashfile.read files path with
      | error fault => cases fault <;> exact Table.Overlaid.refl load.table floor
      | ok found =>
          cases found with
          | none => exact Table.Overlaid.refl load.table floor
          | some lines =>
              change load.table.Overlaid floor
                (load.absorb ⟨path.text, .int floor, true⟩ (Hashfile.entries lines)).load.table
              exact absorb_overlaid rfl load _

/-- The floor of a feed is the greatest height of the table that it is taken into. -/
theorem takeFeed_overlaid (load : Load) (network : Network) (fetched : Except FeedError (List String)) :
    load.table.Overlaid load.table.maxHeight (load.takeFeed network fetched).load.table := by
  unfold takeFeed
  split
  · exact Table.Overlaid.refl load.table _
  · exact Table.Overlaid.refl load.table _
  · exact Table.Overlaid.refl load.table _
  · split
    · exact Table.Overlaid.refl load.table _
    · exact absorb_overlaid rfl load _

theorem takeAll_overlaid (load : Load) (feed : FeedSource) (required : Bool) (files : Files)
    (here : Feed.Surroundings) (web : Feed.Web) (path : Option Path) (network : Network) (remote : Bool) :
    let base := (load.takeFileAt files path (.int load.table.maxHeight)).load.table
    base.Overlaid base.maxHeight
      (load.takeAll feed required files here web path network remote).load.table := by
  intro base
  unfold takeAll
  dsimp only
  split
  · exact Table.Overlaid.refl base base.maxHeight
  · split
    · have overlaid := (load.takeFileAt files path (.int load.table.maxHeight)).load.takeFeed_overlaid
        network (feed.fetch here web network).answer
      split <;> exact overlaid
    · exact Table.Overlaid.refl base base.maxHeight

/-- Whatever two feeds bring and however the loads end, the tables answer alike up to the greatest height
that the table pins once the hashfile is taken in; only above it may one of them pin what the other does not. -/
theorem feeds_agree_up_to_floor (operations : List Operation) (reports : List Report) (files : Files)
    (path : Option Path) (network : Network) (first second : FeedSource) (required required' : Bool)
    (here here' : Feed.Surroundings) (web web' : Feed.Web) :
    let load : Load := ⟨Table.empty.performAll operations, reports⟩
    let base := (load.takeFileAt files path (.int load.table.maxHeight)).load.table
    let one := (load.takeAll first required files here web path network true).load.table
    let two := (load.takeAll second required' files here' web' path network true).load.table
    (∀ height : Nat, height ≤ base.maxHeight → one.hash? height = two.hash? height) ∧
    one.difficulties = two.difficulties ∧
    (∀ height : Nat, ¬(height ∈ one.pinnedHeights ↔ height ∈ two.pinnedHeights) →
      base.maxHeight < height) ∧
    (∀ (height : Int) (hash : Value), height ≤ base.maxHeight →
      one.check height hash = two.check height hash) ∧
    (0 < base.size → ∀ height : Int, height ≤ base.maxHeight → one.inZone height = two.inZone height) ∧
    (∀ tip block : Int, tip ≤ base.maxHeight → one.mayFork tip block = two.mayFork tip block) := by
  intro load base one two
  have shaped : base.Shaped :=
    (load.takeFileAt_overlaid files path load.table.maxHeight).shaped
      (Table.performAll_shaped Table.shaped_empty operations)
  have overOne : base.Overlaid base.maxHeight one := takeAll_overlaid load first required files _ _ path _ _
  have overTwo : base.Overlaid base.maxHeight two := takeAll_overlaid load second required' files _ _ path _ _
  refine ⟨fun height below => ?_, ?_, fun height different => ?_, fun height hash below => ?_,
    fun filled height below => ?_, fun tip block below => ?_⟩
  · rw [overOne.hash?_eq (Int.ofNat_le.mpr below), overTwo.hash?_eq (Int.ofNat_le.mpr below)]
  · rw [overOne.difficulties_eq, overTwo.difficulties_eq]
  · by_contra notAbove
    have below : (height : Int) ≤ base.maxHeight := by omega
    exact different ((overOne.pinned_iff below).trans (overTwo.pinned_iff below).symm)
  · rw [overOne.check_eq below, overTwo.check_eq below]
  · have points : base.points ≠ [] := List.length_pos_iff.mp filled
    rw [overOne.inZone shaped points below, overTwo.inZone shaped points below]
  · rw [overOne.mayFork_eq shaped below, overTwo.mayFork_eq shaped below]

end Load

end ReorgGuard.Checkpoint
