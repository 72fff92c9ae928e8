import ReorgGuard.Proofs.Blocks
import ReorgGuard.Proofs.Forks
import ReorgGuard.Proofs.Table.FirstWrite

/-!
Verdicts over the life of a table.

A table only gains pins.  Each gain can turn a verdict from yes to no and never back: a block that is
accepted later was accepted before, and so was a fork that is allowed later, while the zone only grows.
On one table a higher tip forbids more forks, and a higher block is allowed more.

A verdict on a block looks at its hash; the others look at heights alone.
-/

namespace ReorgGuard.Checkpoint.Table

variable {table later : Table}

/-! ### More pins -/

/-- What the earlier table pins, the later one pins to the same hash. -/
def Extends (later earlier : Table) : Prop :=
  ∀ height hash, earlier.hash? height = some hash → later.hash? height = some hash

theorem Extends.pinned (extended : later.Extends table) {height : Nat} (member : height ∈ table.pinnedHeights) :
    height ∈ later.pinnedHeights := by
  rw [pinned_iff_hash?_isSome] at member ⊢
  obtain ⟨hash, pinned⟩ := Option.isSome_iff_exists.mp member
  rw [extended height hash pinned]
  rfl

theorem Extends.check (extended : later.Extends table) {height : Int} {hash : Value}
    (accepted : (later.check height hash).check.accepted = true) :
    (table.check height hash).check.accepted = true := by
  rw [check_accepted_iff] at accepted ⊢
  intro expected pinned
  obtain ⟨natural, same, pins⟩ := pinned?_eq_some_iff.mp pinned
  exact accepted expected (pinned?_eq_some_iff.mpr ⟨natural, same, extended natural expected pins⟩)

theorem Extends.mayFork (extended : later.Extends table) (shaped : table.Shaped) (laterShaped : later.Shaped)
    {tip block : Int} (allowed : later.mayFork tip block = true) : table.mayFork tip block = true := by
  rw [laterShaped.mayFork_iff] at allowed
  rw [shaped.mayFork_iff]
  rcases allowed with ⟨notFirst, clear⟩
  refine ⟨notFirst, fun pinned member reached => ?_⟩
  exact clear pinned (extended.pinned member) reached

theorem Extends.inZone (extended : later.Extends table) (shaped : table.Shaped) (laterShaped : later.Shaped)
    {height : Int} (inside : table.inZone height = true) : later.inZone height = true := by
  rw [shaped.inZone_iff] at inside
  rw [laterShaped.inZone_iff]
  rcases inside with ⟨pinned, member, within⟩
  exact ⟨pinned, extended.pinned member, within⟩

/-! ### Higher tips and higher blocks -/

theorem Shaped.mayFork_of_lower_tip (shaped : table.Shaped) {tip higher block : Int} (order : tip ≤ higher)
    (allowed : table.mayFork higher block = true) : table.mayFork tip block = true := by
  rw [shaped.mayFork_iff] at allowed ⊢
  rcases allowed with ⟨notFirst, clear⟩
  exact ⟨notFirst, fun pinned member reached => clear pinned member (reached.trans order)⟩

theorem Shaped.mayFork_of_lower_block (shaped : table.Shaped) {tip block higher : Int} (positive : 1 ≤ block)
    (order : block ≤ higher) (allowed : table.mayFork tip block = true) :
    table.mayFork tip higher = true := by
  rw [shaped.mayFork_iff] at allowed ⊢
  refine ⟨by omega, fun pinned member reached => ?_⟩
  have below := allowed.2 pinned member reached
  omega

/-- However a table was filled and is filled further, its verdicts only tighten; and on one table they are
monotone in the tip and in the block. -/
theorem verdicts_only_tighten (fillings more : List Filling) :
    let table := empty.fillAll fillings
    let later := table.fillAll more
    (∀ (height : Int) (hash : Value), (later.check height hash).check.accepted = true →
      (table.check height hash).check.accepted = true) ∧
    (∀ tip block : Int, later.mayFork tip block = true → table.mayFork tip block = true) ∧
    (∀ height : Int, table.inZone height = true → later.inZone height = true) ∧
    (∀ tip higher block : Int, tip ≤ higher → table.mayFork tip block = false →
      table.mayFork higher block = false) ∧
    (∀ tip block higher : Int, 1 ≤ block → block ≤ higher → table.mayFork tip block = true →
      table.mayFork tip higher = true) := by
  intro table later
  have shaped : table.Shaped := fillAll_shaped fillings
  have laterShaped : later.Shaped := (accepts_fillAll table more).shaped shaped
  have extended : later.Extends table := fun _ _ pinned => hash?_fillAll_of_some pinned more
  refine ⟨fun _ _ accepted => extended.check accepted,
    fun _ _ allowed => extended.mayFork shaped laterShaped allowed,
    fun _ inside => extended.inZone shaped laterShaped inside, fun tip higher block order forbidden => ?_,
    fun _ _ _ positive order allowed => shaped.mayFork_of_lower_block positive order allowed⟩
  rw [← Bool.not_eq_true] at forbidden ⊢
  exact fun allowed => forbidden (shaped.mayFork_of_lower_tip order allowed)

end ReorgGuard.Checkpoint.Table
