import ReorgGuard.Proofs.Source.Accounting

/-!
What the order of a source decides.

Whether the points of a source contradict the table or one another does not depend on their order.  If they do
not, neither does anything else about taking the source in.  If they do, a strict source fails in every order,
and a lenient one still pins the same heights; only which of the contradicting hashes stands is up to the order.

How far a strict source that fails is looked at does depend on the order, and nothing is said about it.
-/

namespace ReorgGuard.Checkpoint

variable {strict stopped : Bool} {floor : Int} {entries others : List Entry}
  {points permuted : List (Nat × Hash)}

theorem pointsAbove_perm (floor : Int) (perm : entries.Perm others) :
    (pointsAbove floor entries).Perm (pointsAbove floor others) :=
  (perm.filterMap Entry.point?).filter _

theorem contradictory_perm (perm : points.Perm permuted) : Contradictory points ↔ Contradictory permuted := by
  simp only [Contradictory, perm.mem_iff]

theorem mem_heights_perm (perm : points.Perm permuted) (height : Nat) :
    height ∈ points.map Prod.fst ↔ height ∈ permuted.map Prod.fst :=
  (perm.map Prod.fst).mem_iff

namespace Tally

variable {before after : Report}

theorem perm (tally : Tally strict floor entries stopped before after) (perm : entries.Perm others) :
    Tally strict floor others stopped before after := by
  refine ⟨tally.source, ?_, ?_, ?_, tally.conflicts, tally.ok⟩
  · rw [← perm.countP_eq]
    exact tally.belowFloor
  · rw [← perm.countP_eq]
    exact tally.malformed
  · rw [← (pointsAbove_perm floor perm).length_eq]
    exact tally.offered

theorem unique {other : Report} (tally : Tally true floor entries stopped before after)
    (again : Tally true floor entries stopped before other) : after = other := by
  have conflicts : after.conflicts = other.conflicts :=
    (tally.conflicts rfl).trans (again.conflicts rfl).symm
  have added : after.added = other.added := by
    have offered := tally.offered.trans again.offered.symm
    omega
  rcases after with ⟨source, _, belowFloor, malformed, _, ok⟩
  rcases other with ⟨source', _, belowFloor', malformed', _, ok'⟩
  rw [Report.mk.injEq]
  exact ⟨tally.source.trans again.source.symm, added, tally.belowFloor.trans again.belowFloor.symm,
    tally.malformed.trans again.malformed.symm, conflicts, tally.ok.trans again.ok.symm⟩

end Tally

namespace Table

variable {table : Table}

/-! ### Contradictions without an order -/

theorem agrees_iff_consistent :
    table.Agrees points ↔ (∀ point ∈ points, table.clashes point = false) ∧ ¬Contradictory points := by
  constructor
  · intro agreed
    refine ⟨fun point member => ?_, fun contradictory => ?_⟩
    · rw [Bool.eq_false_iff]
      intro clash
      obtain ⟨pinned, found, different⟩ := (clashes_eq_true_iff table point).mp clash
      have stands := agreed point member
      rw [found, Option.some_or] at stands
      exact different (Option.some.inj stands)
    · rcases contradictory with ⟨first, isFirst, second, isSecond, sameHeight, different⟩
      have one := agreed first isFirst
      rw [sameHeight, agreed second isSecond] at one
      exact different (Option.some.inj one).symm
  · intro both
    rcases both with ⟨clear, consistent⟩
    intro point member
    cases found : table.hash? point.1 with
    | none =>
        rw [Option.none_or]
        exact (lookup_iff_mem_of_consistent consistent).mpr member
    | some pinned =>
        rw [Option.some_or]
        by_contra different
        have clash : table.clashes point = true :=
          (clashes_eq_true_iff table point).mpr ⟨pinned, found, fun same => different (congrArg some same)⟩
        exact Bool.false_ne_true ((clear point member).symm.trans clash)

theorem agrees_perm (perm : points.Perm permuted) : table.Agrees points ↔ table.Agrees permuted := by
  rw [agrees_iff_consistent, agrees_iff_consistent, contradictory_perm perm]
  simp only [perm.mem_iff]

theorem pinned_writeAll_iff (height : Nat) :
    height ∈ (table.writeAll (points.map .ofPoint)).pinnedHeights ↔
      height ∈ table.pinnedHeights ∨ height ∈ points.map Prod.fst := by
  rw [pinned_iff_hash?_isSome, hash?_writeAll_ofPoint, Option.isSome_or, Bool.or_eq_true,
    lookup_isSome_iff_mem_map, pinned_iff_hash?_isSome]

theorem hash?_writeAll_perm (agreed : table.Agrees points) (perm : points.Perm permuted) (height : Nat) :
    (table.writeAll (points.map .ofPoint)).hash? height =
      (table.writeAll (permuted.map .ofPoint)).hash? height := by
  rw [hash?_writeAll_ofPoint, hash?_writeAll_ofPoint]
  by_cases listed : height ∈ points.map Prod.fst
  · obtain ⟨point, member, rfl⟩ := List.mem_map.mp listed
    rw [agreed point member, (agrees_perm perm).mp agreed point (perm.mem_iff.mp member)]
  · have unlisted : height ∉ permuted.map Prod.fst := fun member =>
      listed ((mem_heights_perm perm height).mpr member)
    rw [← lookup_isSome_iff_mem_map, Option.not_isSome_iff_eq_none] at listed unlisted
    rw [listed, unlisted]

/-! ### Runs in different orders -/

theorem stop?_eq_none_iff_agrees (plain : ∀ entry ∈ entries, ∃ height, entry.Plain height)
    (opened : table.frozen = false) :
    table.stop? true floor entries = none ↔ table.Agrees (pointsAbove floor entries) := by
  -- Both say of one run that its report is fine.
  obtain ⟨final, tally, counted⟩ := absorbFrom_accounts "" true floor (Report.start "") plain opened
  obtain ⟨same, after, absorbed, isFine, _⟩ := absorbFrom_strict "" floor (Report.start "") plain opened rfl
  rw [counted] at absorbed
  have sameReport : final = same := Except.ok.inj (congrArg Prod.snd absorbed)
  rw [← isFine, ← sameReport, tally.ok, ← Option.not_isSome_iff_eq_none]
  simp [Report.start]

theorem plain_perm (plain : ∀ entry ∈ entries, ∃ height, entry.Plain height) (perm : entries.Perm others) :
    ∀ entry ∈ others, ∃ height, entry.Plain height :=
  fun entry member => plain entry (perm.mem_iff.mpr member)

theorem absorb_of_no_stop (source : String) (plain : ∀ entry ∈ entries, ∃ height, entry.Plain height)
    (opened : table.frozen = false) (goesOn : table.stop? strict floor entries = none) :
    ∃ final, Tally strict floor entries false (Report.start source) final ∧
      (table.absorb ⟨source, .int floor, strict⟩ entries).answer = .ok final ∧
      (table.absorb ⟨source, .int floor, strict⟩ entries).table =
        table.writeAll ((pointsAbove floor entries).map .ofPoint) := by
  obtain ⟨final, tally, outcome⟩ := absorbFrom_accounts source strict floor (Report.start source) plain opened
  rw [consumed_of_no_stop goesOn] at tally outcome
  rw [goesOn] at tally
  exact ⟨final, tally, congrArg Prod.snd outcome, congrArg Prod.fst outcome⟩

theorem absorb_strict_of_not_agrees (source : String) (plain : ∀ entry ∈ entries, ∃ height, entry.Plain height)
    (opened : table.frozen = false) (disagreed : ¬table.Agrees (pointsAbove floor entries)) :
    ∃ final, (table.absorb ⟨source, .int floor, true⟩ entries).answer = .ok final ∧ final.ok = false := by
  obtain ⟨final, _, outcome, isFine, _⟩ := absorbFrom_strict source floor (Report.start source) plain opened rfl
  exact ⟨final, congrArg Prod.snd outcome, Bool.eq_false_iff.mpr fun fine => disagreed (isFine.mp fine)⟩

/-- Two sources lead to the same verdict and, if it is yes, to the same report and the same pins. -/
def SameIfFine (one other : Absorbed) : Prop :=
  ∃ first second, one.answer = .ok first ∧ other.answer = .ok second ∧ first.ok = second.ok ∧
    (first.ok = true → first = second ∧ ∀ height, one.table.hash? height = other.table.hash? height)

/-- Two sources pin the same heights, and their reports differ at most in how many of the points offered were
added and how many in conflict. -/
def SameHeights (one other : Absorbed) : Prop :=
  ∃ first second, one.answer = .ok first ∧ other.answer = .ok second ∧
    one.table.pinnedHeights = other.table.pinnedHeights ∧
    first.belowFloor = second.belowFloor ∧ first.malformed = second.malformed ∧
    first.added + first.conflicts = second.added + second.conflicts

section Reordered

variable (source : String) (floor : Int) (perm : entries.Perm others)
  (plain : ∀ entry ∈ entries, ∃ height, entry.Plain height) (opened : table.frozen = false)

include perm plain opened

theorem strict_perm : SameIfFine (table.absorb ⟨source, .int floor, true⟩ entries)
    (table.absorb ⟨source, .int floor, true⟩ others) := by
  have plainOthers := plain_perm plain perm
  have points := pointsAbove_perm floor perm
  by_cases agreed : table.Agrees (pointsAbove floor entries)
  · have goesOn := (stop?_eq_none_iff_agrees plain opened).mpr agreed
    have goesOnAgain := (stop?_eq_none_iff_agrees plainOthers opened).mpr ((agrees_perm points).mp agreed)
    obtain ⟨first, tally, answer, written⟩ := absorb_of_no_stop source plain opened goesOn
    obtain ⟨second, again, answerAgain, writtenAgain⟩ :=
      absorb_of_no_stop source plainOthers opened goesOnAgain
    have same : first = second := (tally.perm perm).unique again
    refine ⟨first, second, answer, answerAgain, congrArg Report.ok same, fun _ => ⟨same, fun height => ?_⟩⟩
    rw [written, writtenAgain]
    exact hash?_writeAll_perm agreed points height
  · have disagreed : ¬table.Agrees (pointsAbove floor others) := fun wrong =>
      agreed ((agrees_perm points).mpr wrong)
    obtain ⟨first, answer, failed⟩ := absorb_strict_of_not_agrees source plain opened agreed
    obtain ⟨second, answerAgain, failedAgain⟩ :=
      absorb_strict_of_not_agrees source plainOthers opened disagreed
    refine ⟨first, second, answer, answerAgain, failed.trans failedAgain.symm, fun fine => ?_⟩
    cases failed.symm.trans fine

theorem lenient_perm : SameHeights (table.absorb ⟨source, .int floor, false⟩ entries)
    (table.absorb ⟨source, .int floor, false⟩ others) := by
  obtain ⟨first, tally, answer, written⟩ :=
    absorb_of_no_stop source plain opened (stop?_lenient table floor entries)
  obtain ⟨second, again, answerAgain, writtenAgain⟩ :=
    absorb_of_no_stop source (plain_perm plain perm) opened (stop?_lenient table floor others)
  have reordered := tally.perm perm
  refine ⟨first, second, answer, answerAgain, ?_, reordered.belowFloor.trans again.belowFloor.symm,
    reordered.malformed.trans again.malformed.symm, reordered.offered.trans again.offered.symm⟩
  ext height
  rw [written, writtenAgain, pinned_writeAll_iff, pinned_writeAll_iff,
    mem_heights_perm (pointsAbove_perm floor perm)]

theorem lenient_perm_of_consistent (clear : ∀ point ∈ pointsAbove floor entries, table.clashes point = false)
    (consistent : ¬Contradictory (pointsAbove floor entries)) (height : Nat) :
    (table.absorb ⟨source, .int floor, false⟩ entries).table.hash? height =
      (table.absorb ⟨source, .int floor, false⟩ others).table.hash? height := by
  obtain ⟨_, _, _, written⟩ := absorb_of_no_stop source plain opened (stop?_lenient table floor entries)
  obtain ⟨_, _, _, writtenAgain⟩ :=
    absorb_of_no_stop source (plain_perm plain perm) opened (stop?_lenient table floor others)
  rw [written, writtenAgain]
  apply hash?_writeAll_perm
  · exact agrees_iff_consistent.mpr ⟨clear, consistent⟩
  · exact pointsAbove_perm floor perm

end Reordered

/-- The verdict on a strict source does not depend on the order of its entries, nor does anything else if it is
yes.  A lenient source pins the same heights in every order, with the same hashes if nothing contradicts. -/
theorem order_decides_contradictions_only (source : String) (floor : Int) {table : Table}
    {entries others : List Entry} (perm : entries.Perm others)
    (plain : ∀ entry ∈ entries, ∃ height, entry.Plain height) (opened : table.frozen = false) :
    let run (strict : Bool) (entries : List Entry) := table.absorb ⟨source, .int floor, strict⟩ entries
    SameIfFine (run true entries) (run true others) ∧ SameHeights (run false entries) (run false others) ∧
      ((∀ point ∈ pointsAbove floor entries, table.clashes point = false) →
        ¬Contradictory (pointsAbove floor entries) →
        ∀ height, (run false entries).table.hash? height = (run false others).table.hash? height) :=
  ⟨strict_perm source floor perm plain opened, lenient_perm source floor perm plain opened,
    lenient_perm_of_consistent source floor perm plain opened⟩

theorem order_decides_between_two_hashes :
    let table := empty.performAll [uniform 5 1]
    let entries := [uniformEntry 7 1, uniformEntry 7 2, uniformEntry 9 3]
    let others := [uniformEntry 7 2, uniformEntry 7 1, uniformEntry 9 3]
    let run (strict : Bool) (entries : List Entry) := table.absorb ⟨"feed", .int 5, strict⟩ entries
    entries.Perm others ∧ (∀ entry ∈ entries, ∃ height, entry.Plain height) ∧ table.frozen = false ∧
      SameIfFine (run true entries) (run true others) ∧ SameHeights (run false entries) (run false others) ∧
      (run false entries).table.hash? 7 ≠ (run false others).table.hash? 7 := by
  intro table entries others run
  have perm : entries.Perm others := List.Perm.swap _ _ _
  have plain : ∀ entry ∈ entries, ∃ height, entry.Plain height := by
    intro entry member
    simp only [entries, List.mem_cons, List.not_mem_nil, or_false] at member
    rcases member with rfl | rfl | rfl <;> exact ⟨_, rfl, Numeral.tooLong_of_word (by decide)⟩
  obtain ⟨strict, lenient, _⟩ :=
    order_decides_contradictions_only "feed" 5 perm plain (rfl : table.frozen = false)
  exact ⟨perm, plain, rfl, strict, lenient, by decide +kernel⟩

end Table

end ReorgGuard.Checkpoint
