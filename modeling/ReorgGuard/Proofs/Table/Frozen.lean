import ReorgGuard.Proofs.Source.Accounting
import ReorgGuard.Proofs.Table.FirstWrite

/-!
Tables that are frozen.

A frozen table accepts nothing, so that nothing which fills a table changes it, whatever is answered.  What is
answered to a source depends on all of its entries: those that are passed over before they are offered do no
harm, and the first one that is offered breaks the source off.
-/

namespace ReorgGuard.Checkpoint

def Entry.IsOffered (floor : Int) (entry : Entry) : Prop :=
  ∃ height hash, Height.ofValue entry.height = .ok height ∧ Hash.ofValue entry.hash = .ok hash ∧ floor < height

theorem exists_isOffered_iff (floor : Int) (entries : List Entry) :
    (∃ entry ∈ entries, entry.IsOffered floor) ↔ pointsAbove floor entries ≠ [] := by
  constructor
  · intro offered
    obtain ⟨entry, member, height, hash, readHeight, readHash, above⟩ := offered
    have read : entry.point? = some (height, hash) := Entry.point?_eq_some_iff.mpr ⟨readHeight, readHash⟩
    have found : (height, hash) ∈ pointsAbove floor entries :=
      List.mem_filter.mpr ⟨List.mem_filterMap.mpr ⟨entry, member, read⟩, decide_eq_true above⟩
    exact List.ne_nil_of_mem found
  · intro nonempty
    obtain ⟨point, found⟩ := List.exists_mem_of_ne_nil _ nonempty
    obtain ⟨member, above⟩ := List.mem_filter.mp found
    obtain ⟨entry, isEntry, read⟩ := List.mem_filterMap.mp member
    obtain ⟨readHeight, readHash⟩ := Entry.point?_eq_some_iff.mp read
    exact ⟨entry, isEntry, point.1, point.2, readHeight, readHash, of_decide_eq_true above⟩

namespace Table

/-- What a frozen table answers to a source that has been counted up to here: the source breaks off if one of its
entries is offered, and otherwise all of them are counted. -/
def AnswersFrozen (strict : Bool) (floor : Int) (report : Report) (entries : List Entry)
    (answer : Except IntakeError Report) : Prop :=
  (pointsAbove floor entries ≠ [] ∧ answer = .error (.offer .closed)) ∨
    (pointsAbove floor entries = [] ∧ ∃ final, Tally strict floor entries false report final ∧ answer = .ok final)

theorem AnswersFrozen.cons {strict : Bool} {floor : Int} {report between : Report} {entry : Entry}
    {rest : List Entry} {answer : Except IntakeError Report}
    (others : AnswersFrozen strict floor between rest answer) (passed : pointsAbove floor [entry] = [])
    (counted : Tally strict floor [entry] false report between) :
    AnswersFrozen strict floor report (entry :: rest) answer := by
  have samePoints : pointsAbove floor (entry :: rest) = pointsAbove floor rest := by
    rw [pointsAbove_cons, passed, List.nil_append]
  unfold AnswersFrozen
  rw [samePoints]
  rcases others with failed | ⟨noPoints, final, tally, answered⟩
  · exact Or.inl failed
  · exact Or.inr ⟨noPoints, final, counted.cons tally, answered⟩

section Frozen

variable {table : Table} (frozen : table.frozen = true)

include frozen

theorem add_of_frozen (height hash difficulty : Value) : table.add height hash difficulty = .failed .closed :=
  if_pos frozen

theorem freeze_of_frozen : table.freeze = table := by
  rw [freeze, ← frozen]

theorem Accepts.eq_of_frozen {pins : List Pin} {after : Table} (accepts : Accepts table pins after) :
    after = table := by
  induction accepts with
  | nothing table => rfl
  | next _ added _ _ =>
      rw [add_of_frozen frozen] at added
      cases added
  | closed _ ih => exact (ih rfl).trans (freeze_of_frozen frozen)

theorem fillAll_of_frozen (fillings : List Filling) : table.fillAll fillings = table :=
  (accepts_fillAll table fillings).eq_of_frozen frozen

theorem absorbFrom_frozen (source : String) (strict : Bool) (floor : Int) (report : Report)
    {entries : List Entry} (plain : ∀ entry ∈ entries, ∃ height, entry.Plain height) :
    AnswersFrozen strict floor report entries
      (table.absorbFrom ⟨source, .int floor, strict⟩ report entries).answer := by
  induction entries generalizing report with
  | nil => exact Or.inr ⟨rfl, report, Tally.nothing strict floor report, rfl⟩
  | cons entry rest ih =>
      rw [List.forall_mem_cons] at plain
      obtain ⟨⟨height, isPlain⟩, plainRest⟩ := plain
      by_cases below : height ≤ floor
      · rw [absorbFrom_of_low (isPlain.low_of_below below)]
        exact (ih _ plainRest).cons (pointsAbove_cons_below isPlain below []) (Tally.below isPlain report below)
      · have above : floor < height := by omega
        -- What is malformed is passed over before it is offered; a point is offered and breaks the source off.
        cases read : entry.point? with
        | none =>
            obtain ⟨_, faulty⟩ := isPlain.fault?_of_no_point read
            rw [absorbFrom_of_fault (isPlain.high_of_above above) faulty]
            exact (ih _ plainRest).cons (pointsAbove_cons_unread read []) (Tally.unread isPlain report above read)
        | some point =>
            rw [absorbFrom_of_frozen (isPlain.high_of_above above) read frozen]
            refine Or.inl ⟨?_, rfl⟩
            rw [pointsAbove_cons_above isPlain above read]
            exact List.cons_ne_nil _ _

/-- Nothing changes a frozen table.  What is added to it alone fails; a source fails exactly if one of its entries
is offered, and otherwise all of them are counted as passed over. -/
theorem frozen_table_takes_nothing :
    (∀ fillings, table.fillAll fillings = table) ∧
    (∀ height hash difficulty, table.add height hash difficulty = .failed .closed) ∧
    ∀ (source : String) (strict : Bool) (floor : Int) (entries : List Entry),
      (∀ entry ∈ entries, ∃ height, entry.Plain height) →
      let absorbed := table.absorb ⟨source, .int floor, strict⟩ entries
      (absorbed.answer = .error (.offer .closed) ↔ ∃ entry ∈ entries, entry.IsOffered floor) ∧
      ((¬∃ entry ∈ entries, entry.IsOffered floor) →
        ∃ report, absorbed.answer = .ok report ∧ report.added = 0 ∧ report.conflicts = 0 ∧ report.ok = true ∧
          report.belowFloor + report.malformed = entries.length) := by
  refine ⟨fillAll_of_frozen frozen, add_of_frozen frozen, fun source strict floor entries plain => ?_⟩
  intro absorbed
  rw [exists_isOffered_iff]
  rcases absorbFrom_frozen frozen source strict floor (Report.start source) plain with
    ⟨points, failed⟩ | ⟨noPoints, report, tally, answered⟩
  · exact ⟨iff_of_true failed points, fun noPoints => absurd points noPoints⟩
  · have notFailed : ¬absorbed.answer = .error (.offer .closed) := by
      intro failed
      cases answered.symm.trans failed
    refine ⟨iff_of_false notFailed (not_not_intro noPoints), fun _ => ⟨report, answered, ?_⟩⟩
    have offered : report.added + report.conflicts = 0 := by
      rw [tally.offered, noPoints]
      rfl
    have belowFloor : report.belowFloor = entries.countP (Entry.isBelow floor) :=
      tally.belowFloor.trans (Nat.zero_add _)
    have malformed : report.malformed = entries.countP (Entry.isMalformed floor) :=
      tally.malformed.trans (Nat.zero_add _)
    have counted := countP_add_countP_add_length floor plain
    rw [← belowFloor, ← malformed, noPoints] at counted
    exact ⟨by omega, by omega, tally.ok, counted⟩

end Frozen

theorem frozen_table_of_one_point :
    let table := empty.performAll [uniform 5 1, .freeze]
    let passed : List Entry := [uniformEntry 2 9, ⟨.int 7, .text "junk"⟩]
    table.frozen = true ∧ table.fillAll [.perform (uniform 9 2), .perform (.seed .testnet)] = table ∧
      table.add (.text "junk") .null .null = .failed .closed ∧
      (∃ report, (table.absorb ⟨"file", .int 3, true⟩ passed).answer = .ok report ∧
        report.added = 0 ∧ report.conflicts = 0 ∧ report.ok = true ∧ report.belowFloor + report.malformed = 2) ∧
      (table.absorb ⟨"file", .int 3, true⟩ (passed ++ [uniformEntry 5 1])).answer =
        .error (.offer .closed) := by
  intro table passed
  obtain ⟨kept, refused, answers⟩ := frozen_table_takes_nothing (rfl : table.frozen = true)
  have plain : ∀ entry ∈ passed ++ [uniformEntry 5 1], ∃ height, entry.Plain height := by
    intro entry member
    simp only [passed, List.mem_append, List.mem_cons, List.not_mem_nil, or_false] at member
    rcases member with (rfl | rfl) | rfl <;> exact ⟨_, rfl, Numeral.tooLong_of_word (by decide)⟩
  have plainPassed : ∀ entry ∈ passed, ∃ height, entry.Plain height :=
    fun entry member => plain entry (List.mem_append_left _ member)
  have none : ¬∃ entry ∈ passed, entry.IsOffered 3 := by
    rw [exists_isOffered_iff]
    decide +kernel
  have some : ∃ entry ∈ passed ++ [uniformEntry 5 1], entry.IsOffered 3 := by
    rw [exists_isOffered_iff]
    decide +kernel
  exact ⟨rfl, kept _, refused _ _ _, (answers "file" true 3 passed plainPassed).2 none,
    (answers "file" true 3 _ plain).1.mpr some⟩

end Table

end ReorgGuard.Checkpoint
