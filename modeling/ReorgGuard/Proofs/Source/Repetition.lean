import Mathlib.Data.Set.Card
import ReorgGuard.Proofs.Source.Accounting
import ReorgGuard.Proofs.Table.Offers

/-!
What comes again.

A source that is taken in a second time is judged entry by entry as before: what was pinned in the first run
fits now as it fitted then, and what was refused is refused for the same pin.  So the second run adds nothing,
writes the same records and ends where the first one did, be it with a report or with an error.

An entry that repeats a pin is counted as added and adds nothing.  The counter of what was added is therefore
what the table gained and, on top, the number of such repetitions.
-/

namespace ReorgGuard.Checkpoint

/-! ### What an entry is, whatever the table -/

/-- An entry breaks off the intake, is counted and no more, or offers a point to the table. -/
inductive Intake.Meets (intake : Intake) (entry : Entry) : Prop
  | breaking (error : IntakeError)
      (step : ∀ (table : Table) report rest,
        table.absorbFrom intake report (entry :: rest) = ⟨table, [], .error error⟩)
  | passed (count : Report → Report) (records : List Journal.Record)
      (sameAdded : ∀ report, (count report).added = report.added)
      (pointless : ∀ floor, intake.floor = .int floor → pointsAbove floor [entry] = [])
      (step : ∀ (table : Table) report rest,
        table.absorbFrom intake report (entry :: rest) =
          (table.absorbFrom intake (count report) rest).behind records)
  | offered (point : Nat × Hash) (compared : entry.height.atMost? intake.floor = some false)
      (read : entry.point? = some point)

theorem Intake.meets (intake : Intake) (entry : Entry) : intake.Meets entry := by
  cases compared : entry.height.atMost? intake.floor with
  | none =>
      refine .breaking .noHeight fun table report rest => ?_
      simp only [Table.absorbFrom, compared]
  | some low =>
      cases low with
      | true =>
          refine .passed (fun report => { report with belowFloor := report.belowFloor + 1 }) _ (fun _ => rfl)
            (fun floor isFloor => ?_) fun _ _ _ => Table.absorbFrom_of_low compared
          rw [isFloor] at compared
          exact pointsAbove_cons_low compared []
      | false =>
          cases judged : entry.fault? with
          | error limit =>
              refine .breaking (.offer (.limit limit)) fun table report rest => ?_
              simp only [Table.absorbFrom, compared, judged]
          | ok verdict =>
              cases verdict with
              | some fault =>
                  refine .passed (fun report => { report with malformed := report.malformed + 1 }) _
                    (fun _ => rfl) (fun floor _ => ?_) fun _ _ _ => Table.absorbFrom_of_fault compared judged
                  refine pointsAbove_cons_unread (Option.eq_none_iff_forall_ne_some.mpr fun point read => ?_) []
                  cases judged.symm.trans (Entry.fault?_eq_none_iff.mpr ⟨point, read⟩)
              | none =>
                  obtain ⟨point, read⟩ := Entry.fault?_eq_none_iff.mp judged
                  exact .offered point compared read

namespace Table

/-! ### A source twice -/

section Again

variable {intake : Intake} {table later : Table} {report : Report} {entry : Entry} {rest : List Entry}
  {point : Nat × Hash} (compared : entry.height.atMost? intake.floor = some false)
  (read : entry.point? = some point)

include compared read

theorem absorbFrom_of_repeated (fits : ∀ pinned, table.hash? point.1 = some pinned → pinned = point.2)
    (grew : (table.write (.ofPoint point)).Grew later) (opened : table.frozen = false) :
    later.absorbFrom intake report (entry :: rest) =
      later.absorbFrom intake { report with added := report.added + 1 } rest := by
  have written : (table.write (.ofPoint point)).hash? point.1 = some point.2 := by
    have atHeight : point.1 = (Pin.ofPoint point).height := rfl
    rw [hash?_write, if_pos atHeight]
    exact or_some_of_same fits
  have pinned : later.hash? point.1 = some point.2 := grew.hash?_of_some written
  have stillOpen : later.frozen = false := grew.frozen_eq.trans opened
  have fitsLater : ∀ other, later.hash? point.1 = some other → other = point.2 := by
    intro other found
    rw [pinned] at found
    exact (Option.some.inj found).symm
  rw [absorbFrom_of_fits compared read stillOpen fitsLater, write_ofPoint_of_pinned pinned]

/-- A point that was refused is refused in every later table, for the same pin and with the same records. -/
theorem absorbFrom_of_refused (lenient : intake.strict = false) {pinned : Hash}
    (found : table.hash? point.1 = some pinned) (different : pinned ≠ point.2)
    (grew : table.Grew later) (opened : table.frozen = false) :
    later.absorbFrom intake report (entry :: rest) =
      (later.absorbFrom intake { report with conflicts := report.conflicts + 1 } rest).behind
        ((Refusal.hashClash point.1 pinned point.2).record ::
          intake.about intakeOrigin .warning entry "dropping conflicting" "") := by
  have stillOpen : later.frozen = false := grew.frozen_eq.trans opened
  rw [absorbFrom_of_clash compared read stillOpen (grew.hash?_of_some found) different, lenient]
  rfl

end Again

/-- Taking in entries over what they led to leads there again, with the same records and the same answer. -/
theorem absorbFrom_again (intake : Intake) (table : Table) (report : Report) (entries : List Entry) :
    (table.absorbFrom intake report entries).table.absorbFrom intake report entries =
      table.absorbFrom intake report entries := by
  induction entries generalizing table report with
  | nil => rfl
  | cons entry rest ih =>
      -- Where the first entry ends the run, the table has not moved.
      have ended (unmoved : (table.absorbFrom intake report (entry :: rest)).table = table) :
          (table.absorbFrom intake report (entry :: rest)).table.absorbFrom intake report (entry :: rest) =
            table.absorbFrom intake report (entry :: rest) := by
        rw [unmoved]
      cases intake.meets entry with
      | breaking error step =>
          apply ended
          rw [step]
      | passed count records _ _ step =>
          rw [step, step]
          exact congrArg (Absorbed.behind records) (ih table (count report))
      | offered point compared read =>
          cases frozen : table.frozen with
          | true =>
              apply ended
              rw [absorbFrom_of_frozen compared read frozen]
          | false =>
              rcases table.fits_or_clashes point with fits | ⟨pinned, found, different⟩
              · rw [absorbFrom_of_fits compared read frozen fits,
                  absorbFrom_of_repeated compared read fits (absorbFrom_grew _ _ _ _) frozen]
                exact ih _ _
              · cases lenient : intake.strict with
                | true =>
                    apply ended
                    rw [absorbFrom_of_clash compared read frozen found different, lenient]
                    rfl
                | false =>
                    have same (later : Table) (grew : table.Grew later) :
                        later.absorbFrom intake report (entry :: rest) = _ :=
                      absorbFrom_of_refused compared read lenient found different grew frozen
                    rw [same table (Grew.refl table)]
                    refine (same _ (absorbFrom_grew _ _ _ _)).trans ?_
                    exact congrArg (Absorbed.behind _) (ih table _)

/-- Taking in a source a second time changes nothing and ends as the first time, with an equal report and with the
same records. -/
theorem absorb_is_idempotent (source : String) (strict : Bool) (floor : Int) {table : Table}
    {entries : List Entry} (plain : ∀ entry ∈ entries, ∃ height, entry.Plain height)
    (opened : table.frozen = false) :
    let run (table : Table) := table.absorb ⟨source, .int floor, strict⟩ entries
    let again := run (run table).table
    ∃ report, (run table).answer = .ok report ∧ again.answer = .ok report ∧
      again.table = (run table).table ∧ again.records = (run table).records := by
  intro run again
  obtain ⟨report, _, outcome⟩ := absorbFrom_accounts source strict floor (Report.start source) plain opened
  have answered : (run table).answer = .ok report := congrArg Prod.snd outcome
  have same : again = run table := absorbFrom_again _ table _ entries
  rw [same]
  exact ⟨report, answered, answered, rfl, rfl⟩

theorem aborted_source_is_idempotent :
    let table := empty.performAll [uniform 5 1]
    let entries := [uniformEntry 7 2, uniformEntry 7 2, uniformEntry 5 3, uniformEntry 9 4]
    let run (table : Table) := table.absorb ⟨"file", .int 3, true⟩ entries
    (∀ entry ∈ entries, ∃ height, entry.Plain height) ∧ table.frozen = false ∧
      (run table).table.size = 2 ∧ (run (run table).table).table.size = 2 ∧
      ∃ report, (run table).answer = .ok report ∧ (run (run table).table).answer = .ok report := by
  intro table entries run
  have plain : ∀ entry ∈ entries, ∃ height, entry.Plain height := by
    intro entry member
    simp only [entries, List.mem_cons, List.not_mem_nil, or_false] at member
    rcases member with rfl | rfl | rfl | rfl <;> exact ⟨_, rfl, Height.writable_of_le (by decide)⟩
  obtain ⟨report, first, second, sameTable, _⟩ :=
    absorb_is_idempotent "file" true 3 plain (rfl : table.frozen = false)
  have two : (run table).table.size = 2 := by decide +kernel
  exact ⟨plain, rfl, two, (congrArg size sameTable).trans two, report, first, second⟩

/-! ### Points that repeat a pin -/

def repeated (table : Table) (earlier : List (Nat × Hash)) (point : Nat × Hash) : Bool :=
  (table.hash? point.1).or (earlier.lookup point.1) = some point.2

/-- How many of the points are pinned already when their turn comes. -/
def repetitions (table : Table) (points : List (Nat × Hash)) : Nat :=
  (List.range points.length).countP fun i => points[i]?.any (table.repeated (points.take i))

theorem repetitions_cons (table : Table) (point : Nat × Hash) (rest : List (Nat × Hash)) :
    table.repetitions (point :: rest) =
      (table.repeated [] point).toNat + (table.write (.ofPoint point)).repetitions rest := by
  have behind (i : Nat) :
      table.repeated (point :: rest.take i) = (table.write (.ofPoint point)).repeated (rest.take i) :=
    funext fun later => by simp only [repeated, hash?_or_lookup_cons]
  unfold repetitions
  rw [List.length_cons, List.range_succ_eq_map, List.countP_cons, List.countP_map, Nat.add_comm]
  refine congrArg₂ (· + ·) ?_ (congrArg (List.countP · _) (funext fun i => ?_))
  · cases atHead : table.repeated [] point <;> simp [atHead]
  · simp [behind]

theorem repetitions_eq_zero_iff {table : Table} {points : List (Nat × Hash)} :
    table.repetitions points = 0 ↔
      ∀ i point, points[i]? = some point → table.repeated (points.take i) point = false := by
  unfold repetitions
  rw [List.countP_eq_zero]
  constructor
  · intro none i point atPlace
    have inside : i < points.length := (List.getElem?_eq_some_iff.mp atPlace).1
    have isNone := none i (List.mem_range.mpr inside)
    rw [atPlace] at isNone
    exact Bool.eq_false_iff.mpr isNone
  · intro fresh i _
    cases atPlace : points[i]? with
    | none => simp
    | some point => simp [fresh i point atPlace]

theorem ncard_pinnedHeights (table : Table) :
    table.pinnedHeights.ncard = (table.points.map Prod.fst).toFinset.card := by
  rw [← Set.ncard_coe_finset, List.coe_toFinset]
  rfl

theorem ncard_write_of_fits {table : Table} {point : Nat × Hash}
    (fits : ∀ pinned, table.hash? point.1 = some pinned → pinned = point.2) :
    (table.write (.ofPoint point)).pinnedHeights.ncard + (table.repeated [] point).toNat =
      table.pinnedHeights.ncard + 1 := by
  cases found : table.hash? point.1 with
  | none =>
      have fresh : table.repeated [] point = false := by simp [repeated, found]
      have absent : point.1 ∉ table.pinnedHeights := by
        rw [pinned_iff_hash?_isSome, found]
        exact Bool.false_ne_true
      have grown : (table.write (.ofPoint point)).pinnedHeights = insert point.1 table.pinnedHeights :=
        Set.ext fun height => mem_supply_keys_iff table.points point.1 height point.2
      rw [fresh, grown, Set.ncard_insert_of_notMem absent (List.finite_toSet _)]
      rfl
  | some pinned =>
      have again : table.repeated [] point = true := by simp [repeated, found, fits pinned found]
      rw [again, write_ofPoint_of_pinned found]
      rfl

section Run

variable (source : String) (strict : Bool) (floor : Int)

/-- What was counted as added is what the table gained, and the repetitions among the points looked at. -/
def Gains (table : Table) (report : Report) (entries : List Entry) : Prop :=
  let absorbed := table.absorbFrom ⟨source, .int floor, strict⟩ report entries
  ∀ final, absorbed.answer = .ok final →
    final.added + table.pinnedHeights.ncard = report.added + absorbed.table.pinnedHeights.ncard +
      table.repetitions (pointsAbove floor (table.consumed strict floor entries))

theorem absorbFrom_gains {table : Table} (report : Report) (entries : List Entry)
    (opened : table.frozen = false) : Gains source strict floor table report entries := by
  -- The table varies: a point that was taken is what later points of its height repeat.
  induction entries generalizing table report with
  | nil =>
      intro final answered
      cases answered
      rfl
  | cons entry rest ih =>
      intro final answered
      cases Intake.meets ⟨source, .int floor, strict⟩ entry with
      | breaking error step =>
          rw [step] at answered
          cases answered
      | passed count records sameAdded pointless step =>
          have none : pointsAbove floor [entry] = [] := pointless floor rfl
          rw [step] at answered ⊢
          rw [consumed_cons (stop?_cons_of_no_point none), pointsAbove_cons, none, ← sameAdded report]
          exact ih (count report) opened final answered
      | offered point compared read =>
          have single : pointsAbove floor [entry] = [point] := pointsAbove_cons_high compared read []
          rcases table.fits_or_clashes point with fits | ⟨pinned, found, different⟩
          · rw [absorbFrom_of_fits compared read opened fits] at answered ⊢
            rw [consumed_cons (stop?_cons_of_fits single fits), pointsAbove_cons, single,
              List.singleton_append, repetitions_cons]
            have stillOpen : (table.write (.ofPoint point)).frozen = false := opened
            have counted := ih _ stillOpen final answered
            have grown := ncard_write_of_fits fits
            dsimp only at counted
            omega
          · have fresh : table.repeated [] point = false := by simp [repeated, found, different]
            rw [absorbFrom_of_clash compared read opened found different] at answered ⊢
            cases strict with
            | true =>
                cases answered
                rw [consumed_of_first (stop?_of_clash single found different), single, repetitions_cons, fresh]
                rfl
            | false =>
                rw [consumed_cons (stop?_cons_lenient table floor entry rest), pointsAbove_cons, single,
                  List.singleton_append, repetitions_cons, fresh, write_ofPoint_of_pinned found, Bool.toNat_false,
                  Nat.zero_add]
                exact ih _ opened final answered

end Run

/-- The counter of what was added is what the table gained and, on top, the number of points offered that repeat a
pin.  It is the gain alone exactly if no point does. -/
theorem added_counts_gain_and_repetitions (source : String) (strict : Bool) (floor : Int) {table : Table}
    (entries : List Entry) (opened : table.frozen = false) :
    let absorbed := table.absorb ⟨source, .int floor, strict⟩ entries
    let before := table.pinnedHeights.ncard
    let after := absorbed.table.pinnedHeights.ncard
    let offered := pointsAbove floor (table.consumed strict floor entries)
    ((∀ entry ∈ entries, ∃ height, entry.Plain height) → ∃ report, absorbed.answer = .ok report) ∧
    ∀ report, absorbed.answer = .ok report →
      report.added + before = after + table.repetitions offered ∧
      (report.added + before = after ↔
        ∀ i point, offered[i]? = some point → table.repeated (offered.take i) point = false) := by
  intro absorbed before after offered
  refine ⟨fun plain => ?_, fun report answered => ?_⟩
  · obtain ⟨report, _, outcome⟩ := absorbFrom_accounts source strict floor (Report.start source) plain opened
    exact ⟨report, congrArg Prod.snd outcome⟩
  · have gained := absorbFrom_gains source strict floor (Report.start source) entries opened report answered
    have counted : report.added + before = after + table.repetitions offered := by
      rw [gained]
      exact congrArg (· + _) (Nat.zero_add after)
    refine ⟨counted, ?_⟩
    rw [← repetitions_eq_zero_iff]
    omega

theorem added_counts_one_gain_and_two_repetitions :
    let table := empty.performAll [uniform 5 1]
    let entries := [uniformEntry 5 1, uniformEntry 7 2, uniformEntry 7 2]
    let absorbed := table.absorb ⟨"file", .int 3, true⟩ entries
    table.frozen = false ∧ ∃ report, absorbed.answer = .ok report ∧
      report.added + table.pinnedHeights.ncard = absorbed.table.pinnedHeights.ncard + 2 := by
  intro table entries absorbed
  obtain ⟨answers, counts⟩ :=
    added_counts_gain_and_repetitions "file" true 3 entries (rfl : table.frozen = false)
  obtain ⟨report, answered⟩ := answers fun entry member => by
    simp only [entries, List.mem_cons, List.not_mem_nil, or_false] at member
    rcases member with rfl | rfl | rfl <;> exact ⟨_, rfl, Height.writable_of_le (by decide)⟩
  have two : table.repetitions (pointsAbove 3 (table.consumed true 3 entries)) = 2 := by decide +kernel
  have counted := (counts report answered).1
  rw [two] at counted
  exact ⟨rfl, report, answered, counted⟩

theorem added_exceeds_gain :
    let absorbed := empty.absorb ⟨"source", .int 0, false⟩ [uniformEntry 7 1, uniformEntry 7 1]
    empty.frozen = false ∧ ∃ report, absorbed.answer = .ok report ∧ report.added = 2 ∧
      empty.pinnedHeights.ncard = 0 ∧ absorbed.table.pinnedHeights.ncard = 1 := by
  intro absorbed
  refine ⟨rfl, ⟨"source", 2, 0, 0, 0, true⟩, rfl, rfl, ?_, ?_⟩
  · rw [ncard_pinnedHeights]
    rfl
  · rw [ncard_pinnedHeights]
    decide +kernel

end Table

end ReorgGuard.Checkpoint
