import ReorgGuard.Proofs.Build.Isolation
import ReorgGuard.Proofs.Table.Foretelling

/-!
What the report on a source accounts for.

A strict source ends with its first entry that contradicts the table or an entry before it; any other
source is looked at to its end.  Each entry that was looked at is counted once: as below the floor, as
malformed, or as offered to the table, which adds it or is in conflict with it.  Of the points offered for
one height the first stands if the height was free.

As in the step laws the heights of the entries are integers that can be written.
-/

namespace ReorgGuard.Checkpoint

namespace Entry

def isBelow (floor : Int) (entry : Entry) : Bool :=
  entry.height.whole?.any (· ≤ floor)

def isMalformed (floor : Int) (entry : Entry) : Bool :=
  !entry.isBelow floor && entry.point?.isNone

theorem Plain.isBelow_eq {entry : Entry} {height : Int} (plain : entry.Plain height) (floor : Int) :
    entry.isBelow floor = decide (height ≤ floor) := by
  rw [isBelow, plain.isInt]
  rfl

theorem Plain.isBelow_of_above {entry : Entry} {height floor : Int} (plain : entry.Plain height)
    (above : floor < height) : entry.isBelow floor = false := by
  rw [plain.isBelow_eq, decide_eq_false_iff_not]
  omega

theorem Plain.offered {entry : Entry} {height floor : Int} {point : Nat × Hash} (plain : entry.Plain height)
    (above : floor < height) (read : entry.point? = some point) :
    entry.isBelow floor = false ∧ entry.isMalformed floor = false ∧ pointsAbove floor [entry] = [point] := by
  refine ⟨plain.isBelow_of_above above, ?_, pointsAbove_cons_above plain above read []⟩
  rw [isMalformed, read, Option.isNone_some, Bool.and_false]

end Entry

theorem pointsAbove_append (floor : Int) (entries more : List Entry) :
    pointsAbove floor (entries ++ more) = pointsAbove floor entries ++ pointsAbove floor more := by
  simp only [pointsAbove, List.filterMap_append, List.filter_append]

theorem pointsAbove_cons (floor : Int) (entry : Entry) (rest : List Entry) :
    pointsAbove floor (entry :: rest) = pointsAbove floor [entry] ++ pointsAbove floor rest :=
  pointsAbove_append floor [entry] rest

/-! ### Where a source ends -/

namespace Table

/-- Whether an entry contradicts the table or one of the entries before it, all of them as far as they are
well formed and above the floor. -/
def contradicts (table : Table) (floor : Int) (earlier : List Entry) (entry : Entry) : Bool :=
  (pointsAbove floor [entry]).any fun point =>
    table.clashes point || (pointsAbove floor earlier).any fun other =>
      other.1 = point.1 ∧ other.2 ≠ point.2

/-- The position of the entry that ends a source: of a strict one, the first that contradicts. -/
def stop? (table : Table) (strict : Bool) (floor : Int) (entries : List Entry) : Option Nat :=
  (List.range entries.length).find? fun i =>
    strict && entries[i]?.any (table.contradicts floor (entries.take i))

/-- The entries of a source that are looked at. -/
def consumed (table : Table) (strict : Bool) (floor : Int) (entries : List Entry) : List Entry :=
  entries.take ((table.stop? strict floor entries).elim entries.length (· + 1))

variable {table next : Table} {strict : Bool} {floor : Int} {entry : Entry} {rest : List Entry}

theorem contradicts_of_no_point (none : pointsAbove floor [entry] = []) (earlier : List Entry) :
    table.contradicts floor earlier entry = false := by
  rw [contradicts, none, List.any_nil]

theorem contradicts_behind_no_point (none : pointsAbove floor [entry] = []) (earlier : List Entry)
    (later : Entry) :
    table.contradicts floor (entry :: earlier) later = table.contradicts floor earlier later := by
  rw [contradicts, pointsAbove_cons floor entry earlier, none, List.nil_append, contradicts]

theorem contradicts_of_point {point : Nat × Hash} (single : pointsAbove floor [entry] = [point]) :
    table.contradicts floor [] entry = table.clashes point := by
  have nothing : pointsAbove floor [] = [] := rfl
  rw [contradicts, single, nothing]
  simp

theorem clashes_write {point later : Nat × Hash}
    (fits : ∀ pinned, table.hash? point.1 = some pinned → pinned = point.2) :
    (table.write (.ofPoint point)).clashes later =
      (table.clashes later || decide (point.1 = later.1 ∧ point.2 ≠ later.2)) := by
  by_cases here : later.1 = point.1
  · have atHeight : later.1 = (Pin.ofPoint point).height := here
    rw [clashes, hash?_write, if_pos atHeight, clashes, here]
    cases found : table.hash? point.1 with
    | none => simp [Pin.ofPoint]
    | some pinned => simp [fits pinned found]
  · have elsewhere : ¬point.1 = later.1 := fun same => here same.symm
    simp [clashes_write_elsewhere here, elsewhere]

theorem contradicts_behind_point {point : Nat × Hash} (single : pointsAbove floor [entry] = [point])
    (fits : ∀ pinned, table.hash? point.1 = some pinned → pinned = point.2) (earlier : List Entry)
    (later : Entry) :
    table.contradicts floor (entry :: earlier) later =
      (table.write (.ofPoint point)).contradicts floor earlier later := by
  unfold contradicts
  rw [pointsAbove_cons floor entry earlier, single]
  refine congrArg (pointsAbove floor [later]).any (funext fun other => ?_)
  rw [clashes_write fits, List.singleton_append, List.any_cons, Bool.or_assoc]

theorem stop?_cons
    (shifts : strict = true → ∀ earlier later,
      table.contradicts floor (entry :: earlier) later = next.contradicts floor earlier later)
    (harmless : (strict && table.contradicts floor [] entry) = false) :
    table.stop? strict floor (entry :: rest) = (next.stop? strict floor rest).map (· + 1) := by
  have atHead : (strict && (entry :: rest)[0]?.any (table.contradicts floor ((entry :: rest).take 0))) = false :=
    harmless
  unfold stop?
  rw [List.length_cons, List.range_succ_eq_map, List.find?_cons_of_neg, List.find?_map]
  · refine congrArg (fun test => ((List.range rest.length).find? test).map (· + 1)) (funext fun i => ?_)
    cases strict with
    | false => rfl
    | true =>
        have same : table.contradicts floor (entry :: rest.take i) = next.contradicts floor (rest.take i) :=
          funext (shifts rfl (rest.take i))
        simp [same]
  · rw [atHead]
    exact Bool.false_ne_true

theorem stop?_cons_of_no_point (none : pointsAbove floor [entry] = []) :
    table.stop? strict floor (entry :: rest) = (table.stop? strict floor rest).map (· + 1) := by
  apply stop?_cons
  · exact fun _ => contradicts_behind_no_point none
  · rw [contradicts_of_no_point none, Bool.and_false]

theorem stop?_cons_of_fits {point : Nat × Hash} (single : pointsAbove floor [entry] = [point])
    (fits : ∀ pinned, table.hash? point.1 = some pinned → pinned = point.2) :
    table.stop? strict floor (entry :: rest) =
      ((table.write (.ofPoint point)).stop? strict floor rest).map (· + 1) := by
  apply stop?_cons
  · exact fun _ => contradicts_behind_point single fits
  · have clear : table.clashes point = false := by
      rw [Bool.eq_false_iff]
      intro clash
      obtain ⟨pinned, found, different⟩ := (clashes_eq_true_iff table point).mp clash
      exact different (fits pinned found)
    rw [contradicts_of_point single, clear, Bool.and_false]

theorem stop?_of_contradicts (contradicted : table.contradicts floor [] entry = true) :
    table.stop? true floor (entry :: rest) = some 0 := by
  have atHead : (true && (entry :: rest)[0]?.any (table.contradicts floor ((entry :: rest).take 0))) = true :=
    contradicted
  unfold stop?
  rw [List.length_cons, List.range_succ_eq_map]
  exact List.find?_cons_of_pos atHead

theorem stop?_of_clash {point : Nat × Hash} (single : pointsAbove floor [entry] = [point]) {pinned : Hash}
    (found : table.hash? point.1 = some pinned) (different : pinned ≠ point.2) :
    table.stop? true floor (entry :: rest) = some 0 := by
  apply stop?_of_contradicts
  rw [contradicts_of_point single]
  exact (clashes_eq_true_iff table point).mpr ⟨pinned, found, different⟩

theorem stop?_lenient (table : Table) (floor : Int) (entries : List Entry) :
    table.stop? false floor entries = none :=
  List.find?_eq_none.mpr fun _ _ => Bool.false_ne_true

theorem stop?_cons_lenient (table : Table) (floor : Int) (entry : Entry) (rest : List Entry) :
    table.stop? false floor (entry :: rest) = (table.stop? false floor rest).map (· + 1) := by
  rw [stop?_lenient, stop?_lenient, Option.map_none]

theorem consumed_of_first (ends : table.stop? strict floor (entry :: rest) = some 0) :
    table.consumed strict floor (entry :: rest) = [entry] := by
  rw [consumed, ends]
  rfl

theorem consumed_of_no_stop {entries : List Entry} (none : table.stop? strict floor entries = none) :
    table.consumed strict floor entries = entries := by
  rw [consumed, none]
  exact List.take_length

theorem consumed_cons
    (goesOn : table.stop? strict floor (entry :: rest) = (next.stop? strict floor rest).map (· + 1)) :
    table.consumed strict floor (entry :: rest) = entry :: next.consumed strict floor rest := by
  unfold consumed
  rw [goesOn]
  cases next.stop? strict floor rest <;> rfl

end Table

/-! ### Counting -/

/-- What the counters of a report gain from entries that are looked at, and what becomes of its verdict. -/
structure Tally (strict : Bool) (floor : Int) (looked : List Entry) (stopped : Bool)
    (before after : Report) : Prop where
  source : after.source = before.source
  belowFloor : after.belowFloor = before.belowFloor + looked.countP (Entry.isBelow floor)
  malformed : after.malformed = before.malformed + looked.countP (Entry.isMalformed floor)
  offered : after.added + after.conflicts =
    before.added + before.conflicts + (pointsAbove floor looked).length
  conflicts : strict = true → after.conflicts = before.conflicts + stopped.toNat
  ok : after.ok = (before.ok && !stopped)

namespace Tally

variable {strict stopped : Bool} {floor height : Int} {entry : Entry} {looked : List Entry}
  {before between after : Report} {point : Nat × Hash}

theorem nothing (strict : Bool) (floor : Int) (report : Report) : Tally strict floor [] false report report :=
  ⟨rfl, rfl, rfl, rfl, fun _ => rfl, (Bool.and_true _).symm⟩

theorem cons (first : Tally strict floor [entry] false before between)
    (others : Tally strict floor looked stopped between after) :
    Tally strict floor (entry :: looked) stopped before after := by
  have split : entry :: looked = [entry] ++ looked := rfl
  refine ⟨others.source.trans first.source, ?_, ?_, ?_, fun isStrict => ?_, ?_⟩
  · rw [split, List.countP_append, others.belowFloor, first.belowFloor, Nat.add_assoc]
  · rw [split, List.countP_append, others.malformed, first.malformed, Nat.add_assoc]
  · rw [split, pointsAbove_append, List.length_append, others.offered, first.offered, Nat.add_assoc]
  · rw [others.conflicts isStrict, first.conflicts isStrict]
    rfl
  · rw [others.ok, first.ok, Bool.not_false, Bool.and_true]

section Single

variable (plain : entry.Plain height) (report : Report)

include plain

theorem below (isBelow : height ≤ floor) :
    Tally strict floor [entry] false report { report with belowFloor := report.belowFloor + 1 } := by
  have low : entry.isBelow floor = true := by
    rw [plain.isBelow_eq, decide_eq_true isBelow]
  have none : pointsAbove floor [entry] = [] := pointsAbove_cons_below plain isBelow []
  constructor <;> simp [low, none, Entry.isMalformed]

theorem unread (above : floor < height) (noPoint : entry.point? = none) :
    Tally strict floor [entry] false report { report with malformed := report.malformed + 1 } := by
  have high : entry.isBelow floor = false := plain.isBelow_of_above above
  have none : pointsAbove floor [entry] = [] := pointsAbove_cons_unread noPoint []
  constructor <;> simp [high, none, noPoint, Entry.isMalformed]

variable (above : floor < height) (read : entry.point? = some point)

include above read

theorem added : Tally strict floor [entry] false report { report with added := report.added + 1 } := by
  obtain ⟨high, wellFormed, single⟩ := plain.offered above read
  constructor <;> simp [high, wellFormed, single]
  omega

theorem dropped : Tally false floor [entry] false report { report with conflicts := report.conflicts + 1 } := by
  obtain ⟨high, wellFormed, single⟩ := plain.offered above read
  constructor <;> simp [high, wellFormed, single]
  omega

theorem ended :
    Tally true floor [entry] true report { report with conflicts := report.conflicts + 1, ok := false } := by
  obtain ⟨high, wellFormed, single⟩ := plain.offered above read
  constructor <;> simp [high, wellFormed, single]
  omega

end Single

end Tally

theorem countP_add_countP_add_length (floor : Int) {entries : List Entry}
    (plain : ∀ entry ∈ entries, ∃ height, entry.Plain height) :
    entries.countP (Entry.isBelow floor) + entries.countP (Entry.isMalformed floor) +
      (pointsAbove floor entries).length = entries.length := by
  induction entries with
  | nil => rfl
  | cons entry rest ih =>
      rw [List.forall_mem_cons] at plain
      rcases plain with ⟨⟨height, isPlain⟩, plainRest⟩
      have counted := ih plainRest
      rw [pointsAbove_cons, List.length_append, List.countP_cons, List.countP_cons, List.length_cons]
      by_cases isBelow : height ≤ floor
      · have low : entry.isBelow floor = true := by
          rw [isPlain.isBelow_eq, decide_eq_true isBelow]
        have none : pointsAbove floor [entry] = [] := pointsAbove_cons_below isPlain isBelow []
        simp only [low, none, Entry.isMalformed, Bool.not_true, Bool.false_and, Bool.false_eq_true, if_true,
          if_false, List.length_nil]
        omega
      · have above : floor < height := by omega
        cases read : entry.point? with
        | none =>
            have none : pointsAbove floor [entry] = [] := pointsAbove_cons_unread read []
            simp only [isPlain.isBelow_of_above above, none, Entry.isMalformed, read, Bool.not_false,
              Option.isNone_none, Bool.and_true, Bool.false_eq_true, if_true, if_false, List.length_nil]
            omega
        | some point =>
            obtain ⟨high, wellFormed, single⟩ := isPlain.offered above read
            simp only [high, wellFormed, single, Bool.false_eq_true, if_false, List.length_singleton]
            omega

/-! ### Taking in a source -/

namespace Table

section Run

variable (source : String) (strict : Bool) (floor : Int)

/-- A source leaves the table with the points of the entries looked at, and a report that counts them. -/
def Accounts (table : Table) (report : Report) (entries : List Entry) : Prop :=
  ∃ final, Tally strict floor (table.consumed strict floor entries)
      (table.stop? strict floor entries).isSome report final ∧
    (table.absorbFrom ⟨source, .int floor, strict⟩ report entries).outcome =
      (table.writeAll ((pointsAbove floor (table.consumed strict floor entries)).map .ofPoint), .ok final)

variable {source strict floor} {table : Table} {report : Report} {entry : Entry} {rest : List Entry}

/-- A first entry that does not end the source hands over to the others. -/
theorem Accounts.cons {next : Table} {between : Report}
    (step : (table.absorbFrom ⟨source, .int floor, strict⟩ report (entry :: rest)).outcome =
      (next.absorbFrom ⟨source, .int floor, strict⟩ between rest).outcome)
    (goesOn : table.stop? strict floor (entry :: rest) = (next.stop? strict floor rest).map (· + 1))
    (counted : Tally strict floor [entry] false report between)
    (written : table.writeAll ((pointsAbove floor [entry]).map .ofPoint) = next)
    (others : Accounts source strict floor next between rest) :
    Accounts source strict floor table report (entry :: rest) := by
  rcases others with ⟨final, tally, outcome⟩
  refine ⟨final, ?_, ?_⟩
  · rw [consumed_cons goesOn, goesOn, Option.isSome_map]
    exact counted.cons tally
  · rw [step, outcome, consumed_cons goesOn, pointsAbove_cons, List.map_append, ← written]
    unfold writeAll
    rw [List.foldl_append]

section Kinds

variable {height : Int} {point : Nat × Hash} {pinned : Hash} (plain : entry.Plain height)

include plain

theorem Accounts.below (isBelow : height ≤ floor)
    (others : Accounts source strict floor table { report with belowFloor := report.belowFloor + 1 } rest) :
    Accounts source strict floor table report (entry :: rest) := by
  have none : pointsAbove floor [entry] = [] := pointsAbove_cons_below plain isBelow []
  refine Accounts.cons (absorbFrom_below plain isBelow) (stop?_cons_of_no_point none)
    (Tally.below plain report isBelow) ?_ others
  rw [none]
  rfl

variable (above : floor < height)

include above

theorem Accounts.unread (noPoint : entry.point? = none)
    (others : Accounts source strict floor table { report with malformed := report.malformed + 1 } rest) :
    Accounts source strict floor table report (entry :: rest) := by
  have none : pointsAbove floor [entry] = [] := pointsAbove_cons_unread noPoint []
  refine Accounts.cons (absorbFrom_unread plain above noPoint) (stop?_cons_of_no_point none)
    (Tally.unread plain report above noPoint) ?_ others
  rw [none]
  rfl

variable (opened : table.frozen = false) (read : entry.point? = some point)

include opened read

theorem Accounts.added (fits : ∀ pinned, table.hash? point.1 = some pinned → pinned = point.2)
    (others : Accounts source strict floor (table.write (.ofPoint point))
      { report with added := report.added + 1 } rest) :
    Accounts source strict floor table report (entry :: rest) := by
  have single : pointsAbove floor [entry] = [point] := pointsAbove_cons_above plain above read []
  refine Accounts.cons (absorbFrom_taken plain above opened read fits) (stop?_cons_of_fits single fits)
    (Tally.added plain report above read) ?_ others
  rw [single]
  rfl

variable (found : table.hash? point.1 = some pinned) (different : pinned ≠ point.2)

include found different

theorem Accounts.dropped
    (others : Accounts source false floor table { report with conflicts := report.conflicts + 1 } rest) :
    Accounts source false floor table report (entry :: rest) := by
  have single : pointsAbove floor [entry] = [point] := pointsAbove_cons_above plain above read []
  refine Accounts.cons (absorbFrom_conflict plain above opened read found different)
    (stop?_cons_lenient table floor entry rest) (Tally.dropped plain report above read) ?_ others
  rw [single]
  exact write_ofPoint_of_pinned found

theorem Accounts.ended : Accounts source true floor table report (entry :: rest) := by
  have single : pointsAbove floor [entry] = [point] := pointsAbove_cons_above plain above read []
  have ends : table.stop? true floor (entry :: rest) = some 0 := stop?_of_clash single found different
  have looked : table.consumed true floor (entry :: rest) = [entry] := consumed_of_first ends
  refine ⟨{ report with conflicts := report.conflicts + 1, ok := false }, ?_, ?_⟩
  · rw [looked, ends]
    exact Tally.ended plain report above read
  · rw [absorbFrom_conflict plain above opened read found different, looked, single]
    exact congrArg (·, _) (write_ofPoint_of_pinned found).symm

end Kinds

theorem absorbFrom_accounts (source : String) (strict : Bool) (floor : Int) {table : Table} (report : Report)
    {entries : List Entry} (plain : ∀ entry ∈ entries, ∃ height, entry.Plain height)
    (opened : table.frozen = false) : Accounts source strict floor table report entries := by
  -- The table varies: a point that was taken is what later points of its height are compared with.
  induction entries generalizing table report with
  | nil => exact ⟨report, Tally.nothing strict floor report, rfl⟩
  | cons entry rest ih =>
      rw [List.forall_mem_cons] at plain
      rcases plain with ⟨⟨height, isPlain⟩, plainRest⟩
      by_cases below : height ≤ floor
      · exact Accounts.below isPlain below (ih _ plainRest opened)
      · have above : floor < height := by omega
        cases read : entry.point? with
        | none => exact Accounts.unread isPlain above read (ih _ plainRest opened)
        | some point =>
            rcases table.fits_or_clashes point with fits | ⟨pinned, found, different⟩
            · exact Accounts.added isPlain above opened read fits (ih _ plainRest opened)
            · cases strict with
              | false =>
                  exact Accounts.dropped isPlain above opened read found different (ih _ plainRest opened)
              | true => exact Accounts.ended isPlain above opened read found different

end Run

/-- Taking in a source looks at its entries up to the one that ends it, counts each of them once, and adds to
the table the first point for each height that was free. -/
theorem absorb_accounts_for_entries (source : String) (strict : Bool) (floor : Int) {table : Table}
    {entries : List Entry} (plain : ∀ entry ∈ entries, ∃ height, entry.Plain height)
    (opened : table.frozen = false) :
    let looked := table.consumed strict floor entries
    let absorbed := table.absorb ⟨source, .int floor, strict⟩ entries
    ∃ report, absorbed.answer = .ok report ∧
      report.belowFloor + report.malformed + report.added + report.conflicts = looked.length ∧
      report.belowFloor = looked.countP (Entry.isBelow floor) ∧
      report.malformed = looked.countP (Entry.isMalformed floor) ∧
      (report.ok = false ↔ (table.stop? strict floor entries).isSome) ∧
      (report.ok = false → report.conflicts = 1) ∧
      (∀ height : Nat, (height : Int) ≤ floor → absorbed.table.hash? height = table.hash? height) ∧
      absorbed.table.difficulties = table.difficulties ∧
      ∀ height, absorbed.table.hash? height =
        (table.hash? height).or ((pointsAbove floor looked).lookup height) := by
  intro looked absorbed
  obtain ⟨report, tally, outcome⟩ := absorbFrom_accounts source strict floor (Report.start source) plain opened
  have answered : absorbed.answer = .ok report := congrArg Prod.snd outcome
  have written : absorbed.table = table.writeAll ((pointsAbove floor looked).map .ofPoint) :=
    congrArg Prod.fst outcome
  have overlaid : table.Overlaid floor absorbed.table := absorbFrom_overlaid rfl table _ entries
  have belowFloor : report.belowFloor = looked.countP (Entry.isBelow floor) :=
    tally.belowFloor.trans (Nat.zero_add _)
  have malformed : report.malformed = looked.countP (Entry.isMalformed floor) :=
    tally.malformed.trans (Nat.zero_add _)
  have offered : report.added + report.conflicts = (pointsAbove floor looked).length :=
    tally.offered.trans (Nat.zero_add _)
  have verdict : report.ok = !(table.stop? strict floor entries).isSome := tally.ok.trans (Bool.true_and _)
  refine ⟨report, answered, ?_, belowFloor, malformed, ?_, fun ended => ?_, fun height => overlaid.hash?_eq,
    overlaid.difficulties_eq, fun height => ?_⟩
  · have plainLooked : ∀ entry ∈ looked, ∃ height, entry.Plain height := fun entry member =>
      plain entry (List.mem_of_mem_take member)
    have partition := countP_add_countP_add_length floor plainLooked
    rw [belowFloor, malformed, Nat.add_assoc, offered]
    exact partition
  · rw [verdict, Bool.not_eq_false']
  · cases strict with
    | false =>
        rw [verdict, stop?_lenient] at ended
        cases ended
    | true =>
        rw [verdict, Bool.not_eq_false'] at ended
        rw [tally.conflicts rfl, ended]
        rfl
  · rw [written, hash?_writeAll_ofPoint]

def uniformEntry (height : Nat) (octet : UInt8) : Entry :=
  ⟨.int height, .octets .fixed (List.replicate 32 octet)⟩

theorem absorb_accounts_for_five_entries :
    let table := empty.performAll [uniform 5 1]
    let entries :=
      [uniformEntry 2 9, ⟨.int 7, .text "junk"⟩, uniformEntry 7 2, uniformEntry 5 3, uniformEntry 9 4]
    let absorbed := table.absorb ⟨"file", .int 3, true⟩ entries
    (∀ entry ∈ entries, ∃ height, entry.Plain height) ∧ table.frozen = false ∧
      (∃ report, absorbed.answer = .ok report ∧ report.ok = false ∧ report.belowFloor = 1 ∧
        report.malformed = 1 ∧ report.added = 1 ∧ report.conflicts = 1) ∧
      absorbed.table.hash? 9 = none := by
  intro table entries absorbed
  have plain : ∀ entry ∈ entries, ∃ height, entry.Plain height := by
    intro entry member
    simp only [entries, List.mem_cons, List.not_mem_nil, or_false] at member
    rcases member with rfl | rfl | rfl | rfl | rfl <;> exact ⟨_, rfl, Numeral.tooLong_of_word (by decide)⟩
  have stops : table.stop? true 3 entries = some 3 := by decide +kernel
  have looked : table.consumed true 3 entries = entries.take 4 := by
    rw [consumed, stops]
    rfl
  obtain ⟨report, answered, total, belowFloor, malformed, ended, conflicts, _, _, points⟩ :=
    absorb_accounts_for_entries "file" true 3 plain (rfl : table.frozen = false)
  rw [looked] at total belowFloor malformed points
  rw [stops] at ended
  have notFine : report.ok = false := ended.mpr rfl
  have low : report.belowFloor = 1 := belowFloor.trans (by decide +kernel)
  have faulty : report.malformed = 1 := malformed.trans (by decide +kernel)
  have clashing : report.conflicts = 1 := conflicts notFine
  have four : (entries.take 4).length = 4 := rfl
  refine ⟨plain, rfl, ⟨report, answered, notFine, low, faulty, by omega, clashing⟩, ?_⟩
  rw [points]
  decide +kernel

end Table

end ReorgGuard.Checkpoint
