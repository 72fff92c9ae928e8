import ReorgGuard.Checkpoint.Source
import ReorgGuard.Proofs.Table.Growth

/-!
What taking in a source does, entry by entry.

The entries looked at here are plain: their heights are integers that can be written in decimal,
as those of a hashfile and of a feed are.  Each of them is ignored, malformed, taken or in
conflict, and the four step laws say what follows for the table and the report.  From them come
the two results on whole sources: a lenient source adds, for each height, the first of its points
that the table has room for; a strict one is fine exactly when none of its points contradicts
the table or an earlier point, and then adds them all.

The records written meanwhile are left aside there.  Last, sources whose entries read alike lead to the same,
records included.
-/

namespace ReorgGuard.Checkpoint

def Entry.point? (entry : Entry) : Option (Nat × Hash) :=
  match Height.ofValue entry.height, Hash.ofValue entry.hash with
  | .ok height, .ok hash => some (height, hash)
  | _, _ => none

/-- The height of the entry is an integer that can be written in decimal. -/
structure Entry.Plain (entry : Entry) (height : Int) : Prop where
  isInt : entry.height = .int height
  writable : Numeral.tooLong height = false

/-- The entries give the same height, and their hashes read the same. -/
structure Entry.Alike (entry other : Entry) : Prop where
  height : entry.height = other.height
  hash : Hash.ofValue entry.hash = Hash.ofValue other.hash

def pointsAbove (floor : Int) (entries : List Entry) : List (Nat × Hash) :=
  (entries.filterMap Entry.point?).filter fun point => floor < (point.1 : Int)

def Pin.ofPoint (point : Nat × Hash) : Pin :=
  ⟨point.1, point.2, none⟩

def Absorbed.outcome (absorbed : Absorbed) : Table × Except IntakeError Report :=
  (absorbed.table, absorbed.answer)

theorem Absorbed.outcome_behind (records : List Journal.Record) (absorbed : Absorbed) :
    (absorbed.behind records).outcome = absorbed.outcome := rfl

theorem Value.atMost?_int (m n : Int) : Value.atMost? (.int m) (.int n) = some (decide (m ≤ n)) := by
  simp [Value.atMost?, Value.magnitude?, Value.Magnitude.atMost]

namespace Entry

theorem point?_eq_some_iff {entry : Entry} {point : Nat × Hash} :
    entry.point? = some point ↔
      Height.ofValue entry.height = .ok point.1 ∧ Hash.ofValue entry.hash = .ok point.2 := by
  rcases point with ⟨height, hash⟩
  unfold point?
  cases Height.ofValue entry.height with
  | error why => simp
  | ok h =>
      cases Hash.ofValue entry.hash with
      | error fault => simp
      | ok x => simp

theorem height_of_point? (entry : Entry) {point : Nat × Hash} (read : entry.point? = some point) :
    point.1 ≤ maxHeight :=
  Height.ofValue_le (point?_eq_some_iff.mp read).1

theorem readFrom_of_point? {entry : Entry} {point : Nat × Hash} (read : entry.point? = some point) :
    (Pin.ofPoint point).ReadFrom entry.height entry.hash .null := by
  obtain ⟨readHeight, readHash⟩ := point?_eq_some_iff.mp read
  exact ⟨readHeight, readHash, rfl⟩

theorem fault?_eq_none_iff {entry : Entry} :
    entry.fault? = .ok none ↔ ∃ point, entry.point? = some point := by
  simp only [point?_eq_some_iff]
  unfold fault?
  cases Height.ofValue entry.height with
  | error why => cases why <;> simp
  | ok height =>
      cases Hash.ofValue entry.hash with
      | error fault => simp
      | ok hash => simp

variable {entry : Entry} {height : Int}

theorem Plain.fault?_of_no_point (plain : entry.Plain height) (unread : entry.point? = none) :
    ∃ fault, entry.fault? = .ok (some fault) := by
  unfold fault?
  cases readHeight : Height.ofValue entry.height with
  | error why =>
      cases why with
      | fault f => exact ⟨f, rfl⟩
      | limit l =>
          rw [plain.isInt] at readHeight
          change Height.ofInt height = .error (.limit l) at readHeight
          unfold Height.ofInt at readHeight
          rw [plain.writable] at readHeight
          split at readHeight <;> cases readHeight
  | ok h =>
      cases readHash : Hash.ofValue entry.hash with
      | error f => exact ⟨f, rfl⟩
      | ok x => simp [point?, readHeight, readHash] at unread

end Entry

theorem Height.low_eq_of_ofValue {value : Value} {height : Nat} {floor : Int} {low : Bool}
    (read : Height.ofValue value = .ok height) (compared : value.atMost? (.int floor) = some low) :
    low = decide ((height : Int) ≤ floor) := by
  cases value with
  | int n =>
      rw [Value.atMost?_int] at compared
      cases compared
      rw [(Height.ofInt_le read).2]
  | text s => simp [Value.atMost?] at compared
  | _ => cases read

theorem pointsAbove_cons_unread {floor : Int} {entry : Entry} (unread : entry.point? = none)
    (rest : List Entry) : pointsAbove floor (entry :: rest) = pointsAbove floor rest := by
  unfold pointsAbove
  rw [List.filterMap_cons_none unread]

section Compared

variable {floor : Int} {entry : Entry}

theorem pointsAbove_cons_low (compared : entry.height.atMost? (.int floor) = some true) (rest : List Entry) :
    pointsAbove floor (entry :: rest) = pointsAbove floor rest := by
  cases read : entry.point? with
  | none => exact pointsAbove_cons_unread read rest
  | some point =>
      have low := Height.low_eq_of_ofValue (Entry.point?_eq_some_iff.mp read).1 compared
      have within := of_decide_eq_true low.symm
      unfold pointsAbove
      rw [List.filterMap_cons_some read, List.filter_cons_of_neg]
      rw [decide_eq_true_eq]
      omega

theorem pointsAbove_cons_high (compared : entry.height.atMost? (.int floor) = some false) {point : Nat × Hash}
    (read : entry.point? = some point) (rest : List Entry) :
    pointsAbove floor (entry :: rest) = point :: pointsAbove floor rest := by
  have high := Height.low_eq_of_ofValue (Entry.point?_eq_some_iff.mp read).1 compared
  have beyond := of_decide_eq_false high.symm
  unfold pointsAbove
  rw [List.filterMap_cons_some read, List.filter_cons_of_pos]
  rw [decide_eq_true_eq]
  omega

variable {height : Int} (plain : entry.Plain height)

include plain

theorem Entry.Plain.low_of_below (below : height ≤ floor) : entry.height.atMost? (.int floor) = some true := by
  rw [plain.isInt, Value.atMost?_int, decide_eq_true below]

theorem Entry.Plain.high_of_above (above : floor < height) : entry.height.atMost? (.int floor) = some false := by
  rw [plain.isInt, Value.atMost?_int, decide_eq_false (by omega)]

theorem pointsAbove_cons_below (below : height ≤ floor) (rest : List Entry) :
    pointsAbove floor (entry :: rest) = pointsAbove floor rest :=
  pointsAbove_cons_low (plain.low_of_below below) rest

theorem pointsAbove_cons_above (above : floor < height) {point : Nat × Hash} (read : entry.point? = some point)
    (rest : List Entry) : pointsAbove floor (entry :: rest) = point :: pointsAbove floor rest :=
  pointsAbove_cons_high (plain.high_of_above above) read rest

end Compared

theorem pointsAbove_all (entries : List Entry) : pointsAbove (-1) entries = entries.filterMap Entry.point? := by
  refine List.filter_eq_self.mpr fun point _ => ?_
  rw [decide_eq_true_eq]
  omega

namespace Table

/-! ### One entry -/

section Points

variable {table : Table} {point : Nat × Hash}

theorem accept_ofPoint_of_fits (fits : ∀ pinned, table.hash? point.1 = some pinned → pinned = point.2) :
    table.accept (.ofPoint point) = .ok (table.write (.ofPoint point)) := by
  rw [accept_eq_ok_iff]
  exact ⟨⟨fits, fun _ _ _ impossible => by cases impossible⟩, rfl⟩

theorem accept_ofPoint_of_clash {pinned : Hash} (found : table.hash? point.1 = some pinned)
    (different : pinned ≠ point.2) :
    table.accept (.ofPoint point) = .error (.hashClash point.1 pinned point.2) := by
  have atHeight : table.hash? (Pin.ofPoint point).height = some pinned := found
  have clash : ¬pinned = (Pin.ofPoint point).hash := different
  simp only [accept, atHeight, if_neg clash]
  rfl

theorem fits_or_clashes (table : Table) (point : Nat × Hash) :
    (∀ pinned, table.hash? point.1 = some pinned → pinned = point.2) ∨
      ∃ pinned, table.hash? point.1 = some pinned ∧ pinned ≠ point.2 := by
  by_cases fits : ∀ pinned, table.hash? point.1 = some pinned → pinned = point.2
  · exact Or.inl fits
  · obtain ⟨pinned, clash⟩ := not_forall.mp fits
    exact Or.inr ⟨pinned, Classical.not_imp.mp clash⟩

end Points

section Equations

variable {intake : Intake} {table : Table} {report : Report} {entry : Entry} {rest : List Entry}
  {point : Nat × Hash}

theorem absorbFrom_of_low (compared : entry.height.atMost? intake.floor = some true) :
    table.absorbFrom intake report (entry :: rest) =
      (table.absorbFrom intake { report with belowFloor := report.belowFloor + 1 } rest).behind
        (intake.ignored intakeOrigin entry) := by
  simp only [absorbFrom, compared]

variable (compared : entry.height.atMost? intake.floor = some false)

include compared

theorem absorbFrom_of_fault {fault : Fault} (faulty : entry.fault? = .ok (some fault)) :
    table.absorbFrom intake report (entry :: rest) =
      (table.absorbFrom intake { report with malformed := report.malformed + 1 } rest).behind
        (intake.about intakeOrigin .warning entry "skipping malformed" s!": {fault.message}") := by
  simp only [absorbFrom, compared, faulty]

variable (read : entry.point? = some point)

include read

theorem absorbFrom_of_frozen (frozen : table.frozen = true) :
    table.absorbFrom intake report (entry :: rest) = ⟨table, [], .error (.offer .closed)⟩ := by
  have refused : table.add entry.height entry.hash .null = .failed .closed := if_pos frozen
  simp only [absorbFrom, compared, Entry.fault?_eq_none_iff.mpr ⟨point, read⟩, refused]

variable (opened : table.frozen = false)

include opened

theorem absorbFrom_of_fits (fits : ∀ pinned, table.hash? point.1 = some pinned → pinned = point.2) :
    table.absorbFrom intake report (entry :: rest) =
      (table.write (.ofPoint point)).absorbFrom intake { report with added := report.added + 1 } rest := by
  have accepted : table.add entry.height entry.hash .null = .accepted (table.write (.ofPoint point)) := by
    rw [add_of_read opened (Entry.readFrom_of_point? read), accept_ofPoint_of_fits fits]
  simp only [absorbFrom, compared, Entry.fault?_eq_none_iff.mpr ⟨point, read⟩, accepted]

theorem absorbFrom_of_clash {pinned : Hash} (found : table.hash? point.1 = some pinned)
    (different : pinned ≠ point.2) :
    table.absorbFrom intake report (entry :: rest) =
      let record := (Refusal.hashClash point.1 pinned point.2).record
      let counted := { report with conflicts := report.conflicts + 1 }
      if intake.strict then
        ⟨table, record :: intake.about intakeOrigin .error entry "conflicting" ", aborting source",
          .ok { counted with ok := false }⟩
      else
        (table.absorbFrom intake counted rest).behind
          (record :: intake.about intakeOrigin .warning entry "dropping conflicting" "") := by
  have refused : table.add entry.height entry.hash .null =
      .refused (.hashClash point.1 pinned point.2) := by
    rw [add_of_read opened (Entry.readFrom_of_point? read), accept_ofPoint_of_clash found different]
  simp only [absorbFrom, compared, Entry.fault?_eq_none_iff.mpr ⟨point, read⟩, refused]

end Equations

section Steps

variable {source : String} {strict : Bool} {floor height : Int} {table : Table} {report : Report}
  {entry : Entry} {rest : List Entry}

theorem absorbFrom_below (plain : entry.Plain height) (below : height ≤ floor) :
    (table.absorbFrom ⟨source, .int floor, strict⟩ report (entry :: rest)).outcome =
      (table.absorbFrom ⟨source, .int floor, strict⟩
        { report with belowFloor := report.belowFloor + 1 } rest).outcome := by
  rw [absorbFrom_of_low (plain.low_of_below below), Absorbed.outcome_behind]

theorem absorbFrom_unread (plain : entry.Plain height) (above : floor < height)
    (unread : entry.point? = none) :
    (table.absorbFrom ⟨source, .int floor, strict⟩ report (entry :: rest)).outcome =
      (table.absorbFrom ⟨source, .int floor, strict⟩
        { report with malformed := report.malformed + 1 } rest).outcome := by
  rcases plain.fault?_of_no_point unread with ⟨fault, faulty⟩
  rw [absorbFrom_of_fault (plain.high_of_above above) faulty, Absorbed.outcome_behind]

theorem absorbFrom_taken (plain : entry.Plain height) (above : floor < height)
    (opened : table.frozen = false) {point : Nat × Hash} (read : entry.point? = some point)
    (fits : ∀ pinned, table.hash? point.1 = some pinned → pinned = point.2) :
    (table.absorbFrom ⟨source, .int floor, strict⟩ report (entry :: rest)).outcome =
      ((table.write (.ofPoint point)).absorbFrom ⟨source, .int floor, strict⟩
        { report with added := report.added + 1 } rest).outcome := by
  rw [absorbFrom_of_fits (plain.high_of_above above) read opened fits]

theorem absorbFrom_conflict (plain : entry.Plain height) (above : floor < height)
    (opened : table.frozen = false) {point : Nat × Hash} (read : entry.point? = some point)
    {pinned : Hash} (found : table.hash? point.1 = some pinned) (different : pinned ≠ point.2) :
    (table.absorbFrom ⟨source, .int floor, strict⟩ report (entry :: rest)).outcome =
      if strict then
        (table, .ok { report with conflicts := report.conflicts + 1, ok := false })
      else
        (table.absorbFrom ⟨source, .int floor, strict⟩
          { report with conflicts := report.conflicts + 1 } rest).outcome := by
  rw [absorbFrom_of_clash (plain.high_of_above above) read opened found different]
  cases strict <;> rfl

end Steps

theorem write_ofPoint_of_pinned {table : Table} {point : Nat × Hash} {pinned : Hash}
    (found : table.hash? point.1 = some pinned) : table.write (.ofPoint point) = table :=
  write_of_pinned found

/-- Every point stands in the table once all of them are written. -/
def Agrees (table : Table) (points : List (Nat × Hash)) : Prop :=
  ∀ point ∈ points, (table.hash? point.1).or (points.lookup point.1) = some point.2

theorem hash?_or_lookup_cons (table : Table) (point : Nat × Hash) (points : List (Nat × Hash)) (height : Nat) :
    (table.hash? height).or ((point :: points).lookup height) =
      ((table.write (.ofPoint point)).hash? height).or (points.lookup height) := by
  rw [hash?_write, Option.or_assoc, List.lookup_cons]
  by_cases same : height = point.1
  · simp [same, Pin.ofPoint]
  · have elsewhere : ¬height = (Pin.ofPoint point).height := same
    rw [beq_false_of_ne same, if_neg elsewhere, Option.none_or]

theorem agrees_cons_iff {table : Table} {point : Nat × Hash} {points : List (Nat × Hash)}
    (fits : ∀ pinned, table.hash? point.1 = some pinned → pinned = point.2) :
    table.Agrees (point :: points) ↔ (table.write (.ofPoint point)).Agrees points := by
  have atHead : (table.hash? point.1).or ((point :: points).lookup point.1) = some point.2 := by
    rw [List.lookup_cons, beq_self_eq_true]
    cases found : table.hash? point.1 with
    | none => rfl
    | some pinned => rw [fits pinned found, Option.some_or]
  unfold Agrees
  rw [List.forall_mem_cons]
  simp only [atHead, true_and, hash?_or_lookup_cons]

theorem not_agrees_cons {table : Table} {point : Nat × Hash} {pinned : Hash}
    (found : table.hash? point.1 = some pinned) (different : pinned ≠ point.2) (points : List (Nat × Hash)) :
    ¬table.Agrees (point :: points) := by
  intro agreed
  have atHead := agreed point List.mem_cons_self
  rw [found, Option.some_or] at atHead
  exact different (Option.some.inj atHead)

/-- A lenient source of plain entries is always fine, and of its points for one height the first stands if
the height was free.  A conflict is counted exactly when its points do not agree with the table and with one
another. -/
theorem absorbFrom_lenient (source : String) (floor : Int) {table : Table} (report : Report)
    {entries : List Entry} (plain : ∀ entry ∈ entries, ∃ height, entry.Plain height)
    (opened : table.frozen = false) :
    ∃ final : Report, final.ok = report.ok ∧ report.conflicts ≤ final.conflicts ∧
      (final.conflicts = report.conflicts ↔ table.Agrees (pointsAbove floor entries)) ∧
      (table.absorbFrom ⟨source, .int floor, false⟩ report entries).outcome =
        (table.writeAll ((pointsAbove floor entries).map .ofPoint), .ok final) := by
  induction entries generalizing table report with
  | nil =>
      have agreed : table.Agrees [] := List.forall_mem_nil _
      exact ⟨report, rfl, Nat.le_refl _, iff_of_true rfl agreed, rfl⟩
  | cons entry rest ih =>
      rcases plain entry List.mem_cons_self with ⟨height, isPlain⟩
      have plainRest : ∀ other ∈ rest, ∃ height, other.Plain height :=
        fun other member => plain other (List.mem_cons_of_mem entry member)
      by_cases below : height ≤ floor
      · rw [absorbFrom_below isPlain below, pointsAbove_cons_below isPlain below]
        exact ih { report with belowFloor := report.belowFloor + 1 } plainRest opened
      · have above : floor < height := by omega
        cases read : entry.point? with
        | none =>
            rw [absorbFrom_unread isPlain above read, pointsAbove_cons_unread read]
            exact ih { report with malformed := report.malformed + 1 } plainRest opened
        | some point =>
            rw [pointsAbove_cons_above isPlain above read]
            rcases table.fits_or_clashes point with fits | ⟨pinned, found, different⟩
            · rw [absorbFrom_taken isPlain above opened read fits, agrees_cons_iff fits]
              exact ih { report with added := report.added + 1 } plainRest opened
            · rw [absorbFrom_conflict isPlain above opened read found different, List.map_cons]
              change ∃ final : Report, _ ∧ _ ∧ _ ∧ _ = ((table.write (.ofPoint point)).writeAll _, _)
              rw [write_ofPoint_of_pinned found]
              obtain ⟨final, isFine, counted, _, absorbed⟩ :=
                ih { report with conflicts := report.conflicts + 1 } plainRest opened
              refine ⟨final, isFine, ?_, iff_of_false ?_ (not_agrees_cons found different _), absorbed⟩
              · exact (Nat.le_succ _).trans counted
              · exact Nat.ne_of_gt counted

/-- A strict source of plain entries is fine exactly when its points agree with the table and with one
another, and then all of them are written. -/
theorem absorbFrom_strict (source : String) (floor : Int) {table : Table} (report : Report)
    {entries : List Entry} (plain : ∀ entry ∈ entries, ∃ height, entry.Plain height)
    (opened : table.frozen = false) (fine : report.ok = true) :
    ∃ (final : Report) (after : Table),
      (table.absorbFrom ⟨source, .int floor, true⟩ report entries).outcome = (after, .ok final) ∧
      (final.ok = true ↔ table.Agrees (pointsAbove floor entries)) ∧
      (final.ok = true → after = table.writeAll ((pointsAbove floor entries).map .ofPoint)) := by
  -- The table varies: a point that was taken is what later points of its height are compared with.
  induction entries generalizing table report with
  | nil => exact ⟨report, table, rfl, iff_of_true fine (fun _ impossible => by cases impossible), fun _ => rfl⟩
  | cons entry rest ih =>
      rcases plain entry List.mem_cons_self with ⟨height, isPlain⟩
      have plainRest : ∀ other ∈ rest, ∃ height, other.Plain height :=
        fun other member => plain other (List.mem_cons_of_mem entry member)
      by_cases below : height ≤ floor
      · rw [absorbFrom_below isPlain below, pointsAbove_cons_below isPlain below]
        exact ih { report with belowFloor := report.belowFloor + 1 } plainRest opened fine
      · have above : floor < height := by omega
        cases read : entry.point? with
        | none =>
            rw [absorbFrom_unread isPlain above read, pointsAbove_cons_unread read]
            exact ih { report with malformed := report.malformed + 1 } plainRest opened fine
        | some point =>
            rw [pointsAbove_cons_above isPlain above read]
            rcases table.fits_or_clashes point with fits | ⟨pinned, found, different⟩
            · rw [absorbFrom_taken isPlain above opened read fits, agrees_cons_iff fits]
              exact ih { report with added := report.added + 1 } plainRest opened fine
            · rw [absorbFrom_conflict isPlain above opened read found different]
              have disagreed := not_agrees_cons found different (pointsAbove floor rest)
              exact ⟨_, table, rfl, iff_of_false Bool.false_ne_true disagreed, fun wrong => by cases wrong⟩

/-! ### Entries that read alike -/

theorem add_congr {table : Table} {hash other : Value} (alike : Hash.ofValue hash = Hash.ofValue other)
    (height difficulty : Value) : table.add height hash difficulty = table.add height other difficulty := by
  simp only [add, alike]

/-- A source may give each hash in another way, as long as it reads the same. -/
theorem absorbFrom_congr {intake : Intake} {entries others : List Entry}
    (alike : List.Forall₂ Entry.Alike entries others) (table : Table) (report : Report) :
    table.absorbFrom intake report entries = table.absorbFrom intake report others := by
  induction alike generalizing table report with
  | nil => rfl
  | @cons entry other rest others sameEntry _ ih =>
      rcases entry with ⟨height, hash⟩
      rcases other with ⟨_, otherHash⟩
      obtain ⟨sameHeight, sameHash⟩ := sameEntry
      dsimp only at sameHeight sameHash
      subst sameHeight
      -- All that is said about an entry names its height only.
      have sameFault : Entry.fault? ⟨height, hash⟩ = Entry.fault? ⟨height, otherHash⟩ := by
        simp only [Entry.fault?, sameHash]
      simp only [absorbFrom, sameFault, add_congr sameHash, ih, Intake.ignored, Intake.about]

end Table

end ReorgGuard.Checkpoint
