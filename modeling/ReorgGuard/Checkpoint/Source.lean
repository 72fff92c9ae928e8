import ReorgGuard.Checkpoint.Table
import ReorgGuard.Value.Order

/-!
Sources of checkpoints and how a table takes them in.

A source is a list of entries.  Entries whose heights do not exceed a floor are ignored, malformed
ones are skipped, and the others are offered to the table one by one.  A strict source ends at the first
conflict; a lenient one drops the conflicting entry and goes on.  What was taken in before the
end stays in the table.  Every entry that was looked at is counted once in the report.
-/

namespace ReorgGuard.Checkpoint

structure Entry where
  height : Value
  hash : Value

structure Intake where
  source : String
  /-- Heights up to this value are ignored. -/
  floor : Value
  strict : Bool

structure Report where
  source : String
  added : Nat
  belowFloor : Nat
  malformed : Nat
  conflicts : Nat
  ok : Bool

def Report.start (source : String) : Report :=
  ⟨source, 0, 0, 0, 0, true⟩

def Report.counters (r : Report) : String :=
  s!"added={r.added} below_floor={r.belowFloor} malformed={r.malformed} conflicts={r.conflicts}"

inductive IntakeError where
  /-- The height of an entry cannot be compared with the floor. -/
  | noHeight
  | offer (error : OfferError)

/-- What taking in a source led to: the table afterwards, the records written and the report. -/
structure Absorbed where
  table : Table
  records : List Journal.Record
  answer : Except IntakeError Report

def Absorbed.behind (records : List Journal.Record) (a : Absorbed) : Absorbed :=
  { a with records := records ++ a.records }

def Entry.fault? (entry : Entry) : Except BeyondLimit (Option Fault) :=
  match Height.ofValue entry.height with
  | .error (.limit l) => .error l
  | .error (.fault f) => .ok (some f)
  | .ok _ =>
      match Hash.ofValue entry.hash with
      | .error f => .ok (some f)
      | .ok _ => .ok none

/-- A number in messages, without a fraction; a value of another kind has no place in them. -/
def countText? (value : Value) : Option String :=
  (Height.toward? value).bind fun n => if Numeral.tooLong n then none else some (Numeral.intText n)

def Intake.ignored (intake : Intake) (origin : String) (entry : Entry) : List Journal.Record :=
  match countText? entry.height, countText? intake.floor with
  | some height, some floor =>
      [⟨.debug, origin, s!"{intake.source}: ignoring checkpoint height {height} (floor {floor})"⟩]
  | _, _ => []

def Intake.about (intake : Intake) (origin : String) (level : Journal.Level) (entry : Entry)
    (front behind : String) : List Journal.Record :=
  match countText? entry.height with
  | some height => [⟨level, origin, s!"{intake.source}: {front} checkpoint at height {height}{behind}"⟩]
  | none => []

namespace Table

def intakeOrigin : String := "pinchain.checkpoints.loader"

/-- Takes in the entries that are left, with the report on those before. -/
def absorbFrom (intake : Intake) (table : Table) (report : Report) : List Entry → Absorbed
  | [] =>
      ⟨table, [⟨.info, intakeOrigin, s!"{intake.source}: {report.counters}"⟩], .ok report⟩
  | entry :: rest =>
      match entry.height.atMost? intake.floor with
      | none => ⟨table, [], .error .noHeight⟩
      | some true =>
          (absorbFrom intake table { report with belowFloor := report.belowFloor + 1 } rest).behind
            (intake.ignored intakeOrigin entry)
      | some false =>
          match entry.fault? with
          | .error l => ⟨table, [], .error (.offer (.limit l))⟩
          | .ok (some f) =>
              (absorbFrom intake table { report with malformed := report.malformed + 1 } rest).behind
                (intake.about intakeOrigin .warning entry "skipping malformed" s!": {f.message}")
          | .ok none =>
              match table.add entry.height entry.hash .null with
              | .failed e => ⟨table, [], .error (.offer e)⟩
              | .accepted next => absorbFrom intake next { report with added := report.added + 1 } rest
              | .refused why =>
                  let counted := { report with conflicts := report.conflicts + 1 }
                  if intake.strict then
                    ⟨table,
                      why.record :: intake.about intakeOrigin .error entry "conflicting" ", aborting source",
                      .ok { counted with ok := false }⟩
                  else
                    (absorbFrom intake table counted rest).behind
                      (why.record :: intake.about intakeOrigin .warning entry "dropping conflicting" "")

def absorb (intake : Intake) (table : Table) (entries : List Entry) : Absorbed :=
  table.absorbFrom intake (Report.start intake.source) entries

end Table

end ReorgGuard.Checkpoint
