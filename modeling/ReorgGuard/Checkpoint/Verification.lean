import ReorgGuard.Checkpoint.Conflict
import ReorgGuard.Checkpoint.Hardcoded
import ReorgGuard.Checkpoint.Hashfile

/-!
A hashfile held against the hardcoded checkpoints.

The lines of the file fill a table of their own, in which the first value of a height stands.
The file is fine if no two of its lines give one height different hashes and no line gives a
hardcoded height another hash.  Malformed lines are counted and do no harm.
-/

namespace ReorgGuard.Checkpoint

structure Verification where
  hardcoded : Table
  candidate : Table
  report : Report
  lines : Nat

namespace Verification

def conflicts (v : Verification) : List Conflict :=
  v.hardcoded.conflicts v.candidate

/-- The pinned heights above all hardcoded ones. -/
def newHeights (v : Verification) : List Nat :=
  v.candidate.heights.filter (v.hardcoded.maxHeight < ·)

def ok (v : Verification) : Bool :=
  v.conflicts.isEmpty && v.report.conflicts == 0

end Verification

inductive VerificationError where
  | seed (error : SeedError)
  | intake (error : IntakeError)

structure Verified where
  records : List Journal.Record
  answer : Except VerificationError Verification

def verify (network : Network) (source : String) (lines : List HashLine) : Verified :=
  let seeded := Table.empty.seed network
  match seeded.answer with
  | .error e => ⟨seeded.records, .error (.seed e)⟩
  | .ok () =>
      let taken := Table.empty.absorb ⟨source, .int (-1), false⟩ (Hashfile.entries lines)
      let records := seeded.records ++ taken.records
      match taken.answer with
      | .error e => ⟨records, .error (.intake e)⟩
      | .ok report => ⟨records, .ok ⟨seeded.table, taken.table, report, lines.length⟩⟩

end ReorgGuard.Checkpoint
