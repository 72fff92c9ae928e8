import ReorgGuard.Checkpoint.Table

/-!
Comparison of two tables.

Two tables agree when every height that both pin carries the same hash.  The list of conflicts
also compares the difficulties where both tables know one; it ascends by height, and at one
height the difficulty comes before the hash.  Neither table is changed.
-/

namespace ReorgGuard.Checkpoint

inductive Conflict where
  | hash (height : Nat) (ours theirs : Hash)
  | difficulty (height ours theirs : Nat)

namespace Conflict

def height : Conflict → Nat
  | hash height _ _ => height
  | difficulty height _ _ => height

def kind : Conflict → String
  | hash .. => "hash"
  | difficulty .. => "difficulty"

def rank : Conflict → Nat
  | difficulty .. => 0
  | hash .. => 1

def ours : Conflict → String
  | hash _ ours _ => ours.text
  | difficulty _ ours _ => Numeral.hexText ours

def theirs : Conflict → String
  | hash _ _ theirs => theirs.text
  | difficulty _ _ theirs => Numeral.hexText theirs

def before (a b : Conflict) : Bool :=
  a.height < b.height || (a.height == b.height && a.rank ≤ b.rank)

end Conflict

namespace Table

def conflictOrigin : String := "pinchain.checkpoints.conflicts"

/-- The first conflict of hashes in the order in which the other table was filled. -/
def firstHashConflict? (table other : Table) : Option Conflict :=
  other.points.findSome? fun (height, theirs) =>
    match table.hash? height with
    | some ours => if ours = theirs then none else some (.hash height ours theirs)
    | none => none

def agrees (table other : Table) : Bool :=
  (table.firstHashConflict? other).isNone

def disagreement (table other : Table) : List Journal.Record :=
  match table.firstHashConflict? other with
  | none => []
  | some c =>
      [⟨.error, conflictOrigin,
        s!"checkpoint conflict at height {c.height}: have {c.ours}, other has {c.theirs}"⟩]

def hashConflicts (table other : Table) : List Conflict :=
  other.entries.filterMap fun (height, theirs) =>
    match table.hash? height with
    | some ours => if ours = theirs then none else some (.hash height ours theirs)
    | none => none

def difficultyConflicts (table other : Table) : List Conflict :=
  other.difficultyEntries.filterMap fun (height, theirs) =>
    match table.difficulty? height with
    | some ours => if ours = theirs then none else some (.difficulty height ours theirs)
    | none => none

def conflicts (table other : Table) : List Conflict :=
  (table.hashConflicts other ++ table.difficultyConflicts other).mergeSort Conflict.before

end Table

end ReorgGuard.Checkpoint
