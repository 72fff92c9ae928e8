import ReorgGuard.Checkpoint.Difficulty
import ReorgGuard.Checkpoint.Hash
import ReorgGuard.Checkpoint.Height
import ReorgGuard.Journal.Record

/-!
The table of checkpoints.

A table pins heights to hashes and, where one is known, to a cumulative difficulty.  Pins are
only ever added: a second, different value at a pinned height is refused and the table stays
as it was.  A frozen table takes nothing more.
-/

namespace ReorgGuard.Checkpoint

/-- Pinned hashes and difficulties in the order in which they were added, and the pinned heights in
ascending order. -/
structure Table where
  points : List (Nat × Hash)
  difficulties : List (Nat × Nat)
  heights : List Nat
  frozen : Bool

def insertHeight (height : Nat) : List Nat → List Nat
  | [] => [height]
  | first :: rest => if height < first then height :: first :: rest else first :: insertHeight height rest

structure Pin where
  height : Nat
  hash : Hash
  difficulty : Option Nat

inductive Refusal where
  /-- A value cannot be read; the height is given as far as it is known. -/
  | unread (height : String) (fault : Fault)
  | hashClash (height : Nat) (pinned offered : Hash)
  | difficultyClash (height : Nat) (pinned offered : Nat)

inductive OfferError where
  | closed
  | limit (limit : BeyondLimit)

def OfferError.message : OfferError → String
  | closed => "checkpoint table is frozen"
  | limit l => l.message

inductive Offer where
  | accepted (table : Table)
  | refused (why : Refusal)
  | failed (error : OfferError)

namespace Table

def empty : Table := ⟨[], [], [], false⟩

def size (table : Table) : Nat :=
  table.points.length

def hash? (table : Table) (height : Nat) : Option Hash :=
  table.points.lookup height

def difficulty? (table : Table) (height : Nat) : Option Nat :=
  table.difficulties.lookup height

def freeze (table : Table) : Table :=
  { table with frozen := true }

/-- The greatest pinned height, zero for the empty table. -/
def maxHeight (table : Table) : Nat :=
  table.heights.getLast?.getD 0

def floor? (table : Table) (height : Int) : Option Nat :=
  (table.heights.takeWhile fun (h : Nat) => (h : Int) ≤ height).getLast?

def entries (table : Table) : List (Nat × Hash) :=
  table.heights.filterMap fun height => (table.hash? height).map fun hash => (height, hash)

def difficultyEntries (table : Table) : List (Nat × Nat) :=
  table.difficulties.mergeSort fun a b => a.1 ≤ b.1

def summary (table : Table) : String :=
  let frozen := if table.frozen then "True" else "False"
  s!"CheckpointTable(points={table.size}, max_height={table.maxHeight}, frozen={frozen})"

def pin (table : Table) (height : Nat) (hash : Hash) : Table :=
  { table with
    points := table.points ++ [(height, hash)]
    heights := insertHeight height table.heights }

def acceptDifficulty (table : Table) (height : Nat) : Option Nat → Except Refusal Table
  | none => .ok table
  | some offered =>
      match table.difficulty? height with
      | none => .ok { table with difficulties := table.difficulties ++ [(height, offered)] }
      | some known =>
          if known = offered then .ok table
          else .error (.difficultyClash height known offered)

/-- Adds a checkpoint.  Nothing is written unless both hash and difficulty agree with what is pinned. -/
def accept (table : Table) (offered : Pin) : Except Refusal Table :=
  match table.hash? offered.height with
  | some pinned =>
      if pinned = offered.hash then table.acceptDifficulty offered.height offered.difficulty
      else .error (.hashClash offered.height pinned offered.hash)
  | none =>
      (table.acceptDifficulty offered.height offered.difficulty).map fun next =>
        next.pin offered.height offered.hash

def add (table : Table) (height hash difficulty : Value) : Offer :=
  if table.frozen then .failed .closed
  else
    match Height.ofValue height with
    | .error (.limit l) => .failed (.limit l)
    | .error (.fault f) => .refused (.unread (height.display?.getD "") f)
    | .ok h =>
        match Hash.ofValue hash with
        | .error f => .refused (.unread (Numeral.natText h) f)
        | .ok x =>
            match Difficulty.ofValue difficulty with
            | .error (.limit l) => .failed (.limit l)
            | .error (.fault f) => .refused (.unread (Numeral.natText h) f)
            | .ok d =>
                match table.accept ⟨h, x, d⟩ with
                | .ok next => .accepted next
                | .error why => .refused why

def origin : String := "pinchain.checkpoints.table"

end Table

def Refusal.record (why : Refusal) : Journal.Record :=
  ⟨.error, Table.origin,
    match why with
    | unread height fault => s!"rejected checkpoint at height {height}: {fault.message}"
    | hashClash height pinned offered =>
        s!"checkpoint conflict at height {height}: have {pinned.text}, refused {offered.text}"
    | difficultyClash height pinned offered =>
        let known := Numeral.hexText pinned
        let refused := Numeral.hexText offered
        s!"difficulty conflict at height {height}: have {known}, refused {refused}"⟩

namespace Offer

def table (before : Table) : Offer → Table
  | accepted next => next
  | _ => before

def records : Offer → List Journal.Record
  | refused why => [why.record]
  | _ => []

def answer : Offer → Except OfferError Bool
  | accepted _ => .ok true
  | refused _ => .ok false
  | failed e => .error e

end Offer

end ReorgGuard.Checkpoint
