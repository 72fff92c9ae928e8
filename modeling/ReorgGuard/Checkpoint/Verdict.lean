import ReorgGuard.Checkpoint.Table

/-!
Verdicts on blocks.

A block at a pinned height is accepted only with the pinned hash; at any other height every
block is accepted.  A fork may begin only above the nearest pinned height at or below the tip
of the chain.  Verdicts never change the table.

Heights may be asked about by any value.  What is not a number is pinned nowhere, and has no
place in the order of heights.
-/

namespace ReorgGuard.Checkpoint

structure BlockCheck where
  accepted : Bool
  isCheckpoint : Bool

structure Verdict where
  check : BlockCheck
  records : List Journal.Record

/-- The value cannot be used as a height in the question asked. -/
structure NoHeight where

namespace Table

def verdictOrigin : String := "pinchain.checkpoints.validator"

/-- The hash at a height that need not be a height of the table at all. -/
def pinned? (table : Table) (height : Int) : Option Hash :=
  if 0 ≤ height then table.hash? height.toNat else none

def check (table : Table) (height : Int) (hash : Value) : Verdict :=
  let shown := Numeral.intText height
  match table.pinned? height with
  | none => ⟨⟨true, false⟩, []⟩
  | some expected =>
      match Hash.ofValue hash with
      | .error fault =>
          ⟨⟨false, true⟩,
            [⟨.warning, verdictOrigin,
              s!"checkpoint failed at height {shown}: unreadable block hash: {fault.message}"⟩]⟩
      | .ok got =>
          if expected = got then
            ⟨⟨true, true⟩,
              [⟨.debug, verdictOrigin, s!"checkpoint passed at height {shown} {expected.text}"⟩]⟩
          else
            ⟨⟨false, true⟩,
              [⟨.warning, verdictOrigin,
                s!"checkpoint failed at height {shown}: expected {expected.text}, got {got.text}"⟩]⟩

def inZone (table : Table) (height : Int) : Bool :=
  0 < table.size && height ≤ table.maxHeight

/-- Whether an alternative block may exist at a height, given the tip of the chain.  The first block has
no alternative. -/
def mayFork (table : Table) (tip block : Int) : Bool :=
  if block = 0 then false
  else
    match table.floor? tip with
    | none => true
    | some nearest => nearest < block

def holds (table : Table) (height : Value) : Except NoHeight Bool :=
  if height.isKey then
    .ok ((height.whole?.bind table.pinned?).isSome)
  else .error ⟨⟩

def checkValue (table : Table) (height hash : Value) : Except NoHeight Verdict :=
  if height.isKey then
    match height.whole? with
    | some n => .ok (table.check n hash)
    | none => .ok ⟨⟨true, false⟩, []⟩
  else .error ⟨⟩

def floorValue? (table : Table) (height : Value) : Except NoHeight (Option Nat) :=
  if table.size = 0 then .ok none
  else
    match Height.floor? height with
    | some n => .ok (table.floor? n)
    | none => .error ⟨⟩

def inZoneValue (table : Table) (height : Value) : Except NoHeight Bool :=
  if table.size = 0 then .ok false
  else
    match Height.ceil? height with
    | some n => .ok (table.inZone n)
    | none => .error ⟨⟩

def mayForkValue (table : Table) (tip block : Value) : Except NoHeight Bool :=
  if block.whole? = some 0 then .ok false
  else
    match table.floorValue? tip with
    | .error e => .error e
    | .ok none => .ok true
    | .ok (some nearest) =>
        match Height.away? block with
        | some b => .ok (nearest < b)
        | none => .error ⟨⟩

end Table

end ReorgGuard.Checkpoint
