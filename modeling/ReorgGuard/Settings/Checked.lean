import ReorgGuard.Breakdown
import ReorgGuard.Value.Lenient

/-!
Checks that collect every fault.

A check of several fields gives either all values or the faults of all fields, each with the
place of the value at fault.  A fault that cannot be put into words breaks the check off instead,
whatever else is at fault.
-/

namespace ReorgGuard.Settings

/-- A fault: the way to the value at fault, and how it fails to fit. -/
structure Fault where
  place : List String
  mismatch : Mismatch

def Fault.placeText (fault : Fault) : String :=
  ".".intercalate fault.place

inductive Checked (α : Type) where
  | passed (value : α)
  | failed (faults : List Fault)
  | broken (breakdown : Breakdown)

namespace Checked

/-- Applies a checked function to a checked value; the faults of both are kept. -/
def also (f : Checked (α → β)) (x : Checked α) : Checked β :=
  match f, x with
  | broken breakdown, _ => broken breakdown
  | _, broken breakdown => broken breakdown
  | passed f, passed x => passed (f x)
  | passed _, failed faults => failed faults
  | failed faults, passed _ => failed faults
  | failed faults, failed others => failed (faults ++ others)

instance : Applicative Checked where
  pure := passed
  seq f x := also f (x ())

def under (name : String) : Checked α → Checked α
  | passed value => passed value
  | failed faults => failed (faults.map fun fault => { fault with place := name :: fault.place })
  | broken breakdown => broken breakdown

def fault (mismatch : Mismatch) : Checked α :=
  failed [⟨[], mismatch⟩]

def single : Except Mismatch α → Checked α
  | .ok value => passed value
  | .error mismatch => fault mismatch

def orElse (mismatch : Mismatch) : Option α → Checked α
  | some value => passed value
  | none => fault mismatch

def all (check : Nat → α → Checked β) (start : Nat) : List α → Checked (List β)
  | [] => passed []
  | item :: rest => List.cons <$> check start item <*> all check (start + 1) rest

/-- Checks the field of a mapping; a missing field has a usual value. -/
def field (entries : List (Value × Value)) (name : String) (usual : α) (check : Value → Checked α) : Checked α :=
  match Value.field? entries name with
  | none => passed usual
  | some value => under name (check value)

end Checked

structure Invalid where
  model : String
  faults : List Fault

def Invalid.message (invalid : Invalid) : String :=
  let count := invalid.faults.length
  let errors := if count = 1 then "error" else "errors"
  s!"{count} validation {errors} for {invalid.model}"

def Invalid.details (invalid : Invalid) : List (String × String) :=
  (invalid.faults.map fun fault => (fault.placeText, fault.mismatch.name)).mergeSort
    fun a b => a.1 < b.1 || (a.1 == b.1 && a.2 ≤ b.2)

inductive Misfit where
  | invalid (invalid : Invalid)
  | broken (breakdown : Breakdown)

def Checked.answer (model : String) : Checked α → Except Misfit α
  | passed value => .ok value
  | failed faults => .error (.invalid ⟨model, faults⟩)
  | broken breakdown => .error (.broken breakdown)

end ReorgGuard.Settings
