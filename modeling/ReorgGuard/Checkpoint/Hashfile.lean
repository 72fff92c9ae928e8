import ReorgGuard.Breakdown
import ReorgGuard.Checkpoint.Source
import ReorgGuard.Files
import ReorgGuard.Json.Printer
import ReorgGuard.Json.Reader
import ReorgGuard.Value.Lenient

/-!
Hashfiles: checkpoints that an operator supplies.

A hashfile is a JSON object whose list of hash lines pairs heights with hashes.  Heights are
natural numbers of any size and may be written in any lenient way; hashes are text and are not
looked into when the file is read.  A file with any fault is refused as a whole, with the number
of its faults.  What is written can always be read back.
-/

namespace ReorgGuard.Checkpoint

structure HashLine where
  height : Nat
  hash : String
  deriving DecidableEq

inductive HashfileFault where
  /-- The file is there and cannot be read. -/
  | unreadable (path : String) (fault : FileFault)
  | invalid (path : String) (errors : Nat)

def HashfileFault.message : HashfileFault → String
  | unreadable path fault => s!"cannot read checkpoints file {path}: {fault.message}"
  | invalid path errors => s!"invalid checkpoints file {path}: {errors} error(s)"

inductive ReadError where
  /-- The file cannot be looked for. -/
  | search (fault : FileFault)
  | undecodable
  | source (fault : HashfileFault)

namespace Hashfile

def height? (line : List (Value × Value)) : Option Nat :=
  match (Value.field? line "height").map Value.asInt with
  | some (.ok n) => if 0 ≤ n then some n.toNat else none
  | _ => none

def hash? (line : List (Value × Value)) : Option String :=
  match Value.field? line "hash" with
  | some (.text s) => some s
  | _ => none

/-- Reads one line; a line that does not fit gives the number of its faults. -/
def line : Value → Except Nat HashLine
  | .dict entries =>
      match height? entries, hash? entries with
      | some height, some hash => .ok ⟨height, hash⟩
      | some _, none => .error 1
      | none, some _ => .error 1
      | none, none => .error 2
  | _ => .error 1

def lines : List Value → Except Nat (List HashLine)
  | [] => .ok []
  | item :: rest =>
      match line item, lines rest with
      | .ok l, .ok others => .ok (l :: others)
      | .ok _, .error n => .error n
      | .error m, .ok _ => .error m
      | .error m, .error n => .error (m + n)

def ofText (s : String) : Except Nat (List HashLine) :=
  match Json.read .file s with
  | .ok (.dict entries) =>
      match Value.field? entries "hashlines" with
      | none => .ok []
      | some (.list items) => lines items
      | some _ => .error 1
  | _ => .error 1

/-- Reads a hashfile.  A file that does not exist gives nothing. -/
def read (files : Files) (path : Path) : Except ReadError (Option (List HashLine)) :=
  match files.find path with
  | .missing => .ok none
  | .belowFile => .ok none
  | .nameTooLong => .error (.search (.nameTooLong path.text))
  | .directory => .error (.source (.unreadable path.text (.isDirectory path.text)))
  | .file octets =>
      match Files.textOf? octets with
      | none => .error .undecodable
      | some s =>
          match ofText s with
          | .ok found => .ok (some found)
          | .error errors => .error (.source (.invalid path.text errors))

def entries (found : List HashLine) : List Entry :=
  found.map fun l => ⟨.int l.height, .text l.hash⟩

def octetOf (item : Value) : Except Breakdown UInt8 :=
  match item with
  | .bool b => .ok (if b then 1 else 0)
  | .int n => if 0 ≤ n ∧ n < 256 then .ok n.toNat.toUInt8 else .error (.noMeaning "bytes must be in range(0, 256)")
  | _ => .error .unfitKind

def zeros (n : Int) : Except Breakdown (List UInt8) :=
  if n < 0 then .error (.noMeaning "negative count")
  else if Nat.pow 2 63 ≤ n then .error .overflow
  else .ok (List.replicate n.toNat 0)

/-- The octets that a value stands for: octets themselves, a number of zeros, or a list of octets. -/
def octetsOf (value : Value) : Except Breakdown (List UInt8) :=
  match value with
  | .octets _ bytes => .ok bytes
  | .bool b => zeros (if b then 1 else 0)
  | .int n => zeros n
  | .text _ => .error .unfitKind
  | value =>
      match value.items? with
      | some items => items.mapM octetOf
      | none => .error .unfitKind

/-- A hashfile as a value.  Heights are written as they are given. -/
def document (points : List (Value × List UInt8)) : Value :=
  .dict [(.text "hashlines", .list (points.map fun point =>
    .dict [(.text "height", point.1),
      (.text "hash", .text (String.ofList (point.2.flatMap Hash.octetDigits)))]))]

def dump (points : List (Value × List UInt8)) : String :=
  Json.print .lines (document points)

/-- Writes a hashfile of unchecked values.  All hashes are read before anything is written. -/
def dumpValues (points : List (Value × Value)) : Except Breakdown String := do
  let points ← points.mapM fun point => (octetsOf point.2).map fun octets => (point.1, octets)
  match Json.writable? (document points) with
  | none => .ok (dump points)
  | some breakdown => .error breakdown

def ofTable (table : Table) : String :=
  dump (table.entries.map fun point => (.int point.1, point.2.octets))

end Hashfile

end ReorgGuard.Checkpoint
