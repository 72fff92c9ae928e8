import ReorgGuard.Hostname.Label

/-!
Host names as a whole.

Besides the full stop three more dots of other scripts separate labels.  One dot may close a name.
-/

namespace ReorgGuard.Hostname

inductive DomainFault where
  | empty
  | tooLong
  | label (fault : LabelFault)

def DomainFault.message : DomainFault → String
  | empty => "Empty domain"
  | tooLong => "Domain too long"
  | label fault => fault.message

def isDot (c : Char) : Bool :=
  c == '.' || c.toNat == 0x3002 || c.toNat == 0xFF0E || c.toNat == 0xFF61

def longestDomain : Nat := 253

/-- The labels of a name and whether a dot closes it. -/
def labelsOf (name : List Char) : Except DomainFault (List (List Char) × Bool) :=
  if longestDomain + 1 < name.length then .error .tooLong
  else
    match Text.splitAt '.' (name.map fun c => if isDot c then '.' else c) with
    | [[]] => .error .empty
    | pieces =>
        if pieces.getLast? = some [] then .ok (pieces.dropLast, true) else .ok (pieces, false)

def check (name : String) : Except DomainFault Unit := do
  let (labels, _) ← labelsOf name.toList
  labels.forM fun label => (checkEitherForm label).mapError .label

def plain (name : String) : Except DomainFault String := do
  let (labels, closed) ← labelsOf name.toList
  let plain ← labels.mapM fun label => (plainLabel label).mapError .label
  let text := ".".intercalate (plain.map String.ofList) ++ (if closed then "." else "")
  if longestDomain + (if closed then 1 else 0) < text.length then .error .tooLong else .ok text

end ReorgGuard.Hostname
