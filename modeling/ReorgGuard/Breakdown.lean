/-!
What breaks an operation off.

An operation answers for the faults that it knows.  A value that it cannot work with at all stops
it instead, and whoever asked is told what kind of trouble that was.
-/

namespace ReorgGuard

/-- Trouble that an operation does not answer for. -/
inductive Breakdown where
  /-- A value is of a kind that the operation does not take. -/
  | unfitKind
  /-- A part is asked of a value that has no such part. -/
  | noPart
  /-- A number lies outside the range of what it is to become. -/
  | overflow
  /-- Values are nested more deeply than they are ever followed. -/
  | tooDeep
  /-- A place lies behind the end of a text. -/
  | beyondEnd (message : String)
  /-- A word is none of those that are known. -/
  | unlisted (shown : String)
  /-- A value is of the right kind and has no meaning. -/
  | noMeaning (message : String)
  /-- A text holds half of a surrogate pair, which no encoding has. -/
  | unencodable

def Breakdown.message? : Breakdown → Option String
  | beyondEnd message => some message
  | unlisted shown => some shown
  | noMeaning message => some message
  | _ => none

end ReorgGuard
