import ReorgGuard.Journal.Record
import ReorgGuard.Json.Printer

/-!
The journal as it is written out.

Records below the level of the output are left out, and so are records below a warning that
parts of the program write that are none of its own.  A record is one line of text, or a JSON
object on one line.
-/

namespace ReorgGuard.Journal

structure Output where
  level : Level
  json : Bool

/-- When a record is written: the second as text, and the milliseconds that passed in it. -/
structure Stamp where
  second : String
  millis : Nat

def Stamp.precise (stamp : Stamp) : String :=
  stamp.second ++ "," ++ String.ofList (Numeral.padded 10 3 stamp.millis)

namespace Output

def default : Output := ⟨.info, false⟩

/-- Parts that are heard from warnings on only. -/
def quietParts : List String := ["httpx", "httpcore"]

def isWithin (origin part : String) : Bool :=
  origin == part || (part ++ ".").toList.isPrefixOf origin.toList

def includes (output : Output) (record : Record) : Bool :=
  output.level.rank ≤ record.level.rank &&
    (Level.warning.rank ≤ record.level.rank || !quietParts.any (isWithin record.origin))

def originName (record : Record) : String :=
  if record.origin.isEmpty then "root" else record.origin

def line (output : Output) (stamp : Stamp) (record : Record) : String :=
  if output.json then
    Json.print .inline (.dict
      [(.text "timestamp", .text stamp.precise), (.text "logger", .text (originName record)),
        (.text "level", .text record.level.name), (.text "message", .text record.message)]) ++ "\n"
  else s!"{stamp.second} {record.level.name} {originName record}: {record.message}\n"

def text (output : Output) (stamp : Stamp) (records : List Record) : String :=
  String.join ((records.filter output.includes).map (output.line stamp))

end Output

end ReorgGuard.Journal
