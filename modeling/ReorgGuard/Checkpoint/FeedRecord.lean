import ReorgGuard.Checkpoint.Source

/-!
Records of a feed.

A record is a height, a colon and a hash, each possibly between blanks.  Feeds are not trusted:
a record of any other form is dropped.
-/

namespace ReorgGuard.Checkpoint.FeedRecord

def origin : String := "pinchain.checkpoints.sources"

/-- Reads one record.  A record of another form gives nothing. -/
def read (record : String) : Except BeyondLimit (Option (Nat × Hash)) :=
  let cs := record.toList
  let height := cs.takeWhile (· != ':')
  match cs.dropWhile (· != ':') with
  | [] => .ok none
  | _ :: hash =>
      match Height.ofText (String.ofList height) with
      | .error (.limit l) => .error l
      | .error (.fault _) => .ok none
      | .ok h =>
          match Hash.ofText (String.ofList (Text.trim hash)) with
          | .error _ => .ok none
          | .ok x => .ok (some (h, x))

def readAll : List String → Except BeyondLimit (List (Nat × Hash))
  | [] => .ok []
  | record :: rest => do
      let first ← read record
      let others ← readAll rest
      match first with
      | some point => .ok (point :: others)
      | none => .ok others

def dropped (records : List String) (kept : List (Nat × Hash)) : List Journal.Record :=
  let count := records.length - kept.length
  if count = 0 then []
  else [⟨.debug, origin, s!"dropped {count} malformed feed record(s)"⟩]

def entries (kept : List (Nat × Hash)) : List Entry :=
  kept.map fun point => ⟨.int point.1, .octets .fixed point.2.octets⟩

end ReorgGuard.Checkpoint.FeedRecord
