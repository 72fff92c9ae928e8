import ReorgGuard.Value

/-!
Merging of nested mappings.

The second mapping wins key by key.  Where both hold a mapping at a key, the two are merged
in turn; everywhere else the value of the second mapping stands.  Keys keep the order of the
first mapping, and keys that only the second one has follow in its order.
-/

namespace ReorgGuard.Value

mutual

def mergeAt (old : Value) : Value → Value
  | dict overlay =>
      match old with
      | dict base => dict (merge base overlay)
      | _ => dict overlay
  | value => value

/-- Lays the entries of the second mapping over the first. -/
def merge (base : List (Value × Value)) : List (Value × Value) → List (Value × Value)
  | [] => base
  | (key, value) :: rest =>
      let merged := match entry? base key with
        | some old => mergeAt old value
        | none => value
      merge (put base key merged) rest

end

/-- Whether two mappings have mappings at a common chain of keys of a length. -/
def meetsDown : Nat → List (Value × Value) → List (Value × Value) → Bool
  | 0, _, _ => true
  | length + 1, base, overlay =>
      overlay.any fun e =>
        match e.2, entry? base e.1 with
        | dict inner, some (dict below) => meetsDown length below inner
        | _, _ => false

end ReorgGuard.Value
