/-!
Prefix codes, given by the lengths of their words.

The words of one length follow each other in the order of their symbols, and the words of the next length
follow those.  Bits that begin no word are invalid; lengths that leave words over, or of which there are
too many, make no code, except for a single word of one bit.
-/

namespace ReorgGuard.Compression

/-- A prefix code as a tree; a zero leads to the first branch. -/
inductive Code where
  | absent
  | symbol (n : Nat)
  | branch (zero one : Code)

inductive Found where
  | symbol (n : Nat) (rest : List Bool)
  /-- The bits end within a word. -/
  | cut
  /-- The bits begin no word. -/
  | invalid

namespace Code

def read : Code → List Bool → Found
  | absent, _ => .invalid
  | symbol n, bits => .symbol n bits
  | branch _ _, [] => .cut
  | branch zero one, bit :: rest => if bit then read one rest else read zero rest

def branches : Code → Code × Code
  | branch zero one => (zero, one)
  | _ => (absent, absent)

def insert (n : Nat) : Nat → Nat → Code → Code
  | 0, _, _ => symbol n
  | length + 1, value, code =>
      let (zero, one) := code.branches
      if value / Nat.pow 2 length % 2 = 1 then branch zero (insert n length value one)
      else branch (insert n length value zero) one

def longestWord : Nat := 15

def ordered (lengths : List Nat) : List (Nat × Nat) :=
  (List.range longestWord).flatMap fun i =>
    ((lengths.zipIdx).filter fun entry => entry.1 = i + 1).map fun entry => (entry.2, entry.1)

/-- The code of symbols in order: each word is the one before, one more, and filled with zeros. -/
def assign : List (Nat × Nat) → Nat → Nat → Code → Code
  | [], _, _, code => code
  | (n, length) :: rest, next, before, code =>
      let value := next * Nat.pow 2 (length - before)
      assign rest (value + 1) length (insert n length value code)

def used (lengths : List Nat) : Nat :=
  lengths.foldl (fun total length => total + if length = 0 then 0 else Nat.pow 2 (longestWord - length)) 0

/-- The code with words of these lengths; a symbol of length zero has no word.  Words may be left over only if
there is no word at all, or one of one bit and that is permitted. -/
def ofLengths? (permitsOne : Bool) (lengths : List Nat) : Option Code :=
  let all := Nat.pow 2 longestWord
  let words := lengths.filter (0 < ·)
  if words.isEmpty then some (branch absent absent)
  else if all < used lengths then none
  else if used lengths < all && !(permitsOne && words.all (· = 1)) then none
  else some (assign (ordered lengths) 0 0 absent)

end Code

end ReorgGuard.Compression
