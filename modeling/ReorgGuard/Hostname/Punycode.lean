import ReorgGuard.Text.Lines

/-!
Punycode: code points of any size written with letters, digits and hyphens.

The ASCII characters come first, as they are, and a hyphen closes them.  Behind it stand numbers that
tell one after the other, in the order of the code points, where each other character is put in.  A
number is written in base thirty-six, its lowest digit first; which digit ends it depends on a
bias that follows the size of the numbers before.
-/

namespace ReorgGuard.Hostname.Punycode

def digitChar (d : Nat) : Char :=
  if d < 26 then Char.ofNat (0x61 + d) else Char.ofNat (0x30 + (d - 26))

def digit? (c : Char) : Option Nat :=
  if 'a' ≤ c ∧ c ≤ 'z' then some (c.toNat - 0x61)
  else if 'A' ≤ c ∧ c ≤ 'Z' then some (c.toNat - 0x41)
  else if '0' ≤ c ∧ c ≤ '9' then some (c.toNat - 0x30 + 26)
  else none

/-- The least digit that does not end a number; the place counts up by thirty-six. -/
def threshold (place bias : Nat) : Nat :=
  if place ≤ bias then 1 else if bias + 26 ≤ place then 26 else place - bias

theorem threshold_pos (place bias : Nat) : 1 ≤ threshold place bias := by
  unfold threshold
  split
  · omega
  · split <;> omega

/-- Divides until little is left, and counts the divisions by thirty-six. -/
def shrink (delta divisions : Nat) : Nat × Nat :=
  if 455 < delta then shrink (delta / 35) (divisions + 36) else (delta, divisions)
termination_by delta
decreasing_by exact Nat.div_lt_self (by omega) (by omega)

def adapt (delta characters : Nat) (first : Bool) : Nat :=
  let delta := if first then delta / 700 else delta / 2
  let (rest, divisions) := shrink (delta + delta / characters) 0
  divisions + 36 * rest / (rest + 38)

def writeNumber (bias place n : Nat) : List Char :=
  let t := threshold place bias
  if n < t then [digitChar n]
  else digitChar (t + (n - t) % (36 - t)) :: writeNumber bias (place + 36) ((n - t) / (36 - t))
termination_by n
decreasing_by
  have positive := threshold_pos place bias
  calc (n - threshold place bias) / (36 - threshold place bias)
      ≤ n - threshold place bias := Nat.div_le_self _ _
    _ < n := by omega

/-- What has been written: the numbers so far, the next number as far as it has been counted, the bias
and the number of characters already placed. -/
structure Writing where
  written : List Char
  delta : Nat
  bias : Nat
  placed : Nat

def Writing.pass (basics next : Nat) (w : Writing) (n : Nat) : Writing :=
  if n < next then { w with delta := w.delta + 1 }
  else if n = next then
    { written := w.written ++ writeNumber w.bias 36 w.delta
      delta := 0
      bias := adapt w.delta (w.placed + 1) (w.placed == basics)
      placed := w.placed + 1 }
  else w

def placeAll (codes : List Nat) (basics : Nat) : List Nat → Nat → Writing → Writing
  | [], _, w => w
  | next :: rest, start, w =>
      let w := { w with delta := w.delta + (next - start) * (w.placed + 1) }
      let w := codes.foldl (Writing.pass basics next) w
      placeAll codes basics rest (next + 1) { w with delta := w.delta + 1 }

def write (codes : List Nat) : List Char :=
  let basic := (codes.filter (· < 0x80)).map Char.ofNat
  let others := ((codes.filter (0x80 ≤ ·)).mergeSort fun a b => a ≤ b).eraseDups
  let w := placeAll codes basic.length others 0x80 ⟨[], 0, 72, basic.length⟩
  basic ++ (if basic.isEmpty then [] else ['-']) ++ w.written

def readNumber (bias : Nat) : List Char → Nat → Nat → Nat → Option (Nat × List Char)
  | [], _, _, _ => none
  | c :: rest, place, weight, sum =>
      match digit? c with
      | none => none
      | some d =>
          if d < threshold place bias then some (sum + d * weight, rest)
          else readNumber bias rest (place + 36) (weight * (36 - threshold place bias)) (sum + d * weight)

theorem length_of_readNumber {bias : Nat} {cs : List Char} {place weight sum : Nat} {r : Nat × List Char}
    (found : readNumber bias cs place weight sum = some r) : r.2.length < cs.length := by
  induction cs generalizing place weight sum with
  | nil => simp [readNumber] at found
  | cons c rest ih =>
      rw [readNumber] at found
      split at found
      · simp at found
      · split at found
        · rw [← Option.some.inj found]
          simp
        · have shorter := ih found
          simp only [List.length_cons]
          omega

/-- Puts characters in until the numbers end.  The one put in last is given with the place behind it. -/
def placeNumbers (first : Bool) (bias last place : Nat) (codes : List Nat) (cs : List Char) :
    Option (List Nat) :=
  match cs with
  | [] => some codes
  | c :: rest =>
      match _found : readNumber bias (c :: rest) 36 1 place with
      | none => none
      | some (sum, behind) =>
          let size := codes.length + 1
          let n := last + sum / size
          let spot := sum % size
          if 0x10FFFF < n then none
          else
            placeNumbers false (adapt (sum - place) size first) n (spot + 1) (codes.take spot ++ n :: codes.drop spot) behind
termination_by cs.length
decreasing_by
  have shorter := length_of_readNumber _found
  simpa using shorter

def read? (cs : List Char) : Option (List Nat) :=
  let behind := (cs.reverse.takeWhile (· != '-')).reverse
  if cs.contains '-' then
    placeNumbers true 72 0x80 0 ((cs.take (cs.length - behind.length - 1)).map Char.toNat) behind
  else placeNumbers true 72 0x80 0 [] cs

end ReorgGuard.Hostname.Punycode
