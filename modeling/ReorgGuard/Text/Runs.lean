import ReorgGuard.Numeral.Digits

/-!
Sets of code points, written down as runs.

A run is a pair of hexadecimal numbers with a hyphen between them, or one number that stands alone;
blanks and line ends separate the runs.
-/

namespace ReorgGuard.Text

/-- The first and the last code point of every run of a set. -/
abbrev Runs := List (Nat × Nat)

def wordsOf (s : String) : List (List Char) :=
  ((s.splitOn "\n").flatMap (·.splitOn " ")).filterMap fun word =>
    if word.isEmpty then none else some word.toList

def runOf (word : List Char) : Nat × Nat :=
  let first := Numeral.read 16 (word.takeWhile (· != '-'))
  match word.dropWhile (· != '-') with
  | [] => (first, first)
  | _ :: last => (first, Numeral.read 16 last)

def runsOf (s : String) : Runs :=
  (wordsOf s).map runOf

def Runs.holds (runs : Runs) (n : Nat) : Bool :=
  runs.any fun run => run.1 ≤ n && n ≤ run.2

end ReorgGuard.Text
