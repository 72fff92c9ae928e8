/-!
Blank characters and trimming.

Two sets of characters count as blank.  Records and command line numbers are
trimmed of white space together with the four information separators; numbers in
settings are trimmed of Unicode white space alone.  Neither set holds the zero
width space, the word joiner or the byte order mark.
-/

namespace ReorgGuard.Text

/-- White space as the Unicode standard lists it. -/
def isWhite (c : Char) : Bool :=
  let n := c.toNat
  (9 ≤ n && n ≤ 13) || n == 0x20 || n == 0x85 || n == 0xA0 || n == 0x1680 ||
    (0x2000 ≤ n && n ≤ 0x200A) || n == 0x2028 || n == 0x2029 || n == 0x202F ||
    n == 0x205F || n == 0x3000

/-- White space or one of the information separators U+001C to U+001F. -/
def isBlank (c : Char) : Bool :=
  isWhite c || (0x1C ≤ c.toNat && c.toNat ≤ 0x1F)

def trimBy (p : Char → Bool) (cs : List Char) : List Char :=
  ((cs.dropWhile p).reverse.dropWhile p).reverse

def trim (cs : List Char) : List Char :=
  trimBy isBlank cs

theorem trimBy_of_ends {p : Char → Bool} {cs : List Char}
    (first : ∀ c, cs.head? = some c → p c = false)
    (last : ∀ c, cs.getLast? = some c → p c = false) : trimBy p cs = cs := by
  have dropFirst : ∀ ds : List Char, (∀ c, ds.head? = some c → p c = false) →
      ds.dropWhile p = ds := by
    intro ds ends
    cases ds with
    | nil => rfl
    | cons d rest =>
        have outside := ends d rfl
        simp [outside]
  have backwards : (cs.reverse.dropWhile p) = cs.reverse := by
    apply dropFirst
    intro c atHead
    rw [List.head?_reverse] at atHead
    exact last c atHead
  unfold trimBy
  rw [dropFirst cs first, backwards, List.reverse_reverse]

end ReorgGuard.Text
