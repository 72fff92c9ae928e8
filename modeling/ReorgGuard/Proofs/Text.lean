import ReorgGuard.Files
import ReorgGuard.Proofs.Text.Utf8

/-!
Plain text in files.

Text of ASCII characters without carriage returns comes back from a file as it was put there.  What becomes of
other line ends is not looked at.
-/

namespace ReorgGuard

namespace Text

/-- Whether a character is ASCII and no carriage return. -/
def isPlain (c : Char) : Bool :=
  decide (c.toNat < 0x80) && c != '\r'

end Text

theorem Files.textOf?_toUtf8 {s : String} (plain : s.toList.all Text.isPlain = true) :
    textOf? (Text.toUtf8 s) = some s := by
  have noReturn : '\r' ∉ s.toList := by
    intro member
    have held := List.all_eq_true.mp plain '\r' member
    cases held
  rw [textOf?, Text.ofUtf8?_eq_some_iff.mpr rfl, Option.map_some, Text.unifyLineEnds_of_no_return noReturn,
    String.ofList_toList]

end ReorgGuard
