import ReorgGuard.Checkpoint.Difficulty
import ReorgGuard.Proofs.Numeral.Spelling
import ReorgGuard.Proofs.Text.Blank

/-!
Difficulties as text.

What stands in a text between blanks is nothing, or the mark of hexadecimal text with digits behind it, or decimal
digits, or none of these; no text is two of them.  So each text has one reading, and the texts that are read as a
number are exactly the spellings of that number in the two bases.

The one limit is that of decimal digits; hexadecimal text may have any length.
-/

namespace ReorgGuard.Checkpoint.Difficulty

/-! ### The mark of hexadecimal text -/

def Hexadecimal (cs : List Char) (n : Nat) : Prop :=
  ∃ x digits, cs = '0' :: x :: digits ∧ (x = 'x' ∨ x = 'X') ∧ Numeral.Spelled 16 digits n

theorem afterMark?_eq_some_iff {cs digits : List Char} :
    afterMark? cs = some digits ↔ ∃ x, (x = 'x' ∨ x = 'X') ∧ cs = '0' :: x :: digits := by
  constructor
  · intro marked
    unfold afterMark? at marked
    split at marked
    · rename_i x rest
      split at marked <;> cases marked
      rename_i mark
      exact ⟨x, mark, rfl⟩
    · cases marked
  · intro marked
    rcases marked with ⟨x, mark, rfl⟩
    exact if_pos mark

theorem hexadecimal_iff {cs : List Char} {n : Nat} :
    Hexadecimal cs n ↔ ∃ digits, afterMark? cs = some digits ∧ Numeral.Spelled 16 digits n := by
  constructor
  · intro form
    rcases form with ⟨x, digits, isMarked, mark, spelled⟩
    exact ⟨digits, afterMark?_eq_some_iff.mpr ⟨x, mark, isMarked⟩, spelled⟩
  · intro form
    rcases form with ⟨digits, marked, spelled⟩
    obtain ⟨x, mark, isMarked⟩ := afterMark?_eq_some_iff.mp marked
    exact ⟨x, digits, isMarked, mark, spelled⟩

theorem not_spelled_ten {cs digits : List Char} (marked : afterMark? cs = some digits) (n : Nat) :
    ¬Numeral.Spelled 10 cs n := by
  intro spelled
  obtain ⟨x, mark, rfl⟩ := afterMark?_eq_some_iff.mp marked
  have decimal : Numeral.isDecimal x = true :=
    List.all_eq_true.mp (Numeral.spelled_ten_iff.mp spelled).2.1 x (by simp)
  rcases mark with rfl | rfl <;> cases decimal

/-! ### One reading -/

/-- What a text is read as, told by the characters in it between blanks. -/
inductive Reading (s : String) (cs : List Char) : Except Unread (Option Nat) → Prop where
  | nothing (blank : cs = []) : Reading s cs (.ok none)
  | hexadecimal {n : Nat} (form : Hexadecimal cs n) : Reading s cs (.ok (some n))
  | decimal {n : Nat} (form : Numeral.Spelled 10 cs n) (short : cs.length ≤ Numeral.digitLimit) :
      Reading s cs (.ok (some n))
  | overlong {n : Nat} (form : Numeral.Spelled 10 cs n) (long : Numeral.digitLimit < cs.length) :
      Reading s cs (.error (.limit (.text cs.length)))
  | malformed (filled : cs ≠ []) (formless : ∀ n, ¬Hexadecimal cs n ∧ ¬Numeral.Spelled 10 cs n) :
      Reading s cs (.error (.fault (.difficultyUnreadable (Text.quote s))))

section Text

variable {s : String}

theorem ofText_of_blank (blank : Text.trim s.toList = []) : ofText s = .ok none := by
  rw [ofText, blank]
  rfl

theorem ofText_of_mark {digits : List Char} (marked : afterMark? (Text.trim s.toList) = some digits) :
    ofText s =
      if digits.isEmpty || !digits.all Numeral.isHex then .error (.fault (.difficultyUnreadable (Text.quote s)))
      else .ok (some (Numeral.read 16 digits)) := by
  have filled : Text.trim s.toList ≠ [] := by
    intro blank
    rw [blank] at marked
    cases marked
  rw [ofText, List.isEmpty_eq_false_iff.mpr filled, marked]
  rfl

theorem ofText_of_no_mark (filled : Text.trim s.toList ≠ []) (unmarked : afterMark? (Text.trim s.toList) = none) :
    ofText s =
      if !(Text.trim s.toList).all Numeral.isDecimal then .error (.fault (.difficultyUnreadable (Text.quote s)))
      else if Numeral.digitLimit < (Text.trim s.toList).length then
        .error (.limit (.text (Text.trim s.toList).length))
      else .ok (some (Numeral.read 10 (Text.trim s.toList))) := by
  rw [ofText, List.isEmpty_eq_false_iff.mpr filled, unmarked]
  rfl

theorem reading_ofText (s : String) : Reading s (Text.trim s.toList) (ofText s) := by
  by_cases filled : Text.trim s.toList = []
  · rw [ofText_of_blank filled]
    exact .nothing filled
  cases marked : afterMark? (Text.trim s.toList) with
  | some digits =>
      have hexadecimal (n : Nat) : Hexadecimal (Text.trim s.toList) n ↔ Numeral.Spelled 16 digits n := by
        simp [hexadecimal_iff, marked]
      rw [ofText_of_mark marked]
      split
      · rename_i refused
        refine .malformed filled fun n => ⟨fun form => ?_, not_spelled_ten marked n⟩
        obtain ⟨notEmpty, hex, _⟩ := Numeral.spelled_sixteen_iff.mp ((hexadecimal n).mp form)
        rw [List.isEmpty_eq_false_iff.mpr notEmpty, hex] at refused
        cases refused
      · rename_i kept
        rw [Bool.or_eq_true, not_or, List.isEmpty_iff, Bool.not_eq_true, Bool.not_eq_false'] at kept
        exact .hexadecimal ((hexadecimal _).mpr (Numeral.spelled_sixteen_iff.mpr ⟨kept.1, kept.2, rfl⟩))
  | none =>
      rw [ofText_of_no_mark filled marked]
      split
      · rename_i refused
        refine .malformed filled fun n => ⟨fun form => ?_, fun spelled => ?_⟩
        · obtain ⟨digits, isMarked, _⟩ := hexadecimal_iff.mp form
          cases marked.symm.trans isMarked
        · rw [(Numeral.spelled_ten_iff.mp spelled).2.1] at refused
          cases refused
      · rename_i kept
        rw [Bool.not_eq_true, Bool.not_eq_false'] at kept
        have spelled := Numeral.spelled_ten_iff.mpr ⟨filled, kept, rfl⟩
        split
        · rename_i long
          exact .overlong spelled long
        · rename_i short
          exact .decimal spelled (Nat.le_of_not_lt short)

theorem ofText_of_hexadecimal {n : Nat} (form : Hexadecimal (Text.trim s.toList) n) : ofText s = .ok (some n) := by
  obtain ⟨digits, marked, spelled⟩ := hexadecimal_iff.mp form
  obtain ⟨filled, hex, value⟩ := Numeral.spelled_sixteen_iff.mp spelled
  rw [ofText_of_mark marked, List.isEmpty_eq_false_iff.mpr filled, hex, value]
  rfl

theorem ofText_of_spelled_ten {n : Nat} (form : Numeral.Spelled 10 (Text.trim s.toList) n) :
    ofText s =
      if Numeral.digitLimit < (Text.trim s.toList).length then
        .error (.limit (.text (Text.trim s.toList).length))
      else .ok (some n) := by
  obtain ⟨filled, decimal, value⟩ := Numeral.spelled_ten_iff.mp form
  have unmarked : afterMark? (Text.trim s.toList) = none := by
    cases marked : afterMark? (Text.trim s.toList) with
    | none => rfl
    | some digits => exact absurd form (not_spelled_ten marked n)
  rw [ofText_of_no_mark filled unmarked, decimal, value]
  rfl

/-- The answer to a text is its reading. -/
theorem ofText_eq_iff {answer : Except Unread (Option Nat)} :
    ofText s = answer ↔ Reading s (Text.trim s.toList) answer := by
  constructor
  · rintro rfl
    exact reading_ofText s
  · intro reading
    cases reading with
    | nothing blank => exact ofText_of_blank blank
    | hexadecimal form => exact ofText_of_hexadecimal form
    | decimal form short => rw [ofText_of_spelled_ten form, if_neg (Nat.not_lt.mpr short)]
    | overlong form long => rw [ofText_of_spelled_ten form, if_pos long]
    | malformed filled formless =>
        have reading := reading_ofText s
        generalize ofText s = answer at reading
        cases reading with
        | nothing blank => exact absurd blank filled
        | hexadecimal form => exact absurd form (formless _).1
        | decimal form _ => exact absurd form (formless _).2
        | overlong form _ => exact absurd form (formless _).2
        | malformed _ _ => rfl

theorem ofText_eq_none_iff : ofText s = .ok none ↔ Text.trim s.toList = [] := by
  rw [ofText_eq_iff]
  constructor
  · intro reading
    cases reading with
    | nothing blank => exact blank
  · exact .nothing

theorem ofText_eq_some_iff {n : Nat} :
    ofText s = .ok (some n) ↔
      Hexadecimal (Text.trim s.toList) n ∨
        Numeral.Spelled 10 (Text.trim s.toList) n ∧ (Text.trim s.toList).length ≤ Numeral.digitLimit := by
  rw [ofText_eq_iff]
  constructor
  · intro reading
    cases reading with
    | hexadecimal form => exact Or.inl form
    | decimal form short => exact Or.inr ⟨form, short⟩
  · intro form
    rcases form with form | ⟨form, short⟩
    · exact .hexadecimal form
    · exact .decimal form short

theorem ofText_eq_limit_iff :
    ofText s = .error (.limit (.text (Text.trim s.toList).length)) ↔
      (∃ n, Numeral.Spelled 10 (Text.trim s.toList) n) ∧ Numeral.digitLimit < (Text.trim s.toList).length := by
  rw [ofText_eq_iff]
  constructor
  · intro reading
    cases reading with
    | overlong form long => exact ⟨⟨_, form⟩, long⟩
  · intro overlong
    rcases overlong with ⟨⟨n, form⟩, long⟩
    exact .overlong form long

theorem ofText_eq_fault_iff :
    ofText s = .error (.fault (.difficultyUnreadable (Text.quote s))) ↔
      Text.trim s.toList ≠ [] ∧
        ∀ n, ¬Hexadecimal (Text.trim s.toList) n ∧ ¬Numeral.Spelled 10 (Text.trim s.toList) n := by
  rw [ofText_eq_iff]
  constructor
  · intro reading
    cases reading with
    | malformed filled formless => exact ⟨filled, formless⟩
  · intro malformed
    exact .malformed malformed.1 malformed.2

end Text

/-! ### The texts of a number -/

/-- The text is the number in hexadecimal between blanks: the mark and the written digits, letters in either case,
with any count of zeros behind the mark. -/
def HexadecimalText (s : String) (n : Nat) : Prop :=
  ∃ x zeros digits, (x = 'x' ∨ x = 'X') ∧
    digits.map Char.toLower = List.replicate zeros '0' ++ Numeral.write 16 n ∧
    Text.Framed ('0' :: x :: digits) s.toList

/-- The text is the number in decimal between blanks, with zeros in front as far as the digit limit lets them. -/
def DecimalText (s : String) (n : Nat) : Prop :=
  ∃ zeros, zeros + (Numeral.write 10 n).length ≤ Numeral.digitLimit ∧
    Text.Framed (List.replicate zeros '0' ++ Numeral.write 10 n) s.toList

section Number

variable {s : String} {n : Nat}

theorem hexadecimal_trim_iff : Hexadecimal (Text.trim s.toList) n ↔ HexadecimalText s n := by
  constructor
  · intro form
    rcases form with ⟨x, digits, isMarked, mark, spelled⟩
    obtain ⟨zeros, lower⟩ := spelled.toLower (by decide)
    refine ⟨x, zeros, digits, mark, lower, ?_⟩
    rw [← isMarked]
    exact Text.framed_trim s.toList
  · intro written
    rcases written with ⟨x, zeros, digits, mark, lower, framed⟩
    have spelled : Numeral.Spelled 16 digits n :=
      (Numeral.spelled_iff_toLower (by decide) (by decide)).mpr ⟨zeros, lower⟩
    have hex := List.all_eq_true.mp (Numeral.spelled_sixteen_iff.mp spelled).2.1
    have visible : ∀ c ∈ '0' :: x :: digits, Text.isBlank c = false := by
      rw [List.forall_mem_cons, List.forall_mem_cons]
      refine ⟨rfl, ?_, fun c member => (Numeral.visible_of_isHex (hex c member)).1⟩
      rcases mark with rfl | rfl <;> rfl
    exact ⟨x, digits, Text.trim_of_framed visible framed, mark, spelled⟩

theorem decimal_trim_iff :
    Numeral.Spelled 10 (Text.trim s.toList) n ∧ (Text.trim s.toList).length ≤ Numeral.digitLimit ↔
      DecimalText s n := by
  have visible (zeros : Nat) : ∀ c ∈ List.replicate zeros '0' ++ Numeral.write 10 n, Text.isBlank c = false := by
    have spelled : Numeral.Spelled 10 (List.replicate zeros '0' ++ Numeral.write 10 n) n :=
      Numeral.spelled_ten_iff_zeros.mpr ⟨zeros, rfl⟩
    have decimal := List.all_eq_true.mp (Numeral.spelled_ten_iff.mp spelled).2.1
    exact fun c member => (Numeral.visible_of_isHex (Numeral.isHex_of_isDecimal (decimal c member))).1
  rw [Numeral.spelled_ten_iff_zeros, exists_and_right.symm]
  refine exists_congr fun zeros => ?_
  rw [Text.trim_eq_iff_framed (visible zeros), and_comm]
  refine and_congr_left fun framed => ?_
  rw [Text.trim_of_framed (visible zeros) framed, List.length_append, List.length_replicate]

theorem hexadecimalText_hexText (n : Nat) : HexadecimalText (Numeral.hexText n) n := by
  have spelled := Numeral.spelled_zeros_write (le_refl 16) (by decide) 0 n
  rw [List.replicate_zero, List.nil_append] at spelled
  obtain ⟨zeros, lower⟩ := spelled.toLower (by decide)
  refine ⟨'x', zeros, Numeral.write 16 n, Or.inl rfl, lower, ?_⟩
  rw [Numeral.hexText, String.toList_ofList]
  exact .refl _

theorem decimalText_natText (short : (Numeral.write 10 n).length ≤ Numeral.digitLimit) :
    DecimalText (Numeral.natText n) n := by
  refine ⟨0, by rwa [Nat.zero_add], ?_⟩
  rw [Numeral.natText, String.toList_ofList]
  exact .refl _

end Number

/-- Every text has one reading as a difficulty, and it is read as a number exactly if it spells it in hexadecimal or
in decimal. -/
theorem text_has_one_reading :
    (∀ s : String,
      let t := Text.trim s.toList
      (ofValue (.text s) = .ok none ↔ t = []) ∧
      (∀ n, ofValue (.text s) = .ok (some n) ↔
        Hexadecimal t n ∨ Numeral.Spelled 10 t n ∧ t.length ≤ Numeral.digitLimit) ∧
      (ofValue (.text s) = .error (.limit (.text t.length)) ↔
        (∃ n, Numeral.Spelled 10 t n) ∧ Numeral.digitLimit < t.length) ∧
      (ofValue (.text s) = .error (.fault (.difficultyUnreadable (Text.quote s))) ↔
        t ≠ [] ∧ ∀ n, ¬Hexadecimal t n ∧ ¬Numeral.Spelled 10 t n)) ∧
    (∀ n : Nat,
      (∀ s, ofValue (.text s) = .ok (some n) ↔ HexadecimalText s n ∨ DecimalText s n) ∧
      ofValue (.text (Numeral.hexText n)) = .ok (some n) ∧
      ((Numeral.write 10 n).length ≤ Numeral.digitLimit →
        ofValue (.text (Numeral.natText n)) = .ok (some n))) := by
  have texts (n : Nat) (s : String) :
      ofValue (.text s) = .ok (some n) ↔ HexadecimalText s n ∨ DecimalText s n := by
    rw [← hexadecimal_trim_iff, ← decimal_trim_iff]
    exact ofText_eq_some_iff
  refine ⟨fun s => ⟨ofText_eq_none_iff, fun n => ofText_eq_some_iff, ofText_eq_limit_iff, ofText_eq_fault_iff⟩,
    fun n => ⟨texts n, (texts n _).mpr (Or.inl (hexadecimalText_hexText n)), fun short => ?_⟩⟩
  exact (texts n _).mpr (Or.inr (decimalText_natText short))

/-- A zero in front makes neither reading another one. -/
example : ofText " 0x010\n" = .ok (some 16) ∧ ofText "010" = .ok (some 10) :=
  ⟨rfl, rfl⟩

end ReorgGuard.Checkpoint.Difficulty
