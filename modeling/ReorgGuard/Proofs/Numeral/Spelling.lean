import ReorgGuard.Proofs.Numeral
import ReorgGuard.Text.Blank

/-!
The spellings of a number.

In a base of at most sixteen, digits in either case spell one number, the one that is read from them.  The
spellings of a number are its written digits, with letters in either case and with any count of zeros in front,
and there are no others.
-/

namespace ReorgGuard.Numeral

/-! ### Digits in either case -/

theorem forall_ascii {p : Char → Prop} (all : ∀ n < 128, p (Char.ofNat n)) (c : Char) (ascii : c.toNat < 128) :
    p c := by
  have held := all c.toNat ascii
  rwa [Char.ofNat_toNat] at held

theorem ascii_of_hexDigit? {c : Char} {d : Nat} (found : hexDigit? c = some d) : c.toNat < 128 := by
  unfold hexDigit? at found
  split at found
  · rename_i decimal
    have atMost : c.toNat ≤ 57 := decimal.2
    omega
  split at found
  · rename_i small
    have atMost : c.toNat ≤ 102 := small.2
    omega
  split at found
  · rename_i capital
    have atMost : c.toNat ≤ 70 := capital.2
    omega
  · cases found

theorem toLower_of_hexDigit? {c : Char} {d : Nat} (found : hexDigit? c = some d) :
    d < 16 ∧ c.toLower = digitChar d := by
  have each := forall_ascii (p := fun c => ∀ d ∈ hexDigit? c, d < 16 ∧ c.toLower = digitChar d) (by decide)
  exact each c (ascii_of_hexDigit? found) d found

theorem hexDigit?_toLower (c : Char) : hexDigit? c.toLower = hexDigit? c := by
  by_cases ascii : c.toNat < 128
  · exact forall_ascii (p := fun c => hexDigit? c.toLower = hexDigit? c) (by decide) c ascii
  · have unchanged : c.toLower = c := by
      have noCapital : ¬(c.val ≥ 'A'.val ∧ c.val ≤ 'Z'.val) := by
        intro capital
        have atMost : c.toNat ≤ 90 := capital.2
        omega
      exact dif_neg noCapital
    rw [unchanged]

/-- What holds of the hexadecimal digits among the ASCII characters holds of all that there are. -/
theorem of_isHex {p : Char → Prop} (all : ∀ n < 128, isHex (Char.ofNat n) = true → p (Char.ofNat n)) {c : Char}
    (hex : isHex c = true) : p c := by
  obtain ⟨d, found⟩ := Option.isSome_iff_exists.mp hex
  exact forall_ascii (p := fun c => isHex c = true → p c) all c (ascii_of_hexDigit? found) hex

theorem isHex_of_isDecimal {c : Char} (decimal : isDecimal c = true) : isHex c = true := by
  obtain ⟨digit, found, _⟩ := hexDigit?_of_isDecimal decimal
  exact Option.isSome_of_eq_some found

theorem visible_of_isHex {c : Char} (hex : isHex c = true) : Text.isBlank c = false ∧ c ≠ ':' :=
  of_isHex (p := fun c => Text.isBlank c = false ∧ c ≠ ':') (by decide) hex

theorem toLower_of_isDecimal {c : Char} (decimal : isDecimal c = true) : c.toLower = c :=
  of_isHex (p := fun c => isDecimal c = true → c.toLower = c) (by decide) (isHex_of_isDecimal decimal) decimal

def hexDigits : List Char :=
  ['0', '1', '2', '3', '4', '5', '6', '7', '8', '9', 'a', 'b', 'c', 'd', 'e', 'f', 'A', 'B', 'C', 'D', 'E', 'F']

theorem isHex_iff_mem {c : Char} : isHex c = true ↔ c ∈ hexDigits := by
  constructor
  · exact of_isHex (p := fun c => c ∈ hexDigits) (by decide)
  · intro member
    have all : hexDigits.all isHex = true := by decide
    exact List.all_eq_true.mp all c member

def IsDigit (base : Nat) (c : Char) (d : Nat) : Prop :=
  d < base ∧ c.toLower = digitChar d

theorem isDigit_iff {base : Nat} (sixteen : base ≤ 16) {c : Char} {d : Nat} :
    IsDigit base c d ↔ d < base ∧ hexDigit? c = some d := by
  refine and_congr_right fun small => ⟨fun shape => ?_, fun found => (toLower_of_hexDigit? found).2⟩
  rw [← hexDigit?_toLower, shape, hexDigit?_digitChar (Nat.lt_of_lt_of_le small sixteen)]

theorem isHex_iff {c : Char} : isHex c = true ↔ ∃ d, IsDigit 16 c d := by
  simp only [isDigit_iff (le_refl 16)]
  rw [isHex, Option.isSome_iff_exists]
  exact exists_congr fun d => ⟨fun found => ⟨(toLower_of_hexDigit? found).1, found⟩, And.right⟩

theorem isDecimal_iff {c : Char} : isDecimal c = true ↔ ∃ d, IsDigit 10 c d := by
  simp only [isDigit_iff (show 10 ≤ 16 by decide)]
  constructor
  · intro decimal
    obtain ⟨d, found, small⟩ := hexDigit?_of_isDecimal decimal
    exact ⟨d, small, found⟩
  · intro digit
    rcases digit with ⟨d, small, found⟩
    have each := of_isHex (p := fun c => ∀ d ∈ hexDigit? c, d < 10 → isDecimal c = true) (by decide)
      (Option.isSome_of_eq_some found)
    exact each d found small

/-! ### Digits in a row -/

/-- The characters are digits in a base, one at least, and the number is their value: the last digit counts once,
what stands in front of it as many times as the base says. -/
inductive Spelled (base : Nat) : List Char → Nat → Prop where
  | digit {c : Char} {d : Nat} (last : IsDigit base c d) : Spelled base [c] d
  | more {front : List Char} {n : Nat} {c : Char} {d : Nat} (inFront : Spelled base front n)
      (last : IsDigit base c d) : Spelled base (front ++ [c]) (n * base + d)

section Base

variable {base : Nat} {cs : List Char} {n : Nat}

theorem Spelled.filled (spelled : Spelled base cs n) : cs ≠ [] := by
  cases spelled with
  | digit => exact List.cons_ne_nil _ _
  | more => exact List.append_ne_nil_of_right_ne_nil _ (List.cons_ne_nil _ _)

theorem Spelled.digits (spelled : Spelled base cs n) : ∀ c ∈ cs, ∃ d, IsDigit base c d := by
  induction spelled with
  | digit last => exact List.forall_mem_singleton.mpr ⟨_, last⟩
  | more inFront last ih =>
      intro c member
      rcases List.mem_append.mp member with earlier | atEnd
      · exact ih c earlier
      · rw [List.mem_singleton.mp atEnd]
        exact ⟨_, last⟩

theorem Spelled.toLower (spelled : Spelled base cs n) (two : 1 < base) :
    ∃ zeros, cs.map Char.toLower = List.replicate zeros '0' ++ write base n := by
  induction spelled with
  | digit last => exact ⟨0, by rw [write_of_small last.1, List.map_singleton, last.2]; rfl⟩
  | @more front n c d inFront last ih =>
      obtain ⟨zeros, lower⟩ := ih
      rw [List.map_append, lower, List.map_singleton, last.2]
      by_cases zero : n = 0
      · -- What stands in front are zeros, the written one among them.
        refine ⟨zeros + 1, ?_⟩
        rw [zero, Nat.zero_mul, Nat.zero_add, write_of_small last.1, write_of_small (Nat.zero_lt_of_lt two),
          List.replicate_succ']
        rfl
      · have quotient : (n * base + d) / base = n := by
          rw [Nat.mul_comm, Nat.mul_add_div (by omega), Nat.div_eq_of_lt last.1, Nat.add_zero]
        have remainder : (n * base + d) % base = d := by
          rw [Nat.mul_comm, Nat.mul_add_mod, Nat.mod_eq_of_lt last.1]
        have large : base ≤ n * base + d :=
          Nat.le_add_right_of_le (Nat.le_mul_of_pos_left base (Nat.pos_of_ne_zero zero))
        refine ⟨zeros, ?_⟩
        rw [write_of_large two large, quotient, remainder, List.append_assoc]

theorem read_map_toLower (base : Nat) (cs : List Char) : read base (cs.map Char.toLower) = read base cs := by
  simp only [read, List.foldl_map, hexDigit?_toLower]

variable (sixteen : base ≤ 16)

include sixteen

theorem Spelled.read_eq (spelled : Spelled base cs n) : read base cs = n := by
  induction spelled with
  | digit last =>
      rw [← List.nil_append [_], read_concat, ((isDigit_iff sixteen).mp last).2, Option.getD_some]
      simp [read]
  | more inFront last ih => rw [read_concat, ih, ((isDigit_iff sixteen).mp last).2, Option.getD_some]

theorem spelled_read (filled : cs ≠ []) (digits : ∀ c ∈ cs, ∃ d, IsDigit base c d) :
    Spelled base cs (read base cs) := by
  induction cs using List.reverseRecOn with
  | nil => exact absurd rfl filled
  | append_singleton front last ih =>
      obtain ⟨d, isLast⟩ := digits last (List.mem_append_right _ List.mem_cons_self)
      rw [read_concat, ((isDigit_iff sixteen).mp isLast).2, Option.getD_some]
      by_cases alone : front = []
      · rw [alone]
        simpa [read] using Spelled.digit isLast
      · exact .more (ih alone fun c member => digits c (List.mem_append_left _ member)) isLast

theorem spelled_iff :
    Spelled base cs n ↔ cs ≠ [] ∧ (∀ c ∈ cs, ∃ d, IsDigit base c d) ∧ read base cs = n := by
  constructor
  · intro spelled
    exact ⟨spelled.filled, spelled.digits, spelled.read_eq sixteen⟩
  · intro shaped
    rcases shaped with ⟨filled, digits, rfl⟩
    exact spelled_read sixteen filled digits

theorem spelled_of_toLower (spelled : Spelled base (cs.map Char.toLower) n) : Spelled base cs n := by
  obtain ⟨filled, digits, value⟩ := (spelled_iff sixteen).mp spelled
  rw [read_map_toLower] at value
  refine (spelled_iff sixteen).mpr ⟨fun none => filled (by rw [none, List.map_nil]), fun c member => ?_, value⟩
  obtain ⟨d, isDigit⟩ := digits c.toLower (List.mem_map_of_mem member)
  rw [isDigit_iff sixteen, hexDigit?_toLower, ← isDigit_iff sixteen] at isDigit
  exact ⟨d, isDigit⟩

theorem spelled_zeros_write (two : 1 < base) (zeros n : Nat) :
    Spelled base (List.replicate zeros '0' ++ write base n) n := by
  refine (spelled_iff sixteen).mpr
    ⟨List.append_ne_nil_of_right_ne_nil _ (write_ne_nil two n), fun c member => ?_, ?_⟩
  · obtain ⟨d, small, rfl⟩ : ∃ d < base, digitChar d = c := by
      rcases List.mem_append.mp member with zero | written
      · exact ⟨0, by omega, (List.eq_of_mem_replicate zero).symm⟩
      · exact mem_write two written
    exact ⟨d, (isDigit_iff sixteen).mpr ⟨small, hexDigit?_digitChar (Nat.lt_of_lt_of_le small sixteen)⟩⟩
  · rw [read_replicate_zero, read_write two sixteen]

/-- The spellings of a number are its written digits, in either case and behind zeros. -/
theorem spelled_iff_toLower (two : 1 < base) :
    Spelled base cs n ↔ ∃ zeros, cs.map Char.toLower = List.replicate zeros '0' ++ write base n := by
  constructor
  · intro spelled
    exact spelled.toLower two
  · intro lower
    rcases lower with ⟨zeros, lower⟩
    apply spelled_of_toLower sixteen
    rw [lower]
    exact spelled_zeros_write sixteen two zeros n

end Base

/-! ### The two bases of texts -/

theorem spelled_sixteen_iff {cs : List Char} {n : Nat} :
    Spelled 16 cs n ↔ cs ≠ [] ∧ cs.all isHex = true ∧ read 16 cs = n := by
  rw [spelled_iff (le_refl 16), List.all_eq_true]
  simp only [isHex_iff]

theorem spelled_ten_iff {cs : List Char} {n : Nat} :
    Spelled 10 cs n ↔ cs ≠ [] ∧ cs.all isDecimal = true ∧ read 10 cs = n := by
  rw [spelled_iff (by decide), List.all_eq_true]
  simp only [isDecimal_iff]

theorem spelled_ten_iff_zeros {cs : List Char} {n : Nat} :
    Spelled 10 cs n ↔ ∃ zeros, cs = List.replicate zeros '0' ++ write 10 n := by
  constructor
  · intro spelled
    have decimal := List.all_eq_true.mp (spelled_ten_iff.mp spelled).2.1
    have same : cs.map Char.toLower = cs := by
      rw [List.map_congr_left fun c member => toLower_of_isDecimal (decimal c member), List.map_id']
    obtain ⟨zeros, lower⟩ := spelled.toLower (by decide)
    exact ⟨zeros, same.symm.trans lower⟩
  · intro written
    rcases written with ⟨zeros, rfl⟩
    exact spelled_zeros_write (by decide) (by decide) zeros n

end ReorgGuard.Numeral
