import Mathlib.Algebra.Ring.Nat
import Mathlib.Data.List.Induction
import ReorgGuard.Numeral.Digits

/-!
Numbers as digits.

Text of few digits stands for a number of few digits, and a small number has few digits.  What was
read within the digit limit can therefore be written again, and a number that can be written may be
named in a message.  Reading what was written gives the number back; no zero stands in front of it
unless the digits are filled up to a width.
-/

namespace ReorgGuard.Numeral

theorem hexDigit?_of_isDecimal {c : Char} (decimal : isDecimal c = true) :
    ∃ digit, hexDigit? c = some digit ∧ digit < 10 := by
  have range : '0' ≤ c ∧ c ≤ '9' := by
    simpa only [isDecimal, Bool.and_eq_true, decide_eq_true_eq] using decimal
  refine ⟨c.toNat - 48, by rw [hexDigit?, if_pos range], ?_⟩
  have atMost : c.toNat ≤ 57 := range.2
  omega

theorem all_isDecimal_of_not_refused {cs : List Char}
    (kept : ¬(cs.isEmpty || !cs.all isDecimal) = true) : cs.all isDecimal = true := by
  rw [Bool.or_eq_true, not_or] at kept
  cases all : cs.all isDecimal with
  | true => rfl
  | false =>
      rw [all] at kept
      exact absurd rfl kept.2

theorem read_concat (base : Nat) (cs : List Char) (c : Char) :
    read base (cs ++ [c]) = read base cs * base + (hexDigit? c).getD 0 := by
  unfold read
  rw [List.foldl_append, List.foldl_cons, List.foldl_nil]

theorem read_replicate_zero (base zeros : Nat) (cs : List Char) :
    read base (List.replicate zeros '0' ++ cs) = read base cs := by
  induction zeros with
  | zero => rfl
  | succ fewer ih =>
      refine Eq.trans ?_ ih
      unfold read
      rw [List.replicate_succ, List.cons_append, List.foldl_cons, Nat.zero_mul, Nat.zero_add]
      rfl

/-- A decimal text stands for a number of no more digits than it has. -/
theorem read_lt_pow {cs : List Char} (decimal : cs.all isDecimal = true) :
    read 10 cs < 10 ^ cs.length := by
  induction cs using List.reverseRecOn with
  | nil => exact Nat.one_pos
  | append_singleton front last ih =>
      rw [List.all_append, Bool.and_eq_true] at decimal
      obtain ⟨digit, isDigit, small⟩ := hexDigit?_of_isDecimal (by simpa using decimal.2)
      have bounded := ih decimal.1
      rw [read_concat, isDigit, Option.getD_some, List.length_append, List.length_singleton, Nat.pow_succ]
      omega

theorem tooLong_of_lt_pow {n : Int} {digits : Nat} (bounded : n.natAbs < 10 ^ digits)
    (short : digits ≤ digitLimit) : tooLong n = false := by
  unfold tooLong
  generalize digitLimit = limit at short ⊢
  rw [decide_eq_false_iff_not, Nat.not_le]
  exact Nat.lt_of_lt_of_le bounded (Nat.pow_le_pow_right (Nat.succ_pos 9) short)

theorem tooLong_of_read {cs : List Char} (decimal : cs.all isDecimal = true)
    (short : cs.length ≤ digitLimit) {n : Int} (size : n.natAbs = read 10 cs) :
    tooLong n = false := by
  refine tooLong_of_lt_pow ?_ short
  rw [size]
  exact read_lt_pow decimal

theorem tooLong_of_word {n : Int} (word : n.natAbs < 2 ^ 64) : tooLong n = false := by
  have twentyDigits : n.natAbs < 10 ^ 20 := by omega
  exact tooLong_of_lt_pow twentyDigits (by decide)

/-! ### Written digits -/

theorem hexDigit?_digitChar {d : Nat} (small : d < 16) : hexDigit? (digitChar d) = some d := by
  have all : ∀ d < 16, hexDigit? (digitChar d) = some d := by decide
  exact all d small

theorem isDecimal_digitChar {d : Nat} (small : d < 10) : isDecimal (digitChar d) = true := by
  have all : ∀ d < 10, isDecimal (digitChar d) = true := by decide
  exact all d small

theorem writeOnto_eq (base n : Nat) (written : List Char) :
    writeOnto base n written = write base n ++ written := by
  induction n using Nat.strongRecOn generalizing written with
  | _ n ih =>
      unfold write writeOnto
      split
      · rfl
      · have smaller : n / base < n := Nat.div_lt_self (by omega) (by omega)
        rw [ih _ smaller, ih _ smaller [_], List.append_assoc]
        rfl

theorem write_of_small {base n : Nat} (small : n < base) : write base n = [digitChar n] := by
  unfold write writeOnto
  rw [dif_pos (Or.inr small)]

theorem write_of_large {base n : Nat} (two : 1 < base) (large : base ≤ n) :
    write base n = write base (n / base) ++ [digitChar (n % base)] := by
  unfold write
  rw [writeOnto, dif_neg (by omega), writeOnto_eq]
  rfl

/-- Induction along the digits of a number, most significant first. -/
theorem digits_induction {base : Nat} (two : 1 < base) {motive : Nat → Prop}
    (small : ∀ n < base, motive n) (large : ∀ n, base ≤ n → motive (n / base) → motive n) (n : Nat) :
    motive n := by
  induction n using Nat.strongRecOn with
  | _ n ih =>
      by_cases isSmall : n < base
      · exact small n isSmall
      · have isLarge : base ≤ n := by omega
        exact large n isLarge (ih _ (Nat.div_lt_self (by omega) two))

section Digits

variable {base : Nat} (two : 1 < base)

include two

theorem write_ne_nil (n : Nat) : write base n ≠ [] := by
  by_cases small : n < base
  · rw [write_of_small small]
    exact List.cons_ne_nil _ _
  · rw [write_of_large two (by omega)]
    exact List.append_ne_nil_of_right_ne_nil _ (List.cons_ne_nil _ _)

theorem mem_write {n : Nat} {c : Char} (member : c ∈ write base n) : ∃ d < base, digitChar d = c := by
  induction n using digits_induction two with
  | small n isSmall =>
      rw [write_of_small isSmall] at member
      exact ⟨n, isSmall, (List.mem_singleton.mp member).symm⟩
  | large n isLarge ih =>
      rw [write_of_large two isLarge, List.mem_append, List.mem_singleton] at member
      rcases member with inFront | rfl
      · exact ih inFront
      · exact ⟨n % base, Nat.mod_lt _ (by omega), rfl⟩

theorem length_write_le {n digits : Nat} (positive : 0 < digits) (bounded : n < base ^ digits) :
    (write base n).length ≤ digits := by
  induction n using digits_induction two generalizing digits with
  | small n isSmall =>
      rw [write_of_small isSmall]
      exact positive
  | large n isLarge ih =>
      obtain ⟨others, rfl⟩ : ∃ others, digits = others + 1 := ⟨digits - 1, by omega⟩
      have enough : 0 < others := by
        by_contra none
        have single : others = 0 := by omega
        rw [single, Nat.zero_add, Nat.pow_one] at bounded
        omega
      rw [Nat.pow_succ] at bounded
      have shorter := ih enough (Nat.div_lt_of_lt_mul (by rwa [Nat.mul_comm]))
      rw [write_of_large two isLarge, List.length_append, List.length_singleton]
      omega

theorem length_padded {width n : Nat} (positive : 0 < width) (bounded : n < base ^ width) :
    (padded base width n).length = width := by
  have atMost := length_write_le two positive bounded
  rw [padded, List.length_append, List.length_replicate]
  omega

theorem mem_padded {width n : Nat} {c : Char} (member : c ∈ padded base width n) :
    ∃ d < base, digitChar d = c := by
  rcases List.mem_append.mp member with zero | digit
  · refine ⟨0, by omega, ?_⟩
    rw [List.eq_of_mem_replicate zero]
    rfl
  · exact mem_write two digit

variable (sixteen : base ≤ 16)

include sixteen

theorem read_write (n : Nat) : read base (write base n) = n := by
  induction n using digits_induction two with
  | small n isSmall =>
      rw [write_of_small isSmall, ← List.nil_append [digitChar n], read_concat,
        hexDigit?_digitChar (by omega), Option.getD_some]
      simp [read]
  | large n isLarge ih =>
      have digit : n % base < 16 := Nat.lt_of_lt_of_le (Nat.mod_lt n (by omega)) sixteen
      rw [write_of_large two isLarge, read_concat, ih, hexDigit?_digitChar digit, Option.getD_some]
      exact Nat.div_add_mod' n base

theorem head?_write_of_pos {n : Nat} (positive : 0 < n) : (write base n).head? ≠ some '0' := by
  induction n using digits_induction two with
  | small n isSmall =>
      intro isZero
      rw [write_of_small isSmall, List.head?_cons, Option.some.injEq] at isZero
      have digit := hexDigit?_digitChar (Nat.lt_of_lt_of_le isSmall sixteen)
      rw [isZero] at digit
      cases digit
      exact Nat.lt_irrefl 0 positive
  | large n isLarge ih =>
      have filled : (write base (n / base)).head?.isSome := List.isSome_head?.mpr (write_ne_nil two _)
      rw [write_of_large two isLarge, List.head?_append, Option.or_of_isSome filled]
      exact ih (Nat.div_pos isLarge (by omega))

theorem read_padded (width n : Nat) : read base (padded base width n) = n := by
  rw [padded, read_replicate_zero, read_write two sixteen]

end Digits

theorem isDecimal_of_mem_write {n : Nat} : ∀ c ∈ write 10 n, isDecimal c = true := by
  intro c member
  obtain ⟨d, small, rfl⟩ := mem_write (by decide) member
  exact isDecimal_digitChar small

end ReorgGuard.Numeral
