import Mathlib.Data.List.Basic
import ReorgGuard.Checkpoint.Hash
import ReorgGuard.Proofs.Numeral.Spelling

/-!
Block hashes as text.

Sixty-four hexadecimal digits are the text of exactly one hash, and two such texts are texts of one hash exactly if
they differ in nothing but the case of letters.  What is written of a hash is its text in lower case.
-/

namespace ReorgGuard.Checkpoint.Hash

/-! ### Octets as pairs of digits -/

theorem octets?_digits (octets : List UInt8) : octets? (octets.flatMap octetDigits) = some octets := by
  induction octets with
  | nil => rfl
  | cons octet rest ih =>
      have high : octet.toNat / 16 < 16 := by
        have bounded := octet.toNat_lt
        omega
      have low : octet.toNat % 16 < 16 := Nat.mod_lt _ (by decide)
      have same : (octet.toNat / 16 * 16 + octet.toNat % 16).toUInt8 = octet := by
        rw [Nat.div_add_mod']
        exact UInt8.ofNat_toNat
      simp only [List.flatMap_cons, octetDigits, List.cons_append, List.nil_append, octets?,
        Numeral.hexDigit?_digitChar high, Numeral.hexDigit?_digitChar low, ih, same, bind, Option.bind]

theorem length_flatMap_octetDigits (octets : List UInt8) :
    (octets.flatMap octetDigits).length = 2 * octets.length := by
  induction octets with
  | nil => rfl
  | cons octet rest ih =>
      rw [List.flatMap_cons, List.length_append, ih, List.length_cons]
      change 2 + 2 * rest.length = _
      omega

theorem octetDigits_of_digits {high low : Nat} (isHigh : high < 16) (isLow : low < 16) :
    octetDigits (high * 16 + low).toUInt8 = [Numeral.digitChar high, Numeral.digitChar low] := by
  have value : (high * 16 + low).toUInt8.toNat = high * 16 + low := by
    change (high * 16 + low) % 256 = _
    omega
  have quotient : (high * 16 + low) / 16 = high := by omega
  have remainder : (high * 16 + low) % 16 = low := by omega
  rw [octetDigits, value, quotient, remainder]

theorem toLower_of_octets? {cs : List Char} {octets : List UInt8} (read : octets? cs = some octets) :
    cs.map Char.toLower = octets.flatMap octetDigits := by
  induction cs using octets?.induct generalizing octets with
  | case1 =>
      cases read
      rfl
  | case2 high low rest ih =>
      rw [octets?] at read
      obtain ⟨h, isHigh, read⟩ := Option.bind_eq_some_iff.mp read
      obtain ⟨l, isLow, read⟩ := Option.bind_eq_some_iff.mp read
      obtain ⟨others, isRest, read⟩ := Option.bind_eq_some_iff.mp read
      cases read
      obtain ⟨smallHigh, lowerHigh⟩ := Numeral.toLower_of_hexDigit? isHigh
      obtain ⟨smallLow, lowerLow⟩ := Numeral.toLower_of_hexDigit? isLow
      rw [List.flatMap_cons, octetDigits_of_digits smallHigh smallLow, List.map_cons, List.map_cons, ih isRest,
        lowerHigh, lowerLow]
      rfl
  | case3 => cases read

theorem octets?_map_toLower (cs : List Char) : octets? (cs.map Char.toLower) = octets? cs := by
  induction cs using octets?.induct with
  | case1 => rfl
  | case2 high low rest ih =>
      simp only [List.map_cons, octets?, Numeral.hexDigit?_toLower, ih]
  | case3 => rfl

/-- Digits are read as the octets whose digits they are but for the case of letters. -/
theorem octets?_eq_some_iff {cs : List Char} {octets : List UInt8} :
    octets? cs = some octets ↔ cs.map Char.toLower = octets.flatMap octetDigits := by
  refine ⟨toLower_of_octets?, fun lower => ?_⟩
  rw [← octets?_map_toLower, lower, octets?_digits]

theorem hex_of_octets? {cs : List Char} {octets : List UInt8} (read : octets? cs = some octets) :
    ∀ c ∈ cs, Numeral.isHex c = true := by
  induction cs using octets?.induct generalizing octets with
  | case1 => exact List.forall_mem_nil _
  | case2 high low rest ih =>
      rw [octets?] at read
      obtain ⟨h, isHigh, read⟩ := Option.bind_eq_some_iff.mp read
      obtain ⟨l, isLow, read⟩ := Option.bind_eq_some_iff.mp read
      obtain ⟨others, isRest, _⟩ := Option.bind_eq_some_iff.mp read
      rw [List.forall_mem_cons, List.forall_mem_cons]
      exact ⟨Option.isSome_of_eq_some isHigh, Option.isSome_of_eq_some isLow, ih isRest⟩
  | case3 => cases read

theorem octets?_of_hex {cs : List Char} {octets : Nat} (size : cs.length = 2 * octets)
    (hex : ∀ c ∈ cs, Numeral.isHex c = true) :
    ∃ found, octets? cs = some found ∧ found.length = octets := by
  induction octets generalizing cs with
  | zero =>
      rw [List.length_eq_zero_iff.mp size]
      exact ⟨[], rfl, rfl⟩
  | succ fewer ih =>
      match cs with
      | [] => cases size
      | [_] => simp at size; omega
      | high :: low :: rest =>
          simp only [List.forall_mem_cons] at hex
          rcases Option.isSome_iff_exists.mp hex.1 with ⟨h, readHigh⟩
          rcases Option.isSome_iff_exists.mp hex.2.1 with ⟨l, readLow⟩
          obtain ⟨found, readRest, length⟩ := ih (by simp at size; omega) hex.2.2
          refine ⟨(h * 16 + l).toUInt8 :: found, ?_, by rw [List.length_cons, length]⟩
          simp [octets?, readHigh, readLow, readRest]

/-! ### Hashes -/

/-- The characters are sixty-four hexadecimal digits, those of the hash but for the case of letters. -/
structure Spelled (cs : List Char) (hash : Hash) : Prop where
  size : cs.length = 64
  hex : ∀ c ∈ cs, Numeral.isHex c = true
  lower : cs.map Char.toLower = hash.digits

theorem length_digits (hash : Hash) : hash.digits.length = 64 := by
  rw [digits, length_flatMap_octetDigits, hash.size]

theorem spelled_of_lower {cs : List Char} {hash : Hash} (lower : cs.map Char.toLower = hash.digits) :
    Spelled cs hash := by
  refine ⟨?_, hex_of_octets? (octets?_eq_some_iff.mpr lower), lower⟩
  rw [← hash.length_digits, ← lower, List.length_map]

theorem spelled_digits (hash : Hash) : Spelled hash.digits hash :=
  spelled_of_lower (toLower_of_octets? (octets?_digits hash.octets))

theorem ofText_eq_ok_iff {s : String} {hash : Hash} : ofText s = .ok hash ↔ Spelled s.toList hash := by
  unfold ofText
  dsimp only
  constructor
  · intro read
    split at read
    · cases read
    · split at read
      · rename_i octets isOctets
        unfold ofOctets at read
        split at read <;> cases read
        exact spelled_of_lower (toLower_of_octets? isOctets)
      · cases read
  · intro spelled
    have read : octets? s.toList = some hash.octets := octets?_eq_some_iff.mpr spelled.lower
    simp only [spelled.size, read, ne_eq, not_true_eq_false, if_false, ofOctets, hash.size, dif_pos]

/-- The digits of a block hash are read as that hash. -/
theorem ofText_text (hash : Hash) : ofText hash.text = .ok hash := by
  rw [ofText_eq_ok_iff, text, String.toList_ofList]
  exact hash.spelled_digits

theorem ofText_of_hex {cs : List Char} (size : cs.length = 64)
    (hex : ∀ c ∈ cs, Numeral.isHex c = true) : ∃ hash, ofText (String.ofList cs) = .ok hash := by
  obtain ⟨octets, found, length⟩ := @octets?_of_hex cs 32 size hex
  refine ⟨⟨octets, length⟩, ?_⟩
  rw [ofText_eq_ok_iff, String.toList_ofList]
  exact ⟨size, hex, octets?_eq_some_iff.mp found⟩

theorem ofText_isOk_iff (s : String) :
    (∃ hash, ofText s = .ok hash) ↔
      s.toList.length = 64 ∧ ∀ c ∈ s.toList, Numeral.isHex c = true := by
  constructor
  · intro read
    rcases read with ⟨hash, read⟩
    have spelled := ofText_eq_ok_iff.mp read
    exact ⟨spelled.size, spelled.hex⟩
  · intro written
    rcases written with ⟨size, hex⟩
    have read := ofText_of_hex size hex
    rwa [String.ofList_toList] at read

end ReorgGuard.Checkpoint.Hash
