import ReorgGuard.Checkpoint.Hardcoded
import ReorgGuard.Proofs.Hash
import ReorgGuard.Proofs.Table.Growth

/-!
The hardcoded checkpoints can be used.

Every one of them can be read, and their heights ascend.  Seeding the empty table therefore never
fails and pins exactly the hardcoded checkpoints.  That they are the right ones is not claimed here.
-/

namespace ReorgGuard

/-! ### Text whose characters were checked by their codes -/

namespace Numeral

def isHexCode (c : Char) : Bool :=
  Nat.ble 48 c.toNat && Nat.ble c.toNat 57 || Nat.ble 97 c.toNat && Nat.ble c.toNat 102

theorem isHex_of_code {c : Char} (code : isHexCode c = true) : isHex c = true := by
  unfold isHexCode at code
  rw [Bool.or_eq_true, Bool.and_eq_true, Bool.and_eq_true] at code
  simp only [Nat.ble_eq] at code
  unfold isHex hexDigit?
  rcases code with ⟨low, high⟩ | ⟨low, high⟩
  · have decimal : '0' ≤ c ∧ c ≤ '9' := ⟨low, high⟩
    rw [if_pos decimal]
    rfl
  · have letter : 'a' ≤ c ∧ c ≤ 'f' := ⟨low, high⟩
    by_cases decimal : '0' ≤ c ∧ c ≤ '9'
    · rw [if_pos decimal]
      rfl
    · rw [if_neg decimal, if_pos letter]
      rfl

theorem isBlank_of_code {c : Char} (code : isHexCode c = true) : Text.isBlank c = false := by
  unfold isHexCode at code
  rw [Bool.or_eq_true, Bool.and_eq_true, Bool.and_eq_true] at code
  simp only [Nat.ble_eq] at code
  have low : 48 ≤ c.toNat := by omega
  have high : c.toNat ≤ 102 := by omega
  simp only [Text.isBlank, Text.isWhite, Bool.or_eq_false_iff, Bool.and_eq_false_iff,
    decide_eq_false_iff_not, beq_eq_false_iff_ne]
  omega

end Numeral

namespace Checkpoint

theorem Difficulty.ofText_of_hex {digits : List Char} (filled : digits ≠ [])
    (codes : ∀ c ∈ digits, Numeral.isHexCode c = true) :
    Difficulty.ofText (String.ofList ('0' :: 'x' :: digits)) = .ok (some (Numeral.read 16 digits)) := by
  have first (c : Char) (atHead : ('0' :: 'x' :: digits).head? = some c) : Text.isBlank c = false := by
    cases atHead
    decide
  have last (c : Char) (atEnd : ('0' :: 'x' :: digits).getLast? = some c) :
      Text.isBlank c = false := by
    refine Numeral.isBlank_of_code (codes c ?_)
    rw [List.getLast?_cons_cons, List.getLast?_cons] at atEnd
    obtain ⟨end', found⟩ := Option.isSome_iff_exists.mp (List.getLast?_isSome.mpr filled)
    rw [found] at atEnd
    cases atEnd
    exact List.mem_of_getLast? found
  have hex : digits.all Numeral.isHex = true :=
    List.all_eq_true.mpr fun c member => Numeral.isHex_of_code (codes c member)
  have someDigits : digits.isEmpty = false := List.isEmpty_eq_false_iff.mpr filled
  unfold Difficulty.ofText
  rw [String.toList_ofList, Text.trim, Text.trimBy_of_ends first last]
  simp [Difficulty.afterMark?, hex, someDigits]

/-! ### The hardcoded checkpoints -/

/-- The checkpoint that a hardcoded one stands for, if its texts can be read. -/
def Hardcoded.pin? (point : Hardcoded) : Option Pin :=
  match Height.ofInt point.height, Hash.ofText point.hash, Difficulty.ofText point.difficulty with
  | .ok height, .ok hash, .ok difficulty => some ⟨height, hash, difficulty⟩
  | _, _, _ => none

def hardcodedPins (network : Network) : List Pin :=
  (hardcoded network).filterMap Hardcoded.pin?

structure Hardcoded.Readable (point : Hardcoded) : Prop where
  read : ∃ pin, point.pin? = some pin

theorem Hardcoded.readFrom_of_pin? {point : Hardcoded} {pin : Pin} (read : point.pin? = some pin) :
    pin.ReadFrom (.int point.height) (.text point.hash) (.text point.difficulty) ∧
      pin.height = point.height := by
  unfold pin? at read
  split at read
  · rename_i height hash difficulty readHeight readHash readDifficulty
    cases read
    exact ⟨⟨readHeight, readHash, readDifficulty⟩, Int.ofNat_inj.mp (Height.ofInt_le readHeight).2⟩
  · cases read

private theorem read_of_codes (height : Nat) (cs digits : List Char)
    (checked : (Nat.ble height 16500 && (cs.length == 64 && cs.all Numeral.isHexCode)
      && (!digits.isEmpty && digits.all Numeral.isHexCode)) = true) :
    ∃ pin, Hardcoded.pin? ⟨height, String.ofList cs, String.ofList ('0' :: 'x' :: digits)⟩ = some pin ∧
      pin.difficulty.isSome = true := by
  simp only [Bool.and_eq_true, Nat.ble_eq, beq_iff_eq, Bool.not_eq_true', List.all_eq_true,
    List.isEmpty_eq_false_iff] at checked
  rcases checked with ⟨⟨low, size, codes⟩, filled, difficultyCodes⟩
  obtain ⟨hash, readHash⟩ :=
    Hash.ofText_of_hex size fun c member => Numeral.isHex_of_code (codes c member)
  have inRange : (0 : Int) ≤ height ∧ (height : Int) ≤ maxHeight := by
    have small : 16500 ≤ maxHeight := by decide
    omega
  refine ⟨⟨height, hash, some (Numeral.read 16 digits)⟩, ?_, rfl⟩
  simp only [Hardcoded.pin?, Height.ofInt, if_pos inRange, readHash,
    Difficulty.ofText_of_hex filled difficultyCodes, Int.toNat_natCast]

/-- Every hardcoded checkpoint can be read, and comes with a difficulty. -/
theorem hardcoded_read (network : Network) :
    ∀ point ∈ hardcoded network, ∃ pin, point.pin? = some pin ∧ pin.difficulty.isSome = true := by
  cases network <;>
    simp only [hardcoded, List.forall_mem_cons, List.not_mem_nil, false_implies, implies_true,
      and_true] <;>
    and_intros <;>
    apply read_of_codes <;>
    decide +kernel

theorem hardcoded_readable (network : Network) : ∀ point ∈ hardcoded network, point.Readable := by
  intro point member
  obtain ⟨pin, read, _⟩ := hardcoded_read network point member
  exact ⟨⟨pin, read⟩⟩

theorem hardcoded_ascending (network : Network) :
    ((hardcoded network).map Hardcoded.height).Pairwise (· < ·) := by
  cases network <;> decide +kernel

theorem map_height_filterMap_pin? {points : List Hardcoded}
    (readable : ∀ point ∈ points, point.Readable) :
    (points.filterMap Hardcoded.pin?).map Pin.height = points.map Hardcoded.height := by
  induction points with
  | nil => rfl
  | cons point rest ih =>
      rw [List.forall_mem_cons] at readable
      rcases readable.1.read with ⟨pin, read⟩
      rw [List.filterMap_cons_some read, List.map_cons, List.map_cons, ih readable.2,
        (Hardcoded.readFrom_of_pin? read).2]

theorem hardcodedPins_ascending (network : Network) :
    (hardcodedPins network).Pairwise (fun low high => low.height < high.height) := by
  rw [← List.pairwise_map (f := Pin.height) (R := (· < ·)), hardcodedPins,
    map_height_filterMap_pin? (hardcoded_readable network)]
  exact hardcoded_ascending network

def hardcodedPoints (network : Network) : List (Nat × Hash) :=
  (hardcodedPins network).map fun pin => (pin.height, pin.hash)

def hardcodedDifficulties (network : Network) : List (Nat × Nat) :=
  (hardcodedPins network).filterMap fun pin => pin.difficulty.map fun d => (pin.height, d)

theorem hardcodedPoints_nodup (network : Network) : ((hardcodedPoints network).map Prod.fst).Nodup := by
  rw [hardcodedPoints, List.map_map, List.Nodup, List.pairwise_map]
  exact (hardcodedPins_ascending network).imp Nat.ne_of_lt

theorem hardcodedDifficulties_nodup (network : Network) :
    ((hardcodedDifficulties network).map Prod.fst).Nodup := by
  rw [hardcodedDifficulties, List.Nodup, List.pairwise_map]
  refine (hardcodedPins_ascending network).filterMap _ fun low high below first atLow second atHigh => ?_
  obtain ⟨_, _, rfl⟩ := Option.map_eq_some_iff.mp atLow
  rcases Option.map_eq_some_iff.mp atHigh with ⟨_, _, rfl⟩
  exact Nat.ne_of_lt below

/-! ### Seeding -/

namespace Table

theorem seedFrom_of_admits (network : Network) {table : Table} {point : Hardcoded} {pin : Pin}
    (opened : table.frozen = false) (read : point.pin? = some pin) (admitted : table.Admits pin)
    (rest : List Hardcoded) :
    table.seedFrom network (point :: rest) = (table.write pin).seedFrom network rest := by
  have added := add_eq_accepted_iff.mpr ⟨opened, pin, (Hardcoded.readFrom_of_pin? read).1, admitted, rfl⟩
  rw [seedFrom, added]

/-- Ascending checkpoints that are all admitted are all written, and seeding goes on behind them. -/
theorem seedFrom_append (network : Network) {table : Table} {points : List Hardcoded}
    (opened : table.frozen = false) (readable : ∀ point ∈ points, point.Readable)
    (ascending : (points.map Hardcoded.height).Pairwise (· < ·))
    (admitted : ∀ pin ∈ points.filterMap Hardcoded.pin?, table.Admits pin) (rest : List Hardcoded) :
    table.seedFrom network (points ++ rest) =
      (table.writeAll (points.filterMap Hardcoded.pin?)).seedFrom network rest := by
  -- Those that are still to come stay admitted, since each written height is below theirs.
  induction points generalizing table with
  | nil => rfl
  | cons point others ih =>
      rw [List.forall_mem_cons] at readable
      rw [List.map_cons, List.pairwise_cons] at ascending
      obtain ⟨pin, read⟩ := readable.1.read
      rw [List.filterMap_cons_some read] at admitted ⊢
      rw [List.forall_mem_cons] at admitted
      rw [List.cons_append, seedFrom_of_admits network opened read admitted.1]
      apply ih
      · exact opened
      · exact readable.2
      · exact ascending.2
      · intro other member
        apply (admitted.2 other member).write_of_ne
        obtain ⟨later, isLater, readLater⟩ := List.mem_filterMap.mp member
        have above := ascending.1 later.height (List.mem_map_of_mem isLater)
        rw [(Hardcoded.readFrom_of_pin? readLater).2, (Hardcoded.readFrom_of_pin? read).2]
        omega

theorem seed_of_admits (network : Network) {table : Table} (opened : table.frozen = false)
    (admitted : ∀ pin ∈ hardcodedPins network, table.Admits pin) :
    (table.seed network).answer = .ok () ∧ (table.seed network).table = table.writeAll (hardcodedPins network) := by
  have run := seedFrom_append network opened (hardcoded_readable network) (hardcoded_ascending network) admitted []
  rw [List.append_nil] at run
  unfold seed
  rw [run]
  exact ⟨rfl, rfl⟩

theorem admits_empty (pin : Pin) : empty.Admits pin := by
  constructor
  · intro pinned impossible
    cases impossible
  · intro known given impossible
    cases impossible

theorem seed_empty (network : Network) :
    (empty.seed network).answer = .ok () ∧
      (empty.seed network).table = empty.writeAll (hardcodedPins network) :=
  seed_of_admits network rfl fun pin _ => admits_empty pin

theorem seed_shaped (network : Network) : (empty.seed network).table.Shaped :=
  (seedFrom_grew network empty _).shaped shaped_empty

theorem seed_opened (network : Network) : (empty.seed network).table.frozen = false :=
  (seedFrom_grew network empty _).frozen_eq

theorem hash?_seed_eq_some_iff {network : Network} {height : Nat} {hash : Hash} :
    (empty.seed network).table.hash? height = some hash ↔
      (height, hash) ∈ hardcodedPoints network := by
  rw [(seed_empty network).2, hash?_writeAll]
  exact lookup_eq_some_iff_mem (hardcodedPoints_nodup network) height hash

theorem difficulty?_seed_eq_some_iff {network : Network} {height difficulty : Nat} :
    (empty.seed network).table.difficulty? height = some difficulty ↔
      (height, difficulty) ∈ hardcodedDifficulties network := by
  rw [(seed_empty network).2, difficulty?_writeAll]
  exact lookup_eq_some_iff_mem (hardcodedDifficulties_nodup network) height difficulty

end Table

end Checkpoint

end ReorgGuard
