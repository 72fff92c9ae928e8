import ReorgGuard.Proofs.Source.FeedRecords

/-!
What the offer of one checkpoint leads to.

An offer that is accepted puts the hash, and the difficulty if there is one, at the height and leaves all
other heights alone; repeating it changes nothing more.  Any other offer leaves the table as it was.

An open table answers every offer with yes or no, but for numbers beyond the digit limit: such a number
is neither read nor named in a message, and the offer fails.  At which offers this happens is said exactly.

The record that a refusal writes is left aside.
-/

namespace ReorgGuard.Checkpoint

theorem Pin.ReadFrom.unique {first second : Pin} {height hash difficulty : Value}
    (one : first.ReadFrom height hash difficulty) (other : second.ReadFrom height hash difficulty) :
    first = second := by
  rcases first with ⟨h, x, d⟩
  rcases second with ⟨h', x', d'⟩
  have sameHeight : h = h' := Except.ok.inj (one.readHeight.symm.trans other.readHeight)
  have sameHash : x = x' := Except.ok.inj (one.readHash.symm.trans other.readHash)
  have sameDifficulty : d = d' := Except.ok.inj (one.readDifficulty.symm.trans other.readDifficulty)
  rw [sameHeight, sameHash, sameDifficulty]

theorem supply_again {α : Type} (entries : List (Nat × α)) (key : Nat) (given : Option α) :
    supply (supply entries key given) key given = supply entries key given := by
  cases given with
  | none => rfl
  | some value =>
      apply supply_of_present
      exact (mem_supply_keys_iff entries key key value).mpr (Or.inl rfl)

theorem or_some_of_same {α : Type} {old : Option α} {given : α}
    (same : ∀ known, old = some known → known = given) : old.or (some given) = some given := by
  cases old with
  | none => rfl
  | some known => rw [Option.some_or, same known rfl]

theorem Offer.answer_eq_true_iff {offer : Offer} :
    offer.answer = .ok true ↔ ∃ next, offer = .accepted next := by
  cases offer <;> simp [answer]

namespace Table

/-- One table is another with a checkpoint put in. -/
structure PutsIn (before : Table) (offered : Pin) (after : Table) : Prop where
  hash : ∀ height, after.hash? height =
    if height = offered.height then some offered.hash else before.hash? height
  difficulty : ∀ height, after.difficulty? height =
    if height = offered.height then offered.difficulty.or (before.difficulty? height)
    else before.difficulty? height
  heights : ∀ height, height ∈ after.heights ↔ height = offered.height ∨ height ∈ before.heights
  ascending : after.heights.Pairwise (· < ·)
  sameFrozen : after.frozen = before.frozen

section Admitted

variable {table : Table} {offered : Pin} (admitted : table.Admits offered)

include admitted

theorem Admits.putsIn (shaped : table.Shaped) (inRange : offered.height ≤ Checkpoint.maxHeight) :
    table.PutsIn offered (table.write offered) := by
  have grown : (table.write offered).Shaped := shaped.write offered inRange
  refine ⟨fun height => ?_, fun height => ?_, fun height => ?_, grown.ascending, rfl⟩
  · rw [hash?_write]
    by_cases here : height = offered.height
    · rw [if_pos here, if_pos here, here, or_some_of_same admitted.sameHash]
    · rw [if_neg here, if_neg here, Option.or_none]
  · rw [difficulty?_write]
    by_cases here : height = offered.height
    · rw [if_pos here, if_pos here, here]
      cases given : offered.difficulty with
      | none => rw [Option.or_none, Option.none_or]
      | some d =>
          rw [Option.some_or]
          exact or_some_of_same fun known found => admitted.sameDifficulty known d found given
    · rw [if_neg here, if_neg here, Option.or_none]
  · rw [grown.mem_heights_iff, shaped.mem_heights_iff]
    exact mem_supply_keys_iff table.points offered.height height offered.hash

theorem Admits.after_write : (table.write offered).Admits offered := by
  constructor
  · intro pinned found
    rw [hash?_write, if_pos rfl, or_some_of_same admitted.sameHash] at found
    exact (Option.some.inj found).symm
  · intro known given found isGiven
    have same : ∀ old, table.difficulty? offered.height = some old → old = given := fun old isOld =>
      admitted.sameDifficulty old given isOld isGiven
    rw [difficulty?_write, if_pos rfl, isGiven, or_some_of_same same] at found
    exact (Option.some.inj found).symm

end Admitted

theorem write_again (table : Table) (offered : Pin) :
    (table.write offered).write offered = table.write offered := by
  have pinned : ((table.write offered).hash? offered.height).isSome := by
    rw [hash?_write, if_pos rfl, Option.isSome_or, Option.isSome_some, Bool.or_true]
  obtain ⟨hash, found⟩ := Option.isSome_iff_exists.mp pinned
  rw [write_of_pinned found]
  change { table.write offered with
    difficulties := supply (supply table.difficulties offered.height offered.difficulty)
      offered.height offered.difficulty } = table.write offered
  rw [supply_again]
  rfl

theorem add_answers_true_iff {table : Table} {height hash difficulty : Value} :
    (table.add height hash difficulty).answer = .ok true ↔ table.frozen = false ∧
      ∃ offered : Pin, offered.ReadFrom height hash difficulty ∧ table.Admits offered := by
  rw [Offer.answer_eq_true_iff]
  constructor
  · intro accepted
    rcases accepted with ⟨next, added⟩
    obtain ⟨opened, offered, read, admitted, _⟩ := add_eq_accepted_iff.mp added
    exact ⟨opened, offered, read, admitted⟩
  · intro both
    rcases both with ⟨opened, offered, read, admitted⟩
    exact ⟨_, add_eq_accepted_iff.mpr ⟨opened, offered, read, admitted, rfl⟩⟩

/-- An offer is accepted exactly if its three values can be read and nothing that is pinned contradicts them.
An accepted checkpoint is put in, and once more without any effect; of every other one nothing is. -/
theorem offer_is_all_or_nothing (operations : List Operation) (height hash difficulty : Value) :
    let table := empty.performAll operations
    let offer := table.add height hash difficulty
    let after := offer.table table
    (offer.answer = .ok true ↔ table.frozen = false ∧
      ∃ offered : Pin, offered.ReadFrom height hash difficulty ∧ table.Admits offered) ∧
    (∀ offered : Pin, offered.ReadFrom height hash difficulty → offer.answer = .ok true →
      table.PutsIn offered after) ∧
    (offer.answer ≠ .ok true → after = table) ∧
    (offer.answer = .ok true → after.add height hash difficulty = .accepted after) := by
  intro table offer after
  have shaped : table.Shaped := performAll_shaped shaped_empty operations
  refine ⟨add_answers_true_iff, fun offered read yes => ?_, fun no => ?_, fun yes => ?_⟩
  · obtain ⟨next, added⟩ := Offer.answer_eq_true_iff.mp yes
    obtain ⟨_, accepted, sameRead, admitted, written⟩ := add_eq_accepted_iff.mp added
    have isNext : after = next := congrArg (Offer.table table) added
    rw [isNext, ← written, read.unique sameRead]
    exact admitted.putsIn shaped (Height.ofValue_le sameRead.readHeight)
  · change offer.table table = table
    cases outcome : offer with
    | accepted next => exact absurd (Offer.answer_eq_true_iff.mpr ⟨next, outcome⟩) no
    | refused why => rfl
    | failed error => rfl
  · obtain ⟨next, added⟩ := Offer.answer_eq_true_iff.mp yes
    obtain ⟨opened, offered, read, admitted, written⟩ := add_eq_accepted_iff.mp added
    have isNext : after = next := congrArg (Offer.table table) added
    rw [isNext, ← written]
    exact add_eq_accepted_iff.mpr ⟨opened, offered, read, admitted.after_write, table.write_again offered⟩

end Table

/-! ### Numbers beyond the digit limit -/

def OverlongText (s : String) : Prop :=
  (Text.trim s.toList).all Numeral.isDecimal = true ∧ Numeral.digitLimit < (Text.trim s.toList).length

/-- The value is no height, but too long to be named as a faulty one. -/
def Height.Beyond : Value → Prop
  | .int n => Numeral.tooLong n = true
  | .text s => OverlongText s
  | _ => False

/-- A difficulty may be of any size; only below zero is its length of any account. -/
def Difficulty.Beyond : Value → Prop
  | .int n => n < 0 ∧ Numeral.tooLong n = true
  | .text s => OverlongText s
  | _ => False

theorem Height.ofInt_limit_iff (n : Int) :
    (∃ limit, Height.ofInt n = .error (.limit limit)) ↔ Numeral.tooLong n = true := by
  unfold Height.ofInt
  split
  · rename_i inRange
    have short : Numeral.tooLong n = false := by
      apply Numeral.tooLong_of_word
      have bounded : n ≤ 2 ^ 64 - 1 := inRange.2
      omega
    simp [short]
  · cases Numeral.tooLong n <;> simp

theorem Height.ofValue_limit_iff (value : Value) :
    (∃ limit, Height.ofValue value = .error (.limit limit)) ↔ Height.Beyond value := by
  cases value with
  | int n => exact Height.ofInt_limit_iff n
  | text s =>
      have read := Height.ofText_limit_iff s.toList
      rw [String.ofList_toList] at read
      exact read
  | _ => simp [Height.ofValue, Height.Beyond]

namespace Difficulty

theorem afterMark?_of_decimal {cs : List Char} (decimal : cs.all Numeral.isDecimal = true) :
    afterMark? cs = none := by
  unfold afterMark?
  split
  · rename_i x rest
    rw [if_neg]
    intro isMark
    rw [List.all_cons, List.all_cons, Bool.and_eq_true, Bool.and_eq_true] at decimal
    rcases isMark with rfl | rfl <;> exact absurd decimal.2.1 (by decide)
  · rfl

theorem ofText_limit_iff (s : String) :
    (∃ limit, ofText s = .error (.limit limit)) ↔ OverlongText s := by
  unfold ofText OverlongText
  dsimp only
  cases shape : Text.trim s.toList with
  | nil => simp
  | cons first rest =>
      rw [List.isEmpty_cons, if_neg Bool.false_ne_true]
      by_cases decimal : (first :: rest).all Numeral.isDecimal = true
      · rw [afterMark?_of_decimal decimal, decimal]
        by_cases long : Numeral.digitLimit < (first :: rest).length
        · rw [if_pos long]
          simpa using long
        · rw [if_neg long]
          simpa using long
      · rw [Bool.not_eq_true] at decimal
        rw [decimal]
        cases afterMark? (first :: rest) with
        | none => simp
        | some digits =>
            dsimp only
            split <;> simp

theorem ofValue_limit_iff (value : Value) :
    (∃ limit, ofValue value = .error (.limit limit)) ↔ Beyond value := by
  cases value with
  | int n =>
      unfold ofValue Beyond
      by_cases positive : 0 ≤ n
      · have notBelow : ¬n < 0 := by omega
        simp [positive, notBelow]
      · have below : n < 0 := by omega
        by_cases tooLong : Numeral.tooLong n = true <;> simp [positive, below, tooLong]
  | text s => exact ofText_limit_iff s
  | _ => simp [ofValue, Beyond]

end Difficulty

namespace Table

/-- The height is beyond the digit limit, or it and the hash can be read and the difficulty is beyond it. -/
def Unanswerable (height hash difficulty : Value) : Prop :=
  Height.Beyond height ∨
    (∃ h, Height.ofValue height = .ok h) ∧ (∃ x, Hash.ofValue hash = .ok x) ∧ Difficulty.Beyond difficulty

section Open

variable {table : Table} {height hash difficulty : Value} (opened : table.frozen = false)

include opened

theorem add_of_unanswerable (beyond : Unanswerable height hash difficulty) :
    ∃ limit, (table.add height hash difficulty).answer = .error (.limit limit) := by
  unfold add
  rw [opened, if_neg Bool.false_ne_true]
  rcases beyond with tooHigh | ⟨⟨h, readHeight⟩, ⟨x, readHash⟩, tooDifficult⟩
  · obtain ⟨limit, broken⟩ := (Height.ofValue_limit_iff height).mpr tooHigh
    exact ⟨limit, by rw [broken]; rfl⟩
  · obtain ⟨limit, broken⟩ := (Difficulty.ofValue_limit_iff difficulty).mpr tooDifficult
    exact ⟨limit, by rw [readHeight, readHash, broken]; rfl⟩

theorem add_of_answerable (within : ¬Unanswerable height hash difficulty) :
    ∃ verdict, (table.add height hash difficulty).answer = .ok verdict := by
  unfold add
  rw [opened, if_neg Bool.false_ne_true]
  cases readHeight : Height.ofValue height with
  | error why =>
      cases why with
      | fault fault => exact ⟨false, rfl⟩
      | limit limit => exact absurd (Or.inl ((Height.ofValue_limit_iff height).mp ⟨limit, readHeight⟩)) within
  | ok h =>
      dsimp only
      cases readHash : Hash.ofValue hash with
      | error fault => exact ⟨false, rfl⟩
      | ok x =>
          dsimp only
          cases readDifficulty : Difficulty.ofValue difficulty with
          | error why =>
              cases why with
              | fault fault => exact ⟨false, rfl⟩
              | limit limit =>
                  have tooDifficult := (Difficulty.ofValue_limit_iff difficulty).mp ⟨limit, readDifficulty⟩
                  exact absurd (Or.inr ⟨⟨h, readHeight⟩, ⟨x, readHash⟩, tooDifficult⟩) within
          | ok d =>
              dsimp only
              cases table.accept ⟨h, x, d⟩ with
              | error why => exact ⟨false, rfl⟩
              | ok next => exact ⟨true, rfl⟩

/-- An open table says yes or no to an offer exactly if no number beyond the digit limit has to be read or named
for it, and no to everything that cannot be read.  Otherwise the offer ends in the limit. -/
theorem add_answers_iff :
    let answer := (table.add height hash difficulty).answer
    ((∃ verdict, answer = .ok verdict) ↔ ¬Unanswerable height hash difficulty) ∧
    ((∃ limit, answer = .error (.limit limit)) ↔ Unanswerable height hash difficulty) ∧
    (¬Unanswerable height hash difficulty →
      (¬∃ offered : Pin, offered.ReadFrom height hash difficulty) → answer = .ok false) := by
  intro answer
  by_cases beyond : Unanswerable height hash difficulty
  · obtain ⟨limit, broken⟩ := add_of_unanswerable opened beyond
    refine ⟨iff_of_false ?_ (not_not_intro beyond), iff_of_true ⟨limit, broken⟩ beyond,
      fun within => absurd beyond within⟩
    intro answered
    rcases answered with ⟨verdict, said⟩
    cases broken.symm.trans said
  · obtain ⟨verdict, said⟩ := add_of_answerable opened beyond
    refine ⟨iff_of_true ⟨verdict, said⟩ beyond, iff_of_false ?_ beyond, fun _ unread => ?_⟩
    · intro broken
      rcases broken with ⟨limit, escaped⟩
      cases said.symm.trans escaped
    · cases verdict with
      | false => exact said
      | true =>
          obtain ⟨_, offered, read, _⟩ := add_answers_true_iff.mp said
          exact absurd ⟨offered, read⟩ unread

end Open

theorem add_negative_height_refused :
    empty.frozen = false ∧ (empty.add (.int (-1)) (.octets .fixed (List.replicate 32 7)) .null).answer = .ok false := by
  refine ⟨rfl, (add_answers_iff rfl).2.2 ?_ ?_⟩
  · intro beyond
    rcases beyond with tooLong | ⟨⟨h, read⟩, _⟩
    · exact absurd (Numeral.tooLong_of_word (by decide)) (ne_false_of_eq_true tooLong)
    · cases (Height.ofInt_le read).2
  · intro readable
    rcases readable with ⟨offered, read⟩
    cases (Height.ofInt_le read.readHeight).2

theorem add_unanswered_on_long_height :
    let height := Value.text (String.ofList (List.replicate 4301 '1'))
    let hash := Value.text (String.ofList (List.replicate 64 'a'))
    empty.frozen = false ∧ ¬∃ verdict, (empty.add height hash .null).answer = .ok verdict := by
  intro height hash
  refine ⟨rfl, fun answered => ?_⟩
  rcases answered with ⟨verdict, said⟩
  have tooLong : OverlongText (String.ofList (List.replicate 4301 '1')) := by
    unfold OverlongText
    rw [String.toList_ofList]
    exact decimal_ones (by decide)
  have beyond : Unanswerable height hash .null := Or.inl tooLong
  obtain ⟨limit, broken⟩ := add_of_unanswerable (rfl : empty.frozen = false) beyond
  cases broken.symm.trans said

end Table

end ReorgGuard.Checkpoint
