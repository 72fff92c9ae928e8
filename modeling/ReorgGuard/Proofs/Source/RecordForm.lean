import ReorgGuard.Proofs.Hash
import ReorgGuard.Proofs.Source.FeedRecords
import ReorgGuard.Proofs.Text.Blank

/-!
The form of feed records.

A record is a height in decimal digits, a colon and a hash in hexadecimal digits, height and hash each between
blanks.  Records of this form are read as what they denote, all others are dropped, and of a list of records those
of this form are kept in order.  The one thing that breaks this off is a height of more digits than are ever turned
into a number.

What is written to the journal about dropped records is left aside.
-/

namespace ReorgGuard

theorem Text.ne_colon_of_isBlank {c : Char} (blank : isBlank c = true) : c ≠ ':' := by
  rintro rfl
  cases blank

namespace Checkpoint

/-! ### Heights in decimal digits -/

structure Height.Spelled (digits : List Char) (height : Nat) : Prop where
  filled : digits ≠ []
  decimal : digits.all Numeral.isDecimal = true
  value : Numeral.read 10 digits = height
  inRange : height ≤ maxHeight

namespace Height

variable {digits : List Char} {height : Nat}

theorem Spelled.hex (spelled : Spelled digits height) : ∀ c ∈ digits, Numeral.isHex c = true :=
  fun c member => Numeral.isHex_of_isDecimal (List.all_eq_true.mp spelled.decimal c member)

theorem Spelled.visible (spelled : Spelled digits height) : ∀ c ∈ digits, Text.isBlank c = false :=
  fun c member => (Numeral.visible_of_isHex (spelled.hex c member)).1

theorem ofText_eq_ok_iff {s : String} : ofText s = .ok height ↔
    ∃ digits, Text.Framed digits s.toList ∧ Spelled digits height ∧ digits.length ≤ Numeral.digitLimit := by
  constructor
  · intro read
    unfold ofText at read
    dsimp only at read
    split at read
    · cases read
    · rename_i kept
      split at read
      · cases read
      · rename_i short
        obtain ⟨inRange, value⟩ := ofInt_le read
        have filled : Text.trim s.toList ≠ [] := by
          intro none
          rw [none] at kept
          exact kept rfl
        exact ⟨Text.trim s.toList, Text.framed_trim s.toList,
          ⟨filled, Numeral.all_isDecimal_of_not_refused kept, (Int.ofNat_inj.mp value).symm, inRange⟩,
          Nat.le_of_not_lt short⟩
  · intro written
    rcases written with ⟨digits, framed, spelled, short⟩
    unfold ofText
    rw [Text.trim_of_framed spelled.visible framed]
    dsimp only
    rw [List.isEmpty_eq_false_iff.mpr spelled.filled, spelled.decimal, if_neg (by decide),
      if_neg (Nat.not_lt.mpr short), spelled.value, ofInt_natCast spelled.inRange]

theorem spelled_write (inRange : height ≤ maxHeight) : Spelled (Numeral.write 10 height) height :=
  ⟨Numeral.write_ne_nil (by decide) height, List.all_eq_true.mpr Numeral.isDecimal_of_mem_write,
    Numeral.read_write (by decide) (by decide) height, inRange⟩

end Height

namespace FeedRecord

/-! ### One record -/

/-- The record is the height in decimal digits, a colon and the hash in hexadecimal digits, height and hash each
between blanks. -/
def Denotes (record : String) (point : Nat × Hash) : Prop :=
  ∃ left right digits hex : List Char, record.toList = left ++ ':' :: right ∧
    Text.Framed digits left ∧ Height.Spelled digits point.1 ∧
    Text.Framed hex right ∧ Hash.Spelled hex point.2

theorem point?_iff_of_cut {record : String} {left right : List Char} (isCut : record.toList = left ++ ':' :: right)
    (noColon : ':' ∉ left) (point : Nat × Hash) : point? record = some point ↔
    Height.ofText (String.ofList left) = .ok point.1 ∧
      Hash.ofText (String.ofList (Text.trim right)) = .ok point.2 := by
  rcases point with ⟨height, hash⟩
  unfold point?
  rw [isCut, (cut_at_colon noColon right).1, (cut_at_colon noColon right).2]
  dsimp only
  cases Height.ofText (String.ofList left) with
  | error why => simp
  | ok h =>
      cases Hash.ofText (String.ofList (Text.trim right)) with
      | error fault => simp
      | ok x => simp

theorem no_colon_of_framed {inner cs : List Char} (framed : Text.Framed inner cs)
    (hex : ∀ c ∈ inner, Numeral.isHex c = true) : ':' ∉ cs := fun member =>
  framed.forall (fun c inside => (Numeral.visible_of_isHex (hex c inside)).2)
    (fun _ => Text.ne_colon_of_isBlank) ':' member rfl

theorem point?_eq_some_iff {record : String} {point : Nat × Hash} :
    point? record = some point ↔ Denotes record point ∧ ¬Overlong record := by
  constructor
  · intro found
    have colon : ':' ∈ record.toList := by
      by_contra absent
      unfold point? at found
      rw [(dropWhile_eq_nil_iff_no_colon _).mpr absent] at found
      cases found
    obtain ⟨left, right, isCut, noColon⟩ := List.eq_append_cons_of_mem colon
    obtain ⟨readHeight, readHash⟩ := (point?_iff_of_cut isCut noColon point).mp found
    obtain ⟨digits, framed, spelled, short⟩ := Height.ofText_eq_ok_iff.mp readHeight
    have isHash := Hash.ofText_eq_ok_iff.mp readHash
    rw [String.toList_ofList] at framed isHash
    refine ⟨⟨left, right, digits, Text.trim right, isCut, framed, spelled, Text.framed_trim right, isHash⟩, ?_⟩
    rw [overlong_iff_of_cut isCut noColon, Text.trim_of_framed spelled.visible framed]
    exact fun overlong => Nat.not_lt.mpr short overlong.2
  · intro both
    rcases both with ⟨⟨left, right, digits, hex, isCut, heightFramed, isHeight, hashFramed, isHash⟩, fits⟩
    -- The record is cut at its first colon, and that is this one: neither digits nor blanks are colons.
    have noColon := no_colon_of_framed heightFramed isHeight.hex
    rw [overlong_iff_of_cut isCut noColon, Text.trim_of_framed isHeight.visible heightFramed] at fits
    have short : digits.length ≤ Numeral.digitLimit :=
      Nat.le_of_not_lt fun long => fits ⟨isHeight.decimal, long⟩
    have visible : ∀ c ∈ hex, Text.isBlank c = false := fun c member =>
      (Numeral.visible_of_isHex (isHash.hex c member)).1
    refine (point?_iff_of_cut isCut noColon point).mpr ⟨Height.ofText_eq_ok_iff.mpr ⟨digits, ?_, isHeight, short⟩, ?_⟩
    · rw [String.toList_ofList]
      exact heightFramed
    · rw [Text.trim_of_framed visible hashFramed, Hash.ofText_eq_ok_iff, String.toList_ofList]
      exact isHash

theorem read_eq_some_iff {record : String} {point : Nat × Hash} (fits : ¬Overlong record) :
    read record = .ok (some point) ↔ Denotes record point := by
  rw [read_of_not_overlong fits, Except.ok.injEq, point?_eq_some_iff]
  exact and_iff_left fits

theorem read_eq_none_iff {record : String} (fits : ¬Overlong record) :
    read record = .ok none ↔ ¬∃ point, Denotes record point := by
  rw [read_of_not_overlong fits, Except.ok.injEq, Option.eq_none_iff_forall_ne_some, not_exists]
  refine forall_congr' fun point => not_congr (point?_eq_some_iff.trans ?_)
  exact and_iff_left fits

theorem Denotes.one_colon {record : String} {point : Nat × Hash} (denotes : Denotes record point) :
    record.toList.count ':' = 1 := by
  obtain ⟨left, right, digits, hex, isCut, heightFramed, isHeight, hashFramed, isHash⟩ := denotes
  rw [isCut, List.count_append, List.count_cons_self,
    List.count_eq_zero.mpr (no_colon_of_framed heightFramed isHeight.hex),
    List.count_eq_zero.mpr (no_colon_of_framed hashFramed isHash.hex)]

theorem not_overlong_of_few_digits {record : String}
    (few : (record.toList.takeWhile (· != ':')).countP Numeral.isDecimal ≤ Numeral.digitLimit) :
    ¬Overlong record := by
  intro overlong
  obtain ⟨_, decimal, long⟩ := overlong
  -- All that is left by trimming are digits, and the text in front of the colon has no fewer.
  obtain ⟨front, back, parts, _, _⟩ := Text.framed_trim (record.toList.takeWhile (· != ':'))
  have all : (Text.trim (record.toList.takeWhile (· != ':'))).countP Numeral.isDecimal =
      (Text.trim (record.toList.takeWhile (· != ':'))).length :=
    List.countP_eq_length.mpr (List.all_eq_true.mp decimal)
  rw [parts, List.countP_append, List.countP_append] at few
  omega

def written (point : Nat × Hash) : String :=
  Numeral.natText point.1 ++ ":" ++ point.2.text

theorem toList_written (point : Nat × Hash) :
    (written point).toList = Numeral.write 10 point.1 ++ ':' :: point.2.digits := by
  simp [written, Numeral.natText, Hash.text]

section Written

variable {point : Nat × Hash} (inRange : point.1 ≤ maxHeight)

include inRange

theorem denotes_written : Denotes (written point) point :=
  ⟨Numeral.write 10 point.1, point.2.digits, Numeral.write 10 point.1, point.2.digits, toList_written point,
    .refl _, Height.spelled_write inRange, .refl _, point.2.spelled_digits⟩

theorem not_overlong_written : ¬Overlong (written point) := by
  have spelled := Height.spelled_write inRange
  have framed := Text.Framed.refl (Numeral.write 10 point.1)
  have twentyDigits : (Numeral.write 10 point.1).length ≤ 20 := by
    refine Numeral.length_write_le (by decide) (by decide) ?_
    change point.1 ≤ 2 ^ 64 - 1 at inRange
    omega
  rw [overlong_iff_of_cut (toList_written point) (no_colon_of_framed framed spelled.hex),
    Text.trim_of_framed spelled.visible framed]
  intro overlong
  exact absurd (overlong.2.trans_le twentyDigits) (by decide)

end Written

/-- A record whose height is not too long is read exactly if it has the form of a record, and as what it denotes;
any other is dropped, and so is every one with two colons.  What is written for a point is read as that point. -/
theorem read_follows_form (record : String)
    (few : (record.toList.takeWhile (· != ':')).countP Numeral.isDecimal ≤ Numeral.digitLimit) :
    (∀ point, read record = .ok (some point) ↔ Denotes record point) ∧
    (read record = .ok none ↔ ¬∃ point, Denotes record point) ∧
    (2 ≤ record.toList.count ':' → read record = .ok none) ∧
    (∀ point : Nat × Hash, point.1 ≤ maxHeight → read (written point) = .ok (some point)) := by
  have fits := not_overlong_of_few_digits few
  refine ⟨fun point => read_eq_some_iff fits, read_eq_none_iff fits, fun twoColons => ?_, fun point inRange => ?_⟩
  · rw [read_eq_none_iff fits]
    intro denoting
    rcases denoting with ⟨point, denotes⟩
    have one := denotes.one_colon
    omega
  · exact (read_eq_some_iff (not_overlong_written inRange)).mpr (denotes_written inRange)

theorem record_between_blanks_read :
    let left := ['\t', '0', '0', '7', ' ']
    let right := '\u2003' :: List.replicate 64 'A' ++ [' ']
    let record := String.ofList (left ++ ':' :: right)
    let doubled := String.ofList (left ++ ':' :: ':' :: right)
    let hash : Hash := ⟨List.replicate 32 0xaa, List.length_replicate⟩
    (record.toList.takeWhile (· != ':')).countP Numeral.isDecimal ≤ Numeral.digitLimit ∧
    Denotes record (7, hash) ∧ read record = .ok (some (7, hash)) ∧
    2 ≤ doubled.toList.count ':' ∧ read doubled = .ok none := by
  intro left right record doubled hash
  have isRecord : record.toList = left ++ ':' :: right := String.toList_ofList
  have isDoubled : doubled.toList = left ++ ':' :: ':' :: right := String.toList_ofList
  have few : (record.toList.takeWhile (· != ':')).countP Numeral.isDecimal ≤ Numeral.digitLimit := by
    rw [isRecord]
    decide
  have doubledFew : (doubled.toList.takeWhile (· != ':')).countP Numeral.isDecimal ≤ Numeral.digitLimit := by
    rw [isDoubled]
    decide
  have twoColons : 2 ≤ doubled.toList.count ':' := by
    rw [isDoubled]
    decide
  have isHeight : Height.Spelled ['0', '0', '7'] 7 := ⟨by decide, by decide, by decide, by decide⟩
  have isHex : ∀ c ∈ List.replicate 64 'A', Numeral.isHex c = true := by
    intro c member
    rw [List.eq_of_mem_replicate member]
    decide
  have isHash : Hash.Spelled (List.replicate 64 'A') hash := ⟨List.length_replicate, isHex, by decide⟩
  have denotes : Denotes record (7, hash) :=
    ⟨left, right, ['0', '0', '7'], List.replicate 64 'A', isRecord,
      ⟨['\t'], [' '], rfl, List.forall_mem_singleton.mpr rfl, List.forall_mem_singleton.mpr rfl⟩, isHeight,
      ⟨['\u2003'], [' '], rfl, List.forall_mem_singleton.mpr rfl, List.forall_mem_singleton.mpr rfl⟩, isHash⟩
  exact ⟨few, denotes, ((read_follows_form record few).1 (7, hash)).mpr denotes, twoColons,
    (read_follows_form doubled doubledFew).2.2.1 twoColons⟩

/-! ### Records in a row -/

/-- The points of the records that have the form of a record, in order. -/
inductive KeptFrom : List String → List (Nat × Hash) → Prop where
  | nil : KeptFrom [] []
  | kept {record : String} {point : Nat × Hash} {rest : List String} {points : List (Nat × Hash)}
      (denotes : Denotes record point) (others : KeptFrom rest points) :
      KeptFrom (record :: rest) (point :: points)
  | dropped {record : String} {rest : List String} {points : List (Nat × Hash)}
      (malformed : ¬∃ point, Denotes record point) (others : KeptFrom rest points) :
      KeptFrom (record :: rest) points

section Fit

variable {records : List String} (fit : ∀ record ∈ records, ¬Overlong record)

include fit

theorem keptFrom_filterMap : KeptFrom records (records.filterMap point?) := by
  induction records with
  | nil => exact .nil
  | cons record rest ih =>
      rw [List.forall_mem_cons] at fit
      cases found : point? record with
      | none =>
          rw [List.filterMap_cons_none found]
          refine .dropped (fun denoting => ?_) (ih fit.2)
          rcases denoting with ⟨point, denotes⟩
          rw [point?_eq_some_iff.mpr ⟨denotes, fit.1⟩] at found
          cases found
      | some point =>
          rw [List.filterMap_cons_some found]
          exact .kept (point?_eq_some_iff.mp found).1 (ih fit.2)

theorem KeptFrom.eq_filterMap {kept : List (Nat × Hash)} (keeps : KeptFrom records kept) :
    kept = records.filterMap point? := by
  induction keeps with
  | nil => rfl
  | kept denotes _ ih =>
      rw [List.forall_mem_cons] at fit
      rw [List.filterMap_cons_some (point?_eq_some_iff.mpr ⟨denotes, fit.1⟩), ← ih fit.2]
  | @dropped record _ _ malformed _ ih =>
      rw [List.forall_mem_cons] at fit
      have nothing : point? record = none := by
        cases found : point? record with
        | none => rfl
        | some point => exact absurd ⟨point, (point?_eq_some_iff.mp found).1⟩ malformed
      rw [List.filterMap_cons_none nothing, ← ih fit.2]

end Fit

theorem fit_of_readAll {records : List String} {kept : List (Nat × Hash)} (done : readAll records = .ok kept) :
    ∀ record ∈ records, ¬Overlong record := by
  intro record member overlong
  obtain ⟨limit, broken⟩ := readAll_of_overlong member overlong
  cases done.symm.trans broken

theorem readAll_eq_ok_iff {records : List String} {kept : List (Nat × Hash)} :
    readAll records = .ok kept ↔ (∀ record ∈ records, ¬Overlong record) ∧ KeptFrom records kept := by
  constructor
  · intro done
    have fit := fit_of_readAll done
    refine ⟨fit, ?_⟩
    rw [readAll_of_fit fit] at done
    cases done
    exact keptFrom_filterMap fit
  · intro both
    rcases both with ⟨fit, keeps⟩
    rw [readAll_of_fit fit, keeps.eq_filterMap fit]

theorem readAll_append (front back : List String) :
    readAll (front ++ back) = (do
      let first ← readAll front
      let second ← readAll back
      .ok (first ++ second)) := by
  induction front with
  | nil =>
      rw [List.nil_append]
      change readAll back = (do
        let second ← readAll back
        .ok ([] ++ second))
      cases readAll back <;> rfl
  | cons record rest ih =>
      rw [List.cons_append, readAll, readAll, ih]
      cases read record with
      | error limit => rfl
      | ok first =>
          cases readAll rest with
          | error limit => cases first <;> rfl
          | ok others => cases first <;> cases readAll back <;> rfl

theorem readAll_cons_of_dropped {record : String} (dropped : read record = .ok none) (rest : List String) :
    readAll (record :: rest) = readAll rest := by
  rw [readAll, dropped]
  cases readAll rest <;> rfl

/-- The reading of records ends well exactly if no height among them is too long, and then it gives the points of
those that have the form of a record, in order.  Lists behind one another give their points behind one another,
and a record of another form may stand anywhere without effect. -/
theorem readAll_keeps_form_iff (records : List String) :
    ((∃ kept, readAll records = .ok kept) ↔ ∀ record ∈ records, ¬Overlong record) ∧
    (∀ kept, readAll records = .ok kept ↔
      (∀ record ∈ records, ¬Overlong record) ∧ KeptFrom records kept) ∧
    (∀ others, readAll (records ++ others) = (do
      let first ← readAll records
      let second ← readAll others
      .ok (first ++ second))) ∧
    (∀ others record, ¬Overlong record → (¬∃ point, Denotes record point) →
      readAll (records ++ record :: others) = readAll (records ++ others)) := by
  refine ⟨?_, fun kept => readAll_eq_ok_iff, readAll_append records, ?_⟩
  · constructor
    · intro done
      rcases done with ⟨kept, done⟩
      exact fit_of_readAll done
    · intro fit
      exact ⟨_, readAll_of_fit fit⟩
  · intro others record fits malformed
    have dropped : read record = .ok none := (read_eq_none_iff fits).mpr malformed
    rw [readAll_append, readAll_append, readAll_cons_of_dropped dropped]

theorem good_records_lost_to_long_height :
    let hash : Hash := ⟨List.replicate 32 0xaa, List.length_replicate⟩
    let good := written (7, hash)
    let long := String.ofList (List.replicate 4301 '1' ++ ':' :: hash.digits)
    read good = .ok (some (7, hash)) ∧ ¬∃ kept, readAll [good, long, good] = .ok kept := by
  intro hash good long
  have inRange : (7, hash).1 ≤ maxHeight := by decide
  refine ⟨(read_eq_some_iff (not_overlong_written inRange)).mpr (denotes_written inRange), ?_⟩
  intro done
  rcases done with ⟨kept, done⟩
  exact fit_of_readAll done long (by simp) (overlong_of_ones (by decide) _)

end FeedRecord

end Checkpoint

end ReorgGuard
