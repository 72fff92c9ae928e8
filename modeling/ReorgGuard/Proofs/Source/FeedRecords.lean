import Mathlib.Data.List.TakeWhile
import ReorgGuard.Checkpoint.FeedRecord
import ReorgGuard.Proofs.Numeral
import ReorgGuard.Proofs.Source.Intake

/-!
What is kept of the records of a feed.

Malformed records are dropped, and the others are kept in order.  One kind of record is neither: a
height of more decimal digits than are ever turned into a number breaks off the whole reading,
whatever stands in the other records.
-/

namespace ReorgGuard.Checkpoint

theorem Height.ofText_limit_iff (cs : List Char) :
    (∃ limit, Height.ofText (String.ofList cs) = .error (.limit limit)) ↔
      (Text.trim cs).all Numeral.isDecimal = true ∧ Numeral.digitLimit < (Text.trim cs).length := by
  unfold Height.ofText
  rw [String.toList_ofList]
  dsimp only
  constructor
  · intro beyond
    rcases beyond with ⟨limit, broken⟩
    split at broken
    · cases broken
    · rename_i readable
      have decimal := Numeral.all_isDecimal_of_not_refused readable
      split at broken
      · rename_i long
        exact ⟨decimal, long⟩
      · rename_i short
        have writable : Numeral.tooLong (Numeral.read 10 (Text.trim cs)) = false :=
          Numeral.tooLong_of_read decimal (Nat.le_of_not_lt short) (Int.natAbs_natCast _)
        unfold Height.ofInt at broken
        rw [writable] at broken
        split at broken <;> cases broken
  · intro beyond
    rcases beyond with ⟨decimal, long⟩
    have filled : (Text.trim cs).isEmpty = false := by
      cases shape : Text.trim cs with
      | nil =>
          rw [shape] at long
          exact absurd long (Nat.not_lt_zero _)
      | cons first rest => rfl
    refine ⟨.text (Text.trim cs).length, ?_⟩
    rw [filled, decimal, if_neg (by decide), if_pos long]

theorem decimal_ones {digits : Nat} (long : Numeral.digitLimit < digits) :
    (Text.trim (List.replicate digits '1')).all Numeral.isDecimal = true ∧
      Numeral.digitLimit < (Text.trim (List.replicate digits '1')).length := by
  have notBlank (c : Char) (member : c ∈ List.replicate digits '1') : Text.isBlank c = false := by
    rw [List.eq_of_mem_replicate member]
    decide
  have trimmed : Text.trim (List.replicate digits '1') = List.replicate digits '1' :=
    Text.trimBy_of_ends (fun c atHead => notBlank c (List.mem_of_head? atHead))
      (fun c atEnd => notBlank c (List.mem_of_getLast? atEnd))
  rw [trimmed, List.length_replicate]
  refine ⟨List.all_eq_true.mpr fun c member => ?_, long⟩
  rw [List.eq_of_mem_replicate member]
  decide

namespace FeedRecord

/-- The height in front of the colon of a record has more digits than are turned into a number. -/
def Overlong (record : String) : Prop :=
  let height := Text.trim (record.toList.takeWhile (· != ':'))
  ':' ∈ record.toList ∧ height.all Numeral.isDecimal = true ∧ Numeral.digitLimit < height.length

def point? (record : String) : Option (Nat × Hash) :=
  match record.toList.dropWhile (· != ':') with
  | [] => none
  | _ :: hash =>
      match Height.ofText (String.ofList (record.toList.takeWhile (· != ':'))),
        Hash.ofText (String.ofList (Text.trim hash)) with
      | .ok height, .ok hash => some (height, hash)
      | _, _ => none

theorem cut_at_colon {left : List Char} (noColon : ':' ∉ left) (right : List Char) :
    (left ++ ':' :: right).takeWhile (· != ':') = left ∧
      (left ++ ':' :: right).dropWhile (· != ':') = ':' :: right := by
  have others : ∀ c ∈ left, (c != ':') = true := by
    intro c member
    rw [bne_iff_ne]
    rintro rfl
    exact noColon member
  rw [List.takeWhile_append_of_pos others, List.dropWhile_append_of_pos others,
    List.takeWhile_cons_of_neg (by decide), List.dropWhile_cons_of_neg (by decide), List.append_nil]
  exact ⟨rfl, rfl⟩

theorem overlong_iff_of_cut {record : String} {left right : List Char} (isCut : record.toList = left ++ ':' :: right)
    (noColon : ':' ∉ left) : Overlong record ↔
      (Text.trim left).all Numeral.isDecimal = true ∧ Numeral.digitLimit < (Text.trim left).length := by
  unfold Overlong
  rw [isCut, (cut_at_colon noColon right).1]
  simp

theorem overlong_of_ones {digits : Nat} (long : Numeral.digitLimit < digits) (hash : List Char) :
    Overlong (String.ofList (List.replicate digits '1' ++ ':' :: hash)) := by
  have noColon : ':' ∉ List.replicate digits '1' := fun member =>
    absurd (List.eq_of_mem_replicate member) (by decide)
  exact (overlong_iff_of_cut String.toList_ofList noColon).mpr (decimal_ones long)

theorem dropWhile_eq_nil_iff_no_colon (cs : List Char) :
    cs.dropWhile (· != ':') = [] ↔ ':' ∉ cs := by
  simp only [List.dropWhile_eq_nil_iff, bne_iff_ne, ne_eq]
  constructor
  · intro others member
    exact others ':' member rfl
  · intro absent c member same
    rw [same] at member
    exact absent member

theorem read_of_overlong {record : String} (overlong : Overlong record) :
    ∃ limit, read record = .error limit := by
  obtain ⟨colon, decimal, long⟩ := overlong
  rcases (Height.ofText_limit_iff _).mpr ⟨decimal, long⟩ with ⟨limit, broken⟩
  refine ⟨limit, ?_⟩
  unfold read
  dsimp only
  cases behind : record.toList.dropWhile (· != ':') with
  | nil => exact absurd colon ((dropWhile_eq_nil_iff_no_colon _).mp behind)
  | cons mark hash => simp only [broken]

theorem read_of_not_overlong {record : String} (fits : ¬Overlong record) :
    read record = .ok (point? record) := by
  unfold read point?
  dsimp only
  cases behind : record.toList.dropWhile (· != ':') with
  | nil => rfl
  | cons mark hash =>
      have colon : ':' ∈ record.toList := by
        by_contra absent
        rw [(dropWhile_eq_nil_iff_no_colon _).mpr absent] at behind
        cases behind
      dsimp only
      cases readHeight : Height.ofText (String.ofList (record.toList.takeWhile (· != ':'))) with
      | ok height => cases Hash.ofText (String.ofList (Text.trim hash)) <;> rfl
      | error why =>
          cases why with
          | fault fault => rfl
          | limit limit =>
              have beyond := (Height.ofText_limit_iff _).mp ⟨limit, readHeight⟩
              exact absurd ⟨colon, beyond⟩ fits

theorem readAll_of_fit {records : List String} (fit : ∀ record ∈ records, ¬Overlong record) :
    readAll records = .ok (records.filterMap point?) := by
  induction records with
  | nil => rfl
  | cons record rest ih =>
      rw [List.forall_mem_cons] at fit
      rw [readAll, read_of_not_overlong fit.1, ih fit.2]
      cases found : point? record with
      | none =>
          rw [List.filterMap_cons_none found]
          rfl
      | some point =>
          rw [List.filterMap_cons_some found]
          rfl

/-- One overlong height breaks off the reading of all records. -/
theorem readAll_of_overlong {records : List String} {record : String} (member : record ∈ records)
    (overlong : Overlong record) : ∃ limit, readAll records = .error limit := by
  induction records with
  | nil => cases member
  | cons first rest ih =>
      by_cases atHead : Overlong first
      · obtain ⟨limit, broken⟩ := read_of_overlong atHead
        exact ⟨limit, by rw [readAll, broken]; rfl⟩
      · have inRest : record ∈ rest := by
          rcases List.mem_cons.mp member with same | later
          · rw [same] at overlong
            exact absurd overlong atHead
          · exact later
        rcases ih inRest with ⟨limit, broken⟩
        exact ⟨limit, by rw [readAll, read_of_not_overlong atHead, broken]; rfl⟩

theorem height_of_point? {record : String} {point : Nat × Hash} (found : point? record = some point) :
    point.1 ≤ maxHeight := by
  unfold point? at found
  split at found
  · cases found
  · split at found
    · rename_i readHeight _
      cases found
      exact Height.ofText_le readHeight
    · cases found

/-! ### Kept records as a source -/

theorem entryOf_reads {point : Nat × Hash} (bounded : point.1 ≤ maxHeight) :
    Entry.Plain ⟨.int point.1, .octets .fixed point.2.octets⟩ point.1 ∧
      Entry.point? ⟨.int point.1, .octets .fixed point.2.octets⟩ = some point := by
  have readHash : Hash.ofOctets point.2.octets = .ok point.2 := dif_pos point.2.size
  refine ⟨⟨rfl, Height.writable_of_le bounded⟩, ?_⟩
  simp [Entry.point?, Height.ofValue, Hash.ofValue, Height.ofInt_natCast bounded, readHash]

theorem entries_plain {kept : List (Nat × Hash)} (bounded : ∀ point ∈ kept, point.1 ≤ maxHeight) :
    ∀ entry ∈ entries kept, ∃ height, entry.Plain height := by
  intro entry member
  rcases List.mem_map.mp member with ⟨point, inKept, rfl⟩
  exact ⟨point.1, (entryOf_reads (bounded point inKept)).1⟩

theorem entries_points {kept : List (Nat × Hash)} (bounded : ∀ point ∈ kept, point.1 ≤ maxHeight) :
    (entries kept).filterMap Entry.point? = kept := by
  rw [entries, List.filterMap_map]
  refine (List.filterMap_congr fun point member => ?_).trans List.filterMap_some
  exact (entryOf_reads (bounded point member)).2

end FeedRecord

end ReorgGuard.Checkpoint
