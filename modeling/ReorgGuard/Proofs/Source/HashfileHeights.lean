import ReorgGuard.Checkpoint.Hashfile
import ReorgGuard.Proofs.Json
import ReorgGuard.Proofs.Source.Intake

/-!
The heights that a hashfile can hold.

A height may be written as an integer, as a floating point number, as text or as a truth value, and may
be greater than every height of a block.  It is never so great that it could not be written
again: the integers of JSON text and those read from text keep the digit limit, and the others
are small.  The entries of a hashfile can therefore always be looked at one by one.
-/

namespace ReorgGuard

namespace Value

theorem integerText?_writable {s : String} {n : Int} (read : integerText? s = .ok n) :
    Numeral.tooLong n = false := by
  revert read
  fun_cases integerText? s with
  | case5 _ _ _ _ negative _ _ _ _ _ digits _ within kept size =>
      intro read
      cases read
      apply Numeral.tooLong_of_read (Numeral.all_isDecimal_of_not_refused kept) (by omega)
      cases negative
      · exact Int.natAbs_natCast _
      · exact (Int.natAbs_neg _).trans (Int.natAbs_natCast _)
  | _ =>
      intro read
      cases read

theorem integerOfFloat_writable {x : Float} {n : Int} (read : integerOfFloat x = .ok n) :
    Numeral.tooLong n = false := by
  revert read
  fun_cases integerOfFloat x with
  | case1 _ _ _ _ _ whole _ small =>
      intro read
      cases read
      exact Numeral.tooLong_of_word (Nat.lt_trans small (by decide))
  | _ =>
      intro read
      cases read

theorem asInt_writable {value : Value} {n : Int} (writable : Json.writable? value = none)
    (read : value.asInt = .ok n) : Numeral.tooLong n = false := by
  cases value with
  | bool b =>
      cases read
      cases b <;> exact Numeral.tooLong_of_word (by decide)
  | int m =>
      cases read
      exact Json.writable?_int.mp writable
  | float x => exact integerOfFloat_writable read
  | text s => exact integerText?_writable read
  | octets buffer bytes => cases writable
  | _ => cases read

theorem field?_mem {entries : List (Value × Value)} {name : String} {value : Value}
    (present : field? entries name = some value) : ∃ entry ∈ entries, entry.2 = value := by
  obtain ⟨entry, found, same⟩ := Option.map_eq_some_iff.mp present
  exact ⟨entry, List.mem_of_find?_eq_some found, same⟩

end Value

namespace Checkpoint.Hashfile

theorem height?_writable {entries : List (Value × Value)} {height : Nat}
    (writable : ∀ entry ∈ entries, Json.writable? entry.2 = none)
    (read : height? entries = some height) : Numeral.tooLong height = false := by
  revert read
  fun_cases height? entries with
  | case1 n found natural =>
      intro read
      cases read
      rcases Option.map_eq_some_iff.mp found with ⟨value, present, isInt⟩
      rcases Value.field?_mem present with ⟨entry, member, rfl⟩
      rw [Int.toNat_of_nonneg natural]
      exact Value.asInt_writable (writable entry member) isInt
  | _ =>
      intro read
      cases read

theorem line_writable {item : Value} {found : HashLine} (writable : Json.writable? item = none)
    (read : line item = .ok found) : Numeral.tooLong found.height = false := by
  revert read
  fun_cases line item with
  | case1 entries height hash foundHash foundHeight =>
      intro read
      cases read
      exact height?_writable (Json.entriesWritable?_eq_none_iff.mp writable) foundHeight
  | _ =>
      intro read
      cases read

theorem lines_writable {items : List Value} {found : List HashLine}
    (writable : ∀ item ∈ items, Json.writable? item = none) (read : lines items = .ok found) :
    ∀ line ∈ found, Numeral.tooLong line.height = false := by
  induction items generalizing found with
  | nil =>
      cases read
      exact List.forall_mem_nil _
  | cons item rest ih =>
      rw [List.forall_mem_cons] at writable
      unfold lines at read
      split at read <;> cases read
      rename_i first others readFirst readOthers
      exact List.forall_mem_cons.mpr ⟨line_writable writable.1 readFirst, ih writable.2 readOthers⟩

theorem ofText_writable {s : String} {found : List HashLine} (read : ofText s = .ok found) :
    ∀ line ∈ found, Numeral.tooLong line.height = false := by
  revert read
  fun_cases ofText s with
  | case1 entries isDict absent =>
      intro read
      cases read
      exact List.forall_mem_nil _
  | case2 entries isDict items present =>
      intro read
      have all := Json.entriesWritable?_eq_none_iff.mp (Json.read_writable isDict)
      obtain ⟨entry, member, same⟩ := Value.field?_mem present
      have inList := all entry member
      rw [same] at inList
      exact lines_writable (Json.itemsWritable?_eq_none_iff.mp inList) read
  | _ =>
      intro read
      cases read

theorem read_eq_lines_iff {files : Files} {path : Path} {found : List HashLine} :
    read files path = .ok (some found) ↔
      ∃ octets s, files.find path = .file octets ∧ Files.textOf? octets = some s ∧ ofText s = .ok found := by
  constructor
  · intro done
    revert done
    fun_cases read files path with
    | case6 octets isFile s isText lines isHashfile =>
        intro done
        cases done
        exact ⟨octets, s, isFile, isText, isHashfile⟩
    | _ =>
        intro done
        cases done
  · intro there
    rcases there with ⟨octets, s, isFile, isText, isHashfile⟩
    simp only [read, isFile, isText, isHashfile]

theorem read_writable {files : Files} {path : Path} {found : List HashLine}
    (done : read files path = .ok (some found)) :
    ∀ line ∈ found, Numeral.tooLong line.height = false := by
  obtain ⟨_, _, _, _, isHashfile⟩ := read_eq_lines_iff.mp done
  exact ofText_writable isHashfile

theorem entries_plain {found : List HashLine}
    (writable : ∀ line ∈ found, Numeral.tooLong line.height = false) :
    ∀ entry ∈ entries found, ∃ height, entry.Plain height := by
  intro entry member
  rcases List.mem_map.mp member with ⟨line, inFound, rfl⟩
  exact ⟨line.height, rfl, writable line inFound⟩

end Checkpoint.Hashfile

end ReorgGuard
