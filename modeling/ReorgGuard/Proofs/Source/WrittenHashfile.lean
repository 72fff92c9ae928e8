import ReorgGuard.Proofs.Fallible
import ReorgGuard.Proofs.Hash
import ReorgGuard.Proofs.Json.RoundTrip
import ReorgGuard.Proofs.Source.HashfileHeights
import ReorgGuard.Proofs.Source.Intake

/-!
Hashfiles that were written.

A written hashfile is read back line by line, in order, with each hash in lower case; the digits of a
block hash stand for that hash again, so that a table takes in what was read as it takes in what was written.
The text is plain, so a file that holds it is read the same way, and a line end behind it changes nothing.

Heights are natural numbers within the digit limit, in any order; octets may be any.
-/

namespace ReorgGuard

theorem Numeral.length_intText_le {n : Nat} (short : tooLong n = false) :
    (intText n).toList.length ≤ digitLimit := by
  have bounded : n < 10 ^ digitLimit := by
    unfold tooLong at short
    generalize digitLimit = limit at short ⊢
    rw [decide_eq_false_iff_not, Nat.not_le] at short
    exact short
  have natural : ¬(n : Int) < 0 := by omega
  rw [intText, if_neg natural, natText, String.toList_ofList]
  exact length_write_le (by decide) (by decide) bounded

namespace Checkpoint

/-! ### Lines -/

namespace Hashfile

def lineOf (point : Nat × List UInt8) : HashLine :=
  ⟨point.1, String.ofList (point.2.flatMap Hash.octetDigits)⟩

def dumpOf (points : List (Nat × List UInt8)) : String :=
  dump (points.map fun point => (.int point.1, point.2))

variable {points : List (Nat × List UInt8)} {blanks : List Char}

theorem faithful_document (short : ∀ point ∈ points, Numeral.tooLong point.1 = false) :
    Json.Faithful 3 (document (points.map fun point => (.int point.1, point.2))) := by
  refine .dict [("hashlines", _)] (by simp) fun entry member => ?_
  rw [List.mem_singleton.mp member]
  refine .list _ fun item isLine => ?_
  obtain ⟨_, isPoint, rfl⟩ := List.mem_map.mp isLine
  obtain ⟨point, member, rfl⟩ := List.mem_map.mp isPoint
  refine .dict [("height", .int point.1), ("hash", .text _)] (by simp) fun entry isField => ?_
  rcases List.mem_pair.mp isField with rfl | rfl
  · exact .int _ (Numeral.length_intText_le (short point member))
  · exact .text _

theorem lines_of_points :
    lines (points.map fun point => .dict [(.text "height", .int point.1), (.text "hash", .text (lineOf point).hash)]) =
      .ok (points.map lineOf) := by
  induction points with
  | nil => rfl
  | cons point rest ih =>
      have first : line (.dict [(.text "height", .int point.1), (.text "hash", .text (lineOf point).hash)]) =
          .ok (lineOf point) := by
        simp [line, height?, hash?, Value.field?, Value.entry?, Value.sameKey, Value.asInt, lineOf]
      rw [List.map_cons, lines, first, ih, List.map_cons]

/-- What was written is read as the same lines, also with blanks behind it. -/
theorem ofText_dumpOf (short : ∀ point ∈ points, Numeral.tooLong point.1 = false)
    (blank : ∀ c ∈ blanks, c = ' ' ∨ c = '\n') :
    ofText (dumpOf points ++ String.ofList blanks) = .ok (points.map lineOf) := by
  have isDocument := Json.read_print (faithful_document short) (by decide : 3 ≤ Json.Dialect.file.depth)
    .lines blanks blank
  unfold ofText dumpOf dump
  rw [isDocument, document, List.map_map]
  exact lines_of_points

theorem plain_dumpOf (short : ∀ point ∈ points, Numeral.tooLong point.1 = false)
    (blank : ∀ c ∈ blanks, c = ' ' ∨ c = '\n') :
    (dumpOf points ++ String.ofList blanks).toList.all Text.isPlain = true := by
  rw [dumpOf, dump, Json.print, ← String.ofList_append, String.toList_ofList, List.all_append,
    Json.plain_write (faithful_document short), Json.plain_of_blank blank]
  rfl

theorem read_dumpOf {files : Files} {path : Path} (short : ∀ point ∈ points, Numeral.tooLong point.1 = false)
    (blank : ∀ c ∈ blanks, c = ' ' ∨ c = '\n')
    (isFile : files.find path = .file (Text.toUtf8 (dumpOf points ++ String.ofList blanks))) :
    read files path = .ok (some (points.map lineOf)) :=
  read_eq_lines_iff.mpr ⟨_, _, isFile, Files.textOf?_toUtf8 (plain_dumpOf short blank), ofText_dumpOf short blank⟩

/-! ### Written values -/

def valuesOf (buffer : Buffer) (points : List (Nat × List UInt8)) : List (Value × Value) :=
  points.map fun point => (.int point.1, .octets buffer point.2)

def offersOf (buffer : Buffer) (points : List (Nat × List UInt8)) : List Entry :=
  points.map fun point => ⟨.int point.1, .octets buffer point.2⟩

variable (buffer : Buffer)

theorem octets_of_values : (valuesOf buffer points).mapM
    (fun point => (octetsOf point.2).map fun octets => (point.1, octets)) =
      .ok (points.map fun point => (.int point.1, point.2)) := by
  rw [valuesOf, List.mapM_map]
  exact List.mapM_pure

theorem writable_document (short : ∀ point ∈ points, Numeral.tooLong point.1 = false) :
    Json.writable? (document (points.map fun point => (.int point.1, point.2))) = none := by
  rw [document, Json.writable?, Json.entriesWritable?_eq_none_iff]
  intro entry member
  rw [List.mem_singleton.mp member, Json.writable?, Json.itemsWritable?_eq_none_iff]
  intro item isLine
  obtain ⟨_, isPoint, rfl⟩ := List.mem_map.mp isLine
  obtain ⟨point, member, rfl⟩ := List.mem_map.mp isPoint
  rw [Json.writable?, Json.entriesWritable?_eq_none_iff]
  intro entry isField
  rcases List.mem_pair.mp isField with rfl | rfl
  · exact Json.writable?_int.mpr (short point member)
  · rfl

theorem dumpValues_valuesOf (short : ∀ point ∈ points, Numeral.tooLong point.1 = false) :
    dumpValues (valuesOf buffer points) = .ok (dumpOf points) := by
  refine Fallible.bind_eq_ok_iff.mpr ⟨_, octets_of_values buffer, ?_⟩
  rw [writable_document short]
  rfl

theorem ofText_lineOf (point : Nat × List UInt8) (size : point.2.length = 32) :
    Hash.ofText (lineOf point).hash = .ok ⟨point.2, size⟩ :=
  Hash.ofText_text ⟨point.2, size⟩

theorem entries_alike (sizes : ∀ point ∈ points, point.2.length = 32) :
    List.Forall₂ Entry.Alike (entries (points.map lineOf)) (offersOf buffer points) := by
  rw [entries, List.map_map, offersOf, List.forall₂_map_left_iff, List.forall₂_map_right_iff, List.forall₂_same]
  intro point member
  have size := sizes point member
  have asOctets : Hash.ofOctets point.2 = .ok ⟨point.2, size⟩ := dif_pos size
  exact ⟨rfl, (ofText_lineOf point size).trans asOctets.symm⟩

/-- A hashfile of heights in any order, repeated ones too, can be written, and a file with that text is read as
the same heights in the same order, each hash in its digits.  Octets of a block hash are read from those digits
again, so every table takes in what was read exactly as what was written. -/
theorem written_hashfile_read_back (buffer : Buffer) (points : List (Nat × List UInt8))
    (short : ∀ point ∈ points, Numeral.tooLong point.1 = false) :
    ∃ text, dumpValues (valuesOf buffer points) = .ok text ∧
      (∀ (files : Files) (path : Path), files.find path = .file (Text.toUtf8 text) →
        read files path = .ok (some (points.map lineOf))) ∧
      (∀ point ∈ points, ∀ size : point.2.length = 32,
        Hash.ofText (lineOf point).hash = .ok ⟨point.2, size⟩) ∧
      ((∀ point ∈ points, point.2.length = 32) → ∀ (table : Table) (intake : Intake),
        table.absorb intake (entries (points.map lineOf)) = table.absorb intake (offersOf buffer points)) := by
  refine ⟨dumpOf points, dumpValues_valuesOf buffer short, fun files path isFile => ?_,
    fun point _ => ofText_lineOf point, fun sizes table intake => ?_⟩
  · have noEnding : dumpOf points ++ String.ofList [] = dumpOf points := String.append_empty
    rw [← noEnding] at isFile
    exact read_dumpOf short (List.forall_mem_nil _) isFile
  · exact Table.absorbFrom_congr (entries_alike buffer sizes) table _

theorem far_heights_read_back :
    let points : List (Nat × List UInt8) :=
      [(2 ^ 64 + 1, List.replicate 32 0xab), (2 ^ 64 + 1, List.replicate 32 7), (2 ^ 53 + 1, List.replicate 32 0)]
    (∀ point ∈ points, Numeral.tooLong point.1 = false) ∧ (∀ point ∈ points, point.2.length = 32) ∧
    ∃ text, dumpValues (valuesOf .fixed points) = .ok text ∧
      (let files := Files.write ⟨[], []⟩ ⟨.slash, ["srv", "hashes"]⟩ (Text.toUtf8 text)
       read files ⟨.slash, ["srv", "hashes"]⟩ = .ok (some (points.map lineOf))) ∧
      Table.empty.absorb ⟨"srv", .int (-1), true⟩ (entries (points.map lineOf)) =
        Table.empty.absorb ⟨"srv", .int (-1), true⟩ (offersOf .fixed points) := by
  intro points
  have short : ∀ point ∈ points, Numeral.tooLong point.1 = false := by
    intro point member
    have bounded : point.1 < 10 ^ 20 := by
      simp only [points, List.mem_cons, List.not_mem_nil, or_false] at member
      rcases member with rfl | rfl | rfl <;> decide
    exact Numeral.tooLong_of_lt_pow bounded (by decide)
  have sizes : ∀ point ∈ points, point.2.length = 32 := by
    intro point member
    simp only [points, List.mem_cons, List.not_mem_nil, or_false] at member
    rcases member with rfl | rfl | rfl <;> exact List.length_replicate
  obtain ⟨text, written, isRead, _, absorbed⟩ := written_hashfile_read_back .fixed points short
  exact ⟨short, sizes, text, written, isRead _ _ rfl, absorbed sizes _ _⟩

end Hashfile

end Checkpoint

end ReorgGuard
