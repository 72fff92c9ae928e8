import ReorgGuard.Proofs.Build.FileOnly
import ReorgGuard.Proofs.Source.Accounting
import ReorgGuard.Proofs.Source.WrittenHashfile

/-!
Loading a hashfile that is there.

A file of text is always answered for: its lines are taken in, or, if it is no hashfile, the load is not fine, the
table stays as it was and one more report says so.  Octets that are no text end the load in an error.

Without a floor of its own a load goes on above the table.  A table without pins has the greatest height zero, so
that its floor is no pin, and a line at height zero is left out there.
-/

namespace ReorgGuard

theorem Files.textOf?_eq_none_iff {octets : List UInt8} : textOf? octets = none ↔ ¬∃ s, Text.toUtf8 s = octets := by
  rw [textOf?, Option.map_eq_none_iff, Option.eq_none_iff_forall_ne_some, not_exists]
  exact forall_congr' fun s => not_congr Text.ofUtf8?_eq_some_iff

namespace Checkpoint

/-- The octets are the text of a hashfile with these lines. -/
def Hashfile.Spells (octets : List UInt8) (lines : List HashLine) : Prop :=
  ∃ s, Files.textOf? octets = some s ∧ ofText s = .ok lines

namespace Load

theorem takeFileAt_of_read (load : Load) {files : Files} {path : Path} (floor : Value)
    {found : Except ReadError (Option (List HashLine))} (read : Hashfile.read files path = found) :
    load.takeFileAt files (some path) floor = load.takeFile path.text floor found := by
  rw [takeFileAt, read]

theorem takeFileAt_floor (load : Load) (files : Files) (path : Path) (floor : Option Int) :
    load.takeFileAt files (some path) (floor.elim .null .int) =
      load.takeFile path.text (.int (floor.getD load.table.maxHeight)) (Hashfile.read files path) := by
  cases floor with
  | none =>
      rw [Option.elim_none, Option.getD_none, takeFileAt]
      generalize Hashfile.read files path = found
      unfold takeFile
      rcases found with error | (_ | lines)
      · cases error <;> rfl
      · rfl
      · dsimp only
  | some floor => rfl

theorem takeFile_answers (load : Load) (path : String) (floor : Int) {lines : List HashLine}
    (writable : ∀ line ∈ lines, Numeral.tooLong line.height = false) (opened : load.table.frozen = false) :
    ∃ fine, (load.takeFile path (.int floor) (.ok (some lines))).answer = .ok fine := by
  obtain ⟨report, _, outcome⟩ := Table.absorbFrom_accounts path true floor (Report.start path)
    (Hashfile.entries_plain writable) opened
  have taken := (takeFile_lines path floor lines).trans (absorb_outcome outcome)
  rw [LoadStep.outcome, Prod.mk.injEq] at taken
  exact ⟨report.ok, taken.2⟩

end Load

section File

variable {load : Load} {files : Files} {path : Path} {octets : List UInt8}

/-- A file that is there is answered for exactly if its octets are text.  Text that is no hashfile fails the load,
leaves the table as it was and is reported without any entry; other octets end the load in an error. -/
theorem file_load_answers_iff (floor : Option Int) (isFile : files.find path = .file octets)
    (opened : load.table.frozen = false) :
    let step := load.takeFileAt files (some path) (floor.elim .null .int)
    let isText := ∃ s, Text.toUtf8 s = octets
    let isHashfile := ∃ lines, Hashfile.Spells octets lines
    ((∃ fine, step.answer = .ok fine) ↔ isText) ∧
    (isText → ¬isHashfile →
      step.answer = .ok false ∧
        step.load = ⟨load.table, load.reports ++ [⟨path.text, 0, 0, 0, 0, false⟩]⟩) ∧
    (¬isText → step.answer = .error (.file .undecodable) ∧ step.load = load) := by
  intro step isText isHashfile
  have isStep : step = load.takeFile path.text (.int (floor.getD load.table.maxHeight)) (Hashfile.read files path) :=
    load.takeFileAt_floor files path floor
  have noText : Files.textOf? octets = none ↔ ¬isText := Files.textOf?_eq_none_iff
  cases decoded : Files.textOf? octets with
  | none =>
      have stray : ¬isText := noText.mp decoded
      have found : Hashfile.read files path = .error .undecodable := by
        simp only [Hashfile.read, isFile, decoded]
      rw [found] at isStep
      have broken : step = ⟨load, [], .error (.file .undecodable)⟩ := isStep
      rw [broken]
      refine ⟨iff_of_false ?_ stray, fun text => absurd text stray, fun _ => ⟨rfl, rfl⟩⟩
      intro answered
      rcases answered with ⟨fine, impossible⟩
      cases impossible
  | some s =>
      have text : isText := by
        by_contra stray
        cases decoded.symm.trans (noText.mpr stray)
      cases read : Hashfile.ofText s with
      | error errors =>
          have found : Hashfile.read files path = .error (.source (.invalid path.text errors)) := by
            simp only [Hashfile.read, isFile, decoded, read]
          rw [found] at isStep
          rw [isStep]
          exact ⟨iff_of_true ⟨false, rfl⟩ text, fun _ _ => ⟨rfl, rfl⟩, fun stray => absurd text stray⟩
      | ok lines =>
          have found : Hashfile.read files path = .ok (some lines) :=
            Hashfile.read_eq_lines_iff.mpr ⟨octets, s, isFile, decoded, read⟩
          have answers := load.takeFile_answers path.text (floor.getD load.table.maxHeight)
            (Hashfile.read_writable found) opened
          rw [← found, ← isStep] at answers
          exact ⟨iff_of_true answers text, fun _ none => absurd ⟨lines, s, decoded, read⟩ none,
            fun stray => absurd text stray⟩

end File

theorem broken_file_fails :
    let octets := Text.toUtf8 "junk"
    let files := (World.holding octets).files
    let load : Load := ⟨Table.empty, []⟩
    let step := load.takeFileAt files (some World.heldPlace) .null
    files.find World.heldPlace = .file octets ∧ load.table.frozen = false ∧ step.answer = .ok false ∧
      step.load = ⟨Table.empty, [⟨World.heldPlace.text, 0, 0, 0, 0, false⟩]⟩ := by
  intro octets files load step
  have isFile : files.find World.heldPlace = .file octets := World.find_heldPlace octets
  have noHashfile : ¬∃ lines, Hashfile.Spells octets lines := by
    intro hashfile
    rcases hashfile with ⟨lines, s, decoded, read⟩
    have isText : Files.textOf? octets = some "junk" := by decide +kernel
    cases isText.symm.trans decoded
    have refused : Hashfile.ofText "junk" = .error 1 := by rfl
    cases refused.symm.trans read
  obtain ⟨failed, unchanged⟩ :=
    (file_load_answers_iff none isFile (rfl : load.table.frozen = false)).2.1 ⟨"junk", rfl⟩ noHashfile
  exact ⟨isFile, rfl, failed, unchanged⟩

theorem stray_octet_unanswered :
    let octets : List UInt8 := [0xFF]
    let files := (World.holding octets).files
    let load : Load := ⟨Table.empty, []⟩
    files.find World.heldPlace = .file octets ∧ load.table.frozen = false ∧
      ¬∃ fine, (load.takeFileAt files (some World.heldPlace) .null).answer = .ok fine := by
  intro octets files load
  refine ⟨World.find_heldPlace octets, rfl, fun answered => ?_⟩
  rcases answered with ⟨fine, impossible⟩
  cases impossible

/-! ### Lines above the table -/

theorem Table.Shaped.maxHeight_lt_iff {table : Table} (shaped : table.Shaped) {height : Nat}
    (above : ∀ pinned ∈ table.pinnedHeights, pinned < height) : table.maxHeight < height ↔ 0 < height := by
  by_cases empty : table.points = []
  · rw [shaped.maxHeight_of_empty empty]
  · have below := above table.maxHeight (shaped.maxHeight_isGreatest empty).1
    exact iff_of_true below (Nat.zero_lt_of_lt below)

theorem Hashfile.mem_pointsAbove_iff {floor : Nat} {lines : List HashLine} {point : Nat × Hash} :
    point ∈ pointsAbove floor (.ok (some lines)) ↔ point ∈ points lines ∧ floor < point.1 := by
  rw [pointsAbove, Checkpoint.pointsAbove, List.mem_filter, decide_eq_true_eq, Int.ofNat_lt]
  rfl

/-- A load without a floor that is fine pins every line above the pins that were there, except at height zero. -/
theorem file_load_keeps_lines_above_pins (operations : List Operation) (reports : List Report) {files : Files}
    {path : Path} {lines : List HashLine} (opened : (Table.empty.performAll operations).frozen = false)
    (isHashfile : Hashfile.read files path = .ok (some lines)) :
    let load : Load := ⟨Table.empty.performAll operations, reports⟩
    let step := load.takeFileAt files (some path) .null
    step.answer = .ok true →
      ∀ point ∈ Hashfile.points lines, (∀ pinned ∈ load.table.pinnedHeights, pinned < point.1) →
        (step.load.table.hash? point.1 = some point.2 ↔ 0 < point.1) := by
  intro load step fine point member above
  have shaped : load.table.Shaped := Table.performAll_shaped Table.shaped_empty operations
  have isStep : step = load.takeFile path.text (.int load.table.maxHeight) (.ok (some lines)) := by
    rw [← isHashfile]
    exact load.takeFileAt_floor files path none
  have fit : ¬Hashfile.BreaksOff (.ok (some lines)) := by
    intro broken
    rcases broken with ⟨fault, impossible⟩ | impossible <;> cases impossible
  obtain ⟨after, wasFine, outcome, _, isFine, written⟩ :=
    Load.takeFile_outcome load path.text load.table.maxHeight opened fit fun found same line isLine => by
      cases same
      exact Hashfile.read_writable isHashfile line isLine
  rw [← isStep, LoadStep.outcome, fine, Prod.mk.injEq, Except.ok.injEq] at outcome
  obtain ⟨isAfter, rfl⟩ := outcome
  have agreed := (isFine.mp rfl).2
  rw [isAfter, written rfl, Table.hash?_writeAll_ofPoint, ← shaped.maxHeight_lt_iff above]
  constructor
  · intro pinned
    rcases Option.or_eq_some_iff.mp pinned with inTable | ⟨_, inFile⟩
    · have isPinned : point.1 ∈ load.table.pinnedHeights := by
        rw [Table.pinned_iff_hash?_isSome, inTable]
        rfl
      exact absurd (above point.1 isPinned) (Nat.lt_irrefl _)
    · exact (Hashfile.mem_pointsAbove_iff.mp (mem_of_lookup inFile)).2
  · intro isAbove
    exact agreed point (Hashfile.mem_pointsAbove_iff.mpr ⟨member, isAbove⟩)

def World.holdingLine (height : Nat) (hash : Hash) : World :=
  .holding (Text.toUtf8 (Hashfile.dumpOf [(height, hash.octets)] ++ String.ofList []))

namespace World

variable {height : Nat} (inRange : height ≤ maxHeight) (hash : Hash)

include inRange

theorem read_holdingLine :
    Hashfile.read (holdingLine height hash).files heldPlace =
      .ok (some [Hashfile.lineOf (height, hash.octets)]) := by
  have short : ∀ point ∈ [(height, hash.octets)], Numeral.tooLong point.1 = false := by
    intro point member
    rw [List.mem_singleton.mp member]
    exact Height.writable_of_le inRange
  exact Hashfile.read_dumpOf short (List.forall_mem_nil _) (find_heldPlace _)

theorem mem_points_holdingLine : (height, hash) ∈ Hashfile.points [Hashfile.lineOf (height, hash.octets)] :=
  Hashfile.mem_points_of_line (List.mem_singleton_self _) (Height.ofInt_natCast inRange) (Hash.ofText_text hash)

end World

theorem file_load_keeps_line_above_pin :
    (Table.empty.performAll [Table.uniform 5 1]).frozen = false ∧
      ∃ step, step = Load.takeFileAt ⟨Table.empty.performAll [Table.uniform 5 1], []⟩
          (World.holdingLine 7 ⟨List.replicate 32 2, rfl⟩).files (some World.heldPlace) .null ∧
        step.answer = .ok true ∧ step.load.table.hash? 7 = some ⟨List.replicate 32 2, rfl⟩ := by
  have opened : (Table.empty.performAll [Table.uniform 5 1]).frozen = false := rfl
  have inRange : 7 ≤ maxHeight := by decide
  have read := World.read_holdingLine inRange ⟨List.replicate 32 2, rfl⟩
  have low : ∀ pinned ∈ (Table.empty.performAll [Table.uniform 5 1]).pinnedHeights, pinned < 7 := by
    intro pinned member
    rw [List.mem_singleton.mp member]
    decide
  have fine : (Load.takeFileAt ⟨Table.empty.performAll [Table.uniform 5 1], []⟩
      (World.holdingLine 7 ⟨List.replicate 32 2, rfl⟩).files (some World.heldPlace) .null).answer = .ok true := by
    rw [Load.takeFileAt_of_read _ _ read]
    rfl
  have kept := file_load_keeps_lines_above_pins [Table.uniform 5 1] [] opened read fine
    (7, ⟨List.replicate 32 2, rfl⟩) (World.mem_points_holdingLine inRange _) low
  exact ⟨opened, _, rfl, fine, kept.mpr (by decide)⟩

/-- A line at height zero is left out of an empty table, and the load is fine. -/
theorem file_load_loses_height_zero :
    Table.empty.frozen = false ∧ ∃ lines step,
      Hashfile.read (World.holdingLine 0 ⟨List.replicate 32 7, rfl⟩).files World.heldPlace = .ok (some lines) ∧
      (0, ⟨List.replicate 32 7, rfl⟩) ∈ Hashfile.points lines ∧
      (∀ pinned ∈ Table.empty.pinnedHeights, pinned < 0) ∧
      step = Load.takeFileAt ⟨Table.empty, []⟩ (World.holdingLine 0 ⟨List.replicate 32 7, rfl⟩).files
        (some World.heldPlace) .null ∧
      step.answer = .ok true ∧ step.load.table.hash? 0 = none := by
  have inRange : 0 ≤ maxHeight := Nat.zero_le _
  have read := World.read_holdingLine inRange ⟨List.replicate 32 7, rfl⟩
  refine ⟨rfl, _, _, read, World.mem_points_holdingLine inRange _, List.forall_mem_nil _, rfl, ?_, ?_⟩
  · rw [Load.takeFileAt_of_read _ _ read]
    rfl
  · rw [Load.takeFileAt_of_read _ _ read]
    rfl

end Checkpoint

end ReorgGuard
