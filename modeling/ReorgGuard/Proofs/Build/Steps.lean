import ReorgGuard.Checkpoint.Store
import ReorgGuard.Proofs.Hardcoded
import ReorgGuard.Proofs.Source.FeedRecords
import ReorgGuard.Proofs.Source.HashfileHeights

/-!
The steps of a build.

A build looks at two sources.  The step of each either breaks off, and then the whole build does, or
says whether the source is fine; then the table afterwards is known as well.  What is found
at the sources is given as data: how files are looked for and how endpoints are asked does not
matter here.
-/

namespace ReorgGuard.Checkpoint

open ReorgGuard.Feed (FeedError)

def LoadStep.outcome (step : LoadStep) : Table × Except LoadError Bool :=
  (step.load.table, step.answer)

/-- What is found at the place of a hashfile; no place is like a missing file. -/
def Hashfile.readAt (files : Files) : Option Path → Except ReadError (Option (List HashLine))
  | none => .ok none
  | some path => read files path

/-- The readable lines of a hashfile above a floor, in order. -/
def Hashfile.pointsAbove (floor : Nat) (found : Except ReadError (Option (List HashLine))) :
    List (Nat × Hash) :=
  match found with
  | .ok (some lines) => Checkpoint.pointsAbove floor (entries lines)
  | _ => []

/-- The well-formed records of a feed above a floor, in order. -/
def FeedRecord.pointsAbove (floor : Nat) (fetched : Except FeedError (List String)) :
    List (Nat × Hash) :=
  match fetched with
  | .ok records => (records.filterMap point?).filter fun point => floor < point.1
  | .error _ => []

theorem Hashfile.pointsAbove_range {floor : Nat} {found : Except ReadError (Option (List HashLine))} :
    ∀ point ∈ pointsAbove floor found, floor < point.1 ∧ point.1 ≤ maxHeight := by
  intro point member
  unfold pointsAbove at member
  split at member
  · rcases List.mem_filter.mp member with ⟨read, above⟩
    obtain ⟨entry, _, isPoint⟩ := List.mem_filterMap.mp read
    exact ⟨Int.ofNat_lt.mp (of_decide_eq_true above), entry.height_of_point? isPoint⟩
  · cases member

theorem FeedRecord.pointsAbove_range {floor : Nat} {fetched : Except FeedError (List String)} :
    ∀ point ∈ pointsAbove floor fetched, floor < point.1 ∧ point.1 ≤ maxHeight := by
  intro point member
  unfold pointsAbove at member
  split at member
  · rcases List.mem_filter.mp member with ⟨read, above⟩
    rcases List.mem_filterMap.mp read with ⟨record, _, isPoint⟩
    exact ⟨of_decide_eq_true above, height_of_point? isPoint⟩
  · cases member

/-- Reading the hashfile ends in an error that is not reported as the fault of the file. -/
def Hashfile.BreaksOff (found : Except ReadError (Option (List HashLine))) : Prop :=
  (∃ fault, found = .error (.search fault)) ∨ found = .error .undecodable

/-- Reading the feed ends in an error that is not taken for a failure of the feed. -/
def FeedRecord.BreaksOff (fetched : Except FeedError (List String)) : Prop :=
  (∃ error, fetched = .error (.call error)) ∨
    ∃ records, fetched = .ok records ∧ ∃ record ∈ records, Overlong record

theorem Hashfile.readAt_writable {files : Files} {path : Option Path} {lines : List HashLine}
    (found : readAt files path = .ok (some lines)) :
    ∀ line ∈ lines, Numeral.tooLong line.height = false := by
  cases path with
  | none => cases found
  | some path => exact read_writable found

namespace Load

variable {load : Load}

theorem absorb_outcome {intake : Intake} {entries : List Entry} {after : Table} {report : Report}
    (absorbed : (load.table.absorb intake entries).outcome = (after, .ok report)) :
    (load.absorb intake entries).outcome = (after, .ok report.ok) := by
  have answered : (load.table.absorb intake entries).answer = .ok report := congrArg Prod.snd absorbed
  have table : (load.table.absorb intake entries).table = after := congrArg Prod.fst absorbed
  unfold Load.absorb
  simp only [answered, table, LoadStep.outcome]

theorem absorb_frozen (load : Load) (intake : Intake) (entries : List Entry) :
    (load.absorb intake entries).load.table.frozen = load.table.frozen := by
  have kept := (Table.absorbFrom_grew intake load.table (Report.start intake.source) entries).frozen_eq
  change (load.table.absorb intake entries).table.frozen = load.table.frozen at kept
  unfold Load.absorb
  dsimp only
  split <;> exact kept

/-! ### The hashfile -/

theorem takeFile_of_breaksOff {path : String} {floor : Value}
    {found : Except ReadError (Option (List HashLine))} (broken : Hashfile.BreaksOff found) :
    ∃ error, (load.takeFile path floor found).answer = .error error := by
  rcases broken with ⟨fault, rfl⟩ | rfl
  · exact ⟨.file (.search fault), rfl⟩
  · exact ⟨.file .undecodable, rfl⟩

theorem takeFile_lines (path : String) (floor : Int) (lines : List HashLine) :
    (load.takeFile path (.int floor) (.ok (some lines))).outcome =
      (load.absorb ⟨path, .int floor, true⟩ (Hashfile.entries lines)).outcome := by
  unfold takeFile LoadStep.outcome
  dsimp only

/-- Unless it breaks off, the step of the hashfile is fine exactly when the file is readable and its lines
agree with the table and with one another, and then all of them are written. -/
theorem takeFile_outcome (load : Load) (path : String) (floor : Nat)
    {found : Except ReadError (Option (List HashLine))} (opened : load.table.frozen = false)
    (fit : ¬Hashfile.BreaksOff found)
    (writable : ∀ lines, found = .ok (some lines) →
      ∀ line ∈ lines, Numeral.tooLong line.height = false) :
    ∃ (after : Table) (fine : Bool),
      (load.takeFile path (.int floor) found).outcome = (after, .ok fine) ∧ after.frozen = false ∧
      (fine = true ↔ (¬∃ fault, found = .error (.source fault)) ∧
        load.table.Agrees (Hashfile.pointsAbove floor found)) ∧
      (fine = true →
        after = load.table.writeAll ((Hashfile.pointsAbove floor found).map .ofPoint)) := by
  match found with
  | .error (.search fault) => exact absurd (Or.inl ⟨fault, rfl⟩) fit
  | .error .undecodable => exact absurd (Or.inr rfl) fit
  | .error (.source fault) =>
      refine ⟨load.table, false, rfl, opened, iff_of_false Bool.false_ne_true ?_, fun wrong => ?_⟩
      · intro fine
        rcases fine with ⟨noFault, _⟩
        exact noFault ⟨fault, rfl⟩
      · cases wrong
  | .ok none =>
      refine ⟨load.table, true, rfl, opened, iff_of_true rfl ⟨?_, ?_⟩, fun _ => rfl⟩
      · intro faulty
        rcases faulty with ⟨fault, impossible⟩
        cases impossible
      · intro point impossible
        cases impossible
  | .ok (some lines) =>
      have noFault : ¬∃ fault, Except.ok (some lines) = Except.error (ReadError.source fault) := by
        intro faulty
        rcases faulty with ⟨fault, impossible⟩
        cases impossible
      obtain ⟨report, after, absorbed, isFine, written⟩ :=
        Table.absorbFrom_strict path floor (Report.start path)
          (Hashfile.entries_plain (writable lines rfl)) opened rfl
      have outcome : (load.absorb ⟨path, .int floor, true⟩ (Hashfile.entries lines)).outcome =
          (after, .ok report.ok) := absorb_outcome absorbed
      have kept := absorb_frozen load ⟨path, .int floor, true⟩ (Hashfile.entries lines)
      have table : (load.absorb ⟨path, .int floor, true⟩ (Hashfile.entries lines)).load.table = after :=
        congrArg Prod.fst outcome
      rw [table, opened] at kept
      exact ⟨after, report.ok, (takeFile_lines path floor lines).trans outcome, kept,
        isFine.trans (and_iff_right noFault).symm, written⟩

/-! ### The feed -/

theorem takeFeed_of_breaksOff {network : Network} {fetched : Except FeedError (List String)}
    (broken : FeedRecord.BreaksOff fetched) :
    ∃ error, (load.takeFeed network fetched).answer = .error error := by
  rcases broken with ⟨error, rfl⟩ | ⟨records, rfl, record, member, overlong⟩
  · exact ⟨.call error, rfl⟩
  · obtain ⟨limit, broken⟩ := FeedRecord.readAll_of_overlong member overlong
    exact ⟨.intake (.offer (.limit limit)), by simp only [takeFeed, broken]⟩

/-- Unless it breaks off, the step of the feed is fine exactly when records were fetched, and the well-formed
ones above the table are written. -/
theorem takeFeed_outcome (load : Load) (network : Network) {fetched : Except FeedError (List String)}
    (opened : load.table.frozen = false) (fit : ¬FeedRecord.BreaksOff fetched) :
    ∃ fine : Bool,
      (load.takeFeed network fetched).outcome =
        (load.table.writeAll
          ((FeedRecord.pointsAbove load.table.maxHeight fetched).map .ofPoint), .ok fine) ∧
      (fine = true ↔ ¬∃ error, fetched = .error error) := by
  match fetched with
  | .error .disabled => exact ⟨false, rfl, iff_of_false Bool.false_ne_true fun none => none ⟨_, rfl⟩⟩
  | .error (.unreachable message) =>
      exact ⟨false, rfl, iff_of_false Bool.false_ne_true fun none => none ⟨_, rfl⟩⟩
  | .error (.call error) => exact absurd (Or.inl ⟨error, rfl⟩) fit
  | .ok records =>
      have allFit : ∀ record ∈ records, ¬FeedRecord.Overlong record := fun record member overlong =>
        fit (Or.inr ⟨records, rfl, record, member, overlong⟩)
      have bounded : ∀ point ∈ records.filterMap FeedRecord.point?, point.1 ≤ maxHeight := by
        intro point member
        rcases List.mem_filterMap.mp member with ⟨record, _, found⟩
        exact FeedRecord.height_of_point? found
      obtain ⟨report, isFine, _, _, absorbed⟩ :=
        Table.absorbFrom_lenient s!"feed:{network.name}" load.table.maxHeight
          (Report.start s!"feed:{network.name}") (FeedRecord.entries_plain bounded) opened
      have outcome := absorb_outcome absorbed
      refine ⟨report.ok, ?_, iff_of_true isFine ?_⟩
      · simp only [takeFeed, FeedRecord.readAll_of_fit allFit]
        apply outcome.trans
        rw [pointsAbove, FeedRecord.entries_points bounded]
        simp only [FeedRecord.pointsAbove, Int.ofNat_lt]
      · intro failed
        rcases failed with ⟨error, impossible⟩
        cases impossible

end Load

end ReorgGuard.Checkpoint
