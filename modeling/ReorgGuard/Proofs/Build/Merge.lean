import ReorgGuard.Proofs.Build.Layers
import ReorgGuard.Proofs.Build.Steps

/-!
What a build makes of its sources.

The hardcoded checkpoints come first, then the lines of the hashfile above them, then the records
of the feed above both.  The hashfile must be readable and must not contradict itself; of the
feed, the first record for a height stands.  A build does all this exactly when no error escapes
while its sources are read, and some errors do escape: a hashfile that is no text, a call that
fails in an unforeseen way, and a feed record whose height has too many digits.
-/

namespace ReorgGuard.Checkpoint

open ReorgGuard.Feed (FeedError)
open ReorgGuard.Settings (Config)

/-- What a build finds at its sources; the feed is there only if it is asked. -/
structure Findings where
  network : Network
  required : Bool
  file : Except ReadError (Option (List HashLine))
  feed : Option (Except FeedError (List String))

def findings (world : World) (web : Feed.Web) (config : Config) (given : Option FeedSource)
    (remote : Option Bool) : Findings :=
  { network := config.network
    required := config.feed.required
    file := Hashfile.readAt world.files config.checkpointsPath
    feed :=
      if remote.getD config.feed.enabled then
        some ((feedFor config given true).fetch world.here web config.network).answer
      else none }

namespace Findings

/-- The readable lines of the hashfile above the hardcoded checkpoints. -/
def lines (found : Findings) : List (Nat × Hash) :=
  Hashfile.pointsAbove (greatest (hardcodedPoints found.network)) found.file

/-- The well-formed records of the feed above the hardcoded checkpoints and the lines. -/
def records (found : Findings) : List (Nat × Hash) :=
  match found.feed with
  | some fetched =>
      FeedRecord.pointsAbove (greatest (hardcodedPoints found.network ++ found.lines)) fetched
  | none => []

/-- An error escapes while the sources are read. -/
def BreaksOff (found : Findings) : Prop :=
  Hashfile.BreaksOff found.file ∨ ∃ fetched, found.feed = some fetched ∧ FeedRecord.BreaksOff fetched

/-- The sources are not fine: the hashfile has a fault or contradicts itself, or a required feed failed. -/
def Fails (found : Findings) : Prop :=
  (∃ fault, found.file = .error (.source fault)) ∨ Contradictory found.lines ∨
    found.required = true ∧ ∃ error, found.feed = some (.error error)

/-- The table is closed and holds what was found, and nothing else. -/
structure Merges (found : Findings) (table : Table) : Prop where
  closed : table.frozen = true
  points : ∀ height hash, (height, hash) ∈ table.points ↔
    (height, hash) ∈ hardcodedPoints found.network ∨ (height, hash) ∈ found.lines ∨
      found.records.lookup height = some hash
  distinct : (table.points.map Prod.fst).Nodup
  difficulties : ∀ height difficulty, (height, difficulty) ∈ table.difficulties ↔
    (height, difficulty) ∈ hardcodedDifficulties found.network

/-- The answer is the refusal of the sources if they are not fine, and otherwise the table of what was
found. -/
structure Answers (found : Findings) (answer : Except BuildError Load) : Prop where
  refused : answer = .error (.notLoaded found.network) ↔ found.Fails
  merged : ¬found.Fails → ∃ load, answer = .ok load ∧ found.Merges load.table

end Findings

namespace Load

variable {load : Load} {feed : FeedSource} {required : Bool} {files : Files}
  {here : Feed.Surroundings} {web : Feed.Web} {path : Option Path} {network : Network}

theorem takeFileAt_eq_takeFile (load : Load) (files : Files) (path : Option Path) (floor : Value) :
    ∃ name, (load.takeFileAt files path floor).outcome =
      (load.takeFile name floor (Hashfile.readAt files path)).outcome := by
  cases path with
  | none => exact ⟨"", rfl⟩
  | some path => exact ⟨path.text, rfl⟩

theorem takeAll_of_file_error {error : LoadError}
    (broken : (load.takeFileAt files path (.int load.table.maxHeight)).answer = .error error)
    (remote : Bool) :
    (load.takeAll feed required files here web path network remote).answer = .error error := by
  simp only [takeAll, broken]

theorem takeAll_of_feed_error {fine : Bool} {error : LoadError}
    (file : (load.takeFileAt files path (.int load.table.maxHeight)).answer = .ok fine)
    (broken : ((load.takeFileAt files path (.int load.table.maxHeight)).load.takeFeed network
      (feed.fetch here web network).answer).answer = .error error) :
    (load.takeAll feed required files here web path network true).answer = .error error := by
  simp only [takeAll, file, if_true, takeFeedFrom, broken]

theorem takeAll_without_feed {after : Table} {fine : Bool}
    (file : (load.takeFileAt files path (.int load.table.maxHeight)).outcome = (after, .ok fine)) :
    (load.takeAll feed required files here web path network false).load.table = after ∧
      (load.takeAll feed required files here web path network false).answer = .ok fine := by
  obtain ⟨table, answer⟩ := Prod.mk.inj file
  simp only [takeAll, answer, Bool.false_eq_true, if_false, and_true]
  exact table

theorem takeAll_with_feed {after next : Table} {fine feedFine : Bool}
    (file : (load.takeFileAt files path (.int load.table.maxHeight)).outcome = (after, .ok fine))
    (fed : ((load.takeFileAt files path (.int load.table.maxHeight)).load.takeFeed network
      (feed.fetch here web network).answer).outcome = (next, .ok feedFine)) :
    (load.takeAll feed required files here web path network true).load.table = next ∧
      (load.takeAll feed required files here web path network true).answer =
        .ok (weigh required fine feedFine).1 := by
  rcases Prod.mk.inj file with ⟨_, fileAnswer⟩
  rcases Prod.mk.inj fed with ⟨table, feedAnswer⟩
  simp only [takeAll, fileAnswer, if_true, takeFeedFrom, feedAnswer, and_true]
  exact table

theorem weigh_eq_true_iff (required fileFine feedFine : Bool) :
    (weigh required fileFine feedFine).1 = true ↔
      fileFine = true ∧ (required = true → feedFine = true) := by
  cases required <;> simp [weigh]

end Load

/-- The table pins exactly these points, and the hardcoded difficulties. -/
structure Table.Pins (table : Table) (network : Network) (points : List (Nat × Hash)) : Prop where
  shaped : table.Shaped
  hashes : ∀ height hash, table.hash? height = some hash ↔ (height, hash) ∈ points
  difficulties : ∀ height difficulty, table.difficulty? height = some difficulty ↔
    (height, difficulty) ∈ hardcodedDifficulties network

namespace Table

variable {table : Table} {network : Network} {points layer : List (Nat × Hash)}

theorem seed_pins (network : Network) :
    (empty.seed network).table.Pins network (hardcodedPoints network) :=
  ⟨seed_shaped network, fun _ _ => hash?_seed_eq_some_iff, fun _ _ => difficulty?_seed_eq_some_iff⟩

theorem Pins.maxHeight_eq (pins : table.Pins network points) : table.maxHeight = greatest points := by
  refine pins.shaped.maxHeight_eq_greatest fun height => ?_
  rw [pinned_iff_hash?_isSome, Option.isSome_iff_exists, List.mem_map]
  constructor
  · intro held
    rcases held with ⟨hash, pinned⟩
    exact ⟨(height, hash), (pins.hashes height hash).mp pinned, rfl⟩
  · intro listed
    rcases listed with ⟨⟨_, hash⟩, member, rfl⟩
    exact ⟨hash, (pins.hashes _ hash).mpr member⟩

theorem Pins.free (pins : table.Pins network points) (above : ∀ point ∈ layer, greatest points < point.1) :
    ∀ point ∈ layer, table.hash? point.1 = none := by
  intro point member
  refine pins.shaped.hash?_above ?_
  rw [pins.maxHeight_eq]
  exact above point member

theorem Pins.add_layer (pins : table.Pins network points)
    (range : ∀ point ∈ layer, greatest points < point.1 ∧ point.1 ≤ Checkpoint.maxHeight) :
    (table.writeAll (layer.map .ofPoint)).Shaped ∧
      (∀ height hash, (table.writeAll (layer.map .ofPoint)).hash? height = some hash ↔
        (height, hash) ∈ points ∨ layer.lookup height = some hash) ∧
      ∀ height difficulty, (table.writeAll (layer.map .ofPoint)).difficulty? height = some difficulty ↔
        (height, difficulty) ∈ hardcodedDifficulties network := by
  have inRange : ∀ pin ∈ layer.map Pin.ofPoint, pin.height ≤ Checkpoint.maxHeight := by
    intro pin member
    obtain ⟨point, inLayer, rfl⟩ := List.mem_map.mp member
    exact (range point inLayer).2
  have above : ∀ point ∈ layer, table.maxHeight < point.1 := by
    rw [pins.maxHeight_eq]
    exact fun point member => (range point member).1
  refine ⟨pins.shaped.writeAll inRange, fun height hash => ?_, fun height difficulty => ?_⟩
  · rw [pins.shaped.hash?_layer above, pins.hashes]
  · rw [difficulty?_writeAll_ofPoint, pins.difficulties]

end Table

theorem Findings.records_range (found : Findings) : ∀ point ∈ found.records,
    greatest (hardcodedPoints found.network ++ found.lines) < point.1 ∧ point.1 ≤ maxHeight := by
  unfold records
  cases found.feed with
  | none => exact List.forall_mem_nil _
  | some fetched => exact FeedRecord.pointsAbove_range

theorem Table.Pins.merges {found : Findings} {table : Table}
    (pins : table.Pins found.network (hardcodedPoints found.network ++ found.lines)) :
    found.Merges (table.writeAll (found.records.map .ofPoint)).freeze := by
  rcases pins.add_layer found.records_range with ⟨shaped, hashes, difficulties⟩
  have frozenShape := shaped.freeze
  refine ⟨rfl, fun height hash => ?_, frozenShape.pointsDistinct, fun height difficulty => ?_⟩
  · refine (shaped.mem_points_iff height hash).trans ((hashes height hash).trans ?_)
    rw [List.mem_append, or_assoc]
  · exact (shaped.mem_difficulties_iff height difficulty).trans (difficulties height difficulty)

/-- What the stage of the hashfile leaves: it is fine if what was found is, and then the lines lie over the
hardcoded checkpoints. -/
structure Findings.FileTaken (found : Findings) (after : Table) (fine : Bool) : Prop where
  opened : after.frozen = false
  isFine : fine = true ↔ (¬∃ fault, found.file = .error (.source fault)) ∧ ¬Contradictory found.lines
  pins : fine = true → after.Pins found.network (hardcodedPoints found.network ++ found.lines)

namespace Findings

variable {found : Findings} {after : Table} {fine : Bool}

theorem FileTaken.without_feed (taken : found.FileTaken after fine) (noFeed : found.feed = none) :
    (fine = true ↔ ¬found.Fails) ∧ (fine = true → found.Merges after.freeze) := by
  have noRecords : found.records = [] := by
    rw [records, noFeed]
  refine ⟨?_, fun wasFine => ?_⟩
  · rw [taken.isFine, Fails, noFeed]
    simp
  · have merges := (taken.pins wasFine).merges
    rw [noRecords] at merges
    exact merges

theorem FileTaken.with_feed (taken : found.FileTaken after fine) {fetched : Except FeedError (List String)}
    (isFeed : found.feed = some fetched) {feedFine : Bool}
    (isFeedFine : feedFine = true ↔ ¬∃ error, fetched = .error error) :
    ((Load.weigh found.required fine feedFine).1 = true ↔ ¬found.Fails) ∧
      ((Load.weigh found.required fine feedFine).1 = true → found.Merges
        (after.writeAll ((FeedRecord.pointsAbove after.maxHeight fetched).map .ofPoint)).freeze) := by
  refine ⟨?_, fun wasFine => ?_⟩
  · rw [Load.weigh_eq_true_iff, taken.isFine, isFeedFine, Fails, isFeed]
    simp only [not_or, not_and, Option.some.injEq, and_assoc]
  · have pins := taken.pins ((Load.weigh_eq_true_iff _ _ _).mp wasFine).1
    have isRecords : found.records = FeedRecord.pointsAbove after.maxHeight fetched := by
      rw [records, isFeed, pins.maxHeight_eq]
    rw [← isRecords]
    exact pins.merges

end Findings

theorem Findings.Merges.hash?_eq_some_iff {found : Findings} {table : Table} (merges : found.Merges table)
    (height : Nat) (hash : Hash) : table.hash? height = some hash ↔
      (height, hash) ∈ hardcodedPoints found.network ∨ (height, hash) ∈ found.lines ∨
        found.records.lookup height = some hash :=
  (lookup_eq_some_iff_mem merges.distinct height hash).trans (merges.points height hash)

section Build

variable (world : World) (web : Feed.Web) (config : Config) (given : Option FeedSource)
  (remote : Option Bool)

def loadOf : Loaded :=
  (Load.mk (Table.empty.seed config.network).table []).takeAll
    (feedFor config given (remote.getD config.feed.enabled)) config.feed.required world.files world.here
    web config.checkpointsPath config.network (remote.getD config.feed.enabled)

theorem build_answer :
    (build world web config given remote).answer =
      match (loadOf world web config given remote).answer with
      | .error e => .error (.load e)
      | .ok false => .error (.notLoaded config.network)
      | .ok true =>
          .ok ⟨(loadOf world web config given remote).load.table.freeze,
            (loadOf world web config given remote).load.reports⟩ := by
  unfold build
  simp only [(Table.seed_empty config.network).1]
  change Built.answer (match (loadOf world web config given remote).answer with
    | .error e => _
    | .ok false => _
    | .ok true => _) = _
  rcases (loadOf world web config given remote).answer with error | _ | _ <;> rfl

theorem file_stage {found : Findings}
    (isFound : findings world web config given remote = found) (fit : ¬Hashfile.BreaksOff found.file) :
    ∃ (after : Table) (fine : Bool),
      ((Load.mk (Table.empty.seed found.network).table []).takeFileAt world.files config.checkpointsPath
        (.int (Table.empty.seed found.network).table.maxHeight)).outcome = (after, .ok fine) ∧
      found.FileTaken after fine := by
  have seeded := Table.seed_pins found.network
  have range : ∀ point ∈ found.lines,
      greatest (hardcodedPoints found.network) < point.1 ∧ point.1 ≤ maxHeight :=
    Hashfile.pointsAbove_range
  have file : Hashfile.readAt world.files config.checkpointsPath = found.file := by
    rw [← isFound]
    rfl
  obtain ⟨name, same⟩ := Load.takeFileAt_eq_takeFile (Load.mk (Table.empty.seed found.network).table [])
    world.files config.checkpointsPath (.int (Table.empty.seed found.network).table.maxHeight)
  obtain ⟨after, fine, outcome, opened, isFine, written⟩ :=
    Load.takeFile_outcome (Load.mk (Table.empty.seed found.network).table []) name
      (Table.empty.seed found.network).table.maxHeight (Table.seed_opened found.network) fit
      (fun lines isFile => Hashfile.readAt_writable (file.trans isFile))
  rw [seeded.maxHeight_eq] at isFine written
  have agreement : (Table.empty.seed found.network).table.Agrees found.lines ↔
      ¬Contradictory found.lines :=
    Table.agrees_iff_of_free (seeded.free fun point member => (range point member).1)
  refine ⟨after, fine, ?_, opened, isFine.trans (and_congr_right' agreement), fun wasFine => ?_⟩
  · rw [same, file, outcome]
  · have consistent := (isFine.trans (and_congr_right' agreement)).mp wasFine
    rcases seeded.add_layer range with ⟨shaped, hashes, difficulties⟩
    have isAfter : after = (Table.empty.seed found.network).table.writeAll (found.lines.map .ofPoint) :=
      written wasFine
    rw [← isAfter] at shaped hashes difficulties
    refine ⟨shaped, fun height hash => ?_, difficulties⟩
    rw [hashes, lookup_iff_mem_of_consistent consistent.2, List.mem_append]

theorem loadOf_of_file_breaksOff
    (broken : Hashfile.BreaksOff (Hashfile.readAt world.files config.checkpointsPath)) :
    ∃ error, ∀ remote, (loadOf world web config given remote).answer = .error error := by
  obtain ⟨name, same⟩ := Load.takeFileAt_eq_takeFile
    (Load.mk (Table.empty.seed config.network).table []) world.files config.checkpointsPath
    (.int (Table.empty.seed config.network).table.maxHeight)
  rcases Load.takeFile_of_breaksOff broken with ⟨error, answer⟩
  exact ⟨error, fun _ => Load.takeAll_of_file_error ((congrArg Prod.snd same).trans answer) _⟩

theorem loadOf_of_breaksOff (broken : (findings world web config given remote).BreaksOff) :
    ∃ error, (loadOf world web config given remote).answer = .error error := by
  by_cases fileBroken : Hashfile.BreaksOff (findings world web config given remote).file
  · rcases loadOf_of_file_breaksOff world web config given fileBroken with ⟨error, answer⟩
    exact ⟨error, answer remote⟩
  · obtain ⟨after, fine, outcome, _⟩ := file_stage world web config given remote rfl fileBroken
    rcases broken.resolve_left fileBroken with ⟨fetched, isFeed, feedBroken⟩
    unfold findings at isFeed
    dsimp only at isFeed
    split at isFeed
    · rename_i asked
      cases isFeed
      obtain ⟨error, answer⟩ := Load.takeFeed_of_breaksOff feedBroken
      refine ⟨error, ?_⟩
      unfold loadOf
      rw [asked]
      exact Load.takeAll_of_feed_error (congrArg Prod.snd outcome) answer
    · cases isFeed

/-- A load from which no error escapes is fine exactly when its sources are, and then it holds what was
found. -/
theorem loadOf_of_fit (fit : ¬(findings world web config given remote).BreaksOff) :
    ∃ fine, (loadOf world web config given remote).answer = .ok fine ∧
      (fine = true ↔ ¬(findings world web config given remote).Fails) ∧
      (fine = true → (findings world web config given remote).Merges
        (loadOf world web config given remote).load.table.freeze) := by
  generalize isFound : findings world web config given remote = found at fit ⊢
  have network : found.network = config.network := by
    rw [← isFound]
    rfl
  have required : found.required = config.feed.required := by
    rw [← isFound]
    rfl
  rcases not_or.mp fit with ⟨fileFit, feedFit⟩
  obtain ⟨after, fine, outcome, taken⟩ := file_stage world web config given remote isFound fileFit
  rw [network] at outcome
  unfold loadOf
  cases asked : remote.getD config.feed.enabled with
  | false =>
      have noFeed : found.feed = none := by
        rw [← isFound, findings, asked, if_neg Bool.false_ne_true]
      obtain ⟨table, answer⟩ := Load.takeAll_without_feed outcome
      rw [table]
      exact ⟨fine, answer, taken.without_feed noFeed⟩
  | true =>
      -- The feed is asked even if the hashfile was not fine; then the table is not looked at.
      generalize isFetched : ((feedFor config given true).fetch world.here web config.network).answer = fetched
      have isFeed : found.feed = some fetched := by
        rw [← isFound, ← isFetched, findings, asked, if_pos rfl]
      have fetchedFit : ¬FeedRecord.BreaksOff fetched := fun broken =>
        feedFit ⟨fetched, isFeed, broken⟩
      have fileTable := congrArg Prod.fst outcome
      dsimp only [LoadStep.outcome] at fileTable
      obtain ⟨feedFine, fed, isFeedFine⟩ := Load.takeFeed_outcome _ config.network
        ((congrArg Table.frozen fileTable).trans taken.opened) fetchedFit
      rw [fileTable, ← isFetched] at fed
      obtain ⟨table, answer⟩ := Load.takeAll_with_feed outcome fed
      rw [isFetched] at table
      rw [table]
      have merged := taken.with_feed isFeed isFeedFine
      rw [required] at merged
      exact ⟨_, answer, merged⟩

theorem not_answers_of_breaksOff (broken : (findings world web config given remote).BreaksOff) :
    (∃ error, (build world web config given remote).answer = .error (.load error)) ∧
      ¬(findings world web config given remote).Answers (build world web config given remote).answer := by
  rcases loadOf_of_breaksOff world web config given remote broken with ⟨error, loaded⟩
  have isAnswer := build_answer world web config given remote
  rw [loaded] at isAnswer
  refine ⟨⟨error, isAnswer⟩, fun answers => ?_⟩
  by_cases fails : (findings world web config given remote).Fails
  · have refused := answers.refused.mpr fails
    rw [isAnswer] at refused
    cases refused
  · obtain ⟨load, built, _⟩ := answers.merged fails
    rw [isAnswer] at built
    cases built

theorem fit_of_build {load : Load} (built : (build world web config given remote).answer = .ok load) :
    ¬(findings world web config given remote).BreaksOff := by
  intro broken
  rcases not_answers_of_breaksOff world web config given remote broken with ⟨⟨error, escaped⟩, _⟩
  cases built.symm.trans escaped

theorem merges_of_build {load : Load} (built : (build world web config given remote).answer = .ok load) :
    (findings world web config given remote).Merges load.table := by
  obtain ⟨fine, loaded, _, merges⟩ := loadOf_of_fit world web config given remote
    (fit_of_build world web config given remote built)
  rw [build_answer, loaded] at built
  cases fine with
  | false => cases built
  | true =>
      cases built
      exact merges rfl

/-- A build from which no error escapes has a table exactly when its sources are fine, and else refuses them. -/
theorem build_of_fit (fit : ¬(findings world web config given remote).BreaksOff) :
    (findings world web config given remote).Fails ∧
        (build world web config given remote).answer = .error (.notLoaded config.network) ∨
      ¬(findings world web config given remote).Fails ∧
        ∃ load, (build world web config given remote).answer = .ok load := by
  obtain ⟨fine, loaded, isFine, _⟩ := loadOf_of_fit world web config given remote fit
  rw [build_answer, loaded]
  cases fine with
  | false => exact Or.inl ⟨by simpa using isFine, rfl⟩
  | true => exact Or.inr ⟨isFine.mp rfl, _, rfl⟩

theorem build_eq_ok_iff :
    (∃ load, (build world web config given remote).answer = .ok load) ↔
      ¬(findings world web config given remote).BreaksOff ∧ ¬(findings world web config given remote).Fails := by
  constructor
  · intro built
    rcases built with ⟨load, built⟩
    have fit := fit_of_build world web config given remote built
    rcases build_of_fit world web config given remote fit with ⟨_, refused⟩ | ⟨sound, _⟩
    · cases built.symm.trans refused
    · exact ⟨fit, sound⟩
  · intro both
    rcases both with ⟨fit, sound⟩
    rcases build_of_fit world web config given remote fit with ⟨fails, _⟩ | ⟨_, built⟩
    · exact absurd fails sound
    · exact built

theorem hash?_of_build {load : Load} (built : (build world web config given remote).answer = .ok load)
    {height : Nat} {hash : Hash} (hardcoded : (height, hash) ∈ hardcodedPoints config.network) :
    load.table.hash? height = some hash := by
  have merges := merges_of_build world web config given remote built
  exact (merges.hash?_eq_some_iff height hash).mpr (Or.inl hardcoded)

end Build

/-- A build answers as its sources demand exactly when no error escapes while they are read; otherwise it
ends in that error. -/
theorem build_answers_iff (world : World) (web : Feed.Web) (config : Config)
    (given : Option FeedSource) (remote : Option Bool) :
    let found := findings world web config given remote
    let answer := (build world web config given remote).answer
    (found.Answers answer ↔ ¬found.BreaksOff) ∧
      (found.BreaksOff ↔ ∃ error, answer = .error (.load error)) := by
  intro found answer
  have isAnswer : answer = _ := build_answer world web config given remote
  by_cases broken : found.BreaksOff
  · rcases not_answers_of_breaksOff world web config given remote broken with ⟨escaped, unanswered⟩
    exact ⟨iff_of_false unanswered (not_not_intro broken), iff_of_true broken escaped⟩
  · rcases loadOf_of_fit world web config given remote broken with ⟨fine, loaded, isFine, merges⟩
    rw [loaded] at isAnswer
    have noEscape : ¬∃ error, answer = .error (.load error) := by
      intro escaped
      rcases escaped with ⟨error, wrong⟩
      rw [isAnswer] at wrong
      cases fine <;> cases wrong
    refine ⟨iff_of_true ?_ broken, iff_of_false broken noEscape⟩
    cases fine with
    | false =>
        have fails : found.Fails := by
          by_contra sound
          exact Bool.false_ne_true (isFine.mpr sound)
        exact ⟨iff_of_true isAnswer fails, fun sound => absurd fails sound⟩
    | true =>
        have sound := isFine.mp rfl
        refine ⟨iff_of_false (fun refused => ?_) sound, fun _ => ⟨_, isAnswer, merges rfl⟩⟩
        rw [isAnswer] at refused
        cases refused

def World.bare : World := ⟨⟨[], []⟩, ⟨fun _ => .failed, fun _ _ => 0⟩⟩

def testnetAlone : Config :=
  { Config.default with network := .testnet, checkpointsFile := none }

def World.holding (octets : List UInt8) : World :=
  { World.bare with files := ⟨[], [(["hashes"], .file octets)]⟩ }

def World.heldPlace : Path := ⟨.slash, ["hashes"]⟩

theorem World.find_heldPlace (octets : List UInt8) :
    (World.holding octets).files.find World.heldPlace = .file octets := rfl

def testnetHolding : Config :=
  { testnetAlone with checkpointsFile := some World.heldPlace }

/-- One malformed record is not always dropped: here the sources are fine, and there is no table. -/
theorem build_unanswered_on_long_height :
    let record := String.ofList (List.replicate 4301 '1' ++ ':' :: List.replicate 64 'a')
    let feed : FeedSource := .fixed [(.testnet, [record])]
    let found := findings .bare (.scripted []) testnetAlone (some feed) (some true)
    let answer := (build .bare (.scripted []) testnetAlone (some feed) (some true)).answer
    ¬found.Fails ∧ (∃ error, answer = .error (.load error)) ∧ ¬found.Answers answer := by
  intro record feed found answer
  have noFile : found.file = .ok none := rfl
  have isFeed : found.feed = some (.ok [record]) := rfl
  have overlong : FeedRecord.Overlong record := FeedRecord.overlong_of_ones (by decide) _
  have broken : found.BreaksOff :=
    Or.inr ⟨_, isFeed, Or.inr ⟨_, rfl, record, List.mem_singleton_self record, overlong⟩⟩
  have sound : ¬found.Fails := by
    intro fails
    rcases fails with ⟨fault, impossible⟩ | ⟨first, member, _⟩ | ⟨required, _⟩
    · rw [noFile] at impossible
      cases impossible
    · rw [Findings.lines, noFile] at member
      cases member
    · cases required
  exact ⟨sound, not_answers_of_breaksOff _ _ _ _ _ broken⟩

end ReorgGuard.Checkpoint
