import ReorgGuard.Command.Run
import ReorgGuard.Proofs.Build.FileOnly
import ReorgGuard.Proofs.Store.Lifecycle
import ReorgGuard.Proofs.Tightening

/-!
A verified hashfile and the table that is built with it.

Verifying takes in every line whatever its height, and of the lines for one height the first stands.
Building takes in the lines above the hardcoded checkpoints, and stops at the first contradiction.  What
both come down to is the points of the file: it is fine exactly if they contradict neither the hardcoded
checkpoints nor one another.  A build with a fine file therefore succeeds, pins above the hardcoded
checkpoints what was counted as new, and accepts every line that can be read.

The converse does not hold, and is not claimed: a build never looks at a contradiction among the lines up
to the hardcoded checkpoints.
-/

namespace ReorgGuard.Checkpoint

open ReorgGuard.Settings (Config)

/-! ### What a verification finds -/

namespace Verification

/-- The verification is one of these points against the hardcoded checkpoints of the network. -/
structure Weighs (v : Verification) (network : Network) (points : List (Nat × Hash)) : Prop where
  hardcoded : v.hardcoded = (Table.empty.seed network).table
  /-- Of the points for one height the first stands. -/
  candidate : v.candidate = Table.empty.writeAll (points.map .ofPoint)
  counted : v.report.conflicts = 0 ↔ ¬Contradictory points
  bounded : ∀ point ∈ points, point.1 ≤ maxHeight

theorem verify_of_writable (network : Network) (source : String) {lines : List HashLine}
    (writable : ∀ line ∈ lines, Numeral.tooLong line.height = false) :
    ∃ v, (verify network source lines).answer = .ok v ∧ v.Weighs network (Hashfile.points lines) := by
  obtain ⟨report, _, _, counted, absorbed⟩ := Table.absorbFrom_lenient source (-1) (Report.start source)
    (Hashfile.entries_plain writable) (rfl : Table.empty.frozen = false)
  rw [pointsAbove_all] at counted absorbed
  obtain ⟨table, answer⟩ := Prod.mk.inj absorbed
  have free : ∀ point ∈ Hashfile.points lines, Table.empty.hash? point.1 = none := fun _ _ => rfl
  refine ⟨⟨(Table.empty.seed network).table, _, report, lines.length⟩, ?_, rfl, rfl,
    counted.trans (Table.agrees_iff_of_free free), Hashfile.points_bounded⟩
  unfold verify
  simp only [(Table.seed_empty network).1, Table.absorb, table, answer]
  rfl

theorem weighs_of_verify {network : Network} {source : String} {lines : List HashLine} {v : Verification}
    (writable : ∀ line ∈ lines, Numeral.tooLong line.height = false)
    (verified : (verify network source lines).answer = .ok v) : v.Weighs network (Hashfile.points lines) := by
  obtain ⟨found, answer, weighs⟩ := verify_of_writable network source writable
  cases verified.symm.trans answer
  exact weighs

variable {v : Verification} {network : Network} {points : List (Nat × Hash)}

theorem Weighs.hash?_hardcoded (weighs : v.Weighs network points) {height : Nat} {hash : Hash} :
    v.hardcoded.hash? height = some hash ↔ (height, hash) ∈ hardcodedPoints network := by
  rw [weighs.hardcoded]
  exact Table.hash?_seed_eq_some_iff

theorem Weighs.maxHeight_eq (weighs : v.Weighs network points) :
    v.hardcoded.maxHeight = greatest (hardcodedPoints network) := by
  rw [weighs.hardcoded]
  exact (Table.seed_pins network).maxHeight_eq

theorem Weighs.hash?_candidate (weighs : v.Weighs network points) (height : Nat) :
    v.candidate.hash? height = points.lookup height := by
  rw [weighs.candidate, Table.hash?_writeAll_ofPoint]
  rfl

theorem Weighs.difficulty?_candidate (weighs : v.Weighs network points) (height : Nat) :
    v.candidate.difficulty? height = none := by
  rw [weighs.candidate, Table.difficulty?_writeAll_ofPoint]
  rfl

theorem Weighs.shaped (weighs : v.Weighs network points) : v.candidate.Shaped := by
  rw [weighs.candidate]
  apply Table.shaped_empty.writeAll
  intro pin member
  obtain ⟨point, isPoint, rfl⟩ := List.mem_map.mp member
  exact weighs.bounded point isPoint

theorem Weighs.conflicts_eq_nil_iff (weighs : v.Weighs network points) :
    v.conflicts = [] ↔ ∀ height ours theirs, (height, ours) ∈ hardcodedPoints network →
      points.lookup height = some theirs → ours = theirs := by
  rw [conflicts, List.eq_nil_iff_forall_not_mem]
  simp only [Table.mem_conflicts_iff weighs.shaped]
  constructor
  · intro none height ours theirs hardcoded offered
    by_contra different
    refine none (.hash height ours theirs) ⟨weighs.hash?_hardcoded.mpr hardcoded, ?_, different⟩
    rw [weighs.hash?_candidate, offered]
  · intro same conflict holds
    cases conflict with
    | hash height ours theirs =>
        rcases holds with ⟨pinned, offered, different⟩
        rw [weighs.hash?_candidate] at offered
        exact different (same height ours theirs (weighs.hash?_hardcoded.mp pinned) offered)
    | difficulty height ours theirs =>
        rcases holds with ⟨_, known, _⟩
        rw [weighs.difficulty?_candidate] at known
        cases known

/-- A file is fine exactly if its points contradict neither the hardcoded checkpoints nor one another. -/
theorem Weighs.ok_iff (weighs : v.Weighs network points) :
    v.ok = true ↔ ¬Contradictory (hardcodedPoints network ++ points) := by
  have single {height : Nat} {one other : Hash} (first : (height, one) ∈ hardcodedPoints network)
      (second : (height, other) ∈ hardcodedPoints network) : one = other := by
    have pinned := weighs.hash?_hardcoded.mpr first
    rw [weighs.hash?_hardcoded.mpr second] at pinned
    exact (Option.some.inj pinned).symm
  rw [ok, Bool.and_eq_true, List.isEmpty_iff, beq_iff_eq, weighs.conflicts_eq_nil_iff, weighs.counted]
  constructor
  · intro fine contradictory
    -- Where the two points of a contradiction lie decides which of the two checks has found it.
    rcases fine with ⟨agreed, consistent⟩
    rcases contradictory with ⟨⟨height, one⟩, isFirst, ⟨_, other⟩, isSecond, rfl, different⟩
    rcases List.mem_append.mp isFirst with first | first <;>
      rcases List.mem_append.mp isSecond with second | second
    · exact different (single first second)
    · exact different (agreed _ _ _ first ((lookup_iff_mem_of_consistent consistent).mpr second))
    · exact different (agreed _ _ _ second ((lookup_iff_mem_of_consistent consistent).mpr first)).symm
    · exact consistent ⟨_, first, _, second, rfl, different⟩
  · intro consistent
    refine ⟨fun height ours theirs hardcoded offered => ?_, fun contradictory => ?_⟩
    · by_contra different
      exact consistent ⟨_, List.mem_append_left _ hardcoded, _,
        List.mem_append_right _ (mem_of_lookup offered), rfl, different⟩
    · exact consistent (contradictory.mono (List.subset_append_right _ _))

theorem Weighs.mem_newHeights_iff (weighs : v.Weighs network points) (height : Nat) :
    height ∈ v.newHeights ↔ height ∈ points.map Prod.fst ∧ greatest (hardcodedPoints network) < height := by
  rw [newHeights, List.mem_filter, weighs.shaped.mem_heights_iff, Table.pinned_iff_hash?_isSome,
    weighs.hash?_candidate, lookup_isSome_iff_mem_map, weighs.maxHeight_eq, decide_eq_true_eq]

end Verification

/-! ### A build with a fine file -/

namespace Verification

/-- What a table that was built with a file owes to a verification of its lines. -/
structure Foretells (v : Verification) (lines : List HashLine) (table : Table) : Prop where
  /-- Above the hardcoded checkpoints the table pins the heights that were counted as new. -/
  newHeights : table.heights.filter (v.hardcoded.maxHeight < ·) = v.newHeights
  /-- Every line that can be read is accepted at its own height. -/
  accepts : ∀ line ∈ lines, ∀ (height : Nat) (hash : Hash), Height.ofValue (.int line.height) = .ok height →
    Hash.ofValue (.text line.hash) = .ok hash →
      (table.check height (.text line.hash)).check.accepted = true

/-- The table of a build with a fine file is as its verification says. -/
theorem Weighs.foretells {v : Verification} {lines : List HashLine} {world : World} {config : Config}
    {remote : Option Bool} (weighs : v.Weighs config.network (Hashfile.points lines)) (fine : v.ok = true)
    (fileOnly : FileOnly world config remote lines) (web : Feed.Web) (given : Option FeedSource) :
    ∃ load, (build world web config given remote).answer = .ok load ∧ v.Foretells lines load.table := by
  have consistent := weighs.ok_iff.mp fine
  obtain ⟨load, built⟩ := fileOnly.build web given fun contradictory =>
    consistent (contradictory.mono (List.subset_append_right _ _))
  have shaped := shaped_of_build built
  have pinned := fileOnly.hash?_eq_some_iff web given built
  refine ⟨load, built, ?_, fun line member height hash readHeight readHash => ?_⟩
  · refine eq_of_ascending (shaped.ascending.filter _) (weighs.shaped.ascending.filter _) fun height => ?_
    rw [weighs.mem_newHeights_iff, List.mem_filter, decide_eq_true_eq, weighs.maxHeight_eq]
    refine and_congr_left fun above => ?_
    rw [shaped.mem_heights_iff, Table.pinned_iff_hash?_isSome, Option.isSome_iff_exists, List.mem_map]
    constructor
    · intro isPinned
      rcases isPinned with ⟨hash, held⟩
      rcases (pinned height hash).mp held with hardcoded | ⟨isLine, _⟩
      · have atMost := le_greatest hardcoded
        omega
      · exact ⟨_, isLine, rfl⟩
    · intro listed
      rcases listed with ⟨⟨_, hash⟩, isLine, rfl⟩
      exact ⟨hash, (pinned _ hash).mpr (Or.inr ⟨isLine, above⟩)⟩
  · have isPoint := Hashfile.mem_points_of_line member readHeight readHash
    rw [Table.check_accepted_iff, Table.pinned?_natCast, readHash]
    intro expected held
    by_contra different
    have clash : expected ≠ hash := fun same => different (congrArg _ same.symm)
    rcases (pinned height expected).mp held with hardcoded | ⟨isLine, _⟩
    · exact consistent ⟨_, List.mem_append_left _ hardcoded, _, List.mem_append_right _ isPoint, rfl, clash⟩
    · exact consistent ⟨_, List.mem_append_right _ isLine, _, List.mem_append_right _ isPoint, rfl, clash⟩

end Verification

end ReorgGuard.Checkpoint

namespace ReorgGuard.Command

open ReorgGuard.Checkpoint
open ReorgGuard.Settings (Config)

theorem exitOf_eq_zero_iff {verdict : Bool} : exitOf verdict = 0 ↔ verdict = true := by
  cases verdict <;> decide

/-- A run that ends with zero has read lines and found them fine. -/
theorem lines_of_passed {here : Situation} {i : Invocation} {path : Path} {ended : Ended}
    (ran : verifyFile here i path = .ok ended) (passed : ended.exit = 0) :
    ∃ config lines v, configure here i = .ok config ∧
      Hashfile.read here.world.files path = .ok (some lines) ∧
      (verify config.network path.text lines).answer = .ok v ∧ v.ok = true ∧
      ended.output = verificationText v := by
  unfold verifyFile at ran
  cases configured : configure here i with
  | error halt =>
      rw [configured] at ran
      cases ran
  | ok config =>
      simp only [configured, bind, Except.bind] at ran
      split at ran
      · cases ran
        cases passed
      · cases ran
      · cases ran
        cases passed
      · rename_i lines isRead
        cases verified : (verify config.network path.text lines).answer with
        | error error =>
            simp only [verified] at ran
            cases ran
        | ok v =>
            simp only [verified] at ran
            cases ran
            exact ⟨config, lines, v, rfl, isRead, verified, exitOf_eq_zero_iff.mp passed, rfl⟩

/-- If a file passes its verification, every build for the same network with that file and without a feed
succeeds; its table has above the hardcoded checkpoints the heights that were counted as new, and accepts
every line of the file that can be read. -/
theorem passed_file_loads {here : Situation} {i : Invocation} {path : Path} {ended : Ended}
    (ran : verifyFile here i path = .ok ended) (passed : ended.exit = 0) :
    ∃ config octets lines v, configure here i = .ok config ∧
      here.world.files.find path = .file octets ∧
      Hashfile.read here.world.files path = .ok (some lines) ∧
      (verify config.network path.text lines).answer = .ok v ∧ ended.output = verificationText v ∧
      v.hardcoded.maxHeight = greatest (hardcodedPoints config.network) ∧
      ∀ (world : World) (web : Feed.Web) (next : Config) (place : Path) (given : Option FeedSource)
        (remote : Option Bool),
        next.network = config.network → next.checkpointsPath = some place →
        world.files.find place = .file octets → remote.getD next.feed.enabled = false →
        ∃ store, (Store.bootstrap world web next given remote).2 = .ok store ∧
          v.Foretells lines store.table := by
  obtain ⟨config, lines, v, configured, isRead, verified, fine, output⟩ := lines_of_passed ran passed
  obtain ⟨octets, s, isFile, isText, isHashfile⟩ := Hashfile.read_eq_lines_iff.mp isRead
  have weighs := Verification.weighs_of_verify (Hashfile.read_writable isRead) verified
  refine ⟨config, octets, lines, v, configured, isFile, isRead, verified, output, weighs.maxHeight_eq, ?_⟩
  intro world web next place given remote network isPlace sameFile noFeed
  have fileOnly : FileOnly world next remote lines := by
    refine ⟨?_, noFeed⟩
    rw [isPlace]
    exact Hashfile.read_eq_lines_iff.mpr ⟨octets, s, sameFile, isText, isHashfile⟩
  rw [← network] at weighs
  obtain ⟨load, built, foretold⟩ := weighs.foretells fine fileOnly web given
  exact ⟨_, Store.bootstrap_of_built built, foretold⟩

def sampleText : String :=
  "\x7b\"hashlines\":[\x7b\"height\":5,\"hash\":\"" ++ String.ofList (List.replicate 64 'a') ++
    "\"\x7d,\x7b\"height\":3,\"hash\":\"b\"\x7d]\x7d"

def sampleSituation : Situation :=
  ⟨.holding (Text.toUtf8 sampleText), .scripted [], [], ⟨"", 0⟩⟩

def onTestnet : Invocation := { Invocation.empty with network := some .testnet }

private theorem sample_passes :
    (verifyFile sampleSituation onTestnet World.heldPlace).toOption.map Ended.exit = some 0 := by
  decide +kernel

private theorem onTestnet_network :
    (configure sampleSituation onTestnet).toOption.map Config.network = some .testnet := by
  decide +kernel

theorem sampleText_loads :
    ∃ ended, verifyFile sampleSituation onTestnet World.heldPlace = .ok ended ∧ ended.exit = 0 ∧
      ∃ (store : Store) (lines : List HashLine) (v : Verification),
        (Store.bootstrap sampleSituation.world (.scripted []) testnetHolding none none).2 = .ok store ∧
        v.Foretells lines store.table := by
  have passes := sample_passes
  cases ran : verifyFile sampleSituation onTestnet World.heldPlace with
  | error halt =>
      rw [ran] at passes
      cases passes
  | ok ended =>
      rw [ran] at passes
      have passed : ended.exit = 0 := Option.some.inj passes
      obtain ⟨config, octets, lines, v, configured, isFile, _, _, _, _, loads⟩ := passed_file_loads ran passed
      have network := onTestnet_network
      rw [configured] at network
      obtain ⟨store, started, foretold⟩ := loads sampleSituation.world (.scripted []) testnetHolding
        World.heldPlace none none (Option.some.inj network).symm rfl isFile rfl
      exact ⟨ended, rfl, passed, store, lines, v, started, foretold⟩

end ReorgGuard.Command
