import Mathlib.Data.Set.Card
import ReorgGuard.Proofs.Source.Ordering
import ReorgGuard.Proofs.Source.WrittenHashfile
import ReorgGuard.Proofs.Verification

/-!
The verdict on a hashfile.

The run that verifies a file ends with zero exactly if its readable lines give no height two hashes and no
hardcoded height another one.  The candidate table keeps only the first hash of a height, so a line against
a hardcoded checkpoint may be seen as a conflict of tables or as a refused repetition; in each order of the
lines one of the two is noticed.  Lines that cannot be read decide nothing.

Only runs with a usable configuration are looked at, and the journal is left aside.
-/

namespace ReorgGuard.Checkpoint

def HashLine.Gives (line : HashLine) (height : Nat) (hash : Hash) : Prop :=
  Height.ofValue (.int line.height) = .ok height ∧ Hash.ofValue (.text line.hash) = .ok hash

def HashLine.point? (line : HashLine) : Option (Nat × Hash) :=
  Entry.point? ⟨.int line.height, .text line.hash⟩

theorem HashLine.point?_eq_some_iff {line : HashLine} {height : Nat} {hash : Hash} :
    line.point? = some (height, hash) ↔ line.Gives height hash :=
  Entry.point?_eq_some_iff

namespace Hashfile

variable {lines others : List HashLine}

theorem points_eq_filterMap (lines : List HashLine) : points lines = lines.filterMap HashLine.point? := by
  rw [points, entries, List.filterMap_map]
  rfl

theorem mem_points_iff {height : Nat} {hash : Hash} :
    (height, hash) ∈ points lines ↔ ∃ line ∈ lines, line.Gives height hash := by
  rw [points_eq_filterMap, List.mem_filterMap]
  simp only [HashLine.point?_eq_some_iff]

/-- The lines that can be read. -/
def readable (lines : List HashLine) : List HashLine :=
  lines.filter fun line => line.point?.isSome

theorem points_readable (lines : List HashLine) : points (readable lines) = points lines := by
  rw [points_eq_filterMap, points_eq_filterMap, readable, List.filterMap_filter]
  apply List.filterMap_congr
  intro line _
  cases line.point? <;> rfl

theorem points_perm (same : (readable lines).Perm (readable others)) : (points lines).Perm (points others) := by
  rw [← points_readable lines, ← points_readable others, points_eq_filterMap, points_eq_filterMap]
  exact same.filterMap _

/-- No height is given two hashes, and no hardcoded height another one. -/
structure Sound (network : Network) (lines : List HashLine) : Prop where
  single : ∀ first ∈ lines, ∀ second ∈ lines, ∀ height one other,
    first.Gives height one → second.Gives height other → one = other
  asHardcoded : ∀ line ∈ lines, ∀ height hash expected,
    line.Gives height hash → (height, expected) ∈ hardcodedPoints network → hash = expected

theorem sound_iff (network : Network) (lines : List HashLine) :
    Sound network lines ↔ ¬Contradictory (hardcodedPoints network ++ points lines) := by
  constructor
  · intro sound contradictory
    obtain ⟨⟨height, one⟩, isFirst, ⟨_, other⟩, isSecond, rfl, different⟩ := contradictory
    rcases List.mem_append.mp isFirst with first | first <;>
      rcases List.mem_append.mp isSecond with second | second
    · have pinned := (lookup_eq_some_iff_mem (hardcodedPoints_nodup network) height one).mpr first
      rw [(lookup_eq_some_iff_mem (hardcodedPoints_nodup network) height other).mpr second] at pinned
      exact different (Option.some.inj pinned).symm
    · obtain ⟨line, member, gives⟩ := mem_points_iff.mp second
      exact different (sound.asHardcoded line member height other one gives first).symm
    · obtain ⟨line, member, gives⟩ := mem_points_iff.mp first
      exact different (sound.asHardcoded line member height one other gives second)
    · obtain ⟨line, member, gives⟩ := mem_points_iff.mp first
      obtain ⟨line', member', gives'⟩ := mem_points_iff.mp second
      exact different (sound.single line member line' member' height one other gives gives')
  · intro consistent
    constructor
    · intro first isFirst second isSecond height one other gives gives'
      by_contra different
      exact consistent ⟨(height, one), List.mem_append_right _ (mem_points_iff.mpr ⟨first, isFirst, gives⟩),
        (height, other), List.mem_append_right _ (mem_points_iff.mpr ⟨second, isSecond, gives'⟩), rfl, different⟩
    · intro line member height hash expected gives hardcoded
      by_contra different
      exact consistent ⟨(height, hash), List.mem_append_right _ (mem_points_iff.mpr ⟨line, member, gives⟩),
        (height, expected), List.mem_append_left _ hardcoded, rfl, different⟩

def newHeights (network : Network) (lines : List HashLine) : Set Nat :=
  {height | (∃ line ∈ lines, ∃ hash, line.Gives height hash) ∧ greatest (hardcodedPoints network) < height}

end Hashfile

namespace Verification

variable {v w : Verification} {network : Network} {lines others : List HashLine}
  (weighs : v.Weighs network (Hashfile.points lines))

include weighs

theorem Weighs.ok_iff_sound : v.ok = true ↔ Hashfile.Sound network lines :=
  weighs.ok_iff.trans (Hashfile.sound_iff network lines).symm

theorem Weighs.newHeights_nodup : v.newHeights.Nodup :=
  (weighs.shaped.ascending.imp Nat.ne_of_lt).filter _

theorem Weighs.length_newHeights : v.newHeights.length = (Hashfile.newHeights network lines).ncard := by
  have listed : Hashfile.newHeights network lines = ↑v.newHeights.toFinset := by
    ext height
    rw [List.coe_toFinset, Set.mem_ofPred_eq, weighs.mem_newHeights_iff, Hashfile.newHeights, Set.mem_ofPred_eq]
    apply and_congr_left
    intro _
    constructor
    · intro given
      obtain ⟨line, member, hash, gives⟩ := given
      exact List.mem_map.mpr ⟨(height, hash), Hashfile.mem_points_iff.mpr ⟨line, member, gives⟩, rfl⟩
    · intro given
      obtain ⟨⟨_, hash⟩, isPoint, rfl⟩ := List.mem_map.mp given
      obtain ⟨line, member, gives⟩ := Hashfile.mem_points_iff.mp isPoint
      exact ⟨line, member, hash, gives⟩
  rw [listed, Set.ncard_coe_finset, List.toFinset_card_of_nodup weighs.newHeights_nodup]

theorem Weighs.congr (weighsOther : w.Weighs network (Hashfile.points others))
    (same : (Hashfile.readable lines).Perm (Hashfile.readable others)) :
    v.ok = w.ok ∧ v.newHeights.length = w.newHeights.length := by
  have points := Hashfile.points_perm same
  constructor
  · rw [Bool.eq_iff_iff, weighs.ok_iff, weighsOther.ok_iff]
    exact (contradictory_perm (points.append_left _)).not
  · apply List.Perm.length_eq
    apply (List.perm_ext_iff_of_nodup weighs.newHeights_nodup weighsOther.newHeights_nodup).mpr
    intro height
    rw [weighs.mem_newHeights_iff, weighsOther.mem_newHeights_iff, mem_heights_perm points]

end Verification

end ReorgGuard.Checkpoint

namespace ReorgGuard.Command

open ReorgGuard.Checkpoint
open ReorgGuard.Settings (Config)

/-- The command line asks for the verification of a file that holds these lines, for a network. -/
def AsksAbout (here : Situation) (arguments : List String) (network : Network) (lines : List HashLine) : Prop :=
  ∃ i path config, Invocation.read arguments = .ok i ∧ i.version = false ∧
    i.request = some (.verifyFile path) ∧ configure here i = .ok config ∧ config.network = network ∧
    Hashfile.read here.world.files path = .ok (some lines)

theorem run_of_asksAbout {here : Situation} {arguments : List String} {network : Network} {lines : List HashLine}
    (asks : AsksAbout here arguments network lines) :
    ∃ ended v, run here arguments = .ok ended ∧ v.Weighs network (Hashfile.points lines) ∧
      ended.exit = exitOf v.ok ∧ ended.output = verificationText v := by
  obtain ⟨i, path, config, read, noVersion, isRequest, configured, rfl, isRead⟩ := asks
  obtain ⟨v, verified, weighs⟩ := Verification.verify_of_writable config.network path.text
    (Hashfile.read_writable isRead)
  have performed : ∃ ended, perform here i (.verifyFile path) = .ok ended ∧
      ended.exit = exitOf v.ok ∧ ended.output = verificationText v := by
    unfold perform verifyFile
    simp only [configured, bind, Except.bind, isRead, verified]
    exact ⟨_, rfl, rfl, rfl⟩
  obtain ⟨ended, performed, exit, output⟩ := performed
  refine ⟨ended, v, ?_, weighs, exit, output⟩
  unfold run
  simp only [read, noVersion, isRequest, performed, Bool.false_eq_true, if_false]

theorem exitOf_eq_one_iff {verdict : Bool} : exitOf verdict = 1 ↔ ¬verdict = true := by
  cases verdict <;> decide

/-- A run that verifies a file says zero exactly if the readable lines of the file are sound, and one otherwise.
It counts the new heights among them.  Every run for the same network about a file with the same readable
lines, in whatever order and whatever unreadable ones stand between them, ends alike. -/
theorem verdict_on_file_exact {here : Situation} {arguments : List String} {network : Network}
    {lines : List HashLine} (asks : AsksAbout here arguments network lines) :
    ∃ ended v, run here arguments = .ok ended ∧ ended.output = verificationText v ∧
      (ended.exit = 0 ↔ Hashfile.Sound network lines) ∧ (ended.exit = 1 ↔ ¬Hashfile.Sound network lines) ∧
      v.hardcoded.maxHeight = greatest (hardcodedPoints network) ∧
      v.newHeights.length = (Hashfile.newHeights network lines).ncard ∧
      ∀ (there : Situation) (words : List String) (others : List HashLine),
        AsksAbout there words network others → (Hashfile.readable lines).Perm (Hashfile.readable others) →
        ∃ again w, run there words = .ok again ∧ again.output = verificationText w ∧
          again.exit = ended.exit ∧ w.hardcoded.maxHeight = v.hardcoded.maxHeight ∧
          w.newHeights.length = v.newHeights.length := by
  obtain ⟨ended, v, ran, weighs, exit, output⟩ := run_of_asksAbout asks
  refine ⟨ended, v, ran, output, ?_, ?_, weighs.maxHeight_eq, weighs.length_newHeights, ?_⟩
  · rw [exit, exitOf_eq_zero_iff, weighs.ok_iff_sound]
  · rw [exit, exitOf_eq_one_iff, weighs.ok_iff_sound]
  · intro there words others asksAgain same
    obtain ⟨again, w, ranAgain, weighsAgain, exitAgain, outputAgain⟩ := run_of_asksAbout asksAgain
    obtain ⟨verdict, count⟩ := weighs.congr weighsAgain same
    refine ⟨again, w, ranAgain, outputAgain, ?_, ?_, count.symm⟩
    · rw [exit, exitAgain, verdict]
    · rw [weighs.maxHeight_eq, weighsAgain.maxHeight_eq]

def written (points : List (Nat × Hash)) : List (Nat × List UInt8) :=
  points.map fun point => (point.1, point.2.octets)

def holdingPoints (points : List (Nat × Hash)) : Situation :=
  ⟨.holding (Text.toUtf8 (Hashfile.dumpOf (written points) ++ String.ofList [])), .scripted [], [], ⟨"", 0⟩⟩

def verifyHeldFile : List String := ["--network", "testnet", "verify-file", "/hashes"]

theorem asksAbout_holdingPoints (points : List (Nat × Hash)) (inRange : ∀ point ∈ points, point.1 ≤ maxHeight) :
    AsksAbout (holdingPoints points) verifyHeldFile .testnet ((written points).map Hashfile.lineOf) := by
  have short : ∀ point ∈ written points, Numeral.tooLong point.1 = false := by
    intro written member
    obtain ⟨point, isPoint, rfl⟩ := List.mem_map.mp member
    exact Height.writable_of_le (inRange point isPoint)
  have isRead := Hashfile.read_dumpOf short (List.forall_mem_nil _)
    (World.find_heldPlace (Text.toUtf8 (Hashfile.dumpOf (written points) ++ String.ofList [])))
  have network : (configure (holdingPoints points)
      { onTestnet with request := some (.verifyFile World.heldPlace) }).toOption.map Config.network =
        some .testnet := rfl
  cases configured : configure (holdingPoints points)
      { onTestnet with request := some (.verifyFile World.heldPlace) } with
  | error halt =>
      rw [configured] at network
      cases network
  | ok config =>
      rw [configured] at network
      exact ⟨_, World.heldPlace, config, rfl, rfl, rfl, configured, Option.some.inj network, isRead⟩

def testnetGenesis : Hash :=
  ⟨[0x48, 0xca, 0x7c, 0xd3, 0xc8, 0xde, 0x5b, 0x6a, 0x4d, 0x53, 0xd2, 0x86, 0x1f, 0xbd, 0xae, 0xdc,
    0xa1, 0x41, 0x55, 0x35, 0x59, 0xf9, 0xbe, 0x95, 0x20, 0x06, 0x80, 0x53, 0xcd, 0xa8, 0x43, 0x0b], rfl⟩

/-- A second hash for the first block is noticed behind the hardcoded one, where the candidate table does not
keep it, and in front of it. -/
theorem second_genesis_noticed_in_either_order :
    let other : Hash := ⟨List.replicate 32 7, rfl⟩
    (0, testnetGenesis) ∈ hardcodedPoints .testnet ∧
      ∃ ended again, run (holdingPoints [(0, testnetGenesis), (0, other)]) verifyHeldFile = .ok ended ∧
        run (holdingPoints [(0, other), (0, testnetGenesis)]) verifyHeldFile = .ok again ∧
        ended.exit = 1 ∧ again.exit = 1 := by
  intro other
  have inRange : ∀ point ∈ [(0, testnetGenesis), (0, other)], point.1 ≤ maxHeight := by simp
  have asks := asksAbout_holdingPoints _ inRange
  have asksAgain := asksAbout_holdingPoints [(0, other), (0, testnetGenesis)] (by simp)
  obtain ⟨ended, v, ran, _, _, refused, _, _, sameElsewhere⟩ := verdict_on_file_exact asks
  obtain ⟨again, w, ranAgain, _, sameExit, _⟩ := sameElsewhere _ _ _ asksAgain ((List.Perm.swap _ _ _).filter _)
  have unsound : ¬Hashfile.Sound .testnet
      ((written [(0, testnetGenesis), (0, other)]).map Hashfile.lineOf) := by
    intro sound
    have same := sound.single _ List.mem_cons_self _ (List.mem_cons_of_mem _ List.mem_cons_self) 0
      testnetGenesis other ⟨Height.ofInt_natCast (Nat.zero_le _), Hash.ofText_text testnetGenesis⟩
      ⟨Height.ofInt_natCast (Nat.zero_le _), Hash.ofText_text other⟩
    exact absurd same (by decide)
  have one := refused.mpr unsound
  exact ⟨by decide +kernel, ended, again, ran, ranAgain, one, sameExit.trans one⟩

end ReorgGuard.Command
