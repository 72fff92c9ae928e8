import ReorgGuard.Proofs.Build.Merge

/-!
Builds with a hashfile and without a feed.

Such a build succeeds if no two readable lines contradict each other, and its table pins the hardcoded
checkpoints and the readable lines above them.
-/

namespace ReorgGuard.Checkpoint

open ReorgGuard.Settings (Config)

/-! ### The points of a file -/

def Hashfile.points (lines : List HashLine) : List (Nat × Hash) :=
  (entries lines).filterMap Entry.point?

namespace Hashfile

variable {lines : List HashLine}

theorem mem_points_of_line {line : HashLine} (member : line ∈ lines) {height : Nat} {hash : Hash}
    (readHeight : Height.ofValue (.int line.height) = .ok height)
    (readHash : Hash.ofValue (.text line.hash) = .ok hash) : (height, hash) ∈ points lines := by
  refine List.mem_filterMap.mpr ⟨⟨.int line.height, .text line.hash⟩, List.mem_map_of_mem member, ?_⟩
  rw [Entry.point?, readHeight, readHash]

theorem points_bounded : ∀ point ∈ points lines, point.1 ≤ maxHeight := by
  intro point member
  obtain ⟨entry, _, read⟩ := List.mem_filterMap.mp member
  exact entry.height_of_point? read

end Hashfile

theorem Contradictory.mono {points more : List (Nat × Hash)} (contradictory : Contradictory points)
    (included : points ⊆ more) : Contradictory more := by
  rcases contradictory with ⟨first, isFirst, second, isSecond, clash⟩
  exact ⟨first, included isFirst, second, included isSecond, clash⟩

/-- A build with a hashfile and without a feed. -/
structure FileOnly (world : World) (config : Config) (remote : Option Bool) (lines : List HashLine) : Prop where
  file : Hashfile.readAt world.files config.checkpointsPath = .ok (some lines)
  noFeed : remote.getD config.feed.enabled = false

section FileOnly

variable {world : World} {config : Config} {remote : Option Bool} {lines : List HashLine}
  (fileOnly : FileOnly world config remote lines) (web : Feed.Web) (given : Option FeedSource)

include fileOnly

theorem FileOnly.findings_eq :
    findings world web config given remote =
      ⟨config.network, config.feed.required, .ok (some lines), none⟩ := by
  unfold findings
  rw [fileOnly.file, fileOnly.noFeed]
  rfl

theorem FileOnly.build (consistent : ¬Contradictory (Hashfile.points lines)) :
    ∃ load, (Checkpoint.build world web config given remote).answer = .ok load := by
  rw [build_eq_ok_iff, fileOnly.findings_eq]
  constructor
  · intro broken
    rcases broken with (⟨fault, impossible⟩ | impossible) | ⟨fetched, impossible, _⟩ <;> cases impossible
  · intro fails
    rcases fails with ⟨fault, impossible⟩ | contradictory | ⟨_, error, impossible⟩
    · cases impossible
    · exact consistent (contradictory.mono (List.filter_subset_self _))
    · cases impossible

theorem FileOnly.hash?_eq_some_iff {load : Load}
    (built : (Checkpoint.build world web config given remote).answer = .ok load) (height : Nat) (hash : Hash) :
    load.table.hash? height = some hash ↔ (height, hash) ∈ hardcodedPoints config.network ∨
      (height, hash) ∈ Hashfile.points lines ∧ greatest (hardcodedPoints config.network) < height := by
  have merges := merges_of_build world web config given remote built
  rw [merges.hash?_eq_some_iff, fileOnly.findings_eq]
  apply or_congr_right
  have listed : (height, hash) ∈ Findings.lines ⟨config.network, config.feed.required, .ok (some lines), none⟩ ↔
      (height, hash) ∈ Hashfile.points lines ∧ greatest (hardcodedPoints config.network) < height := by
    refine List.mem_filter.trans (and_congr_right' ?_)
    rw [decide_eq_true_eq, Int.ofNat_lt]
  rw [listed]
  refine or_iff_left fun impossible => ?_
  cases impossible

end FileOnly

end ReorgGuard.Checkpoint
