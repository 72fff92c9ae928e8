import ReorgGuard.Command.Run
import ReorgGuard.Proofs.Build.FileOnly
import ReorgGuard.Proofs.Source.WrittenHashfile
import ReorgGuard.Proofs.Store.Lifecycle

/-!
Exported tables as hashfiles.

The export of a table that was built is a hashfile.  Its lines are the pins of the table, and whatever is
not hardcoded among them lies above all that is.  A build for the same network with that file and without a
feed therefore pins the same again, and its export is the same text.

The tables may differ in the order in which their pins were added.
-/

namespace ReorgGuard.Checkpoint

open ReorgGuard.Settings (Config)

/-! ### The lines of an export -/

namespace Hashfile

def octetsOfEntries (entries : List (Nat × Hash)) : List (Nat × List UInt8) :=
  entries.map fun entry => (entry.1, entry.2.octets)

theorem ofTable_eq_dumpOf (table : Table) : ofTable table = dumpOf (octetsOfEntries table.entries) := by
  rw [ofTable, dumpOf, octetsOfEntries, List.map_map]
  rfl

theorem points_of_entries {entries : List (Nat × Hash)} (bounded : ∀ entry ∈ entries, entry.1 ≤ maxHeight) :
    points ((octetsOfEntries entries).map lineOf) = entries := by
  induction entries with
  | nil => rfl
  | cons entry rest ih =>
      rcases entry with ⟨height, hash⟩
      rw [List.forall_mem_cons] at bounded
      have read : Entry.point? ⟨.int height, .text hash.text⟩ = some (height, hash) :=
        Entry.point?_eq_some_iff.mpr ⟨Height.ofInt_natCast bounded.1, Hash.ofText_text hash⟩
      exact (List.filterMap_cons_some read).trans (congrArg _ (ih bounded.2))

/-- The export of a table, with or without the line end behind it, is read as lines whose points are the pins of
the table. -/
theorem read_ofTable {files : Files} {path : Path} {table : Table} {ending : String} (shaped : table.Shaped)
    (isEnding : ending ∈ ["", "\n"])
    (isFile : files.find path = .file (Text.toUtf8 (ofTable table ++ ending))) :
    ∃ lines, read files path = .ok (some lines) ∧ points lines = table.entries := by
  have short : ∀ point ∈ octetsOfEntries table.entries, Numeral.tooLong point.1 = false := by
    intro point member
    obtain ⟨entry, isEntry, rfl⟩ := List.mem_map.mp member
    exact Height.writable_of_le (shaped.entries_bounded entry isEntry)
  obtain ⟨blanks, rfl, blank⟩ :
      ∃ blanks, String.ofList blanks = ending ∧ ∀ c ∈ blanks, c = ' ' ∨ c = '\n' := by
    rcases List.mem_pair.mp isEnding with rfl | rfl
    · exact ⟨[], rfl, by simp⟩
    · exact ⟨['\n'], rfl, by simp⟩
  rw [ofTable_eq_dumpOf] at isFile
  exact ⟨_, read_dumpOf short blank isFile, points_of_entries shaped.entries_bounded⟩

end Hashfile

theorem Findings.Merges.hardcoded_or_above {found : Findings} {table : Table} (merges : found.Merges table)
    {height : Nat} {hash : Hash} (pinned : table.hash? height = some hash) :
    (height, hash) ∈ hardcodedPoints found.network ∨ greatest (hardcodedPoints found.network) < height := by
  rcases (merges.hash?_eq_some_iff height hash).mp pinned with hardcoded | line | record
  · exact Or.inl hardcoded
  · exact Or.inr (Hashfile.pointsAbove_range _ line).1
  · have above := (found.records_range _ (mem_of_lookup record)).1
    exact Or.inr ((greatest_le_append _ _).trans_lt above)

/-! ### The build with an export -/

theorem FileOnly.rebuilds {world world' : World} {web web' : Feed.Web} {config next : Config}
    {given given' : Option FeedSource} {remote remote' : Option Bool} {load : Load} {lines : List HashLine}
    (built : (Checkpoint.build world web config given remote).answer = .ok load)
    (network : next.network = config.network) (fileOnly : FileOnly world' next remote' lines)
    (entries : Hashfile.points lines = load.table.entries) :
    ∃ again, (Checkpoint.build world' web' next given' remote').answer = .ok again ∧
      ∀ height, again.table.hash? height = load.table.hash? height := by
  have shaped := shaped_of_build built
  have consistent : ¬Contradictory (Hashfile.points lines) := by
    rw [entries]
    intro contradictory
    rcases contradictory with ⟨⟨height, one⟩, first, ⟨_, other⟩, second, rfl, different⟩
    have pinned := (shaped.mem_entries_iff _ _).mp first
    rw [(shaped.mem_entries_iff _ _).mp second] at pinned
    exact different (Option.some.inj pinned).symm
  obtain ⟨again, rebuilt⟩ := fileOnly.build web' given' consistent
  refine ⟨again, rebuilt, fun height => Option.ext fun hash => ?_⟩
  rw [fileOnly.hash?_eq_some_iff web' given' rebuilt, network, entries, shaped.mem_entries_iff]
  constructor
  · intro either
    rcases either with hardcoded | ⟨pinned, _⟩
    · exact hash?_of_build world web config given remote built hardcoded
    · exact pinned
  · intro pinned
    rcases (merges_of_build world web config given remote built).hardcoded_or_above pinned with
      hardcoded | above
    · exact Or.inl hardcoded
    · exact Or.inr ⟨pinned, above⟩

namespace Store

/-- The export of a store, with or without the line end behind it, is a hashfile; a store for the same network
with that file and without a feed pins the same heights to the same hashes and difficulties, and its export is
the same text. -/
theorem export_is_fixpoint {world world' : World} {web web' : Feed.Web} {config next : Config}
    {given given' : Option FeedSource} {remote remote' : Option Bool} {store : Store} {place : Path}
    {ending : String} (started : (bootstrap world web config given remote).2 = .ok store)
    (network : next.network = config.network) (isPlace : next.checkpointsPath = some place)
    (isEnding : ending ∈ ["", "\n"])
    (holds : world'.files.find place = .file (Text.toUtf8 (Hashfile.ofTable store.table ++ ending)))
    (noFeed : remote'.getD next.feed.enabled = false) :
    ∃ again, (bootstrap world' web' next given' remote').2 = .ok again ∧
      again.table.points.Perm store.table.points ∧
      again.table.difficulties.Perm store.table.difficulties ∧
      again.table.maxHeight = store.table.maxHeight ∧
      Hashfile.ofTable again.table = Hashfile.ofTable store.table := by
  obtain ⟨load, built, rfl⟩ := built_of_bootstrap started
  have shaped := shaped_of_build built
  obtain ⟨lines, isRead, entries⟩ := Hashfile.read_ofTable shaped isEnding holds
  have fileOnly : FileOnly world' next remote' lines := by
    refine ⟨?_, noFeed⟩
    rw [isPlace]
    exact isRead
  obtain ⟨again, rebuilt, same⟩ := fileOnly.rebuilds built network entries
  have againShaped := shaped_of_build rebuilt
  have ready := ready_of_build rebuilt
  rw [network] at ready
  refine ⟨_, bootstrap_of_built rebuilt, againShaped.points_perm shaped same,
    againShaped.difficulties_perm shaped (ready.difficulty?_eq (ready_of_build built)),
    againShaped.maxHeight_eq shaped same, ?_⟩
  rw [Hashfile.ofTable, Hashfile.ofTable, againShaped.entries_eq shaped same]

theorem loneFeed_export_returns :
    ∃ store,
      (bootstrap .bare (.scripted []) testnetAlone (some (loneFeed 'a')) (some true)).2 = .ok store ∧
      store.table.hash? 5 = some (uniform 0xaa) ∧
      ∃ again,
        (bootstrap (.holding (Text.toUtf8 (Hashfile.ofTable store.table ++ "\n"))) (.scripted []) testnetHolding
          none none).2 = .ok again ∧
        again.table.points.Perm store.table.points ∧
        Hashfile.ofTable again.table = Hashfile.ofTable store.table := by
  obtain ⟨store, started, pinned, _⟩ := dropAndRepin_run
  refine ⟨store, started, pinned, ?_⟩
  have isFile := World.find_heldPlace (Text.toUtf8 (Hashfile.ofTable store.table ++ "\n"))
  have isPlace : testnetHolding.checkpointsPath = some World.heldPlace := rfl
  have returns := @export_is_fixpoint .bare _ (.scripted []) (.scripted []) testnetAlone testnetHolding _ none
    (some true) none store World.heldPlace "\n" started rfl isPlace (by decide) isFile rfl
  obtain ⟨again, restarted, points, _, _, sameText⟩ := returns
  exact ⟨again, restarted, points, sameText⟩

end Store

end ReorgGuard.Checkpoint
