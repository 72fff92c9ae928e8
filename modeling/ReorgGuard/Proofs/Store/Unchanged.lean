import ReorgGuard.Proofs.Build.OptionalFeed
import ReorgGuard.Proofs.Store.Lifecycle

/-!
Reloads of sources that have not changed.

The store remembers its configuration and its feed, and not whether it was started with the feed: a
reload that is told nothing asks the feed exactly if the configuration enables it.  Where the
start did the same, the reload brings the same table.  Otherwise the pins above the hardcoded
checkpoints and the hashfile come or go with the records of the feed, and no conflict is seen.

The feed is a fixed one here; what endpoints bring may differ from call to call.
-/

namespace ReorgGuard.Checkpoint

open ReorgGuard.Settings (Config)

/-! ### Builds from the same sources -/

namespace Load

variable {files files' : Files} {path : Option Path}

theorem takeFileAt_congr (sameFile : Hashfile.readAt files' path = Hashfile.readAt files path) (load : Load)
    (floor : Value) : load.takeFileAt files' path floor = load.takeFileAt files path floor := by
  cases path with
  | none => rfl
  | some path =>
      change Hashfile.read files' path = Hashfile.read files path at sameFile
      simp only [takeFileAt, sameFile]

theorem takeAll_congr {feed : FeedSource} {here here' : Feed.Surroundings} {web web' : Feed.Web}
    {network : Network} (sameFile : Hashfile.readAt files' path = Hashfile.readAt files path)
    (sameFeed : (feed.fetch here' web' network).answer = (feed.fetch here web network).answer) (load : Load)
    (required remote : Bool) :
    (load.takeAll feed required files' here' web' path network remote).load =
        (load.takeAll feed required files here web path network remote).load ∧
      (load.takeAll feed required files' here' web' path network remote).answer =
        (load.takeAll feed required files here web path network remote).answer := by
  unfold takeAll
  dsimp only
  rw [takeFileAt_congr sameFile]
  cases (load.takeFileAt files path (.int load.table.maxHeight)).answer with
  | error error => exact ⟨rfl, rfl⟩
  | ok fileFine =>
      cases remote with
      | false => exact ⟨rfl, rfl⟩
      | true =>
          simp only [if_true, takeFeedFrom, sameFeed]
          cases ((load.takeFileAt files path (.int load.table.maxHeight)).load.takeFeed network
            (feed.fetch here web network).answer).answer <;> exact ⟨rfl, rfl⟩

end Load

section FixedFeed

variable {world world' : World} {config : Config}
  (sameFile : Hashfile.readAt world'.files config.checkpointsPath =
    Hashfile.readAt world.files config.checkpointsPath)
  (web web' : Feed.Web) (records : List (Network × List String)) (remote remote' : Option Bool)

theorem feed_of_build :
    (build world web config (some (.fixed records)) remote).feed = some (.fixed records) := by
  have kept : (loadOf world web config (some (.fixed records)) remote).feed = .fixed records := by
    unfold loadOf Load.takeAll
    dsimp only
    split
    · rfl
    · split
      · split <;> rfl
      · rfl
  unfold build
  simp only [(Table.seed_empty config.network).1]
  split <;> exact congrArg some kept

include sameFile

theorem build_answer_of_fixed
    (sameUse : remote'.getD config.feed.enabled = remote.getD config.feed.enabled) :
    (build world' web' config (some (.fixed records)) remote').answer =
      (build world web config (some (.fixed records)) remote).answer := by
  have sameLoad : (loadOf world' web' config (some (.fixed records)) remote').load =
        (loadOf world web config (some (.fixed records)) remote).load ∧
      (loadOf world' web' config (some (.fixed records)) remote').answer =
        (loadOf world web config (some (.fixed records)) remote).answer := by
    have sameFeed : ((FeedSource.fixed records).fetch world'.here web' config.network).answer =
      ((FeedSource.fixed records).fetch world.here web config.network).answer := rfl
    unfold loadOf
    rw [sameUse]
    exact Load.takeAll_congr sameFile sameFeed _ _ _
  rw [build_answer, build_answer, sameLoad.1, sameLoad.2]

theorem findings_of_fixed :
    findings world' web' config (some (.fixed records)) remote' =
      findings world web config (some (.fixed records)) (some (remote'.getD config.feed.enabled)) := by
  unfold findings
  rw [sameFile]
  rfl

end FixedFeed

theorem build_of_fixed_iff (world : World) (web : Feed.Web) (config : Config)
    {records : List (Network × List String)}
    (fit : ∀ record ∈ (records.lookup config.network).getD [], ¬FeedRecord.Overlong record) (remote : Bool) :
    (∃ load, (build world web config (some (.fixed records)) (some remote)).answer = .ok load) ↔
      ∃ load, (build world web config (some (.fixed records)) (some false)).answer = .ok load := by
  have harmless : ¬(feedFor config (some (.fixed records)) true).Escapes world.here web config.network := by
    intro escapes
    rcases escapes with ⟨record, member, overlong⟩
    exact fit record member overlong
  cases remote with
  | false => exact Iff.rfl
  | true =>
      have sameFate : (findings world web config (some (.fixed records)) (some true)).Fails ↔
          (findings world web config (some (.fixed records)) (some false)).Fails := by
        rw [fails_with_feed_iff]
        refine or_iff_left fun failed => ?_
        rcases failed with ⟨_, error, impossible⟩
        cases impossible
      rw [build_eq_ok_iff, build_eq_ok_iff, breaksOff_with_feed_iff, breaksOff_without_feed_iff, sameFate,
        or_iff_left harmless]

/-! ### Tables with and without the records of a feed -/

/-- Two tables pin the same up to a height and contradict each other nowhere; all their pins are the same
exactly if the layer above that height is empty. -/
structure Table.AlikeBut (table other : Table) (floor : Nat) (layer : List (Nat × Hash)) : Prop where
  below : ∀ height, height ≤ floor → table.hash? height = other.hash? height
  compatible : ∀ height, ¬table.DiffersAt other height
  same : (∀ height, table.hash? height = other.hash? height) ↔ layer = []

theorem Table.AlikeBut.symm {table other : Table} {floor : Nat} {layer : List (Nat × Hash)}
    (alike : table.AlikeBut other floor layer) : other.AlikeBut table floor layer where
  below height atMost := (alike.below height atMost).symm
  compatible height differs := by
    rcases differs with ⟨ours, theirs, pinned, offered, different⟩
    exact alike.compatible height ⟨theirs, ours, offered, pinned, different.symm⟩
  same := by
    rw [← alike.same]
    exact forall_congr' fun _ => eq_comm

theorem Findings.Merges.alikeBut {found : Findings} {fed plain : Table} (isFed : found.Merges fed)
    (isPlain : Findings.Merges { found with feed := none } plain) :
    fed.AlikeBut plain (greatest (hardcodedPoints found.network ++ found.lines)) found.records := by
  have kept (height : Nat) (hash : Hash) (pinned : plain.hash? height = some hash) :
      height ≤ greatest (hardcodedPoints found.network ++ found.lines) ∧ fed.hash? height = some hash := by
    rcases (isPlain.hash?_eq_some_iff height hash).mp pinned with hardcoded | line | record
    · exact ⟨le_greatest (List.mem_append_left _ hardcoded),
        (isFed.hash?_eq_some_iff height hash).mpr (Or.inl hardcoded)⟩
    · exact ⟨le_greatest (List.mem_append_right _ line),
        (isFed.hash?_eq_some_iff height hash).mpr (Or.inr (Or.inl line))⟩
    · cases record
  have below (height : Nat) (atMost : height ≤ greatest (hardcodedPoints found.network ++ found.lines)) :
      fed.hash? height = plain.hash? height := by
    apply Option.ext
    intro hash
    refine ⟨fun pinned => ?_, fun pinned => (kept height hash pinned).2⟩
    rcases (isFed.hash?_eq_some_iff height hash).mp pinned with hardcoded | line | record
    · exact (isPlain.hash?_eq_some_iff height hash).mpr (Or.inl hardcoded)
    · exact (isPlain.hash?_eq_some_iff height hash).mpr (Or.inr (Or.inl line))
    · have above := (found.records_range _ (mem_of_lookup record)).1
      omega
  refine ⟨below, fun height differs => ?_, ?_⟩
  · rcases differs with ⟨ours, theirs, pinned, offered, different⟩
    have agreed := (kept height theirs offered).2
    rw [pinned] at agreed
    exact different (Option.some.inj agreed)
  · constructor
    · intro same
      by_contra filled
      obtain ⟨⟨height, hash⟩, rest, listed⟩ := List.exists_cons_of_ne_nil filled
      have first : found.records.lookup height = some hash := by
        rw [listed, List.lookup_cons_self]
      have pinned := (isFed.hash?_eq_some_iff height hash).mpr (Or.inr (Or.inr first))
      rw [same height] at pinned
      have atMost := (kept height hash pinned).1
      have above := (found.records_range _ (mem_of_lookup first)).1
      omega
    · intro empty height
      apply Option.ext
      intro hash
      rw [isFed.hash?_eq_some_iff, isPlain.hash?_eq_some_iff, empty]
      rfl

/-- A build that is told nothing succeeds like one that went against the configuration, and differs from it by
the records of the feed. -/
theorem rebuilt_of_other_use {world world' : World} {web : Feed.Web} {config : Config}
    {records : List (Network × List String)} {remote : Option Bool} {load : Load}
    (built : (build world web config (some (.fixed records)) remote).answer = .ok load)
    (sameFile : Hashfile.readAt world'.files config.checkpointsPath =
      Hashfile.readAt world.files config.checkpointsPath)
    (web' : Feed.Web) (otherUse : remote.getD config.feed.enabled ≠ config.feed.enabled)
    (fit : ∀ record ∈ (records.lookup config.network).getD [], ¬FeedRecord.Overlong record) :
    let found := findings world web config (some (.fixed records)) (some true)
    ∃ next, (build world' web' config (some (.fixed records)) none).answer = .ok next ∧
      next.table.AlikeBut load.table (greatest (hardcodedPoints config.network ++ found.lines))
        found.records := by
  intro found
  have first : ∃ load, (build world web config (some (.fixed records))
      (some (remote.getD config.feed.enabled))).answer = .ok load :=
    ⟨load, (build_answer_of_fixed rfl web web records remote (some _) rfl).trans built⟩
  have succeeds : ∃ next, (build world' web' config (some (.fixed records)) none).answer = .ok next := by
    rw [build_answer_of_fixed sameFile web web' records (some config.feed.enabled) none rfl,
      build_of_fixed_iff world web config fit, ← build_of_fixed_iff world web config fit]
    exact first
  obtain ⟨next, rebuilt⟩ := succeeds
  refine ⟨next, rebuilt, ?_⟩
  have before := merges_of_build world web config _ remote built
  have after := merges_of_build world' web' config _ none rebuilt
  rw [findings_of_fixed (rfl : _ = Hashfile.readAt world.files config.checkpointsPath) web web] at before
  rw [findings_of_fixed sameFile web web'] at after
  -- Exactly one of the two builds asked the feed: the later one if the configuration enables it.
  cases enabled : config.feed.enabled with
  | true =>
      rw [enabled] at before after otherUse
      rw [Bool.eq_false_of_not_eq_true otherUse] at before
      exact after.alikeBut before
  | false =>
      rw [enabled] at before after otherUse
      rw [Bool.eq_true_of_not_eq_false otherUse] at before
      exact (before.alikeBut after).symm

namespace Store

/-- A reload that is told nothing brings the same table if the store was started as the configuration has
it.  Otherwise it succeeds as well unless a height is overlong, keeps the difficulties and the pins up to the
hashfile, and changes nothing at all exactly if the feed has no records above them. -/
theorem reload_of_unchanged_sources {world world' : World} {web : Feed.Web} {config : Config}
    {records : List (Network × List String)} {remote : Option Bool} {store : Store}
    (started : (bootstrap world web config (some (.fixed records)) remote).2 = .ok store)
    (sameFile : Hashfile.readAt world'.files config.checkpointsPath =
      Hashfile.readAt world.files config.checkpointsPath)
    (web' : Feed.Web) :
    let again := store.reload world' web' none
    let found := findings world web config (some (.fixed records)) (some true)
    (remote.getD config.feed.enabled = config.feed.enabled →
      again.answer = .ok store.table ∧ again.store.table = store.table ∧
        again.store.reports = store.reports) ∧
    (remote.getD config.feed.enabled ≠ config.feed.enabled →
      (∀ record ∈ (records.lookup config.network).getD [], ¬FeedRecord.Overlong record) →
      ∃ table, again.answer = .ok table ∧ again.store.table = table ∧
        (∀ height, table.difficulty? height = store.table.difficulty? height) ∧
        table.AlikeBut store.table (greatest (hardcodedPoints config.network ++ found.lines)) found.records) := by
  intro again found
  obtain ⟨load, built, rfl⟩ := built_of_bootstrap started
  have isFeed : (build world web config (some (.fixed records)) remote).feed = some (.fixed records) :=
    feed_of_build web records remote
  constructor
  · intro sameUse
    have rebuilt : (build world' web' config (some (.fixed records)) none).answer = .ok load :=
      (build_answer_of_fixed sameFile web web' records remote none sameUse.symm).trans built
    rw [← isFeed] at rebuilt
    exact reload_of_agreeing rfl rebuilt (shaped_of_build built).agrees_self
  · intro otherUse fit
    obtain ⟨next, rebuilt, alike⟩ := rebuilt_of_other_use built sameFile web' otherUse fit
    have agreed : load.table.agrees next.table = true :=
      (Table.agrees_eq_true_iff (shaped_of_build rebuilt)).mpr alike.symm.compatible
    have difficulties := (ready_of_build rebuilt).difficulty?_eq (ready_of_build built)
    rw [← isFeed] at rebuilt
    have reloaded : again.answer = .ok next.table ∧ again.store.table = next.table ∧
        again.store.reports = next.reports := reload_of_agreeing rfl rebuilt agreed
    exact ⟨next.table, reloaded.1, reloaded.2.1, difficulties, alike⟩

private theorem loneFeed_forgotten :
    (bootstrap .bare (.scripted []) testnetAlone (some (loneFeed 'a')) (some true)).2.toOption.map
      (fun store => (store.table.hash? 5,
        (store.reload .bare (.scripted []) none).answer.toOption.map fun table => table.hash? 5)) =
      some (some (uniform 0xaa), some none) := by
  decide +kernel

theorem reload_of_loneFeed :
    (∃ store,
      (bootstrap .bare (.scripted []) testnetAlone (some (loneFeed 'a')) none).2 = .ok store ∧
      (store.reload .bare (.scripted []) none).answer = .ok store.table) ∧
    ∃ store,
      (bootstrap .bare (.scripted []) testnetAlone (some (loneFeed 'a')) (some true)).2 = .ok store ∧
      ∃ table, (store.reload .bare (.scripted []) none).answer = .ok table ∧
        let found := findings .bare (.scripted []) testnetAlone (some (loneFeed 'a')) (some true)
        table.AlikeBut store.table (greatest (hardcodedPoints .testnet ++ found.lines)) found.records := by
  constructor
  · have begins :
        (bootstrap .bare (.scripted []) testnetAlone (some (loneFeed 'a')) none).2.toOption.isSome := by
      decide +kernel
    cases started : (bootstrap .bare (.scripted []) testnetAlone (some (loneFeed 'a')) none).2 with
    | error error =>
        rw [started] at begins
        cases begins
    | ok store =>
        exact ⟨store, rfl, ((reload_of_unchanged_sources started rfl (.scripted [])).1 rfl).1⟩
  · obtain ⟨store, started, _⟩ := dropAndRepin_run
    have short : ∀ record ∈ [String.ofList ('5' :: ':' :: List.replicate 64 'a')],
        ¬FeedRecord.Overlong record := by
      intro record member overlong
      rw [List.mem_singleton.mp member] at overlong
      exact absurd overlong.2.2 (by decide)
    obtain ⟨table, answer, _, _, alike⟩ :=
      (reload_of_unchanged_sources started rfl (.scripted [])).2 (by decide) short
    exact ⟨store, started, table, answer, alike⟩

theorem reload_of_unchanged_sources_can_lose_pins :
    ¬∀ (world : World) (web : Feed.Web) (config : Config) (records : List (Network × List String))
      (remote : Option Bool) (store : Store),
      (bootstrap world web config (some (.fixed records)) remote).2 = .ok store →
      ∃ table, (store.reload world web none).answer = .ok table ∧
        (∀ height, table.hash? height = store.table.hash? height) ∧
        ∀ height, table.difficulty? height = store.table.difficulty? height := by
  intro claim
  have forgotten := loneFeed_forgotten
  obtain ⟨store, started, _⟩ := dropAndRepin_run
  obtain ⟨table, answer, same, _⟩ := claim .bare (.scripted []) testnetAlone _ (some true) store started
  rw [started] at forgotten
  simp only [Except.toOption, Option.map_some, answer, same, Option.some.injEq, Prod.mk.injEq] at forgotten
  rcases forgotten with ⟨pinned, absent⟩
  rw [pinned] at absent
  cases absent

end Store

end ReorgGuard.Checkpoint
