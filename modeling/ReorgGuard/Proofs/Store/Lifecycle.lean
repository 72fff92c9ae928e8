import ReorgGuard.Proofs.Build.Isolation
import ReorgGuard.Proofs.Store.Reloads
import ReorgGuard.Proofs.Table.Comparison

/-!
What a store answers for at every reload.

Whatever happened before, the published table is closed and holds what is hardcoded, with no
difficulty besides.  A reload either fails and changes neither the table nor the reports, or publishes
exactly what was built; and a table that was built is refused only where it differs from the
published one, by the least height at which it does.
-/

namespace ReorgGuard.Checkpoint

open ReorgGuard.Settings (Config)

/-! ### Tables that are built -/

/-- A table as the builds for a network make it. -/
structure Table.Ready (table : Table) (network : Network) : Prop where
  closed : table.frozen = true
  shaped : table.Shaped
  hardcoded : ∀ height hash, (height, hash) ∈ hardcodedPoints network → table.hash? height = some hash
  difficulties : ∀ height difficulty, table.difficulty? height = some difficulty ↔
    (height, difficulty) ∈ hardcodedDifficulties network

theorem Table.Ready.difficulty?_eq {table other : Table} {network : Network} (ready : table.Ready network)
    (otherReady : other.Ready network) (height : Nat) : table.difficulty? height = other.difficulty? height := by
  apply Option.ext
  intro difficulty
  rw [ready.difficulties, otherReady.difficulties]

theorem shaped_of_build {world : World} {web : Feed.Web} {config : Config} {given : Option FeedSource}
    {remote : Option Bool} {load : Load} (built : (build world web config given remote).answer = .ok load) :
    load.table.Shaped := by
  rw [build_answer] at built
  split at built <;> cases built
  let seeded : Load := ⟨(Table.empty.seed config.network).table, []⟩
  have filed := (seeded.takeFileAt_overlaid world.files config.checkpointsPath seeded.table.maxHeight).shaped
    (Table.seed_shaped config.network)
  have loaded := (seeded.takeAll_overlaid (feedFor config given (remote.getD config.feed.enabled))
    config.feed.required world.files world.here web config.checkpointsPath config.network
    (remote.getD config.feed.enabled)).shaped filed
  exact loaded.freeze

theorem ready_of_build {world : World} {web : Feed.Web} {config : Config} {given : Option FeedSource}
    {remote : Option Bool} {load : Load} (built : (build world web config given remote).answer = .ok load) :
    load.table.Ready config.network := by
  have merges := merges_of_build world web config given remote built
  have shaped := shaped_of_build built
  refine ⟨merges.closed, shaped, fun _ _ hardcoded => ?_, fun height difficulty => ?_⟩
  · exact hash?_of_build world web config given remote built hardcoded
  · exact (shaped.mem_difficulties_iff height difficulty).symm.trans (merges.difficulties height difficulty)

namespace Store

/-! ### Stores in use -/

/-- A store that was made for a configuration and publishes a table that was built for it. -/
structure Live (store : Store) (config : Config) : Prop where
  isConfig : store.config = some config
  ready : store.table.Ready config.network

def supplied (store : Store) (next : Turn) : Store :=
  { store with feed := store.feed.map fun _ => next.feed }

def reloaded (store : Store) (next : Turn) : Stored ReloadError Store :=
  (store.supplied next).reload next.world next.web next.remote

def rebuilt (store : Store) (config : Config) (next : Turn) : Except BuildError Load :=
  (build next.world next.web config (store.supplied next).feed next.remote).answer

variable {store : Store} {config : Config}

theorem live_of_bootstrap {world : World} {web : Feed.Web} {feed : Option FeedSource} {remote : Option Bool}
    (started : (bootstrap world web config feed remote).2 = .ok store) : store.Live config := by
  obtain ⟨load, built, rfl⟩ := built_of_bootstrap started
  exact ⟨rfl, ready_of_build built⟩

/-- A reload fails with the build, publishes a table that differs nowhere, or refuses one by the least height at
which it differs. -/
theorem Live.reloaded_cases (live : store.Live config) (next : Turn) :
    (∃ error, store.rebuilt config next = .error error ∧
      (store.reloaded next).answer = .error (.build error) ∧ store.Keeps (store.reloaded next).store) ∨
    (∃ load, store.rebuilt config next = .ok load ∧ load.table.Ready config.network ∧
      (∀ height, ¬store.table.DiffersAt load.table height) ∧
      (store.reloaded next).answer = .ok load.table ∧
      (store.reloaded next).store.table = load.table ∧
      (store.reloaded next).store.reports = load.reports) ∨
    ∃ load least, store.rebuilt config next = .ok load ∧
      IsLeast {height | store.table.DiffersAt load.table height} least ∧
      (store.reloaded next).answer = .error (.conflict (some least)) ∧
      store.Keeps (store.reloaded next).store := by
  have isConfig : (store.supplied next).config = some config := live.isConfig
  cases built : store.rebuilt config next with
  | error error =>
      obtain ⟨answer, keeps⟩ := reload_of_unbuilt isConfig built
      exact Or.inl ⟨error, rfl, answer, keeps.table, keeps.reports⟩
  | ok load =>
      have ready : load.table.Ready config.network := ready_of_build built
      cases agreed : store.table.agrees load.table with
      | true =>
          have same := (Table.agrees_eq_true_iff ready.shaped).mp agreed
          exact Or.inr (Or.inl ⟨load, rfl, ready, same, reload_of_agreeing isConfig built agreed⟩)
      | false =>
          have difficulties := live.ready.difficulty?_eq ready
          obtain ⟨least, isHead, isLeast⟩ := Table.exists_least_of_disagree ready.shaped difficulties agreed
          obtain ⟨answer, keeps⟩ := reload_of_disagreeing isConfig built agreed
          have byLeast : (store.reloaded next).answer = .error (.conflict (some least)) := by
            rw [← isHead]
            exact answer
          exact Or.inr (Or.inr ⟨load, least, rfl, isLeast, byLeast, keeps.table, keeps.reports⟩)

theorem Live.turn (live : store.Live config) (next : Turn) : (store.turn next).Live config := by
  change (store.reloaded next).store.Live config
  refine ⟨(reload_config _ _ _ _).trans live.isConfig, ?_⟩
  rcases live.reloaded_cases next with ⟨_, _, _, keeps⟩ | ⟨load, _, ready, _, _, table, _⟩ |
    ⟨_, _, _, _, _, keeps⟩
  · rw [keeps.table]
    exact live.ready
  · rw [table]
    exact ready
  · rw [keeps.table]
    exact live.ready

theorem Live.after (live : store.Live config) (turns : List Turn) : (store.after turns).Live config := by
  induction turns generalizing store with
  | nil => exact live
  | cons next rest ih => exact ih (live.turn next)

/-- What a store in use answers for at a reload. -/
structure Orderly (store : Store) (config : Config) (next : Turn) : Prop where
  closed : store.table.frozen = true
  hardcoded : ∀ height hash, (height, hash) ∈ hardcodedPoints config.network →
    store.table.hash? height = some hash
  difficulties : ∀ height difficulty, store.table.difficulty? height = some difficulty ↔
    (height, difficulty) ∈ hardcodedDifficulties config.network
  /-- A reload that fails changes nothing that is published. -/
  kept : ∀ error, (store.reloaded next).answer = .error error → store.Keeps (store.reloaded next).store
  /-- A reload that succeeds publishes what was built, and the hash at no shared height changes. -/
  published : ∀ table, (store.reloaded next).answer = .ok table →
    (store.reloaded next).store.table = table ∧
      (∃ load, store.rebuilt config next = .ok load ∧ load.table = table ∧
        (store.reloaded next).store.reports = load.reports) ∧
      ∀ height, ¬store.table.DiffersAt table height
  /-- An error of the build is the error of the reload. -/
  unbuilt : ∀ error, store.rebuilt config next = .error error →
    (store.reloaded next).answer = .error (.build error)
  /-- What was built is refused exactly for a difference in hash, by the least height of one. -/
  refused : ∀ load, store.rebuilt config next = .ok load →
    ((∃ height, (store.reloaded next).answer = .error (.conflict height)) ↔
      ∃ height, store.table.DiffersAt load.table height) ∧
    ∀ height, (store.reloaded next).answer = .error (.conflict height) →
      ∃ least, height = some least ∧ IsLeast {height | store.table.DiffersAt load.table height} least

theorem Live.kept (live : store.Live config) {next : Turn} {error : ReloadError}
    (failed : (store.reloaded next).answer = .error error) : store.Keeps (store.reloaded next).store := by
  rcases live.reloaded_cases next with ⟨_, _, _, keeps⟩ | ⟨load, _, _, _, answer, _⟩ | ⟨_, _, _, _, _, keeps⟩
  · exact keeps
  · cases answer.symm.trans failed
  · exact keeps

theorem Live.unbuilt (live : store.Live config) {next : Turn} {error : BuildError}
    (failed : store.rebuilt config next = .error error) :
    (store.reloaded next).answer = .error (.build error) := by
  have isConfig : (store.supplied next).config = some config := live.isConfig
  exact (reload_of_unbuilt isConfig failed).1

theorem Live.published (live : store.Live config) {next : Turn} {table : Table}
    (succeeded : (store.reloaded next).answer = .ok table) :
    (store.reloaded next).store.table = table ∧
      (∃ load, store.rebuilt config next = .ok load ∧ load.table = table ∧
        (store.reloaded next).store.reports = load.reports) ∧
      ∀ height, ¬store.table.DiffersAt table height := by
  rcases live.reloaded_cases next with ⟨_, _, answer, _⟩ | ⟨load, built, _, same, answer, isTable, reports⟩ |
    ⟨_, _, _, _, answer, _⟩
  · cases answer.symm.trans succeeded
  · cases answer.symm.trans succeeded
    exact ⟨isTable, ⟨load, built, rfl, reports⟩, same⟩
  · cases answer.symm.trans succeeded

theorem Live.refused (live : store.Live config) {next : Turn} {load : Load}
    (built : store.rebuilt config next = .ok load) :
    ((∃ height, (store.reloaded next).answer = .error (.conflict height)) ↔
      ∃ height, store.table.DiffersAt load.table height) ∧
    ∀ height, (store.reloaded next).answer = .error (.conflict height) →
      ∃ least, height = some least ∧ IsLeast {height | store.table.DiffersAt load.table height} least := by
  rcases live.reloaded_cases next with ⟨_, unbuilt, _⟩ | ⟨other, isBuilt, _, same, answer, _⟩ |
    ⟨other, least, isBuilt, isLeast, answer, _⟩
  · cases built.symm.trans unbuilt
  · cases built.symm.trans isBuilt
    have noConflict (height : Option Nat) : ¬(store.reloaded next).answer = .error (.conflict height) := by
      rw [answer]
      intro impossible
      cases impossible
    constructor
    · exact iff_of_false (not_exists.mpr noConflict) (not_exists.mpr same)
    · intro height conflict
      exact absurd conflict (noConflict height)
  · cases built.symm.trans isBuilt
    constructor
    · exact iff_of_true ⟨some least, answer⟩ ⟨least, isLeast.1⟩
    · intro height conflict
      cases answer.symm.trans conflict
      exact ⟨least, rfl, isLeast⟩

theorem Live.orderly (live : store.Live config) (next : Turn) : store.Orderly config next where
  closed := live.ready.closed
  hardcoded := live.ready.hardcoded
  difficulties := live.ready.difficulties
  kept _ failed := live.kept failed
  published _ succeeded := live.published succeeded
  unbuilt _ failed := live.unbuilt failed
  refused _ built := live.refused built

/-- A store that was started answers for each reload of a run, whatever became of the reloads before. -/
theorem orderly_after_bootstrap {world : World} {web : Feed.Web} {feed : Option FeedSource}
    {remote : Option Bool} (started : (bootstrap world web config feed remote).2 = .ok store)
    (turns : List Turn) (next : Turn) : (store.after turns).Orderly config next :=
  ((live_of_bootstrap started).after turns).orderly next

/-- A height is dropped and pinned anew, and then the feed brings the first hash again. -/
theorem orderly_after_dropAndRepin :
    ∃ store,
      (bootstrap .bare (.scripted []) testnetAlone (some (loneFeed 'a')) (some true)).2 = .ok store ∧
      (store.after dropAndRepin).Orderly testnetAlone
        ⟨.bare, .scripted [], loneFeed 'a', some true⟩ := by
  obtain ⟨store, started, _⟩ := dropAndRepin_run
  exact ⟨store, started, orderly_after_bootstrap started dropAndRepin _⟩

end Store

end ReorgGuard.Checkpoint
