import ReorgGuard.Proofs.Build.Merge
import ReorgGuard.Proofs.Table.Comparison

/-!
The published table over the life of a store.

A reload publishes a new table only if it agrees with the one published before.  It may drop heights,
though, and a height that was dropped is free again: the hash at a height can only change while the
height is absent.  The hardcoded heights are never absent.
-/

namespace ReorgGuard.Checkpoint

open ReorgGuard.Settings (Config)

/-- What surrounds one reload: the files, the web, and the feed if the store was given one. -/
structure Turn where
  world : World
  web : Feed.Web
  feed : FeedSource
  remote : Option Bool

namespace Store

/-! ### One reload -/

structure Keeps (before after : Store) : Prop where
  table : after.table = before.table
  reports : after.reports = before.reports

section Reload

variable {store : Store} {config : Config} {world : World} {web : Feed.Web} {remote : Option Bool}

theorem reload_config (store : Store) (world : World) (web : Feed.Web) (remote : Option Bool) :
    (store.reload world web remote).store.config = store.config := by
  unfold reload
  split
  · rfl
  · dsimp only
    split
    · rfl
    · split <;> rfl

theorem reload_of_unbuilt (isConfig : store.config = some config) {error : BuildError}
    (unbuilt : (build world web config store.feed remote).answer = .error error) :
    (store.reload world web remote).answer = .error (.build error) ∧
      store.Keeps (store.reload world web remote).store := by
  simp only [reload, isConfig, unbuilt, true_and]
  exact ⟨rfl, rfl⟩

theorem reload_of_agreeing (isConfig : store.config = some config) {load : Load}
    (built : (build world web config store.feed remote).answer = .ok load)
    (agreed : store.table.agrees load.table = true) :
    (store.reload world web remote).answer = .ok load.table ∧
      (store.reload world web remote).store.table = load.table ∧
      (store.reload world web remote).store.reports = load.reports := by
  simp only [reload, isConfig, built, agreed, if_true, and_self]

theorem reload_of_disagreeing (isConfig : store.config = some config) {load : Load}
    (built : (build world web config store.feed remote).answer = .ok load)
    (disagreed : store.table.agrees load.table = false) :
    (store.reload world web remote).answer =
        .error (.conflict ((store.table.conflicts load.table).head?.map Conflict.height)) ∧
      store.Keeps (store.reload world web remote).store := by
  simp only [reload, isConfig, built, disagreed, Bool.false_eq_true, if_false, true_and]
  exact ⟨rfl, rfl⟩

end Reload

/-! ### Runs of reloads -/

def turn (store : Store) (next : Turn) : Store :=
  ({ store with feed := store.feed.map fun _ => next.feed }.reload next.world next.web next.remote).store

def after (store : Store) (turns : List Turn) : Store :=
  turns.foldl turn store

/-- A store that was made for a configuration, with a table that holds what is hardcoded for its network. -/
structure Follows (store : Store) (config : Config) : Prop where
  hardcoded : ∀ height hash, (height, hash) ∈ hardcodedPoints config.network →
    store.table.hash? height = some hash
  isConfig : store.config = some config

variable {store : Store} {config : Config}

theorem bootstrap_of_built {world : World} {web : Feed.Web} {feed : Option FeedSource} {remote : Option Bool}
    {load : Load} (built : (build world web config feed remote).answer = .ok load) :
    (bootstrap world web config feed remote).2 =
      .ok ⟨load.table, load.reports, some config, (build world web config feed remote).feed⟩ := by
  -- What is built is closed already, so that the store has nothing to close.
  have frozen : load.table.freeze = load.table := by
    rw [Table.freeze, ← (merges_of_build world web config feed remote built).closed]
  unfold bootstrap
  dsimp only
  rw [built]
  change Except.ok (Store.mk load.table.freeze load.reports (some config)
    (build world web config feed remote).feed) = _
  rw [frozen]

theorem built_of_bootstrap {world : World} {web : Feed.Web} {feed : Option FeedSource} {remote : Option Bool}
    (started : (bootstrap world web config feed remote).2 = .ok store) :
    ∃ load, (build world web config feed remote).answer = .ok load ∧
      store = ⟨load.table, load.reports, some config, (build world web config feed remote).feed⟩ := by
  cases built : (build world web config feed remote).answer with
  | error error =>
      unfold bootstrap at started
      dsimp only at started
      rw [built] at started
      cases started
  | ok load =>
      rw [bootstrap_of_built built] at started
      cases started
      exact ⟨load, rfl, rfl⟩

theorem follows_of_bootstrap {world : World} {web : Feed.Web} {feed : Option FeedSource}
    {remote : Option Bool} (started : (bootstrap world web config feed remote).2 = .ok store) :
    store.Follows config := by
  obtain ⟨load, built, rfl⟩ := built_of_bootstrap started
  exact ⟨fun _ _ hardcoded => hash?_of_build world web config feed remote built hardcoded, rfl⟩

/-- A reload leaves the table as it is or publishes one that agrees with it and was built. -/
theorem Follows.turn_cases (follows : store.Follows config) (next : Turn) :
    (store.turn next).config = some config ∧
      ((store.turn next).table = store.table ∨
        store.table.agrees (store.turn next).table = true ∧
          ∃ load given, (build next.world next.web config given next.remote).answer = .ok load ∧
            (store.turn next).table = load.table) := by
  let supplied : Store := { store with feed := store.feed.map fun _ => next.feed }
  have isConfig : supplied.config = some config := follows.isConfig
  refine ⟨(reload_config supplied _ _ _).trans isConfig, ?_⟩
  cases built : (build next.world next.web config supplied.feed next.remote).answer with
  | error error =>
      obtain ⟨_, keeps⟩ := reload_of_unbuilt isConfig built
      exact Or.inl keeps.table
  | ok load =>
      cases agreed : store.table.agrees load.table with
      | true =>
          obtain ⟨_, published, _⟩ := reload_of_agreeing isConfig built agreed
          refine Or.inr ⟨?_, load, _, built, published⟩
          rw [← agreed]
          exact congrArg store.table.agrees published
      | false =>
          obtain ⟨_, keeps⟩ := reload_of_disagreeing isConfig built agreed
          exact Or.inl keeps.table

theorem Follows.turn (follows : store.Follows config) (next : Turn) :
    (store.turn next).Follows config := by
  rcases follows.turn_cases next with ⟨isConfig, same | ⟨_, load, given, built, published⟩⟩
  · refine ⟨fun height hash hardcoded => ?_, isConfig⟩
    rw [same]
    exact follows.hardcoded height hash hardcoded
  · refine ⟨fun height hash hardcoded => ?_, isConfig⟩
    rw [published]
    exact hash?_of_build _ _ _ _ _ built hardcoded

theorem Follows.after (follows : store.Follows config) (turns : List Turn) :
    (store.after turns).Follows config := by
  induction turns generalizing store with
  | nil => exact follows
  | cons next rest ih => exact ih (follows.turn next)

theorem Follows.turn_hash (follows : store.Follows config) (next : Turn) {height : Nat}
    {before later : Hash} (pinned : store.table.hash? height = some before)
    (stillPinned : (store.turn next).table.hash? height = some later) : before = later := by
  obtain ⟨_, same | ⟨agreed, _⟩⟩ := follows.turn_cases next
  · rw [same, pinned] at stillPinned
    exact Option.some.inj stillPinned
  · exact Table.eq_of_not_differsAt (Table.not_differsAt_of_agrees agreed height) pinned stillPinned

theorem after_take_succ (store : Store) (turns : List Turn) (time : Nat) :
    store.after (turns.take (time + 1)) = store.after (turns.take time) ∨
      ∃ next, store.after (turns.take (time + 1)) = (store.after (turns.take time)).turn next := by
  rw [List.take_add_one]
  cases turns[time]? with
  | none =>
      left
      rw [Option.toList_none, List.append_nil]
  | some next =>
      right
      exact ⟨next, by rw [Option.toList_some, after, List.foldl_append]; rfl⟩

theorem Follows.hash_kept (follows : store.Follows config) (turns : List Turn) {earlier later height : Nat}
    (order : earlier ≤ later) {hash : Hash}
    (pinned : (store.after (turns.take earlier)).table.hash? height = some hash)
    (present : ∀ time, earlier < time → time ≤ later →
      (store.after (turns.take time)).table.hash? height ≠ none) :
    (store.after (turns.take later)).table.hash? height = some hash := by
  -- Each reload is compared with the table before it only, so the hash is carried from moment to moment.
  induction later, order using Nat.le_induction with
  | base => exact pinned
  | succ time reached ih =>
      have before := ih fun other first last => present other first (by omega)
      rcases Option.ne_none_iff_exists'.mp (present (time + 1) (by omega) (by omega)) with ⟨now, isNow⟩
      rcases after_take_succ store turns time with same | ⟨next, turned⟩
      · rw [same]
        exact before
      · rw [turned] at isNow ⊢
        rw [isNow, (follows.after (turns.take time)).turn_hash next before isNow]

/-! ### A height that is dropped and pinned again -/

def loneFeed (digit : Char) : FeedSource :=
  .fixed [(.testnet, [String.ofList ('5' :: ':' :: List.replicate 64 digit)])]

def dropAndRepin : List Turn :=
  [⟨.bare, .scripted [], .fixed [], some true⟩, ⟨.bare, .scripted [], loneFeed 'b', some true⟩]

def uniform (octet : UInt8) : Hash :=
  ⟨List.replicate 32 octet, List.length_replicate⟩

private theorem dropAndRepin_hashes :
    (bootstrap .bare (.scripted []) testnetAlone (some (loneFeed 'a')) (some true)).2.toOption.map
      (fun store => (List.range 3).map fun time =>
        (store.after (dropAndRepin.take time)).table.hash? 5) =
      some [some (uniform 0xaa), none, some (uniform 0xbb)] := by
  decide +kernel

theorem dropAndRepin_run :
    ∃ store,
      (bootstrap .bare (.scripted []) testnetAlone (some (loneFeed 'a')) (some true)).2 = .ok store ∧
      (store.after (dropAndRepin.take 0)).table.hash? 5 = some (uniform 0xaa) ∧
      (store.after (dropAndRepin.take 2)).table.hash? 5 = some (uniform 0xbb) := by
  have hashes := dropAndRepin_hashes
  cases started :
      (bootstrap .bare (.scripted []) testnetAlone (some (loneFeed 'a')) (some true)).2 with
  | error e =>
      rw [started] at hashes
      cases hashes
  | ok store =>
      rw [started] at hashes
      simp only [Except.toOption, Option.map_some, Option.some.injEq, List.range_succ, List.range_zero,
        List.nil_append, List.cons_append, List.map_cons, List.map_nil, List.cons.injEq] at hashes
      exact ⟨store, rfl, hashes.1, hashes.2.2.1⟩

/-- The hash at a height is the same at any two moments, unless the height was absent in between; a hardcoded
height never is. -/
theorem published_hash_changes_only_after_absence {world : World} {web : Feed.Web}
    {feed : Option FeedSource} {remote : Option Bool}
    (started : (bootstrap world web config feed remote).2 = .ok store) (turns : List Turn)
    {earlier later height : Nat} (order : earlier ≤ later) {first second : Hash}
    (pinned : (store.after (turns.take earlier)).table.hash? height = some first)
    (pinnedLater : (store.after (turns.take later)).table.hash? height = some second) :
    first = second ∨ height ∉ (hardcodedPoints config.network).map Prod.fst ∧
      ∃ between, earlier < between ∧ between < later ∧
        (store.after (turns.take between)).table.hash? height = none := by
  have follows := follows_of_bootstrap started
  by_cases same : first = second
  · exact Or.inl same
  · refine Or.inr ⟨fun isHardcoded => ?_, ?_⟩
    · obtain ⟨⟨_, hash⟩, hardcoded, rfl⟩ := List.mem_map.mp isHardcoded
      have early := (follows.after (turns.take earlier)).hardcoded _ hash hardcoded
      have late := (follows.after (turns.take later)).hardcoded _ hash hardcoded
      rw [pinned] at early
      rw [pinnedLater] at late
      exact same ((Option.some.inj early).trans (Option.some.inj late).symm)
    · by_contra present
      refine same (Option.some.inj ((follows.hash_kept turns order pinned ?_).symm.trans pinnedLater))
      intro time after upTo absent
      rcases Nat.lt_or_eq_of_le upTo with inside | atEnd
      · exact present ⟨time, after, inside, absent⟩
      · rw [atEnd, pinnedLater] at absent
        cases absent

theorem dropAndRepin_absent :
    ∃ store,
      (bootstrap .bare (.scripted []) testnetAlone (some (loneFeed 'a')) (some true)).2 = .ok store ∧
      (uniform 0xaa = uniform 0xbb ∨ 5 ∉ (hardcodedPoints testnetAlone.network).map Prod.fst ∧
        ∃ between, 0 < between ∧ between < 2 ∧
          (store.after (dropAndRepin.take between)).table.hash? 5 = none) := by
  rcases dropAndRepin_run with ⟨store, started, pinned, pinnedLater⟩
  exact ⟨store, started,
    published_hash_changes_only_after_absence started dropAndRepin (Nat.zero_le 2) pinned pinnedLater⟩

theorem published_hash_can_change :
    ¬∀ (world : World) (web : Feed.Web) (config : Config) (feed : Option FeedSource)
      (remote : Option Bool) (store : Store),
      (bootstrap world web config feed remote).2 = .ok store →
      ∀ (turns : List Turn) (earlier later height : Nat) (first second : Hash), earlier ≤ later →
        (store.after (turns.take earlier)).table.hash? height = some first →
        (store.after (turns.take later)).table.hash? height = some second → first = second := by
  intro claim
  rcases dropAndRepin_run with ⟨store, started, pinned, pinnedLater⟩
  have same := claim _ _ _ _ _ store started dropAndRepin 0 2 5 _ _ (Nat.zero_le 2) pinned pinnedLater
  exact absurd same (by decide)

end Store

end ReorgGuard.Checkpoint
