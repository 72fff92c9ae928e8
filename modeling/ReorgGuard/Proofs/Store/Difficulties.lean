import ReorgGuard.Proofs.Store.Lifecycle

/-!
The difficulties that a store publishes.

A reload compares hashes only.  What is built holds the hardcoded difficulties and no others, so two tables
that were built never disagree in difficulty.  A store may have been made around any table, though, and the first
reload that succeeds replaces this one: there a difficulty changes exactly where the table has another one than
the hardcoded one.
-/

namespace ReorgGuard.Checkpoint

open ReorgGuard.Settings (Config)

namespace Table

def DisagreesAt (table other : Table) (height : Nat) : Prop :=
  ∃ known given, table.difficulty? height = some known ∧ other.difficulty? height = some given ∧ known ≠ given

/-- The table has another difficulty at the height than the one that is hardcoded there. -/
def StraysAt (table : Table) (network : Network) (height : Nat) : Prop :=
  ∃ known given, table.difficulty? height = some known ∧
    (height, given) ∈ hardcodedDifficulties network ∧ known ≠ given

variable {table other : Table} {network : Network}

theorem Ready.disagreesAt_iff (ready : other.Ready network) (height : Nat) :
    table.DisagreesAt other height ↔ table.StraysAt network height := by
  unfold DisagreesAt StraysAt
  simp only [ready.difficulties]

theorem Ready.not_straysAt (ready : table.Ready network) (height : Nat) : ¬table.StraysAt network height := by
  intro strays
  obtain ⟨known, given, isKnown, hardcoded, different⟩ := strays
  rw [← ready.difficulties, isKnown] at hardcoded
  exact different (Option.some.inj hardcoded)

end Table

namespace Store

def StartedFor (store : Store) (config : Config) : Prop :=
  ∃ world web feed remote, (bootstrap world web config feed remote).2 = .ok store

/-- The store was made around a table, with a configuration for its reloads. -/
def MadeAround (store : Store) (config : Config) (prebuilt : Table) : Prop :=
  ∃ feed, store = wrap prebuilt (some config) feed

/-- Some reload of the run succeeded. -/
def Renewed (store : Store) (turns : List Turn) : Prop :=
  ∃ earlier next later table, turns = earlier ++ next :: later ∧
    ((store.after earlier).reloaded next).answer = .ok table

variable {store : Store} {config : Config}

theorem StartedFor.live (started : store.StartedFor config) : store.Live config := by
  obtain ⟨_, _, _, _, ran⟩ := started
  exact live_of_bootstrap ran

theorem after_config (isConfig : store.config = some config) (turns : List Turn) :
    (store.after turns).config = some config := by
  induction turns generalizing store with
  | nil => exact isConfig
  | cons next rest ih =>
      apply ih
      exact (reload_config (store.supplied next) next.world next.web next.remote).trans isConfig

theorem after_append (store : Store) (turns more : List Turn) :
    store.after (turns ++ more) = (store.after turns).after more :=
  List.foldl_append

/-- Whatever table a store has, a reload fails and keeps it, or publishes one that was built and shares its
hashes. -/
theorem reloaded_cases (isConfig : store.config = some config) (next : Turn) :
    (∃ error, (store.reloaded next).answer = .error error ∧ (store.reloaded next).store.table = store.table) ∨
      ∃ table, (store.reloaded next).answer = .ok table ∧ (store.reloaded next).store.table = table ∧
        table.Ready config.network ∧ ∀ height, ¬store.table.DiffersAt table height := by
  have supplied : (store.supplied next).config = some config := isConfig
  cases built : store.rebuilt config next with
  | error error =>
      obtain ⟨failed, kept⟩ := reload_of_unbuilt supplied built
      exact Or.inl ⟨_, failed, kept.table⟩
  | ok load =>
      cases agreed : store.table.agrees load.table with
      | false =>
          obtain ⟨failed, kept⟩ := reload_of_disagreeing supplied built agreed
          exact Or.inl ⟨_, failed, kept.table⟩
      | true =>
          obtain ⟨answer, published, _⟩ := reload_of_agreeing supplied built agreed
          exact Or.inr ⟨load.table, answer, published, ready_of_build built, Table.not_differsAt_of_agrees agreed⟩

theorem published_of_config (isConfig : store.config = some config) {next : Turn} {table : Table}
    (succeeded : (store.reloaded next).answer = .ok table) :
    (store.reloaded next).store.table = table ∧ table.Ready config.network ∧
      ∀ height, ¬store.table.DiffersAt table height := by
  rcases reloaded_cases isConfig next with ⟨_, failed, _⟩ | ⟨_, answer, published⟩
  · cases failed.symm.trans succeeded
  · cases answer.symm.trans succeeded
    exact published

theorem live_of_renewed (isConfig : store.config = some config) {turns : List Turn}
    (renewed : store.Renewed turns) : (store.after turns).Live config := by
  obtain ⟨earlier, next, later, table, rfl, succeeded⟩ := renewed
  have before : (store.after earlier).config = some config := after_config isConfig earlier
  obtain ⟨published, ready, _⟩ := published_of_config before succeeded
  have live : ((store.after earlier).reloaded next).store.Live config := by
    refine ⟨(reload_config _ _ _ _).trans before, ?_⟩
    rw [published]
    exact ready
  rw [after_append]
  exact live.after later

theorem table_of_not_renewed (isConfig : store.config = some config) {turns : List Turn}
    (unrenewed : ¬store.Renewed turns) : (store.after turns).table = store.table := by
  -- From the end of the run: the last reload meets the table that all before it have kept.
  induction turns using List.reverseRecOn with
  | nil => rfl
  | append_singleton earlier next ih =>
      have before : ¬store.Renewed earlier := by
        intro renewed
        obtain ⟨first, turn, later, table, rfl, succeeded⟩ := renewed
        exact unrenewed ⟨first, turn, later ++ [next], table, by simp, succeeded⟩
      rw [after_append, ← ih before]
      change ((store.after earlier).reloaded next).store.table = _
      rcases reloaded_cases (after_config isConfig earlier) next with ⟨_, _, kept⟩ | ⟨table, answer, _⟩
      · exact kept
      · exact absurd ⟨earlier, next, [], table, rfl, answer⟩ unrenewed

/-- A reload that succeeds leaves the hash at each shared height, and the difficulty too, unless it is the first
to replace the table that a store was made around: then the difficulties change exactly at the hardcoded heights
where that table has another one. -/
theorem reload_changes_stray_difficulties_only
    (made : store.StartedFor config ∨ ∃ prebuilt, store.MadeAround config prebuilt) (turns : List Turn)
    {next : Turn} {table : Table} (succeeded : ((store.after turns).reloaded next).answer = .ok table) :
    let before := (store.after turns).table
    ((store.after turns).reloaded next).store.table = table ∧
    (∀ height, ¬before.DiffersAt table height) ∧
    (store.StartedFor config ∨ store.Renewed turns → ∀ height, ¬before.DisagreesAt table height) ∧
    (∀ prebuilt, store.MadeAround config prebuilt → ¬store.Renewed turns →
      ∀ height, before.DisagreesAt table height ↔ prebuilt.StraysAt config.network height) := by
  intro before
  have isConfig : store.config = some config := by
    rcases made with started | ⟨_, _, rfl⟩
    · exact started.live.isConfig
    · rfl
  obtain ⟨published, ready, sameHashes⟩ := published_of_config (after_config isConfig turns) succeeded
  refine ⟨published, sameHashes, fun built height => ?_, fun prebuilt around unrenewed height => ?_⟩
  · have live : (store.after turns).Live config := by
      rcases built with started | renewed
      · exact started.live.after turns
      · exact live_of_renewed isConfig renewed
    rw [ready.disagreesAt_iff]
    exact live.ready.not_straysAt height
  · obtain ⟨_, isWrapped⟩ := around
    have kept : before = prebuilt.freeze :=
      (table_of_not_renewed isConfig unrenewed).trans (congrArg Store.table isWrapped)
    rw [kept]
    exact ready.disagreesAt_iff height

/-! ### A table with a difficulty of its own -/

def heavyGenesis : Table :=
  Table.empty.performAll
    [.add (.int 0) (.text "48ca7cd3c8de5b6a4d53d2861fbdaedca141553559f9be9520068053cda8430b") (.int 2)]

def aroundHeavyGenesis : Store :=
  wrap heavyGenesis (some testnetAlone) none

private theorem aroundHeavyGenesis_difficulties :
    (aroundHeavyGenesis.reloaded ⟨.bare, .scripted [], .disabled, none⟩).answer.toOption.map
      (fun table => (heavyGenesis.difficulty? 0, table.difficulty? 0)) = some (some 2, some 1) := by
  decide +kernel

theorem aroundHeavyGenesis_reloaded :
    ∃ table, (aroundHeavyGenesis.reloaded ⟨.bare, .scripted [], .disabled, none⟩).answer = .ok table ∧
      heavyGenesis.DisagreesAt table 0 := by
  have difficulties := aroundHeavyGenesis_difficulties
  cases answer : (aroundHeavyGenesis.reloaded ⟨.bare, .scripted [], .disabled, none⟩).answer with
  | error error =>
      rw [answer] at difficulties
      cases difficulties
  | ok table =>
      rw [answer] at difficulties
      obtain ⟨heavy, light⟩ := Prod.mk.inj (Option.some.inj difficulties)
      exact ⟨table, rfl, 2, 1, heavy, light, by decide⟩

theorem heavy_genesis_replaced :
    aroundHeavyGenesis.MadeAround testnetAlone heavyGenesis ∧
    ∃ table, (aroundHeavyGenesis.reloaded ⟨.bare, .scripted [], .disabled, none⟩).answer = .ok table ∧
      (∀ height, ¬heavyGenesis.DiffersAt table height) ∧ heavyGenesis.StraysAt .testnet 0 := by
  have around : aroundHeavyGenesis.MadeAround testnetAlone heavyGenesis := ⟨none, rfl⟩
  obtain ⟨table, answer, disagrees⟩ := aroundHeavyGenesis_reloaded
  obtain ⟨_, sameHashes, _, strays⟩ := reload_changes_stray_difficulties_only (Or.inr ⟨_, around⟩) [] answer
  have unrenewed : ¬aroundHeavyGenesis.Renewed [] := by
    intro renewed
    obtain ⟨earlier, next, later, _, impossible, _⟩ := renewed
    exact List.append_ne_nil_of_right_ne_nil earlier (List.cons_ne_nil next later) impossible.symm
  exact ⟨around, table, answer, sameHashes, (strays heavyGenesis around unrenewed 0).mp disagrees⟩

theorem reload_can_change_difficulty :
    ¬∀ (config : Config) (store : Store),
      store.StartedFor config ∨ (∃ prebuilt, store.MadeAround config prebuilt) →
      ∀ (next : Turn) (table : Table), (store.reloaded next).answer = .ok table →
        ∀ height, ¬store.table.DisagreesAt table height := by
  intro claim
  obtain ⟨table, answer, disagrees⟩ := aroundHeavyGenesis_reloaded
  exact claim testnetAlone aroundHeavyGenesis (Or.inr ⟨heavyGenesis, none, rfl⟩) _ table answer 0 disagrees

end Store

end ReorgGuard.Checkpoint
