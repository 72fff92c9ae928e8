import ReorgGuard.Proofs.Verification

/-!
The store that a run opens.

A run puts its configuration together, builds a table from the sources that the configuration names, and
asks the table.  Each of the two steps can end the run with a code, and from each an error can escape that
no code stands for.  A store that was opened pins what was found at its sources and nothing else, and its
verdicts are what the pinned heights say.
-/

namespace ReorgGuard.Checkpoint

/-! ### Heights of forks -/

namespace Table

variable {table : Table}

theorem Shaped.floorValue?_int (shaped : table.Shaped) (tip : Int) :
    table.floorValue? (.int tip) = .ok (table.floor? tip) := by
  unfold floorValue?
  split
  · rename_i nothing
    have empty : table.points = [] := List.length_eq_zero_iff.mp nothing
    have none : table.floor? tip = none := by
      rw [shaped.floor?_eq_none_iff]
      intro pinned member
      exact absurd empty (Shaped.points_ne_nil member)
    rw [none]
  · rfl

theorem Shaped.mayForkValue_int (shaped : table.Shaped) (tip block : Int) :
    table.mayForkValue (.int tip) (.int block) = .ok (table.mayFork tip block) := by
  unfold mayForkValue mayFork
  by_cases first : block = 0
  · have isFirst : (Value.int block).whole? = some 0 := congrArg some first
    rw [if_pos isFirst, if_pos first]
  · have notFirst : ¬(Value.int block).whole? = some 0 := fun same => first (Option.some.inj same)
    rw [if_neg notFirst, if_neg first, shaped.floorValue?_int]
    cases table.floor? tip <;> rfl

/-- A height that was left empty can be compared with no pinned height. -/
theorem Shaped.mayForkValue_empty (shaped : table.Shaped) (tip : Int) :
    ((∃ pinned ∈ table.pinnedHeights, (pinned : Int) ≤ tip) ∧
        table.mayForkValue (.int tip) (.list []) = .error ⟨⟩) ∨
      (¬∃ pinned ∈ table.pinnedHeights, (pinned : Int) ≤ tip) ∧
        table.mayForkValue (.int tip) (.list []) = .ok true := by
  have notFirst : ¬(Value.list []).whole? = some 0 := fun impossible => by cases impossible
  unfold mayForkValue
  rw [if_neg notFirst, shaped.floorValue?_int]
  cases nearest : table.floor? tip with
  | none =>
      have above := (shaped.floor?_eq_none_iff tip).mp nearest
      refine Or.inr ⟨fun reached => ?_, rfl⟩
      rcases reached with ⟨pinned, member, atMost⟩
      have beyond := above pinned member
      omega
  | some height =>
      have greatest := (shaped.floor?_eq_some_iff tip height).mp nearest
      exact Or.inl ⟨⟨height, greatest.1.1, greatest.1.2⟩, rfl⟩

end Table

def Findings.Pins (found : Findings) (height : Nat) (hash : Hash) : Prop :=
  (height, hash) ∈ hardcodedPoints found.network ∨ (height, hash) ∈ found.lines ∨
    found.records.lookup height = some hash

end ReorgGuard.Checkpoint

namespace ReorgGuard.Command

open ReorgGuard.Checkpoint
open ReorgGuard.Settings (Config)

def resolved (here : Situation) (i : Invocation) : Except Settings.ResolveError Config :=
  Settings.resolve here.world.files here.environment here.world.files.homePath
    (i.network.map fun n => .text n.name)

def sources (here : Situation) (i : Invocation) (config : Config) : Findings :=
  findings here.world here.web config none (if i.remote then some true else none)

/-! ### The configuration of a run -/

variable {here : Situation} {i : Invocation}

/-- An error escapes while the configuration of a run is put together. -/
inductive ConfigEscapes (here : Situation) (i : Invocation) : Prop where
  /-- A configuration that cannot be used is not refused as such. -/
  | unforeseen {error : Settings.ResolveError} (unresolved : resolved here i = .error error)
      (unforeseen : ∀ refusal, error ≠ .refused refusal) : ConfigEscapes here i
  | path {base : Config} {path : Path} (isResolved : resolved here i = .ok base) (isFile : i.file = some path)
      (broken : path.parts.any (fun part => part.toList.contains '\x00') = true) : ConfigEscapes here i

theorem configure_of_resolved {config : Config} (isResolved : resolved here i = .ok config) :
    configure here i = withFile here.world.files.homePath i.file config := by
  unfold configure
  dsimp only
  rw [← resolved, isResolved]

theorem configure_of_refused {refusal : Settings.FileRefusal}
    (refused : resolved here i = .error (.refused refusal)) :
    configure here i = .error (.ended ⟨2, "", s!"config error: {refusal.message}\n"⟩) := by
  unfold configure
  dsimp only
  rw [← resolved, refused]

theorem configure_of_unforeseen {error : Settings.ResolveError} (isError : resolved here i = .error error)
    (unforeseen : ∀ refusal, error ≠ .refused refusal) :
    configure here i = .error (.escaped (.settings error)) := by
  unfold configure
  dsimp only
  rw [← resolved, isError]
  cases error with
  | refused refusal => exact absurd rfl (unforeseen refusal)
  | search fault => rfl
  | undecodable => rfl
  | broken breakdown => rfl
  | settings error => rfl
  | unknownNetwork shown => rfl

theorem not_configEscapes {base : Config} (isResolved : resolved here i = .ok base)
    (unbroken : ∀ path, i.file = some path →
      path.parts.any (fun part => part.toList.contains '\x00') = false) : ¬ConfigEscapes here i := by
  intro escapes
  cases escapes with
  | unforeseen unresolved _ => cases isResolved.symm.trans unresolved
  | path _ isFile broken => cases broken.symm.trans (unbroken _ isFile)

theorem configure_cases (here : Situation) (i : Invocation) :
    (∃ config base, configure here i = .ok config ∧ resolved here i = .ok base ∧ ¬ConfigEscapes here i) ∨
    (∃ refusal ended, resolved here i = .error (.refused refusal) ∧
      configure here i = .error (.ended ended) ∧ ended.exit = 2) ∨
    ConfigEscapes here i ∧ ∃ escape, configure here i = .error (.escaped escape) := by
  cases isResolved : resolved here i with
  | ok base =>
      have configured := configure_of_resolved isResolved
      cases isFile : i.file with
      | none =>
          rw [isFile] at configured
          refine Or.inl ⟨base, base, configured, rfl, not_configEscapes isResolved fun path impossible => ?_⟩
          rw [isFile] at impossible
          cases impossible
      | some path =>
          rw [isFile, withFile] at configured
          split at configured
          · rename_i broken
            exact Or.inr (Or.inr ⟨.path isResolved isFile broken, _, configured⟩)
          · rename_i unbroken
            refine Or.inl ⟨_, base, configured, rfl, not_configEscapes isResolved fun other isOther => ?_⟩
            cases isFile.symm.trans isOther
            exact Bool.eq_false_iff.mpr unbroken
  | error error =>
      by_cases foreseen : ∃ refusal, error = .refused refusal
      · rcases foreseen with ⟨refusal, rfl⟩
        exact Or.inr (Or.inl ⟨refusal, _, rfl, configure_of_refused isResolved, rfl⟩)
      · have unforeseen := not_exists.mp foreseen
        exact Or.inr (Or.inr ⟨.unforeseen isResolved unforeseen, _,
          configure_of_unforeseen isResolved unforeseen⟩)

theorem resolved_of_configured {config : Config} (configured : configure here i = .ok config) :
    (∃ base, resolved here i = .ok base) ∧ ¬ConfigEscapes here i := by
  rcases configure_cases here i with ⟨_, base, _, isBase, contained⟩ | ⟨_, _, _, refused, _⟩ | ⟨_, _, escaped⟩
  · exact ⟨⟨base, isBase⟩, contained⟩
  · cases configured.symm.trans refused
  · cases configured.symm.trans escaped

/-! ### The store of a run -/

/-- A store that was opened holds what was found and nothing else. -/
structure Opened.Holds (opened : Opened) (found : Findings) : Prop where
  shaped : opened.store.table.Shaped
  hashes : ∀ height hash, opened.store.table.hash? height = some hash ↔ found.Pins height hash

namespace Opened.Holds

variable {opened : Opened} {found : Findings}

theorem pinned?_eq_some_iff (holds : opened.Holds found) {height : Int} {pinned : Hash} :
    opened.store.table.pinned? height = some pinned ↔
      ∃ natural : Nat, height = natural ∧ found.Pins natural pinned := by
  rw [Table.pinned?_eq_some_iff]
  simp only [holds.hashes]

theorem mem_pinnedHeights_iff (holds : opened.Holds found) {height : Nat} :
    height ∈ opened.store.table.pinnedHeights ↔ ∃ pinned, found.Pins height pinned := by
  rw [Table.pinned_iff_hash?_isSome, Option.isSome_iff_exists]
  simp only [holds.hashes]

theorem rejected_iff (holds : opened.Holds found) {height : Int} {hash : Value} :
    (opened.store.table.check height hash).check.accepted = false ↔
      ∃ (natural : Nat) (pinned : Hash), height = natural ∧ found.Pins natural pinned ∧
        Hash.ofValue hash ≠ .ok pinned := by
  rw [← Bool.not_eq_true, Table.check_accepted_iff]
  push Not
  constructor
  · intro rejected
    rcases rejected with ⟨pinned, isPinned, other⟩
    obtain ⟨natural, same, pins⟩ := holds.pinned?_eq_some_iff.mp isPinned
    exact ⟨natural, pinned, same, pins, other⟩
  · intro rejected
    rcases rejected with ⟨natural, pinned, same, pins, other⟩
    exact ⟨pinned, holds.pinned?_eq_some_iff.mpr ⟨natural, same, pins⟩, other⟩

theorem forbidden_iff (holds : opened.Holds found) {tip block : Int} :
    opened.store.table.mayFork tip block = false ↔
      block = 0 ∨ ∃ (height : Nat) (pinned : Hash), found.Pins height pinned ∧ (height : Int) ≤ tip ∧
        block ≤ height := by
  rw [← Bool.not_eq_true, holds.shaped.mayFork_iff, not_and_or, not_not]
  refine or_congr_right ?_
  push Not
  constructor
  · intro forbidden
    rcases forbidden with ⟨height, member, reached, notAbove⟩
    obtain ⟨pinned, pins⟩ := holds.mem_pinnedHeights_iff.mp member
    exact ⟨height, pinned, pins, reached, notAbove⟩
  · intro forbidden
    rcases forbidden with ⟨height, pinned, pins, reached, notAbove⟩
    exact ⟨height, holds.mem_pinnedHeights_iff.mpr ⟨pinned, pins⟩, reached, notAbove⟩

end Opened.Holds

/-- Opening a store under a configuration escapes, ends with one, or gives a store with what was found. -/
theorem openStore_cases {config : Config} (configured : configure here i = .ok config) :
    ((sources here i config).BreaksOff ∧ ∃ escape, openStore here i = .error (.escaped escape)) ∨
    (¬(sources here i config).BreaksOff ∧ (sources here i config).Fails ∧
      ∃ ended, openStore here i = .error (.ended ended) ∧ ended.exit = 1) ∨
    ¬(sources here i config).BreaksOff ∧ ¬(sources here i config).Fails ∧
      ∃ opened, openStore here i = .ok opened ∧ opened.Holds (sources here i config) := by
  -- What the start answers decides what the opening does.
  have opening := openStore.eq_def here i
  rw [configured] at opening
  rcases start : Store.bootstrap here.world here.web config none (if i.remote then some true else none) with
    ⟨started, store⟩
  simp only [bind, Except.bind, start] at opening
  by_cases broken : (sources here i config).BreaksOff
  · obtain ⟨⟨error, answer⟩, _⟩ := not_answers_of_breaksOff here.world here.web config none
      (if i.remote then some true else none) broken
    have failed : (Store.bootstrap here.world here.web config none
        (if i.remote then some true else none)).2 = .error (.load error) :=
      congrArg (Except.map _) answer
    rw [start] at failed
    cases failed
    exact Or.inl ⟨broken, _, opening⟩
  · rcases build_of_fit here.world here.web config none (if i.remote then some true else none) broken with
      ⟨fails, answer⟩ | ⟨sound, load, built⟩
    · have failed : (Store.bootstrap here.world here.web config none
          (if i.remote then some true else none)).2 = .error (.notLoaded config.network) :=
        congrArg (Except.map _) answer
      rw [start] at failed
      cases failed
      exact Or.inr (Or.inl ⟨broken, fails, _, opening, rfl⟩)
    · have opened := Store.bootstrap_of_built built
      rw [start] at opened
      cases opened
      have merges := merges_of_build here.world here.web config none _ built
      exact Or.inr (Or.inr ⟨broken, sound, _, opening, shaped_of_build built,
        merges.hash?_eq_some_iff⟩)

end ReorgGuard.Command
