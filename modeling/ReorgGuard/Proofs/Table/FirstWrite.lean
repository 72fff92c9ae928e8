import ReorgGuard.Checkpoint.Loader
import ReorgGuard.Proofs.Table.Growth

/-!
The checkpoints that writers get accepted.

Whoever writes to a table proposes checkpoints to it one by one, and goes on for as long as its own
rules allow.  The log of a run holds the proposals that were accepted, in order, whatever each
writer answered in the end.  Of the log, the first hash for a height is the one that the table pins there
and the first difficulty is the one that it knows; since the log only grows, neither ever changes.

The steps of a load are writers as well.  What is read of files and fetched of feeds is taken as it comes.
-/

namespace ReorgGuard.Checkpoint

/-! ### Proposals -/

/-- A checkpoint as it is proposed to a table, not checked yet. -/
structure Proposal where
  height : Value
  hash : Value
  difficulty : Value

def Proposal.pin? (proposal : Proposal) : Option Pin :=
  match Height.ofValue proposal.height, Hash.ofValue proposal.hash,
    Difficulty.ofValue proposal.difficulty with
  | .ok height, .ok hash, .ok difficulty => some ⟨height, hash, difficulty⟩
  | _, _, _ => none

theorem Proposal.pin?_of_read {proposal : Proposal} {pin : Pin}
    (read : pin.ReadFrom proposal.height proposal.hash proposal.difficulty) : proposal.pin? = some pin := by
  unfold pin?
  rw [read.readHeight, read.readHash, read.readDifficulty]

def Hardcoded.proposal (point : Hardcoded) : Proposal :=
  ⟨.int point.height, .text point.hash, .text point.difficulty⟩

/-- The proposals of a source, as far as its entries can be looked at: those above the floor that are not
malformed. -/
def Intake.proposals (intake : Intake) : List Entry → List Proposal
  | [] => []
  | entry :: rest =>
      match entry.height.atMost? intake.floor, entry.fault? with
      | none, _ => []
      | some true, _ => intake.proposals rest
      | some false, .error _ => []
      | some false, .ok (some _) => intake.proposals rest
      | some false, .ok none => ⟨entry.height, entry.hash, .null⟩ :: intake.proposals rest

namespace Operation

def proposals : Operation → List Proposal
  | add height hash difficulty => [⟨height, hash, difficulty⟩]
  | seed network => (hardcoded network).map Hardcoded.proposal
  | absorb intake entries => intake.proposals entries
  | load floor strict entries => Intake.proposals ⟨"source", floor, strict⟩ entries
  | freeze => []

def endsRefused : Operation → Bool
  | absorb intake _ => intake.strict
  | load _ strict _ => strict
  | _ => true

end Operation

namespace Table

/-- The proposals that a table accepts, one after the other.  An error ends them, and so does a refusal if it
is to. -/
def accepted (endsRefused : Bool) (table : Table) : List Proposal → List Pin
  | [] => []
  | proposal :: rest =>
      match table.add proposal.height proposal.hash proposal.difficulty with
      | .accepted next => proposal.pin?.toList ++ accepted endsRefused next rest
      | .refused _ => if endsRefused then [] else accepted endsRefused table rest
      | .failed _ => []

def acceptedOver (table : Table) : List Operation → List Pin
  | [] => []
  | operation :: rest =>
      table.accepted operation.endsRefused operation.proposals ++
        (table.perform operation).acceptedOver rest

/-- One table comes from another by these checkpoints, each proposed and accepted in its turn; the table may
have been closed in between. -/
inductive Accepts : Table → List Pin → Table → Prop
  | nothing (table : Table) : Accepts table [] table
  | next {before between after : Table} {pin : Pin} {pins : List Pin} {proposal : Proposal}
      (read : pin.ReadFrom proposal.height proposal.hash proposal.difficulty)
      (added : before.add proposal.height proposal.hash proposal.difficulty = .accepted between)
      (rest : Accepts between pins after) : Accepts before (pin :: pins) after
  | closed {before after : Table} {pins : List Pin} (rest : Accepts before.freeze pins after) :
      Accepts before pins after

theorem writeAll_freeze (table : Table) (pins : List Pin) :
    table.freeze.writeAll pins = (table.writeAll pins).freeze := by
  induction pins generalizing table with
  | nil => rfl
  | cons pin rest ih => exact ih (table.write pin)

theorem length_le_supply {α : Type} (entries : List (Nat × α)) (key : Nat) (given : Option α) :
    entries.length ≤ (supply entries key given).length := by
  cases given with
  | none => exact le_rfl
  | some value =>
      by_cases present : (entries.lookup key).isSome
      · rw [supply, if_pos present]
      · rw [supply, if_neg present, List.length_append]
        exact Nat.le_add_right _ _

theorem lookup_hashes_eq_find? (pins : List Pin) (height : Nat) :
    (pins.map fun pin => (pin.height, pin.hash)).lookup height =
      (pins.find? fun pin => pin.height = height).map Pin.hash := by
  induction pins with
  | nil => rfl
  | cons pin rest ih =>
      rw [List.map_cons, List.lookup_cons, List.find?_cons, ih]
      by_cases here : pin.height = height
      · simp [here]
      · rw [beq_false_of_ne (Ne.symm here), decide_eq_false here]

theorem lookup_difficulties_eq_findSome? (pins : List Pin) (height : Nat) :
    (pins.filterMap fun pin => pin.difficulty.map fun d => (pin.height, d)).lookup height =
      pins.findSome? fun pin => if pin.height = height then pin.difficulty else none := by
  induction pins with
  | nil => rfl
  | cons pin rest ih =>
      rw [List.filterMap_cons, List.findSome?_cons]
      cases given : pin.difficulty with
      | none =>
          rw [ite_self]
          exact ih
      | some d =>
          rw [Option.map_some, List.lookup_cons]
          by_cases here : pin.height = height
          · simp [here]
          · rw [if_neg here, beq_false_of_ne (Ne.symm here)]
            exact ih

namespace Accepts

variable {before between after : Table} {pins later : List Pin}

theorem append (first : Accepts before pins between) (second : Accepts between later after) :
    Accepts before (pins ++ later) after := by
  induction first with
  | nothing table => exact second
  | next read added _ ih => exact .next read added (ih second)
  | closed _ ih => exact .closed (ih second)

theorem of_added (proposal : Proposal) {rest : List Pin}
    (added : before.add proposal.height proposal.hash proposal.difficulty = .accepted between)
    (further : Accepts between rest after) : Accepts before (proposal.pin?.toList ++ rest) after := by
  obtain ⟨_, pin, read, _⟩ := add_eq_accepted_iff.mp added
  rw [Proposal.pin?_of_read read]
  exact .next read added further

/-- What is true of a table, and stays true when it is closed or an admitted checkpoint is written, is true of
all that comes of it. -/
theorem preserves (holds : Table → Prop) (accepts : Accepts before pins after) (start : holds before)
    (closes : ∀ table, holds table → holds table.freeze)
    (writes : ∀ (table : Table) (pin : Pin), pin.height ≤ Checkpoint.maxHeight → holds table →
      holds (table.write pin)) : holds after := by
  induction accepts with
  | nothing table => exact start
  | next read added _ ih =>
      obtain ⟨_, pin, read, _, rfl⟩ := add_eq_accepted_iff.mp added
      exact ih (writes _ pin (Height.ofValue_le read.readHeight) start)
  | closed _ ih => exact ih (closes _ start)

theorem shaped (accepts : Accepts before pins after) (shaped : before.Shaped) : after.Shaped :=
  accepts.preserves Shaped shaped (fun _ held => held.freeze) fun _ pin inRange held => held.write pin inRange

theorem size_le (accepts : Accepts before pins after) : before.size ≤ after.size := by
  refine accepts.preserves (fun table => before.size ≤ table.size) le_rfl (fun _ held => held) ?_
  intro table pin _ held
  exact held.trans (length_le_supply table.points pin.height (some pin.hash))

theorem eq_writeAll (accepts : Accepts before pins after) :
    after = before.writeAll pins ∨ after = (before.writeAll pins).freeze := by
  induction accepts with
  | nothing table => exact Or.inl rfl
  | @next before between after pin pins proposal read added _ ih =>
      obtain ⟨_, offered, sameRead, _, rfl⟩ := add_eq_accepted_iff.mp added
      have same : offered = pin := Option.some.inj
        ((Proposal.pin?_of_read sameRead).symm.trans (Proposal.pin?_of_read read))
      rw [same] at ih
      exact ih
  | closed _ ih =>
      rw [writeAll_freeze] at ih
      exact Or.inr (ih.elim id id)

theorem hash?_eq (accepts : Accepts before pins after) (height : Nat) :
    after.hash? height =
      (before.hash? height).or ((pins.map fun pin => (pin.height, pin.hash)).lookup height) := by
  rw [← hash?_writeAll]
  rcases accepts.eq_writeAll with rfl | rfl <;> rfl

theorem difficulty?_eq (accepts : Accepts before pins after) (height : Nat) :
    after.difficulty? height =
      (before.difficulty? height).or
        ((pins.filterMap fun pin => pin.difficulty.map fun d => (pin.height, d)).lookup height) := by
  rw [← difficulty?_writeAll]
  rcases accepts.eq_writeAll with rfl | rfl <;> rfl

theorem maxHeight_le (accepts : Accepts before pins after) (isShaped : before.Shaped) :
    before.maxHeight ≤ after.maxHeight := by
  by_cases empty : before.points = []
  · rw [isShaped.maxHeight_of_empty empty]
    exact Nat.zero_le _
  · have greatest := (isShaped.maxHeight_isGreatest empty).1
    apply (accepts.shaped isShaped).le_maxHeight
    rw [pinned_iff_hash?_isSome] at greatest ⊢
    rw [accepts.hash?_eq, Option.isSome_or, greatest, Bool.true_or]

end Accepts

/-! ### Operations -/

theorem accepts_seedFrom (network : Network) (table : Table) (points : List Hardcoded) :
    Accepts table (table.accepted true (points.map Hardcoded.proposal))
      (table.seedFrom network points).table := by
  induction points generalizing table with
  | nil => exact .nothing table
  | cons point rest ih =>
      simp only [List.map_cons, accepted, seedFrom, Hardcoded.proposal]
      cases added : table.add (.int point.height) (.text point.hash) (.text point.difficulty) with
      | accepted next => exact .of_added point.proposal added (ih next)
      | refused why => exact .nothing table
      | failed error => exact .nothing table

theorem accepts_absorbFrom (intake : Intake) (table : Table) (report : Report) (entries : List Entry) :
    Accepts table (table.accepted intake.strict (intake.proposals entries))
      (table.absorbFrom intake report entries).table := by
  -- Where the run breaks off at an entry, the proposals end there too.
  induction entries generalizing table report with
  | nil => exact .nothing table
  | cons entry rest ih =>
      unfold absorbFrom Intake.proposals
      rcases entry.height.atMost? intake.floor with _ | _ | _
      · exact .nothing table
      · rcases entry.fault? with _ | _ | _
        · exact .nothing table
        · simp only [accepted]
          cases added : table.add entry.height entry.hash .null with
          | accepted next =>
              exact .of_added ⟨entry.height, entry.hash, .null⟩ added (ih next _)
          | refused why =>
              dsimp only
              split
              · exact .nothing table
              · exact ih table _
          | failed error => exact .nothing table
        · exact ih table _
      · exact ih table _

theorem accepts_perform (table : Table) (operation : Operation) :
    Accepts table (table.accepted operation.endsRefused operation.proposals) (table.perform operation) := by
  cases operation with
  | add height hash difficulty =>
      simp only [Operation.proposals, accepted, perform]
      cases added : table.add height hash difficulty with
      | accepted next => exact .of_added ⟨height, hash, difficulty⟩ added (.nothing next)
      | refused why => exact .nothing table
      | failed error => exact .nothing table
  | seed network => exact accepts_seedFrom network table _
  | absorb intake entries => exact accepts_absorbFrom intake table _ entries
  | load floor strict entries => exact accepts_absorbFrom ⟨"source", floor, strict⟩ table _ entries
  | freeze => exact .closed (.nothing table.freeze)

theorem accepts_performAll (table : Table) (operations : List Operation) :
    Accepts table (table.acceptedOver operations) (table.performAll operations) := by
  induction operations generalizing table with
  | nil => exact .nothing table
  | cons operation rest ih => exact (accepts_perform table operation).append (ih _)

end Table

/-! ### Steps of a load -/

/-- What may be done to fill a table: an operation, or a step of a load into it. -/
inductive Filling where
  | perform (operation : Operation)
  | file (files : Files) (path : Option Path) (floor : Value)
  | feed (source : FeedSource) (here : Feed.Surroundings) (web : Feed.Web) (network : Network)
  | all (source : FeedSource) (required : Bool) (files : Files) (here : Feed.Surroundings)
      (web : Feed.Web) (path : Option Path) (network : Network) (remote : Bool)

namespace Table

def fill (table : Table) : Filling → Table
  | .perform operation => table.perform operation
  | .file files path floor => ((Load.mk table []).takeFileAt files path floor).load.table
  | .feed source here web network => ((Load.mk table []).takeFeedFrom source here web network).load.table
  | .all source required files here web path network remote =>
      ((Load.mk table []).takeAll source required files here web path network remote).load.table

def fillAll (table : Table) (fillings : List Filling) : Table :=
  fillings.foldl fill table

def fileOperations (table : Table) (files : Files) (path : Option Path) (floor : Value) : List Operation :=
  match path with
  | none => []
  | some path =>
      match Hashfile.read files path with
      | .ok (some lines) =>
          let floor := match floor with
            | .null => .int table.maxHeight
            | floor => floor
          [.absorb ⟨path.text, floor, true⟩ (Hashfile.entries lines)]
      | _ => []

def feedOperations (table : Table) (network : Network) (fetched : Except Feed.FeedError (List String)) :
    List Operation :=
  match fetched.map FeedRecord.readAll with
  | .ok (.ok kept) =>
      [.absorb ⟨s!"feed:{network.name}", .int table.maxHeight, false⟩ (FeedRecord.entries kept)]
  | _ => []

end Table

namespace Load

theorem absorb_table (load : Load) (intake : Intake) (entries : List Entry) :
    (load.absorb intake entries).load.table = load.table.perform (.absorb intake entries) := by
  unfold absorb
  dsimp only
  split <;> rfl

theorem takeFileAt_table (load : Load) (files : Files) (path : Option Path) (floor : Value) :
    (load.takeFileAt files path floor).load.table =
      load.table.performAll (load.table.fileOperations files path floor) := by
  unfold takeFileAt Table.fileOperations
  cases path with
  | none => rfl
  | some path =>
      dsimp only
      rcases Hashfile.read files path with error | found | lines
      · cases error <;> rfl
      · rfl
      · exact load.absorb_table _ _

theorem takeFeed_table (load : Load) (network : Network) (fetched : Except Feed.FeedError (List String)) :
    (load.takeFeed network fetched).load.table =
      load.table.performAll (load.table.feedOperations network fetched) := by
  rcases fetched with error | records
  · cases error <;> rfl
  · unfold takeFeed Table.feedOperations
    simp only [Except.map]
    cases FeedRecord.readAll records with
    | error limit => rfl
    | ok kept => exact load.absorb_table _ _

theorem takeAll_table (load : Load) (feed : FeedSource) (required : Bool) (files : Files)
    (here : Feed.Surroundings) (web : Feed.Web) (path : Option Path) (network : Network) (remote : Bool) :
    let file := load.takeFileAt files path (.int load.table.maxHeight)
    (load.takeAll feed required files here web path network remote).load.table =
      if remote && file.answer.isOk then
        (file.load.takeFeed network (feed.fetch here web network).answer).load.table
      else file.load.table := by
  intro file
  unfold takeAll
  dsimp only
  cases answered : file.answer with
  | error error =>
      rw [Bool.and_comm]
      rfl
  | ok fine =>
      cases remote with
      | false => rfl
      | true =>
          dsimp only [takeFeedFrom]
          cases (file.load.takeFeed network (feed.fetch here web network).answer).answer <;> rfl

end Load

namespace Table

/-- The operations that make up a filling.  A load goes on to the feed if the step of the hashfile came to an
answer. -/
def operationsOf (table : Table) : Filling → List Operation
  | .perform operation => [operation]
  | .file files path floor => table.fileOperations files path floor
  | .feed source here web network => table.feedOperations network (source.fetch here web network).answer
  | .all source _ files here web path network remote =>
      let file := (Load.mk table []).takeFileAt files path (.int table.maxHeight)
      table.fileOperations files path (.int table.maxHeight) ++
        if remote && file.answer.isOk then
          file.load.table.feedOperations network (source.fetch here web network).answer
        else []

theorem fill_eq_performAll (table : Table) (filling : Filling) :
    table.fill filling = table.performAll (table.operationsOf filling) := by
  cases filling with
  | perform operation => rfl
  | file files path floor => exact Load.takeFileAt_table _ files path floor
  | feed source here web network => exact Load.takeFeed_table _ network _
  | all source required files here web path network remote =>
      simp only [fill, operationsOf, Load.takeAll_table, performAll, List.foldl_append]
      split
      · rw [Load.takeFeed_table, Load.takeFileAt_table]
        rfl
      · exact Load.takeFileAt_table _ files path _

/-! ### Runs -/

/-- What a run of fillings gets accepted, in order. -/
def log (table : Table) : List Filling → List Pin
  | [] => []
  | filling :: rest => table.acceptedOver (table.operationsOf filling) ++ (table.fill filling).log rest

theorem accepts_fillAll (table : Table) (fillings : List Filling) :
    Accepts table (table.log fillings) (table.fillAll fillings) := by
  induction fillings generalizing table with
  | nil => exact .nothing table
  | cons filling rest ih =>
      have first := accepts_performAll table (table.operationsOf filling)
      rw [← fill_eq_performAll] at first
      exact first.append (ih (table.fill filling))

theorem fillAll_shaped (fillings : List Filling) : (empty.fillAll fillings).Shaped :=
  (accepts_fillAll empty fillings).shaped shaped_empty

theorem hash?_fillAll_of_some {table : Table} {height : Nat} {hash : Hash}
    (pinned : table.hash? height = some hash) (fillings : List Filling) :
    (table.fillAll fillings).hash? height = some hash := by
  rw [(accepts_fillAll table fillings).hash?_eq, pinned, Option.some_or]

/-- After any run of writers the hash and the difficulty at a height are those of the first checkpoint with one
that was accepted for the height, and whatever is written later changes neither of them. -/
theorem first_accepted_stands (fillings more : List Filling) :
    let table := empty.fillAll fillings
    let later := table.fillAll more
    Accepts empty (empty.log fillings) table ∧
    (∀ height, table.hash? height =
      ((empty.log fillings).find? fun pin => pin.height = height).map Pin.hash) ∧
    (∀ height, table.difficulty? height =
      (empty.log fillings).findSome? fun pin => if pin.height = height then pin.difficulty else none) ∧
    (∀ height hash, table.hash? height = some hash → later.hash? height = some hash) ∧
    (∀ height difficulty, table.difficulty? height = some difficulty →
      later.difficulty? height = some difficulty) ∧
    table.maxHeight ≤ later.maxHeight ∧ table.size ≤ later.size := by
  intro table later
  have early : Accepts empty (empty.log fillings) table := accepts_fillAll empty fillings
  have late : Accepts table (table.log more) later := accepts_fillAll table more
  refine ⟨early, fun height => ?_, fun height => ?_, fun height hash pinned => ?_,
    fun height difficulty known => ?_, late.maxHeight_le (fillAll_shaped fillings), late.size_le⟩
  · rw [early.hash?_eq, lookup_hashes_eq_find?]
    rfl
  · rw [early.difficulty?_eq, lookup_difficulties_eq_findSome?]
    rfl
  · exact hash?_fillAll_of_some pinned more
  · rw [late.difficulty?_eq, known, Option.some_or]

end Table

end ReorgGuard.Checkpoint
