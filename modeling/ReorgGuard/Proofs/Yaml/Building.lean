import ReorgGuard.Proofs.Fallible
import ReorgGuard.Proofs.Value.Keys
import ReorgGuard.Yaml.Document

/-!
What is built from the nodes of a document.

Each step of the building leads from a sound state to a sound one and only ever adds to it: a node that has
its part keeps it, and a collection that is met waits until it is filled.  Since every node is met once,
the fuel that filling is given always lasts, so that in the end every collection is filled.  The mappings
among them hold each key once.

Where the nodes come from is left open: merge marks may have moved entries about in any way.
-/

namespace ReorgGuard

def Value.IsPlain : Value → Prop
  | list _ => False
  | tuple _ => False
  | set _ => False
  | dict _ => False
  | _ => True

namespace Yaml

theorem join_setIfInBounds {α : Type} (all : Array (Option α)) (id other : NodeId) (new : Option α) :
    (all.setIfInBounds id new)[other]?.join =
      if id = other ∧ id < all.size then new else all[other]?.join := by
  rw [Array.getElem?_setIfInBounds]
  by_cases same : id = other
  · subst same
    by_cases inside : id < all.size <;> simp [inside]
  · simp [same]

namespace Building

def Holds (b : Building) : Part → Prop
  | .value v => v.IsPlain
  | .collection id => b.parts[id]?.join = some (.collection id)

def unmet (b : Building) : Nat :=
  b.parts.toList.countP Option.isNone

structure Sound (b : Building) : Prop where
  sized : b.parts.size = b.nodes.size
  holds : ∀ (id : NodeId) (part : Part), b.parts[id]?.join = some part → b.Holds part

structure Keeps (b after : Building) : Prop where
  size : after.parts.size = b.parts.size
  kept : ∀ (id : NodeId) (part : Part), b.parts[id]?.join = some part → after.parts[id]?.join = some part

/-- What a step adds to a state.  Each collection that is met anew waits, and is met at the cost of a node
that was not. -/
structure Grows (b after : Building) : Prop extends b.Keeps after where
  fillings : after.fillings = b.fillings
  waiting : ∀ id ∈ b.waiting, id ∈ after.waiting
  fresh : ∀ id : NodeId, after.parts[id]?.join = some (.collection id) →
    b.parts[id]?.join = some (.collection id) ∨ id ∈ after.waiting
  spent : after.waiting.length + after.unmet ≤ b.waiting.length + b.unmet

variable {b next after : Building}

theorem Grows.refl (b : Building) : b.Grows b :=
  ⟨⟨rfl, fun _ _ held => held⟩, rfl, fun _ member => member, fun _ met => Or.inl met, Nat.le_refl _⟩

theorem Keeps.trans (first : b.Keeps next) (second : next.Keeps after) : b.Keeps after :=
  ⟨second.size.trans first.size, fun id part held => second.kept id part (first.kept id part held)⟩

theorem Grows.trans (first : b.Grows next) (second : next.Grows after) : b.Grows after where
  toKeeps := first.toKeeps.trans second.toKeeps
  fillings := second.fillings.trans first.fillings
  waiting id member := second.waiting id (first.waiting id member)
  fresh id met := by
    rcases second.fresh id met with before | waits
    · exact (first.fresh id before).imp_right (second.waiting id)
    · exact Or.inr waits
  spent := Nat.le_trans second.spent first.spent

theorem Keeps.holds (keeps : b.Keeps after) {part : Part} (held : b.Holds part) : after.Holds part := by
  cases part with
  | value v => exact held
  | collection id => exact keeps.kept id _ held

structure Alike (b after : Building) : Prop where
  parts : after.parts = b.parts
  waiting : after.waiting = b.waiting
  fillings : after.fillings = b.fillings
  size : after.nodes.size = b.nodes.size

theorem Alike.trans (first : b.Alike next) (second : next.Alike after) : b.Alike after :=
  ⟨second.parts.trans first.parts, second.waiting.trans first.waiting,
    second.fillings.trans first.fillings, second.size.trans first.size⟩

theorem Alike.holds_iff (alike : b.Alike after) (part : Part) : after.Holds part ↔ b.Holds part := by
  cases part with
  | value v => exact Iff.rfl
  | collection id =>
      unfold Holds
      rw [alike.parts]

theorem Alike.sound (alike : b.Alike after) (sound : b.Sound) : after.Sound where
  sized := by rw [alike.parts, alike.size, sound.sized]
  holds id part held := by
    rw [alike.holds_iff]
    rw [alike.parts] at held
    exact sound.holds id part held

theorem Alike.grows (alike : b.Alike after) : b.Grows after where
  size := by rw [alike.parts]
  kept id part held := by rw [alike.parts, held]
  fillings := alike.fillings
  waiting id member := by rw [alike.waiting]; exact member
  fresh id met := by rw [alike.parts] at met; exact Or.inl met
  spent := by
    refine Nat.le_of_eq ?_
    unfold unmet
    rw [alike.waiting, alike.parts]

end Building

/-! ### Steps that change nodes at most -/

def Still {α : Type} (step : Builds α) : Prop :=
  ∀ (b : Building) (answer : α) (after : Building), step b = .ok (answer, after) → b.Alike after

variable {α β : Type}

theorem bind_eq_ok_iff {step : Builds α} {next : α → Builds β} {b after : Building} {answer : β} :
    (step >>= next) b = .ok (answer, after) ↔
      ∃ first between, step b = .ok (first, between) ∧ next first between = .ok (answer, after) := by
  simp only [bind, StateT.bind, Except.bind]
  cases step b with
  | error fault => simp
  | ok led =>
      rcases led with ⟨first, between⟩
      simp

theorem pure_eq_ok_iff {given answer : α} {b after : Building} :
    (pure given : Builds α) b = .ok (answer, after) ↔ answer = given ∧ after = b := by
  change Except.ok (given, b) = Except.ok (answer, after) ↔ _
  rw [Except.ok.injEq, Prod.mk.injEq, eq_comm, @eq_comm _ b]

theorem get_eq_ok_iff {b after answer : Building} :
    (get : Builds Building) b = .ok (answer, after) ↔ answer = b ∧ after = b := by
  change Except.ok (b, b) = Except.ok (answer, after) ↔ _
  rw [Except.ok.injEq, Prod.mk.injEq, eq_comm, @eq_comm _ b]

theorem modify_eq_ok_iff {f : Building → Building} {b after : Building} {answer : Unit} :
    (modify f : Builds Unit) b = .ok (answer, after) ↔ after = f b := by
  change Except.ok ((), f b) = Except.ok (answer, after) ↔ _
  rw [Except.ok.injEq, Prod.mk.injEq, @eq_comm _ (f b)]
  exact and_iff_right rfl

theorem throw_eq_ok_iff {fault : Fault} {b after : Building} {answer : α} :
    (throw fault : Builds α) b = .ok (answer, after) ↔ False := by
  change Except.error fault = Except.ok (answer, after) ↔ False
  exact iff_of_false (fun impossible => by cases impossible) not_false

theorem malformed_eq_ok_iff {b after : Building} {answer : α} :
    (malformed : Builds α) b = .ok (answer, after) ↔ False :=
  throw_eq_ok_iff

theorem map_lift_eq_ok_iff {read : Except Fault α} {f : α → β} {b after : Building} {answer : β} :
    (f <$> (liftM read : Builds α)) b = .ok (answer, after) ↔
      ∃ found, read = .ok found ∧ answer = f found ∧ after = b := by
  cases read with
  | error fault => exact iff_of_false (fun impossible => by cases impossible) (by simp)
  | ok found =>
      change Except.ok (f found, b) = Except.ok (answer, after) ↔ _
      simp [eq_comm]

theorem Still.pure (given : α) : Still (pure given) := by
  intro b answer after ran
  obtain ⟨_, rfl⟩ := pure_eq_ok_iff.mp ran
  exact ⟨rfl, rfl, rfl, rfl⟩

theorem Still.throw (fault : Fault) : Still (throw fault : Builds α) :=
  fun _ _ _ ran => (throw_eq_ok_iff.mp ran).elim

theorem Still.get : Still get := by
  intro b answer after ran
  obtain ⟨_, rfl⟩ := get_eq_ok_iff.mp ran
  exact ⟨rfl, rfl, rfl, rfl⟩

theorem Still.bind {step : Builds α} {next : α → Builds β} (first : Still step)
    (second : ∀ answer, Still (next answer)) : Still (step >>= next) := by
  intro b answer after ran
  obtain ⟨_, _, ranFirst, ranSecond⟩ := bind_eq_ok_iff.mp ran
  exact (first _ _ _ ranFirst).trans (second _ _ _ _ ranSecond)

theorem still_nodeAt (id : NodeId) : Still (nodeAt id) :=
  .bind .get fun _ => .pure _

theorem still_entriesAt (id : NodeId) : Still (entriesAt id) := by
  refine .bind (still_nodeAt id) fun node => ?_
  split
  · exact .pure _
  · exact .throw _

theorem still_itemsAt (id : NodeId) : Still (itemsAt id) := by
  refine .bind (still_nodeAt id) fun node => ?_
  split
  · exact .pure _
  · exact .throw _

theorem still_change (id : NodeId) (f : Node → Node) : Still (change id f) := by
  intro b answer after ran
  obtain rfl := modify_eq_ok_iff.mp ran
  exact ⟨rfl, rfl, rfl, Array.size_modify⟩

theorem still_flatten (fuel : Nat) :
    (∀ id index merged, Still (flattenFrom fuel id index merged)) ∧
      ∀ items, Still (mergedItems fuel items) := by
  induction fuel with
  | zero =>
      refine ⟨fun id index merged => ?_, fun items => ?_⟩
      · rw [flattenFrom]
        exact .throw _
      · rw [mergedItems]
        exact .throw _
  | succ fuel ih =>
      rcases ih with ⟨flatten, items⟩
      refine ⟨fun id index merged => ?_, fun nodes => ?_⟩
      · rw [flattenFrom]
        refine .bind (still_entriesAt id) fun entries => ?_
        split
        · exact still_change _ _
        · rename_i key value _
          refine .bind (still_nodeAt key) fun node => ?_
          split
          · refine .bind (still_change _ _) fun _ => .bind (still_nodeAt value) fun below => ?_
            dsimp only
            split
            · exact .bind (flatten _ _ _) fun _ => .bind (still_entriesAt _) fun _ => flatten _ _ _
            · exact .bind (items _) fun _ => flatten _ _ _
            · exact .bind (.throw _) fun _ => flatten _ _ _
          · exact .bind (still_change _ _) fun _ => flatten _ _ _
          · exact flatten _ _ _
      · cases nodes with
        | nil =>
            rw [mergedItems]
            · exact .pure _
            · exact fun impossible => Nat.succ_ne_zero _ impossible
        | cons item rest =>
            rw [mergedItems]
            refine .bind (still_entriesAt item) fun _ => .bind (flatten _ _ _) fun _ => ?_
            exact .bind (still_entriesAt item) fun _ => .bind (items rest) fun _ => .pure _

theorem still_scalarText (fuel : Nat) (id : NodeId) : Still (scalarText fuel id) := by
  induction fuel generalizing id with
  | zero =>
      rw [scalarText]
      exact .throw _
  | succ fuel ih =>
      rw [scalarText]
      refine .bind (still_nodeAt id) fun node => ?_
      split
      · exact .pure _
      · exact .throw _
      · refine .bind .get fun b => ?_
        dsimp only
        split
        · exact ih _
        · exact .throw _

/-! ### Steps that meet nodes -/

/-- From a sound state with the one property the step leads to a sound state that has grown and that has the
other property with the answer. -/
def Leads (before : Building → Prop) (step : Builds α) (behind : α → Building → Prop) : Prop :=
  ∀ (b : Building) (answer : α) (after : Building), b.Sound → before b → step b = .ok (answer, after) →
    after.Sound ∧ b.Grows after ∧ behind answer after

variable {before : Building → Prop}

theorem Leads.pure {behind : α → Building → Prop} {given : α}
    (holds : ∀ b : Building, b.Sound → before b → behind given b) : Leads before (pure given) behind := by
  intro b answer after sound isBefore ran
  obtain ⟨rfl, rfl⟩ := pure_eq_ok_iff.mp ran
  exact ⟨sound, .refl _, holds _ sound isBefore⟩

theorem Leads.bind {step : Builds α} {next : α → Builds β} {middle : α → Building → Prop}
    {behind : β → Building → Prop} (first : Leads before step middle)
    (second : ∀ answer, Leads (middle answer) (next answer) behind) : Leads before (step >>= next) behind := by
  intro b answer after sound isBefore ran
  obtain ⟨_, _, ranFirst, ranSecond⟩ := bind_eq_ok_iff.mp ran
  obtain ⟨sound, grows, isMiddle⟩ := first _ _ _ sound isBefore ranFirst
  obtain ⟨sound, grewOn, isBehind⟩ := second _ _ _ _ sound isMiddle ranSecond
  exact ⟨sound, grows.trans grewOn, isBehind⟩

theorem Leads.throw {behind : α → Building → Prop} (fault : Fault) :
    Leads before (throw fault : Builds α) behind :=
  fun _ _ _ _ _ ran => (throw_eq_ok_iff.mp ran).elim

theorem Still.leads {step : Builds α} (still : Still step)
    (lasts : ∀ b after : Building, b.Grows after → before b → before after) :
    Leads before step fun _ => before := by
  intro b answer after sound isBefore ran
  have alike := still _ _ _ ran
  exact ⟨alike.sound sound, alike.grows, lasts _ _ alike.grows isBefore⟩

namespace Building

variable {b : Building}

def meet (b : Building) (id : NodeId) (part : Part) : Building :=
  { b with
    parts := b.parts.setIfInBounds id (some part)
    waiting := match part with
      | .collection id => id :: b.waiting
      | .value _ => b.waiting }

theorem getElem?_meet (b : Building) (id other : NodeId) (part : Part) :
    (b.meet id part).parts[other]?.join =
      if id = other ∧ id < b.parts.size then some part else b.parts[other]?.join :=
  join_setIfInBounds b.parts id other (some part)

theorem unmet_meet {id : NodeId} {part : Part} (inside : id < b.parts.size)
    (new : b.parts[id]?.join = none) : (b.meet id part).unmet + 1 = b.unmet := by
  have within : id < b.parts.toList.length := inside
  have isNone : b.parts.toList[id] = none := by
    rw [Array.getElem?_eq_getElem inside] at new
    exact new
  have counted : 0 < b.parts.toList.countP Option.isNone := by
    rw [List.countP_pos_iff]
    exact ⟨none, List.mem_of_getElem isNone, rfl⟩
  unfold unmet meet
  rw [Array.toList_setIfInBounds, List.countP_set within, isNone]
  simp only [Option.isNone_none, Option.isNone_some, if_true, Bool.false_eq_true, if_false]
  omega

theorem grows_meet {id : NodeId} {part : Part} (new : b.parts[id]?.join = none)
    (own : ∀ other, part = .collection other → other = id ∧ id < b.parts.size) : b.Grows (b.meet id part) where
  size := Array.size_setIfInBounds
  kept other held isHeld := by
    rw [getElem?_meet, if_neg, isHeld]
    intro same
    rw [← same.1, new] at isHeld
    cases isHeld
  fillings := rfl
  waiting other member := by
    cases part with
    | value v => exact member
    | collection id => exact List.mem_cons_of_mem _ member
  fresh other met := by
    rw [getElem?_meet] at met
    split at met
    · cases met
      exact Or.inr List.mem_cons_self
    · exact Or.inl met
  spent := by
    cases part with
    | value v =>
        by_cases inside : id < b.parts.size
        · have fewer : (b.meet id (.value v)).unmet + 1 = b.unmet := unmet_meet inside new
          change b.waiting.length + _ ≤ _
          omega
        · have same : (b.meet id (.value v)).parts = b.parts := 
            Array.setIfInBounds_eq_of_size_le (Nat.le_of_not_lt inside)
          refine Nat.le_of_eq ?_
          unfold unmet
          rw [same]
          rfl
    | collection other =>
        have fewer : (b.meet id (.collection other)).unmet + 1 = b.unmet := unmet_meet (own other rfl).2 new
        change (other :: b.waiting).length + _ ≤ _
        rw [List.length_cons]
        omega

theorem holds_meet {id : NodeId} {part : Part} (plain : ∀ v, part = .value v → v.IsPlain)
    (own : ∀ other, part = .collection other → other = id ∧ id < b.parts.size) :
    (b.meet id part).Holds part := by
  cases part with
  | value v => exact plain v rfl
  | collection other =>
      rcases own other rfl with ⟨rfl, inside⟩
      change (b.meet other (.collection other)).parts[other]?.join = _
      rw [getElem?_meet, if_pos ⟨rfl, inside⟩]

theorem Sound.meet (sound : b.Sound) {id : NodeId} {part : Part} (new : b.parts[id]?.join = none)
    (plain : ∀ v, part = .value v → v.IsPlain)
    (own : ∀ other, part = .collection other → other = id ∧ id < b.parts.size) : (b.meet id part).Sound where
  sized := by
    change (b.parts.setIfInBounds id (some part)).size = b.nodes.size
    rw [Array.size_setIfInBounds, sound.sized]
  holds other held isHeld := by
    rw [getElem?_meet] at isHeld
    split at isHeld
    · cases isHeld
      exact holds_meet plain own
    · exact (grows_meet new own).holds (sound.holds other held isHeld)

end Building

theorem plain_scalarValue {node : Node} {text : String} {ragged : Bool} {v : Value}
    (read : scalarValue node text ragged = .ok v) : v.IsPlain := by
  have plain {γ : Type} {found : Except Fault γ} {f : γ → Value} (mapped : found.map f = .ok v)
      (isPlain : ∀ x, (f x).IsPlain) : v.IsPlain := by
    cases found with
    | error fault => cases mapped
    | ok x =>
        cases mapped
        exact isPlain x
  unfold scalarValue at read
  split at read
  · cases read
    trivial
  · exact plain read fun _ => trivial
  · exact plain read fun _ => trivial
  · exact plain read fun _ => trivial
  · exact plain read fun _ => trivial
  · split at read
    · exact plain read fun _ => trivial
    · cases read
  · cases read
    split <;> trivial
  · cases read

/-- A node that was not met is met as a collection or for its plain value. -/
theorem partOf_unmet {id : NodeId} {b after : Building} {part : Part} (new : b.parts[id]?.join = none)
    (ran : partOf id b = .ok (part, after)) :
    ((b.nodes.getD id default).meaning.isCollection = true ∧ part = .collection id ∧
        after = b.meet id (.collection id)) ∨
      ∃ v next, v.IsPlain ∧ b.Alike next ∧ part = .value v ∧ after = next.meet id (.value v) := by
  unfold partOf at ran
  simp only [bind_eq_ok_iff, get_eq_ok_iff] at ran
  obtain ⟨_, _, ⟨rfl, rfl⟩, ran⟩ := ran
  simp only [new, nodeAt, bind_eq_ok_iff, get_eq_ok_iff, pure_eq_ok_iff] at ran
  obtain ⟨_, _, ⟨_, _, ⟨rfl, rfl⟩, rfl, rfl⟩, ran⟩ := ran
  split at ran
  · rename_i isCollection
    simp only [bind_eq_ok_iff, modify_eq_ok_iff, pure_eq_ok_iff] at ran
    obtain ⟨_, _, rfl, _, _, ⟨rfl, rfl⟩, _, _, rfl, rfl, rfl⟩ := ran
    exact Or.inl ⟨isCollection, rfl, rfl⟩
  · split at ran
    · simp only [bind_eq_ok_iff, malformed_eq_ok_iff, false_and, exists_false] at ran
    · simp only [bind_eq_ok_iff, get_eq_ok_iff, modify_eq_ok_iff, pure_eq_ok_iff, map_lift_eq_ok_iff] at ran
      obtain ⟨_, _, ⟨rfl, rfl⟩, ⟨text, ragged⟩, next, ranText, _, _, ⟨v, isValue, rfl, rfl⟩, _, _, rfl, rfl,
        rfl⟩ := ran
      exact Or.inr ⟨v, _, plain_scalarValue isValue, still_scalarText _ _ _ _ _ ranText, rfl, rfl⟩

theorem leads_partOf (id : NodeId) : Leads (fun _ => True) (partOf id) fun part after => after.Holds part := by
  intro b part after sound _ ran
  cases isMet : b.parts[id]?.join with
  | some held =>
      unfold partOf at ran
      simp only [bind_eq_ok_iff, get_eq_ok_iff] at ran
      obtain ⟨_, _, ⟨rfl, rfl⟩, ran⟩ := ran
      simp only [isMet, pure_eq_ok_iff] at ran
      obtain ⟨rfl, rfl⟩ := ran
      exact ⟨sound, .refl _, sound.holds _ _ isMet⟩
  | none =>
      rcases partOf_unmet isMet ran with ⟨isCollection, rfl, rfl⟩ | ⟨v, next, isPlain, alike, rfl, rfl⟩
      · have inside : id < b.parts.size := by
          by_contra outside
          rw [sound.sized] at outside
          rw [Array.getD_eq_getD_getElem?, Array.getElem?_eq_none (Nat.le_of_not_lt outside)] at isCollection
          cases isCollection
        have own : ∀ other, Part.collection id = .collection other → other = id ∧ id < b.parts.size := by
          intro other same
          cases same
          exact ⟨rfl, inside⟩
        have plain : ∀ v, Part.collection id = .value v → v.IsPlain := fun _ impossible => by cases impossible
        exact ⟨sound.meet isMet plain own, Building.grows_meet isMet own, Building.holds_meet plain own⟩
      · have own : ∀ other, Part.value v = .collection other → other = id ∧ id < next.parts.size :=
          fun _ impossible => by cases impossible
        have plain : ∀ w, Part.value v = .value w → w.IsPlain := by
          intro w same
          cases same
          exact isPlain
        have new : next.parts[id]?.join = none := by rw [alike.parts, isMet]
        exact ⟨(alike.sound sound).meet new plain own, alike.grows.trans (Building.grows_meet new own),
          Building.holds_meet plain own⟩

/-! ### Mappings and fillings -/

theorem putPart_eq_place (entries : List (Value × Part)) (key : Value) (part : Part) :
    putPart entries key part = Value.place entries key part := by
  induction entries with
  | nil => rfl
  | cons e rest ih => rw [putPart, Value.place, ih]

structure Building.HoldsAll (b : Building) (entries : List (Value × Part)) : Prop where
  distinct : Value.Distinct entries
  holds : ∀ entry ∈ entries, b.Holds entry.2

theorem Building.Grows.holdsAll {b after : Building} (grows : b.Grows after) {entries : List (Value × Part)}
    (held : b.HoldsAll entries) : after.HoldsAll entries :=
  ⟨held.distinct, fun entry member => grows.holds (held.holds entry member)⟩

theorem partOf_holdsAll {id : NodeId} {b after : Building} {part : Part} {entries : List (Value × Part)}
    (sound : b.Sound) (held : b.HoldsAll entries) (ran : partOf id b = .ok (part, after)) :
    after.Sound ∧ b.Grows after ∧ after.HoldsAll entries ∧ after.Holds part := by
  obtain ⟨soundAfter, grows, holds⟩ := leads_partOf id b part after sound trivial ran
  exact ⟨soundAfter, grows, grows.holdsAll held, holds⟩

theorem leads_keyOf {entries : List (Value × Part)} (id : NodeId) :
    Leads (fun b => b.HoldsAll entries) (keyOf id) fun _ after => after.HoldsAll entries := by
  intro b key after sound held ran
  unfold keyOf at ran
  obtain ⟨part, between, ranPart, ran⟩ := bind_eq_ok_iff.mp ran
  obtain ⟨soundAfter, grows, heldAfter, _⟩ := partOf_holdsAll sound held ranPart
  cases part with
  | value v =>
      obtain ⟨_, rfl⟩ := pure_eq_ok_iff.mp ran
      exact ⟨soundAfter, grows, heldAfter⟩
  | collection id => exact (malformed_eq_ok_iff.mp ran).elim

theorem leads_putEntries (nodes : List (NodeId × NodeId)) (entries : List (Value × Part)) :
    Leads (fun b => b.HoldsAll entries)
      (nodes.foldlM (fun entries (key, value) => do
        let k ← keyOf key
        let part ← partOf value
        return putPart entries k part) entries)
      fun entries after => after.HoldsAll entries := by
  induction nodes generalizing entries with
  | nil => exact .pure fun _ _ held => held
  | cons node rest ih =>
      rw [List.foldlM_cons]
      refine .bind ?_ fun next => ih next
      refine .bind (leads_keyOf node.1) fun key => ?_
      intro b answer after sound held ran
      obtain ⟨part, between, ranPart, ran⟩ := bind_eq_ok_iff.mp ran
      obtain ⟨soundAfter, grows, heldAfter, holds⟩ := partOf_holdsAll sound held ranPart
      obtain ⟨rfl, rfl⟩ := pure_eq_ok_iff.mp ran
      refine ⟨soundAfter, grows, ?_, fun entry member => ?_⟩
      · rw [putPart_eq_place]
        exact heldAfter.distinct.place key part
      · rw [putPart_eq_place] at member
        rcases Value.mem_place member with isNew | ⟨old, isOld, same⟩
        · rw [isNew]
          exact holds
        · rw [← same]
          exact heldAfter.holds old isOld

theorem leads_entriesOf (id : NodeId) :
    Leads (fun _ => True) (entriesOf id) fun entries after => after.HoldsAll entries := by
  have lasts (b after : Building) (_ : b.Grows after) (_ : True) : True := trivial
  have putAll : Leads (fun _ => True) (do
      (← entriesAt id).foldlM
        (fun entries (key, value) => do
          let k ← keyOf key
          let part ← partOf value
          return putPart entries k part)
        []) fun entries after => after.HoldsAll entries := by
    refine .bind ((still_entriesAt id).leads lasts) fun nodes => ?_
    intro b answer after sound _ ran
    exact leads_putEntries nodes [] b answer after sound ⟨List.Pairwise.nil, List.forall_mem_nil _⟩ ran
  unfold entriesOf
  refine .bind ((still_entriesAt id).leads lasts) fun own => .bind (Still.get.leads lasts) fun _ => ?_
  dsimp only
  split
  · exact .bind (((still_flatten _).1 id 0 []).leads lasts) fun _ => putAll
  · exact putAll

def Building.Fits (b : Building) : Filling → Prop
  | .dict entries => b.HoldsAll entries
  | _ => True

theorem Building.Grows.fits {b after : Building} (grows : b.Grows after) {filling : Filling}
    (fits : b.Fits filling) : after.Fits filling := by
  cases filling with
  | dict entries => exact grows.holdsAll fits
  | _ => trivial

theorem Building.fits_of_parts {b after : Building} (same : after.parts = b.parts) {filling : Filling}
    (fits : b.Fits filling) : after.Fits filling := by
  have holds (part : Part) (held : b.Holds part) : after.Holds part := by
    cases part with
    | value v => exact held
    | collection id =>
        unfold Holds
        rw [same]
        exact held
  cases filling with
  | dict entries => exact ⟨fits.distinct, fun entry member => holds _ (fits.holds entry member)⟩
  | _ => trivial

theorem leads_mapM {step : α → Builds β} (each : ∀ item, Leads (fun _ => True) (step item) fun _ _ => True)
    (items : List α) : Leads (fun _ => True) (items.mapM step) fun _ _ => True := by
  induction items with
  | nil => exact .pure fun _ _ _ => trivial
  | cons item rest ih =>
      rw [List.mapM_cons]
      exact .bind (each item) fun _ => .bind ih fun _ => .pure fun _ _ _ => trivial

theorem Leads.weaken {step : Builds α} {behind : α → Building → Prop} (leads : Leads before step behind) :
    Leads before step fun _ _ => True := by
  intro b answer after sound isBefore ran
  obtain ⟨soundAfter, grows, _⟩ := leads b answer after sound isBefore ran
  exact ⟨soundAfter, grows, trivial⟩

theorem leads_pairOf (id : NodeId) : Leads (fun _ => True) (pairOf id) fun _ _ => True := by
  have lasts (b after : Building) (_ : b.Grows after) (_ : True) : True := trivial
  refine .bind ((still_entriesAt id).leads lasts) fun entries => ?_
  split
  · rename_i key value
    refine .bind (leads_partOf key).weaken fun _ => .bind (leads_partOf value).weaken fun _ => ?_
    exact .pure fun _ _ _ => trivial
  · exact .throw _

theorem leads_fillingOf (id : NodeId) :
    Leads (fun _ => True) (fillingOf id) fun filling after => after.Fits filling := by
  have lasts (b after : Building) (_ : b.Grows after) (_ : True) : True := trivial
  refine .bind ((still_nodeAt id).leads lasts) fun node => ?_
  split
  · refine .bind ((still_itemsAt id).leads lasts) fun items => ?_
    refine .bind (leads_mapM (fun item => (leads_partOf item).weaken) items) fun _ => ?_
    exact .pure fun _ _ _ => trivial
  · refine .bind ((still_itemsAt id).leads lasts) fun items => ?_
    exact .bind (leads_mapM leads_pairOf items) fun _ => .pure fun _ _ _ => trivial
  · exact .bind (leads_entriesOf id).weaken fun _ => .pure fun _ _ _ => trivial
  · exact .bind (leads_entriesOf id) fun _ => .pure fun _ _ held => held

/-! ### All collections are filled -/

/-- Every collection that was met is filled, or waits, or is about to be filled. -/
structure Building.Orderly (b : Building) (ids : List NodeId) : Prop where
  sound : b.Sound
  fits : ∀ filled ∈ b.fillings, b.Fits filled.2
  reached : ∀ id : NodeId, b.parts[id]?.join = some (.collection id) →
    id ∈ ids ∨ id ∈ b.waiting ∨ id ∈ b.fillings.map Prod.fst

theorem Building.Orderly.fill {b next filled : Building} {id : NodeId} {rest : List NodeId}
    {filling : Filling} (orderly : b.Orderly (id :: rest)) (sound : next.Sound) (grows : b.Grows next)
    (fits : next.Fits filling)
    (isFilled : filled = { next with fillings := (id, filling) :: next.fillings }) : filled.Orderly rest := by
  have parts : filled.parts = next.parts := by rw [isFilled]
  have fillings : filled.fillings = (id, filling) :: b.fillings := by rw [isFilled, grows.fillings]
  have waiting : filled.waiting = next.waiting := by rw [isFilled]
  refine ⟨?_, fun entry member => ?_, fun other met => ?_⟩
  · rw [isFilled]
    exact ⟨sound.sized, sound.holds⟩
  · rw [fillings, List.mem_cons] at member
    rcases member with rfl | isOld
    · exact fits_of_parts parts fits
    · exact fits_of_parts parts (grows.fits (orderly.fits entry isOld))
  · rw [parts] at met
    rw [fillings, waiting, List.map_cons, List.mem_cons]
    rcases grows.fresh other met with before | waits
    · rcases orderly.reached other before with inTurn | waits | filled
      · rcases List.mem_cons.mp inTurn with same | isLater
        · exact Or.inr (Or.inr (Or.inl same))
        · exact Or.inl isLater
      · exact Or.inr (Or.inl (grows.waiting other waits))
      · exact Or.inr (Or.inr (Or.inr filled))
    · exact Or.inr (Or.inl waits)

theorem Building.Orderly.turn {b turned : Building} (orderly : b.Orderly [])
    (isTurned : turned = { b with waiting := [] }) : turned.Orderly b.waiting.reverse := by
  have parts : turned.parts = b.parts := by rw [isTurned]
  have fillings : turned.fillings = b.fillings := by rw [isTurned]
  refine ⟨?_, fun entry member => ?_, fun id met => ?_⟩
  · rw [isTurned]
    exact ⟨orderly.sound.sized, orderly.sound.holds⟩
  · rw [fillings] at member
    exact fits_of_parts parts (orderly.fits entry member)
  · rw [parts] at met
    rw [fillings]
    rcases orderly.reached id met with impossible | waits | filled
    · cases impossible
    · exact Or.inl (List.mem_reverse.mpr waits)
    · exact Or.inr (Or.inr filled)

theorem fillAll_orderly {fuel : Nat} {ids : List NodeId} {b after : Building} (orderly : b.Orderly ids)
    (enough : ids.length + 2 * (b.waiting.length + b.unmet) < fuel)
    (ran : fillAll fuel ids b = .ok ((), after)) :
    after.Orderly [] ∧ after.waiting = [] ∧ b.Keeps after := by
  -- Each step uses up a collection in turn, one that waits, or a node that was not met, so the fuel lasts until
  -- no collection waits.
  induction fuel generalizing ids b with
  | zero => exact absurd enough (Nat.not_lt_zero _)
  | succ fuel ih =>
      cases ids with
      | cons id rest =>
          rw [fillAll] at ran
          obtain ⟨filling, next, ranFilling, ran⟩ := bind_eq_ok_iff.mp ran
          obtain ⟨_, _, isModified, ran⟩ := bind_eq_ok_iff.mp ran
          obtain rfl := modify_eq_ok_iff.mp isModified
          obtain ⟨sound, grows, fits⟩ := leads_fillingOf id b filling next orderly.sound trivial ranFilling
          have spent := grows.spent
          rw [List.length_cons] at enough
          have lasts : rest.length + 2 * (next.waiting.length + next.unmet) < fuel := by omega
          obtain ⟨isOrderly, noneWaits, keeps⟩ := ih (orderly.fill sound grows fits rfl) lasts ran
          exact ⟨isOrderly, noneWaits, grows.toKeeps.trans ⟨keeps.size, keeps.kept⟩⟩
      | nil =>
          rw [fillAll] at ran
          obtain ⟨_, _, isGet, rest⟩ := bind_eq_ok_iff.mp ran
          obtain ⟨rfl, rfl⟩ := get_eq_ok_iff.mp isGet
          rename_i b
          cases inTurn : b.waiting.reverse with
          | nil =>
              simp only [inTurn, pure_eq_ok_iff] at rest
              obtain ⟨_, rfl⟩ := rest
              exact ⟨orderly, List.reverse_eq_nil_iff.mp inTurn, ⟨rfl, fun _ _ held => held⟩⟩
          | cons first others =>
              simp only [inTurn, bind_eq_ok_iff, modify_eq_ok_iff] at rest
              obtain ⟨_, _, rfl, rest⟩ := rest
              have turned := orderly.turn rfl
              rw [inTurn] at turned
              have length : (first :: others).length = b.waiting.length := by
                rw [← inTurn, List.length_reverse]
              have fewer : (first :: others).length + 2 * (0 + b.unmet) < fuel := by
                rw [List.length_nil] at enough
                rw [List.length_cons] at length ⊢
                omega
              obtain ⟨isOrderly, noneWaits, keeps⟩ := ih turned fewer rest
              exact ⟨isOrderly, noneWaits, ⟨keeps.size, keeps.kept⟩⟩

/-! ### Documents -/

namespace Document

def Filled (d : Document) (id : NodeId) : Prop :=
  (d.fillings[id]?.join).isSome = true

def Holds (d : Document) : Part → Prop
  | .value v => v.IsPlain
  | .collection id => d.Filled id

/-- Nothing is missing from a document, and its mappings have each key once. -/
structure Whole (d : Document) : Prop where
  root : d.Holds d.root
  distinct : ∀ (id : NodeId) (entries : List (Value × Part)),
    d.fillings[id]?.join = some (.dict entries) → Value.Distinct entries
  holds : ∀ (id : NodeId) (entries : List (Value × Part)),
    d.fillings[id]?.join = some (.dict entries) → ∀ entry ∈ entries, d.Holds entry.2

end Document

theorem fillings_foldl (fills : List (NodeId × Filling)) (all : Array (Option Filling)) :
    let found := fills.foldl (fun all f => all.setIfInBounds f.1 (some f.2)) all
    found.size = all.size ∧
      (∀ (id : NodeId) (filling : Filling), found[id]?.join = some filling →
        (id, filling) ∈ fills ∨ all[id]?.join = some filling) ∧
      ∀ id : NodeId, id < all.size → id ∈ fills.map Prod.fst ∨ (all[id]?.join).isSome = true →
        (found[id]?.join).isSome = true := by
  induction fills generalizing all with
  | nil =>
      refine ⟨rfl, fun _ _ found => Or.inr found, fun id _ either => ?_⟩
      exact either.resolve_left List.not_mem_nil
  | cons fill rest ih =>
      obtain ⟨size, found, filled⟩ := ih (all.setIfInBounds fill.1 (some fill.2))
      rw [Array.size_setIfInBounds] at size filled
      have set (id : NodeId) := join_setIfInBounds all fill.1 id (some fill.2)
      refine ⟨size, fun id filling isFound => ?_, fun id inside either => filled id inside ?_⟩
      · rcases found id filling isFound with isLater | isSet
        · exact Or.inl (List.mem_cons_of_mem _ isLater)
        · rw [set] at isSet
          split at isSet
          · rename_i same
            cases isSet
            rw [← same.1]
            exact Or.inl List.mem_cons_self
          · exact Or.inr isSet
      · by_cases same : fill.1 = id
        · right
          rw [set, if_pos ⟨same, by rw [same]; exact inside⟩]
          rfl
        · rw [set, if_neg fun both => same both.1]
          rcases either with listed | before
          · rw [List.map_cons, List.mem_cons] at listed
            exact Or.inl (listed.resolve_left fun isFirst => same isFirst.symm)
          · exact Or.inr before

def Building.start (g : Graph) : Building :=
  ⟨g.nodes, Array.replicate g.nodes.size none, [], []⟩

theorem Building.none_met_start (g : Graph) (id : NodeId) : (start g).parts[id]?.join = none := by
  unfold start
  rw [Array.getElem?_replicate]
  split <;> rfl

theorem Building.sound_start (g : Graph) : (start g).Sound := by
  refine ⟨Array.size_replicate, fun id part held => ?_⟩
  rw [none_met_start] at held
  cases held

theorem Building.unmet_start (g : Graph) : (start g).unmet = g.nodes.size := by
  unfold unmet start
  rw [Array.toList_replicate, List.countP_replicate]
  exact if_pos rfl

theorem built_of_document {g : Graph} {d : Document} {root : NodeId} (isRoot : g.root = some root)
    (made : document g = .ok d) :
    ∃ part met after, partOf root (.start g) = .ok (part, met) ∧
      fillAll (2 * g.nodes.size + 2) [] met = .ok ((), after) ∧
      d = ⟨part, after.fillings.foldl (fun all f => all.setIfInBounds f.1 (some f.2))
        (Array.replicate g.nodes.size none)⟩ := by
  unfold document at made
  simp only [isRoot, Fallible.bind_eq_ok_iff] at made
  obtain ⟨⟨part, after⟩, ran, made⟩ := made
  obtain ⟨met, between, ranRoot, rest⟩ := bind_eq_ok_iff.mp ran
  obtain ⟨_, _, ranFill, ended⟩ := bind_eq_ok_iff.mp rest
  obtain ⟨rfl, rfl⟩ := pure_eq_ok_iff.mp ended
  exact ⟨_, _, _, ranRoot, ranFill, (Except.ok.inj made).symm⟩

theorem whole_of_orderly {b : Building} (orderly : b.Orderly []) (noneWaits : b.waiting = []) {root : Part}
    (holds : b.Holds root) :
    Document.Whole ⟨root, b.fillings.foldl (fun all f => all.setIfInBounds f.1 (some f.2))
      (Array.replicate b.parts.size none)⟩ := by
  obtain ⟨_, found, filled⟩ := fillings_foldl b.fillings (Array.replicate b.parts.size none)
  rw [Array.size_replicate] at filled
  generalize b.fillings.foldl (fun all f => all.setIfInBounds f.1 (some f.2))
    (Array.replicate b.parts.size none) = fillings at found filled ⊢
  have holdsIn {part : Part} (held : b.Holds part) : Document.Holds ⟨root, fillings⟩ part := by
    cases part with
    | value v => exact held
    | collection id =>
        have inside : id < b.parts.size := by
          by_contra outside
          change b.parts[id]?.join = _ at held
          rw [Array.getElem?_eq_none (Nat.le_of_not_lt outside)] at held
          cases held
        rcases orderly.reached id held with impossible | waits | isFilled
        · cases impossible
        · rw [noneWaits] at waits
          cases waits
        · exact filled id inside (Or.inl isFilled)
  have fits {id : NodeId} {entries : List (Value × Part)} (isFilling : fillings[id]?.join = some (.dict entries)) :
      b.HoldsAll entries := by
    rcases found id _ isFilling with member | impossible
    · exact orderly.fits _ member
    · rw [Array.getElem?_replicate] at impossible
      split at impossible <;> cases impossible
  exact ⟨holdsIn holds, fun _ _ isFilling => (fits isFilling).distinct,
    fun _ _ isFilling entry member => holdsIn ((fits isFilling).holds entry member)⟩

theorem whole_document {g : Graph} {d : Document} (made : document g = .ok d) : d.Whole := by
  cases isRoot : g.root with
  | none =>
      unfold document at made
      rw [isRoot] at made
      cases made
      exact ⟨trivial, fun _ _ impossible => (by cases impossible), fun _ _ impossible => (by cases impossible)⟩
  | some root =>
      obtain ⟨part, met, after, ranRoot, ranFill, rfl⟩ := built_of_document isRoot made
      obtain ⟨sound, grows, holds⟩ := leads_partOf root _ _ _ (Building.sound_start g) trivial ranRoot
      have orderly : met.Orderly [] := by
        refine ⟨sound, fun filled member => ?_, fun id isMet => ?_⟩
        · rw [grows.fillings] at member
          cases member
        · rcases grows.fresh id isMet with before | waits
          · rw [Building.none_met_start] at before
            cases before
          · exact Or.inr (Or.inl waits)
      have enough : ([] : List NodeId).length + 2 * (met.waiting.length + met.unmet) < 2 * g.nodes.size + 2 := by
        have spent := grows.spent
        rw [Building.unmet_start] at spent
        change _ ≤ 0 + _ at spent
        rw [List.length_nil]
        omega
      obtain ⟨final, noneWaits, keeps⟩ := fillAll_orderly orderly enough ranFill
      have size : after.parts.size = g.nodes.size :=
        (keeps.size.trans grows.size).trans Array.size_replicate
      rw [← size]
      exact whole_of_orderly final noneWaits (keeps.holds holds)

end Yaml

end ReorgGuard
