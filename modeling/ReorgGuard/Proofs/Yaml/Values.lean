import ReorgGuard.Proofs.Value.Merging
import ReorgGuard.Proofs.Yaml.Building

/-!
What the value of a document says about its outermost mapping.

The value of a collection is made from its filling: where the filling has a plain value at a key, the value
has it too, and where it has a collection, so has the value.  This survives all rounds in which values
are found, also those in which a collection inside itself is followed down, since these begin with
hollow collections and each round makes the outermost one anew.

So a mapping read from a document has each key once, and how the value at a name is written in it agrees
with what stands there.  How deep a collection inside itself is followed is left open.
-/

namespace ReorgGuard.Yaml

/-! ### Values of collections -/

def Part.Stands : Part → Value → Prop
  | .value v, shown => shown = v
  | .collection _, shown => ¬shown.IsPlain

def Stands (entries : List (Value × Part)) (found : List (Value × Value)) : Prop :=
  List.Forall₂ (fun entry shown => shown.1 = entry.1 ∧ entry.2.Stands shown.2) entries found

/-- A value of a collection, which may still be hollow. -/
structure Document.Fits (d : Document) (hollow : Prop) (id : NodeId) (value : Value) : Prop where
  notPlain : ¬value.IsPlain
  tidy : value.Tidy
  dict : ∀ found, value = .dict found → ∃ entries, d.fillings[id]?.join = some (.dict entries) ∧
    (hollow ∧ found = [] ∨ Yaml.Stands entries found)

def Document.Knows (d : Document) (hollow : Prop) (known : Known) : Prop :=
  ∀ (id : NodeId) (value : Value), known[id]?.join = some value → d.Fits hollow id value

variable {d : Document} {hollow : Prop} {known : Known}

theorem tidy_of_isPlain {value : Value} (plain : value.IsPlain) : value.Tidy := by
  refine Value.tidy_of_plain fun entries isDict => ?_
  rw [isDict] at plain
  exact plain

theorem Document.Knows.part (knows : d.Knows hollow known) {part : Part} {value : Value}
    (holds : d.Holds part) (found : part.value? known = some value) : part.Stands value ∧ value.Tidy := by
  cases part with
  | value v =>
      cases found
      exact ⟨rfl, tidy_of_isPlain holds⟩
  | collection id =>
      have fits := knows id value found
      exact ⟨fits.notPlain, fits.tidy⟩

theorem Document.Knows.entries (knows : d.Knows hollow known) {entries : List (Value × Part)}
    {found : List (Value × Value)} (holds : ∀ entry ∈ entries, d.Holds entry.2)
    (isFound : entries.mapM (fun e => (e.2.value? known).map fun v => (e.1, v)) = some found) :
    Stands entries found ∧ ∀ e ∈ found, e.2.Tidy := by
  induction entries generalizing found with
  | nil =>
      cases isFound
      exact ⟨.nil, List.forall_mem_nil _⟩
  | cons entry rest ih =>
      rw [List.forall_mem_cons] at holds
      simp only [List.mapM_cons, Option.bind_eq_bind, Option.bind_eq_some_iff, Option.map_eq_some_iff] at isFound
      obtain ⟨_, ⟨value, isValue, rfl⟩, others, isRest, same⟩ := isFound
      cases same
      obtain ⟨stands, tidy⟩ := knows.part holds.1 isValue
      obtain ⟨standsRest, tidyRest⟩ := ih holds.2 isRest
      exact ⟨.cons ⟨rfl, stands⟩ standsRest, List.forall_mem_cons.mpr ⟨tidy, tidyRest⟩⟩

theorem Stands.keys {entries : List (Value × Part)} {found : List (Value × Value)}
    (stands : Stands entries found) : found.map Prod.fst = entries.map Prod.fst := by
  induction stands with
  | nil => rfl
  | cons first _ ih => rw [List.map_cons, List.map_cons, first.1, ih]

theorem Document.Knows.filling (whole : d.Whole) (knows : d.Knows hollow known) {id : NodeId} {value : Value}
    (isValue : d.fillings[id]?.join.bind (·.value? known) = some value) : d.Fits False id value := by
  obtain ⟨filling, isFilling, found⟩ := Option.bind_eq_some_iff.mp isValue
  cases filling with
  | list items =>
      obtain ⟨_, _, rfl⟩ := Option.map_eq_some_iff.mp found
      exact ⟨fun plain => plain, trivial, fun _ impossible => (by cases impossible)⟩
  | pairs items =>
      obtain ⟨_, _, rfl⟩ := Option.map_eq_some_iff.mp found
      exact ⟨fun plain => plain, trivial, fun _ impossible => (by cases impossible)⟩
  | set items =>
      cases found
      exact ⟨fun plain => plain, trivial, fun _ impossible => (by cases impossible)⟩
  | dict entries =>
      obtain ⟨entriesFound, isFound, rfl⟩ := Option.map_eq_some_iff.mp found
      obtain ⟨stands, tidy⟩ := knows.entries (whole.holds _ _ isFilling) isFound
      refine ⟨fun plain => plain, ?_, fun other same => ?_⟩
      · rw [Value.tidy_dict_iff]
        refine ⟨?_, tidy⟩
        rw [Value.distinct_iff_keys, stands.keys, ← Value.distinct_iff_keys]
        exact whole.distinct _ _ isFilling
      · cases same
        exact ⟨entries, isFilling, Or.inr stands⟩

theorem Document.Fits.weaken {id : NodeId} {value : Value} (fits : d.Fits False id value) (hollow : Prop) :
    d.Fits hollow id value := by
  refine ⟨fits.notPlain, fits.tidy, fun found isDict => ?_⟩
  obtain ⟨entries, isFilling, either⟩ := fits.dict found isDict
  exact ⟨entries, isFilling, Or.inr (either.resolve_left fun impossible => impossible.1)⟩

/-! ### Rounds -/

namespace Document

def visit (d : Document) (settled : NodeId → Bool) (known : Known) (id : NodeId) : Known :=
  if settled id then known
  else
    match d.fillings[id]?.join.bind (·.value? known) with
    | some v => known.setIfInBounds id (some v)
    | none => known

theorem round_eq_visits (settled : NodeId → Bool) (known : Known) :
    d.round settled known = (List.range d.fillings.size).reverse.foldl (d.visit settled) known := rfl

theorem size_visit (settled : NodeId → Bool) (known : Known) (id : NodeId) :
    (d.visit settled known id).size = known.size := by
  unfold visit
  split
  · rfl
  · split
    · exact Array.size_setIfInBounds
    · rfl

theorem size_visits (settled : NodeId → Bool) (ids : List NodeId) (known : Known) :
    (ids.foldl (d.visit settled) known).size = known.size := by
  induction ids generalizing known with
  | nil => rfl
  | cons id rest ih => rw [List.foldl_cons, ih, size_visit]

theorem Knows.set (knows : d.Knows hollow known) {id : NodeId} {value : Option Value}
    (fits : ∀ v, value = some v → d.Fits hollow id v) : d.Knows hollow (known.setIfInBounds id value) := by
  intro other v found
  rw [join_setIfInBounds] at found
  split at found
  · rename_i same
    rw [← same.1]
    exact fits v found
  · exact knows other v found

theorem Knows.visit (whole : d.Whole) (knows : d.Knows hollow known) (settled : NodeId → Bool) (id : NodeId) :
    d.Knows hollow (d.visit settled known id) := by
  unfold Document.visit
  split
  · exact knows
  · split
    · rename_i v isValue
      refine knows.set fun other same => ?_
      cases same
      exact (knows.filling whole isValue).weaken hollow
    · exact knows

theorem Knows.round (whole : d.Whole) (knows : d.Knows hollow known) (settled : NodeId → Bool) :
    d.Knows hollow (d.round settled known) := by
  rw [round_eq_visits]
  generalize (List.range d.fillings.size).reverse = ids
  induction ids generalizing known with
  | nil => exact knows
  | cons id rest ih => exact ih (knows.visit whole settled id)

theorem Knows.settle (whole : d.Whole) (knows : d.Knows hollow known) (fuel : Nat) :
    d.Knows hollow (d.settle fuel known) := by
  induction fuel generalizing known with
  | zero => exact knows
  | succ fuel ih =>
      rw [Document.settle]
      split
      · exact knows
      · exact ih (knows.round whole _)

theorem size_settle (fuel : Nat) (known : Known) : (d.settle fuel known).size = known.size := by
  induction fuel generalizing known with
  | zero => rfl
  | succ fuel ih =>
      rw [Document.settle]
      split
      · rfl
      · rw [ih, round_eq_visits, size_visits]

theorem Filled.lt_size {id : NodeId} (isFilled : d.Filled id) : id < d.fillings.size := by
  by_contra beyond
  unfold Filled at isFilled
  rw [Array.getElem?_eq_none (Nat.le_of_not_lt beyond)] at isFilled
  cases isFilled

/-! ### Collections inside themselves -/

/-- Something is known of every collection, and what is known fits. -/
structure Covers (d : Document) (known : Known) : Prop where
  size : known.size = d.fillings.size
  knows : d.Knows True known
  complete : ∀ id, d.Filled id → (known[id]?.join).isSome = true

def Solid (d : Document) (known : Known) (id : NodeId) : Prop :=
  ∀ value, known[id]?.join = some value → d.Fits False id value

theorem Covers.value? (covers : d.Covers known) {part : Part} (holds : d.Holds part) :
    (part.value? known).isSome = true := by
  cases part with
  | value v => rfl
  | collection id => exact covers.complete id holds

theorem Covers.entries (covers : d.Covers known) {entries : List (Value × Part)}
    (holds : ∀ entry ∈ entries, d.Holds entry.2) :
    (entries.mapM fun (e : Value × Part) => (e.2.value? known).map fun v => (e.1, v)).isSome = true := by
  induction entries with
  | nil => rfl
  | cons entry rest ih =>
      rw [List.forall_mem_cons] at holds
      obtain ⟨value, isValue⟩ := Option.isSome_iff_exists.mp (covers.value? holds.1)
      obtain ⟨others, isRest⟩ := Option.isSome_iff_exists.mp (ih holds.2)
      rw [List.mapM_cons, isValue, isRest]
      rfl

theorem Covers.visit (whole : d.Whole) (covers : d.Covers known) (settled : NodeId → Bool) (id : NodeId) :
    d.Covers (d.visit settled known id) where
  size := (size_visit settled known id).trans covers.size
  knows := covers.knows.visit whole settled id
  complete other isFilled := by
    unfold Document.visit
    split
    · exact covers.complete other isFilled
    · split
      · rw [join_setIfInBounds]
        split
        · rfl
        · exact covers.complete other isFilled
      · exact covers.complete other isFilled

theorem Covers.solid_visit (whole : d.Whole) (covers : d.Covers known) {settled : NodeId → Bool}
    {root id : NodeId} (unsettled : settled root = false) (either : id = root ∨ d.Solid known root) :
    d.Solid (d.visit settled known id) root := by
  intro value found
  by_cases same : id = root
  · subst same
    rw [Document.visit, unsettled, if_neg Bool.false_ne_true] at found
    split at found
    · rename_i v isValue
      have fits := covers.knows.filling whole isValue
      rw [join_setIfInBounds] at found
      split at found
      · cases found
        exact fits
      · rename_i outside
        rw [covers.size] at outside
        obtain ⟨filling, isFilling, _⟩ := Option.bind_eq_some_iff.mp isValue
        have beyond : d.fillings.size ≤ id := Nat.le_of_not_lt fun inside => outside ⟨rfl, inside⟩
        rw [Array.getElem?_eq_none beyond] at isFilling
        cases isFilling
    · -- Only what is no mapping can have no value here, and then its hollow value is no mapping either.
      rename_i noValue
      have weak := covers.knows id value found
      refine ⟨weak.notPlain, weak.tidy, fun shown isDict => ?_⟩
      obtain ⟨entries, isFilling, _⟩ := weak.dict shown isDict
      obtain ⟨others, isFound⟩ := Option.isSome_iff_exists.mp (covers.entries (whole.holds _ _ isFilling))
      rw [isFilling, Option.bind_some, Filling.value?, isFound] at noValue
      cases noValue
  · have solid := either.resolve_left same
    unfold Document.visit at found
    split at found
    · exact solid value found
    · split at found
      · rw [join_setIfInBounds, if_neg fun both => same both.1] at found
        exact solid value found
      · exact solid value found

theorem Covers.visits (whole : d.Whole) {settled : NodeId → Bool} {root : NodeId}
    (unsettled : settled root = false) (ids : List NodeId) (covers : d.Covers known) :
    d.Covers (ids.foldl (d.visit settled) known) ∧
      (root ∈ ids ∨ d.Solid known root → d.Solid (ids.foldl (d.visit settled) known) root) := by
  induction ids generalizing known with
  | nil => exact ⟨covers, fun either => either.resolve_left List.not_mem_nil⟩
  | cons id rest ih =>
      obtain ⟨coversAfter, solid⟩ := ih (covers.visit whole settled id)
      refine ⟨coversAfter, fun either => solid ?_⟩
      by_cases here : id = root
      · exact Or.inr (covers.solid_visit whole unsettled (Or.inl here))
      · rcases either with member | isSolid
        · exact Or.inl ((List.mem_cons.mp member).resolve_left fun same => here same.symm)
        · exact Or.inr (covers.solid_visit whole unsettled (Or.inr isSolid))

theorem Covers.rounds (whole : d.Whole) (settled : NodeId → Bool) {root : NodeId}
    (unsettled : settled root = false) (inside : root < d.fillings.size) (times : Nat)
    (covers : d.Covers known) :
    d.Covers ((List.range times).foldl (fun values _ => d.round settled values) known) ∧
      (0 < times → d.Solid ((List.range times).foldl (fun values _ => d.round settled values) known) root) := by
  induction times with
  | zero => exact ⟨covers, fun impossible => absurd impossible (Nat.lt_irrefl 0)⟩
  | succ times ih =>
      rw [List.range_succ, List.foldl_append]
      obtain ⟨coversBefore, _⟩ := ih
      have member : root ∈ (List.range d.fillings.size).reverse := by
        rw [List.mem_reverse, List.mem_range]
        exact inside
      obtain ⟨coversAfter, solid⟩ := coversBefore.visits whole unsettled (List.range d.fillings.size).reverse
      exact ⟨coversAfter, fun _ => solid (Or.inl member)⟩

/-! ### The outermost collection -/

theorem fits_hollow {id : NodeId} {filling : Filling} (isFilling : d.fillings[id]?.join = some filling) :
    d.Fits True id filling.hollow := by
  cases filling with
  | list items => exact ⟨fun plain => plain, trivial, fun _ impossible => (by cases impossible)⟩
  | pairs items => exact ⟨fun plain => plain, trivial, fun _ impossible => (by cases impossible)⟩
  | set items => exact ⟨fun plain => plain, trivial, fun _ impossible => (by cases impossible)⟩
  | dict entries =>
      refine ⟨fun plain => plain, Value.tidy_dict_iff.mpr ⟨.nil, List.forall_mem_nil _⟩, fun found same => ?_⟩
      cases same
      exact ⟨entries, isFilling, Or.inl ⟨trivial, rfl⟩⟩

def hollowOut (d : Document) (settled : NodeId → Bool) (values : Known) (id : NodeId) : Known :=
  if settled id then values else values.setIfInBounds id (d.fillings[id]?.join.map Filling.hollow)

theorem isSome_hollowOut {settled : NodeId → Bool} {values : Known} (size : values.size = d.fillings.size)
    (known : ∀ id, settled id = true → d.Filled id → (values[id]?.join).isSome = true) {id other : NodeId}
    (isFilled : d.Filled other) (either : (values[other]?.join).isSome = true ∨ other = id) :
    ((d.hollowOut settled values id)[other]?.join).isSome = true := by
  unfold hollowOut
  split
  · rename_i isSettled
    rcases either with isSome | same
    · exact isSome
    · rw [← same] at isSettled
      exact known other isSettled isFilled
  · rw [join_setIfInBounds]
    split
    · rename_i same
      rw [Option.isSome_map, same.1]
      exact isFilled
    · rename_i notHere
      refine either.resolve_right fun same => notHere ⟨same.symm, ?_⟩
      rw [size, ← same]
      exact isFilled.lt_size

theorem covers_hollowOuts (settled : NodeId → Bool) (ids : List NodeId) {values : Known}
    (size : values.size = d.fillings.size) (knows : d.Knows True values)
    (known : ∀ id, settled id = true → d.Filled id → (values[id]?.join).isSome = true) :
    (ids.foldl (d.hollowOut settled) values).size = d.fillings.size ∧
      d.Knows True (ids.foldl (d.hollowOut settled) values) ∧
      ∀ id, d.Filled id → (values[id]?.join).isSome = true ∨ id ∈ ids →
        ((ids.foldl (d.hollowOut settled) values)[id]?.join).isSome = true := by
  induction ids generalizing values with
  | nil => exact ⟨size, knows, fun _ _ either => either.resolve_right List.not_mem_nil⟩
  | cons id rest ih =>
      have sizeAfter : (d.hollowOut settled values id).size = d.fillings.size := by
        unfold hollowOut
        split
        · exact size
        · rw [Array.size_setIfInBounds, size]
      have knowsAfter : d.Knows True (d.hollowOut settled values id) := by
        unfold hollowOut
        split
        · exact knows
        · refine knows.set fun v isHollow => ?_
          obtain ⟨filling, isFilling, rfl⟩ := Option.map_eq_some_iff.mp isHollow
          exact fits_hollow isFilling
      obtain ⟨sizeEnd, knowsEnd, complete⟩ := ih sizeAfter knowsAfter fun other isSettled isFilled =>
        isSome_hollowOut size known isFilled (Or.inl (known other isSettled isFilled))
      refine ⟨sizeEnd, knowsEnd, fun other isFilled either => complete other isFilled ?_⟩
      rcases either with isSome | member
      · exact Or.inl (isSome_hollowOut size known isFilled (Or.inl isSome))
      · rcases List.mem_cons.mp member with here | later
        · exact Or.inl (isSome_hollowOut size known isFilled (Or.inr here))
        · exact Or.inr later

theorem covers_hollow (size : known.size = d.fillings.size) (knows : d.Knows False known) :
    d.Covers ((List.range d.fillings.size).foldl (d.hollowOut fun id => (known[id]?.join).isSome) known) := by
  have weak : d.Knows True known := fun id value found => (knows id value found).weaken True
  obtain ⟨sizeEnd, knowsEnd, complete⟩ := covers_hollowOuts (fun id => (known[id]?.join).isSome)
    (List.range d.fillings.size) size weak fun _ isSettled _ => isSettled
  refine ⟨sizeEnd, knowsEnd, fun id isFilled => complete id isFilled (Or.inr ?_)⟩
  rw [List.mem_range]
  exact isFilled.lt_size

theorem Covers.root (covers : d.Covers known) {root : NodeId} (isFilled : d.Filled root)
    (solid : d.Solid known root) : d.Fits False root ((known[root]?.join).getD .null) := by
  obtain ⟨value, found⟩ := Option.isSome_iff_exists.mp (covers.complete root isFilled)
  rw [found, Option.getD_some]
  exact solid value found

theorem fits_value (whole : d.Whole) {root : NodeId} (isRoot : d.root = .collection root) :
    d.Fits False root d.value := by
  have isFilled : d.Filled root := by
    have holds := whole.root
    rw [isRoot] at holds
    exact holds
  have nothing : d.Knows False (Array.replicate d.fillings.size none) := by
    intro id value found
    rw [Array.getElem?_replicate] at found
    split at found <;> cases found
  have knows := nothing.settle whole (d.fillings.size + 1)
  have size : (d.settle (d.fillings.size + 1) (Array.replicate d.fillings.size none)).size = d.fillings.size := by
    rw [size_settle, Array.size_replicate]
  unfold value
  simp only [isRoot, Part.value?]
  generalize d.settle (d.fillings.size + 1) (Array.replicate d.fillings.size none) = known at knows size ⊢
  cases isKnown : known[root]?.join with
  | some value => exact knows root value isKnown
  | none =>
      -- The outermost collection lies inside itself, so the last round makes it from what is known then.
      have unsettled : (known[root]?.join).isSome = false := by rw [isKnown]; rfl
      have covers := covers_hollow size knows
      obtain ⟨coversEnd, solid⟩ :=
        covers.rounds whole (fun id => (known[id]?.join).isSome) unsettled isFilled.lt_size unrolledDepth
      exact coversEnd.root isFilled (solid (by decide))

/-! ### The outermost mapping -/

theorem value_of_plain {v : Value} (isRoot : d.root = .value v) : d.value = v := by
  unfold value
  rw [isRoot]
  rfl

theorem tidy_value (whole : d.Whole) : d.value.Tidy := by
  cases isRoot : d.root with
  | value v =>
      have plain := whole.root
      rw [isRoot] at plain
      rw [value_of_plain isRoot]
      exact tidy_of_isPlain plain
  | collection root => exact (fits_value whole isRoot).tidy

end Document

/-- How the value at a name is written agrees with what stands there, if that is a plain value. -/
structure Written (entries : List (Value × Value)) (textAt : String → Option (Option String)) : Prop where
  none_iff : ∀ name : String, textAt name = none ↔ Value.field? entries name = none
  plain : ∀ (name : String) (value : Value), Value.field? entries name = some value → value.IsPlain →
    textAt name = some value.display?

theorem Stands.find? {entries : List (Value × Part)} {found : List (Value × Value)}
    (stands : Stands entries found) (key : Value) :
    Option.Rel (fun entry shown => entry.2.Stands shown.2) (entries.find? fun e => e.1.sameKey key)
      (found.find? fun e => e.1.sameKey key) := by
  induction stands with
  | nil => exact .none
  | cons first _ ih =>
      rw [List.find?_cons, List.find?_cons, first.1]
      split
      · exact .some first.2
      · exact ih

theorem Part.display?_of_stands (d : Document) {part : Part} {value : Value} (stands : part.Stands value)
    (plain : value.IsPlain) : d.display? part = value.display? := by
  cases part with
  | value v =>
      cases stands
      rfl
  | collection id => exact absurd plain stands

theorem written_fieldText? {d : Document} (whole : d.Whole) {entries : List (Value × Value)}
    (isValue : d.value = .dict entries) : Written entries d.fieldText? := by
  cases isRoot : d.root with
  | value v =>
      have plain := whole.root
      rw [isRoot, ← Document.value_of_plain isRoot, isValue] at plain
      exact plain.elim
  | collection root =>
      obtain ⟨parts, isFilling, either⟩ := (Document.fits_value whole isRoot).dict entries isValue
      have stands := either.resolve_left fun impossible => impossible.1
      have agree (name : String) := stands.find? (.text name)
      have isText (name : String) : d.fieldText? name =
          (parts.find? fun e => e.1.sameKey (.text name)).map fun e => d.display? e.2 := by
        unfold Document.fieldText?
        rw [isRoot]
        simp only [isFilling]
      refine ⟨fun name => ?_, fun name value isField plain => ?_⟩
      · have related := agree name
        rw [isText, Value.field?, Value.entry?, Option.map_eq_none_iff, Option.map_eq_none_iff]
        generalize parts.find? _ = part at related ⊢
        generalize entries.find? _ = shown at related ⊢
        cases related with
        | none => exact iff_of_true rfl rfl
        | some _ => simp
      · have related := agree name
        rw [Value.field?, Value.entry?] at isField
        rw [isText]
        generalize parts.find? _ = part at related ⊢
        generalize entries.find? _ = shown at related isField
        cases related with
        | none => cases isField
        | some stands =>
            cases isField
            rw [Option.map_some, Part.display?_of_stands d stands plain]

end ReorgGuard.Yaml
