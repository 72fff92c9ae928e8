import ReorgGuard.Proofs.Value.Keys

/-!
What stands at a name in merged mappings.

At each name the second mapping decides, and where both have a mapping there the two are merged in turn.
So at a chain of names the second mapping decides too, unless it has nothing there; then the first one
does.  All of this holds for mappings that have each key once, at every depth; merging keeps them so.
-/

namespace ReorgGuard.Value

/-! ### Mappings with each key once -/

mutual

/-- As far as mappings lead, each of them has each key once. -/
def Tidy : Value → Prop
  | dict entries => Distinct entries ∧ AllTidy entries
  | _ => True

def AllTidy : List (Value × Value) → Prop
  | [] => True
  | (_, value) :: rest => Tidy value ∧ AllTidy rest

end

theorem allTidy_iff {entries : List (Value × Value)} : AllTidy entries ↔ ∀ e ∈ entries, Tidy e.2 := by
  induction entries with
  | nil => exact iff_of_true trivial (List.forall_mem_nil _)
  | cons e rest ih => rw [AllTidy, List.forall_mem_cons, ih]

theorem tidy_dict_iff {entries : List (Value × Value)} :
    Tidy (dict entries) ↔ Distinct entries ∧ ∀ e ∈ entries, Tidy e.2 := by
  rw [Tidy, allTidy_iff]

theorem tidy_of_plain {value : Value} (notDict : ∀ entries, value ≠ dict entries) : Tidy value := by
  cases value with
  | dict entries => exact absurd rfl (notDict entries)
  | _ => trivial

theorem tidy_put {entries : List (Value × Value)} {key value : Value} (old : Tidy (dict entries))
    (new : Tidy value) : Tidy (dict (put entries key value)) := by
  rw [tidy_dict_iff] at old ⊢
  rw [put_eq_place]
  refine ⟨old.1.place key value, fun entry member => ?_⟩
  rcases mem_place member with isNew | ⟨e, isOld, same⟩
  · rw [isNew]
    exact new
  · rw [← same]
    exact old.2 e isOld

theorem tidy_of_found {entries : List (Value × Value)} {key value : Value} (tidy : Tidy (dict entries))
    (found : entry? entries key = some value) : Tidy value := by
  obtain ⟨e, isFound, rfl⟩ := Option.map_eq_some_iff.mp found
  exact (tidy_dict_iff.mp tidy).2 e (List.mem_of_find?_eq_some isFound)

mutual

theorem tidy_mergeAt {old : Value} (isOld : Tidy old) : (new : Value) → Tidy new → Tidy (mergeAt old new)
  | dict overlay, new => by
      cases old with
      | dict base => exact tidy_merge isOld overlay new
      | _ => exact new
  | null, _ => trivial
  | bool _, _ => trivial
  | int _, _ => trivial
  | float _, _ => trivial
  | text _, _ => trivial
  | ragged _, _ => trivial
  | octets _ _, _ => trivial
  | moment _, _ => trivial
  | list _, _ => trivial
  | tuple _, _ => trivial
  | set _, _ => trivial

theorem tidy_merge {base : List (Value × Value)} (isBase : Tidy (dict base)) :
    (overlay : List (Value × Value)) → Tidy (dict overlay) → Tidy (dict (merge base overlay))
  | [], _ => isBase
  | (key, value) :: rest, tidy => by
      rw [tidy_dict_iff, List.forall_mem_cons] at tidy
      have isRest : Tidy (dict rest) := tidy_dict_iff.mpr ⟨(List.pairwise_cons.mp tidy.1).2, tidy.2.2⟩
      rw [merge]
      refine tidy_merge (tidy_put isBase ?_) rest isRest
      split
      · rename_i old found
        exact tidy_mergeAt (tidy_of_found isBase found) value tidy.2.1
      · exact tidy.2.1

end

/-! ### At one name -/

/-- What stands where one mapping may have something already and another one lays something over it. -/
def laid (old : Option Value) (new : Value) : Value :=
  old.elim new (mergeAt · new)

theorem field?_put_self {entries : List (Value × Value)} {name : String} {value : Value} :
    field? (put entries (text name) value) name = some value := by
  rw [put_eq_place, field?_eq_standing?, standing?_place_self]

theorem field?_put_of_ne {entries : List (Value × Value)} {key value : Value} {name : String}
    (other : key ≠ text name) : field? (put entries key value) name = field? entries name := by
  rw [put_eq_place, field?_eq_standing?, standing?_place_of_ne other, field?_eq_standing?]

theorem field?_merge {base overlay : List (Value × Value)} (distinct : Distinct overlay) (name : String) :
    field? (merge base overlay) name =
      match field? overlay name with
      | some new => some (laid (field? base name) new)
      | none => field? base name := by
  induction overlay generalizing base with
  | nil => rw [merge]; rfl
  | cons e rest ih =>
      rcases e with ⟨key, value⟩
      rcases List.pairwise_cons.mp distinct with ⟨first, others⟩
      rw [merge, ih others]
      by_cases same : key = text name
      · subst same
        have behind : field? rest name = none := by
          rw [field?_eq_standing?, standing?_eq_none_iff]
          intro e member isName
          have unlike := first e member
          rw [text_sameKey_iff.mpr isName] at unlike
          cases unlike
        have here : field? ((text name, value) :: rest) name = some value := standing?_cons_self rfl
        rw [behind, here, field?_put_self]
        unfold laid field?
        cases entry? base (text name) <;> rfl
      · have here : field? ((key, value) :: rest) name = field? rest name := standing?_cons_of_ne same
        rw [here, field?_put_of_ne same]

theorem merge_eq_append {base overlay : List (Value × Value)} (distinct : Distinct overlay)
    (absent : ∀ e ∈ overlay, ∀ old ∈ base, old.1.sameKey e.1 = false) : merge base overlay = base ++ overlay := by
  induction overlay generalizing base with
  | nil => rw [merge, List.append_nil]
  | cons e rest ih =>
      rcases e with ⟨key, value⟩
      rcases List.pairwise_cons.mp distinct with ⟨first, others⟩
      rw [List.forall_mem_cons] at absent
      have nothing : entry? base key = none := by
        unfold entry?
        rw [Option.map_eq_none_iff, List.find?_eq_none]
        exact fun old member => Bool.eq_false_iff.mp (absent.1 old member)
      have behind : put base key value = base ++ [(key, value)] := put_of_absent absent.1 value
      rw [merge, nothing, behind, ih others, List.append_assoc, List.singleton_append]
      intro later isLater old isOld
      rcases List.mem_append.mp isOld with before | isNew
      · exact absent.2 later isLater old before
      · rw [List.mem_singleton.mp isNew]
        exact first later isLater

theorem merge_nil {overlay : List (Value × Value)} (distinct : Distinct overlay) : merge [] overlay = overlay :=
  merge_eq_append distinct fun _ _ => List.forall_mem_nil _

/-! ### At a chain of names -/

/-- The value at a chain of names, each in the mapping at those before it. -/
def at? (entries : List (Value × Value)) : List String → Option Value
  | [] => none
  | [name] => field? entries name
  | name :: next :: rest =>
      match field? entries name with
      | some (dict inner) => at? inner (next :: rest)
      | _ => none

/-- Nothing but mappings stands on the way along a chain of names. -/
def Passes (entries : List (Value × Value)) : List String → Prop
  | [] => True
  | [_] => True
  | name :: next :: rest => ∀ value, field? entries name = some value →
      ∃ inner, value = dict inner ∧ Passes inner (next :: rest)

theorem mergeAt_of_not_dict {old new : Value} (notDict : ∀ entries, new ≠ dict entries) :
    mergeAt old new = new := by
  cases new with
  | dict entries => exact absurd rfl (notDict entries)
  | _ => rfl

theorem laid_of_not_dict {old : Option Value} {new : Value} (notDict : ∀ entries, new ≠ dict entries) :
    laid old new = new := by
  cases old with
  | none => rfl
  | some old => exact mergeAt_of_not_dict notDict

theorem laid_dict (old : Option Value) (overlay : List (Value × Value)) :
    (∃ base, old = some (dict base) ∧ laid old (dict overlay) = dict (merge base overlay)) ∨
      (∀ base, old ≠ some (dict base)) ∧ laid old (dict overlay) = dict overlay := by
  cases old with
  | none => exact Or.inr ⟨fun _ impossible => (by cases impossible), rfl⟩
  | some old =>
      cases old with
      | dict base => exact Or.inl ⟨base, rfl, rfl⟩
      | _ => exact Or.inr ⟨fun _ impossible => (by cases impossible), rfl⟩

theorem laid_stays_dict (old : Option Value) (overlay : List (Value × Value)) :
    ∃ entries, laid old (dict overlay) = dict entries := by
  rcases laid_dict old overlay with ⟨_, _, same⟩ | ⟨_, same⟩
  · exact ⟨_, same⟩
  · exact ⟨_, same⟩

/-- Along a chain of names through mappings the second mapping decides if it has something there, and else
the first one. -/
theorem at?_merge {base overlay : List (Value × Value)} (tidy : Tidy (dict overlay)) {chain : List String}
    (passes : Passes (merge base overlay) chain) :
    at? (merge base overlay) chain =
      match at? overlay chain with
      | some new => some (laid (at? base chain) new)
      | none => at? base chain := by
  induction chain generalizing base overlay with
  | nil => rfl
  | cons name rest ih =>
      have distinct := (tidy_dict_iff.mp tidy).1
      cases rest with
      | nil => exact field?_merge distinct name
      | cons next rest =>
          cases isOverlay : field? overlay name with
          | none =>
              have here : field? (merge base overlay) name = field? base name := by
                rw [field?_merge distinct, isOverlay]
              simp only [at?, here, isOverlay]
          | some new =>
              have here : field? (merge base overlay) name = some (laid (field? base name) new) := by
                rw [field?_merge distinct, isOverlay]
              obtain ⟨inner, isInner, further⟩ := passes _ here
              have tidyNew : Tidy new := tidy_of_found tidy isOverlay
              -- What both lead to is a mapping, so what the second leads to is one: it would stand otherwise.
              have isDict : ∃ above, new = dict above := by
                by_contra notDict
                rw [laid_of_not_dict (not_exists.mp notDict)] at isInner
                exact notDict ⟨inner, isInner⟩
              obtain ⟨above, rfl⟩ := isDict
              rcases laid_dict (field? base name) above with ⟨below, isBase, isLaid⟩ | ⟨noBase, isLaid⟩
              · rw [isLaid] at isInner here
                cases isInner
                have merged := ih tidyNew further
                simp only [at?, here, isOverlay, isBase]
                exact merged
              · rw [isLaid] at isInner here
                cases isInner
                have nothing : at? base (name :: next :: rest) = none := by
                  rw [at?]
                  split
                  · rename_i found isFound
                    exact absurd isFound (noBase found)
                  · rfl
                rw [nothing]
                simp only [at?, here, isOverlay]
                cases at? inner (next :: rest) <;> rfl

end ReorgGuard.Value
