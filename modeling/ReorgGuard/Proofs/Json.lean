import ReorgGuard.Json.Printer
import ReorgGuard.Json.Reader
import ReorgGuard.Proofs.Numeral

/-!
What holds of every value that is read from JSON text.

A property that words and texts have, and that a container inherits from its contents, holds of
the value of a whole text: each token keeps it for the values under construction.  Keys of
mappings are not looked at.  One such property is that the value can be written again.
-/

namespace ReorgGuard.Json

/-- The property is inherited from the words and texts of a text to the whole. -/
structure Inherited (holds : Value → Prop) : Prop where
  text : ∀ s, holds (.text s)
  ragged : ∀ s, holds (.ragged s)
  word : ∀ strict cs value, word? strict cs = some value → holds value
  list : ∀ items, (∀ item ∈ items, holds item) → holds (.list items)
  dict : ∀ entries : List (Value × Value), (∀ entry ∈ entries, holds entry.2) → holds (.dict entries)

def Frame.All (holds : Value → Prop) : Frame → Prop
  | .list items => ∀ item ∈ items, holds item
  | .dict entries => ∀ entry ∈ entries, holds entry.2
  | .keyed entries _ => ∀ entry ∈ entries, holds entry.2

structure Builder.All (holds : Value → Prop) (b : Builder) : Prop where
  frames : ∀ frame ∈ b.frames, frame.All holds
  finished : ∀ value, b.expected = .done value → holds value

theorem put_all {holds : Value → Prop} {entries : List (Value × Value)} {key value : Value}
    (old : ∀ entry ∈ entries, holds entry.2) (new : holds value) :
    ∀ entry ∈ Value.put entries key value, holds entry.2 := by
  induction entries with
  | nil =>
      intro entry member
      rw [List.mem_singleton.mp member]
      exact new
  | cons first rest ih =>
      rw [List.forall_mem_cons] at old
      unfold Value.put
      split
      · exact List.forall_mem_cons.mpr ⟨new, old.2⟩
      · exact List.forall_mem_cons.mpr ⟨old.1, ih old.2⟩

theorem distinct_all {holds : Value → Prop} {entries : List (Value × Value)}
    (all : ∀ entry ∈ entries, holds entry.2) : ∀ entry ∈ distinct entries, holds entry.2 := by
  induction entries with
  | nil => exact all
  | cons last earlier ih =>
      rw [List.forall_mem_cons] at all
      exact put_all (ih all.2) all.1

namespace Builder

variable {holds : Value → Prop} {dialect : Dialect} {b next : Builder}

theorem finish_all {frames : List Frame} {depth : Nat} {value : Value}
    (all : ∀ frame ∈ frames, frame.All holds) (new : holds value)
    (result : finish frames depth value = .ok next) : next.All holds := by
  cases frames with
  | nil =>
      cases result
      exact ⟨all, fun other same => by cases same; exact new⟩
  | cons frame outer =>
      rw [List.forall_mem_cons] at all
      cases frame with
      | list items =>
          cases result
          refine ⟨List.forall_mem_cons.mpr ⟨?_, all.2⟩, fun other same => by cases same⟩
          exact List.forall_mem_cons.mpr ⟨new, all.1⟩
      | keyed entries key =>
          cases result
          refine ⟨List.forall_mem_cons.mpr ⟨?_, all.2⟩, fun other same => by cases same⟩
          exact List.forall_mem_cons.mpr ⟨new, all.1⟩
      | dict entries => cases result

theorem opened_all {frame : Frame} {expected : Expected} (all : b.All holds) (empty : frame.All holds)
    (unfinished : ∀ value, expected ≠ .done value)
    (result : b.opened dialect frame expected = .ok next) : next.All holds := by
  unfold opened at result
  split at result
  · cases result
  · cases result
    exact ⟨List.forall_mem_cons.mpr ⟨empty, all.frames⟩, fun value same => absurd same (unfinished value)⟩

theorem value_all (inherited : Inherited holds) (all : b.All holds) {token : Token}
    (result : b.value dialect token = .ok next) : next.All holds := by
  cases token with
  | openList =>
      have empty : Frame.All holds (.list []) := List.forall_mem_nil _
      exact opened_all all empty (fun value same => by cases same) result
  | openDict =>
      have empty : Frame.All holds (.dict []) := List.forall_mem_nil _
      exact opened_all all empty (fun value same => by cases same) result
  | text s => exact finish_all all.frames (inherited.text s) result
  | ragged s => exact finish_all all.frames (inherited.ragged s) result
  | word cs =>
      unfold Builder.value at result
      dsimp only at result
      split at result
      · rename_i value found
        exact finish_all all.frames (inherited.word _ cs value found) result
      · cases result
  | _ => cases result

theorem key_all (all : b.All holds) {token : Token} (result : b.key token = .ok next) :
    next.All holds := by
  unfold key at result
  have frames := all.frames
  split at result
  · rename_i entries outer s shape
    rw [shape, List.forall_mem_cons] at frames
    cases result
    exact ⟨List.forall_mem_cons.mpr frames, fun value same => by cases same⟩
  · rename_i entries outer s shape
    rw [shape, List.forall_mem_cons] at frames
    cases result
    exact ⟨List.forall_mem_cons.mpr frames, fun value same => by cases same⟩
  · cases result

theorem close_all (inherited : Inherited holds) (all : b.All holds) {token : Token}
    (result : b.close token = .ok next) : next.All holds := by
  unfold close at result
  have frames := all.frames
  split at result
  · rename_i items outer shape
    rw [shape, List.forall_mem_cons] at frames
    refine finish_all frames.2 (inherited.list _ fun item member => ?_) result
    exact frames.1 item (List.mem_reverse.mp member)
  · rename_i entries outer shape
    rw [shape, List.forall_mem_cons] at frames
    exact finish_all frames.2 (inherited.dict _ (distinct_all frames.1)) result
  · cases result

theorem filled_eq_ok {result : Built} (filled : b.filled dialect result = .ok next) :
    result = .ok next := by
  unfold Builder.filled at filled
  split at filled
  · cases filled
  · exact filled

theorem step_all (inherited : Inherited holds) (all : b.All holds) {token : Token}
    (result : b.step dialect token = .ok next) : next.All holds := by
  have expecting {expected : Expected} (unfinished : ∀ value, expected ≠ .done value) :
      Builder.All holds { b with expected := expected } :=
    ⟨all.frames, fun value same => absurd same (unfinished value)⟩
  unfold step at result
  split at result
  · exact value_all inherited all result
  · split at result
    · exact close_all inherited all result
    · exact value_all inherited all (filled_eq_ok result)
  · split at result
    · exact close_all inherited all result
    · exact key_all all (filled_eq_ok result)
  · exact key_all all result
  · split at result
    · cases result
      exact expecting (fun value same => by cases same)
    · cases result
  · split at result
    · cases result
      exact expecting (fun value same => by cases same)
    · cases result
      exact expecting (fun value same => by cases same)
    · exact close_all inherited all result
  · cases result

theorem steps_all (inherited : Inherited holds) (all : b.All holds) {tokens : List Token}
    (result : tokens.foldlM (step dialect) b = .ok next) : next.All holds := by
  induction tokens generalizing b with
  | nil =>
      cases result
      exact all
  | cons token rest ih =>
      rw [List.foldlM_cons] at result
      cases stepped : b.step dialect token with
      | error fault =>
          rw [stepped] at result
          cases result
      | ok between =>
          rw [stepped] at result
          exact ih (step_all inherited all stepped) result

end Builder

theorem read_inherited {holds : Value → Prop} (inherited : Inherited holds) {dialect : Dialect}
    {s : String} {value : Value} (done : read dialect s = .ok value) : holds value := by
  unfold read at done
  cases folded : (tokens dialect.strict s.toList).foldlM (Builder.step dialect) ⟨[], 0, .value⟩ with
  | error fault =>
      rw [folded] at done
      cases done
  | ok b =>
      rw [folded] at done
      have start : Builder.All holds ⟨[], 0, .value⟩ :=
        ⟨List.forall_mem_nil _, fun found impossible => by cases impossible⟩
      have all := Builder.steps_all inherited start folded
      cases finished : b.expected with
      | done found =>
          simp only [bind, Except.bind, finished] at done
          cases done
          exact all.finished value finished
      | _ => simp [bind, Except.bind, finished] at done

/-! ### Writing what was read -/

theorem itemsWritable?_eq_none_iff {items : List Value} :
    itemsWritable? items = none ↔ ∀ item ∈ items, writable? item = none := by
  induction items with
  | nil => simp [itemsWritable?]
  | cons first rest ih => rw [itemsWritable?, Option.or_eq_none_iff, ih, List.forall_mem_cons]

theorem entriesWritable?_eq_none_iff {entries : List (Value × Value)} :
    entriesWritable? entries = none ↔ ∀ entry ∈ entries, writable? entry.2 = none := by
  induction entries with
  | nil => simp [entriesWritable?]
  | cons first rest ih => rw [entriesWritable?, Option.or_eq_none_iff, ih, List.forall_mem_cons]

theorem writable?_int {n : Int} : writable? (.int n) = none ↔ Numeral.tooLong n = false := by
  unfold writable?
  cases Numeral.tooLong n <;> simp

theorem number?_writable {strict : Bool} {cs : List Char} {value : Value}
    (found : number? strict cs = some value) : writable? value = none := by
  revert found
  fun_cases number? strict cs with
  | case4 negative rest _ whole _ _ _ within size =>
      intro found
      cases found
      rw [writable?_int]
      apply Numeral.tooLong_of_read List.all_takeWhile (Nat.le_of_not_lt within)
      cases negative
      · exact Int.natAbs_natCast _
      · exact (Int.natAbs_neg _).trans (Int.natAbs_natCast _)
  | case5 =>
      intro found
      rcases Option.map_eq_some_iff.mp found with ⟨_, _, rfl⟩
      rfl
  | _ =>
      intro found
      cases found

theorem word?_writable {strict : Bool} {cs : List Char} {value : Value}
    (found : word? strict cs = some value) : writable? value = none := by
  unfold word? at found
  split at found
  · cases found
    rfl
  repeat
    split at found
    · cases found
      rfl
  exact number?_writable found

/-- What was read can be written. -/
theorem read_writable {dialect : Dialect} {s : String} {value : Value}
    (done : read dialect s = .ok value) : writable? value = none := by
  have inherited : Inherited fun value => writable? value = none :=
    { text := fun _ => rfl
      ragged := fun _ => rfl
      word := fun _ _ _ found => word?_writable found
      list := fun _ all => itemsWritable?_eq_none_iff.mpr all
      dict := fun _ all => entriesWritable?_eq_none_iff.mpr all }
  exact read_inherited inherited done

end ReorgGuard.Json
