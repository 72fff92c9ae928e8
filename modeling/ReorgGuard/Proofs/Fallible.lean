/-!
Computations that may fail.

A computation made up of steps succeeds exactly if each of its steps does, and then its answer comes from
theirs.  It ends in a fault exactly if the steps up to one succeed and that one ends in it; some faults may be
caught, and the others escape.
-/

namespace ReorgGuard.Fallible

variable {ε δ α β : Type}

theorem bind_eq_ok_iff {step : Except ε α} {next : α → Except ε β} {answer : β} :
    (step >>= next) = .ok answer ↔ ∃ first, step = .ok first ∧ next first = .ok answer := by
  cases step with
  | error fault =>
      refine iff_of_false (fun impossible => by cases impossible) (fun impossible => ?_)
      rcases impossible with ⟨_, impossible, _⟩
      cases impossible
  | ok found =>
      constructor
      · intro ran
        exact ⟨found, rfl, ran⟩
      · intro ran
        rcases ran with ⟨_, same, ran⟩
        cases same
        exact ran

theorem mapError_eq_ok_iff {step : Except ε α} {f : ε → δ} {answer : α} :
    step.mapError f = .ok answer ↔ step = .ok answer := by
  cases step with
  | error fault =>
      exact iff_of_false (fun impossible => by cases impossible) (fun impossible => by cases impossible)
  | ok found =>
      change Except.ok found = Except.ok answer ↔ _
      rw [Except.ok.injEq, Except.ok.injEq]

theorem exists_ok_of_any {step : Except ε α} {holds : α → Bool} (any : step.toOption.any holds = true) :
    ∃ answer, step = .ok answer ∧ holds answer = true := by
  cases step with
  | error fault => cases any
  | ok answer => exact ⟨answer, rfl, any⟩

theorem foldlM_invariant {step : β → α → Except ε β} {holds : β → Prop}
    (keeps : ∀ before item after, holds before → step before item = .ok after → holds after) {items : List α}
    {start answer : β} (isStart : holds start) (ran : items.foldlM step start = .ok answer) : holds answer := by
  induction items generalizing start with
  | nil =>
      cases ran
      exact isStart
  | cons item rest ih =>
      rw [List.foldlM_cons] at ran
      obtain ⟨next, isNext, ran⟩ := bind_eq_ok_iff.mp ran
      exact ih (keeps start item next isStart isNext) ran

/-- The computation ends in a fault that is not caught. -/
def Escapes (caught : ε → Prop) (step : Except ε α) : Prop :=
  ∃ fault, step = .error fault ∧ ¬caught fault

def Fails (step : Except ε α) : Prop :=
  Escapes (fun _ => False) step

section Escapes

variable {caught : ε → Prop} {step : Except ε α}

theorem not_escapes_ok (answer : α) : ¬Escapes caught (.ok answer) := by
  intro escapes
  obtain ⟨_, impossible, _⟩ := escapes
  cases impossible

theorem escapes_error_iff (fault : ε) : Escapes caught (.error fault : Except ε α) ↔ ¬caught fault := by
  constructor
  · intro escapes
    obtain ⟨_, same, uncaught⟩ := escapes
    cases same
    exact uncaught
  · intro uncaught
    exact ⟨fault, rfl, uncaught⟩

theorem escapes_bind_iff {next : α → Except ε β} : Escapes caught (step >>= next) ↔
    Escapes caught step ∨ ∃ first, step = .ok first ∧ Escapes caught (next first) := by
  cases step with
  | error fault =>
      change Escapes caught (.error fault) ↔ _
      rw [escapes_error_iff, escapes_error_iff]
      simp
  | ok found =>
      change Escapes caught (next found) ↔ _
      simp [not_escapes_ok]

theorem not_fails_ok (answer : α) : ¬Fails (.ok answer : Except ε α) :=
  not_escapes_ok answer

theorem fails_error (fault : ε) : Fails (.error fault : Except ε α) :=
  ⟨fault, rfl, not_false⟩

theorem fails_bind_iff {next : α → Except ε β} : Fails (step >>= next) ↔
    Fails step ∨ ∃ first, step = .ok first ∧ Fails (next first) :=
  escapes_bind_iff

theorem escapes_mapError_iff {caught : δ → Prop} {f : ε → δ} (uncaught : ∀ fault, ¬caught (f fault)) :
    Escapes caught (step.mapError f) ↔ Fails step := by
  cases step with
  | error fault => exact iff_of_true ⟨f fault, rfl, uncaught fault⟩ (fails_error fault)
  | ok found => exact iff_of_false (not_escapes_ok found) (not_fails_ok found)

/-- Steps that fail for their items alone, whatever came before, fail together exactly if one of them does. -/
theorem fails_foldlM_iff {step : β → α → Except ε β} (fails : α → Prop) {items : List α}
    (each : ∀ item ∈ items, ∀ before, Fails (step before item) ↔ fails item) (start : β) :
    Fails (items.foldlM step start) ↔ ∃ item ∈ items, fails item := by
  induction items generalizing start with
  | nil => exact iff_of_false (not_fails_ok start) (by simp)
  | cons item rest ih =>
      rw [List.forall_mem_cons] at each
      have split : (∃ one ∈ item :: rest, fails one) ↔ fails item ∨ ∃ one ∈ rest, fails one := by simp
      rw [List.foldlM_cons, fails_bind_iff, each.1, split]
      cases ran : step start item with
      | error fault =>
          have failed : fails item := by
            rw [← each.1 start, ran]
            exact fails_error fault
          exact iff_of_true (Or.inl failed) (Or.inl failed)
      | ok next =>
          have further := ih each.2 next
          refine or_congr_right ⟨fun failed => ?_, fun failed => ⟨next, rfl, further.mpr failed⟩⟩
          obtain ⟨_, same, failed⟩ := failed
          cases same
          exact further.mp failed

end Escapes

end ReorgGuard.Fallible
