import ReorgGuard.Command.Arguments

/-!
What the arguments of a request can be.

A property of what was taken that every option and every argument keeps holds at the end of a command
line, in whatever turns the words were taken.  It follows that the arguments of a request are of the kind
that their slots ask for: an integer where one is asked for, and text elsewhere.  The one exception is a
second pair of dashes, which leaves an empty list in place of the last argument.
-/

namespace ReorgGuard.Command

open ReorgGuard.Checkpoint

/-! ### Properties that taking words keeps -/

/-- The property outlasts every option and every argument. -/
structure Taking.Keeps {σ : Type} (taking : Taking σ) (holds : σ → Prop) : Prop where
  setFlag : ∀ {flag value state next}, holds state → taking.setFlag flag value state = .ok next → holds next
  setArgument : ∀ {texts state next}, holds state → taking.setArgument texts state = .ok next → holds next

namespace Taking.Keeps

variable {σ : Type} {taking : Taking σ} {holds : σ → Prop}

theorem takeArguments (keeps : taking.Keeps holds) {wanted left : Nat} {words rest : List Word}
    {state next : σ} (before : holds state)
    (taken : Command.takeArguments taking words state wanted = .ok (next, left, rest)) : holds next := by
  induction wanted generalizing words state with
  | zero =>
      cases taken
      exact before
  | succ fewer ih =>
      rw [Command.takeArguments] at taken
      split at taken
      · cases taken
        exact before
      · rename_i texts behind _
        cases isSet : taking.setArgument texts state with
        | error stop =>
            rw [isSet] at taken
            cases taken
        | ok after =>
            rw [isSet] at taken
            exact ih (keeps.setArgument before isSet) taken

theorem takeFlag (keeps : taking.Keeps holds) {flag : Flag} {name : String} {attached : Option String}
    {rest behind : List Word} {state next : σ} (before : holds state)
    (taken : Command.takeFlag taking flag name attached rest state = .ok (next, behind)) : holds next := by
  have kept {value : String} {words : List Word}
      (isSet : (taking.setFlag flag value state).map (·, words) = .ok (next, behind)) : holds next := by
    cases set : taking.setFlag flag value state with
    | error stop =>
        rw [set] at isSet
        cases isSet
    | ok after =>
        rw [set] at isSet
        cases isSet
        exact keeps.setFlag before set
  unfold Command.takeFlag at taken
  split at taken
  · exact kept taken
  · unfold takeCluster at taken
    split at taken
    · cases taken
    · dsimp only at taken
      split at taken
      · exact kept taken
      · cases taken
  · exact kept taken
  · split at taken
    · split at taken
      · exact kept taken
      · cases taken
    · cases taken

/-- Words are taken in turns; each turn sets options or arguments, or passes words over. -/
theorem takeWords (keeps : taking.Keeps holds) {fuel : Nat} {words : List Word} {now after : Progress σ}
    (before : holds now.state) (taken : Command.takeWords taking fuel words now = .ok after) :
    holds after.state := by
  induction fuel generalizing words now with
  | zero =>
      cases taken
      exact before
  | succ fuel ih =>
      cases words with
      | nil =>
          cases taken
          exact before
      | cons word rest =>
          rw [Command.takeWords] at taken
          split at taken
          · rename_i flag name attached _
            cases isFlag : Command.takeFlag taking flag name attached rest now.state with
            | error stop =>
                rw [isFlag] at taken
                cases taken
            | ok set =>
                rw [isFlag] at taken
                exact ih (keeps.takeFlag before isFlag) taken
          · refine ih ?_ taken
            exact before
          · cases isGroup : Command.takeArguments taking (word :: rest) now.state now.wanted with
            | error stop =>
                rw [isGroup] at taken
                cases taken
            | ok set =>
                rw [isGroup] at taken
                dsimp only [bind, Except.bind] at taken
                split at taken
                · exact ih (keeps.takeArguments before isGroup) taken
                · refine ih ?_ taken
                  exact before

theorem take (keeps : taking.Keeps holds) {texts : List String} {state : σ} {wanted : Nat}
    {after : Progress σ} (before : holds state) (taken : Command.take taking texts state wanted = .ok after) :
    holds after.state := by
  unfold Command.take at taken
  split at taken
  · cases taken
  · exact keeps.takeWords before taken

end Taking.Keeps

/-! ### The arguments of a request -/

def Slot.Takes (slot : Slot) (value : Value) : Prop :=
  (slot.isInteger = true ∧ ∃ n, value = .int n) ∨ (slot.isInteger = false ∧ ∃ s, value = .text s) ∨
    value = .list []

theorem takes_argumentValue {part : Part} {slot : Slot} {texts : List String} {value : Value}
    (read : argumentValue part slot texts = .ok value) : slot.Takes value := by
  unfold argumentValue at read
  split at read
  · split at read
    · rename_i integer
      split at read
      · cases read
        exact Or.inl ⟨integer, _, rfl⟩
      · cases read
    · rename_i notInteger
      cases read
      exact Or.inr (Or.inl ⟨Bool.not_eq_true _ ▸ notInteger, _, rfl⟩)
  · cases read
    exact Or.inr (Or.inr rfl)

def Task.Takes (task : Task) (taken : List Value) : Prop :=
  ∀ (place : Nat) (slot : Slot) (value : Value), task.slots[place]? = some slot →
    taken[place]? = some value → slot.Takes value

theorem keeps_taskTaking (task : Task) : (taskTaking task).Keeps task.Takes where
  setFlag := by
    intro flag value taken next _ impossible
    cases impossible
  setArgument := by
    intro texts taken next before isSet
    simp only [taskTaking] at isSet
    split at isSet
    · rename_i slot isSlot
      cases read : argumentValue (some task) slot texts with
      | error stop =>
          rw [read] at isSet
          cases isSet
      | ok last =>
          rw [read] at isSet
          cases isSet
          intro place other value isOther isValue
          rw [List.getElem?_append] at isValue
          split at isValue
          · exact before place other value isOther isValue
          · -- Behind the values taken before there is the last one only, in the slot it was read for.
            rw [List.getElem?_singleton] at isValue
            split at isValue <;> cases isValue
            have isPlace : place = taken.length := by omega
            rw [isPlace, isSlot] at isOther
            cases isOther
            exact takes_argumentValue read
    · cases isSet
      exact before

def Request.Typed : Request → Prop
  | .checkBlock _ hash => (∃ s, hash = .text s) ∨ hash = .list []
  | .canFork _ blockHeight => (∃ n, blockHeight = .int n) ∨ blockHeight = .list []
  | _ => True

theorem typed_requestOf {task : Task} {taken : List Value} {request : Request} (fits : task.Takes taken)
    (made : requestOf task taken = .ok request) : request.Typed := by
  unfold requestOf at made
  split at made
  · cases made
    trivial
  · cases made
    have second : Slot.Takes ⟨"hash", false⟩ _ := fits 1 _ _ rfl rfl
    rcases second with ⟨impossible, _⟩ | ⟨_, isText⟩ | isEmpty
    · cases impossible
    · exact Or.inl isText
    · exact Or.inr isEmpty
  · cases made
    have second : Slot.Takes ⟨"block_height", true⟩ _ := fits 1 _ _ rfl rfl
    rcases second with ⟨_, isInteger⟩ | ⟨impossible, _⟩ | isEmpty
    · exact Or.inl isInteger
    · cases impossible
    · exact Or.inr isEmpty
  · cases made
    trivial
  · cases made
    trivial
  · cases made

def Invocation.Typed (i : Invocation) : Prop :=
  ∀ request, i.request = some request → request.Typed

theorem keeps_programTaking : programTaking.Keeps Invocation.Typed where
  setFlag := by
    intro flag value i next before isSet
    change setOption flag value i = .ok next at isSet
    unfold setOption at isSet
    split at isSet
    · cases isSet
    · cases isSet
      exact before
    · cases isSet
      exact before
    · cases isSet
      exact before
    · split at isSet <;> cases isSet
      exact before
  setArgument := by
    intro texts i next before isSet
    change setTask texts i = .ok next at isSet
    unfold setTask at isSet
    split at isSet
    · cases isSet
      exact before
    · split at isSet
      · cases isSet
      · rename_i rest _ task _
        cases isTaken : Command.take (taskTaking task) rest [] task.slots.length with
        | error stop =>
            rw [isTaken] at isSet
            cases isSet
        | ok taken =>
            cases made : requestOf task taken.state with
            | error stop =>
                simp only [isTaken, made, bind, Except.bind] at isSet
                cases isSet
            | ok request =>
                simp only [isTaken, made, bind, Except.bind] at isSet
                cases isSet
                have nothing : task.Takes [] := by
                  intro place slot value _ impossible
                  cases impossible
                have fits := (keeps_taskTaking task).take nothing isTaken
                intro other isRequest
                cases isRequest
                exact typed_requestOf fits made

/-- The request that a command line holds has arguments of the kinds that it takes. -/
theorem typed_of_read {texts : List String} {i : Invocation} (read : Invocation.read texts = .ok i) :
    i.Typed := by
  have nothing : Invocation.empty.Typed := by
    intro _ impossible
    cases impossible
  unfold Invocation.read at read
  cases isTaken : Command.take programTaking texts .empty 1 with
  | error stop =>
      rw [isTaken] at read
      cases read
  | ok taken =>
      simp only [isTaken, bind, Except.bind] at read
      split at read <;> cases read
      exact keeps_programTaking.take nothing isTaken

end ReorgGuard.Command
