import Mathlib.Data.List.Basic
import ReorgGuard.Feed.Endpoints

/-!
What the endpoints of a feed bring together.

The endpoints are called one after the other.  An answer that is passed over adds nothing but a failure; the
first error that is not passed over ends the pooling, and the records that came before it are lost.

How one call comes to its answer is left aside here, as are the pauses made and the records written.
-/

namespace ReorgGuard.Feed

open ReorgGuard.Checkpoint

/-- What the endpoints answer when each is called after those before it, whatever these answered. -/
def answers (settings : Settings) (here : Surroundings) (client : Client) (web : Web) :
    List Link → List (Except CallError Value)
  | [] => []
  | url :: rest =>
      let called := client.getDocument web here settings.expectation url
      called.answer :: answers settings here.later called.client called.web rest

def escaping? : Except CallError Value → Option CallError
  | .ok _ => none
  | .error e => if e.isTolerated then none else some e

def brought : Except CallError Value → List String
  | .ok value => textItems value
  | .error _ => []

def failed : Except CallError Value → Bool
  | .ok _ => false
  | .error _ => true

theorem escaping?_eq_some_iff (answer : Except CallError Value) (error : CallError) :
    escaping? answer = some error ↔ answer = .error error ∧ error.isTolerated = false := by
  cases answer with
  | ok value => simp [escaping?]
  | error other =>
      cases passed : other.isTolerated with
      | true =>
          refine iff_of_false (by simp [escaping?, passed]) fun both => ?_
          rcases both with ⟨same, escapes⟩
          cases same
          rw [passed] at escapes
          cases escapes
      | false =>
          simp only [escaping?, passed, Bool.false_eq_true, if_false, Option.some.injEq, Except.error.injEq]
          refine ⟨fun same => ⟨same, ?_⟩, And.left⟩
          rw [← same, passed]

theorem length_answers (settings : Settings) (here : Surroundings) (client : Client) (web : Web)
    (urls : List Link) : (answers settings here client web urls).length = urls.length := by
  induction urls generalizing here client web with
  | nil => rfl
  | cons url rest ih =>
      rw [answers, List.length_cons, ih, List.length_cons]

theorem pool_cons_answer (settings : Settings) (here : Surroundings) (client : Client) (web : Web)
    (url : Link) (rest : List Link) :
    let called := client.getDocument web here settings.expectation url
    let others := (pool settings here.later called.client called.web rest).answer
    (pool settings here client web (url :: rest)).answer =
      match called.answer with
      | .ok value => others.map fun p => (textItems value ++ p.1, p.2)
      | .error e => if e.isTolerated then others.map fun p => (p.1, p.2 + 1) else .error e := by
  intro called others
  change Called.answer (match called.answer with
    | .ok value => _
    | .error e => if e.isTolerated then _ else _) = _
  cases called.answer with
  | ok value =>
      change others.map (fun p => (textItems value ++ p.1, 0 + p.2)) = _
      simp only [Nat.zero_add]
  | error e =>
      dsimp only
      split
      · change others.map (fun p => ([] ++ p.1, 1 + p.2)) = _
        simp only [List.nil_append, Nat.add_comm]
      · rfl

/-- The endpoints are pooled unless an error escapes, and then it is the first one that does. -/
theorem pool_answer (settings : Settings) (here : Surroundings) (client : Client) (web : Web)
    (urls : List Link) :
    let answered := answers settings here client web urls
    (pool settings here client web urls).answer =
      match answered.findSome? escaping? with
      | some error => .error error
      | none => .ok (answered.flatMap brought, answered.countP failed) := by
  dsimp only
  induction urls generalizing here client web with
  | nil => rfl
  | cons url rest ih =>
      rw [pool_cons_answer, answers]
      generalize client.getDocument web here settings.expectation url = called
      rw [ih here.later called.client called.web, List.findSome?_cons, List.flatMap_cons, List.countP_cons]
      cases called.answer with
      | ok value =>
          simp only [escaping?, brought, failed, Bool.false_eq_true, if_false]
          cases (answers settings here.later called.client called.web rest).findSome? escaping? <;> rfl
      | error error =>
          cases passed : error.isTolerated with
          | true =>
              simp only [passed, escaping?, brought, failed, if_true, List.nil_append]
              cases (answers settings here.later called.client called.web rest).findSome? escaping? <;> rfl
          | false => simp only [passed, escaping?, Bool.false_eq_true, if_false]

theorem fetchEndpoints_answer (settings : Settings) (here : Surroundings) (client : Client) (web : Web)
    (network : Network) :
    let answered := answers settings here client web (settings.urlsFor network)
    (fetchEndpoints settings here client web network).answer =
      match answered.findSome? escaping? with
      | some error => .error (.call error)
      | none =>
          if answered ≠ [] ∧ answered.countP failed = answered.length then
            .error (.unreachable
              s!"all {answered.countP failed} checkpoint feed url(s) failed for {network.name}")
          else .ok (answered.flatMap brought) := by
  dsimp only
  generalize isUrls : settings.urlsFor network = urls
  cases urls with
  | nil =>
      rw [fetchEndpoints, isUrls]
      rfl
  | cons url rest =>
      have pooled := pool_answer settings here client web (url :: rest)
      have length := length_answers settings here client web (url :: rest)
      have filled : answers settings here client web (url :: rest) ≠ [] := List.cons_ne_nil _ _
      rw [fetchEndpoints, isUrls]
      dsimp only at pooled ⊢
      generalize answers settings here client web (url :: rest) = answered at pooled length filled ⊢
      rw [pooled, ← length]
      cases answered.findSome? escaping? with
      | some error => rfl
      | none => simp only [filled, ne_eq, not_false_eq_true, true_and]

theorem brought_of_all_failed {answered : List (Except CallError Value)}
    (all : answered.countP failed = answered.length) : answered.flatMap brought = [] := by
  rw [List.countP_eq_length] at all
  rw [List.flatMap_eq_nil_iff]
  intro answer member
  cases answer with
  | ok value => cases all _ member
  | error error => rfl

end ReorgGuard.Feed
