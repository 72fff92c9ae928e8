import Mathlib.Data.List.Basic
import Mathlib.Data.Nat.Cast.Basic
import ReorgGuard.Feed.Client

/-!
The attempts of one call.

What the requests for a target end in is a sequence that the web fixes in advance.  The attempts go along
it up to the first outcome that is no passing failure, or to the last attempt, and pause between each two
requests.  The breaker hears of every passing failure and of a success, and of nothing else.
-/

namespace ReorgGuard.Feed

/-! ### Requests and what they end in -/

/-- What the requests for a target end in, from the next one on. -/
def Web.outcomes (web : Web) (target : Target) (i : Nat) : Except CallError Response :=
  (web.reply target.text (web.asked.count target.text + i)).outcome target

def Web.grown (web : Web) (requests : List String) : Web :=
  { web with asked := requests ++ web.asked }

def Web.after (web : Web) (target : Target) (requests : Nat) : Web :=
  web.grown (List.replicate requests target.text)

theorem Web.request_outcome (web : Web) (target : Target) :
    (web.request target.text).1.outcome target = web.outcomes target 0 := rfl

theorem Web.request_web (web : Web) (target : Target) :
    (web.request target.text).2 = web.after target 1 := rfl

theorem Web.after_after (web : Web) (target : Target) (first next : Nat) :
    (web.after target first).after target next = web.after target (next + first) := by
  simp only [Web.after, Web.grown, ← List.append_assoc, List.replicate_append_replicate]

theorem Web.outcomes_grown (web : Web) (requests : List String) (target : Target) (i : Nat) :
    (web.grown requests).outcomes target i = web.outcomes target (requests.count target.text + i) := by
  simp only [Web.outcomes, Web.grown, List.count_append]
  rw [Nat.add_comm (requests.count target.text), Nat.add_assoc]

theorem Web.outcomes_after (web : Web) (target : Target) (requests i : Nat) :
    (web.after target requests).outcomes target i = web.outcomes target (requests + i) := by
  rw [Web.after, Web.outcomes_grown, List.count_replicate_self]

theorem Web.outcomes_after_of_ne (web : Web) {target other : Target} (apart : target.text ≠ other.text)
    (requests : Nat) : (web.after target requests).outcomes other = web.outcomes other := by
  funext i
  rw [Web.after, Web.outcomes_grown, List.count_replicate, if_neg (by simpa using apart), Nat.zero_add]

def mayPass : Except CallError Response → Bool
  | .error (.failure failure) => failure.trouble.isPassing
  | _ => false

theorem mayPass_eq_true_iff (outcome : Except CallError Response) :
    mayPass outcome = true ↔ ∃ failure, outcome = .error (.failure failure) ∧ failure.trouble.isPassing = true := by
  constructor
  · intro passes
    unfold mayPass at passes
    split at passes
    · exact ⟨_, rfl, passes⟩
    · cases passes
  · intro passes
    rcases passes with ⟨failure, rfl, isPassing⟩
    exact isPassing

/-! ### Breakers with a whole threshold -/

theorem compared_whole (m n : Int) : compared (.int m) (.int n) = .ok (decide (m ≤ n)) := by
  have atMost : Value.atMost? (.int m) (.int n) = some (decide (m * 1 ≤ n * 1)) := rfl
  rw [compared, atMost, Int.mul_one, Int.mul_one]
  rfl

/-- The breaker after so many failures in a row, each at its own time. -/
def Breaker.afterFailures (threshold : Int) (clock : Nat → Float) (breaker : Breaker) (failures : Nat) : Breaker :=
  ⟨breaker.failures + failures,
    if 0 < failures ∧ threshold ≤ breaker.failures + failures then some (clock (failures - 1))
    else breaker.openedAt⟩

theorem Breaker.afterFailures_of_reached {threshold : Int} {breaker : Breaker} {failures : Nat}
    (some : 0 < failures) (reached : threshold ≤ (breaker.failures : Int) + failures) (clock : Nat → Float) :
    breaker.afterFailures threshold clock failures =
      ⟨breaker.failures + failures, .some (clock (failures - 1))⟩ := by
  rw [Breaker.afterFailures, if_pos ⟨some, reached⟩]

theorem Breaker.afterFailures_of_below {threshold : Int} {breaker : Breaker} {failures : Nat}
    (below : ¬threshold ≤ (breaker.failures : Int) + failures) (clock : Nat → Float) :
    breaker.afterFailures threshold clock failures = ⟨breaker.failures + failures, breaker.openedAt⟩ := by
  rw [Breaker.afterFailures, if_neg fun both => below both.2]

theorem Breaker.afterFailures_zero (threshold : Int) (clock : Nat → Float) (breaker : Breaker) :
    breaker.afterFailures threshold clock 0 = breaker := by
  rw [Breaker.afterFailures, if_neg fun both => Nat.lt_irrefl 0 both.1]
  rfl

theorem Breaker.failed_of_whole {limits : BreakerLimits} {threshold : Int} (whole : limits.threshold = .int threshold)
    (breaker : Breaker) (now : Float) :
    breaker.failed limits now = (breaker.afterFailures threshold (fun _ => now) 1, none) := by
  rw [Breaker.failed, whole, compared_whole]
  by_cases reached : threshold ≤ ((breaker.failures + 1 : Nat) : Int)
  · rw [afterFailures_of_reached Nat.one_pos (by omega), decide_eq_true reached]
  · rw [afterFailures_of_below (by omega), decide_eq_false reached]

theorem Breaker.afterFailures_afterFailures (threshold : Int) (clock : Nat → Float) (breaker : Breaker)
    (first next : Nat) :
    (breaker.afterFailures threshold clock first).afterFailures threshold (fun i => clock (first + i)) next =
      breaker.afterFailures threshold clock (first + next) := by
  rcases Nat.eq_zero_or_pos next with rfl | more
  · rw [afterFailures_zero, Nat.add_zero]
  · have total : (breaker.afterFailures threshold clock first).failures = breaker.failures + first := rfl
    have last : first + (next - 1) = first + next - 1 := by omega
    by_cases reached : threshold ≤ (breaker.failures : Int) + (first + next : Nat)
    · rw [afterFailures_of_reached more (by omega), afterFailures_of_reached (by omega) reached, total, Nat.add_assoc,
        last]
    · rw [afterFailures_of_below (by omega), afterFailures_of_below reached, afterFailures_of_below (by omega),
        Nat.add_assoc]

/-- What a request ended in, and when. -/
structure Ending where
  time : Float
  outcome : Except CallError Response

def Breaker.heard (limits : BreakerLimits) (breaker : Breaker) : Ending → Breaker
  | ⟨_, .ok _⟩ => .closed
  | ⟨time, .error error⟩ => if mayPass (.error error) then (breaker.failed limits time).1 else breaker

theorem Breaker.heard_of_passing (limits : BreakerLimits) (breaker : Breaker) {ending : Ending}
    (passes : mayPass ending.outcome = true) :
    breaker.heard limits ending = (breaker.failed limits ending.time).1 := by
  obtain ⟨time, response | error⟩ := ending
  · rw [Breaker.heard]
    exact if_pos passes
  · cases passes

theorem Breaker.heard_of_failure (limits : BreakerLimits) (breaker : Breaker) (time : Float) {failure : Failure}
    (passes : failure.trouble.isPassing = true) :
    breaker.heard limits ⟨time, .error (.failure failure)⟩ = (breaker.failed limits time).1 :=
  heard_of_passing limits breaker passes

theorem Breaker.heard_of_final_error (limits : BreakerLimits) (breaker : Breaker) (time : Float) {error : CallError}
    (final : mayPass (.error error) = false) : breaker.heard limits ⟨time, .error error⟩ = breaker := by
  rw [Breaker.heard, final]
  rfl

/-- What a breaker counts, and what goes wrong with it, does not depend on the clock. -/
theorem Breaker.failed_untimed (limits : BreakerLimits) (breaker other : Breaker)
    (same : other.failures = breaker.failures) (time time' : Float) :
    (other.failed limits time').2 = (breaker.failed limits time).2 ∧
      (other.failed limits time').1.failures = (breaker.failed limits time).1.failures := by
  unfold Breaker.failed
  rw [same]
  dsimp only
  cases compared limits.threshold (.int (breaker.failures + 1 : Nat)) with
  | ok reached => cases reached <;> exact ⟨rfl, rfl⟩
  | error breakdown => exact ⟨rfl, rfl⟩

theorem Breaker.heard_failures (limits : BreakerLimits) (breaker other : Breaker)
    (same : other.failures = breaker.failures) (time time' : Float) (outcome : Except CallError Response) :
    (other.heard limits ⟨time', outcome⟩).failures = (breaker.heard limits ⟨time, outcome⟩).failures := by
  cases outcome with
  | ok response => rfl
  | error error =>
      unfold Breaker.heard
      dsimp only
      split
      · exact (failed_untimed limits breaker other same time time').2
      · exact same

/-! ### One attempt -/

section Attempt

variable (options : ClientOptions) (clock : Nat → Float) (url : String) (target : Target) (attempt : Nat)
  (web : Web) (breaker : Breaker) (left : Nat)

theorem attemptsFrom_of_success {response : Response} (outcome : web.outcomes target 0 = .ok response) :
    attemptsFrom options clock url target attempt web breaker left =
      ⟨web.after target 1, .closed, [], [], .ok response⟩ := by
  rw [attemptsFrom.eq_def]
  simp only [Web.request_outcome, Web.request_web, outcome]
  rfl

theorem attemptsFrom_of_final {error : CallError} (outcome : web.outcomes target 0 = .error error)
    (final : mayPass (.error error) = false) :
    attemptsFrom options clock url target attempt web breaker left =
      ⟨web.after target 1, breaker, [], [], .error error⟩ := by
  rw [attemptsFrom.eq_def]
  simp only [Web.request_outcome, Web.request_web, outcome]
  cases error with
  | failure failure =>
      have stays : failure.trouble.isPassing = false := final
      simp only [stays, Bool.false_eq_true, if_false]
  | _ => rfl

variable {target web} {failure : Failure} (outcome : web.outcomes target 0 = .error (.failure failure))
  (passes : failure.trouble.isPassing = true)

include outcome passes

theorem attemptsFrom_of_passing :
    let heard := breaker.heard options.limits ⟨clock attempt, .error (.failure failure)⟩
    attemptsFrom options clock url target attempt web breaker left =
      match ((Breaker.mk breaker.failures none).failed options.limits 0.0).2 with
      | some breakdown => ⟨web.after target 1, heard, [], [], .error (.broken breakdown)⟩
      | none =>
          match left with
          | 0 => ⟨web.after target 1, heard, [], [attemptRecord url attempt failure], .error (.failure failure)⟩
          | fewer + 1 =>
              match options.pause attempt with
              | .error breakdown =>
                  ⟨web.after target 1, heard, [], [attemptRecord url attempt failure], .error (.broken breakdown)⟩
              | .ok pause =>
                  let rest := attemptsFrom options clock url target (attempt + 1) (web.after target 1) heard fewer
                  { rest with
                    pauses := pause :: rest.pauses
                    records := attemptRecord url attempt failure :: rest.records } := by
  -- The time of the failure does not tell whether the threshold can be looked at.
  have untimed := (Breaker.failed_untimed options.limits ⟨breaker.failures, none⟩ breaker rfl 0.0 (clock attempt)).1
  rw [attemptsFrom.eq_def, Breaker.heard_of_failure options.limits breaker _ passes, ← untimed]
  generalize breaker.failed options.limits (clock attempt) = failed
  obtain ⟨after, breakdown?⟩ := failed
  cases breakdown? with
  | some breakdown => simp only [Web.request_outcome, Web.request_web, outcome, passes, if_true]
  | none =>
      cases left with
      | zero => simp only [Web.request_outcome, Web.request_web, outcome, passes, if_true]
      | succ fewer =>
          cases options.pause attempt with
          | error breakdown => simp only [Web.request_outcome, Web.request_web, outcome, passes, if_true]
          | ok pause => simp only [Web.request_outcome, Web.request_web, outcome, passes, if_true]

variable {threshold : Int} (whole : options.limits.threshold = .int threshold)

include whole

theorem attemptsFrom_of_last :
    attemptsFrom options clock url target attempt web breaker 0 =
      ⟨web.after target 1, breaker.afterFailures threshold (fun _ => clock attempt) 1, [],
        [attemptRecord url attempt failure], .error (.failure failure)⟩ := by
  rw [attemptsFrom_of_passing options clock url attempt breaker 0 outcome passes,
    Breaker.heard_of_failure options.limits breaker _ passes, Breaker.failed_of_whole whole,
    Breaker.failed_of_whole whole]

theorem attemptsFrom_of_pause {pause : Float} (fit : options.pause attempt = .ok pause) :
    let rest := attemptsFrom options clock url target (attempt + 1) (web.after target 1)
      (breaker.afterFailures threshold (fun _ => clock attempt) 1) left
    attemptsFrom options clock url target attempt web breaker (left + 1) =
      { rest with
        pauses := pause :: rest.pauses
        records := attemptRecord url attempt failure :: rest.records } := by
  rw [attemptsFrom_of_passing options clock url attempt breaker (left + 1) outcome passes,
    Breaker.heard_of_failure options.limits breaker _ passes, Breaker.failed_of_whole whole,
    Breaker.failed_of_whole whole, fit]

end Attempt

/-- An attempt is the last one, or the attempts that are left follow it; which, and what the breaker hears, is
told by what it ended in and by the failures counted before.  The clock only dates what the breaker hears. -/
theorem attemptsFrom_cases (options : ClientOptions) (url : String) (target : Target)
    (attempt failures left : Nat) (outcome : Except CallError Response) :
    (∃ records answer, (∀ (clock : Nat → Float) (web : Web) (breaker : Breaker), breaker.failures = failures →
      web.outcomes target 0 = outcome →
      attemptsFrom options clock url target attempt web breaker left =
        ⟨web.after target 1, breaker.heard options.limits ⟨clock attempt, outcome⟩, [], records, answer⟩) ∧
      ∀ response, answer = .ok response → outcome = .ok response) ∨
    ∃ pause record fewer, left = fewer + 1 ∧
      ∀ (clock : Nat → Float) (web : Web) (breaker : Breaker), breaker.failures = failures →
      web.outcomes target 0 = outcome →
      let rest := attemptsFrom options clock url target (attempt + 1) (web.after target 1)
        (breaker.heard options.limits ⟨clock attempt, outcome⟩) fewer
      attemptsFrom options clock url target attempt web breaker left =
        { rest with
          pauses := pause :: rest.pauses
          records := record :: rest.records } := by
  cases passes : mayPass outcome with
  | false =>
      left
      cases outcome with
      | ok response =>
          exact ⟨_, _, fun clock web _ _ ended => attemptsFrom_of_success options clock url target _ _ _ _ ended,
            fun _ same => same⟩
      | error error =>
          refine ⟨[], .error error, fun clock web breaker _ ended => ?_, nofun⟩
          rw [Breaker.heard_of_final_error options.limits breaker _ passes]
          exact attemptsFrom_of_final options clock url target _ _ _ _ ended passes
  | true =>
      obtain ⟨failure, rfl, isPassing⟩ := (mayPass_eq_true_iff _).mp passes
      let written := attemptRecord url attempt failure
      cases told : ((Breaker.mk failures none).failed options.limits 0.0).2 with
      | some breakdown =>
          refine Or.inl ⟨[], .error (.broken breakdown), fun clock web breaker counts ended => ?_, nofun⟩
          rw [attemptsFrom_of_passing options clock url attempt breaker left ended isPassing, counts, told]
      | none =>
          cases left with
          | zero =>
              refine Or.inl ⟨[written], .error (.failure failure), fun clock web breaker counts ended => ?_, nofun⟩
              rw [attemptsFrom_of_passing options clock url attempt breaker 0 ended isPassing, counts, told]
          | succ fewer =>
              cases next : options.pause attempt with
              | error breakdown =>
                  refine Or.inl ⟨[written], .error (.broken breakdown), fun clock web breaker counts ended => ?_, nofun⟩
                  rw [attemptsFrom_of_passing options clock url attempt breaker (fewer + 1) ended isPassing,
                    counts, told, next]
              | ok pause =>
                  refine Or.inr ⟨pause, written, fewer, rfl, fun clock web breaker counts ended => ?_⟩
                  rw [attemptsFrom_of_passing options clock url attempt breaker (fewer + 1) ended isPassing,
                    counts, told, next]

/-! ### All attempts -/

def Web.served (web : Web) (clock : Nat → Float) (target : Target) (requests : Nat) : List Ending :=
  (List.range requests).map fun i => ⟨clock i, web.outcomes target i⟩

theorem Web.served_succ (web : Web) (clock : Nat → Float) (target : Target) (requests : Nat) :
    web.served clock target (requests + 1) =
      ⟨clock 0, web.outcomes target 0⟩ ::
        (web.after target 1).served (fun i => clock (i + 1)) target requests := by
  rw [Web.served, List.range_succ_eq_map, List.map_cons, List.map_map, Web.served]
  congr 1
  refine List.map_congr_left fun i _ => ?_
  rw [Web.outcomes_after, Function.comp_apply, Nat.add_comm 1 i]

/-- What the attempts come to depends on the web only by what the requests for their target end in, and on the
breaker only by its failures.  The breaker hears of each of these requests, and an answer without an error is one
of them. -/
theorem attemptsFrom_made (options : ClientOptions) (url : String) (target : Target) (attempt : Nat)
    (web : Web) (failures left : Nat) :
    ∃ more ≤ left, ∃ pauses records answer,
      (∀ (clock : Nat → Float) (other : Web) (breaker : Breaker), breaker.failures = failures →
        other.outcomes target = web.outcomes target →
        attemptsFrom options clock url target attempt other breaker left =
          ⟨other.after target (more + 1),
            (web.served (fun i => clock (attempt + i)) target (more + 1)).foldl (Breaker.heard options.limits)
              breaker,
            pauses, records, answer⟩) ∧
      ∀ response, answer = .ok response → ∃ i, web.outcomes target i = .ok response := by
  induction left using Nat.strong_induction_on generalizing attempt web failures with
  | _ left ih =>
      rcases attemptsFrom_cases options url target attempt failures left (web.outcomes target 0) with
        ⟨records, answer, step, ended⟩ | ⟨pause, record, fewer, rfl, step⟩
      · exact ⟨0, Nat.zero_le left, [], records, answer,
          fun clock other breaker counts same => step clock other breaker counts (congrFun same 0),
          fun response success => ⟨0, ended response success⟩⟩
      · let ending (time : Float) : Ending := ⟨time, web.outcomes target 0⟩
        obtain ⟨more, within, pauses, records, answer, made, ended⟩ :=
          ih fewer (Nat.lt_succ_self fewer) (attempt + 1) (web.after target 1)
            ((Breaker.mk failures none).heard options.limits (ending 0.0)).failures
        refine ⟨more + 1, Nat.succ_le_succ within, pause :: pauses, record :: records, answer,
          fun clock other breaker counts same => ?_, fun response success => ?_⟩
        · have next : (other.after target 1).outcomes target = (web.after target 1).outcomes target := by
            funext i
            rw [Web.outcomes_after, Web.outcomes_after, same]
          have counted := Breaker.heard_failures options.limits ⟨failures, none⟩ breaker counts 0.0
            (clock attempt) (web.outcomes target 0)
          have shifted : (fun i => clock (attempt + (i + 1))) = fun i => clock (attempt + 1 + i) := by
            funext i
            rw [Nat.add_assoc, Nat.add_comm 1 i]
          rw [step clock other breaker counts (congrFun same 0)]
          simp only [made clock _ _ counted next, Web.after_after, Web.served_succ web _ target (more + 1),
            List.foldl_cons, shifted, Nat.add_zero]
        · obtain ⟨i, isSuccess⟩ := ended response success
          rw [Web.outcomes_after] at isSuccess
          exact ⟨1 + i, isSuccess⟩

/-- The attempts go up to the first outcome that is no passing failure, or to the last one. -/
theorem attemptsFrom_stops {options : ClientOptions} {threshold : Int}
    (whole : options.limits.threshold = .int threshold)
    (fit : ∀ attempt, ∃ pause, options.pause attempt = .ok pause) (clock : Nat → Float) (url : String)
    (target : Target) {stop left : Nat} (attempt : Nat) (web : Web) (breaker : Breaker) (within : stop ≤ left)
    (before : ∀ i < stop, mayPass (web.outcomes target i) = true)
    (stops : mayPass (web.outcomes target stop) = false ∨ stop = left) :
    let made := attemptsFrom options clock url target attempt web breaker left
    made.web = web.after target (stop + 1) ∧
      made.pauses.map .ok = (List.range stop).map (fun i => options.pause (attempt + i)) ∧
      made.outcome = web.outcomes target stop ∧
      made.breaker = (breaker.afterFailures threshold (fun i => clock (attempt + i)) stop).heard options.limits
        ⟨clock (attempt + stop), web.outcomes target stop⟩ := by
  dsimp only
  induction stop generalizing attempt web breaker left with
  | zero =>
      rw [Breaker.afterFailures_zero]
      cases passes : mayPass (web.outcomes target 0) with
      | false =>
          cases outcome : web.outcomes target 0 with
          | ok response =>
              rw [attemptsFrom_of_success options clock url target attempt web breaker left outcome]
              exact ⟨rfl, rfl, rfl, rfl⟩
          | error error =>
              rw [outcome] at passes
              rw [attemptsFrom_of_final options clock url target attempt web breaker left outcome passes,
                Breaker.heard_of_final_error options.limits breaker _ passes]
              exact ⟨rfl, rfl, rfl, rfl⟩
      | true =>
          rw [Breaker.heard_of_passing options.limits breaker passes, Breaker.failed_of_whole whole]
          rcases stops with final | rfl
          · cases final.symm.trans passes
          · obtain ⟨failure, outcome, passes⟩ := (mayPass_eq_true_iff _).mp passes
            rw [attemptsFrom_of_last options clock url attempt breaker outcome passes whole, outcome]
            exact ⟨rfl, rfl, rfl, rfl⟩
  | succ stop ih =>
      obtain ⟨failure, outcome, passes⟩ := (mayPass_eq_true_iff _).mp (before 0 (Nat.succ_pos stop))
      obtain ⟨fewer, rfl⟩ : ∃ fewer, left = fewer + 1 := ⟨left - 1, by omega⟩
      obtain ⟨pause, isPause⟩ := fit attempt
      have shifted (i : Nat) : (web.after target 1).outcomes target i = web.outcomes target (i + 1) := by
        rw [Web.outcomes_after, Nat.add_comm]
      obtain ⟨requests, pauses, answer, heard⟩ :=
        ih (attempt + 1) (web.after target 1) (breaker.afterFailures threshold (fun _ => clock attempt) 1)
          (Nat.le_of_succ_le_succ within)
          (fun i below => by rw [shifted]; exact before (i + 1) (by omega))
          (by rw [shifted]; exact stops.imp_right Nat.succ.inj)
      rw [attemptsFrom_of_pause options clock url attempt breaker fewer outcome passes whole isPause]
      refine ⟨?_, ?_, ?_, ?_⟩
      · exact requests.trans (Web.after_after web target 1 (stop + 1))
      · rw [List.range_succ_eq_map, List.map_cons, List.map_cons, pauses, List.map_map]
        congr 1
        · exact isPause.symm
        · refine List.map_congr_left fun i _ => ?_
          rw [Function.comp_apply, Nat.succ_eq_add_one, Nat.add_assoc, Nat.add_comm 1 i]
      · rw [← shifted]
        exact answer
      · rw [← shifted, Nat.add_comm stop 1, ← Breaker.afterFailures_afterFailures, ← Nat.add_assoc]
        simp only [← Nat.add_assoc]
        exact heard

end ReorgGuard.Feed
