import Mathlib.Algebra.Ring.Int.Defs
import ReorgGuard.Proofs.Fallible
import ReorgGuard.Proofs.Feed.Calls

/-!
What a call does that is let through.

The requests for its target end in a sequence of outcomes, and the call goes along it up to the first one
that is no passing failure.  So many requests go out, with doubling pauses between them, and the breaker has
counted the failures before.  If every outcome is a passing failure, the attempts are used up and the last
failure is the answer.  A call that is not let through, or for which no request can be made, asks nothing of
the web.
-/

namespace ReorgGuard

/-! ### The lesser of two numbers -/

def Value.lesser (a b : Value) : Value :=
  match a.magnitude?, b.magnitude? with
  | some m, some n => if n.below m then b else a
  | _, _ => a

theorem Value.asNumber?_isSome {value : Value} (isNumber : value.magnitude?.isSome = true) :
    value.asNumber?.isSome = true := by
  cases value with
  | bool b => rfl
  | int n => rfl
  | float x => rfl
  | _ => cases isNumber

namespace Feed

/-- Options whose retries and threshold are whole numbers and whose cap is a number. -/
structure ClientOptions.Proper (options : ClientOptions) (retries : Nat) (threshold : Int) : Prop where
  retries : options.maxRetries = .int retries
  threshold : options.limits.threshold = .int threshold
  cap : options.backoffCap.magnitude?.isSome = true

namespace ClientOptions.Proper

variable {options : ClientOptions} {retries : Nat} {threshold : Int} (proper : options.Proper retries threshold)

include proper

theorem attempts : options.attempts = .ok (retries + 1) := by
  rw [ClientOptions.attempts, proper.retries]
  rfl

theorem pause (attempt : Nat) :
    ∃ pause, options.pause attempt = .ok pause ∧
      ((Value.int (2 ^ attempt)).lesser options.backoffCap).asNumber? = some pause := by
  obtain ⟨cap, isCap⟩ := Option.isSome_iff_exists.mp proper.cap
  have doubled : (Value.int (2 ^ attempt)).magnitude? = some (.fraction (2 ^ attempt) 1) := rfl
  have lesser : (Value.int (2 ^ attempt)).lesser options.backoffCap =
      if cap.below (.fraction (2 ^ attempt) 1) then options.backoffCap else .int (2 ^ attempt) := by
    rw [Value.lesser, doubled, isCap]
  have some : ((Value.int (2 ^ attempt)).lesser options.backoffCap).asNumber?.isSome = true := by
    rw [lesser]
    split
    · exact Value.asNumber?_isSome proper.cap
    · rfl
  obtain ⟨pause, isPause⟩ := Option.isSome_iff_exists.mp some
  refine ⟨pause, ?_, isPause⟩
  rw [lesser] at isPause
  have power : ((Nat.pow 2 attempt : Nat) : Int) = 2 ^ attempt := by
    change ((2 ^ attempt : Nat) : Int) = 2 ^ attempt
    push_cast
    rfl
  simp only [ClientOptions.pause, power, doubled, isCap, isPause, Option.getD_some]

end ClientOptions.Proper

/-! ### Every attempt that is made is a request -/

theorem redirectError?_attempted (target : Target) (response : Response) :
    redirectError? target response ≠ some .noAttempt := by
  intro impossible
  obtain ⟨fault, _, isFault⟩ := Option.map_eq_some_iff.mp impossible
  cases fault <;> cases isFault

theorem Delivery.outcome_attempted (target : Target) (delivery : Delivery) :
    delivery.outcome target ≠ .error .noAttempt := by
  intro impossible
  unfold Delivery.outcome at impossible
  cases received : delivery.receive with
  | error fault =>
      rw [received] at impossible
      cases fault <;> cases impossible
  | ok response =>
      simp only [received, Except.mapError, bind, Except.bind] at impossible
      split at impossible
      · cases impossible
      · split at impossible
        · rename_i error isError
          cases impossible
          exact redirectError?_attempted target response isError
        · split at impossible <;> cases impossible

theorem Web.outcomes_attempted (web : Web) (target : Target) (i : Nat) :
    web.outcomes target i ≠ .error .noAttempt := by
  unfold Web.outcomes
  cases web.reply target.text (web.asked.count target.text + i) with
  | delivery delivery => exact delivery.outcome_attempted target
  | failure failure => exact fun impossible => by cases impossible
  | broken breakdown => exact fun impossible => by cases impossible

theorem targetOf_attempted (url : Link) : targetOf url ≠ .error .noAttempt := by
  intro impossible
  unfold targetOf at impossible
  cases made : Target.ofRequest url.text with
  | error fault =>
      rw [made] at impossible
      cases impossible
  | ok target =>
      simp only [made, Except.mapError, bind, Except.bind] at impossible
      split at impossible
      · cases impossible
      · split at impossible <;> cases impossible

theorem Client.target_attempted (client : Client) (url : Link) : client.target url ≠ .error .noAttempt := by
  intro impossible
  unfold Client.target at impossible
  split at impossible
  · rename_i error isError
    cases impossible
    exact targetOf_attempted url isError
  · split at impossible <;> cases impossible

/-! ### A call that is let through -/

/-- So many retries were made in a call: one request more, and before each retry a pause that doubles up to the
cap. -/
structure Called.Retried (called : Called Response) (cap : Value) (web : Web) (target : Target) (retries : Nat) :
    Prop where
  requests : called.web = web.after target (retries + 1)
  pauses : called.pauses.map some =
    (List.range retries).map fun i => ((Value.int (2 ^ i)).lesser cap).asNumber?

section LetThrough

variable {client : Client} {retries : Nat} {threshold : Int} (proper : client.options.Proper retries threshold)
  {here : Surroundings} {url : Link} (admits : client.admits here url = true)
  (lets : (client.breaker url).allows client.options.limits here.entered = .ok true)

include proper admits lets

theorem get_of_no_target (web : Web) {error : CallError} (none : client.target url = .error error) :
    client.get web here url =
      ⟨client.setBreaker url ((client.breaker url).asked client.options.limits here.entered), web, [], [],
        .error error⟩ := by
  rw [Client.get_of_attempts web admits lets proper.attempts]
  exact Client.request_of_no_target (client.setBreaker url _) web here url none retries

/-- A call stops at the first outcome that is no passing failure, or when its retries are used up. -/
theorem get_stops (web : Web) {target : Target} (isTarget : client.target url = .ok target) {stop : Nat}
    (within : stop ≤ retries) (failing : ∀ i < stop, mayPass (web.outcomes target i) = true)
    (stops : mayPass (web.outcomes target stop) = false ∨ stop = retries) :
    let called := client.get web here url
    let before := (client.breaker url).asked client.options.limits here.entered
    called.Retried client.options.backoffCap web target stop ∧
      called.answer = web.outcomes target stop ∧
      called.client.breaker url = (before.afterFailures threshold here.ended stop).heard client.options.limits
        ⟨here.ended stop, web.outcomes target stop⟩ := by
  intro called before
  have options : (client.setBreaker url before).options = client.options := rfl
  choose pause isPause isLesser using proper.pause
  obtain ⟨requests, pauses, answer, heard⟩ := attemptsFrom_stops proper.threshold
    (fun attempt => ⟨pause attempt, isPause attempt⟩) here.ended url.text target 0 web before within failing stops
  have made : called = _ := (Client.get_of_attempts web admits lets proper.attempts).trans
    (Client.request_of_target (client.setBreaker url before) web here url isTarget retries)
  rw [options, Client.breaker_setBreaker_self] at made
  refine ⟨⟨?_, ?_⟩, ?_, ?_⟩ <;> rw [made]
  · exact requests
  · have doubling : (attemptsFrom client.options here.ended url.text target 0 web before retries).pauses =
        (List.range stop).map pause := by
      apply List.map_injective_iff.mpr (fun _ _ => Except.ok.inj)
      rw [pauses, List.map_map]
      exact List.map_congr_left fun i _ => by rw [Nat.zero_add, isPause, Function.comp_apply]
    rw [doubling, List.map_map]
    exact List.map_congr_left fun i _ => (isLesser i).symm
  · exact answer
  · rw [Client.breaker_setBreaker_self, heard]
    simp only [Nat.zero_add]

end LetThrough

theorem exists_stop (passes : Nat → Bool) (retries : Nat) :
    ∃ stop ≤ retries, (∀ i < stop, passes i = true) ∧ (passes stop = false ∨ stop = retries) := by
  induction retries with
  | zero => exact ⟨0, Nat.le_refl 0, fun i below => absurd below (Nat.not_lt_zero i), Or.inr rfl⟩
  | succ retries ih =>
      rcases ih with ⟨stop, within, before, final | rfl⟩
      · exact ⟨stop, by omega, before, Or.inl final⟩
      · cases final : passes stop with
        | false => exact ⟨stop, Nat.le_succ stop, before, Or.inl final⟩
        | true =>
            refine ⟨stop + 1, Nat.le_refl _, fun i below => ?_, Or.inr rfl⟩
            rcases Nat.lt_succ_iff_lt_or_eq.mp below with earlier | rfl
            · exact before i earlier
            · exact final

def Client.LetsThrough (client : Client) (here : Surroundings) (url : Link) : Prop :=
  client.admits here url = true ∧ (client.breaker url).allows client.options.limits here.entered = .ok true

theorem get_kept_out (client : Client) (web : Web) {here : Surroundings} {url : Link}
    (kept : ¬client.LetsThrough here url) :
    let called := client.get web here url
    called.web = web ∧ called.pauses = [] ∧ (∀ other, called.client.breaker other = client.breaker other) ∧
      called.answer ≠ .error .noAttempt := by
  intro called
  have named {error : CallError} (attempted : error ≠ .noAttempt) :
      (.error error : Except CallError Response) ≠ .error .noAttempt :=
    fun same => attempted (Except.error.inj same)
  cases admits : client.admits here url with
  | false =>
      obtain ⟨error, attempted, isCalled⟩ := Client.get_of_refused client web here url admits
      rw [show called = _ from isCalled]
      exact ⟨rfl, rfl, fun _ => rfl, named attempted⟩
  | true =>
      obtain ⟨error, attempted, isCalled⟩ :=
        Client.get_of_kept_away web admits fun lets => kept ⟨admits, lets⟩
      rw [show called = _ from isCalled]
      refine ⟨rfl, rfl, fun other => ?_, named attempted⟩
      by_cases same : other = url
      · rw [same, Client.breaker_setBreaker_self]
      · exact Client.breaker_setBreaker_of_ne client url same _

theorem get_attempted {client : Client} {retries : Nat} {threshold : Int}
    (proper : client.options.Proper retries threshold) (web : Web) (here : Surroundings) (url : Link) :
    (client.get web here url).answer ≠ .error .noAttempt := by
  by_cases lets : client.LetsThrough here url
  · cases isTarget : client.target url with
    | error error =>
        rw [get_of_no_target proper lets.1 lets.2 web isTarget]
        intro same
        rw [Except.error.inj same] at isTarget
        exact client.target_attempted url isTarget
    | ok target =>
        obtain ⟨stop, within, failing, stops⟩ := exists_stop (fun i => mayPass (web.outcomes target i)) retries
        rw [(get_stops proper lets.1 lets.2 web isTarget within failing stops).2.1]
        exact web.outcomes_attempted target stop
  · exact (get_kept_out client web lets).2.2.2

def twoRetries : ClientOptions := ⟨.int 2, .float 8.0, ⟨.int 5, .float 30.0⟩, true⟩

def slowStart : Web :=
  ⟨fun _ n => if n < 2 then .failure ⟨.readTimeout, "slow"⟩ else .delivery ⟨200, [], []⟩, []⟩

end Feed

end ReorgGuard
