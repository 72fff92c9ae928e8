import ReorgGuard.Proofs.Feed.Attempts

/-!
Calls of a client.

A call asks the policy, then the breaker of its URL, and only then makes attempts.  It sees of the client
its options, whether it is closed and the one breaker, and of the web what the requests for its target end
in; and it changes no other breaker.
-/

namespace ReorgGuard.Feed

def Web.since (later earlier : Web) : List String :=
  later.asked.take (later.asked.length - earlier.asked.length)

theorem Web.since_grown (web : Web) (requests : List String) : (web.grown requests).since web = requests := by
  rw [Web.since, Web.grown, List.length_append, Nat.add_sub_cancel, List.take_left]

theorem Web.since_self (web : Web) : web.since web = [] := by
  rw [Web.since, Nat.sub_self, List.take_zero]

def Apart (url another : Link) : Prop :=
  ∀ target other, targetOf url = .ok target → targetOf another = .ok other → target.text ≠ other.text

theorem Apart.symm {url another : Link} (apart : Apart url another) : Apart another url :=
  fun target other isTarget isOther => (apart other target isOther isTarget).symm

/-! ### Breakers that do not let a call through -/

theorem Breaker.asked_of_kept_away {limits : BreakerLimits} {breaker : Breaker} {now : Float}
    (kept : breaker.allows limits now ≠ .ok true) : breaker.asked limits now = breaker := by
  unfold Breaker.asked
  split
  · rename_i lets
    exact absurd lets kept
  · rfl

theorem Breaker.asked_of_closed {limits : BreakerLimits} {breaker : Breaker} (now : Float)
    (closed : breaker.openedAt = none) : breaker.asked limits now = breaker := by
  rw [Breaker.asked, closed]

namespace Client

variable (client : Client) (web : Web) (here : Surroundings) (url : Link)

/-! ### One breaker among others -/

theorem lookup_put (breaker : Breaker) (entries : List (Link × Breaker)) (other : Link) :
    (setBreaker.put url breaker entries).lookup other =
      if other = url then some breaker else entries.lookup other := by
  by_cases same : other = url
  · subst same
    rw [if_pos rfl]
    induction entries with
    | nil => exact List.lookup_cons_self
    | cons entry rest ih =>
        rw [setBreaker.put]
        split
        · exact List.lookup_cons_self
        · rename_i apart
          rw [List.lookup_cons, beq_eq_false_iff_ne.mpr (Ne.symm apart)]
          exact ih
  · have behind : (other == url) = false := beq_eq_false_iff_ne.mpr same
    rw [if_neg same]
    induction entries with
    | nil =>
        rw [setBreaker.put, List.lookup_cons, behind]
    | cons entry rest ih =>
        rw [setBreaker.put]
        split
        · rename_i isUrl
          rw [List.lookup_cons, List.lookup_cons, behind, isUrl, behind]
        · rw [List.lookup_cons, List.lookup_cons, ih]

theorem breaker_setBreaker_self (breaker : Breaker) : (client.setBreaker url breaker).breaker url = breaker := by
  rw [Client.breaker, setBreaker, lookup_put, if_pos rfl]
  rfl

theorem breaker_setBreaker_of_ne {other : Link} (apart : other ≠ url) (breaker : Breaker) :
    (client.setBreaker url breaker).breaker other = client.breaker other := by
  rw [Client.breaker, setBreaker, lookup_put, if_neg apart]
  rfl

def target : Except CallError Target :=
  match targetOf url with
  | .error error => .error error
  | .ok target => if client.closed then .error .clientClosed else .ok target

/-! ### What a call comes to -/

theorem request_of_no_target {error : CallError} (none : client.target url = .error error) (left : Nat) :
    client.request web here url (left + 1) = ⟨client, web, [], [], .error error⟩ := by
  unfold Client.target at none
  unfold request
  split at none
  · cases none
    simp only [*]
  · split at none
    · cases none
      simp only [*, if_true]
    · cases none

theorem request_of_target {target : Target} (isTarget : client.target url = .ok target) (left : Nat) :
    let made := attemptsFrom client.options here.ended url.text target 0 web (client.breaker url) left
    client.request web here url (left + 1) =
      ⟨client.setBreaker url made.breaker, made.web, made.pauses, made.records, made.outcome⟩ := by
  unfold Client.target at isTarget
  unfold request
  split at isTarget
  · cases isTarget
  · split at isTarget
    · cases isTarget
    · cases isTarget
      simp only [*, if_false, Bool.false_eq_true]

def admits : Bool :=
  match checkUrl here.resolve client.options.allowPrivate url.text with
  | .allowed _ => true
  | _ => false

theorem get_of_refused (refused : client.admits here url = false) :
    ∃ error, error ≠ .noAttempt ∧ client.get web here url = ⟨client, web, [], [], .error error⟩ := by
  unfold admits at refused
  unfold get
  split
  · exact ⟨_, by simp, rfl⟩
  · exact ⟨_, by simp, rfl⟩
  · exact ⟨_, by simp, rfl⟩
  · rename_i host allowed
    rw [allowed] at refused
    cases refused

variable {client here url}

theorem exists_allowed_of_admits (admits : client.admits here url = true) :
    ∃ host, checkUrl here.resolve client.options.allowPrivate url.text = .allowed host := by
  unfold Client.admits at admits
  split at admits
  · exact ⟨_, by assumption⟩
  · cases admits

theorem get_of_kept_away (admits : client.admits here url = true)
    (kept : (client.breaker url).allows client.options.limits here.entered ≠ .ok true) :
    ∃ error, error ≠ .noAttempt ∧ client.get web here url =
      ⟨client.setBreaker url (client.breaker url), web, [], [], .error error⟩ := by
  obtain ⟨host, allowed⟩ := exists_allowed_of_admits admits
  have asked := Breaker.asked_of_kept_away kept
  unfold get
  simp only [allowed, asked]
  split
  · exact ⟨_, by simp, rfl⟩
  · exact ⟨_, by simp, rfl⟩
  · rename_i lets
    exact absurd lets kept

theorem get_of_let_through (admits : client.admits here url = true)
    (lets : (client.breaker url).allows client.options.limits here.entered = .ok true) :
    let asked := client.setBreaker url ((client.breaker url).asked client.options.limits here.entered)
    client.get web here url =
      match client.options.attempts with
      | .error breakdown => ⟨asked, web, [], [], .error (.broken breakdown)⟩
      | .ok attempts => asked.request web here url attempts := by
  obtain ⟨host, allowed⟩ := exists_allowed_of_admits admits
  intro asked
  unfold get
  simp only [allowed, lets]
  rfl

theorem get_of_attempts (admits : client.admits here url = true)
    (lets : (client.breaker url).allows client.options.limits here.entered = .ok true) {attempts : Nat}
    (fit : client.options.attempts = .ok attempts) :
    client.get web here url =
      (client.setBreaker url ((client.breaker url).asked client.options.limits here.entered)).request web here url
        attempts := by
  rw [get_of_let_through web admits lets, fit]

theorem request_cases (client : Client) (web : Web) (here : Surroundings) (url : Link) (attempts : Nat) :
    (∃ error, client.request web here url attempts = ⟨client, web, [], [], .error error⟩) ∨
    ∃ target left, client.target url = .ok target ∧ attempts = left + 1 ∧
      let made := attemptsFrom client.options here.ended url.text target 0 web (client.breaker url) left
      client.request web here url attempts =
        ⟨client.setBreaker url made.breaker, made.web, made.pauses, made.records, made.outcome⟩ := by
  cases attempts with
  | zero => exact Or.inl ⟨_, rfl⟩
  | succ left =>
      cases isTarget : client.target url with
      | error error => exact Or.inl ⟨_, request_of_no_target client web here url isTarget left⟩
      | ok target => exact Or.inr ⟨target, left, rfl, rfl, request_of_target client web here url isTarget left⟩

theorem targetOf_of_target {target : Target} (isTarget : client.target url = .ok target) :
    targetOf url = .ok target := by
  unfold Client.target at isTarget
  split at isTarget
  · cases isTarget
  · split at isTarget
    · cases isTarget
    · cases isTarget
      assumption

/-- Two clients that differ at most in the breaker of a URL. -/
structure AlikeBut (client other : Client) (url : Link) : Prop where
  options : other.options = client.options
  closed : other.closed = client.closed
  breaker : ∀ another, another ≠ url → other.breaker another = client.breaker another

theorem AlikeBut.refl (client : Client) (url : Link) : client.AlikeBut client url :=
  ⟨rfl, rfl, fun _ _ => rfl⟩

theorem AlikeBut.setBreaker {other : Client} (alike : client.AlikeBut other url) (breaker : Breaker) :
    client.AlikeBut (other.setBreaker url breaker) url :=
  ⟨alike.options, alike.closed, fun another apart =>
    (breaker_setBreaker_of_ne other url apart breaker).trans (alike.breaker another apart)⟩

/-- The breaker of a URL when a call has asked it, as it does if the policy allows the call. -/
def askedBreaker (client : Client) (here : Surroundings) (url : Link) : Breaker :=
  if client.admits here url then (client.breaker url).asked client.options.limits here.entered
  else client.breaker url

theorem askedBreaker_of_admits (admits : client.admits here url = true) :
    client.askedBreaker here url = (client.breaker url).asked client.options.limits here.entered := by
  rw [askedBreaker, if_pos admits]

/-- A call that is let through and can make requests, with so many attempts left behind the first one. -/
structure Asking (client : Client) (here : Surroundings) (url : Link) (target : Target) (left : Nat) : Prop where
  admits : client.admits here url = true
  lets : (client.breaker url).allows client.options.limits here.entered = .ok true
  isTarget : targetOf url = .ok target
  attempts : client.options.attempts = .ok (left + 1)

/-- A call asks nothing of the web and ends in an error, or it makes its attempts.  It changes one breaker only. -/
theorem get_cases (client : Client) (web : Web) (here : Surroundings) (url : Link) :
    ∃ next, client.AlikeBut next url ∧
      ((∃ error, next.breaker url = client.askedBreaker here url ∧
          client.get web here url = ⟨next, web, [], [], .error error⟩) ∨
        ∃ target left, client.Asking here url target left ∧
          let made := attemptsFrom client.options here.ended url.text target 0 web (client.askedBreaker here url) left
          next.breaker url = made.breaker ∧
            client.get web here url = ⟨next, made.web, made.pauses, made.records, made.outcome⟩) := by
  have same := AlikeBut.refl client url
  cases admits : client.admits here url with
  | false =>
      obtain ⟨error, _, called⟩ := get_of_refused client web here url admits
      have unasked : client.askedBreaker here url = client.breaker url := by
        rw [askedBreaker, admits]
        rfl
      exact ⟨client, same, Or.inl ⟨error, unasked.symm, called⟩⟩
  | true =>
      have asked := askedBreaker_of_admits admits
      by_cases lets : (client.breaker url).allows client.options.limits here.entered = .ok true
      · have called := get_of_let_through web admits lets
        rw [← asked] at called
        cases fit : client.options.attempts with
        | error breakdown =>
            rw [fit] at called
            exact ⟨_, same.setBreaker _, Or.inl ⟨_, breaker_setBreaker_self client url _, called⟩⟩
        | ok attempts =>
            rw [fit] at called
            rcases request_cases (client.setBreaker url (client.askedBreaker here url)) web here url attempts with
              ⟨error, requested⟩ | ⟨target, left, isTarget, rfl, requested⟩
            · exact ⟨_, same.setBreaker _,
                Or.inl ⟨_, breaker_setBreaker_self client url _, called.trans requested⟩⟩
            · rw [breaker_setBreaker_self] at requested
              exact ⟨_, (same.setBreaker _).setBreaker _, Or.inr ⟨target, left,
                ⟨admits, lets, targetOf_of_target isTarget, fit⟩, breaker_setBreaker_self _ url _,
                called.trans requested⟩⟩
      · obtain ⟨error, _, called⟩ := get_of_kept_away web admits lets
        have unchanged : client.breaker url = client.askedBreaker here url := by
          rw [asked, Breaker.asked_of_kept_away lets]
        exact ⟨_, same.setBreaker _,
          Or.inl ⟨error, (breaker_setBreaker_self client url _).trans unchanged, called⟩⟩

theorem get_alikeBut (client : Client) (web : Web) (here : Surroundings) (url : Link) :
    client.AlikeBut (client.get web here url).client url := by
  obtain ⟨next, alike, ⟨_, _, called⟩ | ⟨_, _, _, _, called⟩⟩ := get_cases client web here url
  · rw [called]
    exact alike
  · rw [called]
    exact alike

theorem get_web (client : Client) (web : Web) (here : Surroundings) (url : Link) :
    (client.get web here url).web = web ∨
      ∃ target left, client.Asking here url target left ∧
        ∃ more ≤ left, (client.get web here url).web = web.after target (more + 1) := by
  obtain ⟨next, _, ⟨_, _, called⟩ | ⟨target, left, asking, _, called⟩⟩ := get_cases client web here url
  · rw [called]
    exact Or.inl rfl
  · obtain ⟨more, within, _, _, _, made, _⟩ :=
      attemptsFrom_made client.options url.text target 0 web (client.askedBreaker here url).failures left
    rw [called, made here.ended web _ rfl rfl]
    exact Or.inr ⟨target, left, asking, more, within, rfl⟩

theorem targetOf_not_ragged {target : Target} (isTarget : targetOf url = .ok target) : url.ragged = false := by
  unfold targetOf at isTarget
  cases made : Target.ofRequest url.text with
  | error fault =>
      rw [made] at isTarget
      cases isTarget
  | ok found =>
      simp only [made, Except.mapError, bind, Except.bind] at isTarget
      split at isTarget
      · cases isTarget
      · rename_i whole
        exact eq_false_of_ne_true whole

/-- Half of a surrogate pair cannot go over the wire. -/
theorem get_of_ragged (client : Client) (web : Web) (here : Surroundings) (ragged : url.ragged = true) :
    (client.get web here url).web = web := by
  rcases client.get_web web here url with unasked | ⟨_, _, asking, _⟩
  · exact unasked
  · cases ragged.symm.trans (targetOf_not_ragged asking.isTarget)

theorem get_success {response : Response} (success : (client.get web here url).answer = .ok response) :
    client.admits here url = true ∧ ∃ target i, web.outcomes target i = .ok response := by
  obtain ⟨next, _, ⟨_, _, called⟩ | ⟨target, left, asking, _, called⟩⟩ := get_cases client web here url
  · rw [called] at success
    cases success
  · obtain ⟨_, _, _, _, _, made, ended⟩ :=
      attemptsFrom_made client.options url.text target 0 web (client.askedBreaker here url).failures left
    rw [called, made here.ended web _ rfl rfl] at success
    exact ⟨asking.admits, target, ended response success⟩

end Client

/-! ### What the breaker of a call hears -/

/-- What the requests of a call ended in that began on a web, by a clock that tells when. -/
def Called.endings (called : Called Response) (clock : Nat → Float) (web : Web) (url : Link) : List Ending :=
  match targetOf url with
  | .error _ => []
  | .ok target => web.served clock target (called.web.since web).length

theorem Called.endings_of_unasked {called : Called Response} {web : Web} (unasked : called.web = web)
    (clock : Nat → Float) (url : Link) : called.endings clock web url = [] := by
  have none : (called.web.since web).length = 0 := by
    rw [unasked, Web.since_self, List.length_nil]
  unfold Called.endings
  rw [none]
  split <;> rfl

theorem Called.endings_of_asked {called : Called Response} {web : Web} {target : Target} {requests : Nat}
    (asked : called.web = web.after target requests) (clock : Nat → Float) {url : Link}
    (isTarget : targetOf url = .ok target) : called.endings clock web url = web.served clock target requests := by
  have length : (called.web.since web).length = requests := by
    rw [asked, Web.after, Web.since_grown, List.length_replicate]
  rw [Called.endings, isTarget, length]

namespace Client

/-- Once the breaker of a URL has been asked, it hears what each of the requests ended in, and when. -/
theorem get_heard (client : Client) (web : Web) (here : Surroundings) (url : Link) :
    let called := client.get web here url
    called.client.breaker url = (called.endings here.ended web url).foldl (Breaker.heard client.options.limits)
      (client.askedBreaker here url) := by
  dsimp only
  obtain ⟨next, _, ⟨_, breaker, called⟩ | ⟨target, left, asking, breaker, called⟩⟩ :=
    get_cases client web here url
  · rw [called, Called.endings_of_unasked rfl]
    exact breaker
  · obtain ⟨more, _, _, _, _, made, _⟩ :=
      attemptsFrom_made client.options url.text target 0 web (client.askedBreaker here url).failures left
    have ended := made here.ended web (client.askedBreaker here url) rfl rfl
    simp only [Nat.zero_add] at ended
    rw [called, Called.endings_of_asked (congrArg (·.web) ended) here.ended asking.isTarget]
    exact breaker.trans (congrArg (·.breaker) ended)

/-! ### What a call depends on -/

variable {client : Client} {url : Link}

/-- Two clients that answer the calls for a URL alike. -/
structure AlikeAt (client other : Client) (url : Link) : Prop where
  options : other.options = client.options
  closed : other.closed = client.closed
  breaker : other.breaker url = client.breaker url

theorem AlikeAt.refl (client : Client) (url : Link) : client.AlikeAt client url := ⟨rfl, rfl, rfl⟩

theorem AlikeAt.setBreaker {other : Client} (alike : client.AlikeAt other url) (breaker : Breaker) :
    (client.setBreaker url breaker).AlikeAt (other.setBreaker url breaker) url :=
  ⟨alike.options, alike.closed,
    (breaker_setBreaker_self other url breaker).trans (breaker_setBreaker_self client url breaker).symm⟩

theorem AlikeAt.after_other {other next : Client} {another : Link} (alike : client.AlikeAt other url)
    (changed : client.AlikeBut next another) (apart : url ≠ another) : next.AlikeAt other url :=
  ⟨alike.options.trans changed.options.symm, alike.closed.trans changed.closed.symm,
    alike.breaker.trans (changed.breaker url apart).symm⟩

structure Shown where
  requests : List String
  pauses : List Float
  records : List Journal.Record
  answer : Except CallError Response

end Client

def Called.shown (called : Called Response) (web : Web) : Client.Shown :=
  ⟨(called.web.since web).reverse, called.pauses, called.records, called.answer⟩

namespace Client

variable {client other : Client} {here again : Surroundings} {url : Link}

theorem request_congr (here again : Surroundings) (alike : client.AlikeAt other url) {web web' : Web}
    (same : ∀ target, client.target url = .ok target → web.outcomes target = web'.outcomes target) (attempts : Nat) :
    let called := client.request web here url attempts
    let repeated := other.request web' again url attempts
    ∃ requests, called.web = web.grown requests ∧ repeated.web = web'.grown requests ∧
      repeated.pauses = called.pauses ∧ repeated.records = called.records ∧ repeated.answer = called.answer ∧
      (again.ended = here.ended → called.client.AlikeAt repeated.client url) := by
  have sameTarget : other.target url = client.target url := by
    unfold Client.target
    rw [alike.closed]
  cases attempts with
  | zero => exact ⟨[], rfl, rfl, rfl, rfl, rfl, fun _ => alike⟩
  | succ left =>
      cases isTarget : client.target url with
      | error error =>
          rw [request_of_no_target client web here url isTarget,
            request_of_no_target other web' again url (sameTarget.trans isTarget)]
          exact ⟨[], rfl, rfl, rfl, rfl, rfl, fun _ => alike⟩
      | ok target =>
          rw [request_of_target client web here url isTarget,
            request_of_target other web' again url (sameTarget.trans isTarget), alike.options, alike.breaker]
          obtain ⟨more, _, _, _, _, made, _⟩ :=
            attemptsFrom_made client.options url.text target 0 web (client.breaker url).failures left
          rw [made here.ended web _ rfl rfl, made again.ended web' _ rfl (same target isTarget).symm]
          refine ⟨List.replicate (more + 1) target.text, rfl, rfl, rfl, rfl, rfl, fun clock => ?_⟩
          rw [clock]
          exact alike.setBreaker _

/-- Two calls for a URL come to the same where the clients answer it alike and the webs bring it the same.  If its
breaker is not open, the clock may show any times: they only date the failures that the breaker hears of. -/
theorem get_agreed (names : again.resolve = here.resolve) (alike : client.AlikeAt other url)
    (timed : again.entered = here.entered ∨ (client.breaker url).openedAt = none) {web web' : Web}
    (same : ∀ target, client.target url = .ok target → web.outcomes target = web'.outcomes target) :
    let called := client.get web here url
    let repeated := other.get web' again url
    ∃ requests, called.web = web.grown requests ∧ repeated.web = web'.grown requests ∧
      repeated.pauses = called.pauses ∧ repeated.records = called.records ∧ repeated.answer = called.answer ∧
      (again.ended = here.ended → called.client.AlikeAt repeated.client url) := by
  have allows : (client.breaker url).allows client.options.limits again.entered =
      (client.breaker url).allows client.options.limits here.entered := by
    rcases timed with entered | closed
    · rw [entered]
    · unfold Breaker.allows
      rw [closed]
  have asks : (client.breaker url).asked client.options.limits again.entered =
      (client.breaker url).asked client.options.limits here.entered := by
    rcases timed with entered | closed
    · rw [entered]
    · rw [Breaker.asked_of_closed _ closed, Breaker.asked_of_closed _ closed]
  unfold get
  simp only [alike.options, alike.breaker, names, allows, asks]
  split
  · exact ⟨[], rfl, rfl, rfl, rfl, rfl, fun _ => alike⟩
  · exact ⟨[], rfl, rfl, rfl, rfl, rfl, fun _ => alike⟩
  · exact ⟨[], rfl, rfl, rfl, rfl, rfl, fun _ => alike⟩
  · have asked := alike.setBreaker ((client.breaker url).asked client.options.limits here.entered)
    generalize (client.breaker url).asked client.options.limits here.entered = breaker at asked ⊢
    have ours : (client.setBreaker url breaker).options = client.options := rfl
    have theirs : (other.setBreaker url breaker).options = client.options := alike.options
    rw [ours, theirs]
    split
    · exact ⟨[], rfl, rfl, rfl, rfl, rfl, fun _ => asked⟩
    · exact ⟨[], rfl, rfl, rfl, rfl, rfl, fun _ => asked⟩
    · cases client.options.attempts with
      | error breakdown => exact ⟨[], rfl, rfl, rfl, rfl, rfl, fun _ => asked⟩
      | ok attempts => exact request_congr here again asked same attempts

theorem get_congr (here : Surroundings) (alike : client.AlikeAt other url) {web web' : Web}
    (same : ∀ target, client.target url = .ok target → web.outcomes target = web'.outcomes target) :
    (client.get web here url).shown web = (other.get web' here url).shown web' ∧
      (client.get web here url).client.AlikeAt (other.get web' here url).client url := by
  obtain ⟨requests, first, second, pauses, records, answer, next⟩ := get_agreed rfl alike (Or.inl rfl) same
  refine ⟨?_, next rfl⟩
  simp only [Called.shown, first, second, pauses, records, answer, Web.since_grown]

end Client

def isolated : Surroundings := ⟨fun _ => .failed, fun _ _ => 1000.0⟩

end ReorgGuard.Feed
