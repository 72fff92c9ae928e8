import ReorgGuard.Proofs.Feed.Histories

/-!
Open breakers.

A breaker is asked once, before a call.  So when the failures of a URL have reached the threshold, the calls
that follow send nothing until the cooldown has passed since the latest of them.  The call in which they reach
it still makes the attempts that are left, and each of these that fails begins the cooldown anew.  When the
cooldown is over, failures count anew, and it takes a whole threshold of them to keep calls away again.
-/

namespace ReorgGuard.Feed

namespace Client

variable {client : Client} {url : Link} {threshold : Int}

theorem cooldown_over_of_asking {past : List Mark} (told : client.breaker url = .ofHistory threshold past)
    {here : Surroundings} {target : Target} {left : Nat} (asking : client.Asking here url target left) {latest : Float}
    (isOpen : openSince threshold past = some latest) :
    client.options.limits.cooldown.atMost? (.float (here.entered - latest)) = some true := by
  have lets := asking.lets
  rw [told] at lets
  exact (Breaker.allows_ofHistory_iff past here.entered).mp lets latest isOpen

end Client

/-- After any run of calls, once the failures of a URL since its last success or reset have reached the threshold, a
call for it sends a request only if, when the call comes to the breaker, the cooldown has passed since the latest of
these requests has ended; and no call sends more requests than its retries and one. -/
theorem open_breaker_keeps_calls_away {options : ClientOptions} {threshold : Int} {retries : Nat}
    (whole : options.limits.threshold = .int threshold) (positive : 1 ≤ threshold)
    (retried : options.maxRetries = .int retries) (run : List Visit) (next : Visit) :
    let client := (Client.new options).afterVisits run
    let failures := counted ((Client.new options).history threshold next.url [] run)
    let requests := (client.visit next).web.since next.web
    (threshold ≤ failures.length → requests ≠ [] →
      ∃ latest, failures.head? = some latest ∧
        options.limits.cooldown.atMost? (.float (next.here.entered - latest)) = some true) ∧
    requests.length ≤ retries + 1 := by
  intro client failures requests
  have told := Client.breaker_run whole positive run next.url
  have kept : client.options = options := Client.afterVisits_options _ run
  rcases client.get_web next.web next.here next.url with unasked | ⟨target, left, asking, more, within, asked⟩
  · have none : requests = [] :=
      (congrArg (Web.since · next.web) unasked).trans next.web.since_self
    rw [none]
    exact ⟨fun _ impossible => absurd rfl impossible, Nat.zero_le _⟩
  · have sent : requests = List.replicate (more + 1) target.text :=
      (congrArg (Web.since · next.web) asked).trans (next.web.since_grown _)
    constructor
    · intro reached _
      have isOpen : openSince threshold _ = failures.head? := if_pos reached
      obtain ⟨latest, isLatest⟩ := Option.isSome_iff_exists.mp ((openSince_isSome_iff positive _).mpr reached)
      refine ⟨latest, isOpen.symm.trans isLatest, ?_⟩
      rw [← kept]
      exact Client.cooldown_over_of_asking told asking isLatest
    · have fit := asking.attempts
      rw [kept, ClientOptions.attempts, retried] at fit
      have isLeft : left = retries := by
        have := Except.ok.inj fit
        omega
      rw [sent, List.length_replicate, ← isLeft]
      exact Nat.succ_le_succ within

def eager : ClientOptions := ⟨.int 2, .float 8.0, ⟨.int 2, .float 30.0⟩, true⟩

/-- The third request of the call fails a second after the second one, with which the breaker has opened: from then
on the cooldown counts. -/
theorem open_breaker_asks_again_after_the_cooldown :
    eager.limits.threshold = .int 2 ∧ (1 : Int) ≤ 2 ∧ eager.maxRetries = .int 2 ∧
      let client := (Client.new eager).afterVisits [deadAt 1000.0]
      let failures := counted ((Client.new eager).history 2 deadMirror [] [deadAt 1000.0])
      let requests (next : Visit) := (client.visit next).web.since next.web
      failures = [1003.0, 1002.0, 1001.0] ∧ requests (deadAt 1032.5) = [] ∧ (requests (deadAt 1033.0)).length = 3 ∧
        ∃ latest, failures.head? = some latest ∧
          (Value.float 30.0).atMost? (.float ((deadAt 1033.0).here.entered - latest)) = some true := by
  have whole : eager.limits.threshold = .int 2 := rfl
  have retried : eager.maxRetries = .int 2 := rfl
  refine ⟨whole, by decide, retried, ?_⟩
  intro client failures requests
  have times : failures = [1003.0, 1002.0, 1001.0] := by decide +kernel
  have reached : (2 : Int) ≤ failures.length := by
    rw [times]
    decide
  have keeps (next : Visit) := open_breaker_keeps_calls_away whole (by decide) retried [deadAt 1000.0] next
  have early : requests (deadAt 1032.5) = [] := by
    by_contra sent
    obtain ⟨latest, isLatest, cooled⟩ := (keeps (deadAt 1032.5)).1 reached sent
    cases (congrArg List.head? times).symm.trans isLatest
    exact absurd cooled (by decide +kernel)
  have asks : (requests (deadAt 1033.0)).length = 3 := by decide +kernel
  have rested := (keeps (deadAt 1033.0)).1 reached
  exact ⟨times, early, asks, rested (List.ne_nil_of_length_pos (by rw [asks]; decide))⟩

/-! ### Requests that follow failures at once -/

/-- The requests for a URL in a run: when each had ended, and whether that was a passing failure. -/
def Client.sent (url : Link) : Client → List Visit → List (Float × Bool)
  | _, [] => []
  | client, visit :: later =>
      let called := client.visit visit
      let endings := if visit.url = url then called.endings visit.here.ended visit.web url else []
      endings.map (fun ending => (ending.time, mayPass ending.outcome)) ++ called.client.sent url later

/-- Whether after so many passing failures in a row no request has ended before the cooldown has passed since the
latest of them; one that has, had gone out still earlier. -/
def Rests (threshold : Nat) (cooldown : Value) (sent : List (Float × Bool)) : Prop :=
  ∀ before failures latest between next after,
    sent = before ++ failures ++ (latest, true) :: between ++ next :: after →
      failures.length + 1 = threshold → (∀ failure ∈ failures, failure.2 = true) →
        cooldown.atMost? (.float (next.1 - latest)) = some true

def oneStrike : ClientOptions := ⟨.int 1, .float 8.0, ⟨.int 1, .float 30.0⟩, true⟩

/-- A call goes on with its retries when the failures have reached the threshold.  And a run of failures that goes
on over a cooldown does not keep calls away: the breaker counts anew. -/
theorem requests_can_follow_failures_at_once :
    (oneStrike.limits = ⟨.int 1, .float 30.0⟩ ∧
      ¬Rests 1 (.float 30.0) ((Client.new oneStrike).sent deadMirror [deadAt 1000.0])) ∧
    (twoStrikes.limits = ⟨.int 2, .float 30.0⟩ ∧
      ¬Rests 2 (.float 30.0) ((Client.new twoStrikes).sent deadMirror
        [deadAt 1000.0, deadAt 1001.0, deadAt 1032.0, deadAt 1033.0])) := by
  have early : (Value.float 30.0).atMost? (.float (1002.0 - 1001.0)) ≠ some true := by decide +kernel
  have early' : (Value.float 30.0).atMost? (.float (1034.0 - 1033.0)) ≠ some true := by decide +kernel
  refine ⟨⟨rfl, fun rests => early ?_⟩, ⟨rfl, fun rests => early' ?_⟩⟩
  · have sent : (Client.new oneStrike).sent deadMirror [deadAt 1000.0] =
        [(1001.0, true), (1002.0, true)] := by decide +kernel
    exact rests [] [] 1001.0 [] (1002.0, true) [] sent rfl nofun
  · have sent : (Client.new twoStrikes).sent deadMirror
        [deadAt 1000.0, deadAt 1001.0, deadAt 1032.0, deadAt 1033.0] =
          [(1001.0, true), (1002.0, true), (1033.0, true), (1034.0, true)] := by decide +kernel
    exact rests [(1001.0, true)] [(1002.0, true)] 1033.0 [] (1034.0, true) [] sent rfl (by simp)

end ReorgGuard.Feed
