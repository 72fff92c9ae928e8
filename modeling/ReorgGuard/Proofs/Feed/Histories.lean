import ReorgGuard.Proofs.Feed.Calls

/-!
Breakers over a run of calls.

A run is any sequence of calls, for any URLs and on whatever web, and the clock may show anything in each of
them: when the call comes to its breaker, and when each of its requests has ended.  The history of a URL tells
what its requests ended in and when a cooldown was over; nothing else goes into its breaker.  So what the
calls for one URL show does not depend on the calls for others.
-/

namespace ReorgGuard.Feed

/-! ### Histories -/

inductive Mark where
  | failure (time : Float)
  | success
  | other
  /-- A call came when the cooldown was over. -/
  | reset

def Mark.ofEnding : Ending → Mark
  | ⟨_, .ok _⟩ => success
  | ⟨time, .error error⟩ => if mayPass (.error error) then failure time else other

/-- The times of the failures since the last success or reset, latest first like the history itself. -/
def counted : List Mark → List Float
  | [] => []
  | .failure time :: earlier => time :: counted earlier
  | .other :: earlier => counted earlier
  | .success :: _ => []
  | .reset :: _ => []

/-- The time of the latest failure counted, once the failures have reached a threshold. -/
def openSince (threshold : Int) (history : List Mark) : Option Float :=
  if threshold ≤ (counted history).length then (counted history).head? else none

def cooledDown (threshold : Int) (cooldown : Value) (history : List Mark) (now : Float) : Bool :=
  (openSince threshold history).any fun latest => cooldown.atMost? (.float (now - latest)) == some true

theorem openSince_isSome_iff {threshold : Int} (positive : 1 ≤ threshold) (history : List Mark) :
    (openSince threshold history).isSome = true ↔ threshold ≤ (counted history).length := by
  unfold openSince
  split
  · rename_i reached
    have counts : counted history ≠ [] := by
      intro none
      rw [none, List.length_nil] at reached
      omega
    exact ⟨fun _ => reached, fun _ => List.isSome_head?.mpr counts⟩
  · rename_i below
    exact ⟨nofun, fun reached => absurd reached below⟩

/-- The breaker that a history tells of. -/
def Breaker.ofHistory (threshold : Int) (history : List Mark) : Breaker :=
  ⟨(counted history).length, openSince threshold history⟩

namespace Breaker

variable {limits : BreakerLimits} {threshold : Int}

theorem ofHistory_of_cleared (positive : 1 ≤ threshold) {history : List Mark} (cleared : counted history = []) :
    ofHistory threshold history = .closed := by
  have below : ¬threshold ≤ ((([] : List Float).length : Nat) : Int) := by
    rw [List.length_nil]
    omega
  rw [ofHistory, openSince, cleared, if_neg below]
  rfl

theorem ofHistory_of_failure (history : List Mark) (now : Float) :
    ofHistory threshold (.failure now :: history) =
      (ofHistory threshold history).afterFailures threshold (fun _ => now) 1 := by
  by_cases reached : threshold ≤ ((counted history).length : Int) + (1 : Nat)
  · rw [afterFailures_of_reached Nat.one_pos reached, ofHistory, openSince, counted, List.length_cons,
      List.head?_cons, if_pos (by omega)]
    rfl
  · have before : ¬threshold ≤ ((counted history).length : Int) := by omega
    rw [afterFailures_of_below reached, ofHistory, openSince, counted, List.length_cons, if_neg (by omega),
      ofHistory, openSince, if_neg before]

theorem heard_ofHistory (whole : limits.threshold = .int threshold) (positive : 1 ≤ threshold)
    (history : List Mark) (ending : Ending) :
    (ofHistory threshold history).heard limits ending = ofHistory threshold (.ofEnding ending :: history) := by
  obtain ⟨time, response | error⟩ := ending
  · cases passes : mayPass (.error response) with
    | true =>
        rw [heard_of_passing limits _ passes, failed_of_whole whole, Mark.ofEnding, if_pos passes,
          ofHistory_of_failure]
    | false =>
        rw [heard_of_final_error limits _ _ passes, Mark.ofEnding, passes]
        rfl
  · exact (ofHistory_of_cleared positive rfl).symm

theorem foldl_heard_ofHistory (whole : limits.threshold = .int threshold) (positive : 1 ≤ threshold)
    (history : List Mark) (endings : List Ending) :
    endings.foldl (heard limits) (ofHistory threshold history) =
      ofHistory threshold ((endings.map .ofEnding).reverse ++ history) := by
  induction endings generalizing history with
  | nil => rfl
  | cons ending rest ih =>
      rw [List.foldl_cons, heard_ofHistory whole positive, ih, List.map_cons, List.reverse_cons, List.append_assoc]
      rfl

theorem compared_eq_ok_true_iff (a b : Value) : compared a b = .ok true ↔ a.atMost? b = some true := by
  unfold compared
  cases a.atMost? b with
  | none => exact ⟨nofun, nofun⟩
  | some atMost => simp

theorem allows_ofHistory_iff (history : List Mark) (now : Float) :
    (ofHistory threshold history).allows limits now = .ok true ↔
      ∀ latest, openSince threshold history = some latest →
        limits.cooldown.atMost? (.float (now - latest)) = some true := by
  have openedAt : (ofHistory threshold history).openedAt = openSince threshold history := rfl
  rw [allows, openedAt]
  cases openSince threshold history with
  | none => exact ⟨fun _ => nofun, fun _ => rfl⟩
  | some latest =>
      rw [compared_eq_ok_true_iff]
      exact ⟨fun cooled _ same => Option.some.inj same ▸ cooled, fun cooled => cooled latest rfl⟩

theorem asked_ofHistory (positive : 1 ≤ threshold) (history : List Mark) (now : Float) :
    (ofHistory threshold history).asked limits now =
      ofHistory threshold
        (if cooledDown threshold limits.cooldown history now then .reset :: history else history) := by
  have openedAt : (ofHistory threshold history).openedAt = openSince threshold history := rfl
  cases isOpen : openSince threshold history with
  | none =>
      rw [asked_of_closed now (openedAt.trans isOpen), cooledDown, isOpen]
      rfl
  | some latest =>
      have lets : (ofHistory threshold history).allows limits now = .ok true ↔ _ :=
        allows_ofHistory_iff history now
      simp only [isOpen, Option.some.injEq, forall_eq'] at lets
      simp only [cooledDown, isOpen, Option.any_some, beq_iff_eq]
      split
      · rename_i cooled
        have cleared : counted (.reset :: history) = [] := rfl
        rw [ofHistory_of_cleared positive cleared, asked, lets.mpr cooled, openedAt, isOpen]
      · rename_i warm
        exact asked_of_kept_away fun allowed => warm (lets.mp allowed)

end Breaker

/-! ### Runs -/

/-- A call for a URL, its times and the web that it meets, whatever that brings. -/
structure Visit where
  url : Link
  here : Surroundings
  web : Web

namespace Client

def visit (client : Client) (visit : Visit) : Called Response :=
  client.get visit.web visit.here visit.url

def afterVisits (client : Client) (visits : List Visit) : Client :=
  visits.foldl (fun client visit => (client.visit visit).client) client

def transcript (client : Client) : List Visit → List (Link × Shown)
  | [] => []
  | visit :: later =>
      let called := client.visit visit
      (visit.url, called.shown visit.web) :: called.client.transcript later

/-- The history of a URL after a call for it: the cooldown may be over when the call comes, and then each
request ends in something. -/
def marked (client : Client) (threshold : Int) (visit : Visit) (past : List Mark) : List Mark :=
  let cooled := cooledDown threshold client.options.limits.cooldown past visit.here.entered
  let endings := (client.visit visit).endings visit.here.ended visit.web visit.url
  (endings.map .ofEnding).reverse ++ if client.admits visit.here visit.url && cooled then .reset :: past else past

def history (threshold : Int) (url : Link) : Client → List Mark → List Visit → List Mark
  | _, past, [] => past
  | client, past, visit :: later =>
      history threshold url (client.visit visit).client
        (if visit.url = url then client.marked threshold visit past else past) later

variable {client other : Client} {threshold : Int} {url : Link}

theorem visit_options (client : Client) (visit : Visit) :
    (client.visit visit).client.options = client.options :=
  (client.get_alikeBut visit.web visit.here visit.url).options

theorem afterVisits_options (client : Client) (visits : List Visit) :
    (client.afterVisits visits).options = client.options := by
  induction visits generalizing client with
  | nil => rfl
  | cons visit later ih => exact (ih (client.visit visit).client).trans (client.visit_options visit)

/-- One call keeps each breaker with its history. -/
theorem breaker_visit (whole : client.options.limits.threshold = .int threshold) (positive : 1 ≤ threshold)
    (visit : Visit) {past : List Mark} (told : client.breaker url = .ofHistory threshold past) :
    (client.visit visit).client.breaker url =
      .ofHistory threshold (if visit.url = url then client.marked threshold visit past else past) := by
  split
  · rename_i own
    subst own
    have heard := client.get_heard visit.web visit.here visit.url
    refine heard.trans ?_
    rw [askedBreaker, told, Breaker.asked_ofHistory positive]
    cases admits : client.admits visit.here visit.url with
    | false =>
        rw [if_neg Bool.false_ne_true, Breaker.foldl_heard_ofHistory whole positive, marked, admits]
        rfl
    | true =>
        rw [if_pos rfl, Breaker.foldl_heard_ofHistory whole positive, marked, admits, Bool.true_and]
        rfl
  · rename_i apart
    exact ((client.get_alikeBut visit.web visit.here visit.url).breaker url (Ne.symm apart)).trans told

theorem breaker_afterVisits (whole : client.options.limits.threshold = .int threshold) (positive : 1 ≤ threshold)
    {past : List Mark} (told : client.breaker url = .ofHistory threshold past) (visits : List Visit) :
    (client.afterVisits visits).breaker url =
      .ofHistory threshold (client.history threshold url past visits) := by
  induction visits generalizing client past with
  | nil => exact told
  | cons visit later ih =>
      exact ih ((congrArg (·.limits.threshold) (client.visit_options visit)).trans whole)
        (breaker_visit whole positive visit told)

theorem breaker_run {options : ClientOptions} (whole : options.limits.threshold = .int threshold)
    (positive : 1 ≤ threshold) (visits : List Visit) (url : Link) :
    ((Client.new options).afterVisits visits).breaker url =
      .ofHistory threshold ((Client.new options).history threshold url [] visits) := by
  have untold : (Client.new options).breaker url = .ofHistory threshold [] :=
    (Breaker.ofHistory_of_cleared positive rfl).symm
  exact breaker_afterVisits whole positive untold visits

/-! ### Isolation -/

/-- What the calls for a URL show is what they show in the run without all the others. -/
theorem transcript_filter (alike : client.AlikeAt other url) (visits : List Visit) :
    (client.transcript visits).filter (·.1 = url) = other.transcript (visits.filter (·.url = url)) := by
  induction visits generalizing client other with
  | nil => rfl
  | cons visit later ih =>
      rw [transcript, List.filter_cons, List.filter_cons]
      by_cases own : visit.url = url
      · subst own
        have same (target : Target) (_ : client.target visit.url = .ok target) :
            visit.web.outcomes target = visit.web.outcomes target := rfl
        obtain ⟨shown, next⟩ := get_congr visit.here alike same
        rw [if_pos (decide_eq_true rfl), if_pos (decide_eq_true rfl), transcript]
        exact congrArg₂ List.cons (congrArg (visit.url, ·) shown) (ih next)
      · rw [if_neg (by simpa using own), if_neg (by simpa using own)]
        exact ih (alike.after_other (client.get_alikeBut visit.web visit.here visit.url) (Ne.symm own))

end Client

/-! ### Runs on one web -/

structure Call where
  url : Link
  here : Surroundings

namespace Client

/-- A run of calls on one web: each call meets what those before have left. -/
def met : Client → Web → List Call → List Visit
  | _, _, [] => []
  | client, web, call :: later =>
      let called := client.get web call.here call.url
      ⟨call.url, call.here, web⟩ :: called.client.met called.web later

theorem transcript_met_filter {client other : Client} {url : Link} (alike : client.AlikeAt other url)
    {web web' : Web} (same : ∀ target, targetOf url = .ok target → web.outcomes target = web'.outcomes target)
    (calls : List Call)
    (apart : ∀ call ∈ calls, call.url ≠ url → Apart call.url url) :
    (client.transcript (client.met web calls)).filter (·.1 = url) =
      other.transcript (other.met web' (calls.filter (·.url = url))) := by
  induction calls generalizing client other web web' with
  | nil => rfl
  | cons call later ih =>
      have apartLater := fun next within => apart next (List.mem_cons_of_mem call within)
      rw [met, transcript, List.filter_cons, List.filter_cons]
      by_cases own : call.url = url
      · subst own
        obtain ⟨requests, grown, grown', _, _, _, next⟩ :=
          get_agreed rfl alike (Or.inl rfl) fun target isTarget => same target (targetOf_of_target isTarget)
        have shown := (get_congr call.here alike fun target isTarget =>
          same target (targetOf_of_target isTarget)).1
        have sameNext (target : Target) (isTarget : targetOf call.url = .ok target) :
            (client.get web call.here call.url).web.outcomes target =
              (other.get web' call.here call.url).web.outcomes target := by
          funext i
          rw [grown, grown', Web.outcomes_grown, Web.outcomes_grown, same target isTarget]
        rw [if_pos (decide_eq_true rfl), if_pos (decide_eq_true rfl), met, transcript]
        exact congrArg₂ List.cons (congrArg (call.url, ·) shown) (ih (next rfl) sameNext apartLater)
      · have next := alike.after_other (client.get_alikeBut web call.here call.url) (Ne.symm own)
        have sameNext (target : Target) (isTarget : targetOf url = .ok target) :
            (client.get web call.here call.url).web.outcomes target = web'.outcomes target := by
          rcases client.get_web web call.here call.url with unasked | ⟨another, _, asking, more, _, asked⟩
          · rw [unasked, same target isTarget]
          · rw [asked, Web.outcomes_after_of_ne web
              (apart call List.mem_cons_self own another target asking.isTarget isTarget), same target isTarget]
        rw [if_neg (by simpa using own), if_neg (by simpa using own)]
        exact ih next sameNext apartLater

end Client

/-- After any run of calls, at any times and whatever their requests end in, the breaker of each URL is open
exactly if its failures have reached the threshold, and these are the failures since the last success or reset in
the history of the URL.  And what the calls for the URL show is what they show in the run without all the others,
when each call meets the same web as before or when the others lead to other targets of one web. -/
theorem breakers_consistent_and_isolated {options : ClientOptions} {threshold : Int}
    (whole : options.limits.threshold = .int threshold) (positive : 1 ≤ threshold) (visits : List Visit)
    (url : Link) :
    let client := Client.new options
    let breaker := (client.afterVisits visits).breaker url
    (breaker.openedAt.isSome = true ↔ threshold ≤ breaker.failures) ∧
    breaker.failures = (counted (client.history threshold url [] visits)).length ∧
    (client.transcript visits).filter (·.1 = url) = client.transcript (visits.filter (·.url = url)) ∧
    ∀ (web : Web) (calls : List Call),
      (∀ call ∈ calls, call.url ≠ url → Apart call.url url) →
      (client.transcript (client.met web calls)).filter (·.1 = url) =
        client.transcript (client.met web (calls.filter (·.url = url))) := by
  intro client breaker
  have told : breaker = .ofHistory threshold (client.history threshold url [] visits) :=
    Client.breaker_run whole positive visits url
  rw [told]
  have alike := Client.AlikeAt.refl client url
  exact ⟨openSince_isSome_iff positive _, rfl, Client.transcript_filter alike visits,
    fun web calls apart => Client.transcript_met_filter alike (fun _ _ => rfl) calls apart⟩

def twoStrikes : ClientOptions := ⟨.int 0, .float 8.0, ⟨.int 2, .float 30.0⟩, true⟩

/-- A second passes between each two readings of the clock. -/
def ticking (time : Float) : Surroundings :=
  ⟨fun _ => .failed, fun _ reading => time + Float.ofNat reading⟩

def deadMirror : Link := "http://dead.example/"

def deadAt (time : Float) : Visit :=
  ⟨deadMirror, ticking time, ⟨fun _ _ => .noRoute, []⟩⟩

def liveAt (time : Float) : Visit :=
  ⟨"http://live.example/", ticking time, ⟨fun _ _ => .delivery ⟨200, [], []⟩, []⟩⟩

def alternating : List Visit :=
  [deadAt 1000.0, liveAt 1001.0, deadAt 1002.0, liveAt 1003.0, deadAt 1004.0, liveAt 1005.0]

theorem dead_mirror_opens_its_own_breaker :
    twoStrikes.limits.threshold = .int 2 ∧ (1 : Int) ≤ 2 ∧
      let client := Client.new twoStrikes
      let breaker := (client.afterVisits alternating).breaker deadMirror
      breaker.failures = 2 ∧ breaker.openedAt.isSome = true ∧
        (client.transcript alternating).filter (·.1 = deadMirror) =
          client.transcript (alternating.filter (·.url = deadMirror)) := by
  have whole : twoStrikes.limits.threshold = .int 2 := rfl
  refine ⟨whole, by decide, ?_⟩
  intro client breaker
  obtain ⟨opens, failures, alone, _⟩ :=
    breakers_consistent_and_isolated whole (by decide) alternating deadMirror
  have twice : (counted (client.history 2 deadMirror [] alternating)).length = 2 := by decide +kernel
  have counts : breaker.failures = 2 := failures.trans twice
  exact ⟨counts, opens.mpr (by rw [counts]; decide), alone⟩

end ReorgGuard.Feed
