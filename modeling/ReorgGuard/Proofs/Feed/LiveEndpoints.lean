import ReorgGuard.Proofs.Feed.Histories
import ReorgGuard.Proofs.Source.Pooling

/-!
What live endpoints bring together.

An endpoint is live if the call for it ends in a success that holds a list within the limits of the feed.  For
a client that has not been used each of several distinct URLs is called as if it were the only one, so what it
brings depends on the replies to it only, not on its place among the others nor on the clock; and its place is
the place of its records.
-/

namespace ReorgGuard.Feed

open ReorgGuard.Checkpoint

/-! ### Live endpoints -/

def Settings.list? (settings : Settings) (content : List UInt8) : Option (List Value) :=
  if content.length ≤ settings.maxBytes then
    match (Text.ofDocument? content).bind fun text => (Json.read .message text).toOption with
    | some (.list items) => if items.length ≤ settings.maxRecords then some items else none
    | _ => none
  else none

/-- The list that a live URL brings to a client; a URL that is not live brings none. -/
def Client.list? (client : Client) (settings : Settings) (web : Web) (here : Surroundings) (url : Link) :
    Option (List Value) :=
  if client.admits here url then
    match (client.get web here url).answer with
    | .ok response => if response.isSuccess then settings.list? response.content else none
    | .error _ => none
  else none

theorem Settings.document_toOption (settings : Settings) (content : List UInt8) :
    (settings.expectation.document content).toOption = (settings.list? content).map .list := by
  unfold Expectation.document Settings.list?
  simp only [Settings.expectation, Value.asWhole, Except.mapError, bind, Except.bind]
  by_cases fits : content.length ≤ settings.maxBytes
  · rw [if_neg (Int.not_lt.mpr fits), if_pos fits]
    cases Text.ofDocument? content with
    | none => rfl
    | some text =>
        simp only [Option.bind_some]
        cases Json.read .message text with
        | error fault => cases fault <;> rfl
        | ok value =>
            cases value with
            | list items =>
                simp only [Except.toOption]
                by_cases few : items.length ≤ settings.maxRecords
                · simp [Shape.fits, few, Int.not_lt.mpr few]
                · simp [Shape.fits, few, Int.not_le.mp few]
            | _ => rfl
  · rw [if_pos (Int.not_le.mp fits), if_neg fits]
    rfl

theorem Delivery.outcome_success {target : Target} {delivery : Delivery} {response : Response}
    (success : delivery.outcome target = .ok response) : response.isSuccess = true := by
  unfold Delivery.outcome at success
  cases received : delivery.receive with
  | error fault =>
      rw [received] at success
      cases success
  | ok response =>
      simp only [received, Except.mapError, bind, Except.bind] at success
      split at success
      · cases success
      · split at success
        · cases success
        · split at success
          · cases success
            assumption
          · cases success

theorem Web.outcomes_success {web : Web} {target : Target} {i : Nat} {response : Response}
    (success : web.outcomes target i = .ok response) : response.isSuccess = true := by
  unfold Web.outcomes at success
  cases reply : web.reply target.text (web.asked.count target.text + i) with
  | delivery delivery =>
      rw [reply] at success
      exact Delivery.outcome_success success
  | failure failure =>
      rw [reply] at success
      cases success
  | broken breakdown =>
      rw [reply] at success
      cases success

theorem Client.getDocument_toOption (client : Client) (settings : Settings) (web : Web) (here : Surroundings)
    (url : Link) :
    (client.getDocument web here settings.expectation url).answer.toOption =
      (client.list? settings web here url).map .list := by
  have document : (client.getDocument web here settings.expectation url).answer =
      (client.get web here url).answer.bind fun response => settings.expectation.document response.content := rfl
  rw [document, list?]
  cases answer : (client.get web here url).answer with
  | error error =>
      simp only [ite_self]
      rfl
  | ok response =>
      obtain ⟨admits, target, i, ended⟩ := get_success web answer
      have success := Web.outcomes_success ended
      rw [if_pos admits]
      simp only [success, if_true]
      exact settings.document_toOption response.content

/-! ### The replies to each URL -/

def calls (here : Surroundings) : List Link → List Call
  | [] => []
  | url :: rest => ⟨url, here⟩ :: calls here.later rest

namespace Client

/-- Whether a client that calls URLs one after the other on a web meets, for each, the replies that a script has
for it. -/
def Meets (client : Client) (web : Web) (here : Surroundings) (urls : List Link) (script : Link → Web) : Prop :=
  ∀ visit ∈ client.met web (calls here urls), ∀ target, targetOf visit.url = .ok target →
    visit.web.outcomes target = (script visit.url).outcomes target

variable {client : Client} {web : Web} {here : Surroundings} {url : Link} {rest : List Link}
  {script : Link → Web}

theorem meets_cons_iff :
    client.Meets web here (url :: rest) script ↔
      (∀ target, targetOf url = .ok target → web.outcomes target = (script url).outcomes target) ∧
        (client.get web here url).client.Meets (client.get web here url).web here.later rest script :=
  List.forall_mem_cons

theorem Meets.congr {other : Link → Web} {urls : List Link} (meets : client.Meets web here urls script)
    (same : ∀ url ∈ urls, other url = script url) : client.Meets web here urls other := by
  induction urls generalizing client web here with
  | nil => exact nofun
  | cons url rest ih =>
      obtain ⟨first, later⟩ := meets_cons_iff.mp meets
      refine meets_cons_iff.mpr ⟨?_, ih later fun next within => same next (List.mem_cons_of_mem url within)⟩
      rw [same url List.mem_cons_self]
      exact first

/-- Distinct URLs meet the replies of some script, whatever the web is. -/
theorem exists_script (client : Client) (web : Web) (here : Surroundings) {urls : List Link}
    (distinct : urls.Nodup) : ∃ script, client.Meets web here urls script := by
  induction urls generalizing client web here with
  | nil => exact ⟨fun _ => web, nofun⟩
  | cons url rest ih =>
      obtain ⟨fresh, distinct⟩ := List.nodup_cons.mp distinct
      obtain ⟨script, later⟩ := ih (client.get web here url).client (client.get web here url).web here.later distinct
      refine ⟨fun next => if next = url then web else script next, meets_cons_iff.mpr ⟨fun target _ => ?_, ?_⟩⟩
      · rw [if_pos rfl]
      · refine later.congr fun next within => if_neg fun same => fresh ?_
        rw [← same]
        exact within

theorem meets_of_apart (client : Client) {web before : Web} {urls : List Link}
    (apart : urls.Pairwise Apart)
    (same : ∀ url ∈ urls, ∀ target, targetOf url = .ok target → before.outcomes target = web.outcomes target) :
    client.Meets before here urls fun _ => web := by
  induction urls generalizing client before here with
  | nil => exact nofun
  | cons url rest ih =>
      obtain ⟨others, apart⟩ := List.pairwise_cons.mp apart
      refine meets_cons_iff.mpr ⟨same url List.mem_cons_self, ih _ apart fun next within target isTarget => ?_⟩
      have untouched := same next (List.mem_cons_of_mem url within) target isTarget
      rcases client.get_web before here url with unasked | ⟨own, _, asking, more, _, asked⟩
      · rw [unasked, untouched]
      · rw [asked, Web.outcomes_after_of_ne before (others next within own target asking.isTarget isTarget),
          untouched]

end Client

/-- A client that has not been used yet answers for each of several distinct URLs as if it were the only one. -/
theorem answers_eq_map (settings : Settings) {here current : Surroundings} (names : here.resolve = current.resolve)
    {fresh client : Client} (closed : ∀ url, (fresh.breaker url).openedAt = none) {web : Web} {urls : List Link}
    (distinct : urls.Nodup) (unused : ∀ url ∈ urls, client.AlikeAt fresh url)
    {script : Link → Web} (meets : client.Meets web current urls script) :
    answers settings current client web urls =
      urls.map fun url => (fresh.getDocument (script url) here settings.expectation url).answer := by
  induction urls generalizing client web current with
  | nil => rfl
  | cons url rest ih =>
      obtain ⟨new, distinct⟩ := List.nodup_cons.mp distinct
      obtain ⟨first, later⟩ := Client.meets_cons_iff.mp meets
      have alike := unused url List.mem_cons_self
      have isClosed : (client.breaker url).openedAt = none := by
        rw [← alike.breaker]
        exact closed url
      obtain ⟨_, _, _, _, _, answer, _⟩ := Client.get_agreed names alike (Or.inr isClosed)
        fun target isTarget => first target (Client.targetOf_of_target isTarget)
      have stillUnused (next : Link) (within : next ∈ rest) :
          (client.get web current url).client.AlikeAt fresh next :=
        (unused next (List.mem_cons_of_mem url within)).after_other (client.get_alikeBut web current url)
          fun same => new (same ▸ within)
      have namesLater : here.resolve = current.later.resolve := names
      rw [answers, List.map_cons]
      refine congrArg₂ List.cons ?_ (ih namesLater distinct stillUnused later)
      exact congrArg (·.bind fun response => settings.expectation.document response.content) answer.symm

/-! ### Pooling -/

theorem brought_eq (answer : Except CallError Value) : brought answer = answer.toOption.elim [] textItems := by
  cases answer <;> rfl

theorem failed_eq (answer : Except CallError Value) : failed answer = answer.toOption.isNone := by
  cases answer <;> rfl

def poolOf (network : Network) (list? : Link → Option (List Value)) (urls : List Link) :
    Except FeedError (List String) :=
  if urls ≠ [] ∧ ∀ url ∈ urls, list? url = none then
    .error (.unreachable s!"all {urls.length} checkpoint feed url(s) failed for {network.name}")
  else .ok (urls.flatMap fun url => (list? url).elim [] fun items => textItems (.list items))

theorem fetchEndpoints_of_lists {settings : Settings} {here : Surroundings} {client : Client} {web : Web}
    {network : Network} {answer : Link → Except CallError Value} {list? : Link → Option (List Value)}
    (answered : answers settings here client web (settings.urlsFor network) =
      (settings.urlsFor network).map answer)
    (brings : ∀ url, (answer url).toOption = (list? url).map .list)
    (tolerated : ∀ url ∈ settings.urlsFor network, ∀ error, answer url = .error error → error.isTolerated = true) :
    (fetchEndpoints settings here client web network).answer =
      poolOf network list? (settings.urlsFor network) := by
  have fetched := fetchEndpoints_answer settings here client web network
  rw [answered] at fetched
  generalize settings.urlsFor network = urls at fetched tolerated ⊢
  have escapes : (urls.map answer).findSome? escaping? = none := by
    refine List.findSome?_eq_none_iff.mpr fun ended member => ?_
    obtain ⟨url, within, rfl⟩ := List.mem_map.mp member
    refine Option.eq_none_iff_forall_ne_some.mpr fun error isEscaping => ?_
    obtain ⟨isError, untolerated⟩ := (escaping?_eq_some_iff _ error).mp isEscaping
    rw [tolerated url within error isError] at untolerated
    cases untolerated
  have allFailed : (urls.map answer).countP failed = urls.length ↔ ∀ url ∈ urls, list? url = none := by
    rw [List.countP_map]
    refine List.countP_eq_length.trans (forall₂_congr fun url _ => ?_)
    rw [Function.comp_apply, failed_eq, brings, Option.isNone_map, Option.isNone_iff_eq_none]
  have pooled : (urls.map answer).flatMap brought =
      urls.flatMap fun url => (list? url).elim [] fun items => textItems (.list items) := by
    rw [List.flatMap_map]
    refine List.flatMap_congr fun url _ => ?_
    rw [brought_eq, brings, Option.elim_map]
    rfl
  simp only [escapes, pooled, List.length_map, ne_eq, List.map_eq_nil_iff, allFailed] at fetched
  rw [fetched, poolOf]
  split
  · rename_i dead
    rw [allFailed.mpr dead.2]
  · rfl

theorem fetchEndpoints_of_script (settings : Settings) {options : ClientOptions} {here : Surroundings} {web : Web}
    {network : Network} (distinct : (settings.urlsFor network).Nodup) {script : Link → Web}
    (meets : (Client.new options).Meets web here (settings.urlsFor network) script)
    (tolerated : ∀ url ∈ settings.urlsFor network, ∀ error,
      ((Client.new options).getDocument (script url) here settings.expectation url).answer = .error error →
        error.isTolerated = true) :
    (fetchEndpoints settings here (Client.new options) web network).answer =
      poolOf network (fun url => (Client.new options).list? settings (script url) here url)
        (settings.urlsFor network) :=
  fetchEndpoints_of_lists
    (answers_eq_map settings rfl (fun _ => rfl) distinct
      (fun url _ => Client.AlikeAt.refl (Client.new options) url) meets)
    (fun url => (Client.new options).getDocument_toOption settings (script url) here url) tolerated

def Settings.withUrls (settings : Settings) (network : Network) (urls : List Link) : Settings :=
  { settings with urls := [(network, urls)] }

theorem Settings.urlsFor_withUrls (settings : Settings) (network : Network) (urls : List Link) :
    (settings.withUrls network urls).urlsFor network = urls := by
  cases network <;> rfl

/-- A feed with a client that has not been used pools what its distinct URLs bring, each by its own script of
replies: the lists of the live ones in the order of the URLs, or an error if there are URLs and none is live.  With
the same scripts, the URLs in another order bring the same in that order.  Whatever the web is, it has a script for
each URL; and where the URLs lead to different targets, it is a script for all orders itself. -/
theorem feed_pools_live_endpoints (settings : Settings) (options : ClientOptions) (here : Surroundings) (web : Web)
    (network : Network) (distinct : (settings.urlsFor network).Nodup) :
    let client := Client.new options
    let urls := settings.urlsFor network
    (∃ script, client.Meets web here urls script) ∧
    (∀ script, client.Meets web here urls script →
      (∀ url ∈ urls, ∀ error,
        (client.getDocument (script url) here settings.expectation url).answer = .error error →
          error.isTolerated = true) →
      let pooled := poolOf network fun url => client.list? settings (script url) here url
      (fetchEndpoints settings here client web network).answer = pooled urls ∧
        ∀ reordered : List Link, reordered.Perm urls →
          ∀ another, client.Meets another here reordered script →
            (fetchEndpoints (settings.withUrls network reordered) here client another network).answer =
              pooled reordered) ∧
    (urls.Pairwise Apart →
      ∀ reordered : List Link, reordered.Perm urls → client.Meets web here reordered fun _ => web) := by
  intro client urls
  refine ⟨client.exists_script web here distinct, fun script meets tolerated => ?_, fun apart reordered same => ?_⟩
  · refine ⟨fetchEndpoints_of_script settings distinct meets tolerated, fun reordered same another meets => ?_⟩
    have isUrls := settings.urlsFor_withUrls network reordered
    have pooled := fetchEndpoints_of_script (settings.withUrls network reordered)
      (isUrls.symm ▸ same.nodup_iff.mpr distinct) (isUrls.symm ▸ meets)
      fun url within => tolerated url (same.mem_iff.mp (isUrls ▸ within))
    rw [isUrls] at pooled
    exact pooled
  · have reorderedApart : reordered.Pairwise Apart :=
      (same.pairwise_iff fun apart => apart.symm).mpr apart
    exact client.meets_of_apart reorderedApart fun _ _ _ _ => rfl

def twoEndpoints : Settings :=
  { Settings.default with urls := [(.mainnet, ["ftp://dead.example/", "http://live.example/"])] }

def uniform : Web := ⟨fun _ _ => .delivery ⟨200, [], "[\"1:aa\", 7]".toUTF8.toList⟩, []⟩

theorem dead_endpoint_is_passed_over :
    (twoEndpoints.urlsFor .mainnet).Nodup ∧
      (fetchEndpoints twoEndpoints isolated (Client.new twoStrikes) uniform .mainnet).answer.toOption =
        some ["1:aa"] := by
  have distinct : (twoEndpoints.urlsFor .mainnet).Nodup := by decide
  have meets : (Client.new twoStrikes).Meets uniform isolated (twoEndpoints.urlsFor .mainnet) fun _ => uniform := by
    refine Client.meets_cons_iff.mpr ⟨fun _ _ => rfl, Client.meets_cons_iff.mpr ⟨fun target _ => ?_, nofun⟩⟩
    rcases (Client.new twoStrikes).get_web uniform isolated "ftp://dead.example/" with
      unasked | ⟨_, _, _, _, _, asked⟩
    · rw [unasked]
    · rw [asked]
      rfl
  have noneEscapes : ∀ url ∈ twoEndpoints.urlsFor .mainnet, (escaping? ((Client.new twoStrikes).getDocument uniform
      isolated twoEndpoints.expectation url).answer).isNone = true := by decide +kernel
  have tolerated (url : Link) (within : url ∈ twoEndpoints.urlsFor .mainnet) (error : CallError)
      (isError : ((Client.new twoStrikes).getDocument uniform isolated twoEndpoints.expectation url).answer =
        .error error) : error.isTolerated = true := by
    have passed := noneEscapes url within
    rw [isError] at passed
    cases isTolerated : error.isTolerated with
    | true => rfl
    | false =>
        rw [(escaping?_eq_some_iff _ error).mpr ⟨rfl, isTolerated⟩] at passed
        cases passed
  obtain ⟨_, pools, _⟩ := feed_pools_live_endpoints twoEndpoints twoStrikes isolated uniform .mainnet distinct
  refine ⟨distinct, ?_⟩
  rw [(pools (fun _ => uniform) meets tolerated).1]
  decide +kernel

end ReorgGuard.Feed
