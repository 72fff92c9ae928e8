import Mathlib.Data.List.Forall2
import ReorgGuard.Feed.Policy
import ReorgGuard.Proofs.Feed.Scopes

/-!
Which URLs the policy allows.

A URL is allowed if it is a web URL without user information, its host is not the machine itself and stands for
some addresses, and each of these is public.  What is reached in this way is reachable from everywhere, unless
it is of one of the kinds that the closed blocks leave out.
-/

namespace ReorgGuard.Feed

/-! ### Hosts and what they stand for -/

/-- A web URL without user information, for a host other than the machine itself. -/
structure Url.Plain (url : Url) (host : String) : Prop where
  web : url.scheme = "http" ∨ url.scheme = "https"
  noUser : url.user = ""
  noPassword : url.password = ""
  isHost : String.ofList (Text.trim (Text.lower url.host).toList) = host
  nonempty : host ≠ ""
  elsewhere : host ≠ "localhost" ∧ host ≠ "localhost.localdomain"

/-- The addresses that a host stands for: itself, or all that it resolves to. -/
inductive Denotes (resolve : Resolver) (host : String) : List Address → Prop where
  | literal {a : Address} (read : Address.ofText? host = some a) : Denotes resolve host [a]
  | name {records : List AddressRecord} {addresses : List Address} (noLiteral : Address.ofText? host = none)
      (answered : resolve host = .records records)
      (read : List.Forall₂ (fun record a => Address.ofText? record.address = some a)
        (records.filter (·.internet)) addresses) :
      Denotes resolve host addresses

/-! ### Answers of the resolver -/

variable {resolve : Resolver} {s host other : String} {records : List AddressRecord}

theorem mem_examined_iff {text : String} :
    text ∈ examined records ↔ ∃ record ∈ records.filter (·.internet), record.address = text := by
  rw [examined, List.mem_eraseDups, List.mem_mergeSort, List.mem_map]

theorem examined_eq_nil_iff : examined records = [] ↔ records.filter (·.internet) = [] := by
  rw [List.eq_nil_iff_forall_not_mem, List.eq_nil_iff_forall_not_mem]
  constructor
  · intro none record member
    exact none record.address (mem_examined_iff.mpr ⟨record, member, rfl⟩)
  · intro none text member
    obtain ⟨record, member, _⟩ := mem_examined_iff.mp member
    exact none record member

theorem examine_eq_allowed_iff {texts : List String} :
    examine host texts = .allowed other ↔
      host = other ∧ ∀ text ∈ texts, ∃ a, Address.ofText? text = some a ∧ a.isPublic = true := by
  induction texts with
  | nil => simp [examine]
  | cons text rest ih =>
      rw [List.forall_mem_cons, examine]
      cases read : Address.ofText? text with
      | none => simp
      | some a =>
          by_cases isOpen : a.isPublic = true
          · simp [isOpen, ih]
          · simp [isOpen]

theorem exists_forall₂_iff {α β : Type} {pair : α → β → Prop} {holds : β → Prop} {items : List α} :
    (∃ partners, List.Forall₂ pair items partners ∧ ∀ partner ∈ partners, holds partner) ↔
      ∀ item ∈ items, ∃ partner, pair item partner ∧ holds partner := by
  induction items with
  | nil => simp
  | cons item rest ih =>
      rw [List.forall_mem_cons, ← ih]
      constructor
      · rintro ⟨all, allPaired, good⟩
        obtain ⟨partner, partners, paired, restPaired, rfl⟩ := List.forall₂_cons_left_iff.mp allPaired
        rw [List.forall_mem_cons] at good
        exact ⟨⟨partner, paired, good.1⟩, partners, restPaired, good.2⟩
      · rintro ⟨⟨partner, paired, isGood⟩, partners, restPaired, good⟩
        exact ⟨partner :: partners, .cons paired restPaired, List.forall_mem_cons.mpr ⟨isGood, good⟩⟩

theorem denotes_iff_of_name {addresses : List Address} (noLiteral : Address.ofText? host = none) :
    Denotes resolve host addresses ↔ ∃ records, resolve host = .records records ∧
      List.Forall₂ (fun record a => Address.ofText? record.address = some a)
        (records.filter (·.internet)) addresses := by
  constructor
  · intro denotes
    cases denotes with
    | literal read => cases noLiteral.symm.trans read
    | name _ answered read => exact ⟨_, answered, read⟩
  · rintro ⟨records, answered, read⟩
    exact .name noLiteral answered read

theorem denotes_iff_of_literal {a : Address} {addresses : List Address} (literal : Address.ofText? host = some a) :
    Denotes resolve host addresses ↔ addresses = [a] := by
  constructor
  · intro denotes
    cases denotes with
    | literal read =>
        cases literal.symm.trans read
        rfl
    | name noLiteral => cases noLiteral.symm.trans literal
  · rintro rfl
    exact .literal literal

theorem Denotes.unique {addresses others : List Address} (denotes : Denotes resolve host addresses)
    (again : Denotes resolve host others) : addresses = others := by
  cases denotes with
  | literal read => exact ((denotes_iff_of_literal read).mp again).symm
  | name noLiteral answered read =>
      obtain ⟨_, answeredAgain, readAgain⟩ := (denotes_iff_of_name noLiteral).mp again
      cases answered.symm.trans answeredAgain
      apply List.right_unique_forall₂' _ read readAgain
      intro record a b first second
      exact Option.some.inj (first.symm.trans second)

theorem resolveHost_eq_allowed_iff (noLiteral : Address.ofText? host = none) :
    resolveHost resolve host = .allowed other ↔ host = other ∧
      ∃ addresses, Denotes resolve host addresses ∧ addresses ≠ [] ∧ ∀ a ∈ addresses, a.isPublic = true := by
  rw [resolveHost]
  simp only [denotes_iff_of_name noLiteral]
  cases resolve host with
  | failed => simp
  | unencodable message => simp
  | records records =>
      simp only [Resolution.records.injEq, exists_eq_left']
      cases texts : examined records with
      | nil => simp [examined_eq_nil_iff.mp texts]
      | cons first more =>
          have nonempty : records.filter (·.internet) ≠ [] := by
            rw [ne_eq, ← examined_eq_nil_iff, texts]
            exact List.cons_ne_nil _ _
          rw [examine_eq_allowed_iff, ← texts]
          simp only [mem_examined_iff, forall_exists_index, and_imp, forall_apply_eq_imp_iff₂]
          rw [← exists_forall₂_iff]
          apply and_congr_right
          intro _
          apply exists_congr
          intro addresses
          apply and_congr_right
          intro read
          refine (and_iff_right ?_).symm
          rintro rfl
          exact nonempty (List.forall₂_nil_right_iff.mp read)

def verdictOn (resolve : Resolver) (host : String) : UrlVerdict :=
  match Address.ofText? host with
  | some a => if a.isPublic then .allowed host else .refused .addressNotPublic (some host)
  | none => resolveHost resolve host

theorem verdictOn_eq_allowed_iff :
    verdictOn resolve host = .allowed other ↔ host = other ∧
      ∃ addresses, Denotes resolve host addresses ∧ addresses ≠ [] ∧ ∀ a ∈ addresses, a.isPublic = true := by
  rw [verdictOn]
  cases literal : Address.ofText? host with
  | none => exact resolveHost_eq_allowed_iff literal
  | some a =>
      simp only [denotes_iff_of_literal literal, exists_eq_left, List.forall_mem_singleton]
      by_cases isOpen : a.isPublic = true
      · simp [isOpen]
      · simp [isOpen]

theorem checkUrl_of_url {url : Url} (read : Url.ofText? s = some url) {target : String}
    (isHost : String.ofList (Text.trim (Text.lower url.host).toList) = target) :
    checkUrl resolve false s =
      if url.scheme ≠ "http" ∧ url.scheme ≠ "https" then .refused .schemeNotAllowed none
      else if url.user ≠ "" ∨ url.password ≠ "" then .refused .userinfoNotAllowed none
      else if target = "" then .refused .missingHost none
      else if localHosts.contains target then .refused .hostDenied (some target)
      else verdictOn resolve target := by
  unfold checkUrl
  rw [read]
  simp only [isHost]
  rfl

theorem ite_refused_eq_allowed_iff {p : Prop} [Decidable p] {fault : UrlFault} {known : Option String}
    {verdict : UrlVerdict} :
    (if p then .refused fault known else verdict) = .allowed host ↔ ¬p ∧ verdict = .allowed host := by
  by_cases refuses : p
  · simp [refuses]
  · simp [refuses]

theorem not_localHosts_iff :
    ¬localHosts.contains host = true ↔ host ≠ "localhost" ∧ host ≠ "localhost.localdomain" := by
  simp [localHosts]

/-- A URL is allowed exactly if it is plain and its host stands for some addresses, all of them public. -/
theorem checkUrl_eq_allowed_iff :
    checkUrl resolve false s = .allowed host ↔ ∃ url addresses, Url.ofText? s = some url ∧ url.Plain host ∧
      Denotes resolve host addresses ∧ addresses ≠ [] ∧ ∀ a ∈ addresses, a.isPublic = true := by
  constructor
  · intro allowed
    cases read : Url.ofText? s with
    | none =>
        unfold checkUrl at allowed
        rw [read] at allowed
        cases allowed
    | some url =>
        -- The host gets a name, so that no step below unfolds its text.
        obtain ⟨target, isHost⟩ : ∃ target, String.ofList (Text.trim (Text.lower url.host).toList) = target :=
          ⟨_, rfl⟩
        simp only [checkUrl_of_url read isHost, ite_refused_eq_allowed_iff, verdictOn_eq_allowed_iff,
          not_localHosts_iff, not_and_or, not_or, not_not] at allowed
        obtain ⟨web, ⟨noUser, noPassword⟩, nonempty, elsewhere, same, addresses, denoted⟩ := allowed
        rw [same] at isHost nonempty elsewhere denoted
        exact ⟨url, addresses, rfl, ⟨web, noUser, noPassword, isHost, nonempty, elsewhere⟩, denoted⟩
  · rintro ⟨url, addresses, read, plain, denoted⟩
    simp only [checkUrl_of_url read plain.isHost, ite_refused_eq_allowed_iff, verdictOn_eq_allowed_iff,
      not_localHosts_iff, not_and_or, not_or, not_not, true_and]
    exact ⟨plain.web, ⟨plain.noUser, plain.noPassword⟩, plain.nonempty, plain.elsewhere, addresses, denoted⟩

/-! ### Where an allowed URL leads -/

open Address (Scope)

theorem checkUrl_of_overlooked {url : Url} {addresses : List Address} (read : Url.ofText? s = some url)
    (plain : url.Plain host) (denotes : Denotes resolve host addresses) (nonempty : addresses ≠ [])
    (overlooked : ∀ a ∈ addresses, Scope.shared.holds a ∨ Scope.siteLocal.holds a) :
    checkUrl resolve false s = .allowed host := by
  apply checkUrl_eq_allowed_iff.mpr
  refine ⟨url, addresses, read, plain, denotes, nonempty, ?_⟩
  intro a member
  exact Address.isPublic_of_overlooked (overlooked a member)

/-- An allowed URL is plain, and its host stands for some addresses, none of which is of a kind that is not
reachable from everywhere, except for shared and site-local ones.  So they all are reachable from everywhere
exactly if none of them is of these two kinds. -/
theorem allowed_targets_global_iff (allowed : checkUrl resolve false s = .allowed host) :
    ∃ url addresses, Url.ofText? s = some url ∧ url.Plain host ∧
      Denotes resolve host addresses ∧ addresses ≠ [] ∧
      (∀ a ∈ addresses, (∀ scope : Scope, scope.holds a → scope = .shared ∨ scope = .siteLocal) ∧
        ∀ inner, ¬a.Carries inner) ∧
      ((∀ a ∈ addresses, a.GloballyReachable) ↔
        ∀ a ∈ addresses, ¬Scope.shared.holds a ∧ ¬Scope.siteLocal.holds a) := by
  obtain ⟨url, addresses, read, plain, denotes, nonempty, allOpen⟩ := checkUrl_eq_allowed_iff.mp allowed
  refine ⟨url, addresses, read, plain, denotes, nonempty, fun a member => ⟨?_, ?_⟩, ?_⟩
  · intro scope inside
    exact Scope.overlooked_of_isPublic (allOpen a member) inside
  · intro inner carries
    exact Bool.false_ne_true (carries.not_isPublic.symm.trans (allOpen a member))
  · apply forall₂_congr
    intro a member
    exact Address.globallyReachable_iff_of_isPublic (allOpen a member)

theorem resolved_target_global :
    let resolve : Resolver := fun _ =>
      .records [⟨true, "1.1.1.1"⟩, ⟨false, "/run/feed"⟩, ⟨true, "2606:4700::1111"⟩]
    checkUrl resolve false "https://Feed.example.net/checkpoints" = .allowed "feed.example.net" ∧
      ∃ addresses, Denotes resolve "feed.example.net" addresses ∧ addresses.length = 2 ∧
        ∀ a ∈ addresses, a.GloballyReachable := by
  intro resolve
  have denotes : Denotes resolve "feed.example.net"
      [.v4 (Address.dotted 1 1 1 1), .v6 (Address.leading [0x2606, 0x4700] + 0x1111)] := by
    apply Denotes.name (by decide +kernel) rfl
    exact .cons (by decide +kernel) (.cons (by decide +kernel) .nil)
  have read : Url.ofText? "https://Feed.example.net/checkpoints" =
      some ⟨"https", "", "", "feed.example.net"⟩ := by decide +kernel
  have plain : Url.Plain ⟨"https", "", "", "feed.example.net"⟩ "feed.example.net" :=
    ⟨Or.inr rfl, rfl, rfl, by decide +kernel, by decide, by decide⟩
  have allowed : checkUrl resolve false "https://Feed.example.net/checkpoints" = .allowed "feed.example.net" :=
    checkUrl_eq_allowed_iff.mpr ⟨_, _, read, plain, denotes, by decide, by decide +kernel⟩
  obtain ⟨_, addresses, _, _, found, _, _, reachable_iff⟩ := allowed_targets_global_iff allowed
  cases denotes.unique found
  exact ⟨allowed, _, denotes, rfl, reachable_iff.mpr (by decide +kernel)⟩

theorem metadata_service_allowed :
    let unasked : Resolver := fun _ => .failed
    let service := Address.v4 (Address.dotted 100 100 100 200)
    let site := Address.v6 (Address.leading [0xFEC0] + 1)
    (checkUrl unasked false "http://100.100.100.200/latest/meta-data/" = .allowed "100.100.100.200" ∧
      Denotes unasked "100.100.100.200" [service] ∧ Scope.shared.holds service ∧ ¬service.GloballyReachable) ∧
    (checkUrl unasked false "http://[fec0::1]/" = .allowed "fec0::1" ∧
      Denotes unasked "fec0::1" [site] ∧ Scope.siteLocal.holds site ∧ ¬site.GloballyReachable) := by
  intro unasked service site
  have isService : Denotes unasked "100.100.100.200" [service] := .literal (by decide +kernel)
  have isSite : Denotes unasked "fec0::1" [site] := .literal (by decide +kernel)
  have shared : Scope.shared.holds service := by decide +kernel
  have siteLocal : Scope.siteLocal.holds site := by decide +kernel
  have readService : Url.ofText? "http://100.100.100.200/latest/meta-data/" =
      some ⟨"http", "", "", "100.100.100.200"⟩ := by decide +kernel
  have readSite : Url.ofText? "http://[fec0::1]/" = some ⟨"http", "", "", "fec0::1"⟩ := by decide +kernel
  refine ⟨⟨?_, isService, shared, fun reachable => (reachable .shared).1 shared⟩,
    ⟨?_, isSite, siteLocal, fun reachable => (reachable .siteLocal).1 siteLocal⟩⟩
  · apply checkUrl_of_overlooked readService _ isService (by decide)
    · simpa using Or.inl shared
    · exact ⟨Or.inl rfl, rfl, rfl, by decide +kernel, by decide, by decide⟩
  · apply checkUrl_of_overlooked readSite _ isSite (by decide)
    · simpa using Or.inr siteLocal
    · exact ⟨Or.inl rfl, rfl, rfl, by decide +kernel, by decide, by decide⟩

end ReorgGuard.Feed
