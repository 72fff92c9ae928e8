import ReorgGuard.Proofs.Build.Merge
import ReorgGuard.Proofs.Feed.Calls
import ReorgGuard.Proofs.Source.Pooling

/-!
What a feed that is not required can do to a build.

A feed that fails is done without, and so are its malformed records.  It is heard all the same when it
brings an error that is not taken for a failure: that of an endpoint that is not passed over, or
that of a height of too many digits.  Such an error ends the build, also where the hashfile was fine.
-/

namespace ReorgGuard.Checkpoint

open ReorgGuard.Settings (Config)

/-- Asking the feed ends in an error that is not taken for a failure of the feed. -/
def FeedSource.Escapes (here : Feed.Surroundings) (web : Feed.Web) (network : Network) : FeedSource → Prop
  | disabled => False
  | fixed records => ∃ record ∈ (records.lookup network).getD [], FeedRecord.Overlong record
  | unreachable _ => False
  | endpoints settings client =>
      let answered := Feed.answers settings here client web (settings.urlsFor network)
      (∃ answer ∈ answered, ∃ error, answer = .error error ∧ error.isTolerated = false) ∨
        ∃ answer ∈ answered, ∃ record ∈ Feed.brought answer, FeedRecord.Overlong record

theorem FeedRecord.breaksOff_ok_iff (records : List String) :
    BreaksOff (.ok records) ↔ ∃ record ∈ records, Overlong record := by
  constructor
  · intro broken
    rcases broken with ⟨error, impossible⟩ | ⟨_, same, overlong⟩
    · cases impossible
    · cases same
      exact overlong
  · intro overlong
    exact Or.inr ⟨records, rfl, overlong⟩

theorem FeedRecord.not_breaksOff_unreachable (message : String) : ¬BreaksOff (.error (.unreachable message)) := by
  intro broken
  rcases broken with ⟨error, impossible⟩ | ⟨_, impossible, _⟩ <;> cases impossible

theorem FeedRecord.breaksOff_fetchEndpoints_iff (settings : Feed.Settings) (here : Feed.Surroundings)
    (client : Feed.Client) (web : Feed.Web) (network : Network) :
    let answered := Feed.answers settings here client web (settings.urlsFor network)
    BreaksOff (Feed.fetchEndpoints settings here client web network).answer ↔
      (∃ answer ∈ answered, ∃ error, answer = .error error ∧ error.isTolerated = false) ∨
        ∃ answer ∈ answered, ∃ record ∈ Feed.brought answer, Overlong record := by
  have fetched := Feed.fetchEndpoints_answer settings here client web network
  dsimp only at fetched ⊢
  generalize Feed.answers settings here client web (settings.urlsFor network) = answered at fetched ⊢
  rw [fetched]
  cases escaped : answered.findSome? Feed.escaping? with
  | some error =>
      obtain ⟨answer, member, escapes⟩ := List.exists_of_findSome?_eq_some escaped
      have isError := (Feed.escaping?_eq_some_iff answer error).mp escapes
      exact iff_of_true (Or.inl ⟨error, rfl⟩) (Or.inl ⟨answer, member, error, isError⟩)
  | none =>
      have noEscape : ¬∃ answer ∈ answered, ∃ error, answer = .error error ∧ error.isTolerated = false := by
        intro escapes
        rcases escapes with ⟨answer, member, error, isError⟩
        have atAnswer := List.findSome?_eq_none_iff.mp escaped answer member
        rw [(Feed.escaping?_eq_some_iff answer error).mpr isError] at atAnswer
        cases atAnswer
      have inPool : (∃ answer ∈ answered, ∃ record ∈ Feed.brought answer, Overlong record) ↔
          ∃ record ∈ answered.flatMap Feed.brought, Overlong record := by
        constructor
        · intro overlong
          rcases overlong with ⟨answer, isAnswer, record, isBrought, long⟩
          exact ⟨record, List.mem_flatMap.mpr ⟨answer, isAnswer, isBrought⟩, long⟩
        · intro overlong
          rcases overlong with ⟨record, pooled, long⟩
          obtain ⟨answer, isAnswer, isBrought⟩ := List.mem_flatMap.mp pooled
          exact ⟨answer, isAnswer, record, isBrought, long⟩
      rw [or_iff_right noEscape, inPool]
      dsimp only
      split
      · -- All endpoints failed, so that nothing was brought at all.
        rename_i all
        refine iff_of_false (not_breaksOff_unreachable _) fun overlong => ?_
        rw [Feed.brought_of_all_failed all.2] at overlong
        rcases overlong with ⟨record, impossible, _⟩
        cases impossible
      · exact breaksOff_ok_iff _

theorem FeedSource.breaksOff_fetch_iff (source : FeedSource) (here : Feed.Surroundings) (web : Feed.Web)
    (network : Network) :
    FeedRecord.BreaksOff (source.fetch here web network).answer ↔ source.Escapes here web network := by
  cases source with
  | disabled =>
      refine iff_of_false (fun broken => ?_) id
      rcases broken with ⟨error, impossible⟩ | ⟨_, impossible, _⟩ <;> cases impossible
  | fixed records => exact FeedRecord.breaksOff_ok_iff _
  | unreachable message => exact iff_of_false (FeedRecord.not_breaksOff_unreachable message) id
  | endpoints settings client =>
      exact FeedRecord.breaksOff_fetchEndpoints_iff settings here client web network

/-- An endpoint whose host cannot even be asked for is not passed over. -/
theorem FeedSource.escapes_of_unencodable {settings : Feed.Settings} {here : Feed.Surroundings} {url : Feed.Link} {message : String}
    {network : Network} (client : Feed.Client) (web : Feed.Web) (member : url ∈ settings.urlsFor network)
    (unencodable : Feed.checkUrl here.resolve client.options.allowPrivate url.text = .unencodableHost message) :
    (endpoints settings client).Escapes here web network := by
  refine Or.inl ⟨.error (.unencodableHost message), ?_, _, rfl, rfl⟩
  generalize settings.urlsFor network = urls at member
  induction urls generalizing here client web with
  | nil => cases member
  | cons first rest ih =>
      rcases List.mem_cons.mp member with rfl | inRest
      · have called : (client.get web here url).answer = .error (.unencodableHost message) := by
          unfold Feed.Client.get
          rw [unencodable]
        refine List.mem_cons.mpr (Or.inl ?_)
        rw [Feed.Client.getDocument, called]
        rfl
      · -- No call changes the options, and the resolver is the same for all of them.
        have sameOptions := (client.get_alikeBut web here first).options
        rw [← sameOptions] at unencodable
        exact List.mem_cons_of_mem _ (ih _ _ unencodable inRest)

section OptionalFeed

variable (world : World) (web : Feed.Web) (config : Config) (given : Option FeedSource)

theorem breaksOff_without_feed_iff :
    (findings world web config given (some false)).BreaksOff ↔
      Hashfile.BreaksOff (Hashfile.readAt world.files config.checkpointsPath) := by
  constructor
  · intro broken
    rcases broken with file | ⟨_, noFeed, _⟩
    · exact file
    · cases noFeed
  · exact Or.inl

theorem breaksOff_with_feed_iff :
    (findings world web config given (some true)).BreaksOff ↔
      Hashfile.BreaksOff (Hashfile.readAt world.files config.checkpointsPath) ∨
        (feedFor config given true).Escapes world.here web config.network := by
  rw [← FeedSource.breaksOff_fetch_iff]
  constructor
  · intro broken
    rcases broken with file | ⟨_, isFeed, feed⟩
    · exact Or.inl file
    · cases isFeed
      exact Or.inr feed
  · intro broken
    rcases broken with file | feed
    · exact Or.inl file
    · exact Or.inr ⟨_, rfl, feed⟩

theorem fails_with_feed_iff :
    (findings world web config given (some true)).Fails ↔
      (findings world web config given (some false)).Fails ∨ config.feed.required = true ∧
        ∃ error, ((feedFor config given true).fetch world.here web config.network).answer = .error error := by
  constructor
  · intro fails
    rcases fails with fault | clash | ⟨required, error, failed⟩
    · exact Or.inl (Or.inl fault)
    · exact Or.inl (Or.inr (Or.inl clash))
    · exact Or.inr ⟨required, error, Option.some.inj failed⟩
  · intro either
    rcases either with (fault | clash | ⟨_, _, noFeed⟩) | ⟨required, error, failed⟩
    · exact Or.inl fault
    · exact Or.inr (Or.inl clash)
    · cases noFeed
    · exact Or.inr (Or.inr ⟨required, error, congrArg some failed⟩)

theorem build_of_escaping_feed (file : ¬Hashfile.BreaksOff (Hashfile.readAt world.files config.checkpointsPath))
    (escapes : (feedFor config given true).Escapes world.here web config.network) :
    ∃ error, (build world web config given (some true)).answer = .error (.load error) ∧
      (build world web config given (some false)).answer ≠ .error (.load error) := by
  have broken := (breaksOff_with_feed_iff world web config given).mpr (Or.inr escapes)
  have fit := (breaksOff_without_feed_iff world web config given).not.mpr file
  rcases not_answers_of_breaksOff world web config given (some true) broken with ⟨⟨error, withFeed⟩, _⟩
  refine ⟨error, withFeed, fun wrong => ?_⟩
  rcases build_of_fit world web config given (some false) fit with ⟨_, refused⟩ | ⟨_, load, built⟩
  · cases wrong.symm.trans refused
  · cases wrong.symm.trans built

theorem build_of_harmless_feed (optional : config.feed.required = false)
    (file : ¬Hashfile.BreaksOff (Hashfile.readAt world.files config.checkpointsPath))
    (harmless : ¬(feedFor config given true).Escapes world.here web config.network) (error : BuildError) :
    (build world web config given (some true)).answer = .error error ↔
      (build world web config given (some false)).answer = .error error := by
  have fit := (breaksOff_with_feed_iff world web config given).not.mpr (not_or.mpr ⟨file, harmless⟩)
  have fitWithout := (breaksOff_without_feed_iff world web config given).not.mpr file
  have sameFate : (findings world web config given (some true)).Fails ↔
      (findings world web config given (some false)).Fails := by
    rw [fails_with_feed_iff, optional]
    simp only [Bool.false_eq_true, false_and, or_false]
  rcases build_of_fit world web config given (some true) fit with ⟨fails, refused⟩ | ⟨sound, load, built⟩ <;>
    rcases build_of_fit world web config given (some false) fitWithout with
      ⟨failsWithout, refusedWithout⟩ | ⟨soundWithout, other, builtWithout⟩
  · rw [refused, refusedWithout]
  · exact absurd (sameFate.mp fails) soundWithout
  · exact absurd (sameFate.mpr failsWithout) sound
  · rw [built, builtWithout]
    exact iff_of_false (fun impossible => by cases impossible) (fun impossible => by cases impossible)

end OptionalFeed

/-- A feed that is not required decides nothing about a build, exactly unless an error escapes from it; a
hashfile from which one escapes is read before the feed. -/
theorem optional_feed_decides_nothing_iff (world : World) (web : Feed.Web) (config : Config)
    (given : Option FeedSource) (optional : config.feed.required = false) :
    let withFeed := (build world web config given (some true)).answer
    let without := (build world web config given (some false)).answer
    (∀ error, withFeed = .error error ↔ without = .error error) ↔
      Hashfile.BreaksOff (Hashfile.readAt world.files config.checkpointsPath) ∨
        ¬(feedFor config given true).Escapes world.here web config.network := by
  dsimp only
  by_cases file : Hashfile.BreaksOff (Hashfile.readAt world.files config.checkpointsPath)
  · refine iff_of_true (fun other => ?_) (Or.inl file)
    obtain ⟨error, loaded⟩ := loadOf_of_file_breaksOff world web config given file
    rw [build_answer, build_answer, loaded, loaded]
  · by_cases escapes : (feedFor config given true).Escapes world.here web config.network
    · obtain ⟨error, broken, unbroken⟩ := build_of_escaping_feed world web config given file escapes
      refine iff_of_false (fun same => ?_) (not_or.mpr ⟨file, not_not_intro escapes⟩)
      exact unbroken ((same _).mp broken)
    · exact iff_of_true (build_of_harmless_feed world web config given optional file escapes) (Or.inr escapes)

theorem unreachable_feed_decides_nothing :
    testnetAlone.feed.required = false ∧
      ∀ error,
        (build .bare (.scripted []) testnetAlone (some (.unreachable "down")) (some true)).answer = .error error ↔
          (build .bare (.scripted []) testnetAlone (some (.unreachable "down")) (some false)).answer =
            .error error :=
  ⟨rfl, (optional_feed_decides_nothing_iff .bare (.scripted []) testnetAlone (some (.unreachable "down"))
    rfl).mpr (Or.inr id)⟩

theorem optional_feed_can_decide :
    ¬∀ (world : World) (web : Feed.Web) (config : Config) (given : Option FeedSource),
      config.feed.required = false → ∀ error,
        (build world web config given (some true)).answer = .error error ↔
          (build world web config given (some false)).answer = .error error := by
  intro claim
  let record := String.ofList (List.replicate 4301 '1' ++ ':' :: List.replicate 64 'a')
  have overlong : FeedRecord.Overlong record := FeedRecord.overlong_of_ones (by decide) _
  have file : ¬Hashfile.BreaksOff (Hashfile.readAt World.bare.files testnetAlone.checkpointsPath) := by
    intro broken
    rcases broken with ⟨fault, impossible⟩ | impossible <;> cases impossible
  have escapes : (feedFor testnetAlone (some (.fixed [(.testnet, [record])])) true).Escapes World.bare.here
      (.scripted []) testnetAlone.network :=
    ⟨record, List.mem_singleton_self record, overlong⟩
  obtain ⟨error, broken, unbroken⟩ := build_of_escaping_feed _ _ _ _ file escapes
  exact unbroken ((claim _ _ _ _ rfl _).mp broken)

end ReorgGuard.Checkpoint
