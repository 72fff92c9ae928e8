import ReorgGuard.Proofs.Command.Arguments
import ReorgGuard.Proofs.Command.OpenedStore

/-!
What the exit code of a run says.

A run that ends says yes with zero, no with one, and with two that the command line, the configuration or
the file to verify cannot be used.  Some runs do not end with a code: errors that are not foreseen escape
while the configuration is put together, while the sources of a store are read, and while a height that
was left empty is compared.  Which runs these are is stated as exactly as which code the others end with.

What is written besides the code is not looked at here.
-/

namespace ReorgGuard.Checkpoint

/-! ### Hashes that a command line gives -/

def Hash.Written (value : Value) : Prop :=
  ∃ s : String, value = .text s ∧ s.toList.length = 64 ∧ ∀ c ∈ s.toList, Numeral.isHex c = true

theorem Hash.ofValue_isOk_iff {value : Value} (typed : (∃ s, value = .text s) ∨ value = .list []) :
    (∃ hash, ofValue value = .ok hash) ↔ Written value := by
  rcases typed with ⟨s, rfl⟩ | rfl
  · rw [ofValue, ofText_isOk_iff]
    constructor
    · intro written
      exact ⟨s, rfl, written⟩
    · intro written
      rcases written with ⟨_, same, written⟩
      cases same
      exact written
  · refine iff_of_false (fun read => ?_) (fun written => ?_)
    · rcases read with ⟨_, impossible⟩
      cases impossible
    · rcases written with ⟨_, impossible, _⟩
      cases impossible

end ReorgGuard.Checkpoint

namespace ReorgGuard.Command

open ReorgGuard.Checkpoint
open ReorgGuard.Settings (Config)

/-! ### What the codes stand for -/

namespace Request

def AsksStore (request : Request) : Prop :=
  ∀ path, request ≠ .verifyFile path

/-- The request can be carried out as far as its hash goes. -/
def Begins (request : Request) : Prop :=
  ∀ height hash, request = .checkBlock height hash → Hash.Written hash

end Request

/-- Nothing was asked for, or what was asked for cannot be used. -/
inductive Unusable (here : Situation) (i : Invocation) : Option Request → Prop where
  | noRequest : Unusable here i none
  | noHash {height : Int} {hash : Value} (unwritten : ¬Hash.Written hash) :
      Unusable here i (some (.checkBlock height hash))
  | noConfig {request : Request} {error : Settings.ResolveError} (unresolved : resolved here i = .error error) :
      Unusable here i (some request)
  | noFile {path : Path} (missing : Hashfile.read here.world.files path = .ok none) :
      Unusable here i (some (.verifyFile path))

/-- The answer to the request is no. -/
inductive Denied (here : Situation) (i : Invocation) (config : Config) : Request → Prop where
  | load {request : Request} (asksStore : request.AsksStore) (fails : (sources here i config).Fails) :
      Denied here i config request
  | block {height : Nat} {hash : Value} {pinned : Hash} (pins : (sources here i config).Pins height pinned)
      (other : Hash.ofValue hash ≠ .ok pinned) : Denied here i config (.checkBlock height hash)
  | firstBlock {tip : Int} : Denied here i config (.canFork tip (.int 0))
  | fork {tip block : Int} {height : Nat} {pinned : Hash} (pins : (sources here i config).Pins height pinned)
      (reached : height ≤ tip) (notAbove : block ≤ height) : Denied here i config (.canFork tip (.int block))
  | file {path : Path} {fault : HashfileFault}
      (unparseable : Hashfile.read here.world.files path = .error (.source fault)) :
      Denied here i config (.verifyFile path)
  | lines {path : Path} {lines : List HashLine}
      (read : Hashfile.read here.world.files path = .ok (some lines))
      (conflicting : Contradictory (hardcodedPoints config.network ++ Hashfile.points lines)) :
      Denied here i config (.verifyFile path)

/-- An error that no code stands for escapes. -/
inductive Escapes (here : Situation) (i : Invocation) : Request → Prop where
  | config {request : Request} (begins : request.Begins) (escapes : ConfigEscapes here i) :
      Escapes here i request
  | sources {request : Request} {config : Config} (begins : request.Begins)
      (configured : configure here i = .ok config) (asksStore : request.AsksStore)
      (breaksOff : (sources here i config).BreaksOff) : Escapes here i request
  | file {path : Path} {config : Config} (configured : configure here i = .ok config)
      (breaksOff : Hashfile.BreaksOff (Hashfile.read here.world.files path)) :
      Escapes here i (.verifyFile path)
  | noHeight {tip : Int} {config : Config} {height : Nat} {pinned : Hash}
      (configured : configure here i = .ok config) (sound : ¬(Command.sources here i config).Fails)
      (pins : (Command.sources here i config).Pins height pinned) (reached : height ≤ tip) :
      Escapes here i (.canFork tip (.list []))

def IsDenied (here : Situation) (i : Invocation) (request : Request) : Prop :=
  ∃ config, configure here i = .ok config ∧ Denied here i config request

/-- The code that a run should end with. -/
inductive Demands (here : Situation) (i : Invocation) : Nat → Prop where
  | version (asked : i.version = true) : Demands here i 0
  | unusable (other : i.version = false) (unusable : Unusable here i i.request) : Demands here i 2
  | denied (other : i.version = false) (usable : ¬Unusable here i i.request)
      (denied : ∃ request, i.request = some request ∧ IsDenied here i request) : Demands here i 1
  | granted (other : i.version = false) (usable : ¬Unusable here i i.request)
      (granted : ¬∃ request, i.request = some request ∧ IsDenied here i request) : Demands here i 0

theorem Demands.unique {here : Situation} {i : Invocation} {code other : Nat}
    (demanded : Demands here i code) (also : Demands here i other) : code = other := by
  cases demanded <;> cases also <;> first | rfl | contradiction | simp_all

/-- An error escapes from the run of a command line. -/
def BreaksOff (here : Situation) (i : Invocation) : Prop :=
  i.version = false ∧ ∃ request, i.request = some request ∧ Escapes here i request

/-! ### Requests -/

def codeOf? : Except Halt Ended → Option Nat
  | .ok ended => some ended.exit
  | .error (.ended ended) => some ended.exit
  | .error (.escaped _) => none

inductive Fits (here : Situation) (i : Invocation) (request : Request) : Option Nat → Prop where
  | escaped (escapes : Escapes here i request) : Fits here i request none
  | unusable (contained : ¬Escapes here i request) (unusable : Unusable here i (some request)) :
      Fits here i request (some 2)
  | denied (contained : ¬Escapes here i request) (usable : ¬Unusable here i (some request))
      (denied : IsDenied here i request) : Fits here i request (some 1)
  | granted (contained : ¬Escapes here i request) (usable : ¬Unusable here i (some request))
      (granted : ¬IsDenied here i request) : Fits here i request (some 0)

variable {here : Situation} {i : Invocation} {config : Config} {request : Request}

theorem not_escapes_of_not_begins (idle : ¬request.Begins) : ¬Escapes here i request := by
  have begins {one : Request} (other : ∀ height hash, one ≠ .checkBlock height hash) : one.Begins :=
    fun height hash same => absurd same (other height hash)
  intro escapes
  cases escapes with
  | config isBegun _ => exact idle isBegun
  | sources isBegun _ _ _ => exact idle isBegun
  | file _ _ => exact idle (begins fun _ _ impossible => by cases impossible)
  | noHeight _ _ _ _ => exact idle (begins fun _ _ impossible => by cases impossible)

theorem fits_of_refused {refusal : Settings.FileRefusal}
    (refused : resolved here i = .error (.refused refusal)) : Fits here i request (some 2) := by
  have unconfigured (other : Config) : configure here i ≠ .ok other := by
    rw [configure_of_refused refused]
    intro impossible
    cases impossible
  refine .unusable (fun escapes => ?_) (.noConfig refused)
  cases escapes with
  | config _ escapes =>
      cases escapes with
      | unforeseen unresolved unforeseen =>
          exact unforeseen refusal (Except.error.inj (unresolved.symm.trans refused))
      | path isResolved _ _ => cases isResolved.symm.trans refused
  | sources _ configured _ _ => exact unconfigured _ configured
  | file configured _ => exact unconfigured _ configured
  | noHeight configured _ _ _ => exact unconfigured _ configured

/-- Once a store has its configuration, what still can escape comes from its sources or an empty height. -/
theorem escapes_iff_of_configured (configured : configure here i = .ok config) (begins : request.Begins)
    (asksStore : request.AsksStore) : Escapes here i request ↔ (sources here i config).BreaksOff ∨
      ∃ (tip : Int) (height : Nat) (pinned : Hash), request = .canFork tip (.list []) ∧
        ¬(sources here i config).Fails ∧ (sources here i config).Pins height pinned ∧ height ≤ tip := by
  constructor
  · intro escapes
    cases escapes with
    | config _ escapes => exact absurd escapes (resolved_of_configured configured).2
    | sources _ isConfig _ breaksOff =>
        cases configured.symm.trans isConfig
        exact Or.inl breaksOff
    | file _ _ => exact absurd rfl (asksStore _)
    | noHeight isConfig sound pins reached =>
        cases configured.symm.trans isConfig
        exact Or.inr ⟨_, _, _, rfl, sound, pins, reached⟩
  · intro either
    rcases either with breaksOff | ⟨tip, height, pinned, rfl, sound, pins, reached⟩
    · exact .sources begins configured asksStore breaksOff
    · exact .noHeight configured sound pins reached

theorem not_unusable_of_configured (configured : configure here i = .ok config) (begins : request.Begins)
    (asksStore : request.AsksStore) : ¬Unusable here i (some request) := by
  obtain ⟨⟨base, isBase⟩, _⟩ := resolved_of_configured configured
  intro unusable
  cases unusable with
  | noHash unwritten => exact unwritten (begins _ _ rfl)
  | noConfig unresolved => cases isBase.symm.trans unresolved
  | noFile _ => exact asksStore _ rfl

theorem isDenied_iff (configured : configure here i = .ok config) :
    IsDenied here i request ↔ Denied here i config request := by
  constructor
  · intro isDenied
    rcases isDenied with ⟨other, isOther, denied⟩
    cases configured.symm.trans isOther
    exact denied
  · intro denied
    exact ⟨config, configured, denied⟩

/-- The code of a request to a store is right if it is right for every store that can be opened. -/
theorem fits_of_store (begins : request.Begins) (asksStore : request.AsksStore)
    (answer : Opened → Except Halt Ended)
    (fits : ∀ config opened, configure here i = .ok config → ¬(sources here i config).BreaksOff →
      ¬(sources here i config).Fails → opened.Holds (sources here i config) →
        Fits here i request (codeOf? (answer opened))) :
    Fits here i request (codeOf? (openStore here i >>= answer)) := by
  rcases configure_cases here i with ⟨config, _, configured, _⟩ | ⟨refusal, ended, refused, halted, two⟩ |
    ⟨escapes, escape, halted⟩
  · rcases openStore_cases configured with ⟨breaksOff, escape, halted⟩ | ⟨fit, fails, ended, halted, one⟩ |
      ⟨fit, sound, opened, isOpened, holds⟩
    · rw [halted]
      exact .escaped (.sources begins configured asksStore breaksOff)
    · have contained : ¬Escapes here i request := by
        rw [escapes_iff_of_configured configured begins asksStore]
        intro either
        rcases either with breaksOff | ⟨_, _, _, _, sound, _⟩
        · exact fit breaksOff
        · exact sound fails
      rw [halted]
      change Fits here i request (some ended.exit)
      rw [one]
      exact .denied contained (not_unusable_of_configured configured begins asksStore)
        ⟨config, configured, .load asksStore fails⟩
    · rw [isOpened]
      exact fits config opened configured fit sound holds
  · have stops : openStore here i = .error (.ended ended) := by
      unfold openStore
      rw [halted]
      rfl
    rw [stops]
    change Fits here i request (some ended.exit)
    rw [two]
    exact fits_of_refused refused
  · have stops : openStore here i = .error (.escaped escape) := by
      unfold openStore
      rw [halted]
      rfl
    rw [stops]
    exact .escaped (.config begins escapes)

theorem fits_of_verdict (configured : configure here i = .ok config) (begins : request.Begins)
    (asksStore : request.AsksStore) (fit : ¬(sources here i config).BreaksOff)
    (given : ∀ tip, request ≠ .canFork tip (.list [])) {verdict : Bool}
    (isDenied : verdict = false ↔ Denied here i config request) :
    Fits here i request (some (exitOf verdict)) := by
  have contained : ¬Escapes here i request := by
    rw [escapes_iff_of_configured configured begins asksStore]
    intro either
    rcases either with breaksOff | ⟨tip, _, _, same, _⟩
    · exact fit breaksOff
    · exact given tip same
  have usable := not_unusable_of_configured configured begins asksStore
  cases verdict with
  | false => exact .denied contained usable ((isDenied_iff configured).mpr (isDenied.mp rfl))
  | true =>
      refine .granted contained usable fun denied => ?_
      cases isDenied.mpr ((isDenied_iff configured).mp denied)

theorem fits_of_report (begins : request.Begins) (asksStore : request.AsksStore)
    (given : ∀ tip, request ≠ .canFork tip (.list []))
    (reports : ∀ config, Denied here i config request → (sources here i config).Fails)
    (answer : Opened → Ended) (zero : ∀ opened, (answer opened).exit = 0) :
    Fits here i request (codeOf? ((openStore here i).map answer)) := by
  refine fits_of_store begins asksStore (fun opened => .ok (answer opened)) ?_
  intro config opened configured fit sound _
  change Fits here i request (some (answer opened).exit)
  rw [zero opened]
  change Fits here i request (some (exitOf true))
  refine fits_of_verdict configured begins asksStore fit given (iff_of_false Bool.noConfusion ?_)
  exact fun denied => sound (reports config denied)

theorem fits_checkBlock {height : Int} {hash : Value} (typed : (∃ s, hash = .text s) ∨ hash = .list []) :
    Fits here i (.checkBlock height hash) (codeOf? (perform here i (.checkBlock height hash))) := by
  change Fits here i (.checkBlock height hash) (codeOf? (checkBlock here i height hash))
  unfold checkBlock
  cases read : Hash.ofValue hash with
  | error fault =>
      have unwritten : ¬Hash.Written hash := by
        rw [← Hash.ofValue_isOk_iff typed, read]
        intro impossible
        rcases impossible with ⟨_, impossible⟩
        cases impossible
      exact .unusable (not_escapes_of_not_begins fun begins => unwritten (begins _ _ rfl)) (.noHash unwritten)
  | ok got =>
      have written : Hash.Written hash := (Hash.ofValue_isOk_iff typed).mp ⟨got, read⟩
      have begins : (Request.checkBlock height hash).Begins := by
        intro _ _ same
        cases same
        exact written
      have asksStore : (Request.checkBlock height hash).AsksStore := fun _ impossible => by cases impossible
      refine fits_of_store begins asksStore _ ?_
      intro config opened configured fit sound holds
      refine fits_of_verdict configured begins asksStore fit (fun _ impossible => by cases impossible) ?_
      rw [holds.rejected_iff]
      constructor
      · intro rejected
        rcases rejected with ⟨natural, pinned, rfl, pins, other⟩
        exact .block pins other
      · intro denied
        cases denied with
        | load _ fails => exact absurd fails sound
        | block pins other => exact ⟨_, _, rfl, pins, other⟩

theorem fits_canFork {tip : Int} {blockHeight : Value}
    (typed : (∃ n, blockHeight = .int n) ∨ blockHeight = .list []) :
    Fits here i (.canFork tip blockHeight) (codeOf? (perform here i (.canFork tip blockHeight))) := by
  have begins : (Request.canFork tip blockHeight).Begins := fun _ _ impossible => by cases impossible
  have asksStore : (Request.canFork tip blockHeight).AsksStore := fun _ impossible => by cases impossible
  refine fits_of_store begins asksStore _ ?_
  intro config opened configured fit sound holds
  rcases typed with ⟨block, rfl⟩ | rfl
  · rw [holds.shaped.mayForkValue_int]
    refine fits_of_verdict configured begins asksStore fit (fun _ impossible => by cases impossible) ?_
    rw [holds.forbidden_iff]
    constructor
    · intro forbidden
      rcases forbidden with rfl | ⟨height, pinned, pins, reached, notAbove⟩
      · exact .firstBlock
      · exact .fork pins reached notAbove
    · intro denied
      cases denied with
      | load _ fails => exact absurd fails sound
      | firstBlock => exact Or.inl rfl
      | fork pins reached notAbove => exact Or.inr ⟨_, _, pins, reached, notAbove⟩
  · have escapes := escapes_iff_of_configured configured begins asksStore
    rcases holds.shaped.mayForkValue_empty tip with ⟨⟨height, member, reached⟩, answer⟩ | ⟨clear, answer⟩
    · obtain ⟨pinned, pins⟩ := holds.mem_pinnedHeights_iff.mp member
      rw [answer]
      exact .escaped (.noHeight configured sound pins reached)
    · rw [answer]
      refine .granted ?_ (not_unusable_of_configured configured begins asksStore) ?_
      · rw [escapes]
        intro either
        rcases either with breaksOff | ⟨_, height, pinned, same, _, pins, reached⟩
        · exact fit breaksOff
        · cases same
          exact clear ⟨height, holds.mem_pinnedHeights_iff.mpr ⟨pinned, pins⟩, reached⟩
      · rw [isDenied_iff configured]
        intro denied
        cases denied with
        | load _ fails => exact sound fails

theorem fits_verifyFile_of_configured {path : Path} (configured : configure here i = .ok config) :
    Fits here i (.verifyFile path) (codeOf? (verifyFile here i path)) := by
  obtain ⟨⟨base, isBase⟩, contained⟩ := resolved_of_configured configured
  have escapes : Escapes here i (.verifyFile path) ↔
      Hashfile.BreaksOff (Hashfile.read here.world.files path) := by
    constructor
    · intro escapes
      cases escapes with
      | config _ escapes => exact absurd escapes contained
      | sources _ _ asksStore _ => exact absurd rfl (asksStore path)
      | file _ breaksOff => exact breaksOff
    · exact fun breaksOff => .file configured breaksOff
  have unusable : Unusable here i (some (.verifyFile path)) ↔
      Hashfile.read here.world.files path = .ok none := by
    constructor
    · intro unusable
      cases unusable with
      | noConfig unresolved => cases isBase.symm.trans unresolved
      | noFile missing => exact missing
    · exact fun missing => .noFile missing
  have denied : IsDenied here i (.verifyFile path) ↔
      (∃ fault, Hashfile.read here.world.files path = .error (.source fault)) ∨
        ∃ lines, Hashfile.read here.world.files path = .ok (some lines) ∧
          Contradictory (hardcodedPoints config.network ++ Hashfile.points lines) := by
    rw [isDenied_iff configured]
    constructor
    · intro denied
      cases denied with
      | load asksStore _ => exact absurd rfl (asksStore path)
      | file unparseable => exact Or.inl ⟨_, unparseable⟩
      | lines read conflicting => exact Or.inr ⟨_, read, conflicting⟩
    · intro either
      rcases either with ⟨fault, unparseable⟩ | ⟨lines, read, conflicting⟩
      · exact .file unparseable
      · exact .lines read conflicting
  unfold verifyFile
  rw [configured]
  dsimp only [bind, Except.bind]
  cases read : Hashfile.read here.world.files path with
  | error error =>
      rw [read] at escapes unusable denied
      cases error with
      | search fault => exact .escaped (escapes.mpr (Or.inl ⟨fault, rfl⟩))
      | undecodable => exact .escaped (escapes.mpr (Or.inr rfl))
      | source fault =>
          refine .denied (escapes.not.mpr ?_) (unusable.not.mpr ?_) (denied.mpr (Or.inl ⟨fault, rfl⟩))
          · intro breaksOff
            rcases breaksOff with ⟨_, impossible⟩ | impossible <;> cases impossible
          · intro impossible
            cases impossible
  | ok found =>
      rw [read] at escapes unusable denied
      have contained : ¬Escapes here i (.verifyFile path) := by
        rw [escapes]
        intro breaksOff
        rcases breaksOff with ⟨_, impossible⟩ | impossible <;> cases impossible
      cases found with
      | none => exact .unusable contained (unusable.mpr rfl)
      | some lines =>
          have usable : ¬Unusable here i (some (.verifyFile path)) := by
            rw [unusable]
            intro impossible
            cases impossible
          obtain ⟨v, verified, weighs⟩ := Verification.verify_of_writable config.network path.text
            (Hashfile.read_writable read)
          have isDenied : IsDenied here i (.verifyFile path) ↔ v.ok = false := by
            rw [denied, ← Bool.not_eq_true, weighs.ok_iff, not_not]
            constructor
            · intro either
              rcases either with ⟨_, impossible⟩ | ⟨_, same, conflicting⟩
              · cases impossible
              · cases same
                exact conflicting
            · exact fun conflicting => Or.inr ⟨lines, rfl, conflicting⟩
          dsimp only
          rw [verified]
          change Fits here i (.verifyFile path) (some (exitOf v.ok))
          cases fine : v.ok with
          | false => exact .denied contained usable (isDenied.mpr fine)
          | true => exact .granted contained usable (isDenied.not.mpr (Bool.eq_false_iff.not_left.mpr fine))

theorem fits_verifyFile {path : Path} :
    Fits here i (.verifyFile path) (codeOf? (perform here i (.verifyFile path))) := by
  change Fits here i (.verifyFile path) (codeOf? (verifyFile here i path))
  rcases configure_cases here i with ⟨config, _, configured, _⟩ | ⟨refusal, ended, refused, halted, two⟩ |
    ⟨escapes, escape, halted⟩
  · exact fits_verifyFile_of_configured configured
  · have stops : verifyFile here i path = .error (.ended ended) := by
      unfold verifyFile
      rw [halted]
      rfl
    rw [stops]
    change Fits here i (.verifyFile path) (some ended.exit)
    rw [two]
    exact fits_of_refused refused
  · have stops : verifyFile here i path = .error (.escaped escape) := by
      unfold verifyFile
      rw [halted]
      rfl
    rw [stops]
    exact .escaped (.config (fun _ _ impossible => by cases impossible) escapes)

theorem fits_perform (here : Situation) (i : Invocation) (typed : request.Typed) :
    Fits here i request (codeOf? (perform here i request)) := by
  cases request with
  | summary =>
      refine fits_of_report (fun _ _ impossible => by cases impossible) (fun _ impossible => by cases impossible)
        (fun _ impossible => by cases impossible) (fun config denied => ?_) (summarize here) fun _ => rfl
      cases denied with
      | load _ fails => exact fails
  | dump =>
      refine fits_of_report (fun _ _ impossible => by cases impossible) (fun _ impossible => by cases impossible)
        (fun _ impossible => by cases impossible) (fun config denied => ?_) (dump here) fun _ => rfl
      cases denied with
      | load _ fails => exact fails
  | checkBlock height hash => exact fits_checkBlock typed
  | canFork tip blockHeight => exact fits_canFork typed
  | verifyFile path => exact fits_verifyFile

/-! ### Runs -/

theorem run_of_version (here : Situation) {arguments : List String}
    (read : Invocation.read arguments = .ok i) (version : i.version = true) :
    run here arguments = .ok ⟨0, Command.version ++ "\n", ""⟩ := by
  unfold run
  rw [read]
  exact if_pos version

theorem run_of_no_request (here : Situation) {arguments : List String}
    (read : Invocation.read arguments = .ok i) (noVersion : i.version = false) (noRequest : i.request = none) :
    run here arguments = .ok ⟨2, help none, ""⟩ := by
  unfold run
  simp only [read, noVersion, noRequest, Bool.false_eq_true, if_false]

theorem run_of_request (here : Situation) {arguments : List String} (read : Invocation.read arguments = .ok i)
    (noVersion : i.version = false) (isRequest : i.request = some request) :
    (∃ escape, run here arguments = .error escape) ∧ codeOf? (perform here i request) = none ∨
    ∃ ended, run here arguments = .ok ended ∧ codeOf? (perform here i request) = some ended.exit := by
  unfold run
  simp only [read, noVersion, isRequest, Bool.false_eq_true, if_false]
  cases perform here i request with
  | ok ended => exact Or.inr ⟨ended, rfl, rfl⟩
  | error halt =>
      cases halt with
      | ended ended => exact Or.inr ⟨ended, rfl, rfl⟩
      | escaped escape => exact Or.inl ⟨⟨escape, rfl⟩, rfl⟩

theorem demands_of_fits {code : Nat} (noVersion : i.version = false) (isRequest : i.request = some request)
    (fits : Fits here i request (some code)) : Demands here i code := by
  cases fits with
  | unusable _ unusable =>
      rw [← isRequest] at unusable
      exact .unusable noVersion unusable
  | denied _ usable denied =>
      rw [← isRequest] at usable
      exact .denied noVersion usable ⟨request, isRequest, denied⟩
  | granted _ usable granted =>
      rw [← isRequest] at usable
      refine .granted noVersion usable fun denied => ?_
      rcases denied with ⟨other, isOther, denied⟩
      cases isRequest.symm.trans isOther
      exact granted denied

theorem breaksOff_iff_escapes (noVersion : i.version = false) (isRequest : i.request = some request) :
    BreaksOff here i ↔ Escapes here i request := by
  constructor
  · intro breaksOff
    rcases breaksOff with ⟨_, other, isOther, escapes⟩
    cases isRequest.symm.trans isOther
    exact escapes
  · exact fun escapes => ⟨noVersion, request, isRequest, escapes⟩

theorem run_cases (here : Situation) {arguments : List String} (read : Invocation.read arguments = .ok i) :
    (BreaksOff here i ∧ ∃ escape, run here arguments = .error escape) ∨
    ¬BreaksOff here i ∧ ∃ ended, run here arguments = .ok ended ∧ Demands here i ended.exit := by
  cases version : i.version with
  | true =>
      refine Or.inr ⟨fun breaksOff => ?_, _, run_of_version here read version, .version version⟩
      cases version.symm.trans breaksOff.1
  | false =>
      cases isRequest : i.request with
      | none =>
          refine Or.inr ⟨fun breaksOff => ?_, _, run_of_no_request here read version isRequest, .unusable version ?_⟩
          · rcases breaksOff with ⟨_, _, isOther, _⟩
            cases isRequest.symm.trans isOther
          · rw [isRequest]
            exact .noRequest
      | some request =>
          have fits := fits_perform here i (typed_of_read read request isRequest)
          rw [breaksOff_iff_escapes version isRequest]
          rcases run_of_request here read version isRequest with ⟨escaped, code⟩ | ⟨ended, ran, code⟩
          · rw [code] at fits
            cases fits with
            | escaped escapes => exact Or.inl ⟨escapes, escaped⟩
          · rw [code] at fits
            have demanded := demands_of_fits version isRequest fits
            refine Or.inr ⟨?_, ended, ran, demanded⟩
            generalize ended.exit = exit at fits
            cases fits <;> assumption

/-- For a command line that can be read, a run ends with the code that is demanded exactly when no error
escapes from it; otherwise it ends in that error. -/
theorem exit_code_demanded_iff (here : Situation) {arguments : List String} (read : Invocation.read arguments = .ok i) :
    ((∃ ended, run here arguments = .ok ended ∧ ∀ code, ended.exit = code ↔ Demands here i code) ↔
        ¬BreaksOff here i) ∧
      (BreaksOff here i ↔ ∃ escape, run here arguments = .error escape) := by
  rcases run_cases here read with ⟨breaksOff, escape, escaped⟩ | ⟨contained, ended, ran, demanded⟩
  · refine ⟨iff_of_false (fun ends => ?_) (not_not_intro breaksOff), iff_of_true breaksOff ⟨escape, escaped⟩⟩
    rcases ends with ⟨ended, ran, _⟩
    cases escaped.symm.trans ran
  · refine ⟨iff_of_true ⟨ended, ran, fun code => ⟨?_, demanded.unique⟩⟩ contained,
      iff_of_false contained fun escaped => ?_⟩
    · intro same
      rw [← same]
      exact demanded
    · rcases escaped with ⟨escape, escaped⟩
      cases ran.symm.trans escaped

def bareSituation : Situation := ⟨.bare, .scripted [], [], ⟨"", 0⟩⟩

private theorem fork_of_first_block_code :
    (run bareSituation ["--network", "testnet", "can-fork", "5", "0"]).toOption.map Ended.exit = some 1 := by
  decide +kernel

theorem fork_of_first_block_denied :
    ∃ i, Invocation.read ["--network", "testnet", "can-fork", "5", "0"] = .ok i ∧
      ¬BreaksOff bareSituation i ∧ Demands bareSituation i 1 := by
  have read : Invocation.read ["--network", "testnet", "can-fork", "5", "0"] =
      .ok { onTestnet with request := some (.canFork 5 (.int 0)) } := rfl
  have demanded := exit_code_demanded_iff bareSituation read
  have code := fork_of_first_block_code
  cases ran : run bareSituation ["--network", "testnet", "can-fork", "5", "0"] with
  | error escape =>
      rw [ran] at code
      cases code
  | ok ended =>
      have contained : ¬BreaksOff bareSituation { onTestnet with request := some (.canFork 5 (.int 0)) } := by
        intro breaksOff
        obtain ⟨escape, escaped⟩ := demanded.2.mp breaksOff
        cases ran.symm.trans escaped
      obtain ⟨other, same, isCode⟩ := demanded.1.mpr contained
      cases ran.symm.trans same
      rw [ran] at code
      exact ⟨_, read, contained, (isCode 1).mp (Option.some.inj code)⟩

def unknownNetworkSituation : Situation := ⟨.bare, .scripted [], [("PINCHAIN_NETWORK", "moonnet")], ⟨"", 0⟩⟩

private theorem unknown_network_unresolved :
    (run unknownNetworkSituation ["show"]).toOption.map Ended.exit = none ∧
      (resolved unknownNetworkSituation { Invocation.empty with request := some .summary }).toOption.isSome =
        false := by
  decide +kernel

theorem no_code_for_unknown_network :
    ∃ i, Invocation.read ["show"] = .ok i ∧ Demands unknownNetworkSituation i 2 ∧
      ¬∃ ended, run unknownNetworkSituation ["show"] = .ok ended := by
  obtain ⟨noCode, unresolved⟩ := unknown_network_unresolved
  refine ⟨{ Invocation.empty with request := some .summary }, rfl, ?_, fun ends => ?_⟩
  · cases isResolved : resolved unknownNetworkSituation { Invocation.empty with request := some .summary } with
    | error error => exact .unusable rfl (.noConfig isResolved)
    | ok config =>
        rw [isResolved] at unresolved
        cases unresolved
  · rcases ends with ⟨ended, ran⟩
    rw [ran] at noCode
    cases noCode

end ReorgGuard.Command
