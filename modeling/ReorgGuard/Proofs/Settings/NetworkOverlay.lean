import Mathlib.Data.List.Find
import ReorgGuard.Proofs.Settings.Precedence

/-!
Which network's file lies under a configuration file.

The file is chosen by the network that the configuration file names, or that is asked for, before anything
else has a say.  So it is that of the network a node runs on where the configuration file names one.  Where it
names none the file of the usual network is taken, whatever this file itself or the environment make of the
network afterwards.
-/

namespace ReorgGuard

/-! ### Paths of files of networks -/

theorem Text.splitAt_ne_nil (mark : Char) (cs : List Char) : splitAt mark cs ≠ [] := by
  induction cs with
  | nil => exact List.cons_ne_nil _ _
  | cons c rest ih =>
      rw [splitAt]
      split
      · exact List.cons_ne_nil _ _
      · split <;> exact List.cons_ne_nil _ _

theorem Text.splitAt_cons_of_ne {mark c : Char} (other : c ≠ mark) (cs : List Char) :
    ∃ piece others, splitAt mark (c :: cs) = (c :: piece) :: others := by
  rw [splitAt, if_neg other]
  cases pieces : splitAt mark cs with
  | nil => exact absurd pieces (splitAt_ne_nil mark cs)
  | cons piece others => exact ⟨piece, others, rfl⟩

theorem Path.ofText_of_first {s : String} {c : Char} {cs : List Char} (isText : s.toList = c :: cs)
    (noSlash : c ≠ '/') (noDot : c ≠ '.') :
    (ofText s).isAbsolute = false ∧ ∃ piece others, (ofText s).parts = String.ofList (c :: piece) :: others := by
  have isRoot : rootOf (c :: cs) = .relative := by
    unfold rootOf
    split
    · rename_i same
      exact absurd (List.cons.inj same).1 noSlash
    · rename_i same
      exact absurd (List.cons.inj same).1 noSlash
    · rename_i same
      exact absurd (List.cons.inj same).1 noSlash
    · rfl
  obtain ⟨piece, others, pieces⟩ := Text.splitAt_cons_of_ne noSlash cs
  have kept : (c :: piece ≠ [] && c :: piece ≠ ['.']) = true := by
    have unlike : c :: piece ≠ ['.'] := fun same => noDot (List.cons.inj same).1
    simp [unlike]
  refine ⟨?_, piece, (others.filter fun p => p ≠ [] && p ≠ ['.']).map String.ofList, ?_⟩
  · simp [isAbsolute, ofText, isText, isRoot]
  · simp only [ofText, isText, pieces]
    rw [List.filter_cons, if_pos kept, List.map_cons]

namespace Settings

theorem first_of_networkFile_eq {path : Path} {first second : String} {c d : Char} {cs ds : List Char}
    (isFirst : first.toList = c :: cs) (isSecond : second.toList = d :: ds)
    (plain : c ≠ '/' ∧ c ≠ '.') (plainSecond : d ≠ '/' ∧ d ≠ '.')
    (same : networkFile path first = networkFile path second) : c = d := by
  have isText : (first ++ ".yaml").toList = c :: (cs ++ ".yaml".toList) := by
    rw [String.toList_append, isFirst, List.cons_append]
  have isOther : (second ++ ".yaml").toList = d :: (ds ++ ".yaml".toList) := by
    rw [String.toList_append, isSecond, List.cons_append]
  obtain ⟨relative, piece, others, parts⟩ := Path.ofText_of_first isText plain.1 plain.2
  obtain ⟨relativeOther, pieceOther, othersOther, partsOther⟩ :=
    Path.ofText_of_first isOther plainSecond.1 plainSecond.2
  unfold networkFile Path.child at same
  generalize path.parent.join (Path.ofText "networks") = directory at same
  rw [Path.join, Path.join, relative, relativeOther, parts, partsOther] at same
  have sameParts := List.append_cancel_left (Path.mk.inj same).2
  exact (List.cons.inj (String.ofList_injective (List.cons.inj sameParts).1)).1

theorem networkFile_name_inj {path : Path} {first second : Checkpoint.Network}
    (same : networkFile path first.name = networkFile path second.name) : first = second := by
  cases first <;> cases second <;> first
    | rfl
    | exact absurd (first_of_networkFile_eq rfl rfl (by decide) (by decide) same) (by decide)

/-! ### The file that is chosen -/

def overlayOf? (files : Files) (path : Path) (name : String) : Option Path :=
  match isThere files (networkFile path name) with
  | .ok true => some (networkFile path name)
  | _ => none

/-- What a configuration file hands over with the file of a network, or none, under it. -/
def HandsOver (files : Files) (path : Path) (own : Mapping) (overlay : Option Path)
    (given : List (Value × Value)) : Prop :=
  match overlay with
  | none => given = withDirectory path own.entries
  | some place => ∃ general, mapping files place = .ok general ∧
      given = withDirectory path (Value.merge general.entries own.entries)

def configurationFile? (files : Files) (root : Path) : Except ResolveError (Option Path) := do
  if ← isThere files (userFile root) then .ok (some (userFile root))
  else if ← isThere files (generalFile root) then .ok (some (generalFile root))
  else .ok none

/-- No key but the name itself spells the name of the network. -/
def OneSpelling (given : List (Value × Value)) : Prop :=
  ∀ e ∈ given, spells "network" e.1 = true → e.1 = .text "network"

variable {files : Files} {environment : Environment} {path root : Path} {network : Option String}
  {configuration : Config} {own : Mapping} {name : String} {given : List (Value × Value)}

theorem resolve_eq_ofFile {asked : Option Value} (found : configurationFile? files root = .ok (some path)) :
    resolve files environment root asked = ofFile files environment path asked := by
  unfold configurationFile? at found
  unfold resolve
  obtain ⟨isUser, found_user, found⟩ := Fallible.bind_eq_ok_iff.mp found
  rw [found_user]
  cases isUser with
  | true =>
      cases found
      rfl
  | false =>
      obtain ⟨isGeneral, found_general, found⟩ := Fallible.bind_eq_ok_iff.mp found
      change (isThere files (generalFile root) >>= _) = _
      rw [found_general]
      cases isGeneral with
      | true =>
          cases found
          rfl
      | false => cases found

theorem overlayOf?_eq_iff {other : String} : overlayOf? files path name = overlayOf? files path other ↔
    networkFile path name = networkFile path other ∨
      overlayOf? files path name = none ∧ overlayOf? files path other = none := by
  constructor
  · intro same
    cases isOverlay : overlayOf? files path name with
    | none => exact Or.inr ⟨rfl, same.symm.trans isOverlay⟩
    | some place =>
        have isOther := same.symm.trans isOverlay
        unfold overlayOf? at isOverlay isOther
        split at isOverlay
        · cases isOverlay
          split at isOther
          · exact Or.inl (Option.some.inj isOther).symm
          · cases isOther
        · cases isOverlay
  · rintro (same | ⟨isNone, otherNone⟩)
    · unfold overlayOf?
      rw [same]
    · rw [isNone, otherNone]

theorem handsOver_of_fileEntries (made : fileEntries files path network = .ok given) :
    ∃ own name, ownMapping files path network = .ok own ∧ networkName own = .ok name ∧
      HandsOver files path own (overlayOf? files path name) given := by
  obtain ⟨own, isOwn, made⟩ := Fallible.bind_eq_ok_iff.mp made
  obtain ⟨entries, isLayered, same⟩ := Fallible.bind_eq_ok_iff.mp made
  cases same
  obtain ⟨name, isName, ⟨missing, rfl⟩ | ⟨there, general, isGeneral, rfl⟩⟩ := layered_cases isLayered
  · refine ⟨own, name, isOwn, isName, ?_⟩
    unfold overlayOf?
    rw [missing]
    exact rfl
  · refine ⟨own, name, isOwn, isName, ?_⟩
    unfold overlayOf?
    rw [there]
    exact ⟨general, isGeneral, rfl⟩

theorem HandsOver.field?_network {overlay : Option Path} (hands : HandsOver files path own overlay given)
    (sound : own.Sound) {value : Value} (isOwn : Value.field? own.entries "network" = some value) :
    ∃ below, Value.field? given "network" = some (Value.laid below value) := by
  cases overlay with
  | none =>
      refine ⟨none, ?_⟩
      change given = _ at hands
      rw [hands, field?_withDirectory path _ (by decide), isOwn]
      rfl
  | some place =>
      obtain ⟨general, _, rfl⟩ := hands
      refine ⟨Value.field? general.entries "network", ?_⟩
      rw [field?_withDirectory path _ (by decide), Value.field?_merge (Value.tidy_dict_iff.mp sound.tidy).1, isOwn]

/-! ### The network that is read -/

theorem field?_properFields_of_oneSpelling (once : OneSpelling given) :
    Value.field? (properFields given) "network" = Value.field? given "network" := by
  rw [field?_properFields given (by decide), Value.field?, Value.entry?]
  congr 1
  refine List.find?_congr fun e member => ?_
  rw [Bool.eq_iff_iff, Value.sameKey_text_iff]
  exact ⟨once e member, spells_of_eq (by decide)⟩

theorem network_eq_passed {value : Value} {found : Checkpoint.Network}
    (passed : Settings.network value = .passed found) :
    value = .text found.name ∨ ∃ bytes, value = .octets .fixed bytes := by
  unfold Settings.network at passed
  split at passed
  · rename_i s
    cases isName : Checkpoint.Network.ofName? s with
    | none =>
        rw [isName] at passed
        cases passed
    | some other =>
        rw [isName] at passed
        cases passed
        have same := List.find?_some isName
        rw [eq_of_beq same]
        exact Or.inl rfl
  · exact Or.inr ⟨_, rfl⟩
  · cases passed
  · cases passed

theorem first_of_name (network : Checkpoint.Network) :
    ∃ c cs, network.name.toList = c :: cs ∧ c ≠ '/' ∧ c ≠ '.' ∧ c ≠ 'b' := by
  cases network <;> exact ⟨_, _, rfl, by decide⟩

/-- Octets are written with a letter in front with which no network begins. -/
theorem networkFile_octets_ne (path : Path) (bytes : List UInt8) (network : Checkpoint.Network) :
    networkFile path (Value.quoteOctets bytes) ≠ networkFile path network.name := by
  intro same
  obtain ⟨c, cs, isName, noSlash, noDot, other⟩ := first_of_name network
  have isOctets : (Value.quoteOctets bytes).toList = 'b' :: (Value.quoteOctets bytes).toList.tail := by
    rw [Value.quoteOctets, String.toList_ofList]
    rfl
  exact other (first_of_networkFile_eq isOctets isName (by decide) ⟨noSlash, noDot⟩ same).symm

theorem Mapping.Sound.networkName (sound : own.Sound) (isName : networkName own = .ok name) :
    (Value.field? own.entries "network" = none → name = Checkpoint.Network.mainnet.name) ∧
      ∀ value, Value.field? own.entries "network" = some value → value.IsPlain → (∀ s, value ≠ .ragged s) →
        value.display? = some name := by
  unfold Settings.networkName at isName
  constructor
  · intro missing
    rw [(sound.written.none_iff _).mpr missing] at isName
    exact (Except.ok.inj isName).symm
  · intro value isOwn plain whole
    rw [sound.written.plain _ _ isOwn plain] at isName
    cases shown : value.display? with
    | none =>
        rw [shown] at isName
        cases isName
    | some text =>
        simp only [shown, isOwn] at isName
        split at isName
        · rename_i isRagged
          exact absurd (Option.some.inj isRagged) (whole _)
        · exact congrArg some (Except.ok.inj isName)

theorem network_of_own (unguided : Unguided given) (once : OneSpelling given) (tidy : Value.Tidy (.dict given))
    (sound : own.Sound) {overlay : Option Path} (hands : HandsOver files path own overlay given)
    (built : build files environment given = .ok configuration) {value : Value}
    (isOwn : Value.field? own.entries "network" = some value) :
    Settings.network value = .passed configuration.network := by
  obtain ⟨below, isGiven⟩ := hands.field?_network sound isOwn
  obtain ⟨outside, _, read⟩ := config_of_build unguided built
  have decided := read_of_config (tidy_properFields tidy) read networkLeaf_mem
  have isHanded : Value.at? (properFields given) networkLeaf.place = some (Value.laid below value) :=
    (field?_properFields_of_oneSpelling once).trans isGiven
  rw [isHanded] at decided
  change Settings.network (Value.laid _ (Value.laid below value)) = .passed configuration.network at decided
  by_cases isDict : ∃ entries, value = .dict entries
  · -- A mapping in this place stays one whatever is laid over what, and no network is read from it.
    obtain ⟨entries, rfl⟩ := isDict
    obtain ⟨inner, isInner⟩ := Value.laid_stays_dict below entries
    obtain ⟨outer, isOuter⟩ := Value.laid_stays_dict (Value.at? outside networkLeaf.place) inner
    rw [isInner, isOuter] at decided
    cases decided
  · rw [Value.laid_of_not_dict (not_exists.mp isDict), Value.laid_of_not_dict (not_exists.mp isDict)] at decided
    exact decided

/-- The file under a configuration file is that of the network that is run exactly in these cases: the
configuration file names no network and the usual one is run, or it names one as text, or there is no file
of either network. -/
theorem overlay_of_network_iff
    (made : ofFile files environment path (network.map .text) = .ok configuration ∨
      ∃ root, configurationFile? files root = .ok (some path) ∧
        resolve files environment root (network.map .text) = .ok configuration) :
    ∃ own name given, ownMapping files path network = .ok own ∧ networkName own = .ok name ∧
      HandsOver files path own (overlayOf? files path name) given ∧
      build files environment given = .ok configuration ∧
      (Value.field? own.entries "network" = none →
        (overlayOf? files path name = overlayOf? files path configuration.network.name ↔
          configuration.network = .mainnet ∨
            overlayOf? files path name = none ∧ overlayOf? files path configuration.network.name = none)) ∧
      (Unguided given → OneSpelling given → ∀ value, Value.field? own.entries "network" = some value →
        (overlayOf? files path name = overlayOf? files path configuration.network.name ↔
          (∃ s, value = .text s) ∨
            overlayOf? files path name = none ∧ overlayOf? files path configuration.network.name = none)) := by
  have isMade : ofFile files environment path (network.map .text) = .ok configuration := by
    rcases made with made | ⟨root, found, made⟩
    · exact made
    · rw [← resolve_eq_ofFile found]
      exact made
  obtain ⟨given, isGiven, built⟩ := build_of_ofFile isMade
  obtain ⟨own, name, isOwn, isName, hands⟩ := handsOver_of_fileEntries isGiven
  have sound := sound_ownMapping isOwn
  obtain ⟨missing, shown⟩ := sound.networkName isName
  refine ⟨own, name, given, isOwn, isName, hands, built, fun isMissing => ?_, fun unguided once value isValue => ?_⟩
  -- Without a network in the mapping the name is the usual one; with one it is what is read, or octets as written.
  · rw [overlayOf?_eq_iff, missing isMissing]
    refine or_congr_left ⟨fun same => (networkFile_name_inj same).symm, fun same => ?_⟩
    rw [same]
  · rw [overlayOf?_eq_iff]
    refine or_congr_left ?_
    have passed := network_of_own unguided once (tidy_fileEntries isGiven) sound hands built isValue
    rcases network_eq_passed passed with rfl | ⟨bytes, rfl⟩
    · have same : configuration.network.name = name := Option.some.inj (shown _ isValue trivial nofun)
      refine iff_of_true ?_ ⟨_, rfl⟩
      rw [same]
    · have same : Value.quoteOctets bytes = name := Option.some.inj (shown _ isValue trivial nofun)
      refine iff_of_false ?_ fun impossible => ?_
      · rw [← same]
        exact networkFile_octets_ne path bytes configuration.network
      · obtain ⟨_, impossible⟩ := impossible
        cases impossible

def withOverlays (text : String) : Files :=
  ⟨["work"], [(["work", "default.yaml"], .file text.toUTF8.toList), (["work", "networks"], .directory),
    (["work", "networks", "mainnet.yaml"], .file "\"checkpoints_file\": \"main.json\"\n".toUTF8.toList),
    (["work", "networks", "testnet.yaml"], .file "\"checkpoints_file\": \"test.json\"\n".toUTF8.toList)]⟩

def namesTestnet : String := "\"network\": \"testnet\"\n"

theorem handed_with_testnet {given : List (Value × Value)} {own : Mapping} {name : String}
    (isOwn : ownMapping (withOverlays namesTestnet) (Path.ofText "default.yaml") none = .ok own)
    (isName : networkName own = .ok name)
    (hands : HandsOver (withOverlays namesTestnet) (Path.ofText "default.yaml") own
      (overlayOf? (withOverlays namesTestnet) (Path.ofText "default.yaml") name) given) :
    Value.field? own.entries "network" = some (.text "testnet") ∧ name = "testnet" ∧
      Unguided given ∧ OneSpelling given := by
  have facts : (ownMapping (withOverlays namesTestnet) (Path.ofText "default.yaml") none).toOption.any (fun own =>
      (Value.field? own.entries "network").any (·.sameKey (.text "testnet")) &&
        (mapping (withOverlays namesTestnet) (networkFile (Path.ofText "default.yaml") "testnet")).toOption.any
          fun general =>
            let given := withDirectory (Path.ofText "default.yaml") (Value.merge general.entries own.entries)
            (Manner.names.all fun name => (asked? given name).isNone) &&
              given.all fun e => !spells "network" e.1 || e.1.sameKey (.text "network")) = true := by
    decide +kernel
  obtain ⟨_, sameOwn, facts⟩ := Fallible.exists_ok_of_any facts
  rw [isOwn] at sameOwn
  cases sameOwn
  obtain ⟨isTestnet, facts⟩ := (Bool.and_eq_true _ _).mp facts
  obtain ⟨general, isGeneral, facts⟩ := Fallible.exists_ok_of_any facts
  obtain ⟨unasked, once⟩ := (Bool.and_eq_true _ _).mp facts
  have isNamed := eq_text_of_any isTestnet
  have same : "testnet" = name :=
    Option.some.inj (((sound_ownMapping isOwn).networkName isName).2 _ isNamed trivial nofun)
  subst same
  have there : overlayOf? (withOverlays namesTestnet) (Path.ofText "default.yaml") "testnet" =
      some (networkFile (Path.ofText "default.yaml") "testnet") := by decide +kernel
  rw [there] at hands
  obtain ⟨_, sameGeneral, rfl⟩ := hands
  rw [isGeneral] at sameGeneral
  cases sameGeneral
  refine ⟨isNamed, rfl, fun name member => ?_, fun e member spelled => ?_⟩
  · exact Option.isNone_iff_eq_none.mp (List.all_eq_true.mp unasked name member)
  · have unlike := List.all_eq_true.mp once e member
    rw [spelled] at unlike
    exact Value.sameKey_text_iff.mp unlike

/-- The file of the usual network is right where none is named, and that of a network the file names is right
whatever the environment says. -/
theorem overlay_of_usual_or_named_network :
    (∃ configuration, ofFile (withOverlays "") [] (Path.ofText "default.yaml") none = .ok configuration ∧
      overlayOf? (withOverlays "") (Path.ofText "default.yaml") Checkpoint.Network.mainnet.name =
        overlayOf? (withOverlays "") (Path.ofText "default.yaml") configuration.network.name) ∧
      ∃ configuration, ofFile (withOverlays namesTestnet) [("PINCHAIN_NETWORK", "mainnet")]
          (Path.ofText "default.yaml") none = .ok configuration ∧
        configuration.checkpointsFile = some (Path.ofText "test.json") ∧
        overlayOf? (withOverlays namesTestnet) (Path.ofText "default.yaml") "testnet" =
          overlayOf? (withOverlays namesTestnet) (Path.ofText "default.yaml") configuration.network.name := by
  constructor
  · have any : (ofFile (withOverlays "") [] (Path.ofText "default.yaml")
        ((none : Option String).map .text)).toOption.any (·.network = .mainnet) = true := by decide +kernel
    obtain ⟨configuration, made, isMainnet⟩ := Fallible.exists_ok_of_any any
    obtain ⟨own, name, _, isOwn, isName, _, _, unnamed, _⟩ := overlay_of_network_iff (.inl made)
    have empty : (ownMapping (withOverlays "") (Path.ofText "default.yaml") none).toOption.any (fun own =>
        (Value.field? own.entries "network").isNone) = true := by decide +kernel
    obtain ⟨_, sameOwn, missing⟩ := Fallible.exists_ok_of_any empty
    rw [isOwn] at sameOwn
    cases sameOwn
    have isMissing := Option.isNone_iff_eq_none.mp missing
    have right := (unnamed isMissing).mpr (.inl (of_decide_eq_true isMainnet))
    rw [((sound_ownMapping isOwn).networkName isName).1 isMissing] at right
    exact ⟨configuration, made, right⟩
  · have any : (ofFile (withOverlays namesTestnet) [("PINCHAIN_NETWORK", "mainnet")] (Path.ofText "default.yaml")
        ((none : Option String).map .text)).toOption.any
          (·.checkpointsFile = some (Path.ofText "test.json")) = true := by decide +kernel
    obtain ⟨configuration, made, isTest⟩ := Fallible.exists_ok_of_any any
    obtain ⟨own, name, given, isOwn, isName, hands, _, _, named⟩ := overlay_of_network_iff (.inl made)
    obtain ⟨isNamed, rfl, unguided, once⟩ := handed_with_testnet isOwn isName hands
    have right := (named unguided once _ isNamed).mpr (.inl ⟨_, rfl⟩)
    exact ⟨configuration, made, of_decide_eq_true isTest, right⟩

theorem overlay_of_other_network :
    ∃ configuration own name,
      ofFile (withOverlays "") [("PINCHAIN_NETWORK", "testnet")] (Path.ofText "default.yaml") none = .ok configuration ∧
      ownMapping (withOverlays "") (Path.ofText "default.yaml") none = .ok own ∧ networkName own = .ok name ∧
      configuration.network = .testnet ∧ configuration.checkpointsFile = some (Path.ofText "main.json") ∧
      overlayOf? (withOverlays "") (Path.ofText "default.yaml") name ≠
        overlayOf? (withOverlays "") (Path.ofText "default.yaml") configuration.network.name := by
  have any : (ofFile (withOverlays "") [("PINCHAIN_NETWORK", "testnet")] (Path.ofText "default.yaml")
      none).toOption.any (fun configuration => configuration.network = .testnet &&
        configuration.checkpointsFile = some (Path.ofText "main.json")) = true := by decide +kernel
  obtain ⟨configuration, made, isRead⟩ := Fallible.exists_ok_of_any any
  obtain ⟨isTestnet, isMain⟩ := (Bool.and_eq_true _ _).mp isRead
  have named : (ownMapping (withOverlays "") (Path.ofText "default.yaml") none).toOption.any (fun own =>
      (networkName own).toOption.any (· = "mainnet")) = true := by decide +kernel
  obtain ⟨own, isOwn, named⟩ := Fallible.exists_ok_of_any named
  obtain ⟨name, isName, isMainnet⟩ := Fallible.exists_ok_of_any named
  refine ⟨configuration, own, name, made, isOwn, isName, of_decide_eq_true isTestnet, of_decide_eq_true isMain, ?_⟩
  rw [of_decide_eq_true isTestnet, of_decide_eq_true isMainnet]
  decide +kernel

end Settings

end ReorgGuard
