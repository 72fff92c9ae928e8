import ReorgGuard.Checkpoint.Verdict
import ReorgGuard.Proofs.Hash
import ReorgGuard.Proofs.Table.Growth

/-!
What the verdicts on blocks say about the pinned hashes.

A hash can be given as text in either case or as octets, however they are held.  A verdict depends on the hash that
is given and not on how: all spellings of one hash have the same verdict, records included, and what spells no hash
is turned away at pinned heights and nowhere else.

A height may be given by any value that can be looked up; nothing is pinned at one that equals no natural number.
-/

namespace ReorgGuard.Checkpoint

/-! ### Values that spell a hash -/

/-- The value is the text of the hash but for the case of letters, or its octets. -/
inductive Hash.SpelledBy (hash : Hash) : Value → Prop where
  | text {s : String} (lower : s.toList.map Char.toLower = hash.digits) : hash.SpelledBy (.text s)
  | octets (buffer : Buffer) : hash.SpelledBy (.octets buffer hash.octets)

namespace Hash

theorem spelledBy_text_iff {hash : Hash} {s : String} :
    hash.SpelledBy (.text s) ↔ s.toList.map Char.toLower = hash.digits := by
  constructor
  · intro spelled
    cases spelled with
    | text lower => exact lower
  · exact .text

theorem ofOctets_eq_ok_iff {octets : List UInt8} {hash : Hash} :
    ofOctets octets = .ok hash ↔ octets = hash.octets := by
  unfold ofOctets
  constructor
  · intro read
    split at read <;> cases read
    rfl
  · rintro rfl
    exact dif_pos hash.size

theorem ofValue_eq_ok_iff {value : Value} {hash : Hash} : ofValue value = .ok hash ↔ hash.SpelledBy value := by
  constructor
  · intro read
    cases value with
    | text s => exact .text (ofText_eq_ok_iff.mp read).lower
    | octets buffer octets =>
        cases ofOctets_eq_ok_iff.mp read
        exact .octets buffer
    | _ => cases read
  · intro spelled
    cases spelled with
    | text lower => exact ofText_eq_ok_iff.mpr (spelled_of_lower lower)
    | octets buffer => exact ofOctets_eq_ok_iff.mpr rfl

theorem SpelledBy.unique {one other : Hash} {value : Value} (first : one.SpelledBy value)
    (second : other.SpelledBy value) : one = other :=
  Except.ok.inj ((ofValue_eq_ok_iff.mpr first).symm.trans (ofValue_eq_ok_iff.mpr second))

theorem digits_inj {one other : Hash} : one.digits = other.digits ↔ one = other := by
  constructor
  · intro same
    have spelled : other.SpelledBy (.text one.text) :=
      .text (by rw [text, String.toList_ofList, one.spelled_digits.lower, same])
    exact Except.ok.inj (one.ofText_text.symm.trans (ofValue_eq_ok_iff.mpr spelled))
  · rintro rfl
    rfl

end Hash

namespace Table

variable {table : Table}

/-! ### A block at a height -/

theorem pinned?_natCast (table : Table) (height : Nat) : table.pinned? height = table.hash? height :=
  if_pos (Int.natCast_nonneg height)

theorem pinned?_eq_some_iff {height : Int} {hash : Hash} :
    table.pinned? height = some hash ↔ ∃ natural : Nat, height = natural ∧ table.hash? natural = some hash := by
  constructor
  · intro pinned
    unfold pinned? at pinned
    split at pinned
    case isTrue natural => exact ⟨height.toNat, (Int.toNat_of_nonneg natural).symm, pinned⟩
    case isFalse => cases pinned
  · intro pinned
    rcases pinned with ⟨natural, rfl, pinned⟩
    rwa [pinned?_natCast]

theorem check_accepted_iff (table : Table) (height : Int) (hash : Value) :
    (table.check height hash).check.accepted = true ↔
      ∀ expected, table.pinned? height = some expected → Hash.ofValue hash = .ok expected := by
  unfold check
  cases pinned : table.pinned? height with
  | none => simp
  | some expected =>
      cases read : Hash.ofValue hash with
      | error fault => simp
      | ok got => by_cases same : expected = got <;> simp [same, eq_comm]

theorem check_isCheckpoint_iff (table : Table) (height : Int) (hash : Value) :
    (table.check height hash).check.isCheckpoint = true ↔ ∃ expected, table.pinned? height = some expected := by
  unfold check
  cases pinned : table.pinned? height with
  | none => simp
  | some expected =>
      cases read : Hash.ofValue hash with
      | error fault => simp
      | ok got => by_cases same : expected = got <;> simp [same]

/-! ### Heights given by any value -/

def PinsAt (table : Table) (height : Value) (hash : Hash) : Prop :=
  ∃ natural : Nat, height.whole? = some (natural : Int) ∧ (natural, hash) ∈ table.points

/-- The answer is a verdict; it says whether the height is pinned and whether the block is accepted. -/
def Judged (answer : Except NoHeight Verdict) (isCheckpoint accepted : Prop) : Prop :=
  ∃ verdict, answer = .ok verdict ∧ (verdict.check.isCheckpoint = true ↔ isCheckpoint) ∧
    (verdict.check.accepted = true ↔ accepted)

theorem Shaped.pinsAt_iff (shaped : table.Shaped) {height : Value} {hash : Hash} :
    table.PinsAt height hash ↔ ∃ n, height.whole? = some n ∧ table.pinned? n = some hash := by
  simp only [PinsAt, shaped.mem_points_iff, pinned?_eq_some_iff]
  constructor
  · intro pinned
    rcases pinned with ⟨natural, whole, pinned⟩
    exact ⟨natural, whole, natural, rfl, pinned⟩
  · intro pinned
    rcases pinned with ⟨_, whole, natural, rfl, pinned⟩
    exact ⟨natural, whole, pinned⟩

theorem Shaped.pinsAt_unique (shaped : table.Shaped) {height : Value} {one other : Hash}
    (first : table.PinsAt height one) (second : table.PinsAt height other) : one = other := by
  obtain ⟨n, whole, pinned⟩ := shaped.pinsAt_iff.mp first
  obtain ⟨m, same, pinnedToo⟩ := shaped.pinsAt_iff.mp second
  cases whole.symm.trans same
  exact Option.some.inj (pinned.symm.trans pinnedToo)

theorem checkValue_congr {first second : Value} (same : Hash.ofValue first = Hash.ofValue second) (height : Value) :
    table.checkValue height first = table.checkValue height second := by
  unfold checkValue check
  rw [same]

/-- A block is accepted exactly if it spells what is pinned at its height. -/
theorem Shaped.checkValue_judged (shaped : table.Shaped) {height : Value} (isKey : height.isKey = true)
    (value : Value) :
    Judged (table.checkValue height value) (∃ pinned, table.PinsAt height pinned)
      (∀ pinned, table.PinsAt height pinned → pinned.SpelledBy value) := by
  unfold checkValue
  simp only [shaped.pinsAt_iff]
  rw [if_pos isKey]
  cases whole : height.whole? with
  | none => exact ⟨_, rfl, by simp, by simp⟩
  | some n =>
      refine ⟨table.check n value, rfl, ?_, ?_⟩
      · rw [check_isCheckpoint_iff]
        simp
      · rw [check_accepted_iff]
        simp [Hash.ofValue_eq_ok_iff]

theorem Shaped.checkValue_of_spelledBy (shaped : table.Shaped) {height : Value} (isKey : height.isKey = true)
    {hash : Hash} {value : Value} (spelled : hash.SpelledBy value) :
    Judged (table.checkValue height value) (∃ pinned, table.PinsAt height pinned)
      ((¬∃ pinned, table.PinsAt height pinned) ∨ table.PinsAt height hash) := by
  obtain ⟨verdict, answered, isCheckpoint, accepted⟩ := shaped.checkValue_judged isKey value
  refine ⟨verdict, answered, isCheckpoint, accepted.trans ?_⟩
  constructor
  · intro fits
    by_cases somePin : ∃ pinned, table.PinsAt height pinned
    · rcases somePin with ⟨pinned, pins⟩
      rw [spelled.unique (fits pinned pins)]
      exact Or.inr pins
    · exact Or.inl somePin
  · intro free pinned pins
    rcases free with nothing | same
    · exact absurd ⟨pinned, pins⟩ nothing
    · rwa [shaped.pinsAt_unique pins same]

theorem Shaped.checkValue_of_unreadable (shaped : table.Shaped) {height : Value} (isKey : height.isKey = true)
    {value : Value} (unreadable : ∀ hash : Hash, ¬hash.SpelledBy value) :
    Judged (table.checkValue height value) (∃ pinned, table.PinsAt height pinned)
      (¬∃ pinned, table.PinsAt height pinned) := by
  obtain ⟨verdict, answered, isCheckpoint, accepted⟩ := shaped.checkValue_judged isKey value
  refine ⟨verdict, answered, isCheckpoint, accepted.trans ?_⟩
  constructor
  · intro fits pinning
    rcases pinning with ⟨pinned, pins⟩
    exact unreadable pinned (fits pinned pins)
  · intro nothing pinned pins
    exact absurd ⟨pinned, pins⟩ nothing

/-- The texts of a hash are its sixty-four hexadecimal digits in either case, and on every table that operations can
make the verdict on a block depends on its hash alone, not on how the hash is spelled. -/
theorem verdict_depends_on_hash_alone (operations : List Operation) :
    let table := empty.performAll operations
    (∀ s : String,
      ((∃ hash, Hash.ofValue (.text s) = .ok hash) ↔
        s.toList.length = 64 ∧ ∀ c ∈ s.toList, c ∈ Numeral.hexDigits) ∧
      ∀ hash, Hash.ofValue (.text s) = .ok hash → hash.text.toList = s.toList.map Char.toLower) ∧
    (∀ (hash : Hash) (value : Value), Hash.ofValue value = .ok hash ↔ hash.SpelledBy value) ∧
    (∀ (s t : String) (one other : Hash),
      Hash.ofValue (.text s) = .ok one → Hash.ofValue (.text t) = .ok other →
        (one = other ↔ s.toList.map Char.toLower = t.toList.map Char.toLower)) ∧
    (∀ (height : Value) (hash : Hash) (first second : Value), hash.SpelledBy first → hash.SpelledBy second →
      table.checkValue height first = table.checkValue height second) ∧
    (∀ height : Value, height.isKey = true →
      (∀ (hash : Hash) (value : Value), hash.SpelledBy value →
        Judged (table.checkValue height value) (∃ pinned, table.PinsAt height pinned)
          ((¬∃ pinned, table.PinsAt height pinned) ∨ table.PinsAt height hash)) ∧
      (∀ value : Value, (∀ hash : Hash, ¬hash.SpelledBy value) →
        Judged (table.checkValue height value) (∃ pinned, table.PinsAt height pinned)
          (¬∃ pinned, table.PinsAt height pinned))) := by
  intro table
  have shaped : table.Shaped := performAll_shaped shaped_empty operations
  refine ⟨fun s => ⟨?_, fun hash read => ?_⟩, fun hash value => Hash.ofValue_eq_ok_iff,
    fun s t one other first second => ?_, fun height hash first second one other => ?_,
    fun height isKey => ⟨fun hash value spelled => shaped.checkValue_of_spelledBy isKey spelled,
      fun value unreadable => shaped.checkValue_of_unreadable isKey unreadable⟩⟩
  · simp only [← Numeral.isHex_iff_mem]
    exact Hash.ofText_isOk_iff s
  · rw [Hash.text, String.toList_ofList]
    exact (Hash.spelledBy_text_iff.mp (Hash.ofValue_eq_ok_iff.mp read)).symm
  · rw [Hash.spelledBy_text_iff.mp (Hash.ofValue_eq_ok_iff.mp first),
      Hash.spelledBy_text_iff.mp (Hash.ofValue_eq_ok_iff.mp second), Hash.digits_inj]
  · exact checkValue_congr ((Hash.ofValue_eq_ok_iff.mpr one).trans (Hash.ofValue_eq_ok_iff.mpr other).symm) height

end Table

end ReorgGuard.Checkpoint
