import ReorgGuard.Feed.Address

/-!
Addresses that are not reachable from everywhere.

Each kind of such addresses is a few spans of values, from a first to a last one.  The blocks that are not
public cover the spans of every kind but two: the addresses that carriers share among their customers, and
the former site-local ones.
-/

namespace ReorgGuard.Feed.Address

/-! ### Kinds of addresses -/

structure Span where
  first : Nat
  last : Nat

def Span.holds (span : Span) (value : Nat) : Prop :=
  span.first ≤ value ∧ value ≤ span.last

instance (span : Span) (value : Nat) : Decidable (span.holds value) :=
  inferInstanceAs (Decidable (_ ∧ _))

/-- From the first address that starts with some groups to the last one that starts with others. -/
def groups (first last : List Nat) : Span :=
  { first := leading first
    last := ofGroups (last ++ List.replicate (8 - last.length) 0xFFFF) }

/-- The kinds of addresses that are not reachable from everywhere. -/
inductive Scope where
  | unspecified
  | loopback
  | privateUse
  | linkLocal
  /-- The predecessor of private use in the sixth version. -/
  | siteLocal
  | multicast
  | reserved
  /-- Shared by the customers of a carrier, and where some clouds keep their metadata services. -/
  | shared

namespace Scope

def four : Scope → List Span
  | unspecified => [⟨dotted 0 0 0 0, dotted 0 255 255 255⟩]
  | loopback => [⟨dotted 127 0 0 0, dotted 127 255 255 255⟩]
  | privateUse =>
      [⟨dotted 10 0 0 0, dotted 10 255 255 255⟩, ⟨dotted 172 16 0 0, dotted 172 31 255 255⟩,
        ⟨dotted 192 168 0 0, dotted 192 168 255 255⟩]
  | linkLocal => [⟨dotted 169 254 0 0, dotted 169 254 255 255⟩]
  | siteLocal => []
  | multicast => [⟨dotted 224 0 0 0, dotted 239 255 255 255⟩]
  | reserved => [⟨dotted 240 0 0 0, dotted 255 255 255 255⟩]
  | shared => [⟨dotted 100 64 0 0, dotted 100 127 255 255⟩]

def six : Scope → List Span
  | unspecified => [⟨0, 0⟩]
  | loopback => [⟨1, 1⟩]
  | privateUse => [groups [0xFC00] [0xFDFF]]
  | linkLocal => [groups [0xFE80] [0xFEBF]]
  | siteLocal => [groups [0xFEC0] [0xFEFF]]
  | multicast => [groups [0xFF00] [0xFFFF]]
  | reserved =>
      [groups [0x0000] [0x00FF], groups [0x0100] [0x01FF], groups [0x0200] [0x03FF], groups [0x0400] [0x07FF],
        groups [0x0800] [0x0FFF], groups [0x1000] [0x1FFF], groups [0x4000] [0x5FFF], groups [0x6000] [0x7FFF],
        groups [0x8000] [0x9FFF], groups [0xA000] [0xBFFF], groups [0xC000] [0xDFFF], groups [0xE000] [0xEFFF],
        groups [0xF000] [0xF7FF], groups [0xF800] [0xFBFF], groups [0xFE00] [0xFE7F]]
  | shared => []

def holds (scope : Scope) : Address → Prop
  | v4 value => ∃ span ∈ scope.four, span.holds value
  | v6 value => ∃ span ∈ scope.six, span.holds value

instance (scope : Scope) (a : Address) : Decidable (scope.holds a) :=
  match a with
  | v4 value => inferInstanceAs (Decidable (∃ span ∈ scope.four, span.holds value))
  | v6 value => inferInstanceAs (Decidable (∃ span ∈ scope.six, span.holds value))

end Scope

/-- Where an address of the sixth version carries one of the fourth version: behind some groups and in front
of some more bits. -/
structure Embedding where
  head : List Nat
  tail : Nat

/-- Compatible, mapped and translated addresses, and those of relays between the two versions. -/
def embeddings : List Embedding :=
  [⟨[], 0⟩, ⟨[0, 0, 0, 0, 0, 0xFFFF], 0⟩, ⟨[0x64, 0xFF9B], 0⟩, ⟨[0x2002], 80⟩]

def Embedding.value (embedding : Embedding) (inner rest : Nat) : Nat :=
  leading embedding.head + (inner * Nat.pow 2 embedding.tail + rest)

def Carries (a : Address) (inner : Nat) : Prop :=
  ∃ embedding ∈ embeddings, ∃ rest < Nat.pow 2 embedding.tail,
    inner < Nat.pow 2 32 ∧ a = v6 (embedding.value inner rest)

/-- Neither the address nor one that it carries is of any kind that is not reachable from everywhere. -/
def GloballyReachable (a : Address) : Prop :=
  ∀ scope : Scope, ¬scope.holds a ∧ ∀ inner, Carries a inner → ¬scope.holds (v4 inner)

/-! ### Spans and blocks -/

def Block.encloses (width : Nat) (span : Span) (block : Block) : Bool :=
  block.holds width span.first && block.holds width span.last

def Block.misses (width : Nat) (span : Span) (block : Block) : Bool :=
  let size := Nat.pow 2 (width - block.bits)
  span.last / size < block.base / size || block.base / size < span.first / size

variable {width value : Nat} {span : Span} {block : Block}

theorem Block.holds_of_encloses (encloses : block.encloses width span = true) (inside : span.holds value) :
    block.holds width value = true := by
  simp only [Block.encloses, Block.holds, Bool.and_eq_true, beq_iff_eq] at encloses ⊢
  -- The quotient lies between those of the two ends, which are both the one of the base.
  apply Nat.le_antisymm
  · rw [← encloses.2]
    exact Nat.div_le_div_right inside.2
  · rw [← encloses.1]
    exact Nat.div_le_div_right inside.1

theorem Block.not_holds_of_misses (misses : block.misses width span = true) (inside : span.holds value) :
    block.holds width value = false := by
  simp only [Block.misses, Bool.or_eq_true, decide_eq_true_eq] at misses
  rw [Block.holds, beq_eq_false_iff_ne]
  have low : span.first / Nat.pow 2 (width - block.bits) ≤ value / Nat.pow 2 (width - block.bits) :=
    Nat.div_le_div_right inside.1
  have high : value / Nat.pow 2 (width - block.bits) ≤ span.last / Nat.pow 2 (width - block.bits) :=
    Nat.div_le_div_right inside.2
  omega

def shut (width : Nat) (closed opened : List Block) (span : Span) : Bool :=
  closed.any (Block.encloses width span) && opened.all (Block.misses width span)

def untouched (width : Nat) (closed : List Block) (span : Span) : Bool :=
  closed.all (Block.misses width span)

section Lists

variable {closed opened : List Block} (inside : span.holds value)

include inside

theorem any_holds_eq_false (misses : closed.all (Block.misses width span) = true) :
    closed.any (Block.holds width value) = false := by
  apply List.any_eq_false.mpr
  intro block member
  rw [Block.not_holds_of_misses (List.all_eq_true.mp misses block member) inside]
  exact Bool.false_ne_true

theorem closed_of_shut (isShut : shut width closed opened span = true) :
    (!closed.any (Block.holds width value) || opened.any (Block.holds width value)) = false := by
  rw [shut, Bool.and_eq_true, List.any_eq_true] at isShut
  obtain ⟨⟨block, member, encloses⟩, misses⟩ := isShut
  have isClosed : closed.any (Block.holds width value) = true :=
    List.any_eq_true.mpr ⟨block, member, Block.holds_of_encloses encloses inside⟩
  rw [isClosed, any_holds_eq_false inside misses]
  rfl

theorem open_of_untouched (isUntouched : untouched width closed span = true) :
    (!closed.any (Block.holds width value) || opened.any (Block.holds width value)) = true := by
  rw [any_holds_eq_false inside isUntouched]
  rfl

end Lists

/-! ### Which kinds are refused -/

namespace Scope

/-- The closed blocks cover a kind of addresses. -/
def Covered (scope : Scope) : Prop :=
  scope.four.all (shut 32 closedFour openFour) = true ∧ scope.six.all (shut 128 closedSix openSix) = true

/-- The closed blocks leave a kind of addresses out altogether. -/
def Overlooked (scope : Scope) : Prop :=
  scope.four.all (untouched 32 closedFour) = true ∧ scope.six.all (untouched 128 closedSix) = true

variable {scope : Scope} {a : Address} (inside : scope.holds a)

include inside

theorem Covered.not_isPublic (covered : scope.Covered) : a.isPublic = false := by
  cases a with
  | v4 value =>
      obtain ⟨span, member, inside⟩ := inside
      exact closed_of_shut inside (List.all_eq_true.mp covered.1 span member)
  | v6 value =>
      obtain ⟨span, member, inside⟩ := inside
      exact closed_of_shut inside (List.all_eq_true.mp covered.2 span member)

theorem Overlooked.isPublic (overlooked : scope.Overlooked) : a.isPublic = true := by
  cases a with
  | v4 value =>
      obtain ⟨span, member, inside⟩ := inside
      exact open_of_untouched inside (List.all_eq_true.mp overlooked.1 span member)
  | v6 value =>
      obtain ⟨span, member, inside⟩ := inside
      exact open_of_untouched inside (List.all_eq_true.mp overlooked.2 span member)

omit inside

theorem covered_or_overlooked (scope : Scope) : scope.Covered ∨ scope = shared ∨ scope = siteLocal := by
  cases scope with
  | shared => exact Or.inr (Or.inl rfl)
  | siteLocal => exact Or.inr (Or.inr rfl)
  | unspecified | loopback | privateUse | linkLocal | multicast | reserved =>
      exact Or.inl ⟨by decide +kernel, by decide +kernel⟩

/-- A public address is of no kind but the two overlooked ones. -/
theorem overlooked_of_isPublic (isOpen : a.isPublic = true) (inside : scope.holds a) :
    scope = shared ∨ scope = siteLocal := by
  rcases scope.covered_or_overlooked with covered | overlooked
  · exact absurd ((covered.not_isPublic inside).symm.trans isOpen) Bool.false_ne_true
  · exact overlooked

theorem shared_overlooked : shared.Overlooked :=
  ⟨by decide +kernel, by decide +kernel⟩

theorem siteLocal_overlooked : siteLocal.Overlooked :=
  ⟨by decide +kernel, by decide +kernel⟩

end Scope

/-! ### Addresses within others -/

def Embedding.reach (embedding : Embedding) : Span :=
  { first := leading embedding.head
    last := leading embedding.head + (Nat.pow 2 32 * Nat.pow 2 embedding.tail - 1) }

theorem Embedding.reach_holds (embedding : Embedding) {inner rest : Nat} (fits : inner < Nat.pow 2 32)
    (restFits : rest < Nat.pow 2 embedding.tail) : embedding.reach.holds (embedding.value inner rest) := by
  -- The bits behind an address of the fourth version never carry over into the next one.
  have within : (inner + 1) * Nat.pow 2 embedding.tail ≤ Nat.pow 2 32 * Nat.pow 2 embedding.tail :=
    Nat.mul_le_mul_right _ fits
  rw [Nat.succ_mul] at within
  constructor
  · exact Nat.le_add_right _ _
  · apply Nat.add_le_add_left
    omega

variable {a : Address}

theorem Carries.not_isPublic {inner : Nat} (carries : Carries a inner) : a.isPublic = false := by
  obtain ⟨embedding, member, rest, restFits, fits, rfl⟩ := carries
  have allShut : ∀ embedding ∈ embeddings, shut 128 closedSix openSix embedding.reach = true := by
    decide +kernel
  exact closed_of_shut (embedding.reach_holds fits restFits) (allShut embedding member)

theorem globallyReachable_iff_of_isPublic (isOpen : a.isPublic = true) :
    a.GloballyReachable ↔ ¬Scope.shared.holds a ∧ ¬Scope.siteLocal.holds a := by
  constructor
  · intro reachable
    exact ⟨(reachable .shared).1, (reachable .siteLocal).1⟩
  · intro neither scope
    constructor
    · intro inside
      rcases Scope.overlooked_of_isPublic isOpen inside with rfl | rfl
      · exact neither.1 inside
      · exact neither.2 inside
    · intro inner carries
      exact absurd (carries.not_isPublic.symm.trans isOpen) Bool.false_ne_true

theorem isPublic_of_overlooked (inside : Scope.shared.holds a ∨ Scope.siteLocal.holds a) :
    a.isPublic = true := by
  rcases inside with inside | inside
  · exact Scope.shared_overlooked.isPublic inside
  · exact Scope.siteLocal_overlooked.isPublic inside

end ReorgGuard.Feed.Address
