import ReorgGuard.Text.Utf8

/-!
Text in UTF-8, there and back.

Octets are read as a text exactly if they are the ones that it is written in.  Written text is read back
character by character.  For the other direction the octets that led to a character under way are kept in view:
however it is completed, they and those that complete it are the octets of one character.

What becomes of octets that are no text is not looked into, but that they give a piece that cannot be read.
-/

namespace ReorgGuard.Text

theorem charOf_toNat (c : Char) : charOf c.toNat = c := by
  have valid : c.toNat.isValidChar := c.valid
  rw [charOf, dif_pos valid]
  exact Char.ext (UInt32.toNat_inj.mp rfl)

theorem toNat_charOf {n : Nat} (valid : n.isValidChar) : (charOf n).toNat = n := by
  rw [charOf, dif_pos valid]
  exact UInt32.toNat_ofNatLT ..

theorem toNat_toUInt8 {n : Nat} (small : n < 256) : n.toUInt8.toNat = n := by
  rw [Nat.toUInt8, UInt8.toNat_ofNat']
  omega

theorem toUInt8_eq {n : Nat} (octet : UInt8) (same : n = octet.toNat) : n.toUInt8 = octet := by
  rw [same, Nat.toUInt8, UInt8.ofNat_toNat]

/-! ### The first octet of a character -/

namespace Utf8

section Begin

variable {surrogates : Bool} {pieces : List (Option Char)} {b : Nat}

theorem begin_one (short : b < 0x80) : begin surrogates pieces b = ⟨some (charOf b) :: pieces, none⟩ :=
  if_pos short

theorem begin_two (low : 0xC2 ≤ b) (high : b < 0xE0) :
    begin surrogates pieces b = ⟨pieces, some ⟨1, 0x80, 0xBF, b - 0xC0⟩⟩ := by
  unfold begin
  rw [if_neg (by omega), if_neg (by omega), if_pos high]

/-- What two octets can hold is not written in three, and neither are surrogates. -/
theorem begin_three (low : 0xE0 ≤ b) (high : b < 0xF0) :
    begin surrogates pieces b =
      ⟨pieces, some ⟨2, if b = 0xE0 then 0xA0 else 0x80, if b = 0xED ∧ surrogates = false then 0x9F else 0xBF,
        b - 0xE0⟩⟩ := by
  unfold begin
  rw [if_neg (by omega), if_neg (by omega), if_neg (by omega)]
  by_cases least : b = 0xE0
  · simp [least]
  · by_cases surrogate : b = 0xED ∧ surrogates = false
    · simp [surrogate.1, surrogate.2]
    · have other : ¬(b == 0xED && !surrogates) = true := by simpa using surrogate
      rw [if_neg (by simpa using least), if_neg other, if_pos high, if_neg least, if_neg surrogate]

theorem not_beq_and {m : Nat} {other : Bool} (differs : b ≠ m) : ¬(b == m && other) = true := fun both =>
  differs (beq_iff_eq.mp (Bool.and_eq_true_iff.mp both).1)

theorem begin_four (low : 0xF0 ≤ b) (high : b < 0xF5) :
    begin surrogates pieces b =
      ⟨pieces, some ⟨3, if b = 0xF0 then 0x90 else 0x80, if b = 0xF4 then 0x8F else 0xBF, b - 0xF0⟩⟩ := by
  have longer : ¬(b == 0xE0) = true := by
    rw [beq_iff_eq]
    omega
  unfold begin
  rw [if_neg (by omega), if_neg (by omega), if_neg (by omega), if_neg longer, if_neg (not_beq_and (by omega)),
    if_neg (by omega)]
  by_cases least : b = 0xF0
  · simp [least]
  · by_cases greatest : b = 0xF4
    · simp [greatest]
    · rw [if_neg (by simpa using least), if_pos (by omega), if_neg least, if_neg greatest]

theorem begin_stray (stray : 0x80 ≤ b ∧ b < 0xC2 ∨ 0xF5 ≤ b) :
    begin surrogates pieces b = ⟨none :: pieces, none⟩ := by
  unfold begin
  rcases stray with ⟨low, high⟩ | beyond
  · rw [if_neg (by omega), if_pos high]
  · have differs {m : Nat} (below : m < 0xF5) : ¬(b == m) = true := by
      rw [beq_iff_eq]
      omega
    rw [if_neg (by omega), if_neg (by omega), if_neg (by omega), if_neg (differs (by decide)),
      if_neg (not_beq_and (by omega)), if_neg (by omega), if_neg (differs (by decide)), if_neg (by omega),
      if_neg (differs (by decide))]

end Begin

end Utf8

/-! ### A character under way -/

/-- A run of octets completes a character under way, with this code point. -/
inductive Unfinished.Completes : Unfinished → List UInt8 → Nat → Prop
  | last {u : Unfinished} {octet : UInt8} (single : u.owed ≤ 1) (low : u.low ≤ octet.toNat)
      (high : octet.toNat ≤ u.high) : Completes u [octet] (u.value * 64 + (octet.toNat - 0x80))
  | more {u : Unfinished} {octet : UInt8} {rest : List UInt8} {n : Nat} (several : ¬u.owed ≤ 1)
      (low : u.low ≤ octet.toNat) (high : octet.toNat ≤ u.high)
      (behind : Completes ⟨u.owed - 1, 0x80, 0xBF, u.value * 64 + (octet.toNat - 0x80)⟩ rest n) :
      Completes u (octet :: rest) n

/-- However a character under way is completed, its octets are those that led to it and those that complete it. -/
def Unfinished.LedBy (lead : List UInt8) (u : Unfinished) : Prop :=
  ∀ tail n, u.Completes tail n → charOctets (charOf n) = lead ++ tail

namespace Unfinished

variable {surrogates : Bool} {u : Unfinished} {octet : UInt8}

theorem foldl_of_completes {tail : List UInt8} {n : Nat} (completes : u.Completes tail n)
    (pieces : List (Option Char)) :
    tail.foldl (Utf8.step surrogates) ⟨pieces, some u⟩ = ⟨some (charOf n) :: pieces, none⟩ := by
  induction completes with
  | last single low high =>
      simp only [List.foldl_cons, List.foldl_nil, Utf8.step, single, low, high, decide_true, Bool.and_self, if_true]
  | more several low high _ ih =>
      rw [List.foldl_cons, ← ih]
      simp only [Utf8.step, several, low, high, decide_true, Bool.and_self, if_true, if_false]

theorem LedBy.next {lead : List UInt8} (led : u.LedBy lead) (several : ¬u.owed ≤ 1) (low : u.low ≤ octet.toNat)
    (high : octet.toNat ≤ u.high) :
    LedBy (lead ++ [octet]) ⟨u.owed - 1, 0x80, 0xBF, u.value * 64 + (octet.toNat - 0x80)⟩ := by
  intro tail n behind
  rw [led _ n (.more several low high behind), List.append_assoc, List.singleton_append]

section First

variable (octet)

theorem ledBy_two (low : 0xC2 ≤ octet.toNat) (high : octet.toNat < 0xE0) :
    LedBy [octet] ⟨1, 0x80, 0xBF, octet.toNat - 0xC0⟩ := by
  intro tail n completes
  cases completes with
  | more several => exact absurd (Nat.le_refl 1) several
  | @last _ second _ lowSecond highSecond =>
      dsimp only at lowSecond highSecond ⊢
      generalize isValue : (octet.toNat - 0xC0) * 64 + (second.toNat - 0x80) = n
      have valid : n.isValidChar := by
        unfold Nat.isValidChar
        omega
      rw [charOctets, toNat_charOf valid, if_neg (by omega), if_pos (by omega),
        toUInt8_eq octet (by omega), toUInt8_eq second (by omega)]
      rfl

variable {least greatest : Nat} (atLeast : 0x80 ≤ least) (atMost : greatest ≤ 0xBF)

include atLeast atMost

theorem ledBy_three (low : 0xE0 ≤ octet.toNat) (high : octet.toNat < 0xF0)
    (noShorter : octet.toNat = 0xE0 → 0xA0 ≤ least) (noSurrogate : octet.toNat = 0xED → greatest ≤ 0x9F) :
    LedBy [octet] ⟨2, least, greatest, octet.toNat - 0xE0⟩ := by
  intro tail n completes
  cases completes with
  | last single => exact absurd single (by decide : ¬2 ≤ 1)
  | @more _ second _ _ _ lowSecond highSecond behind =>
      cases behind with
      | more several => exact absurd (Nat.le_refl 1) several
      | @last _ third _ lowThird highThird =>
          dsimp only at lowSecond highSecond lowThird highThird ⊢
          generalize isValue : ((octet.toNat - 0xE0) * 64 + (second.toNat - 0x80)) * 64 + (third.toNat - 0x80) = n
          have valid : n.isValidChar := by
            unfold Nat.isValidChar
            omega
          rw [charOctets, toNat_charOf valid, if_neg (by omega), if_neg (by omega), if_pos (by omega),
            toUInt8_eq octet (by omega), toUInt8_eq second (by omega), toUInt8_eq third (by omega)]
          rfl

theorem ledBy_four (low : 0xF0 ≤ octet.toNat) (high : octet.toNat < 0xF5)
    (noShorter : octet.toNat = 0xF0 → 0x90 ≤ least) (within : octet.toNat = 0xF4 → greatest ≤ 0x8F) :
    LedBy [octet] ⟨3, least, greatest, octet.toNat - 0xF0⟩ := by
  intro tail n completes
  cases completes with
  | last single => exact absurd single (by decide : ¬3 ≤ 1)
  | @more _ second _ _ _ lowSecond highSecond behind =>
      cases behind with
      | last single => exact absurd single (by decide : ¬2 ≤ 1)
      | @more _ third _ _ _ lowThird highThird behind =>
          cases behind with
          | more several => exact absurd (Nat.le_refl 1) several
          | @last _ fourth _ lowFourth highFourth =>
              dsimp only at lowSecond highSecond lowThird highThird lowFourth highFourth ⊢
              generalize isValue : (((octet.toNat - 0xF0) * 64 + (second.toNat - 0x80)) * 64 +
                (third.toNat - 0x80)) * 64 + (fourth.toNat - 0x80) = n
              have valid : n.isValidChar := by
                unfold Nat.isValidChar
                omega
              rw [charOctets, toNat_charOf valid, if_neg (by omega), if_neg (by omega), if_neg (by omega),
                toUInt8_eq octet (by omega), toUInt8_eq second (by omega), toUInt8_eq third (by omega),
                toUInt8_eq fourth (by omega)]
              rfl

end First

theorem completes_last {low high value m n : Nat} (atLeast : low ≤ m) (atMost : m ≤ high) (small : m < 256)
    (isValue : value * 64 + (m - 0x80) = n) : Completes ⟨1, low, high, value⟩ [m.toUInt8] n := by
  have octet : m.toUInt8.toNat = m := toNat_toUInt8 small
  rw [← octet] at atLeast atMost isValue
  rw [← isValue]
  exact .last (Nat.le_refl 1) atLeast atMost

theorem completes_more {owed low high value m n : Nat} {rest : List UInt8} (atLeast : low ≤ m) (atMost : m ≤ high)
    (small : m < 256) (behind : Completes ⟨owed + 1, 0x80, 0xBF, value * 64 + (m - 0x80)⟩ rest n) :
    Completes ⟨owed + 2, low, high, value⟩ (m.toUInt8 :: rest) n := by
  have octet : m.toUInt8.toNat = m := toNat_toUInt8 small
  rw [← octet] at atLeast atMost behind
  have several : ¬owed + 2 ≤ 1 := by omega
  exact .more several atLeast atMost behind

end Unfinished

/-! ### Written text -/

namespace Utf8

variable {surrogates : Bool}

theorem step_start (pieces : List (Option Char)) {n : Nat} (small : n < 256) :
    step surrogates ⟨pieces, none⟩ n.toUInt8 = begin surrogates pieces n := by
  unfold step
  rw [toNat_toUInt8 small]

theorem foldl_charOctets (c : Char) (pieces : List (Option Char)) :
    (charOctets c).foldl (step surrogates) ⟨pieces, none⟩ = ⟨some c :: pieces, none⟩ := by
  have valid : c.toNat.isValidChar := c.valid
  have back : charOf c.toNat = c := charOf_toNat c
  unfold Nat.isValidChar at valid
  unfold charOctets
  generalize c.toNat = n at valid back ⊢
  subst back
  dsimp only
  by_cases one : n < 0x80
  · rw [if_pos one, List.foldl_cons, step_start pieces (by omega), begin_one one]
    rfl
  by_cases two : n < 0x800
  · rw [if_neg one, if_pos two, List.foldl_cons, step_start pieces (by omega), begin_two (by omega) (by omega)]
    apply Unfinished.foldl_of_completes
    apply Unfinished.completes_last <;> omega
  by_cases three : n < 0x10000
  · rw [if_neg one, if_neg two, if_pos three, List.foldl_cons, step_start pieces (by omega),
      begin_three (by omega) (by omega)]
    apply Unfinished.foldl_of_completes
    apply Unfinished.completes_more
    · split <;> omega
    · split <;> omega
    · omega
    · apply Unfinished.completes_last <;> omega
  · rw [if_neg one, if_neg two, if_neg three, List.foldl_cons, step_start pieces (by omega),
      begin_four (by omega) (by omega)]
    apply Unfinished.foldl_of_completes
    apply Unfinished.completes_more
    · split <;> omega
    · split <;> omega
    · omega
    apply Unfinished.completes_more
    · omega
    · omega
    · omega
    apply Unfinished.completes_last <;> omega

theorem foldl_flatMap_charOctets (cs : List Char) (pieces : List (Option Char)) :
    (cs.flatMap charOctets).foldl (step surrogates) ⟨pieces, none⟩ = ⟨(cs.map some).reverse ++ pieces, none⟩ := by
  induction cs generalizing pieces with
  | nil => rfl
  | cons c rest ih =>
      rw [List.flatMap_cons, List.foldl_append, foldl_charOctets, ih, List.map_cons, List.reverse_cons,
        List.append_assoc]
      rfl

end Utf8

theorem utf8Pieces_flatMap_charOctets (surrogates : Bool) (cs : List Char) :
    utf8Pieces surrogates (cs.flatMap charOctets) = cs.map some := by
  unfold utf8Pieces
  simp only [Utf8.foldl_flatMap_charOctets, List.append_nil, List.reverse_reverse]

/-! ### Octets that are read as text -/

namespace Utf8

/-- What has been read of some octets: the characters that they are written in, and what led to the one under
way. -/
def Follows (octets : List UInt8) (s : Utf8) : Prop :=
  ∃ cs : List Char, s.pieces = (cs.map some).reverse ∧
    match s.pending with
    | none => octets = cs.flatMap charOctets
    | some u => ∃ lead, octets = cs.flatMap charOctets ++ lead ∧ u.LedBy lead

theorem mem_begin {surrogates : Bool} {pieces : List (Option Char)} {b : Nat} (broken : none ∈ pieces) :
    none ∈ (begin surrogates pieces b).pieces := by
  unfold begin
  repeat' split
  all_goals first
    | exact broken
    | exact List.mem_cons_of_mem _ broken

theorem mem_step {surrogates : Bool} {s : Utf8} (octet : UInt8) (broken : none ∈ s.pieces) :
    none ∈ (s.step surrogates octet).pieces := by
  unfold step
  cases s.pending with
  | none => exact mem_begin broken
  | some u =>
      dsimp only
      split
      · split
        · exact List.mem_cons_of_mem _ broken
        · exact broken
      · exact mem_begin (List.mem_cons_of_mem _ broken)

theorem mem_foldl {surrogates : Bool} {s : Utf8} (octets : List UInt8) (broken : none ∈ s.pieces) :
    none ∈ (octets.foldl (step surrogates) s).pieces := by
  induction octets generalizing s with
  | nil => exact broken
  | cons octet rest ih => exact ih (mem_step octet broken)

theorem follows_of_complete {cs : List Char} {c : Char} {octets : List UInt8} (isChar : charOctets c = octets) :
    Follows (cs.flatMap charOctets ++ octets) ⟨some c :: (cs.map some).reverse, none⟩ := by
  refine ⟨cs ++ [c], ?_, ?_⟩
  · rw [List.map_append, List.reverse_append]
    rfl
  · dsimp only
    rw [List.flatMap_append, List.flatMap_singleton, isChar]

theorem follows_begin (cs : List Char) (octet : UInt8) :
    let next := begin false (cs.map some).reverse octet.toNat
    none ∈ next.pieces ∨ next.Follows (cs.flatMap charOctets ++ [octet]) := by
  intro next
  have bounded := octet.toNat_lt
  have stays {u : Unfinished} (isNext : next = ⟨(cs.map some).reverse, some u⟩) (led : u.LedBy [octet]) :
      next.Follows (cs.flatMap charOctets ++ [octet]) := by
    rw [isNext]
    exact ⟨cs, rfl, [octet], rfl, led⟩
  -- The first octet tells how many others the character owes, and within which bounds.
  by_cases one : octet.toNat < 0x80
  · right
    have isChar : charOctets (charOf octet.toNat) = [octet] := by
      have valid : octet.toNat.isValidChar := by
        unfold Nat.isValidChar
        omega
      rw [charOctets, toNat_charOf valid, if_pos one, toUInt8_eq octet rfl]
    have isNext : next = _ := begin_one one
    rw [isNext]
    exact follows_of_complete isChar
  by_cases stray : octet.toNat < 0xC2 ∨ 0xF5 ≤ octet.toNat
  · left
    have isNext : next = _ := begin_stray (by omega)
    rw [isNext]
    exact List.mem_cons_self
  right
  by_cases two : octet.toNat < 0xE0
  · exact stays (begin_two (by omega) two) (Unfinished.ledBy_two octet (by omega) two)
  by_cases three : octet.toNat < 0xF0
  · refine stays (begin_three (by omega) three) (Unfinished.ledBy_three octet ?_ ?_ (by omega) three ?_ ?_)
    · split <;> omega
    · split <;> omega
    · exact fun least => Nat.le_of_eq (if_pos least).symm
    · exact fun surrogate => Nat.le_of_eq (if_pos ⟨surrogate, rfl⟩)
  · refine stays (begin_four (by omega) (by omega)) (Unfinished.ledBy_four octet ?_ ?_ (by omega) (by omega) ?_ ?_)
    · split <;> omega
    · split <;> omega
    · exact fun least => Nat.le_of_eq (if_pos least).symm
    · exact fun greatest => Nat.le_of_eq (if_pos greatest)

theorem Follows.step {octets : List UInt8} {s : Utf8} (follows : s.Follows octets) (octet : UInt8) :
    let next := s.step false octet
    none ∈ next.pieces ∨ next.Follows (octets ++ [octet]) := by
  intro next
  rcases s with ⟨pieces, pending⟩
  obtain ⟨cs, isRead, led⟩ := follows
  dsimp only at isRead led
  subst isRead
  cases pending with
  | none =>
      rw [led]
      exact follows_begin cs octet
  | some u =>
      rcases led with ⟨lead, rfl, led⟩
      rw [List.append_assoc]
      by_cases within : u.low ≤ octet.toNat ∧ octet.toNat ≤ u.high
      · right
        -- A single octet that is owed completes the character; otherwise the lead grows.
        have isNext : next = if u.owed ≤ 1 then _ else _ := if_pos (by simpa using within)
        rw [isNext]
        by_cases single : u.owed ≤ 1
        · rw [if_pos single]
          exact follows_of_complete (led _ _ (.last single within.1 within.2))
        · rw [if_neg single]
          exact ⟨cs, rfl, _, rfl, led.next single within.1 within.2⟩
      · left
        have isNext : next = begin false (none :: (cs.map some).reverse) octet.toNat :=
          if_neg (by simpa using within)
        rw [isNext]
        exact mem_begin List.mem_cons_self

theorem Follows.foldl {octets : List UInt8} {s : Utf8} (follows : s.Follows octets) (more : List UInt8) :
    let after := more.foldl (Utf8.step false) s
    none ∈ after.pieces ∨ after.Follows (octets ++ more) := by
  -- Once a piece is broken it stays, so the induction only has to follow the octets up to there.
  induction more generalizing octets s with
  | nil =>
      right
      rw [List.append_nil]
      exact follows
  | cons octet rest ih =>
      rcases follows.step octet with broken | next
      · exact Or.inl (mem_foldl rest broken)
      · have done := ih next
        rw [List.append_assoc, List.singleton_append] at done
        exact done

end Utf8

theorem utf8Pieces_eq_map_some_iff {octets : List UInt8} {cs : List Char} :
    utf8Pieces false octets = cs.map some ↔ cs.flatMap charOctets = octets := by
  constructor
  · intro read
    have start : Utf8.Follows [] ⟨[], none⟩ := ⟨[], rfl, rfl⟩
    have whole : none ∉ cs.map some := by simp
    rw [← read] at whole
    unfold utf8Pieces at read whole
    rcases start.foldl octets with broken | follows
    · refine absurd ?_ whole
      rw [List.mem_reverse]
      split
      · exact broken
      · exact List.mem_cons_self
    · generalize octets.foldl (Utf8.step false) ⟨[], none⟩ = after at read whole follows
      rcases after with ⟨pieces, _ | u⟩
      · obtain ⟨others, rfl, led⟩ := follows
        dsimp only at read led
        rw [List.reverse_reverse] at read
        rw [← (List.map_inj_right fun _ _ => Option.some.inj).mp read]
        exact led.symm
      · simp at whole
  · intro written
    rw [← written, utf8Pieces_flatMap_charOctets]

theorem mapM_id_eq_some_iff {pieces : List (Option Char)} {cs : List Char} :
    pieces.mapM id = some cs ↔ pieces = cs.map some := by
  induction pieces generalizing cs with
  | nil => cases cs <;> simp
  | cons piece rest ih =>
      cases piece with
      | none => cases cs <;> simp
      | some c =>
          have first : (some c :: rest).mapM id = (rest.mapM id).map (c :: ·) := by
            rw [List.mapM_cons]
            cases rest.mapM id <;> rfl
          rw [first, Option.map_eq_some_iff]
          constructor
          · intro read
            rcases read with ⟨others, isRest, rfl⟩
            rw [ih.mp isRest, List.map_cons]
          · intro same
            obtain ⟨_, others, rfl, isFirst, isRest⟩ := List.map_eq_cons_iff.mp same.symm
            cases isFirst
            exact ⟨others, ih.mpr isRest.symm, rfl⟩

/-- Octets are read as a text exactly if they are those that it is written in. -/
theorem ofUtf8?_eq_some_iff {octets : List UInt8} {s : String} : ofUtf8? octets = some s ↔ toUtf8 s = octets := by
  unfold ofUtf8? toUtf8
  rw [Option.map_eq_some_iff]
  simp only [mapM_id_eq_some_iff, utf8Pieces_eq_map_some_iff]
  constructor
  · intro read
    rcases read with ⟨cs, written, rfl⟩
    rw [String.toList_ofList]
    exact written
  · intro written
    exact ⟨s.toList, written, String.ofList_toList⟩

end ReorgGuard.Text
