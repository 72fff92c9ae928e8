import ReorgGuard.Json.Printer
import ReorgGuard.Json.Token
import ReorgGuard.Proofs.Numeral
import ReorgGuard.Proofs.Text

/-!
The tokens of written JSON text.

Characters are read as tokens one by one, and only a word needs to be told where it ends: by the
character behind it, or by the end of the text.  A scan is therefore compared with the same scan after
its word.  Text that is read as tokens wherever a token may begin can be put together as long as no two
words meet; a quotation, a mark and a blank are such text, and so is every written value that holds no
floating point number.

What the tokens mean is not looked at here.
-/

namespace ReorgGuard.Json

variable {strict : Bool} {c : Char} {cs ds : List Char} {found more : List Token}

theorem Scan.step_of_step? {scan next : Scan} (stepped : scan.step? strict c = some next) :
    scan.step strict c = next := by
  rw [Scan.step, stepped, Option.getD_some]

def Scan.settled (scan : Scan) : Scan :=
  match scan.mode with
  | .word cs => ⟨.word cs.reverse :: scan.tokens, .between⟩
  | _ => scan

theorem Scan.step_settled (scan : Scan) (apart : isWordChar c = false) :
    scan.settled.step strict c = scan.step strict c := by
  rcases scan with ⟨tokens, mode⟩
  cases mode with
  | word cs => simp [settled, step, step?, apart]
  | _ => rfl

/-- Wherever a token may begin, the characters are read as these tokens. -/
def Reads (strict : Bool) (cs : List Char) (found : List Token) : Prop :=
  ∀ before, (cs.foldl (Scan.step strict) ⟨before, .between⟩).settled = ⟨found.reverse ++ before, .between⟩

def Apart (cs : List Char) : Prop :=
  ∀ c, cs.head? = some c → isWordChar c = false

theorem tokens_of_reads (reads : Reads strict cs found) : tokens strict cs = found := by
  have whole := reads []
  rw [List.append_nil] at whole
  unfold tokens
  generalize cs.foldl (Scan.step strict) ⟨[], .between⟩ = last at whole ⊢
  rcases last with ⟨tokens, mode⟩
  simp only [Scan.settled] at whole
  split at whole
  · obtain ⟨same, _⟩ := Scan.mk.inj whole
    simp only [same, List.reverse_reverse]
  · cases whole
    exact List.reverse_reverse found

/-! ### Putting texts together -/

theorem Reads.append (first : Reads strict cs found) (second : Reads strict ds more) (apart : Apart ds) :
    Reads strict (cs ++ ds) (found ++ more) := by
  intro before
  have behind := first before
  rw [List.foldl_append, List.reverse_append, List.append_assoc]
  generalize cs.foldl (Scan.step strict) ⟨before, .between⟩ = scan at behind ⊢
  cases ds with
  | nil => rw [List.foldl_nil, behind, ← second]; rfl
  | cons c rest =>
      rw [List.foldl_cons, ← scan.step_settled (apart c rfl), behind, ← List.foldl_cons]
      exact second (found.reverse ++ before)

theorem Reads.mark {token : Token} (isMark : Token.ofMark? c = some token) (behind : Reads strict cs found) :
    Reads strict (c :: cs) (token :: found) := by
  intro before
  have stepped : Scan.step strict ⟨before, .between⟩ c = ⟨token :: before, .between⟩ := by
    apply Scan.step_of_step?
    unfold Token.ofMark? at isMark
    split at isMark <;> cases isMark <;> rfl
  rw [List.foldl_cons, stepped, behind, List.reverse_cons, List.append_assoc]
  rfl

theorem Reads.blanks (behind : Reads strict cs found) (front : List Char)
    (blank : ∀ c ∈ front, c = ' ' ∨ c = '\n') : Reads strict (front ++ cs) found := by
  induction front with
  | nil => exact behind
  | cons c rest ih =>
      rw [List.forall_mem_cons] at blank
      intro before
      have stepped : Scan.step strict ⟨before, .between⟩ c = ⟨before, .between⟩ := by
        rcases blank.1 with rfl | rfl <;> rfl
      rw [List.cons_append, List.foldl_cons, stepped]
      exact ih blank.2 before

theorem reads_nil : Reads strict [] [] := fun _ => rfl

/-! ### Words -/

theorem outside?_wordChar (word : isWordChar c = true) (before : List Token) :
    Scan.outside? before c = some ⟨before, .word [c]⟩ := by
  have other (mark : Char) (noWord : isWordChar mark = false) : (c == mark) = false := by
    rw [beq_eq_false_iff_ne]
    intro same
    rw [same, noWord] at word
    cases word
  simp only [Scan.outside?, other ' ' (by decide), other '\t' (by decide), other '\n' (by decide),
    other '\r' (by decide), other '"' (by decide), word, Bool.or_self, Bool.false_eq_true, if_false, if_true]

theorem reads_word (filled : cs ≠ []) (word : ∀ c ∈ cs, isWordChar c = true) : Reads strict cs [.word cs] := by
  have further (back : List Char) (before : List Token) (rest : List Char)
      (restWord : ∀ c ∈ rest, isWordChar c = true) :
      rest.foldl (Scan.step strict) ⟨before, .word back⟩ = ⟨before, .word (rest.reverse ++ back)⟩ := by
    induction rest generalizing back with
    | nil => rfl
    | cons c rest ih =>
        rw [List.forall_mem_cons] at restWord
        have stepped : Scan.step strict ⟨before, .word back⟩ c = ⟨before, .word (c :: back)⟩ :=
          Scan.step_of_step? (by simp only [Scan.step?, restWord.1, if_true])
        rw [List.foldl_cons, stepped, ih _ restWord.2, List.reverse_cons, List.append_assoc]
        rfl
  cases cs with
  | nil => exact absurd rfl filled
  | cons first rest =>
      rw [List.forall_mem_cons] at word
      intro before
      have begun : Scan.step strict ⟨before, .between⟩ first = ⟨before, .word [first]⟩ :=
        Scan.step_of_step? (outside?_wordChar word.1 before)
      rw [List.foldl_cons, begun, further _ _ _ word.2]
      simp [Scan.settled]

/-! ### Quotations -/

section Quotations

variable {q next : Quotation} (before : List Token)

theorem scan_short {letter : Char} (notUnit : letter ≠ 'u') (short : shortEscape? letter = some c)
    (whole : q.half = none) :
    ['\\', letter].foldl (Scan.step strict) ⟨before, .quoted q⟩ = ⟨before, .quoted (q.push c)⟩ := by
  have settled : q.settle? strict = some q := by rw [Quotation.settle?, whole]
  have opened : Scan.step strict ⟨before, .quoted q⟩ '\\' = ⟨before, .escape q⟩ := rfl
  have closed : Scan.step strict ⟨before, .escape q⟩ letter = ⟨before, .quoted (q.push c)⟩ := by
    apply Scan.step_of_step?
    simp only [Scan.step?, beq_eq_false_iff_ne.mpr notUnit, Bool.false_eq_true, if_false, settled, short]
  rw [List.foldl_cons, opened, List.foldl_cons, closed, List.foldl_nil]

theorem scan_digits {digits : List Char} (filled : digits ≠ [])
    (hex : ∀ c ∈ digits, ∃ d < 16, Numeral.digitChar d = c) {value : Nat}
    (unit : q.unit? strict
      (digits.foldl (fun value c => value * 16 + (Numeral.hexDigit? c).getD 0) value) = some next) :
    digits.foldl (Scan.step strict) ⟨before, .unit q digits.length value⟩ = ⟨before, .quoted next⟩ := by
  induction digits generalizing value with
  | nil => exact absurd rfl filled
  | cons first rest ih =>
      rw [List.forall_mem_cons] at hex
      obtain ⟨⟨d, small, rfl⟩, restHex⟩ := hex
      rw [List.foldl_cons, Numeral.hexDigit?_digitChar small, Option.getD_some] at unit
      cases rest with
      | nil =>
          rw [List.foldl_nil] at unit
          apply Scan.step_of_step?
          simp [Scan.step?, Numeral.hexDigit?_digitChar small, unit]
      | cons second rest =>
          have stepped : Scan.step strict
              ⟨before, .unit q (Numeral.digitChar d :: second :: rest).length value⟩ (Numeral.digitChar d) =
              ⟨before, .unit q (second :: rest).length (value * 16 + d)⟩ := by
            apply Scan.step_of_step?
            simp [Scan.step?, Numeral.hexDigit?_digitChar small]
          rw [List.foldl_cons, stepped]
          exact ih (List.cons_ne_nil _ _) restHex unit

theorem scan_unit {n : Nat} (bounded : n < 0x10000) (unit : q.unit? strict n = some next) :
    (unitEscape n).foldl (Scan.step strict) ⟨before, .quoted q⟩ = ⟨before, .quoted next⟩ := by
  have length : (Numeral.padded 16 4 n).length = 4 :=
    Numeral.length_padded (by decide) (by decide) (by omega)
  have opened : Scan.step strict ⟨before, .quoted q⟩ '\\' = ⟨before, .escape q⟩ := rfl
  have begun : Scan.step strict ⟨before, .escape q⟩ 'u' =
      ⟨before, .unit q (Numeral.padded 16 4 n).length 0⟩ := by
    rw [length]
    rfl
  rw [unitEscape, List.foldl_cons, opened, List.foldl_cons, begun]
  apply scan_digits
  · intro none
    rw [none] at length
    cases length
  · exact fun c member => Numeral.mem_padded (by decide) member
  · rw [← Numeral.read, Numeral.read_padded (by decide) (by decide), unit]

theorem unit?_of_char (whole : q.half = none) (c : Char) : q.unit? strict c.toNat = some (q.push c) := by
  have settled : q.settle? strict = some q := by rw [Quotation.settle?, whole]
  have valid : c.toNat < 0xD800 ∨ 0xDFFF < c.toNat ∧ c.toNat < 0x110000 := c.valid
  rw [Quotation.unit?, if_neg (by omega), settled, Option.map_some, if_neg (by omega), Text.charOf_toNat]

theorem unit?_of_pair (whole : q.half = none) {c : Char} (high : 0x10000 ≤ c.toNat) :
    let n := c.toNat - 0x10000
    ∃ waiting, q.unit? strict (0xD800 + n / 1024) = some waiting ∧
      waiting.unit? strict (0xDC00 + n % 1024) = some (q.push c) := by
  intro n
  have valid : c.toNat < 0xD800 ∨ 0xDFFF < c.toNat ∧ c.toNat < 0x110000 := c.valid
  have settled : q.settle? strict = some q := by rw [Quotation.settle?, whole]
  refine ⟨{ q with half := some (0xD800 + n / 1024) }, ?_, ?_⟩
  · rw [Quotation.unit?, if_neg (by omega), settled, Option.map_some, if_pos (by omega)]
  · have point : 0x10000 + (0xD800 + n / 1024 - 0xD800) * 1024 + (0xDC00 + n % 1024 - 0xDC00) = c.toNat := by
      omega
    rw [Quotation.unit?, if_pos (by omega)]
    dsimp only
    rw [point, Text.charOf_toNat, Quotation.push, whole]

/-- A character is written as a short escape, as itself, or as one code unit or two. -/
theorem escape_cases (c : Char) :
    (∃ letter, letter.toNat < 0x7F ∧ letter ≠ 'u' ∧ shortEscape? letter = some c ∧ escape c = ['\\', letter]) ∨
    (c ≠ '"' ∧ c ≠ '\\' ∧ 0x20 ≤ c.toNat ∧ c.toNat < 0x7F ∧ escape c = [c]) ∨
    (c.toNat < 0x10000 ∧ escape c = unitEscape c.toNat) ∨
    0x10000 ≤ c.toNat ∧
      escape c = unitEscape (0xD800 + (c.toNat - 0x10000) / 1024) ++
        unitEscape (0xDC00 + (c.toNat - 0x10000) % 1024) := by
  have byCode (n : Nat) (code : c.toNat = n) : c = Char.ofNat n := by
    rw [← code, Char.ofNat_toNat]
  unfold escape
  split
  case isTrue same => exact Or.inl ⟨'"', by decide, by decide, by rw [same]; rfl, rfl⟩
  split
  case isTrue same => exact Or.inl ⟨'\\', by decide, by decide, by rw [same]; rfl, rfl⟩
  split
  case isTrue same => exact Or.inl ⟨'n', by decide, by decide, by rw [same]; rfl, rfl⟩
  split
  case isTrue same => exact Or.inl ⟨'r', by decide, by decide, by rw [same]; rfl, rfl⟩
  split
  case isTrue same => exact Or.inl ⟨'t', by decide, by decide, by rw [same]; rfl, rfl⟩
  split
  case isTrue code => exact Or.inl ⟨'b', by decide, by decide, by rw [byCode 8 code]; rfl, rfl⟩
  split
  case isTrue code => exact Or.inl ⟨'f', by decide, by decide, by rw [byCode 12 code]; rfl, rfl⟩
  split
  case isTrue visible =>
    rename_i noQuote noBackslash _ _ _ _ _
    exact Or.inr (Or.inl ⟨noQuote, noBackslash, visible.1, visible.2, rfl⟩)
  split
  case isTrue basic => exact Or.inr (Or.inr (Or.inl ⟨basic, rfl⟩))
  case isFalse beyond => exact Or.inr (Or.inr (Or.inr ⟨Nat.le_of_not_lt beyond, rfl⟩))

theorem scan_escape (whole : q.half = none) (c : Char) :
    (escape c).foldl (Scan.step strict) ⟨before, .quoted q⟩ = ⟨before, .quoted (q.push c)⟩ := by
  rcases escape_cases c with ⟨letter, _, notUnit, short, written⟩ |
    ⟨noQuote, noBackslash, visible, _, written⟩ | ⟨basic, written⟩ | ⟨beyond, written⟩
  · rw [written, scan_short before notUnit short whole]
  · have settled : q.settle? strict = some q := by rw [Quotation.settle?, whole]
    have noControl : ¬c.toNat < 0x20 := by omega
    rw [written]
    apply Scan.step_of_step?
    simp [Scan.step?, settled, noQuote, noBackslash, noControl]
  · rw [written, scan_unit before basic (unit?_of_char whole c)]
  · have valid : c.toNat < 0xD800 ∨ 0xDFFF < c.toNat ∧ c.toNat < 0x110000 := c.valid
    obtain ⟨waiting, first, second⟩ := unit?_of_pair whole beyond
    rw [written, List.foldl_append, scan_unit before (by omega) first, scan_unit before (by omega) second]

theorem reads_quote (s : String) : Reads strict (quote s) [.text s] := by
  have characters (cs : List Char) (back : List Char) (before : List Token) :
      (cs.flatMap escape).foldl (Scan.step strict) ⟨before, .quoted ⟨back, none, false⟩⟩ =
        ⟨before, .quoted ⟨cs.reverse ++ back, none, false⟩⟩ := by
    -- Between two characters no half of a pair is waiting.
    induction cs generalizing back with
    | nil => rfl
    | cons c rest ih =>
        rw [List.flatMap_cons, List.foldl_append, scan_escape before rfl]
        refine (ih (c :: back)).trans ?_
        rw [List.reverse_cons, List.append_assoc]
        rfl
  intro before
  have opened : Scan.step strict ⟨before, .between⟩ '"' = ⟨before, .quoted .start⟩ := rfl
  rw [quote, List.cons_append, List.foldl_cons, opened, List.foldl_append, Quotation.start, characters]
  have closed : Quotation.text ⟨s.toList.reverse ++ [], none, false⟩ = s := by
    rw [Quotation.text, List.append_nil, List.reverse_reverse, String.ofList_toList]
  change Scan.mk (.text (Quotation.text ⟨s.toList.reverse ++ [], none, false⟩) :: before) .between = _
  rw [closed]
  rfl

end Quotations

end ReorgGuard.Json
