import Mathlib.Data.List.TakeWhile
import ReorgGuard.Proofs.Json
import ReorgGuard.Proofs.Json.Tokens
import ReorgGuard.Proofs.Value.Keys

/-!
Values that are read back from the text that was written of them.

JSON text can hold nothing, truth values, integers within the digit limit, text, lists, and mappings
whose keys are distinct texts, as long as containers do not lie too deep in one another.  Such a value
is read back as it was, in every dialect and layout, and blanks behind its text change nothing.

Floating point numbers are left out: reading what was written of them is a matter of rounding.
-/

namespace ReorgGuard.Json

/-- JSON text can hold the value as it is, with at most so many containers in one another. -/
inductive Faithful : Nat → Value → Prop where
  | null {room : Nat} : Faithful room .null
  | bool {room : Nat} (b : Bool) : Faithful room (.bool b)
  | int {room : Nat} (n : Int) (short : (Numeral.intText n).toList.length ≤ Numeral.digitLimit) :
      Faithful room (.int n)
  | text {room : Nat} (s : String) : Faithful room (.text s)
  | list {room : Nat} (items : List Value) (each : ∀ item ∈ items, Faithful room item) :
      Faithful (room + 1) (.list items)
  | dict {room : Nat} (entries : List (String × Value)) (distinct : (entries.map Prod.fst).Nodup)
      (each : ∀ entry ∈ entries, Faithful room entry.2) :
      Faithful (room + 1) (.dict (entries.map fun entry => (.text entry.1, entry.2)))

/-! ### The tokens of a value -/

def keyText : Value → String
  | .text s => s
  | .bool b => if b then "true" else "false"
  | .null => "null"
  | .float x => floatWord x
  | key => key.display?.getD ""

theorem writeKey_eq (key : Value) : writeKey key = quote (keyText key) := by
  cases key <;> rfl

mutual

def tokensOf : Value → List Token
  | .bool b => [.word (if b then "true".toList else "false".toList)]
  | .int n => [.word (Numeral.intText n).toList]
  | .float x => [.word (floatWord x).toList]
  | .text s => [.text s]
  | .list [] => [.openList, .closeList]
  | .list (item :: rest) => .openList :: (tokensOf item ++ (itemTokens rest ++ [.closeList]))
  | .dict [] => [.openDict, .closeDict]
  | .dict ((key, value) :: rest) =>
      .openDict :: .text (keyText key) :: .colon :: (tokensOf value ++ (entryTokens rest ++ [.closeDict]))
  | _ => [.word "null".toList]

def itemTokens : List Value → List Token
  | [] => []
  | item :: rest => .comma :: (tokensOf item ++ itemTokens rest)

def entryTokens : List (Value × Value) → List Token
  | [] => []
  | (key, value) :: rest => .comma :: .text (keyText key) :: .colon :: (tokensOf value ++ entryTokens rest)

end

section Written

variable {strict : Bool} {layout : Layout}

theorem gap_blank (layout : Layout) (depth : Nat) (first : Bool) :
    ∀ c ∈ layout.gap depth first, c = ' ' ∨ c = '\n' := by
  intro c member
  cases layout with
  | inline =>
      cases first with
      | true => cases member
      | false => exact Or.inl (List.mem_singleton.mp member)
  | lines =>
      rcases List.mem_cons.mp member with newline | blank
      · exact Or.inr newline
      · exact Or.inl (List.eq_of_mem_replicate blank)

theorem last_blank (layout : Layout) (depth : Nat) : ∀ c ∈ layout.last depth, c = ' ' ∨ c = '\n' := by
  intro c member
  cases layout with
  | inline => cases member
  | lines => exact gap_blank .lines depth true c member

theorem apart_closing (layout : Layout) (depth : Nat) (close : Char) (mark : isWordChar close = false) :
    Apart (layout.last depth ++ [close]) := by
  intro c isFirst
  cases layout <;> cases isFirst
  · exact mark
  · decide

theorem reads_closing (depth : Nat) (close : Char) {token : Token}
    (isMark : Token.ofMark? close = some token) : Reads strict (layout.last depth ++ [close]) [token] :=
  (reads_nil.mark isMark).blanks _ (last_blank layout depth)

theorem intText_word (n : Int) : (Numeral.intText n).toList ≠ [] ∧
    ∀ c ∈ (Numeral.intText n).toList, isWordChar c = true := by
  have digits (m : Nat) : ∀ c ∈ Numeral.write 10 m, isWordChar c = true := by
    intro c member
    obtain ⟨d, small, rfl⟩ := Numeral.mem_write (by decide) member
    have all : ∀ d < 10, isWordChar (Numeral.digitChar d) = true := by decide
    exact all d small
  unfold Numeral.intText Numeral.natText
  split
  · rw [String.toList_ofList]
    exact ⟨List.cons_ne_nil _ _, List.forall_mem_cons.mpr ⟨by decide, digits _⟩⟩
  · rw [String.toList_ofList]
    exact ⟨Numeral.write_ne_nil (by decide) _, digits _⟩

theorem reads_letters (s : String) (nonempty : s.toList ≠ []) (letters : s.toList.all isWordChar = true) :
    Reads strict s.toList [.word s.toList] :=
  reads_word nonempty (List.all_eq_true.mp letters)

theorem reads_items {depth : Nat} {items : List Value} {closing : List Char} {close : List Token}
    (each : ∀ item ∈ items, Reads strict (write layout depth item) (tokensOf item))
    (behind : Reads strict closing close) (apart : Apart closing) :
    Reads strict (writeItems layout depth items ++ closing) (itemTokens items ++ close) ∧
      Apart (writeItems layout depth items ++ closing) := by
  -- An item may end in a word, so of what follows it must be known as well that it starts with none.
  induction items with
  | nil =>
      unfold writeItems itemTokens
      exact ⟨behind, apart⟩
  | cons item rest ih =>
      rw [List.forall_mem_cons] at each
      obtain ⟨others, othersApart⟩ := ih each.2
      unfold writeItems itemTokens
      simp only [List.cons_append, List.append_assoc]
      refine ⟨Reads.mark rfl ((each.1.append others othersApart).blanks _ (gap_blank layout depth false)), ?_⟩
      intro c isFirst
      cases isFirst
      decide

theorem reads_entry {cs : List Char} {found : List Token} (key : Value) (value : Reads strict cs found) :
    Reads strict (writeKey key ++ ':' :: ' ' :: cs) (.text (keyText key) :: .colon :: found) := by
  have colon : Reads strict (':' :: ' ' :: cs) (.colon :: found) :=
    Reads.mark rfl (value.blanks [' '] (by simp))
  rw [writeKey_eq]
  refine (reads_quote (keyText key)).append colon ?_
  intro c isFirst
  cases isFirst
  decide

theorem reads_entries {depth : Nat} {entries : List (Value × Value)} {closing : List Char} {close : List Token}
    (each : ∀ entry ∈ entries, Reads strict (write layout depth entry.2) (tokensOf entry.2))
    (behind : Reads strict closing close) (apart : Apart closing) :
    Reads strict (writeEntries layout depth entries ++ closing) (entryTokens entries ++ close) ∧
      Apart (writeEntries layout depth entries ++ closing) := by
  induction entries with
  | nil =>
      unfold writeEntries entryTokens
      exact ⟨behind, apart⟩
  | cons entry rest ih =>
      rcases entry with ⟨key, value⟩
      rw [List.forall_mem_cons] at each
      obtain ⟨others, othersApart⟩ := ih each.2
      have first := reads_entry key (each.1.append others othersApart)
      unfold writeEntries entryTokens
      simp only [List.cons_append, List.append_assoc]
      refine ⟨Reads.mark rfl (first.blanks _ (gap_blank layout depth false)), ?_⟩
      intro c isFirst
      cases isFirst
      decide

/-- What is written of a value is read as the tokens of the value. -/
theorem reads_write {room : Nat} {value : Value} (faithful : Faithful room value) (depth : Nat) :
    Reads strict (write layout depth value) (tokensOf value) := by
  induction faithful generalizing depth with
  | null => exact reads_letters "null" (by decide) (by decide)
  | bool b =>
      cases b with
      | true => exact reads_letters "true" (by decide) (by decide)
      | false => exact reads_letters "false" (by decide) (by decide)
  | int n => exact reads_word (intText_word n).1 (intText_word n).2
  | text s => exact reads_quote s
  | list items _ ih =>
      cases items with
      | nil => exact Reads.mark rfl (Reads.mark rfl reads_nil)
      | cons item rest =>
          rw [List.forall_mem_cons] at ih
          obtain ⟨others, apart⟩ := reads_items (fun other member => ih.2 other member (depth + 1))
            (reads_closing depth ']' rfl) (apart_closing layout depth ']' (by decide))
          unfold write tokensOf
          simp only [List.cons_append, List.append_assoc]
          exact Reads.mark rfl (((ih.1 (depth + 1)).append others apart).blanks _
            (gap_blank layout (depth + 1) true))
  | dict entries _ _ ih =>
      cases entries with
      | nil => exact Reads.mark rfl (Reads.mark rfl reads_nil)
      | cons entry rest =>
          rw [List.forall_mem_cons] at ih
          have each : ∀ other ∈ rest.map fun entry => (Value.text entry.1, entry.2),
              Reads strict (write layout (depth + 1) other.2) (tokensOf other.2) := by
            intro other member
            obtain ⟨named, inRest, rfl⟩ := List.mem_map.mp member
            exact ih.2 named inRest (depth + 1)
          obtain ⟨others, apart⟩ := reads_entries each (reads_closing depth '\x7d' rfl)
            (apart_closing layout depth '\x7d' (by decide))
          have first := reads_entry (.text entry.1) ((ih.1 (depth + 1)).append others apart)
          rw [List.map_cons]
          unfold write tokensOf
          simp only [List.cons_append, List.append_assoc]
          exact Reads.mark rfl (first.blanks _ (gap_blank layout (depth + 1) true))

end Written

/-! ### Words read as values -/

section Words

variable {strict : Bool}

theorem whole_write (m : Nat) :
    ((Numeral.write 10 m).isEmpty ||
      (decide ((Numeral.write 10 m).length > 1) && (Numeral.write 10 m).head? == some '0')) = false := by
  rw [Bool.or_eq_false_iff, List.isEmpty_eq_false_iff, Bool.and_eq_false_iff]
  refine ⟨Numeral.write_ne_nil (by decide) m, ?_⟩
  rcases Nat.eq_zero_or_pos m with rfl | positive
  · exact Or.inl (by rw [Numeral.write_of_small (by decide)]; rfl)
  · exact Or.inr (beq_eq_false_iff_ne.mpr (Numeral.head?_write_of_pos (by decide) (by decide) positive))

theorem number?_intText {n : Int} (short : (Numeral.intText n).toList.length ≤ Numeral.digitLimit) :
    number? strict (Numeral.intText n).toList = some (.int n) := by
  have taken : (Numeral.write 10 n.natAbs).takeWhile Numeral.isDecimal = Numeral.write 10 n.natAbs :=
    List.takeWhile_eq_self_iff.mpr Numeral.isDecimal_of_mem_write
  have dropped : (Numeral.write 10 n.natAbs).dropWhile Numeral.isDecimal = [] :=
    List.dropWhile_eq_nil_iff.mpr Numeral.isDecimal_of_mem_write
  have value : Numeral.read 10 (Numeral.write 10 n.natAbs) = n.natAbs :=
    Numeral.read_write (by decide) (by decide) n.natAbs
  unfold Numeral.intText Numeral.natText at short ⊢
  split
  case isTrue negative =>
    rw [if_pos negative, String.toList_ofList, List.length_cons] at short
    have within : ¬Numeral.digitLimit < (Numeral.write 10 n.natAbs).length + 1 := by omega
    have size : ¬(Numeral.write 10 n.natAbs).length > Numeral.digitLimit := by omega
    rw [String.toList_ofList]
    simp only [number?, taken, dropped, whole_write, value, within, size, if_true, decide_false,
      Bool.and_false, Bool.false_eq_true, if_false]
    congr 2
    omega
  case isFalse natural =>
    rw [if_neg natural, String.toList_ofList] at short
    have within : ¬Numeral.digitLimit < (Numeral.write 10 n.natAbs).length := by omega
    have unsigned (rest : List Char) : Numeral.write 10 n.natAbs ≠ '-' :: rest := by
      intro written
      have sign := Numeral.isDecimal_of_mem_write '-' (by rw [written]; exact List.mem_cons_self)
      cases sign
    rw [String.toList_ofList, number?]
    · simp only [taken, dropped, whole_write, value, within, Nat.add_zero, decide_false,
        Bool.and_false, Bool.false_eq_true, if_false, gt_iff_lt]
      congr 2
      omega
    · exact unsigned

theorem word?_of_number {word : List Char} (digits : ∀ c ∈ word, Numeral.isDecimal c = true ∨ c = '-') :
    word? strict word = number? strict word := by
  have other (name : String) (letter : (name.toList.all fun c => Numeral.isDecimal c || c == '-') = false) :
      (word == name.toList) = false := by
    rw [beq_eq_false_iff_ne]
    rintro rfl
    rw [List.all_eq_false] at letter
    obtain ⟨c, member, strange⟩ := letter
    rw [Bool.or_eq_true, beq_iff_eq] at strange
    exact strange (digits c member)
  simp only [word?, other "null" (by decide), other "true" (by decide), other "false" (by decide),
    other "NaN" (by decide), other "Infinity" (by decide), other "-Infinity" (by decide),
    Bool.false_eq_true, if_false]

theorem word?_intText {n : Int} (short : (Numeral.intText n).toList.length ≤ Numeral.digitLimit) :
    word? strict (Numeral.intText n).toList = some (.int n) := by
  rw [word?_of_number, number?_intText short]
  intro c member
  unfold Numeral.intText Numeral.natText at member
  split at member
  · rw [String.toList_ofList, List.mem_cons] at member
    rcases member with sign | digit
    · exact Or.inr sign
    · exact Or.inl (Numeral.isDecimal_of_mem_write c digit)
  · rw [String.toList_ofList] at member
    exact Or.inl (Numeral.isDecimal_of_mem_write c member)

end Words

/-! ### Building the value from its tokens -/

theorem distinct_reverse {entries : List (String × Value)} (nodup : (entries.map Prod.fst).Nodup) :
    distinct (entries.map fun entry => (Value.text entry.1, entry.2)).reverse =
      entries.map fun entry => (Value.text entry.1, entry.2) := by
  induction entries using List.reverseRecOn with
  | nil => rfl
  | append_singleton front last ih =>
      rw [List.map_append, List.nodup_append] at nodup
      obtain ⟨frontNodup, _, apart⟩ := nodup
      have absent : ∀ entry ∈ front.map fun entry => (Value.text entry.1, entry.2),
          entry.1.sameKey (.text last.1) = false := by
        intro entry member
        obtain ⟨named, inFront, rfl⟩ := List.mem_map.mp member
        exact beq_eq_false_iff_ne.mpr
          (apart named.1 (List.mem_map_of_mem inFront) last.1 List.mem_cons_self)
      rw [List.map_append, List.reverse_append]
      change Value.put (distinct (front.map _).reverse) (.text last.1) last.2 = _
      rw [ih frontNodup, Value.put_of_absent absent]
      rfl

section Building

variable {dialect : Dialect} {b next : Builder} {frames : List Frame} {depth : Nat}

theorem steps_cons {token : Token} (stepped : b.step dialect token = .ok next) (rest : List Token) :
    (token :: rest).foldlM (Builder.step dialect) b = rest.foldlM (Builder.step dialect) next := by
  rw [List.foldlM_cons, stepped]
  rfl

theorem steps_append {front : List Token} (stepped : front.foldlM (Builder.step dialect) b = .ok next)
    (rest : List Token) :
    (front ++ rest).foldlM (Builder.step dialect) b = rest.foldlM (Builder.step dialect) next := by
  rw [List.foldlM_append, stepped]
  rfl

def Builds (dialect : Dialect) (depth : Nat) (value : Value) : Prop :=
  ∀ frames, (tokensOf value).foldlM (Builder.step dialect) ⟨frames, depth, .value⟩ =
    Builder.finish frames depth value

theorem tokensOf_eq_cons (value : Value) : ∃ first rest, tokensOf value = first :: rest ∧ first ≠ .closeList := by
  fun_cases tokensOf value <;> exact ⟨_, _, rfl, fun wrong => by cases wrong⟩

theorem Builds.first {value : Value} (builds : Builds dialect depth value) (fits : depth ≤ dialect.depth) :
    (tokensOf value).foldlM (Builder.step dialect) ⟨frames, depth, .valueOrClose⟩ =
      Builder.finish frames depth value := by
  obtain ⟨first, rest, isCons, noClose⟩ := tokensOf_eq_cons value
  have same : Builder.step dialect ⟨frames, depth, .valueOrClose⟩ first =
      Builder.step dialect ⟨frames, depth, .value⟩ first := by
    have within : ¬dialect.depth < depth := by omega
    cases first with
    | closeList => exact absurd rfl noClose
    | _ => exact if_neg within
  rw [← builds frames, isCons, List.foldlM_cons, List.foldlM_cons, same]

theorem build_items {items : List Value} (each : ∀ item ∈ items, Builds dialect depth item)
    (held : List Value) :
    (itemTokens items).foldlM (Builder.step dialect) ⟨.list held :: frames, depth, .commaOrClose⟩ =
      .ok ⟨.list (items.reverse ++ held) :: frames, depth, .commaOrClose⟩ := by
  induction items generalizing held with
  | nil => rfl
  | cons item rest ih =>
      rw [List.forall_mem_cons] at each
      have comma : Builder.step dialect ⟨.list held :: frames, depth, .commaOrClose⟩ .comma =
        .ok ⟨.list held :: frames, depth, .value⟩ := rfl
      unfold itemTokens
      rw [steps_cons comma, steps_append (each.1 _), ih each.2, List.reverse_cons, List.append_assoc]
      rfl

theorem build_entries {entries : List (String × Value)} (each : ∀ entry ∈ entries, Builds dialect depth entry.2)
    (held : List (Value × Value)) :
    (entryTokens (entries.map fun entry => (.text entry.1, entry.2))).foldlM (Builder.step dialect)
        ⟨.dict held :: frames, depth, .commaOrClose⟩ =
      .ok ⟨.dict ((entries.map fun entry => (.text entry.1, entry.2)).reverse ++ held) :: frames, depth,
        .commaOrClose⟩ := by
  induction entries generalizing held with
  | nil => rfl
  | cons entry rest ih =>
      rcases entry with ⟨name, value⟩
      rw [List.forall_mem_cons] at each
      have comma : Builder.step dialect ⟨.dict held :: frames, depth, .commaOrClose⟩ .comma =
        .ok ⟨.dict held :: frames, depth, .key⟩ := rfl
      have key : Builder.step dialect ⟨.dict held :: frames, depth, .key⟩ (.text name) =
        .ok ⟨.keyed held (.text name) :: frames, depth, .colon⟩ := rfl
      have colon : Builder.step dialect ⟨.keyed held (.text name) :: frames, depth, .colon⟩ .colon =
        .ok ⟨.keyed held (.text name) :: frames, depth, .value⟩ := rfl
      rw [List.map_cons]
      unfold entryTokens keyText
      rw [steps_cons comma, steps_cons key, steps_cons colon, steps_append (each.1 _), ih each.2,
        List.reverse_cons, List.append_assoc]
      rfl

theorem builds_token {token : Token} {value : Value} (single : tokensOf value = [token])
    (stepped : ∀ frames, Builder.step dialect ⟨frames, depth, .value⟩ token = Builder.finish frames depth value) :
    Builds dialect depth value := by
  intro frames
  rw [single, List.foldlM_cons, stepped]
  exact bind_pure _

theorem builds_word {word : List Char} {value : Value} (single : tokensOf value = [.word word])
    (found : word? dialect.strict word = some value) : Builds dialect depth value := by
  refine builds_token single fun frames => ?_
  simp only [Builder.step, Builder.value, found]

theorem opened_of_room {expected : Expected} (fits : depth < dialect.depth) (frame : Frame)
    (next : Expected) : Builder.opened dialect ⟨frames, depth, expected⟩ frame next =
      .ok ⟨frame :: frames, depth + 1, next⟩ := by
  have within : ¬(dialect.countsEmpty && decide (dialect.depth ≤ depth)) = true := by
    simp only [Bool.and_eq_true, decide_eq_true_eq]
    omega
  exact if_neg within

theorem builds_list {items : List Value} (each : ∀ item ∈ items, Builds dialect (depth + 1) item)
    (fits : depth < dialect.depth) : Builds dialect depth (.list items) := by
  intro frames
  have opened : Builder.step dialect ⟨frames, depth, .value⟩ .openList =
      .ok ⟨.list [] :: frames, depth + 1, .valueOrClose⟩ := opened_of_room fits _ _
  cases items with
  | nil =>
      unfold tokensOf
      rw [steps_cons opened, List.foldlM_cons]
      exact bind_pure _
  | cons item rest =>
      rw [List.forall_mem_cons] at each
      unfold tokensOf
      rw [steps_cons opened, steps_append (each.1.first fits), steps_append (build_items each.2 [item]),
        List.foldlM_cons]
      have closed : Builder.step dialect ⟨.list (rest.reverse ++ [item]) :: frames, depth + 1, .commaOrClose⟩
          .closeList = Builder.finish frames depth (.list (item :: rest)) := by
        rw [← List.reverse_cons]
        change Builder.finish frames depth (.list (item :: rest).reverse.reverse) = _
        rw [List.reverse_reverse]
      rw [closed]
      exact bind_pure _

theorem builds_dict {entries : List (String × Value)} (nodup : (entries.map Prod.fst).Nodup)
    (each : ∀ entry ∈ entries, Builds dialect (depth + 1) entry.2) (fits : depth < dialect.depth) :
    Builds dialect depth (.dict (entries.map fun entry => (.text entry.1, entry.2))) := by
  intro frames
  have opened : Builder.step dialect ⟨frames, depth, .value⟩ .openDict =
      .ok ⟨.dict [] :: frames, depth + 1, .keyOrClose⟩ := opened_of_room fits _ _
  cases entries with
  | nil =>
      rw [List.map_nil]
      unfold tokensOf
      rw [steps_cons opened, List.foldlM_cons]
      exact bind_pure _
  | cons entry rest =>
      rcases entry with ⟨name, value⟩
      rw [List.forall_mem_cons] at each
      have key : Builder.step dialect ⟨.dict [] :: frames, depth + 1, .keyOrClose⟩ (.text name) =
          .ok ⟨.keyed [] (.text name) :: frames, depth + 1, .colon⟩ := by
        have within : ¬dialect.depth < depth + 1 := by omega
        exact if_neg within
      have colon : Builder.step dialect ⟨.keyed [] (.text name) :: frames, depth + 1, .colon⟩ .colon =
        .ok ⟨.keyed [] (.text name) :: frames, depth + 1, .value⟩ := rfl
      have closed : Builder.step dialect
          ⟨.dict ((rest.map fun entry => (.text entry.1, entry.2)).reverse ++ [(.text name, value)]) :: frames,
            depth + 1, .commaOrClose⟩ .closeDict =
          Builder.finish frames depth
            (.dict (((name, value) :: rest).map fun entry => (.text entry.1, entry.2))) := by
        rw [← distinct_reverse nodup, List.map_cons, List.reverse_cons]
        rfl
      rw [List.map_cons]
      unfold tokensOf keyText
      rw [steps_cons opened, steps_cons key, steps_cons colon, steps_append (each.1 _),
        steps_append (build_entries each.2 [(.text name, value)]), List.foldlM_cons, closed]
      exact bind_pure _

theorem builds_of_faithful {room : Nat} {value : Value} (faithful : Faithful room value)
    (fits : depth + room ≤ dialect.depth) : Builds dialect depth value := by
  induction faithful generalizing depth with
  | null => exact builds_word rfl rfl
  | bool b => cases b <;> exact builds_word rfl rfl
  | int n short => exact builds_word rfl (word?_intText short)
  | text s => exact builds_token rfl fun _ => rfl
  | list items _ ih => exact builds_list (fun item member => ih item member (by omega)) (by omega)
  | dict entries distinct _ ih => exact builds_dict distinct (fun entry member => ih entry member (by omega)) (by omega)

end Building

/-- What was written of a value that JSON text can hold is read as that value, also with blanks behind it. -/
theorem read_print {dialect : Dialect} {room : Nat} {value : Value} (faithful : Faithful room value)
    (fits : room ≤ dialect.depth) (layout : Layout) (blanks : List Char)
    (blank : ∀ c ∈ blanks, c = ' ' ∨ c = '\n') :
    read dialect (print layout value ++ String.ofList blanks) = .ok value := by
  have behind : Reads dialect.strict blanks [] := by
    have reads : Reads dialect.strict (blanks ++ []) [] := reads_nil.blanks blanks blank
    rwa [List.append_nil] at reads
  have apart : Apart blanks := by
    intro c isFirst
    rcases blank c (List.mem_of_mem_head? isFirst) with rfl | rfl <;> decide
  have written : Reads dialect.strict (write layout 0 value) (tokensOf value) := reads_write faithful 0
  have reads := written.append behind apart
  rw [List.append_nil] at reads
  have built := builds_of_faithful faithful (by omega : 0 + room ≤ dialect.depth) []
  rw [print, ← String.ofList_append, read, String.toList_ofList, tokens_of_reads reads, built]
  rfl

/-! ### Plain text -/

section Plain

variable {layout : Layout} {depth : Nat}

theorem plain_of_blank {blanks : List Char} (blank : ∀ c ∈ blanks, c = ' ' ∨ c = '\n') :
    blanks.all Text.isPlain = true := by
  rw [List.all_eq_true]
  intro c member
  rcases blank c member with rfl | rfl <;> rfl

theorem plain_digits {cs : List Char} (digits : ∀ c ∈ cs, ∃ d < 16, Numeral.digitChar d = c) :
    cs.all Text.isPlain = true := by
  rw [List.all_eq_true]
  intro c member
  obtain ⟨d, small, rfl⟩ := digits c member
  have all : ∀ d < 16, Text.isPlain (Numeral.digitChar d) = true := by decide
  exact all d small

theorem plain_intText (n : Int) : (Numeral.intText n).toList.all Text.isPlain = true := by
  have digits (m : Nat) : (Numeral.write 10 m).all Text.isPlain = true := by
    refine plain_digits fun c member => ?_
    obtain ⟨d, small, same⟩ := Numeral.mem_write (by decide) member
    exact ⟨d, by omega, same⟩
  unfold Numeral.intText Numeral.natText
  split
  · rw [String.toList_ofList, List.all_cons, digits]
    rfl
  · rw [String.toList_ofList, digits]

theorem plain_escape (c : Char) : (escape c).all Text.isPlain = true := by
  have unit (n : Nat) : (unitEscape n).all Text.isPlain = true := by
    rw [unitEscape, List.all_cons, List.all_cons,
      plain_digits fun _ member => Numeral.mem_padded (by decide) member]
    rfl
  rcases escape_cases c with ⟨letter, ascii, _, short, written⟩ | ⟨_, _, visible, ascii, written⟩ |
    ⟨_, written⟩ | ⟨_, written⟩
  · have noReturn : letter ≠ '\r' := by
      rintro rfl
      cases short
    have plain : Text.isPlain letter = true := by
      rw [Text.isPlain, Bool.and_eq_true, decide_eq_true_eq, bne_iff_ne]
      exact ⟨by omega, noReturn⟩
    rw [written, List.all_cons, List.all_cons, plain]
    rfl
  · have noReturn : c ≠ '\r' := by
      rintro rfl
      exact absurd visible (by decide)
    rw [written, List.all_cons, List.all_nil, Bool.and_true, Text.isPlain, Bool.and_eq_true,
      decide_eq_true_eq, bne_iff_ne]
    exact ⟨by omega, noReturn⟩
  · rw [written, unit]
  · rw [written, List.all_append, unit, unit]
    rfl

theorem plain_quote (s : String) : (quote s).all Text.isPlain = true := by
  rw [quote, List.all_append, List.all_cons, List.all_flatMap]
  simp only [plain_escape]
  simp [Text.isPlain]

theorem plain_items {items : List Value} (each : ∀ item ∈ items, (write layout depth item).all Text.isPlain = true) :
    (writeItems layout depth items).all Text.isPlain = true := by
  induction items with
  | nil => rfl
  | cons item rest ih =>
      rw [List.forall_mem_cons] at each
      unfold writeItems
      simp only [List.cons_append, List.all_cons, List.all_append, each.1, ih each.2,
        plain_of_blank (gap_blank layout depth false)]
      rfl

theorem plain_entries {entries : List (Value × Value)}
    (each : ∀ entry ∈ entries, (write layout depth entry.2).all Text.isPlain = true) :
    (writeEntries layout depth entries).all Text.isPlain = true := by
  induction entries with
  | nil => rfl
  | cons entry rest ih =>
      rcases entry with ⟨key, value⟩
      rw [List.forall_mem_cons] at each
      unfold writeEntries
      simp only [List.cons_append, List.all_cons, List.all_append, writeKey_eq, plain_quote, each.1, ih each.2,
        plain_of_blank (gap_blank layout depth false)]
      rfl

theorem plain_write {room : Nat} {value : Value} (faithful : Faithful room value) (layout : Layout)
    (depth : Nat) : (write layout depth value).all Text.isPlain = true := by
  induction faithful generalizing depth with
  | null => rfl
  | bool b => cases b <;> rfl
  | int n => exact plain_intText n
  | text s => exact plain_quote s
  | list items _ ih =>
      cases items with
      | nil => rfl
      | cons item rest =>
          rw [List.forall_mem_cons] at ih
          have others := plain_items fun other member => ih.2 other member (depth + 1)
          unfold write
          simp only [List.cons_append, List.all_cons, List.all_append, ih.1, others,
            plain_of_blank (gap_blank layout (depth + 1) true), plain_of_blank (last_blank layout depth)]
          rfl
  | dict entries _ _ ih =>
      cases entries with
      | nil => rfl
      | cons entry rest =>
          rw [List.forall_mem_cons] at ih
          have others : (writeEntries layout (depth + 1)
              (rest.map fun entry => (Value.text entry.1, entry.2))).all Text.isPlain = true := by
            refine plain_entries fun other member => ?_
            obtain ⟨named, inRest, rfl⟩ := List.mem_map.mp member
            exact ih.2 named inRest (depth + 1)
          rw [List.map_cons]
          unfold write
          simp only [List.cons_append, List.all_cons, List.all_append, writeKey_eq, plain_quote, ih.1, others,
            plain_of_blank (gap_blank layout (depth + 1) true), plain_of_blank (last_blank layout depth)]
          rfl

end Plain

end ReorgGuard.Json
