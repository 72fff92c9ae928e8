import ReorgGuard.Proofs.Value.Merging

/-!
What makes two values the same key, and what stands at a key of any kind.

A value that can be found in a mapping stands for something there: a number for the integer that it equals, octets
for what they hold, a point in time for its instant.  Two values are the same key exactly if they stand for one
thing, so that a key may be looked up by any other that is the same.
-/

namespace ReorgGuard.Value

inductive Token where
  | null
  | text (s : String)
  | ragged (s : String)
  | octets (bytes : List UInt8)
  /-- An integer, or the bits of a floating point number that equals none. -/
  | number (n : Int ⊕ UInt64)
  /-- An instant, or a moment that is not tied to the clock of the world. -/
  | moment (m : (Int × Nat) ⊕ Moment)

def instant (m : Moment) : (Int × Nat) ⊕ Moment :=
  match m.time with
  | none => .inr m
  | some t =>
      match t.offset with
      | none => .inr m
      | some offset => .inl (m.worldSeconds t offset, t.micros)

def floatNumber (x : Float) : Int ⊕ UInt64 :=
  match Numeral.wholeOf? x with
  | some n => .inl n
  | none => .inr x.toBits

/-- What a value stands for as a key; nothing for one that is never found in a mapping. -/
def token? : Value → Option Token
  | null => some .null
  | bool b => some (.number (.inl (if b then 1 else 0)))
  | int n => some (.number (.inl n))
  | float x => some (.number (floatNumber x))
  | text s => some (.text s)
  | ragged s => some (.ragged s)
  | octets _ bytes => some (.octets bytes)
  | moment m => some (.moment (instant m))
  | _ => none

theorem same_iff_instant (m n : Moment) : m.same n = true ↔ instant m = instant n := by
  unfold Moment.same instant
  rcases m with ⟨year, month, day, _ | ⟨hour, minute, second, micros, _ | offset⟩⟩ <;>
    rcases n with ⟨year', month', day', _ | ⟨hour', minute', second', micros', _ | offset'⟩⟩ <;>
    simp

theorem sameFloat_iff (x y : Float) : sameFloat x y = true ↔ floatNumber x = floatNumber y := by
  unfold sameFloat floatNumber
  cases Numeral.wholeOf? x <;> cases Numeral.wholeOf? y <;> simp

theorem sameKey_iff (a b : Value) : a.sameKey b = true ↔ a.token?.isSome ∧ a.token? = b.token? := by
  cases a <;> cases b <;> simp [sameKey, token?, whole?, same_iff_instant, sameFloat_iff]
  -- What is left are an integer and a floating point number, in either order.
  case bool.float _ x | int.float _ x | float.bool x _ | float.int x _ =>
    unfold floatNumber
    cases Numeral.wholeOf? x <;> simp

variable {a b : Value}

theorem sameKey_comm (a b : Value) : a.sameKey b = b.sameKey a := by
  rw [Bool.eq_iff_iff, sameKey_iff, sameKey_iff]
  constructor <;> intro ⟨isKey, same⟩ <;> exact ⟨same ▸ isKey, same.symm⟩

theorem sameKey_congr_left (same : a.sameKey b = true) (other : Value) : a.sameKey other = b.sameKey other := by
  rw [Bool.eq_iff_iff, sameKey_iff, sameKey_iff, ((sameKey_iff a b).mp same).2]

theorem sameKey_congr_right (same : a.sameKey b = true) (other : Value) : other.sameKey a = other.sameKey b := by
  rw [sameKey_comm other a, sameKey_comm other b, sameKey_congr_left same]

/-! ### What stands at a key -/

variable {entries base overlay : List (Value × Value)}

theorem entry?_nil (key : Value) : entry? [] key = none := rfl

theorem entry?_cons (e : Value × Value) (rest : List (Value × Value)) (key : Value) :
    entry? (e :: rest) key = if e.1.sameKey key then some e.2 else entry? rest key := by
  unfold entry?
  rw [List.find?_cons]
  split <;> simp [*]

theorem entry?_eq_none_iff {key : Value} :
    entry? entries key = none ↔ ∀ e ∈ entries, e.1.sameKey key = false := by
  unfold entry?
  simp

theorem entry?_congr (same : a.sameKey b = true) (entries : List (Value × Value)) :
    entry? entries a = entry? entries b := by
  induction entries with
  | nil => rfl
  | cons e rest ih => rw [entry?_cons, entry?_cons, sameKey_congr_right same, ih]

theorem entry?_put (entries : List (Value × Value)) (key value other : Value) :
    entry? (put entries key value) other = if key.sameKey other then some value else entry? entries other := by
  induction entries with
  | nil => rw [put, entry?_cons]
  | cons e rest ih =>
      rw [put]
      split
      · rename_i same
        rw [entry?_cons, entry?_cons, sameKey_congr_left same]
        split <;> rfl
      · rename_i different
        rw [entry?_cons, entry?_cons, ih]
        -- The key that is asked for cannot be the one of this entry and the one that was put.
        by_cases here : e.1.sameKey other = true
        · have elsewhere : ¬key.sameKey other = true := by
            intro same
            rw [sameKey_congr_right same] at different
            exact different here
          rw [if_pos here, if_pos here, if_neg elsewhere]
        · rw [if_neg here, if_neg here]

theorem merge_cons (base : List (Value × Value)) (key value : Value) (rest : List (Value × Value)) :
    merge base ((key, value) :: rest) = merge (put base key (laid ( entry? base key) value)) rest := by
  rw [merge]
  unfold laid
  cases entry? base key <;> rfl

theorem entry?_merge (distinct : Distinct overlay) (key : Value) :
    entry? (merge base overlay) key =
      match entry? overlay key with
      | some new => some (laid ( entry? base key) new)
      | none => entry? base key := by
  induction overlay generalizing base with
  | nil => rw [merge, entry?_nil]
  | cons e rest ih =>
      obtain ⟨name, value⟩ := e
      obtain ⟨first, others⟩ := List.pairwise_cons.mp distinct
      rw [merge_cons, ih others, entry?_cons, entry?_put]
      by_cases same : name.sameKey key = true
      · have behind : entry? rest key = none := by
          rw [← entry?_congr same, entry?_eq_none_iff]
          intro later member
          rw [sameKey_comm]
          exact first later member
        rw [if_pos same, if_pos same, behind, entry?_congr same]
      · rw [if_neg same, if_neg same]

end ReorgGuard.Value
