import Mathlib.Data.List.TakeWhile
import ReorgGuard.Text.Blank

/-!
Text between blanks.

Trimming takes away the blanks at both ends and nothing else.  Text without any blank is what is left of every text
in which it stands between blanks.
-/

namespace ReorgGuard.Text

def Framed (inner cs : List Char) : Prop :=
  ∃ front back, cs = front ++ inner ++ back ∧ (∀ c ∈ front, isBlank c = true) ∧ ∀ c ∈ back, isBlank c = true

theorem Framed.refl (cs : List Char) : Framed cs cs :=
  ⟨[], [], (List.append_nil cs).symm, List.forall_mem_nil _, List.forall_mem_nil _⟩

theorem Framed.forall {inner cs : List Char} (framed : Framed inner cs) {p : Char → Prop}
    (inside : ∀ c ∈ inner, p c) (blank : ∀ c, isBlank c = true → p c) : ∀ c ∈ cs, p c := by
  obtain ⟨front, back, rfl, frontBlank, backBlank⟩ := framed
  intro c member
  rw [List.mem_append, List.mem_append] at member
  rcases member with (inFront | inInner) | inBack
  · exact blank c (frontBlank c inFront)
  · exact inside c inInner
  · exact blank c (backBlank c inBack)

theorem framed_trim (cs : List Char) : Framed (trim cs) cs := by
  refine ⟨cs.takeWhile isBlank, ((cs.dropWhile isBlank).reverse.takeWhile isBlank).reverse, ?_,
    fun c member => List.mem_takeWhile_imp member,
    fun c member => List.mem_takeWhile_imp (List.mem_reverse.mp member)⟩
  rw [trim, trimBy, List.append_assoc, ← List.reverse_append, List.takeWhile_append_dropWhile,
    List.reverse_reverse, List.takeWhile_append_dropWhile]

theorem trim_of_framed {inner cs : List Char} (visible : ∀ c ∈ inner, isBlank c = false)
    (framed : Framed inner cs) : trim cs = inner := by
  obtain ⟨front, back, rfl, frontBlank, backBlank⟩ := framed
  have backDropped : (back.reverse ++ inner.reverse).dropWhile isBlank = inner.reverse.dropWhile isBlank :=
    List.dropWhile_append_of_pos fun c member => backBlank c (List.mem_reverse.mp member)
  rw [trim, trimBy, List.append_assoc, List.dropWhile_append_of_pos frontBlank]
  cases inner with
  | nil =>
      rw [List.nil_append, List.dropWhile_eq_nil_iff.mpr backBlank]
      rfl
  | cons first rest =>
      have shown : ¬isBlank first = true := by
        rw [visible first List.mem_cons_self]
        exact Bool.false_ne_true
      rw [List.cons_append, List.dropWhile_cons_of_neg shown, ← List.cons_append, List.reverse_append, backDropped]
      have same : trim (first :: rest) = first :: rest :=
        trimBy_of_ends (fun c atHead => visible c (List.mem_of_head? atHead))
          (fun c atEnd => visible c (List.mem_of_getLast? atEnd))
      rw [trim, trimBy, List.dropWhile_cons_of_neg shown] at same
      exact same

theorem trim_eq_iff_framed {inner cs : List Char} (visible : ∀ c ∈ inner, isBlank c = false) :
    trim cs = inner ↔ Framed inner cs := by
  constructor
  · rintro rfl
    exact framed_trim cs
  · exact trim_of_framed visible

end ReorgGuard.Text
