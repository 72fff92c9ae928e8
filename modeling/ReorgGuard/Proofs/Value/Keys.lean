import Mathlib.Data.List.Basic
import ReorgGuard.Value.Merge

/-!
Mappings by their keys.

A mapping is a list of keys with what stands at them, each key once.  Giving a key something keeps that so,
changes what stands at this key, and leaves the others as they are.  What stands at the keys may be of any
kind: a value, or in the making of a document a part of one.

Only keys that are text are looked up here.  Two texts are the same key exactly if they are equal, and no
other value is the same key as a text.
-/

namespace ReorgGuard.Value

variable {γ : Type}

def Distinct (entries : List (Value × γ)) : Prop :=
  entries.Pairwise fun first second => first.1.sameKey second.1 = false

def standing? (entries : List (Value × γ)) (name : String) : Option γ :=
  (entries.find? fun e => e.1.sameKey (text name)).map (·.2)

/-- Gives a key something to stand at it. -/
def place (entries : List (Value × γ)) (key : Value) (new : γ) : List (Value × γ) :=
  match entries with
  | [] => [(key, new)]
  | e :: rest => if e.1.sameKey key then (e.1, new) :: rest else e :: place rest key new

theorem field?_eq_standing? (entries : List (Value × Value)) (name : String) :
    field? entries name = standing? entries name := rfl

theorem put_eq_place (entries : List (Value × Value)) (key value : Value) :
    put entries key value = place entries key value := by
  induction entries with
  | nil => rfl
  | cons e rest ih => rw [put, place, ih]

theorem sameKey_text_iff {key : Value} {name : String} : key.sameKey (text name) = true ↔ key = text name := by
  cases key with
  | text s =>
      rw [sameKey, beq_iff_eq, text.injEq]
  | bool b => exact iff_of_false Bool.false_ne_true (fun impossible => by cases impossible)
  | int n => exact iff_of_false Bool.false_ne_true (fun impossible => by cases impossible)
  | float x =>
      refine iff_of_false ?_ (fun impossible => by cases impossible)
      simp only [sameKey]
      cases whole? (float x) <;> exact Bool.false_ne_true
  | _ => exact iff_of_false Bool.false_ne_true (fun impossible => by cases impossible)

theorem text_sameKey_iff {key : Value} {name : String} : (text name).sameKey key = true ↔ key = text name := by
  cases key with
  | text s =>
      rw [sameKey, beq_iff_eq, text.injEq, eq_comm]
  | _ => exact iff_of_false Bool.false_ne_true (fun impossible => by cases impossible)

variable {entries : List (Value × γ)} {key : Value} {new : γ} {name : String}

theorem mem_place {entry : Value × γ} (member : entry ∈ place entries key new) :
    entry.2 = new ∨ ∃ old ∈ entries, old.2 = entry.2 := by
  induction entries with
  | nil =>
      rw [List.mem_singleton.mp member]
      exact Or.inl rfl
  | cons e rest ih =>
      rw [place] at member
      split at member
      · rcases List.mem_cons.mp member with rfl | inRest
        · exact Or.inl rfl
        · exact Or.inr ⟨entry, List.mem_cons_of_mem _ inRest, rfl⟩
      · rcases List.mem_cons.mp member with rfl | inRest
        · exact Or.inr ⟨entry, List.mem_cons_self, rfl⟩
        · exact (ih inRest).imp_right fun old => old.imp fun _ found =>
            ⟨List.mem_cons_of_mem _ found.1, found.2⟩

theorem keys_place : (place entries key new).map Prod.fst = entries.map Prod.fst ∨
    (∀ e ∈ entries, e.1.sameKey key = false) ∧ place entries key new = entries ++ [(key, new)] := by
  induction entries with
  | nil => exact Or.inr ⟨List.forall_mem_nil _, rfl⟩
  | cons e rest ih =>
      rw [place]
      split
      · exact Or.inl rfl
      · rename_i other
        rcases ih with same | ⟨absent, behind⟩
        · refine Or.inl ?_
          rw [List.map_cons, same, List.map_cons]
        · refine Or.inr ⟨List.forall_mem_cons.mpr ⟨Bool.eq_false_iff.mpr other, absent⟩, ?_⟩
          rw [behind, List.cons_append]

theorem distinct_iff_keys : Distinct entries ↔
    (entries.map Prod.fst).Pairwise fun first second => first.sameKey second = false := by
  rw [List.pairwise_map]
  exact Iff.rfl

theorem Distinct.place (distinct : Distinct entries) (key : Value) (new : γ) :
    Distinct (place entries key new) := by
  rcases @keys_place γ entries key new with same | ⟨absent, behind⟩
  · rw [distinct_iff_keys, same, ← distinct_iff_keys]
    exact distinct
  · rw [behind, Distinct, List.pairwise_append]
    refine ⟨distinct, List.pairwise_singleton _ _, fun e member last isLast => ?_⟩
    rw [List.mem_singleton.mp isLast]
    exact absent e member

theorem standing?_place_self : standing? (place entries (text name) new) name = some new := by
  induction entries with
  | nil => simp [place, standing?, sameKey_text_iff]
  | cons e rest ih =>
      rw [place]
      split
      · rename_i same
        simp [standing?, same]
      · rename_i other
        unfold standing? at ih ⊢
        rw [List.find?_cons, Bool.eq_false_iff.mpr other, ih]

theorem standing?_place_of_ne (other : key ≠ text name) :
    standing? (place entries key new) name = standing? entries name := by
  have notName : key.sameKey (text name) = false := Bool.eq_false_iff.mpr (sameKey_text_iff.not.mpr other)
  induction entries with
  | nil => simp [place, standing?, notName]
  | cons e rest ih =>
      rw [place]
      split
      · rename_i same
        have unlike : e.1.sameKey (text name) = false := by
          refine Bool.eq_false_iff.mpr fun isName => other ?_
          rw [sameKey_text_iff.mp isName] at same
          exact text_sameKey_iff.mp same
        simp [standing?, unlike]
      · unfold standing? at ih ⊢
        rw [List.find?_cons, List.find?_cons]
        split
        · rfl
        · exact ih

theorem standing?_cons_self {e : Value × γ} (same : e.1 = text name) :
    standing? (e :: entries) name = some e.2 := by
  unfold standing?
  rw [List.find?_cons, sameKey_text_iff.mpr same]
  rfl

theorem standing?_cons_of_ne {e : Value × γ} (other : e.1 ≠ text name) :
    standing? (e :: entries) name = standing? entries name := by
  unfold standing?
  rw [List.find?_cons, Bool.eq_false_iff.mpr (sameKey_text_iff.not.mpr other)]

theorem put_of_absent {entries : List (Value × Value)} (absent : ∀ e ∈ entries, e.1.sameKey key = false)
    (value : Value) : put entries key value = entries ++ [(key, value)] := by
  induction entries with
  | nil => rfl
  | cons e rest ih =>
      rw [List.forall_mem_cons] at absent
      rw [put, if_neg (Bool.eq_false_iff.mp absent.1), ih absent.2, List.cons_append]

theorem standing?_eq_none_iff : standing? entries name = none ↔ ∀ e ∈ entries, e.1 ≠ text name := by
  unfold standing?
  rw [Option.map_eq_none_iff, List.find?_eq_none]
  exact forall₂_congr fun e _ => sameKey_text_iff.not

end ReorgGuard.Value
