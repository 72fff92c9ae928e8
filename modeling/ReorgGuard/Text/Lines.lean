/-!
Line ends.

A carriage return, alone or before a line feed, ends a line like a line feed does.
-/

namespace ReorgGuard.Text

def unifyLineEnds : List Char → List Char
  | '\r' :: '\n' :: rest => '\n' :: unifyLineEnds rest
  | '\r' :: rest => '\n' :: unifyLineEnds rest
  | c :: rest => c :: unifyLineEnds rest
  | [] => []

theorem unifyLineEnds_of_no_return {cs : List Char} (plain : '\r' ∉ cs) : unifyLineEnds cs = cs := by
  induction cs with
  | nil => rfl
  | cons c rest ih =>
      have here : c ≠ '\r' := fun same => plain (same ▸ List.mem_cons_self)
      have there := ih fun inRest => plain (List.mem_cons_of_mem _ inRest)
      rw [unifyLineEnds.eq_def]
      split <;> simp_all

def splitAt (mark : Char) : List Char → List (List Char)
  | [] => [[]]
  | c :: rest =>
      if c = mark then [] :: splitAt mark rest
      else
        match splitAt mark rest with
        | [] => [[c]]
        | piece :: others => (c :: piece) :: others

end ReorgGuard.Text
