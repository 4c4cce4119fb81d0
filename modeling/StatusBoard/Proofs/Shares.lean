import Mathlib.Logic.Function.Basic

/-!
Items from several sources in one sequence, each beside the source it comes from.
-/

namespace StatusBoard

variable {ι α : Type} [DecidableEq ι]

/-- What comes from one source, in order. -/
def shareOf (i : ι) (items : List (ι × α)) : List α := (items.filter (·.1 = i)).map Prod.snd

theorem shareOf_concat (items : List (ι × α)) (i j : ι) (a : α) :
    shareOf j (items ++ [(i, a)]) = if j = i then shareOf j items ++ [a] else shareOf j items := by
  rw [shareOf, List.filter_append, List.map_append]
  by_cases h : i = j
  · simp [shareOf, h]
  · simp [shareOf, h, Ne.symm h]

/-- An item that leaves the queue of its source for the end of the sequence is not lost. -/
theorem shareOf_concat_append {q : ι → List α} {i : ι} {a : α} {rest : List α}
    (h : q i = a :: rest) (items : List (ι × α)) (j : ι) :
    shareOf j (items ++ [(i, a)]) ++ Function.update q i rest j = shareOf j items ++ q j := by
  rw [shareOf_concat]
  by_cases hj : j = i
  · subst hj
    rw [if_pos rfl, Function.update_self, h, List.append_assoc, List.singleton_append]
  · rw [if_neg hj, Function.update_of_ne hj]

end StatusBoard
