import StatusBoard.Text.Numeral

/-!
The decimal digits of a number.
-/

namespace StatusBoard.Text

theorem hexDigit?_digitChar : ∀ d < 10, hexDigit? (Nat.digitChar d) = some d := by decide

theorem head?_toDigits {n : Nat} (h : 0 < n) : (Nat.toDigits 10 n).head? ≠ some '0' := by
  induction n using Nat.strongRecOn with
  | ind n ih =>
      rcases Nat.lt_or_ge n 10 with hlt | hge
      · have hdigit : ∀ d < 10, 0 < d → Nat.digitChar d ≠ '0' := by decide
        rw [Nat.toDigits_of_lt_base hlt]
        simpa using hdigit n hlt h
      · have hne : Nat.toDigits 10 (n / 10) ≠ [] := Nat.toDigits_ne_nil
        obtain ⟨c, cs, hhigh⟩ := List.exists_cons_of_ne_nil hne
        have hhead := ih (n / 10) (by omega) (by omega)
        rw [hhigh] at hhead
        rw [Nat.toDigits_of_base_le (by decide) hge, hhigh]
        exact hhead

/-- A number is not written with a zero in front of other digits. -/
theorem toDigits_ne_zero_cons (n : Nat) (c : Char) (cs : List Char) :
    Nat.toDigits 10 n ≠ '0' :: c :: cs := by
  intro heq
  rcases Nat.eq_zero_or_pos n with rfl | hpos
  · cases heq
  · exact head?_toDigits hpos (congrArg List.head? heq)

theorem toList_toString (n : Nat) : (toString n).toList = Nat.toDigits 10 n := String.toList_ofList

theorem toString_inj {m n : Nat} : toString m = toString n ↔ m = n := by
  refine ⟨fun h => ?_, fun h => h ▸ rfl⟩
  have hdigits := congrArg String.toList h
  rw [toList_toString, toList_toString] at hdigits
  have hvalue := congrArg (Nat.ofDigitChars 10 · 0) hdigits
  simpa only [Nat.ofDigitChars_ten_toDigits] using hvalue

end StatusBoard.Text
