import Mathlib.Data.List.DropRight
import StatusBoard.Log.Body
import StatusBoard.Proofs.Log.Breaking

/-!
Empty rows of a wrapped text.

A row is finished only when something stands on it, so that none but the last can be empty.  Spaces
at the end of a text are words without characters: each takes a column as long as there is one, and
the first that has none finishes the row and leaves an empty one behind.
-/

namespace StatusBoard

/-- The last field of a text that does not end in a separator is not empty. -/
theorem Text.exists_split_concat {p : Char → Bool} {c : Char} (h : p c = false) (cs : List Char) :
    ∃ fields field, split p (cs ++ [c]) = fields ++ [field ++ [c]] := by
  induction cs with
  | nil => exact ⟨[], [], split_eq_singleton fun ch hch => by rwa [List.mem_singleton.mp hch]⟩
  | cons d cs ih =>
      obtain ⟨fields, field, hsplit⟩ := ih
      rw [List.cons_append]
      cases hd : p d with
      | true => exact ⟨[] :: fields, field, by rw [split_cons_sep hd, hsplit, List.cons_append]⟩
      | false =>
          obtain ⟨first, rest, hfirst, hcons⟩ := split_cons_other hd (cs ++ [c])
          rw [hsplit] at hfirst
          cases fields with
          | nil =>
              obtain ⟨rfl, rfl⟩ := List.cons.inj hfirst
              exact ⟨[], d :: field, hcons⟩
          | cons next fields =>
              obtain ⟨rfl, rfl⟩ := List.cons.inj hfirst
              exact ⟨(d :: next) :: fields, field, hcons⟩

theorem Text.split_append_spaces (cs : List Char) (k : Nat) :
    split (· == ' ') (cs ++ List.replicate k ' ') =
      split (· == ' ') cs ++ List.replicate k [] := by
  induction k generalizing cs with
  | zero => rw [List.replicate_zero, List.replicate_zero, List.append_nil, List.append_nil]
  | succ k ih =>
      rw [List.replicate_succ, split_append_cons rfl, ← List.nil_append (List.replicate k ' '),
        ih [], split_nil, List.replicate_succ]
      rfl

namespace Log

open Text

/-! ## Rows that are finished -/

namespace Wrapping

variable {s : Wrapping} {word : List Char}

/-- No finished row is empty. -/
def IsSolid (s : Wrapping) : Prop := ∀ row ∈ s.rows, row ≠ ""

namespace IsSolid

theorem breakRow (h : s.IsSolid) : s.breakRow.IsSolid := by
  unfold Wrapping.breakRow
  split
  · exact h
  · rename_i hcurrent
    intro row hrow
    rcases Array.mem_push.mp hrow with hrow | rfl
    · exact h row hrow
    · exact hcurrent

theorem addChar (h : s.IsSolid) (width : Nat) (ch : Char) : (s.addChar width ch).IsSolid := by
  unfold Wrapping.addChar
  simp only
  split
  · exact h.breakRow
  · exact h

theorem addChars (h : s.IsSolid) (width : Nat) (word : List Char) :
    (word.foldl (Wrapping.addChar width) s).IsSolid := by
  induction word generalizing s with
  | nil => exact h
  | cons ch word ih => exact ih (h.addChar width ch)

theorem addWord (h : s.IsSolid) (width : Nat) (word : List Char) :
    (s.addWord width word).IsSolid := by
  unfold Wrapping.addWord
  simp only
  generalize (if s.current = "" then 0 else 1) = gap
  split
  · exact h
  · exact h.breakRow.addChars width word

theorem addWords (h : s.IsSolid) (width : Nat) (words : List (List Char)) :
    (words.foldl (Wrapping.addWord width) s).IsSolid := by
  induction words generalizing s with
  | nil => exact h
  | cons word words ih => exact ih (h.addWord width word)

end IsSolid

/-! ## The row being filled -/

theorem current_addChars_ne (width : Nat) (s : Wrapping) (hword : word ≠ []) :
    (word.foldl (addChar width) s).current ≠ "" := by
  obtain ⟨before, ch, rfl⟩ := List.eq_nil_or_concat word |>.resolve_left hword
  rw [List.concat_eq_append, List.foldl_append, List.foldl_cons, List.foldl_nil]
  exact String.push_ne_empty

/-- After a word with characters the row is not empty. -/
theorem current_addWord_ne (width : Nat) (s : Wrapping) (hword : word ≠ []) :
    (s.addWord width word).current ≠ "" := by
  unfold addWord
  simp only
  generalize (if s.current = "" then 0 else 1) = gap
  split
  · intro hempty
    rw [String.append_eq_empty_iff, String.ofList_eq_empty_iff] at hempty
    exact hword hempty.2
  · exact current_addChars_ne width _ hword

/-- A word without characters is a space after a row, if there is room for it. -/
theorem addWord_nil (width : Nat) (s : Wrapping) (hcurrent : s.current ≠ "") :
    s.addWord width [] =
      if s.used + 1 ≤ width then ⟨s.rows, s.current.push ' ', s.used + 1⟩
      else ⟨s.rows.push s.current, "", 0⟩ := by
  have hwidth : displayWidth (String.ofList []) = 0 := rfl
  unfold addWord breakRow
  simp [hcurrent, hwidth]

/-- On an empty row it is nothing. -/
theorem addWord_nil_of_empty (width : Nat) (hcurrent : s.current = "") :
    s.addWord width [] = s := by
  have hwidth : displayWidth (String.ofList []) = 0 := rfl
  obtain ⟨rows, current, used⟩ := s
  obtain rfl : current = "" := hcurrent
  simp [addWord, breakRow, hwidth]

theorem addSpaces_of_empty (width k : Nat) (hcurrent : s.current = "") :
    (List.replicate k []).foldl (addWord width) s = s := by
  induction k with
  | zero => rfl
  | succ k ih => rw [List.replicate_succ, List.foldl_cons, addWord_nil_of_empty width hcurrent, ih]

/-- Spaces after a row leave an empty row exactly if they have no room on it. -/
theorem current_addSpaces_eq_empty_iff (width k : Nat) (hcurrent : s.current ≠ "") :
    ((List.replicate k []).foldl (addWord width) s).current = "" ↔
      0 < k ∧ width < s.used + k := by
  induction k generalizing s with
  | zero => simp [hcurrent]
  | succ k ih =>
      rw [List.replicate_succ, List.foldl_cons, addWord_nil width s hcurrent]
      by_cases hroom : s.used + 1 ≤ width
      · rw [if_pos hroom, ih String.push_ne_empty]
        simp only
        omega
      · rw [if_neg hroom, addSpaces_of_empty width k rfl]
        simp only [true_iff]
        omega

/-- A text taken up word by word. -/
def ofText (width : Nat) (text : List Char) : Wrapping :=
  (split (· == ' ') text).foldl (addWord width) .start

theorem isSolid_ofText (width : Nat) (text : List Char) : (ofText width text).IsSolid := by
  have hstart : start.IsSolid := fun row hrow => by simp [start] at hrow
  exact hstart.addWords width _

theorem current_ofText_concat_ne (width : Nat) (text : List Char) {ch : Char} (hch : ch ≠ ' ') :
    (ofText width (text ++ [ch])).current ≠ "" := by
  obtain ⟨words, word, hsplit⟩ :=
    exists_split_concat (p := (· == ' ')) (beq_eq_false_iff_ne.mpr hch) text
  rw [ofText, hsplit, List.foldl_append]
  exact current_addWord_ne width _ (by simp)

theorem ofText_append_spaces (width : Nat) (text : List Char) (k : Nat) :
    ofText width (text ++ List.replicate k ' ') =
      (List.replicate k []).foldl (addWord width) (ofText width text) := by
  rw [ofText, split_append_spaces, List.foldl_append, ofText]

end Wrapping

/-! ## Rows of a text -/

theorem wrapLine_eq_allRows (text : String) {width : Nat} (hwidth : 0 < width) :
    wrapLine text width = (Wrapping.ofText width text.toList).allRows := by
  rw [wrapLine, if_neg (Nat.ne_of_gt hwidth), Wrapping.allRows, Wrapping.ofText]
  exact Array.toList_push

/-- What a text holds up to its last character that is not a space. -/
def inked (text : List Char) : List Char := text.rdropWhile (· == ' ')

/-- How many spaces stand at the end of a text. -/
def spacesAtEnd (text : List Char) : Nat := (text.rtakeWhile (· == ' ')).length

theorem inked_append_spaces (text : List Char) :
    inked text ++ List.replicate (spacesAtEnd text) ' ' = text := by
  have hspaces : text.rtakeWhile (· == ' ') = List.replicate (spacesAtEnd text) ' ' :=
    List.eq_replicate_of_mem fun ch hch =>
      beq_iff_eq.mp (List.mem_rtakeWhile_imp (p := (· == ' ')) hch)
  rw [← hspaces, inked, List.rdropWhile_append_rtakeWhile]

theorem exists_inked_eq_concat {text : List Char} (h : ∃ ch ∈ text, ch ≠ ' ') :
    ∃ before ch, ch ≠ ' ' ∧ inked text = before ++ [ch] := by
  have hne : inked text ≠ [] := by
    rw [inked, Ne, List.rdropWhile_eq_nil_iff]
    obtain ⟨ch, hmem, hch⟩ := h
    exact fun hall => hch (beq_iff_eq.mp (hall ch hmem))
  refine ⟨(inked text).dropLast, (inked text).getLast hne, fun hlast => ?_,
    (List.dropLast_append_getLast hne).symm⟩
  exact List.rdropWhile_last_not _ text hne (beq_iff_eq.mpr hlast)

/-- Of a text that is not all spaces only the last row can be empty.  None is exactly if the text
does not end in a space, or all spaces at its end have room after what stands before them. -/
theorem wrapLine_without_empty_rows_iff (text : String) {width : Nat} (hwidth : 0 < width)
    (hink : ∃ ch ∈ text.toList, ch ≠ ' ') :
    (∀ row ∈ (wrapLine text width).dropLast, row ≠ "") ∧
    ((∀ row ∈ wrapLine text width, row ≠ "") ↔
      spacesAtEnd text.toList = 0 ∨
        (Wrapping.ofText width (inked text.toList)).used + spacesAtEnd text.toList ≤ width) := by
  have hsolid := Wrapping.isSolid_ofText width text.toList
  obtain ⟨before, ch, hch, hinked⟩ := exists_inked_eq_concat hink
  have hcurrent : (Wrapping.ofText width (inked text.toList)).current ≠ "" :=
    hinked ▸ Wrapping.current_ofText_concat_ne width before hch
  have hlast := Wrapping.current_addSpaces_eq_empty_iff width (spacesAtEnd text.toList) hcurrent
  rw [← Wrapping.ofText_append_spaces, inked_append_spaces] at hlast
  rw [wrapLine_eq_allRows text hwidth, Wrapping.allRows, List.dropLast_concat,
    List.forall_mem_append, List.forall_mem_singleton]
  have hrows : ∀ row ∈ (Wrapping.ofText width text.toList).rows.toList, row ≠ "" :=
    fun row hrow => hsolid row (Array.mem_toList_iff.mp hrow)
  refine ⟨hrows, ?_⟩
  rw [and_iff_right hrows, Ne, hlast]
  omega

/-- The two spaces between the words and the one at the end have room. -/
theorem wrapLine_without_empty_rows_spaced :
    0 < 4 ∧ (∃ ch ∈ "ab  cd ".toList, ch ≠ ' ') ∧ wrapLine "ab  cd " 4 = ["ab ", "cd "] ∧
      ∀ row ∈ wrapLine "ab  cd " 4, row ≠ "" := by
  have hink : ∃ ch ∈ "ab  cd ".toList, ch ≠ ' ' := ⟨'a', by decide, by decide⟩
  refine ⟨by decide, hink, by decide +kernel, ?_⟩
  exact (wrapLine_without_empty_rows_iff "ab  cd " (by decide) hink).2.mpr (by decide +kernel)

/-- A space that has no room after a word leaves an empty row, and in a pane of two rows it takes
the place of an older line. -/
theorem wrapLine_empty_row_abc :
    wrapLine "abc " 3 = ["abc", ""] ∧
      (((Body.empty 5).append ⟨.info, "old\nabc \n"⟩).tail 3 2).map Line.text = ["abc", ""] := by
  decide +kernel

end Log

end StatusBoard
