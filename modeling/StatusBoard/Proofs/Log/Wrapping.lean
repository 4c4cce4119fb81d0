import StatusBoard.Log.Body

/-!
The characters of wrapped text: wrapping a line adds nothing but spaces to it.
-/

namespace StatusBoard

open Text

theorem Text.mem_of_mem_split {p : Char → Bool} {cs field : List Char} {ch : Char}
    (hfield : field ∈ split p cs) (hch : ch ∈ field) : ch ∈ cs := by
  induction cs generalizing field with
  | nil =>
      simp only [split_nil, List.mem_singleton] at hfield
      simp [hfield] at hch
  | cons c cs ih =>
      cases hc : p c with
      | true =>
          rw [split_cons_sep hc, List.mem_cons] at hfield
          rcases hfield with rfl | hfield
          · simp at hch
          · exact List.mem_cons_of_mem _ (ih hfield hch)
      | false =>
          obtain ⟨f, rest, hsplit, hsplit'⟩ := split_cons_other hc cs
          rw [hsplit', List.mem_cons] at hfield
          rcases hfield with rfl | hfield
          · rcases List.mem_cons.mp hch with rfl | hch
            · exact List.mem_cons_self
            · exact List.mem_cons_of_mem _ (ih (by simp [hsplit]) hch)
          · exact List.mem_cons_of_mem _ (ih (by simp [hsplit, hfield]) hch)

theorem Text.mem_of_mem_lines {t line : String} {ch : Char} (hline : line ∈ lines t)
    (hch : ch ∈ line.toList) : ch ∈ t.toList := by
  have hlast : (split (· == '\n') t.toList).getLastD [] ∈ split (· == '\n') t.toList := by
    rw [List.getLastD_eq_getLast?, List.getLast?_eq_some_getLast (split_ne_nil _ _)]
    exact List.getLast_mem _
  rw [lines] at hline
  rcases List.mem_append.mp hline with h | h
  · obtain ⟨field, hfield, rfl⟩ := List.mem_map.mp h
    rw [String.toList_ofList] at hch
    exact mem_of_mem_split ((List.dropLast_subset _) hfield) (mem_of_mem_dropReturn hch)
  · split at h
    · simp at h
    · rw [List.mem_singleton.mp h, String.toList_ofList] at hch
      exact mem_of_mem_split hlast hch

namespace Log

namespace Wrapping

/-- Every character on the rows of a wrapping satisfies a property. -/
def AllChars (p : Char → Prop) (s : Wrapping) : Prop :=
  (∀ row ∈ s.rows, ∀ ch ∈ row.toList, p ch) ∧ ∀ ch ∈ s.current.toList, p ch

variable {p : Char → Prop} {s : Wrapping}

theorem AllChars.breakRow (h : s.AllChars p) : s.breakRow.AllChars p := by
  unfold Wrapping.breakRow
  split
  · exact h
  · refine ⟨?_, by simp⟩
    intro row hrow
    rcases Array.mem_push.mp hrow with hrow | rfl
    · exact h.1 row hrow
    · exact h.2

theorem AllChars.addChar (h : s.AllChars p) (width : Nat) {ch : Char} (hch : p ch) :
    (s.addChar width ch).AllChars p := by
  have hbreak : (if width < s.used + (charWidth ch).getD 0 then s.breakRow else s).AllChars p := by
    split
    · exact h.breakRow
    · exact h
  refine ⟨hbreak.1, ?_⟩
  intro c hc
  rw [Wrapping.addChar, String.toList_push, List.mem_append] at hc
  rcases hc with hc | hc
  · exact hbreak.2 c hc
  · rw [List.mem_singleton.mp hc]
    exact hch

theorem AllChars.addChars (h : s.AllChars p) (width : Nat) {word : List Char}
    (hword : ∀ ch ∈ word, p ch) : (word.foldl (Wrapping.addChar width) s).AllChars p := by
  induction word generalizing s with
  | nil => exact h
  | cons ch word ih =>
      exact ih (h.addChar width (hword ch List.mem_cons_self))
        fun c hc => hword c (List.mem_cons_of_mem _ hc)

theorem AllChars.addWord (h : s.AllChars p) (width : Nat) {word : List Char} (hspace : p ' ')
    (hword : ∀ ch ∈ word, p ch) : (s.addWord width word).AllChars p := by
  have hfits : ∀ c ∈ ((if s.current = "" then s.current else s.current.push ' ') ++
      String.ofList word).toList, p c := by
    intro c hc
    rw [String.toList_append, List.mem_append, String.toList_ofList] at hc
    rcases hc with hc | hc
    · split at hc
      · exact h.2 c hc
      · rw [String.toList_push, List.mem_append] at hc
        rcases hc with hc | hc
        · exact h.2 c hc
        · rw [List.mem_singleton.mp hc]
          exact hspace
    · exact hword c hc
  unfold Wrapping.addWord
  simp only
  generalize (if s.current = "" then 0 else 1) = gap
  split
  · exact ⟨h.1, hfits⟩
  · exact h.breakRow.addChars width hword

theorem AllChars.addWords (h : s.AllChars p) (width : Nat) {words : List (List Char)}
    (hspace : p ' ') (hwords : ∀ word ∈ words, ∀ ch ∈ word, p ch) :
    (words.foldl (Wrapping.addWord width) s).AllChars p := by
  induction words generalizing s with
  | nil => exact h
  | cons word words ih =>
      exact ih (h.addWord width hspace (hwords word List.mem_cons_self))
        fun w hw => hwords w (List.mem_cons_of_mem _ hw)

end Wrapping

theorem mem_of_mem_wrapLine {text row : String} {width : Nat} {ch : Char}
    (hrow : row ∈ wrapLine text width) (hch : ch ∈ row.toList) : ch ∈ text.toList ∨ ch = ' ' := by
  unfold wrapLine at hrow
  split at hrow
  · simp at hrow
  · have hstart : Wrapping.start.AllChars fun c => c ∈ text.toList ∨ c = ' ' := by
      refine ⟨?_, ?_⟩ <;> simp [Wrapping.start]
    have hwords : ∀ word ∈ split (· == ' ') text.toList, ∀ c ∈ word, c ∈ text.toList ∨ c = ' ' :=
      fun _ hword _ hc => Or.inl (mem_of_mem_split hword hc)
    have hall := hstart.addWords width (Or.inr rfl) hwords
    rw [Array.mem_toList_iff, Array.mem_push] at hrow
    rcases hrow with hrow | rfl
    · exact hall.1 row hrow ch hch
    · exact hall.2 ch hch

theorem mem_of_mem_newestRows {width rows : Nat} {lines : List Line} {row : Line} {ch : Char}
    (hrow : row ∈ Body.newestRows width rows lines) (hch : ch ∈ row.text.toList) :
    (∃ line ∈ lines, ch ∈ line.text.toList) ∨ ch = ' ' := by
  induction lines generalizing rows with
  | nil => simp [Body.newestRows] at hrow
  | cons line older ih =>
      rw [Body.newestRows] at hrow
      split at hrow
      · simp at hrow
      · rcases List.mem_append.mp hrow with h | h
        · obtain ⟨piece, hpiece, rfl⟩ := List.mem_map.mp h
          have hpiece' := List.mem_reverse.mp (List.mem_of_mem_take hpiece)
          rcases mem_of_mem_wrapLine hpiece' hch with hmem | hspace
          · exact Or.inl ⟨line, List.mem_cons_self, hmem⟩
          · exact Or.inr hspace
        · rcases ih h with ⟨l, hl, hmem⟩ | hspace
          · exact Or.inl ⟨l, List.mem_cons_of_mem _ hl, hmem⟩
          · exact Or.inr hspace

theorem mem_of_mem_tail {b : Body} {width rows : Nat} {row : Line} {ch : Char}
    (hrow : row ∈ b.tail width rows) (hch : ch ∈ row.text.toList) :
    (∃ line ∈ b.lines, ch ∈ line.text.toList) ∨ ch = ' ' := by
  rw [Body.tail, List.mem_reverse] at hrow
  simpa using mem_of_mem_newestRows hrow hch

end Log

end StatusBoard
