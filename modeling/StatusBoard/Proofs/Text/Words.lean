import StatusBoard.Text.Blank

/-!
Words of a text: what stands between white space, and what stands between spaces.
-/

namespace StatusBoard.Text

variable {p : Char → Bool}

theorem split_append_cons {sep : Char} (hsep : p sep = true) (cs ds : List Char) :
    split p (cs ++ sep :: ds) = split p cs ++ split p ds := by
  induction cs with
  | nil => exact split_cons_sep hsep ds
  | cons c cs ih =>
      cases hc : p c with
      | true => rw [List.cons_append, split_cons_sep hc, split_cons_sep hc, ih, List.cons_append]
      | false =>
          obtain ⟨field, rest, hsplit, hcons⟩ := split_cons_other hc cs
          obtain ⟨field', rest', hsplit', hcons'⟩ := split_cons_other hc (cs ++ sep :: ds)
          rw [ih, hsplit, List.cons_append, List.cons.injEq] at hsplit'
          obtain ⟨rfl, rfl⟩ := hsplit'
          rw [List.cons_append, hcons', hcons, List.cons_append]

theorem not_sep_of_mem_split {cs field : List Char} (hfield : field ∈ split p cs) :
    ∀ c ∈ field, p c = false := by
  induction cs generalizing field with
  | nil =>
      rw [split_nil, List.mem_singleton] at hfield
      rw [hfield]
      exact fun c hc => by cases hc
  | cons c cs ih =>
      cases hc : p c with
      | true =>
          rw [split_cons_sep hc, List.mem_cons] at hfield
          rcases hfield with rfl | hfield
          · exact fun c hc => by cases hc
          · exact ih hfield
      | false =>
          obtain ⟨first, rest, hsplit, hcons⟩ := split_cons_other hc cs
          rw [hcons, List.mem_cons] at hfield
          rcases hfield with rfl | hfield
          · intro d hd
            rcases List.mem_cons.mp hd with rfl | hd
            · exact hc
            · exact ih (by rw [hsplit]; exact List.mem_cons_self) d hd
          · exact ih (by rw [hsplit]; exact List.mem_cons_of_mem _ hfield)

/-- A text is its first field and then, after a separator each, the others. -/
theorem eq_of_split_eq {sep : Char} {cs field : List Char} {rest : List (List Char)}
    (h : split (· == sep) cs = field :: rest) : cs = field ++ rest.flatMap (sep :: ·) := by
  induction cs generalizing field rest with
  | nil =>
      rw [split_nil, List.cons.injEq] at h
      obtain ⟨rfl, rfl⟩ := h
      rfl
  | cons c cs ih =>
      cases hc : c == sep with
      | true =>
          rw [split_cons_sep (by exact hc), List.cons.injEq] at h
          obtain ⟨rfl, rfl⟩ := h
          obtain ⟨first, others, hsplit⟩ := List.exists_cons_of_ne_nil (split_ne_nil (· == sep) cs)
          rw [hsplit, List.flatMap_cons, List.nil_append, List.cons_append, ← ih hsplit,
            eq_of_beq hc]
      | false =>
          obtain ⟨first, others, hsplit, hcons⟩ := split_cons_other (p := (· == sep)) hc cs
          rw [hcons, List.cons.injEq] at h
          obtain ⟨rfl, rfl⟩ := h
          rw [List.cons_append, ← ih hsplit]

theorem split_intercalate {p : Char → Bool} {sep : Char} (hsep : p sep = true)
    {fields : List (List Char)} (h : ∀ field ∈ fields, ∀ ch ∈ field, p ch = false)
    (hne : fields ≠ []) : split p ([sep].intercalate fields) = fields := by
  induction fields with
  | nil => exact absurd rfl hne
  | cons field fields ih =>
      have hfield := h field List.mem_cons_self
      cases fields with
      | nil => rw [List.intercalate_singleton, split_eq_singleton hfield]
      | cons next rest =>
          rw [List.intercalate_cons_cons, List.append_assoc, List.singleton_append,
            split_append_sep hfield hsep,
            ih (fun f hf => h f (List.mem_cons_of_mem field hf)) (List.cons_ne_nil next rest)]

theorem mem_words {t word : String} (h : word ∈ words t) :
    word ≠ "" ∧ ∀ c ∈ word.toList, isBlank c = false := by
  obtain ⟨field, hfield, rfl⟩ := List.mem_map.mp h
  obtain ⟨hmem, hne⟩ := List.mem_filter.mp hfield
  rw [String.toList_ofList]
  refine ⟨?_, not_sep_of_mem_split hmem⟩
  intro hempty
  rw [decide_eq_true_eq] at hne
  exact hne (String.ofList_eq_empty_iff.mp hempty)

theorem dropEndWhile_append (p : Char → Bool) (a b : List Char) :
    dropEndWhile p (a ++ b) =
      if dropEndWhile p b = [] then dropEndWhile p a else a ++ dropEndWhile p b := by
  simp only [dropEndWhile, List.reverse_append, List.dropWhile_append, List.isEmpty_iff,
    List.reverse_eq_nil_iff]
  split
  · rfl
  · rw [List.reverse_append, List.reverse_reverse]

/-- A text that ends in a word has no blanks at its end. -/
theorem trimEnd_append (a : String) {word : String} (hne : word ≠ "")
    (h : ∀ c ∈ word.toList, isBlank c = false) : trimEnd (a ++ word) = a ++ word := by
  have hlist : word.toList.reverse ≠ [] := by simpa using hne
  obtain ⟨c, rest, hrev⟩ := List.exists_cons_of_ne_nil hlist
  have hc : isBlank c = false := h c (List.mem_reverse.mp (by rw [hrev]; exact List.mem_cons_self))
  have hdrop : (a ++ word).toList.reverse.dropWhile isBlank = (a ++ word).toList.reverse := by
    rw [String.toList_append, List.reverse_append, hrev, List.cons_append,
      List.dropWhile_cons_of_neg (by simp [hc])]
  rw [trimEnd, dropEndWhile, hdrop, List.reverse_reverse, String.ofList_toList]

/-- What stands between the spaces of a text. -/
def spacedWords (t : String) : List String :=
  ((split (· == ' ') t.toList).filter (· ≠ [])).map String.ofList

@[simp] theorem spacedWords_empty : spacedWords "" = [] := rfl

theorem spacedWords_spaced (a b : String) :
    spacedWords (a ++ " " ++ b) = spacedWords a ++ spacedWords b := by
  have htext : (a ++ " " ++ b).toList = a.toList ++ ' ' :: b.toList := by simp
  rw [spacedWords, htext, split_append_cons rfl, List.filter_append, List.map_append]
  rfl

/-- A text without spaces is a word, if it is not empty. -/
theorem spacedWords_eq_singleton {t : String} (hne : t ≠ "") (h : ∀ c ∈ t.toList, c ≠ ' ') :
    spacedWords t = [t] := by
  have hsplit : split (· == ' ') t.toList = [t.toList] :=
    split_eq_singleton fun c hc => beq_eq_false_iff_ne.mpr (h c hc)
  have hlist : t.toList ≠ [] := fun hnil => hne (String.toList_eq_nil_iff.mp hnil)
  rw [spacedWords, hsplit]
  simp [hlist]

end StatusBoard.Text
