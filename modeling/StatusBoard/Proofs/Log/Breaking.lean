import StatusBoard.Log.Wrap
import StatusBoard.Proofs.Text.Measuring
import StatusBoard.Proofs.Text.Words

/-!
The rows of a wrapped text.

They are the text with some of its spaces left out, and they stand in the pane as far as the
measure of a word and the columns of its characters agree.
-/

namespace StatusBoard.Log

open Text

/-- The text is made of the rows in order, with nothing but spaces before each of them. -/
def IsBroken (text : List Char) (rows : List String) : Prop :=
  ∃ parts : List (List Char × String), parts.map Prod.snd = rows ∧
    (∀ part ∈ parts, ∀ ch ∈ part.1, ch = ' ') ∧
    text = parts.flatMap fun part => part.1 ++ part.2.toList

/-- A row stands in a pane, or it is one character that the pane is too narrow for, or one of its
words has been measured as narrower than its characters are. -/
def Fits (width : Nat) (row : String) : Prop :=
  totalColumns row.toList ≤ width ∨ (∃ ch, row = String.singleton ch ∧ width < columns ch) ∨
    ∃ word ∈ split (· == ' ') row.toList, displayWidth (String.ofList word) < totalColumns word

namespace IsBroken

variable {text gap : List Char} {rows : List String} {row : String}

theorem empty : IsBroken [] [""] :=
  ⟨[([], "")], rfl, by simp, rfl⟩

/-- A row is the last part, with the spaces before it. -/
theorem exists_concat (h : IsBroken text (rows ++ [row])) :
    ∃ before gap, IsBroken before rows ∧ (∀ ch ∈ gap, ch = ' ') ∧
      text = before ++ (gap ++ row.toList) := by
  obtain ⟨parts, hrows, hgaps, rfl⟩ := h
  obtain ⟨parts, last, rfl, rfl, hlast⟩ := List.map_eq_append_iff.mp hrows
  obtain ⟨part, rfl, rfl⟩ := List.map_eq_singleton_iff.mp hlast
  refine ⟨_, part.1, ⟨parts, rfl, ?_, rfl⟩, hgaps part (by simp), ?_⟩
  · exact fun part hpart => hgaps part (List.mem_append_left _ hpart)
  · rw [List.flatMap_append, List.flatMap_singleton]

theorem concat (h : IsBroken text rows) (hgap : ∀ ch ∈ gap, ch = ' ') (row : String) :
    IsBroken (text ++ (gap ++ row.toList)) (rows ++ [row]) := by
  obtain ⟨parts, rfl, hgaps, rfl⟩ := h
  refine ⟨parts ++ [(gap, row)], ?_, ?_, ?_⟩
  · rw [List.map_append, List.map_singleton]
  · intro part hpart
    rcases List.mem_append.mp hpart with hpart | hpart
    · exact hgaps part hpart
    · rw [List.mem_singleton.mp hpart]
      exact hgap
  · rw [List.flatMap_append, List.flatMap_singleton]

theorem extend (h : IsBroken text (rows ++ [row])) (cs : List Char) :
    IsBroken (text ++ cs) (rows ++ [row ++ String.ofList cs]) := by
  obtain ⟨before, gap, hbefore, hgap, rfl⟩ := h.exists_concat
  have hlonger := hbefore.concat hgap (row ++ String.ofList cs)
  rwa [String.toList_append, String.toList_ofList, ← List.append_assoc gap,
    ← List.append_assoc before] at hlonger

/-- Spaces after an empty row stand before it just as well. -/
theorem widen (h : IsBroken text (rows ++ [""])) (hgap : ∀ ch ∈ gap, ch = ' ') :
    IsBroken (text ++ gap) (rows ++ [""]) := by
  obtain ⟨before, spaces, hbefore, hspaces, rfl⟩ := h.exists_concat
  have hboth : ∀ ch ∈ spaces ++ gap, ch = ' ' := by
    intro ch hch
    rcases List.mem_append.mp hch with hch | hch
    · exact hspaces ch hch
    · exact hgap ch hch
  have hwider := hbefore.concat hboth ""
  simpa using hwider

/-- What is not a space is on the rows once and in order. -/
theorem filter_eq (h : IsBroken text rows) :
    text.filter (· ≠ ' ') = rows.flatMap fun row => row.toList.filter (· ≠ ' ') := by
  obtain ⟨parts, rfl, hgaps, rfl⟩ := h
  induction parts with
  | nil => rfl
  | cons part parts ih =>
      have hgap : part.1.filter (· ≠ ' ') = [] := by
        rw [List.filter_eq_nil_iff]
        intro ch hch
        simp [hgaps part List.mem_cons_self ch hch]
      rw [List.flatMap_cons, List.filter_append, List.filter_append, hgap, List.nil_append,
        ih fun part hpart => hgaps part (List.mem_cons_of_mem _ hpart), List.map_cons,
        List.flatMap_cons]

end IsBroken

/-- No row starts with a space. -/
def IsFlush (rows : List String) : Prop := ∀ row ∈ rows, row.toList.head? ≠ some ' '

theorem IsFlush.extend {rows : List String} {row : String} (h : IsFlush (rows ++ [row]))
    {cs : List Char} (hcs : row = "" → cs.head? ≠ some ' ') :
    IsFlush (rows ++ [row ++ String.ofList cs]) := by
  intro longer hlonger
  rcases List.mem_append.mp hlonger with hlonger | hlonger
  · exact h longer (List.mem_append_left _ hlonger)
  · rw [List.mem_singleton.mp hlonger, String.toList_append, String.toList_ofList]
    cases hrow : row.toList with
    | nil => exact hcs (String.toList_eq_nil_iff.mp hrow)
    | cons c rest =>
        have hhead := h row (List.mem_append_right _ List.mem_cons_self)
        rwa [hrow] at hhead

/-! ## Filling rows -/

namespace Wrapping

variable {width : Nat} {text gap word : List Char} {s : Wrapping} {ch : Char}

/-- The rows finished so far and the row being filled. -/
def allRows (s : Wrapping) : List String := s.rows.toList ++ [s.current]

/-- What is known of a wrapping after a part of the text.

The columns counted bound those of the row being filled, unless a whole word on it has been
measured as narrower than it is. -/
structure Holds (width : Nat) (text : List Char) (s : Wrapping) : Prop where
  broken : IsBroken text s.allRows
  flush : IsFlush s.allRows
  fits : ∀ row ∈ s.rows, Fits width row
  empty : s.current = "" → s.used = 0
  inside : s.used ≤ width ∨ ∃ ch, s.current = String.singleton ch ∧ width < columns ch
  counted : totalColumns s.current.toList ≤ s.used ∨
    ∃ word ∈ split (· == ' ') s.current.toList,
      displayWidth (String.ofList word) < totalColumns word

namespace Holds

theorem start (width : Nat) : Holds width [] .start where
  broken := IsBroken.empty
  flush := by simp [IsFlush, allRows, Wrapping.start]
  fits := by simp [Wrapping.start]
  empty := fun _ => rfl
  inside := .inl (Nat.zero_le _)
  counted := .inl (Nat.le_refl _)

theorem fits_current (h : s.Holds width text) : Fits width s.current := by
  rcases h.counted with hcounted | hnarrow
  · rcases h.inside with hinside | hsingle
    · exact .inl (Nat.le_trans hcounted hinside)
    · exact .inr (.inl hsingle)
  · exact .inr (.inr hnarrow)

theorem breakRow (h : s.Holds width text) (gap : List Char) (hgap : ∀ ch ∈ gap, ch = ' ') :
    s.breakRow.Holds width (text ++ gap) ∧ s.breakRow.current = "" := by
  by_cases hempty : s.current = ""
  · have hbreak : s.breakRow = s := if_pos hempty
    rw [hbreak]
    refine ⟨⟨?_, h.flush, h.fits, h.empty, h.inside, h.counted⟩, hempty⟩
    have hbroken := h.broken
    rw [allRows, hempty] at hbroken ⊢
    exact hbroken.widen hgap
  · have hbreak : s.breakRow = ⟨s.rows.push s.current, "", 0⟩ := if_neg hempty
    have hrows : allRows ⟨s.rows.push s.current, "", 0⟩ = s.allRows ++ [""] := by
      simp [allRows]
    rw [hbreak]
    refine ⟨⟨?_, ?_, ?_, ?_, ?_, ?_⟩, rfl⟩
    · have hbroken := h.broken.concat hgap ""
      rw [hrows]
      simpa using hbroken
    · rw [hrows]
      intro row hrow
      rcases List.mem_append.mp hrow with hrow | hrow
      · exact h.flush row hrow
      · rw [List.mem_singleton.mp hrow]
        simp
    · intro row hrow
      rcases Array.mem_push.mp hrow with hrow | rfl
      · exact h.fits row hrow
      · exact h.fits_current
    · exact fun _ => rfl
    · exact .inl (Nat.zero_le _)
    · exact .inl (Nat.le_refl _)

end Holds

/-! ## Words -/

/-- A wrapping in the middle of a word that is split: the row has nothing but what was counted
character by character. -/
structure Splits (width : Nat) (text : List Char) (s : Wrapping) : Prop
    extends s.Holds width text where
  exact : totalColumns s.current.toList ≤ s.used

theorem Holds.splits (h : s.Holds width text) (hempty : s.current = "") :
    s.Splits width text :=
  ⟨h, by rw [hempty]; exact Nat.zero_le _⟩

namespace Splits

/-- One character more on a row that has room for it, or that is empty. -/
theorem push (h : s.Splits width text) (hch : ch ≠ ' ')
    (hroom : s.used + columns ch ≤ width ∨ s.current = "") :
    Splits width (text ++ [ch])
      { s with current := s.current.push ch, used := s.used + columns ch } := by
  have hrow : s.current.push ch = s.current ++ String.ofList [ch] := by
    rw [String.push_eq_append]
    rfl
  have hexact : totalColumns (s.current.push ch).toList ≤ s.used + columns ch := by
    rw [String.toList_push, totalColumns_append, totalColumns_cons, totalColumns_nil]
    exact Nat.add_le_add_right h.exact _
  refine ⟨⟨?_, ?_, h.fits, ?_, ?_, .inl hexact⟩, hexact⟩
  · rw [allRows, hrow]
    exact h.broken.extend [ch]
  · rw [allRows, hrow]
    exact h.flush.extend fun _ => by simpa using hch
  · intro hempty
    cases String.push_ne_empty hempty
  · rcases hroom with hroom | hempty
    · exact .inl hroom
    · rcases Nat.lt_or_ge width (columns ch) with hwide | hfits
      · refine .inr ⟨ch, ?_, hwide⟩
        rw [hempty]
        rfl
      · refine .inl ?_
        rw [h.empty hempty, Nat.zero_add]
        exact hfits

theorem addChar (h : s.Splits width text) (hch : ch ≠ ' ') :
    (s.addChar width ch).Splits width (text ++ [ch]) := by
  rw [Wrapping.addChar]
  split
  · obtain ⟨hbreak, hempty⟩ := h.toHolds.breakRow [] (List.forall_mem_nil _)
    rw [List.append_nil] at hbreak
    exact (hbreak.splits hempty).push hch (.inr hempty)
  · rename_i hroom
    exact h.push hch (.inl (Nat.not_lt.mp hroom))

theorem addChars (h : s.Splits width text) (hword : ∀ ch ∈ word, ch ≠ ' ') :
    (word.foldl (Wrapping.addChar width) s).Splits width (text ++ word) := by
  induction word generalizing s text with
  | nil => rwa [List.append_nil]
  | cons ch word ih =>
      have hrest := ih (h.addChar (hword ch List.mem_cons_self))
        fun c hc => hword c (List.mem_cons_of_mem _ hc)
      rwa [List.append_assoc, List.singleton_append] at hrest

end Splits

theorem addWord_cases (hused : s.current = "" → s.used = 0) (width : Nat) (word : List Char) :
    (s.current = "" ∧ displayWidth (String.ofList word) ≤ width ∧
      s.addWord width word =
        ⟨s.rows, String.ofList word, displayWidth (String.ofList word)⟩) ∨
    (s.current ≠ "" ∧ s.used + 1 + displayWidth (String.ofList word) ≤ width ∧
      s.addWord width word = ⟨s.rows, s.current.push ' ' ++ String.ofList word,
        s.used + 1 + displayWidth (String.ofList word)⟩) ∨
    s.addWord width word = word.foldl (addChar width) s.breakRow := by
  by_cases hempty : s.current = ""
  · by_cases hroom : displayWidth (String.ofList word) ≤ width
    · exact .inl ⟨hempty, hroom, by simp [addWord, hempty, hused hempty, hroom]⟩
    · exact .inr (.inr (by simp [addWord, hempty, hused hempty, hroom]))
  · by_cases hroom : s.used + 1 + displayWidth (String.ofList word) ≤ width
    · exact .inr (.inl ⟨hempty, hroom, by simp [addWord, hempty, hroom]⟩)
    · exact .inr (.inr (by simp [addWord, hempty, hroom]))

namespace Holds

/-- A word measured as a whole, on an empty row. -/
theorem addFirst (h : s.Holds width text) (hempty : s.current = "")
    (hgap : ∀ ch ∈ gap, ch = ' ') (hword : ∀ ch ∈ word, ch ≠ ' ')
    (hroom : displayWidth (String.ofList word) ≤ width) :
    Holds width (text ++ (gap ++ word))
      ⟨s.rows, String.ofList word, displayWidth (String.ofList word)⟩ := by
  have hsplit : split (· == ' ') word = [word] :=
    split_eq_singleton fun ch hch => beq_eq_false_iff_ne.mpr (hword ch hch)
  refine ⟨?_, ?_, h.fits, ?_, .inl hroom, ?_⟩
  · have hbroken := h.broken
    rw [allRows, hempty] at hbroken
    have hlonger := (hbroken.widen hgap).extend word
    rwa [String.empty_append, List.append_assoc] at hlonger
  · have hflush := h.flush
    rw [allRows, hempty] at hflush
    have hlonger := hflush.extend fun _ hhead => hword ' ' (List.mem_of_head? hhead) rfl
    rwa [String.empty_append] at hlonger
  · intro hnil
    change String.ofList word = "" at hnil
    change displayWidth (String.ofList word) = 0
    rw [hnil]
    rfl
  · rw [String.toList_ofList, hsplit]
    rcases Nat.lt_or_ge (displayWidth (String.ofList word)) (totalColumns word) with hlt | hle
    · exact .inr ⟨word, List.mem_singleton_self word, hlt⟩
    · exact .inl hle

/-- A word measured as a whole, after a space on a row that is not empty. -/
theorem addNext (h : s.Holds width text) (hempty : s.current ≠ "")
    (hword : ∀ ch ∈ word, ch ≠ ' ')
    (hroom : s.used + 1 + displayWidth (String.ofList word) ≤ width) :
    Holds width (text ++ ' ' :: word)
      ⟨s.rows, s.current.push ' ' ++ String.ofList word,
        s.used + 1 + displayWidth (String.ofList word)⟩ := by
  have hrow : s.current.push ' ' ++ String.ofList word =
      s.current ++ String.ofList (' ' :: word) := by
    rw [← String.toList_inj]
    simp
  have hlist : (s.current ++ String.ofList (' ' :: word)).toList =
      s.current.toList ++ ' ' :: word := by
    rw [String.toList_append, String.toList_ofList]
  have hsplit : split (· == ' ') (s.current.toList ++ ' ' :: word) =
      split (· == ' ') s.current.toList ++ [word] := by
    rw [split_append_cons rfl,
      split_eq_singleton fun ch hch => beq_eq_false_iff_ne.mpr (hword ch hch)]
  rw [hrow]
  refine ⟨h.broken.extend (' ' :: word), h.flush.extend (absurd · hempty), h.fits, ?_,
    .inl hroom, ?_⟩
  · intro hnil
    change s.current ++ _ = "" at hnil
    rw [String.append_eq_empty_iff] at hnil
    exact absurd hnil.1 hempty
  · rw [hlist, hsplit, totalColumns_append, totalColumns_cons, columns_space]
    rcases h.counted with hcounted | ⟨narrow, hmem, hlt⟩
    · rcases Nat.lt_or_ge (displayWidth (String.ofList word)) (totalColumns word) with hlt | hle
      · exact .inr ⟨word, List.mem_append_right _ List.mem_cons_self, hlt⟩
      · refine .inl ?_
        change _ ≤ s.used + 1 + displayWidth (String.ofList word)
        omega
    · exact .inr ⟨narrow, List.mem_append_left _ hmem, hlt⟩

/-- A word follows the text after a space, or after any spaces on an empty row. -/
theorem addWord (h : s.Holds width text) (gap : List Char) (hgap : ∀ ch ∈ gap, ch = ' ')
    (hone : s.current ≠ "" → gap = [' ']) (hword : ∀ ch ∈ word, ch ≠ ' ') :
    (s.addWord width word).Holds width (text ++ (gap ++ word)) := by
  rcases addWord_cases h.empty width word with
    ⟨hempty, hroom, hadd⟩ | ⟨hempty, hroom, hadd⟩ | hadd
  · rw [hadd]
    exact h.addFirst hempty hgap hword hroom
  · rw [hadd, hone hempty]
    exact h.addNext hempty hword hroom
  · obtain ⟨hbreak, hempty⟩ := h.breakRow gap hgap
    rw [hadd, ← List.append_assoc]
    exact ((hbreak.splits hempty).addChars hword).toHolds

theorem addWords (h : s.Holds width text) (rest : List (List Char))
    (hrest : ∀ word ∈ rest, ∀ ch ∈ word, ch ≠ ' ') :
    (rest.foldl (Wrapping.addWord width) s).Holds width (text ++ rest.flatMap (' ' :: ·)) := by
  induction rest generalizing s text with
  | nil => rwa [List.flatMap_nil, List.append_nil]
  | cons word rest ih =>
      have hfirst := h.addWord [' '] (by simp) (fun _ => rfl)
        (hrest word List.mem_cons_self)
      have hall := ih hfirst fun w hw => hrest w (List.mem_cons_of_mem _ hw)
      rwa [List.append_assoc] at hall

end Holds

end Wrapping

/-- Wrapping loses nothing but spaces before rows, and the rows stand in the pane. -/
theorem wrapLine_keeps (text : String) {width : Nat} (hwidth : 0 < width) :
    wrapLine text width ≠ [] ∧ IsBroken text.toList (wrapLine text width) ∧
      (text.toList.filter (· ≠ ' ') =
        (wrapLine text width).flatMap fun row => row.toList.filter (· ≠ ' ')) ∧
      ∀ row ∈ wrapLine text width, row.toList.head? ≠ some ' ' ∧ Fits width row := by
  obtain ⟨first, rest, hsplit⟩ := List.exists_cons_of_ne_nil (split_ne_nil (· == ' ') text.toList)
  have hwords : ∀ word ∈ first :: rest, ∀ ch ∈ word, ch ≠ ' ' := by
    intro word hword ch hch
    rw [← hsplit] at hword
    exact ne_of_beq_false (not_sep_of_mem_split hword ch hch)
  have hfirst := (Wrapping.Holds.start width).addWord [] (List.forall_mem_nil _)
    (fun hne => absurd rfl hne) (hwords first List.mem_cons_self)
  have hall := hfirst.addWords rest fun word hword => hwords word (List.mem_cons_of_mem _ hword)
  rw [List.nil_append, List.nil_append, ← eq_of_split_eq hsplit] at hall
  have hrows : wrapLine text width =
      ((first :: rest).foldl (Wrapping.addWord width) .start).allRows := by
    rw [wrapLine, if_neg (Nat.ne_of_gt hwidth), hsplit, Wrapping.allRows]
    simp
  rw [hrows, List.foldl_cons]
  refine ⟨List.append_ne_nil_of_right_ne_nil _ (List.cons_ne_nil _ _), hall.broken,
    hall.broken.filter_eq, ?_⟩
  intro row hrow
  refine ⟨hall.flush row hrow, ?_⟩
  rcases List.mem_append.mp hrow with hrow | hrow
  · exact hall.fits row (Array.mem_toList_iff.mp hrow)
  · rw [List.mem_singleton.mp hrow]
    exact hall.fits_current

/-- A word that is measured as two columns although its characters have four, and a split one. -/
theorem narrow_wrapLine_keeps :
    0 < 2 ∧ wrapLine "👩\u200D🚀 ab  cde" 2 = ["👩\u200D🚀", "ab", "cd", "e"] ∧
      ∀ row ∈ wrapLine "👩\u200D🚀 ab  cde" 2, row.toList.head? ≠ some ' ' ∧ Fits 2 row :=
  ⟨by decide, by decide +kernel, (wrapLine_keeps "👩\u200D🚀 ab  cde" (by decide)).2.2.2⟩

end StatusBoard.Log
