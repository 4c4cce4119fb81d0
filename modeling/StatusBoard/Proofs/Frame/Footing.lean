import StatusBoard.Frame.Footer
import StatusBoard.Proofs.Text.Measuring
import StatusBoard.Proofs.Text.Words
import Mathlib.Data.List.Chain

/-!
The lines of a footer entry, read from the top.

They hold the words of the value in order, none of them is wider than it has to be, and each but
the last is full.
-/

namespace StatusBoard.Frame

open Text

namespace FooterLine

variable {l : FooterLine} {word : String}

/-- The line with the blanks at its end. -/
def drawn (l : FooterLine) : String := l.labelText.getD "" ++ l.text

/-- The line with one word more, after the label or after a space. -/
def drawnWith (l : FooterLine) (word : String) : String :=
  l.labelText.getD "" ++ (if l.text = "" then "" else l.text ++ " ") ++ word

/-- The columns before the next word. -/
def reach (l : FooterLine) : Nat := displayWidth l.drawn + if l.text = "" then 0 else 1

theorem text_addWord (l : FooterLine) (word : String) :
    (l.addWord word).text = (if l.text = "" then "" else l.text ++ " ") ++ word := by
  rw [addWord]
  simp only
  split
  · rename_i h
    rw [h]
  · rfl

theorem drawn_addWord (l : FooterLine) (word : String) :
    (l.addWord word).drawn = l.drawnWith word := by
  rw [drawn, drawnWith, text_addWord, String.append_assoc]
  rfl

theorem reach_label (label : String) : reach ⟨some label, ""⟩ = displayWidth label + 2 := by
  have halone := displayWidth_labelled label ""
  rw [String.append_empty] at halone
  rw [reach, if_pos rfl, Nat.add_zero]
  exact (congrArg displayWidth String.append_empty).trans halone

theorem displayWidth_drawnWith (l : FooterLine) (word : String) :
    displayWidth (l.drawnWith word) = l.reach + displayWidth word := by
  obtain ⟨label, text⟩ := l
  by_cases htext : text = ""
  · subst htext
    cases label with
    | none =>
        rw [drawnWith, if_pos rfl, String.append_empty]
        exact (congrArg displayWidth String.empty_append).trans (Nat.zero_add _).symm
    | some label =>
        rw [reach_label, drawnWith, if_pos rfl, String.append_empty]
        exact displayWidth_labelled label word
  · rw [drawnWith, reach, drawn, if_neg htext, if_neg htext, ← String.append_assoc,
      displayWidth_spaced]

section

variable (hne : word ≠ "") (hblank : ∀ c ∈ word.toList, isBlank c = false)

include hne

theorem text_addWord_ne : (l.addWord word).text ≠ "" := by
  rw [text_addWord]
  simp [hne]

theorem reach_addWord :
    (l.addWord word).reach = l.reach + (displayWidth word + 1) := by
  rw [reach, drawn_addWord, displayWidth_drawnWith, if_neg (text_addWord_ne hne), Nat.add_assoc]

include hblank

theorem width_addWord : (l.addWord word).width = l.reach + displayWidth word := by
  have hdrawn : (l.addWord word).drawn = l.drawnWith word := drawn_addWord l word
  rw [width, plain, ← drawn, hdrawn, drawnWith, trimEnd_append _ hne hblank, ← drawnWith,
    displayWidth_drawnWith]

theorem spacedWords_addWord :
    spacedWords (l.addWord word).text = spacedWords l.text ++ [word] := by
  have hspace : ∀ c ∈ word.toList, c ≠ ' ' := by
    intro c hc hspace
    have := hblank c hc
    rw [hspace] at this
    cases this
  rw [text_addWord]
  split
  · rename_i h
    rw [String.empty_append, h, spacedWords_empty, List.nil_append,
      spacedWords_eq_singleton hne hspace]
  · rw [spacedWords_spaced, spacedWords_eq_singleton hne hspace]

end

end FooterLine

/-- How a value is set out on lines, from the top. -/
structure IsComposed (label : String) (maxWidth : Nat) (ws : List String)
    (lines : List FooterLine) : Prop where
  head : ∃ l, lines.head? = some l ∧ l.label = some label
  tail : ∀ l ∈ lines.tail, l.label = none ∧ l.text ≠ ""
  words : (lines.flatMap fun l => spacedWords l.text) = ws
  /-- A line is too wide only if it is the label alone, or a single word that has no label. -/
  fits : ∀ l ∈ lines, l.width ≤ maxWidth ∨ (l.label = some label ∧ l.text = "") ∨
    (l.label = none ∧ spacedWords l.text = [l.text] ∧ maxWidth < displayWidth l.text)
  /-- There is no room on a line for the first word of the next. -/
  full : lines.IsChain fun upper lower => ∃ word,
    (spacedWords lower.text).head? = some word ∧ maxWidth < displayWidth (upper.drawnWith word)

namespace IsComposed

variable {label : String} {maxWidth : Nat} {ws : List String} {lines : List FooterLine}
  {l : FooterLine} {word : String}

theorem label_alone (label : String) (maxWidth : Nat) :
    IsComposed label maxWidth [] [⟨some label, ""⟩] where
  head := ⟨_, rfl, rfl⟩
  tail := fun _ hl => by cases hl
  words := rfl
  fits := by
    intro l hl
    rw [List.mem_singleton.mp hl]
    exact .inr (.inl ⟨rfl, rfl⟩)
  full := List.isChain_singleton _

section

variable (h : IsComposed label maxWidth ws (lines ++ [l])) (hne : word ≠ "")
  (hblank : ∀ c ∈ word.toList, isBlank c = false)

include h hne hblank

/-- A word goes on the last line if there is room for it. -/
theorem addWord (hroom : l.reach + displayWidth word ≤ maxWidth) :
    IsComposed label maxWidth (ws ++ [word]) (lines ++ [l.addWord word]) := by
  refine ⟨?_, ?_, ?_, ?_, ?_⟩
  · obtain ⟨first, hfirst, hlabel⟩ := h.head
    cases lines with
    | nil =>
        cases hfirst
        exact ⟨_, rfl, hlabel⟩
    | cons a rest => exact ⟨first, hfirst, hlabel⟩
  · cases lines with
    | nil => exact fun _ hk => by cases hk
    | cons a rest =>
        intro k hk
        rcases List.mem_append.mp hk with hk | hk
        · exact h.tail k (List.mem_append_left _ hk)
        · rw [List.mem_singleton.mp hk]
          exact ⟨(h.tail l (List.mem_append_right _ List.mem_cons_self)).1,
            FooterLine.text_addWord_ne hne⟩
  · rw [List.flatMap_append, List.flatMap_singleton, FooterLine.spacedWords_addWord hne hblank,
      ← List.append_assoc, ← h.words, List.flatMap_append, List.flatMap_singleton]
  · intro k hk
    rcases List.mem_append.mp hk with hk | hk
    · exact h.fits k (List.mem_append_left _ hk)
    · rw [List.mem_singleton.mp hk, FooterLine.width_addWord hne hblank]
      exact .inl hroom
  · obtain ⟨hchain, -, hlast⟩ := List.isChain_append.mp h.full
    refine List.isChain_append.mpr ⟨hchain, List.isChain_singleton _, ?_⟩
    rintro upper hupper _ ⟨⟩
    obtain ⟨first, hfirst, hwide⟩ := hlast upper hupper l rfl
    refine ⟨first, ?_, hwide⟩
    rw [FooterLine.spacedWords_addWord hne hblank, List.head?_append, hfirst]
    rfl

/-- A word goes on a new line if there is none. -/
theorem newLine (hroom : maxWidth < l.reach + displayWidth word) :
    IsComposed label maxWidth (ws ++ [word])
      (lines ++ [l] ++ [FooterLine.continuation.addWord word]) := by
  have hnonempty : lines ++ [l] ≠ [] := List.append_ne_nil_of_right_ne_nil _ (List.cons_ne_nil l [])
  have hwords : spacedWords (FooterLine.continuation.addWord word).text = [word] :=
    FooterLine.spacedWords_addWord hne hblank
  have htext : (FooterLine.continuation.addWord word).text = word := by
    rw [FooterLine.text_addWord]
    exact String.empty_append
  refine ⟨?_, ?_, ?_, ?_, ?_⟩
  · obtain ⟨first, hfirst, hlabel⟩ := h.head
    refine ⟨first, ?_, hlabel⟩
    rw [List.head?_append, hfirst]
    rfl
  · intro k hk
    rw [List.tail_append_of_ne_nil hnonempty] at hk
    rcases List.mem_append.mp hk with hk | hk
    · exact h.tail k hk
    · rw [List.mem_singleton.mp hk]
      exact ⟨rfl, FooterLine.text_addWord_ne hne⟩
  · rw [List.flatMap_append, h.words, List.flatMap_singleton, hwords]
  · intro k hk
    rcases List.mem_append.mp hk with hk | hk
    · exact h.fits k hk
    · have hwidth : (FooterLine.continuation.addWord word).width = displayWidth word :=
        (FooterLine.width_addWord hne hblank).trans (Nat.zero_add _)
      rw [List.mem_singleton.mp hk, hwidth, hwords, htext]
      rcases Nat.lt_or_ge maxWidth (displayWidth word) with hwide | hfits
      · exact .inr (.inr ⟨rfl, rfl, hwide⟩)
      · exact .inl hfits
  · refine List.isChain_append.mpr ⟨h.full, List.isChain_singleton _, ?_⟩
    rintro upper hupper _ ⟨⟩
    rw [List.getLast?_append] at hupper
    cases hupper
    refine ⟨word, ?_, ?_⟩
    · rw [hwords]
      rfl
    · rw [FooterLine.displayWidth_drawnWith]
      exact hroom

end

end IsComposed

/-! ## Filling -/

namespace FooterFill

variable {label : String} {maxWidth : Nat} {ws : List String} {f : FooterFill} {word : String}

/-- The lines of a footer being filled, from the top. -/
def lines (f : FooterFill) : List FooterLine := (f.current :: f.done).reverse

/-- The lines are set out as they should be, and the columns of the last one are counted. -/
structure Holds (label : String) (maxWidth : Nat) (ws : List String) (f : FooterFill) : Prop where
  composed : IsComposed label maxWidth ws f.lines
  used : f.used = f.current.reach
  isEmpty : f.current.isEmpty = false

theorem isEmpty_addWord {l : FooterLine} (hne : word ≠ "") : (l.addWord word).isEmpty = false := by
  have htext := FooterLine.text_addWord_ne (l := l) hne
  simp [FooterLine.isEmpty, htext]

theorem Holds.addWord (h : f.Holds label maxWidth ws) (hne : word ≠ "")
    (hblank : ∀ c ∈ word.toList, isBlank c = false) :
    (f.addWord maxWidth word).Holds label maxWidth (ws ++ [word]) := by
  obtain ⟨hcomposed, hused, hempty⟩ := h
  obtain ⟨done, current, used⟩ := f
  simp only [lines, List.reverse_cons] at hcomposed hused hempty
  by_cases hroom : maxWidth < used + displayWidth word
  · have hadd : addWord maxWidth ⟨done, current, used⟩ word =
        ⟨current :: done, FooterLine.continuation.addWord word, displayWidth word + 1⟩ := by
      simp [addWord, hroom, hempty]
    rw [hadd]
    refine ⟨?_, ?_, isEmpty_addWord hne⟩
    · simpa [lines] using hcomposed.newLine hne hblank (hused ▸ hroom)
    · exact ((FooterLine.reach_addWord hne).trans (Nat.zero_add _)).symm
  · have hadd : addWord maxWidth ⟨done, current, used⟩ word =
        ⟨done, current.addWord word, used + (displayWidth word + 1)⟩ := by
      simp [addWord, hroom]
    rw [hadd]
    refine ⟨?_, ?_, isEmpty_addWord hne⟩
    · simpa [lines] using hcomposed.addWord hne hblank (hused ▸ Nat.not_lt.mp hroom)
    · rw [FooterLine.reach_addWord hne, hused]

theorem Holds.addWords (h : f.Holds label maxWidth ws) (more : List String)
    (hmore : ∀ word ∈ more, word ≠ "" ∧ ∀ c ∈ word.toList, isBlank c = false) :
    (more.foldl (FooterFill.addWord maxWidth) f).Holds label maxWidth (ws ++ more) := by
  induction more generalizing f ws with
  | nil => rwa [List.append_nil]
  | cons word more ih =>
      obtain ⟨hne, hblank⟩ := hmore word List.mem_cons_self
      have hrest := ih (h.addWord hne hblank) fun w hw => hmore w (List.mem_cons_of_mem _ hw)
      rwa [List.append_assoc, List.singleton_append] at hrest

end FooterFill

/-- A footer entry from the top, as it is composed. -/
theorem exists_isComposed (label text : String) (maxWidth : Nat) :
    ∃ lines, wrapFooter label text maxWidth = lines.reverse ∧
      IsComposed label maxWidth (words text) lines := by
  have hstart : FooterFill.Holds label maxWidth []
      ⟨[], ⟨some label, ""⟩, displayWidth label + 2⟩ :=
    ⟨IsComposed.label_alone label maxWidth, (FooterLine.reach_label label).symm, rfl⟩
  have hfilled := hstart.addWords (words text) fun word hword => mem_words hword
  refine ⟨_, ?_, hfilled.composed⟩
  rw [wrapFooter, hfilled.isEmpty, if_neg Bool.false_ne_true, FooterFill.lines,
    List.reverse_reverse]

/-- A footer entry has the words of its value in order on lines filled one after the other, with
the label on the first. -/
theorem wrapFooter_isComposed (label text : String) (maxWidth : Nat) :
    IsComposed label maxWidth (words text) (wrapFooter label text maxWidth).reverse := by
  obtain ⟨lines, hlines, hcomposed⟩ := exists_isComposed label text maxWidth
  rwa [hlines, List.reverse_reverse]

end StatusBoard.Frame
