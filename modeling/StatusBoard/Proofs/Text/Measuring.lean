import StatusBoard.Proofs.Canvas.WellFormed

/-!
Measuring a text against measuring its characters.

A text is measured from its end, and what a merge takes back has been counted before.  A space or
a colon merges with nothing, so texts that are put together with one of them between are measured
one by one.
-/

namespace StatusBoard.Text

namespace Width

/-- What the character to the left may take back of the columns counted so far. -/
def Ahead.owed : Ahead → Int
  | .ligature .coengLetter _ | .ligature .boundConsonant _ => 1
  | .joinedFlagLetter | .joinedFlagAndLetter => 1
  | _ => 0

theorem Ahead.owed_nonneg (a : Ahead) : 0 ≤ a.owed := by
  unfold owed
  split <;> decide

theorem ownWidth_nonneg (c : Char) : 0 ≤ ownWidth c := Int.natCast_nonneg _

theorem contains_eq_false_of_disjoint {s t : CharSet}
    (h : ∀ r ∈ s.ranges, ∀ q ∈ t.ranges, r.2 < q.1 ∨ q.2 < r.1) {c : Char}
    (hc : s.contains c = true) : t.contains c = false := by
  obtain ⟨r, hr, hlow, hhigh⟩ := CharSet.contains_iff.mp hc
  rw [← Bool.not_eq_true, CharSet.contains_iff]
  rintro ⟨q, hq, hlow', hhigh'⟩
  rcases h r hr q hq with hlt | hlt
  · omega
  · omega

/-- The letters that merge with the sign before them have a column of their own. -/
theorem ownWidth_of_coengLetters {c : Char} (h : coengLetters.contains c = true) :
    ownWidth c = 1 := by
  have hzero : zeroWidth.contains c = false :=
    contains_eq_false_of_disjoint (by decide +kernel) h
  have hdouble : doubleWidth.contains c = false :=
    contains_eq_false_of_disjoint (by decide +kernel) h
  obtain ⟨r, hr, hlow, hhigh⟩ := CharSet.contains_iff.mp h
  have hbounds : ∀ r ∈ coengLetters.ranges, 0x1780 ≤ r.1 ∧ r.2 ≤ 0x17AF := by decide
  have hcontrol : isControl c = false := by
    rw [isControl]
    have := hbounds r hr
    simp
    omega
  have hwidth : charWidth c = some 1 := by
    have := hbounds r hr
    rw [charWidth, hcontrol, hzero, hdouble]
    simp
    omega
  rw [ownWidth, hwidth]
  rfl

theorem owed_merge {a b : Ahead} {c : Char} {w : Int} (h : merge a c = some (w, b)) :
    b.owed ≤ w + a.owed := by
  simp only [merge] at h
  repeat' split at h
  all_goals first | contradiction | obtain ⟨rfl, rfl⟩ := Prod.mk.inj (Option.some.inj h)
  all_goals simp [Ahead.owed]

theorem owed_role_le (c : Char) : (role c).owed ≤ ownWidth c := by
  unfold role
  simp only
  split
  · exact ownWidth_nonneg c
  split
  · exact ownWidth_nonneg c
  split
  · rename_i h
    rw [ownWidth_of_coengLetters h]
    decide
  repeat' split
  all_goals exact ownWidth_nonneg c

theorem owed_askEmoji_le (k : Context) : k.askEmoji.ahead.owed ≤ k.ahead.owed := by
  unfold Context.askEmoji
  split
  · exact Int.le_refl _
  · exact k.ahead.owed_nonneg

theorem owed_askText_le (k : Context) : k.askText.ahead.owed ≤ k.ahead.owed := by
  unfold Context.askText
  split
  · exact Int.le_refl _
  · exact k.ahead.owed_nonneg

theorem owed_dropEmojiStyle_le (k : Context) : k.dropEmojiStyle.ahead.owed ≤ k.ahead.owed := by
  unfold Context.dropEmojiStyle
  split
  · exact Int.le_refl _
  · exact k.ahead.owed_nonneg

theorem owed_ligature (letter : Ligature) (joined joined' : Bool) :
    (Ahead.ligature letter joined).owed = (Ahead.ligature letter joined').owed := by
  cases letter <;> rfl

theorem owed_merge_or_role (a : Ahead) (c : Char) :
    let r := match merge a c with
      | some (w, b) => (w, b.alone)
      | none => (ownWidth c, (role c).alone)
    r.2.ahead.owed ≤ r.1 + a.owed := by
  simp only
  split
  · rename_i h
    exact owed_merge h
  · have hrole := owed_role_le c
    have ha := a.owed_nonneg
    change (role c).owed ≤ ownWidth c + a.owed
    omega

theorem owed_measurePlain (c : Char) (k : Context) :
    (measurePlain c k).2.ahead.owed ≤ (measurePlain c k).1 + k.ahead.owed := by
  have hk := k.ahead.owed_nonneg
  have hnone : (0 : Int) ≤ 0 + k.ahead.owed := by omega
  have hone : (0 : Int) ≤ 1 + k.ahead.owed := by omega
  unfold measurePlain
  simp only
  split
  · split
    · exact hnone
    split
    · exact hnone
    · exact hone
  split
  · simpa using owed_askEmoji_le k
  split
  · simpa using owed_askText_le k
  split
  · exact hone
  split
  · rename_i letter joined hahead
    split
    · rw [Int.zero_add, hahead]
      exact Int.le_of_eq (owed_ligature letter true joined)
    split
    · rw [Int.zero_add, hahead]
      exact Int.le_refl _
    · rw [hahead]
      exact owed_merge_or_role _ c
  · exact owed_merge_or_role _ c

theorem owed_measure (c : Char) (k : Context) :
    (measure c k).2.ahead.owed ≤ (measure c k).1 + k.ahead.owed := by
  have hk := k.ahead.owed_nonneg
  unfold measure
  split
  · split
    · change (0 : Int) ≤ (if k.ahead.isJoined then 0 else 2) + k.ahead.owed
      split <;> omega
    · have hplain := owed_measurePlain c k.dropEmojiStyle
      have hdrop := owed_dropEmojiStyle_le k
      omega
  · exact owed_measurePlain c k

@[simp] theorem measureAll_nil : measureAll [] = (0, .start) := rfl

theorem measureAll_cons (c : Char) (cs : List Char) :
    measureAll (c :: cs) =
      ((measureAll cs).1 + (measure c (measureAll cs).2).1, (measure c (measureAll cs).2).2) := rfl

theorem owed_le_measureAll (cs : List Char) :
    (measureAll cs).2.ahead.owed ≤ (measureAll cs).1 := by
  induction cs with
  | nil => exact Int.le_refl _
  | cons c cs ih =>
      have hstep := owed_measure c (measureAll cs).2
      rw [measureAll_cons]
      simp only
      omega

theorem measureAll_nonneg (cs : List Char) : 0 ≤ (measureAll cs).1 :=
  Int.le_trans (Ahead.owed_nonneg _) (owed_le_measureAll cs)

/-! ## Texts side by side -/

/-- What stands left of a text that is forgotten is measured as if it stood alone. -/
theorem measureAll_append {ds : List Char} (h : (measureAll ds).2 = .start) (cs : List Char) :
    measureAll (cs ++ ds) = ((measureAll cs).1 + (measureAll ds).1, (measureAll cs).2) := by
  induction cs with
  | nil =>
      rw [List.nil_append, measureAll_nil, Int.zero_add, ← h]
  | cons c cs ih =>
      rw [List.cons_append, measureAll_cons, ih, measureAll_cons]
      simp only [Prod.mk.injEq, and_true]
      omega

theorem measure_of_firm {c : Char} (hlow : c.toNat ≤ 0xA0) (hline : c ≠ '\n') (hreturn : c ≠ '\r')
    (hemoji : startsEmoji c = false) (k : Context) : measure c k = (1, .start) := by
  have hplain : ∀ k, measurePlain c k = (1, .start) := by
    intro k
    simp [measurePlain, hlow, hline, hreturn]
  unfold measure
  split
  · rw [if_neg (by simp [hemoji]), hplain]
  · exact hplain k

theorem measureAll_cons_of_firm {c : Char} (hlow : c.toNat ≤ 0xA0) (hline : c ≠ '\n')
    (hreturn : c ≠ '\r') (hemoji : startsEmoji c = false) (cs : List Char) :
    measureAll (c :: cs) = ((measureAll cs).1 + 1, .start) := by
  rw [measureAll_cons, measure_of_firm hlow hline hreturn hemoji]

theorem measureAll_space (cs : List Char) :
    measureAll (' ' :: cs) = ((measureAll cs).1 + 1, .start) :=
  measureAll_cons_of_firm (by decide) (by decide) (by decide) (by decide +kernel) cs

theorem measureAll_colon (cs : List Char) :
    measureAll (':' :: cs) = ((measureAll cs).1 + 1, .start) :=
  measureAll_cons_of_firm (by decide) (by decide) (by decide) (by decide +kernel) cs

end Width

open Width

theorem measureAll_toList (t : String) : (measureAll t.toList).1 = displayWidth t :=
  (Int.toNat_of_nonneg (measureAll_nonneg _)).symm

theorem displayWidth_spaced (a b : String) :
    displayWidth (a ++ " " ++ b) = displayWidth a + 1 + displayWidth b := by
  have htext : (a ++ " " ++ b).toList = a.toList ++ ' ' :: b.toList := by simp
  have hspace := measureAll_space b.toList
  have hsum := measureAll_append (congrArg Prod.snd hspace) a.toList
  have hmeasured := measureAll_toList (a ++ " " ++ b)
  rw [htext, hsum, hspace, measureAll_toList, measureAll_toList] at hmeasured
  omega

theorem displayWidth_labelled (a b : String) :
    displayWidth (a ++ ": " ++ b) = displayWidth a + 2 + displayWidth b := by
  have htext : (a ++ ": " ++ b).toList = a.toList ++ ':' :: ' ' :: b.toList := by simp
  have hcolon := measureAll_colon (' ' :: b.toList)
  have hsum := measureAll_append (congrArg Prod.snd hcolon) a.toList
  have hmeasured := measureAll_toList (a ++ ": " ++ b)
  rw [htext, hsum, hcolon, measureAll_space, measureAll_toList, measureAll_toList] at hmeasured
  simp only at hmeasured
  omega

/-! ## Characters one by one -/

/-- Columns that characters take when they are printed one after the other. -/
def totalColumns (cs : List Char) : Nat := (cs.map columns).sum

@[simp] theorem totalColumns_nil : totalColumns [] = 0 := rfl

@[simp] theorem totalColumns_cons (c : Char) (cs : List Char) :
    totalColumns (c :: cs) = columns c + totalColumns cs := by
  rw [totalColumns, List.map_cons, List.sum_cons, totalColumns]

@[simp] theorem totalColumns_append (cs ds : List Char) :
    totalColumns (cs ++ ds) = totalColumns cs + totalColumns ds := by
  rw [totalColumns, List.map_append, List.sum_append, totalColumns, totalColumns]

/-- A character that takes its own columns whatever stands next to it, if that does so too. -/
structure IsSolitary (c : Char) : Prop where
  control : isControl c = true → c = '\n'
  role : role c = .plain ∨ role c = .emoji
  ne_joiner : c.toNat ≠ 0x200D
  ne_textSelector : c.toNat ≠ 0xFE0E
  ne_emojiSelector : c.toNat ≠ 0xFE0F

/-- What a solitary character leaves to its left neighbour. -/
def IsQuiet (k : Context) : Prop :=
  k = Ahead.plain.alone ∨ k = Ahead.lineFeed.alone ∨ k = Ahead.emoji.alone

theorem merge_of_isQuiet {c : Char} (hc : c.toNat ≠ 0x200D) {k : Context} (hk : IsQuiet k) :
    merge k.ahead c = none := by
  rcases hk with rfl | rfl | rfl
  · rfl
  · rfl
  · exact if_neg hc

theorem ownWidth_of_not_isControl {c : Char} (h : isControl c = false) : ownWidth c = columns c := by
  cases hwidth : charWidth c with
  | none =>
      rw [charWidth_eq_none_iff, h] at hwidth
      cases hwidth
  | some w => simp [ownWidth, columns, hwidth]

theorem measurePlain_of_isQuiet {c : Char} (hhigh : 0xA0 < c.toNat) (hc : IsSolitary c)
    {k : Context} (hk : IsQuiet k) : measurePlain c k = (ownWidth c, (role c).alone) := by
  have hmerge := merge_of_isQuiet hc.ne_joiner hk
  rcases hk with rfl | rfl | rfl
  all_goals simp only [Ahead.alone] at hmerge
  all_goals
    simp [measurePlain, Ahead.alone, Nat.not_le.mpr hhigh, hc.ne_textSelector, hc.ne_emojiSelector,
      hmerge]

theorem measure_of_isSolitary {c : Char} (hc : IsSolitary c) {k : Context} (hk : IsQuiet k) :
    (measure c k).1 = columns c ∧ IsQuiet (measure c k).2 := by
  have hplain : measure c k = measurePlain c k := by
    rcases hk with rfl | rfl | rfl <;> rfl
  rw [hplain]
  by_cases hlow : c.toNat ≤ 0xA0
  · by_cases hline : c = '\n'
    · subst hline
      exact ⟨rfl, .inr (.inl rfl)⟩
    · have hcontrol : isControl c = false := by
        rw [← Bool.not_eq_true]
        exact fun h => hline (hc.control h)
      have hreturn : c ≠ '\r' := by
        rintro rfl
        cases hcontrol
      have hcolumns : columns c = 1 := by
        rw [columns, charWidth, hcontrol, if_neg Bool.false_ne_true, if_pos (by omega)]
        rfl
      rw [hcolumns]
      simp [measurePlain, hlow, hline, hreturn, IsQuiet, Context.start]
  · have hhigh : 0xA0 < c.toNat := Nat.not_le.mp hlow
    have hcontrol : isControl c = false := by
      rw [isControl]
      simp
      omega
    rw [measurePlain_of_isQuiet hhigh hc hk, ← ownWidth_of_not_isControl hcontrol]
    refine ⟨rfl, ?_⟩
    rcases hc.role with hrole | hrole
    · rw [hrole]
      exact .inl rfl
    · rw [hrole]
      exact .inr (.inr rfl)

theorem measureAll_of_isSolitary {cs : List Char} (h : ∀ c ∈ cs, IsSolitary c) :
    (measureAll cs).1 = totalColumns cs ∧ IsQuiet (measureAll cs).2 := by
  induction cs with
  | nil => exact ⟨rfl, .inl rfl⟩
  | cons c cs ih =>
      obtain ⟨hsum, hquiet⟩ := ih fun d hd => h d (List.mem_cons_of_mem _ hd)
      obtain ⟨hcolumns, hleft⟩ := measure_of_isSolitary (h c List.mem_cons_self) hquiet
      rw [measureAll_cons]
      refine ⟨?_, hleft⟩
      rw [hsum, hcolumns, totalColumns_cons, Int.natCast_add, Int.add_comm]

/-- Solitary characters are measured one by one, all the same whether as a text or not. -/
theorem displayWidth_of_isSolitary {t : String} (h : ∀ c ∈ t.toList, IsSolitary c) :
    displayWidth t = totalColumns t.toList :=
  Int.ofNat_inj.mp ((measureAll_toList t).symm.trans (measureAll_of_isSolitary h).1)

end StatusBoard.Text
