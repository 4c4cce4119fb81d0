import StatusBoard.Proofs.Text.Digits
import StatusBoard.Proofs.Toml.Spelling
import StatusBoard.Toml.Reader

/-!
Values that have been written are read back: texts, numbers, truth values and arrays of texts.
-/

namespace StatusBoard.Toml

open Text

/-- Reading some characters gives a value and leaves others. -/
def Reads {α : Type} (read : (cs : List Char) → Option (α × Rest cs)) (cs : List Char) (a : α)
    (r : List Char) : Prop :=
  ∃ h, read cs = some (a, ⟨r, h⟩)

/-! ## Numbers and truth values -/

theorem hexDigit?_of_isDigit {c : Char} (h : c.isDigit = true) :
    ∃ d < 10, hexDigit? c = some d := by
  rw [Char.isDigit, Bool.and_eq_true, decide_eq_true_eq, decide_eq_true_eq] at h
  refine ⟨c.toNat - '0'.toNat, ?_, ?_⟩
  · have hle : c.toNat ≤ '9'.toNat := h.2
    have hnine : '9'.toNat = '0'.toNat + 9 := by decide
    omega
  · exact if_pos h

theorem digitsValue?_toDigits {n : Nat} (h : n ≤ maxAbsolute) :
    digitsValue? 10 (Nat.toDigits 10 n) = some n := by
  induction n using Nat.strongRecOn with
  | ind n ih =>
      rcases Nat.lt_or_ge n 10 with hlt | hge
      · rw [Nat.toDigits_of_lt_base hlt]
        simp [digitsValue?, hexDigit?_digitChar n hlt, h]
      · have hhigh := ih (n / 10) (by omega) (by omega)
        rw [digitsValue?] at hhigh
        rw [Nat.toDigits_of_base_le (by decide) hge, digitsValue?, List.foldlM_append, hhigh]
        have hsum : n / 10 * 10 + n % 10 = n := by omega
        simp [hexDigit?_digitChar _ (Nat.mod_lt n (by decide : 10 > 0)), hsum, h]

theorem ungroup?_toDigits (n : Nat) :
    ungroup? (isDigitOf 10) (Nat.toDigits 10 n) = some (Nat.toDigits 10 n) := by
  have hdigits : ∀ c ∈ Nat.toDigits 10 n, c.isDigit = true := fun c hc =>
    Nat.isDigit_of_mem_toDigits (by decide) (by decide) hc
  have hsplit : split (· = '_') (Nat.toDigits 10 n) = [Nat.toDigits 10 n] := by
    apply split_eq_singleton
    intro c hc
    rw [decide_eq_false_iff_not]
    rintro rfl
    exact absurd (hdigits _ hc) (by decide)
  have hall : (Nat.toDigits 10 n).all (isDigitOf 10) = true := by
    rw [List.all_eq_true]
    intro c hc
    obtain ⟨d, hlt, hd⟩ := hexDigit?_of_isDigit (hdigits c hc)
    simp [isDigitOf, hd, hlt]
  rw [ungroup?, hsplit]
  simp [Nat.toDigits_ne_nil, hall]

theorem readWhole?_toDigits (n : Nat) :
    readWhole? (Nat.toDigits 10 n) = some (Nat.toDigits 10 n) := by
  rw [readWhole?, ungroup?_toDigits]
  split
  · rename_i heq
    exact absurd (Option.some.inj heq) (toDigits_ne_zero_cons n _ _)
  · rfl

theorem readSign_toDigits (n : Nat) :
    readSign (Nat.toDigits 10 n) = (false, Nat.toDigits 10 n) := by
  have hdigit : ∀ c ∈ Nat.toDigits 10 n, c.isDigit = true := fun c hc =>
    Nat.isDigit_of_mem_toDigits (by decide) (by decide) hc
  unfold readSign
  split
  · rename_i heq
    exact absurd (hdigit '+' (heq ▸ List.mem_cons_self)) (by decide)
  · rename_i heq
    exact absurd (hdigit '-' (heq ▸ List.mem_cons_self)) (by decide)
  · rfl

theorem natAbs_le_of_toInteger? {n : Int} (h : toInteger? n = some n) : n.natAbs ≤ maxAbsolute := by
  unfold toInteger? at h
  split at h
  · omega
  · cases h

/-- Digits after which a sign says what they count. -/
theorem readInteger?_of_readSign {cs : List Char} {isNegative : Bool} {n : Nat}
    (hsign : readSign cs = (isNegative, Nat.toDigits 10 n))
    (hzero : cs.head? ≠ some '0' ∨ cs = Nat.toDigits 10 n)
    (hn : n ≤ maxAbsolute) :
    readInteger? cs = toInteger? (if isNegative then -(n : Int) else n) := by
  have hbase : ∀ c more, cs ≠ '0' :: c :: more := by
    rintro c more rfl
    rcases hzero with hzero | hzero
    · exact hzero rfl
    · exact toDigits_ne_zero_cons n c more hzero.symm
  unfold readInteger?
  split
  · exact absurd rfl (hbase _ _)
  · exact absurd rfl (hbase _ _)
  · exact absurd rfl (hbase _ _)
  · simp only [hsign, readWhole?_toDigits, Option.bind_some, digitsValue?_toDigits hn]

theorem toList_toString_ofNat (k : Nat) :
    (toString (Int.ofNat k)).toList = Nat.toDigits 10 k := by
  simp [toString, Int.repr]

theorem toList_toString_negSucc (k : Nat) :
    (toString (Int.negSucc k)).toList = '-' :: Nat.toDigits 10 (k + 1) := by
  simp [toString, Int.repr]

theorem readInteger?_toString {n : Int} (h : toInteger? n = some n) :
    readInteger? (toString n).toList = some n := by
  have hle := natAbs_le_of_toInteger? h
  cases n with
  | ofNat k =>
      rw [toList_toString_ofNat, readInteger?_of_readSign (readSign_toDigits k) (.inr rfl) hle]
      exact h
  | negSucc k =>
      rw [toList_toString_negSucc, readInteger?_of_readSign rfl (.inl (by simp)) hle]
      exact h

theorem isScalarChar_of_isDigit {c : Char} (h : c.isDigit = true) : isScalarChar c = true := by
  simp [isScalarChar, Char.isAlphanum, h]

theorem isScalarChar_of_mem_toString {n : Int} :
    ∀ c ∈ (toString n).toList, isScalarChar c = true := by
  have hdigits : ∀ k : Nat, ∀ c ∈ Nat.toDigits 10 k, isScalarChar c = true := fun k c hc =>
    isScalarChar_of_isDigit (Nat.isDigit_of_mem_toDigits (by decide) (by decide) hc)
  cases n with
  | ofNat k =>
      rw [toList_toString_ofNat]
      exact hdigits k
  | negSucc k =>
      rw [toList_toString_negSucc]
      rintro c (_ | ⟨_, hc⟩)
      · rfl
      · exact hdigits _ c hc

theorem scanScalar_line {run : List Char} (hne : run ≠ []) (hrun : ∀ c ∈ run, isScalarChar c = true)
    (rest : List Char) :
    scanScalar (run ++ '\n' :: rest) = (scalar? run).map (·, '\n' :: rest) := by
  have hsplit : scanRun (run ++ '\n' :: rest) = (run, '\n' :: rest) := by
    have hend : isScalarChar '\n' = false := by decide
    unfold scanRun
    rw [List.takeWhile_append_of_pos hrun, List.dropWhile_append_of_pos hrun]
    simp [hend]
  rw [scanScalar, hsplit]
  simp [hne]

theorem scalar?_toString {n : Int} (h : toInteger? n = some n) :
    scalar? (toString n).toList = some (.integer n) := by
  have hread := readInteger?_toString h
  have hword : ∀ word, readInteger? word = none → (toString n).toList ≠ word := by
    rintro word hnone rfl
    cases hread.symm.trans hnone
  rw [scalar?, if_neg (hword _ rfl), if_neg (hword _ rfl), hread]

/-! ## Values -/

theorem readValue_of_scanText {depth : Nat} {cs r : List Char} {t : String}
    (h : scanText cs = some (t, r)) : Reads (readValue depth) cs (.text t) r := by
  have hquote : (∃ rest, cs = '"' :: rest) ∨ ∃ rest, cs = '\'' :: rest := by
    unfold scanText at h
    split at h
    · exact .inl ⟨_, rfl⟩
    · exact .inr ⟨_, rfl⟩
    · exact .inl ⟨_, rfl⟩
    · exact .inr ⟨_, rfl⟩
    · cases h
  refine ⟨length_of_scanText h, ?_⟩
  rcases hquote with ⟨rest, rfl⟩ | ⟨rest, rfl⟩ <;> cases depth <;>
    · rw [readValue]
      split
      · rename_i heq
        cases h.symm.trans heq
        rfl
      · rename_i heq
        cases h.symm.trans heq

theorem readValue_of_scanScalar {depth : Nat} {c : Char} {cs r : List Char} {v : Value}
    (hc : isScalarChar c = true) (h : scanScalar (c :: cs) = some (v, r)) :
    Reads (readValue depth) (c :: cs) v r := by
  refine ⟨length_of_scanScalar h, ?_⟩
  rw [readValue]
  · split
    · rename_i heq
      cases h.symm.trans heq
      rfl
    · rename_i heq
      cases h.symm.trans heq
  all_goals
    intros
    rename_i heq
    cases heq
    cases hc

theorem readValue_of_readItems {depth : Nat} {cs r : List Char} {items : List Value}
    (h : Reads (readItems depth) cs items r) :
    Reads (readValue (depth + 1)) ('[' :: cs) (.array items) r := by
  obtain ⟨hlt, h⟩ := h
  refine ⟨Nat.lt_succ_of_lt hlt, ?_⟩
  rw [readValue]
  simp only [h]

theorem readItems_end (depth : Nat) {cs r : List Char} (h : skipFiller false cs = some (']' :: r)) :
    Reads (readItems depth) cs [] r := by
  have hlength := length_of_skipFiller h
  refine ⟨by simp at hlength; omega, ?_⟩
  rw [readItems]
  split
  · rename_i heq
    cases h.symm.trans heq
  · rename_i heq
    cases h.symm.trans heq
    rfl
  · rename_i hne heq
    cases h.symm.trans heq
    exact absurd rfl (hne r)

section

variable {depth : Nat} {cs cs' r r' : List Char} {v : Value}

theorem readItems_last (h : skipFiller false cs = some cs') (hne : cs'.head? ≠ some ']')
    (hv : Reads (readValue depth) cs' v r) (hend : skipFiller false r = some (']' :: r')) :
    Reads (readItems depth) cs [v] r' := by
  obtain ⟨hlt, hv⟩ := hv
  have hcs := length_of_skipFiller h
  have hr := length_of_skipFiller hend
  refine ⟨by simp at hr; omega, ?_⟩
  rw [readItems]
  split
  · rename_i heq
    cases h.symm.trans heq
  · rename_i heq
    cases h.symm.trans heq
    exact absurd rfl hne
  · rename_i heq
    cases h.symm.trans heq
    simp only [hv]
    split
    · rename_i heq
      cases hend.symm.trans heq
      rfl
    · rename_i heq
      cases hend.symm.trans heq
    · rename_i hnot _
      exact absurd hend (hnot _)

theorem readItems_comma {items : List Value} {more : List Char}
    (h : skipFiller false cs = some cs') (hne : cs'.head? ≠ some ']')
    (hv : Reads (readValue depth) cs' v r) (hcomma : skipFiller false r = some (',' :: more))
    (hitems : Reads (readItems depth) more items r') :
    Reads (readItems depth) cs (v :: items) r' := by
  obtain ⟨hlt, hv⟩ := hv
  obtain ⟨hlt', hitems⟩ := hitems
  have hcs := length_of_skipFiller h
  have hr := length_of_skipFiller hcomma
  refine ⟨by simp at hr; omega, ?_⟩
  rw [readItems]
  split
  · rename_i heq
    cases h.symm.trans heq
  · rename_i heq
    cases h.symm.trans heq
    exact absurd rfl hne
  · rename_i heq
    cases h.symm.trans heq
    simp only [hv]
    split
    · rename_i heq
      cases hcomma.symm.trans heq
    · rename_i heq
      cases hcomma.symm.trans heq
      simp only [hitems]
    · rename_i hnot
      exact absurd hcomma (hnot _)

end

/-! ## What is printed -/

/-- The value that an item is read as. -/
def Item.value : Item → Value
  | .text t => .text t
  | .texts ts => .array (ts.map .text)
  | .integer n => .integer n
  | .boolean b => .boolean b

/-- Whether a document can hold an item: integers have a limit. -/
def Item.IsWritable : Item → Prop
  | .integer n => toInteger? n = some n
  | _ => True

/-- A character that is neither blank nor the start of a comment or of the end of a line. -/
def IsInk (c : Char) : Prop := c ≠ '\n' ∧ c ≠ '\r' ∧ c ≠ '#' ∧ isSpace c = false

theorem skipFiller_of_isInk {c : Char} (h : IsInk c) (cs : List Char) :
    skipFiller false (c :: cs) = some (c :: cs) := by
  obtain ⟨hnewline, hreturn, hcomment, hspace⟩ := h
  rw [skipFiller]
  · simp [hspace]
  · exact hnewline
  · rintro rest rfl -
    exact hreturn rfl
  · exact hcomment

theorem skipFiller_indent (cs : List Char) :
    skipFiller false (List.replicate 4 ' ' ++ cs) = skipFiller false cs := by
  simp [List.replicate, skipFiller, isSpace]

/-- A text starts with one of its quotes. -/
theorem exists_text_eq_cons (t : String) :
    ∃ q more, Printer.text t = q :: more ∧ (q = '"' ∨ q = '\'') := by
  have hquote :
      (Printer.styleOf t.toList).quote = '"' ∨ (Printer.styleOf t.toList).quote = '\'' := by
    rcases (Style.holds_styleOf t.toList).known with hs | hs
    · rw [hs]
      exact .inl rfl
    · rw [hs]
      exact .inr rfl
  have hcons : ∃ more, Printer.text t = (Printer.styleOf t.toList).quote :: more := by
    rw [Printer.text, Printer.quotedIn]
    cases (Printer.styleOf t.toList).isBlock <;> exact ⟨_, rfl⟩
  obtain ⟨more, hmore⟩ := hcons
  exact ⟨_, more, hmore, hquote⟩

theorem skipFiller_text (t : String) (rest : List Char) :
    skipFiller false (Printer.text t ++ rest) = some (Printer.text t ++ rest) := by
  obtain ⟨q, more, htext, rfl | rfl⟩ := exists_text_eq_cons t
  · rw [htext]
    rfl
  · rw [htext]
    rfl

theorem head?_text_ne (t : String) (rest : List Char) :
    (Printer.text t ++ rest).head? ≠ some ']' := by
  obtain ⟨q, more, htext, rfl | rfl⟩ := exists_text_eq_cons t
  · simp [htext]
  · simp [htext]

theorem readValue_text (depth : Nat) (t : String) {rest : List Char} (hrest : NoQuote rest) :
    Reads (readValue depth) (Printer.text t ++ rest) (.text t) rest :=
  readValue_of_scanText (scanText_text t hrest)

theorem readItems_textLines (depth : Nat) (ts : List String) (rest : List Char) :
    Reads (readItems depth) ('\n' :: (Printer.textLines ts ++ ']' :: rest)) (ts.map .text)
      rest := by
  induction ts with
  | nil => exact readItems_end depth rfl
  | cons t ts ih =>
      have hlines : Printer.textLines (t :: ts) ++ ']' :: rest = List.replicate 4 ' ' ++
          (Printer.text t ++ ',' :: '\n' :: (Printer.textLines ts ++ ']' :: rest)) := by
        simp [Printer.textLines]
      have hskip : skipFiller false ('\n' :: (Printer.textLines (t :: ts) ++ ']' :: rest)) =
          some (Printer.text t ++ ',' :: '\n' :: (Printer.textLines ts ++ ']' :: rest)) := by
        rw [hlines, skipFiller, skipFiller_indent, skipFiller_text]
      have hcomma : NoQuote (',' :: '\n' :: (Printer.textLines ts ++ ']' :: rest)) := ⟨nofun, nofun⟩
      exact readItems_comma hskip (head?_text_ne t _) (readValue_text depth t hcomma) rfl ih

/-- The value of a key is read back. -/
theorem readValue_item (depth : Nat) {i : Item} (h : i.IsWritable) (rest : List Char) :
    Reads (readValue (depth + 1)) (Printer.item i ++ '\n' :: rest) i.value ('\n' :: rest) := by
  cases i with
  | text t => exact readValue_text _ t ⟨nofun, nofun⟩
  | texts ts =>
      rcases ts with _ | ⟨t, _ | ⟨u, ts⟩⟩
      · exact readValue_of_readItems (readItems_end depth rfl)
      · have hitem : Printer.item (.texts [t]) ++ '\n' :: rest =
            '[' :: (Printer.text t ++ ']' :: '\n' :: rest) := by simp [Printer.item]
        rw [hitem]
        apply readValue_of_readItems
        exact readItems_last (skipFiller_text t _) (head?_text_ne t _)
          (readValue_text depth t ⟨nofun, nofun⟩) rfl
      · have hitem : Printer.item (.texts (t :: u :: ts)) ++ '\n' :: rest =
            '[' :: '\n' :: (Printer.textLines (t :: u :: ts) ++ ']' :: '\n' :: rest) := by
          simp [Printer.item]
        rw [hitem]
        exact readValue_of_readItems (readItems_textLines depth _ _)
  | integer n =>
      have hne : (toString n).toList ≠ [] := by
        cases n with
        | ofNat k =>
            rw [toList_toString_ofNat]
            exact Nat.toDigits_ne_nil
        | negSucc k =>
            rw [toList_toString_negSucc]
            exact List.cons_ne_nil _ _
      obtain ⟨c, cs, hcs⟩ := List.exists_cons_of_ne_nil hne
      have hscan := scanScalar_line hne isScalarChar_of_mem_toString rest
      have hc := isScalarChar_of_mem_toString c (hcs ▸ List.mem_cons_self)
      rw [scalar?_toString h, hcs] at hscan
      change Reads _ ((toString n).toList ++ _) _ _
      rw [hcs]
      exact readValue_of_scanScalar hc hscan
  | boolean b =>
      cases b with
      | false =>
          exact readValue_of_scanScalar rfl
            (scanScalar_line (List.cons_ne_nil 'f' ['a', 'l', 's', 'e']) (List.all_eq_true.1 rfl) rest)
      | true =>
          exact readValue_of_scanScalar rfl
            (scanScalar_line (List.cons_ne_nil 't' ['r', 'u', 'e']) (List.all_eq_true.1 rfl) rest)

end StatusBoard.Toml
