import StatusBoard.Toml.Printer

/-!
A text that has been written is read back.

In a block up to two quotes in a row may stand as they are, also right before the quotes that close
it.  Whether a spelling is closed too early therefore depends on how many quotes stand before it,
and what is proved of the end of a spelling is proved for any such number.
-/

namespace StatusBoard.Toml

open Text

/-- Nothing that could be taken for one more quote. -/
def NoQuote (cs : List Char) : Prop := cs.head? ≠ some '"' ∧ cs.head? ≠ some '\''

namespace Style

variable {s : Style} {cs rest : List Char} {count : Nat}

/-- A spelling that is not closed before its end, after some quotes in a row. -/
inductive IsOpen (s : Style) : Nat → List Char → Prop
  | nil {count : Nat} : IsOpen s count []
  | quote {count : Nat} {cs : List Char} :
      s.isBlock = true → count < 2 → IsOpen s (count + 1) cs → IsOpen s count (s.quote :: cs)
  | escape {count : Nat} {c : Char} {cs : List Char} :
      s.hasEscapes = true → IsOpen s 0 cs → IsOpen s count ('\\' :: c :: cs)
  | other {count : Nat} {c : Char} {cs : List Char} :
      c ≠ s.quote → (s.hasEscapes = true → c ≠ '\\') → IsOpen s 0 cs → IsOpen s count (c :: cs)

def closing (s : Style) : List Char := List.replicate (if s.isBlock then 3 else 1) s.quote

theorem closesBlock_cons_of_ne {q c : Char} (h : c ≠ q) (cs : List Char) :
    closesBlock q (c :: cs) = false := by
  simp [closesBlock, List.isPrefixOf, h.symm]

theorem split_escape (h : s.hasEscapes = true) (c : Char) (cs : List Char) :
    s.split ('\\' :: c :: cs) = (s.split cs).map fun (sp, r) => ('\\' :: c :: sp, r) := by
  rw [split]
  simp [h]

theorem split_other {c : Char} (hquote : c ≠ s.quote) (hescape : s.hasEscapes = true → c ≠ '\\')
    (cs : List Char) : s.split (c :: cs) = (s.split cs).map fun (sp, r) => (c :: sp, r) := by
  rw [split.eq_def]
  simp only
  rw [if_neg (by simpa using hescape), closesBlock_cons_of_ne hquote]
  simp [hquote]

/-- Two quotes in a block that no third one follows belong to the spelling. -/
theorem split_quotes (hq : s.quote ≠ '\\') (hcount : count = 0 ∨ s.isBlock = true ∧ count ≤ 2)
    (hcs : cs.head? ≠ some s.quote) :
    s.split (List.replicate count s.quote ++ cs) =
      (s.split cs).map fun (sp, r) => (List.replicate count s.quote ++ sp, r) := by
  have hkeep : ∀ more : List Char, s.isBlock = true →
      closesBlock s.quote (s.quote :: more) = false →
      s.split (s.quote :: more) = (s.split more).map fun (sp, r) => (s.quote :: sp, r) := by
    intro more hblock hopen
    rw [split.eq_def]
    simp [hq, hblock, hopen]
  rcases hcount with rfl | ⟨hblock, hcount⟩
  · simp
  · have hshort : closesBlock s.quote (s.quote :: cs) = false ∧
        closesBlock s.quote (s.quote :: s.quote :: cs) = false := by
      cases cs with
      | nil => simp [closesBlock, List.isPrefixOf]
      | cons c cs =>
          have hc : s.quote ≠ c := fun heq => hcs (congrArg some heq.symm)
          simp [closesBlock, List.isPrefixOf, hc]
    obtain rfl | rfl | rfl : count = 0 ∨ count = 1 ∨ count = 2 := by omega
    · simp
    · exact hkeep cs hblock hshort.1
    · change s.split (s.quote :: s.quote :: cs) = _
      rw [hkeep _ hblock hshort.2, hkeep cs hblock hshort.1, Option.map_map]
      rfl

/-- Quotes right before the closing ones belong to the spelling. -/
theorem split_closing (hq : s.quote ≠ '\\') (hcount : count = 0 ∨ s.isBlock = true ∧ count ≤ 2)
    (hrest : rest.head? ≠ some s.quote) :
    s.split (List.replicate count s.quote ++ (s.closing ++ rest)) =
      some (List.replicate count s.quote, rest) := by
  have htake : rest.takeWhile (· = s.quote) = [] := by
    cases rest with
    | nil => rfl
    | cons c rest => simp_all
  cases hblock : s.isBlock with
  | false =>
      obtain rfl : count = 0 := by simpa [hblock] using hcount
      rw [split.eq_def]
      simp [closing, hblock, hq]
  | true =>
      obtain rfl | rfl | rfl : count = 0 ∨ count = 1 ∨ count = 2 := by omega
      all_goals
        rw [split.eq_def]
        simp [closing, hblock, hq, closesBlock, List.isPrefixOf, List.replicate, htake]

theorem IsOpen.split (h : s.IsOpen count cs) (hq : s.quote ≠ '\\')
    (hcount : count = 0 ∨ s.isBlock = true ∧ count ≤ 2) (hrest : rest.head? ≠ some s.quote) :
    s.split (List.replicate count s.quote ++ (cs ++ (s.closing ++ rest))) =
      some (List.replicate count s.quote ++ cs, rest) := by
  induction h with
  | nil =>
      rw [List.nil_append, List.append_nil]
      exact split_closing hq hcount hrest
  | @quote count cs hblock hlt _ ih =>
      have hnext := ih (.inr ⟨hblock, by omega⟩)
      rw [List.replicate_succ', List.append_assoc, List.append_assoc] at hnext
      exact hnext
  | escape hescapes _ ih =>
      rw [split_quotes hq hcount (by simp [hq.symm])]
      rw [List.cons_append, List.cons_append, split_escape hescapes]
      have hnext := ih (.inl rfl)
      rw [List.replicate_zero, List.nil_append, List.nil_append] at hnext
      rw [hnext]
      rfl
  | other hne hescape _ ih =>
      rw [split_quotes hq hcount (by simp [hne]), List.cons_append, split_other hne hescape]
      have hnext := ih (.inl rfl)
      rw [List.replicate_zero, List.nil_append, List.nil_append] at hnext
      rw [hnext]
      rfl

end Style

/-! ## Escapes -/

namespace Printer

theorem isPlain_of_needsEscape {c : Char} (h : needsEscape c = false) (hline : c ≠ '\n') :
    isPlain c = true := by
  rw [isPlain, Bool.or_eq_true, decide_eq_true_eq]
  rcases Decidable.em (c = '\t') with htab | htab
  · exact .inl htab
  · obtain ⟨hlow, hdelete⟩ : 0x20 ≤ c.toNat ∧ c.toNat ≠ 0x7F := by
      simpa [needsEscape, htab, hline] using h
    exact .inr (by simp [hlow, hdelete])

theorem hexDigit?_toUpper : ∀ n < 16, hexDigit? (Nat.digitChar n).toUpper = some n := by decide

/-- A character that is escaped is named by one character, or by its number. -/
theorem escape?_cases {c : Char} {unit : List Char} (h : escape? c = some unit) :
    (∃ d, unit = ['\\', d] ∧ d ≠ 'u' ∧ d ≠ 'U' ∧ Style.simpleEscape? d = some c) ∨
      ∃ a b m n, unit = ['\\', 'u', '0', '0', a, b] ∧ hexDigit? a = some m ∧
        hexDigit? b = some n ∧ Style.charOfCode? (m * 16 + n) = some c := by
  unfold escape? at h
  split at h
  case h_6 =>
    split at h
    · rename_i hneeds
      have hlow : c.toNat < 128 := by
        simp only [needsEscape, Bool.or_eq_true, Bool.and_eq_true, decide_eq_true_eq] at hneeds
        omega
      cases h
      refine .inr ⟨_, _, c.toNat / 16, c.toNat % 16, rfl, hexDigit?_toUpper _ (by omega),
        hexDigit?_toUpper _ (by omega), ?_⟩
      rw [Nat.div_add_mod', Style.charOfCode?, if_pos (.inl (by omega)), Char.ofNat_toNat]
    · cases h
  all_goals
    cases h
    exact .inl ⟨_, rfl, by decide, by decide, rfl⟩

theorem ne_of_escape? {c : Char} (h : escape? c = none) : c ≠ '\\' ∧ needsEscape c = false := by
  constructor
  · rintro rfl
    cases h
  · unfold escape? at h
    split at h
    case h_6 =>
      split at h
      · cases h
      · simp_all
    all_goals cases h

end Printer

namespace Style

variable {s : Style} {cs rest : List Char} {count : Nat}

theorem decodeFrom_cons (s : Style) (state : State) (c : Char) (cs : List Char) :
    s.decodeFrom state (c :: cs) =
      (s.step state c).bind fun e => (s.decodeFrom e.2 cs).map (e.1 ++ ·) := by
  cases state <;> simp only [decodeFrom, Option.map_eq_bind] <;> rfl

/-- A character that adds itself. -/
theorem decodeFrom_plain {c : Char} (h : s.stepPlain c = some ([c], .plain)) (cs : List Char) :
    s.decodeFrom .plain (c :: cs) = (s.decodeFrom .plain cs).map (c :: ·) := by
  rw [decodeFrom_cons, step, h]
  rfl

theorem decodeFrom_escape (hs : s.hasEscapes = true) {c d : Char} (hu : d ≠ 'u') (hU : d ≠ 'U')
    (hd : simpleEscape? d = some c) (cs : List Char) :
    s.decodeFrom .plain ('\\' :: d :: cs) = (s.decodeFrom .plain cs).map (c :: ·) := by
  have hopen : s.step .plain '\\' = some ([], .escape) := by simp [step, stepPlain, hs]
  have hclose : s.step .escape d = some ([c], .plain) := by simp [step, stepEscape, hu, hU, hd]
  rw [decodeFrom_cons, hopen, Option.bind_some, decodeFrom_cons, hclose, Option.bind_some,
    Option.map_map]
  rfl

theorem decodeFrom_code (hs : s.hasEscapes = true) {a b c : Char} {m n : Nat}
    (ha : hexDigit? a = some m) (hb : hexDigit? b = some n)
    (hc : charOfCode? (m * 16 + n) = some c) (cs : List Char) :
    s.decodeFrom .plain (['\\', 'u', '0', '0', a, b] ++ cs) =
      (s.decodeFrom .plain cs).map (c :: ·) := by
  have hopen : s.step .plain '\\' = some ([], .escape) := by simp [step, stepPlain, hs]
  have hcode : s.step .escape 'u' = some ([], .code 3 0) := by simp [step, stepEscape]
  have hzero : ∀ left, s.step (.code (left + 1) 0) '0' = some ([], .code left 0) := fun _ => rfl
  have hfirst : s.step (.code 1 0) a = some ([], .code 0 m) := by simp [step, ha]
  have hsecond : s.step (.code 0 m) b = some ([c], .plain) := by simp [step, hb, hc]
  simp only [List.cons_append, List.nil_append, decodeFrom_cons, hopen, hcode, hzero, hfirst,
    hsecond, Option.bind_some, Option.map_map]
  rfl

/-! ## Spellings -/

/-- A style with double quotes and escapes, in one line or over several. -/
def double (isBlock : Bool) : Style := ⟨'"', true, isBlock⟩

theorem isOpen_escaped (isBlock : Bool) (count : Nat) (cs : List Char) :
    (double isBlock).IsOpen count (Printer.escaped isBlock count cs) := by
  induction cs generalizing count with
  | nil => exact .nil
  | cons c cs ih =>
      rw [Printer.escaped]
      split
      · rename_i hquote
        subst hquote
        split
        · rename_i hfew
          obtain ⟨hblock, hlt⟩ : isBlock = true ∧ count < 2 := by simpa using hfew
          exact .quote hblock hlt (ih _)
        · exact .escape rfl (ih 0)
      · rename_i hquote
        split
        · split
          · exact .other (by subst_vars; decide) (fun _ => by subst_vars; decide) (ih 0)
          · exact .escape rfl (ih 0)
        · cases hunit : Printer.escape? c with
          | none => exact .other hquote (fun _ => (Printer.ne_of_escape? hunit).1) (ih 0)
          | some unit =>
              rcases Printer.escape?_cases hunit with ⟨d, rfl, -⟩ | ⟨a, b, m, n, rfl, ha, hb, -⟩
              · exact .escape rfl (ih 0)
              · have hdigit : ∀ {x : Char} {k count : Nat} {cs : List Char}, hexDigit? x = some k →
                    (double isBlock).IsOpen 0 cs → (double isBlock).IsOpen count (x :: cs) := by
                  intro x k count cs hx hcs
                  refine .other ?_ (fun _ => ?_) hcs
                  · rintro rfl
                    cases hx
                  · rintro rfl
                    cases hx
                exact .escape rfl (hdigit rfl (hdigit rfl (hdigit ha (hdigit hb (ih 0)))))

theorem decodeFrom_escaped (isBlock : Bool) (count : Nat) (cs : List Char) :
    (double isBlock).decodeFrom .plain (Printer.escaped isBlock count cs) = some cs := by
  induction cs generalizing count with
  | nil => rfl
  | cons c cs ih =>
      rw [Printer.escaped]
      split
      · rename_i hquote
        subst hquote
        split
        · rw [decodeFrom_plain rfl, ih]
          rfl
        · rw [decodeFrom_escape rfl (by decide) (by decide) rfl, ih]
          rfl
      · split
        · rename_i hline
          subst hline
          split
          · rename_i hblock
            subst hblock
            rw [decodeFrom_plain rfl, ih]
            rfl
          · rw [decodeFrom_escape rfl (by decide) (by decide) rfl, ih]
            rfl
        · rename_i hline
          cases hunit : Printer.escape? c with
          | none =>
              obtain ⟨hescape, hneeds⟩ := Printer.ne_of_escape? hunit
              have hstep : (double isBlock).stepPlain c = some ([c], .plain) := by
                simp [stepPlain, hescape, Printer.isPlain_of_needsEscape hneeds hline]
              rw [Option.getD_none, List.singleton_append, decodeFrom_plain hstep, ih]
              rfl
          | some unit =>
              rcases Printer.escape?_cases hunit with
                ⟨d, rfl, hu, hU, hd⟩ | ⟨a, b, m, n, rfl, ha, hb, hc⟩
              · change (double isBlock).decodeFrom .plain
                  ('\\' :: d :: Printer.escaped isBlock 0 cs) = _
                rw [decodeFrom_escape rfl hu hU hd, ih]
                rfl
              · rw [Option.getD_some, decodeFrom_code rfl ha hb hc, ih]
                rfl

/-- A style with single quotes, in one line or over several. -/
def single (isBlock : Bool) : Style := ⟨'\'', false, isBlock⟩

theorem isOpen_of_not_mem (isBlock : Bool) {cs : List Char} (h : '\'' ∉ cs) (count : Nat) :
    (single isBlock).IsOpen count cs := by
  induction cs generalizing count with
  | nil => exact .nil
  | cons c cs ih =>
      rw [List.mem_cons, not_or] at h
      exact .other (Ne.symm h.1) nofun (ih h.2 0)

theorem isOpen_of_hasLongRun {cs : List Char} (h : Printer.hasLongRun '\'' count cs = false) :
    (single true).IsOpen count cs := by
  induction cs generalizing count with
  | nil => exact .nil
  | cons c cs ih =>
      rw [Printer.hasLongRun] at h
      split at h
      · rename_i hquote
        subst hquote
        obtain ⟨hfew, hrest⟩ : count < 2 ∧ Printer.hasLongRun '\'' (count + 1) cs = false := by
          simpa using h
        exact .quote rfl hfew (ih hrest)
      · rename_i hquote
        exact .other hquote nofun (ih h)

theorem decodeFrom_clean {isBlock : Bool} {cs : List Char}
    (hclean : ∀ c ∈ cs, Printer.needsEscape c = false) (hline : isBlock = true ∨ '\n' ∉ cs) :
    (single isBlock).decodeFrom .plain cs = some cs := by
  induction cs with
  | nil => rfl
  | cons c cs ih =>
      have hstep : (single isBlock).stepPlain c = some ([c], .plain) := by
        have hneeds := hclean c (by simp)
        rcases Decidable.em (c = '\n') with rfl | hne
        · have hblock : isBlock = true := hline.resolve_right fun hnot => hnot (by simp)
          subst hblock
          rfl
        · simp [stepPlain, single, Printer.isPlain_of_needsEscape hneeds hne]
      rw [decodeFrom_plain hstep, ih (fun d hd => hclean d (by simp [hd]))
        (hline.imp_right fun hnot hmem => hnot (by simp [hmem]))]
      rfl

/-- Characters that do not begin with the end of a line. -/
def BeginsInLine (cs : List Char) : Prop := cs.head? ≠ some '\n' ∧ cs.head? ≠ some '\r'

theorem beginsInLine_cons {c : Char} (hline : c ≠ '\n') (hneeds : Printer.needsEscape c = false)
    (cs : List Char) : BeginsInLine (c :: cs) := by
  constructor
  · simpa using hline
  · rw [List.head?_cons, ne_eq, Option.some.injEq]
    rintro rfl
    cases hneeds

theorem beginsInLine_escaped (isBlock : Bool) (count : Nat) {cs : List Char} (h : '\n' ∉ cs) :
    BeginsInLine (Printer.escaped isBlock count cs) := by
  cases cs with
  | nil => exact ⟨nofun, nofun⟩
  | cons c cs =>
      have hline : c ≠ '\n' := fun heq => h (heq ▸ List.mem_cons_self)
      rw [Printer.escaped, if_neg hline]
      split
      · rename_i hquote
        subst hquote
        split
        · exact beginsInLine_cons hline rfl _
        · exact beginsInLine_cons (by decide) rfl _
      · cases hunit : Printer.escape? c with
        | none => exact beginsInLine_cons hline (Printer.ne_of_escape? hunit).2 _
        | some unit =>
            rcases Printer.escape?_cases hunit with ⟨d, rfl, -⟩ | ⟨a, b, m, n, rfl, -⟩
            · exact beginsInLine_cons (by decide) rfl _
            · exact beginsInLine_cons (by decide) rfl _

/-- A style that can hold a text. -/
structure Holds (s : Style) (cs : List Char) : Prop where
  known : s = double s.isBlock ∨ s = single s.isBlock
  isOpen : s.IsOpen 0 (Printer.spelling s cs)
  decode : s.decode (Printer.spelling s cs) = some cs
  beginsInLine : '\n' ∉ cs → BeginsInLine (Printer.spelling s cs)

theorem holds_double (isBlock : Bool) (cs : List Char) : (double isBlock).Holds cs :=
  ⟨.inl rfl, isOpen_escaped isBlock 0 cs, decodeFrom_escaped isBlock 0 cs,
    beginsInLine_escaped isBlock 0⟩

theorem holds_single {isBlock : Bool} {cs : List Char} (hopen : (single isBlock).IsOpen 0 cs)
    (hclean : ∀ c ∈ cs, Printer.needsEscape c = false) (hline : isBlock = true ∨ '\n' ∉ cs) :
    (single isBlock).Holds cs := by
  refine ⟨.inr rfl, hopen, decodeFrom_clean hclean hline, ?_⟩
  intro hnot
  change BeginsInLine cs
  cases cs with
  | nil => exact ⟨nofun, nofun⟩
  | cons c cs =>
      exact beginsInLine_cons (fun heq => hnot (heq ▸ List.mem_cons_self)) (hclean c (by simp)) cs

/-- The style in which a text is written can hold it. -/
theorem holds_styleOf (cs : List Char) : (Printer.styleOf cs).Holds cs := by
  unfold Printer.styleOf
  simp only
  split
  · exact holds_double false cs
  · split
    · rename_i hliteral
      obtain ⟨⟨hclean, hline⟩, hquote⟩ :
          ((∀ c ∈ cs, Printer.needsEscape c = false) ∧ '\n' ∉ cs) ∧ '\'' ∉ cs := by
        simpa using hliteral
      exact holds_single (isOpen_of_not_mem false hquote 0) hclean (.inr hline)
    · split
      · exact holds_double true cs
      · split
        · rename_i hliteral
          obtain ⟨hclean, hrun⟩ : (∀ c ∈ cs, Printer.needsEscape c = false) ∧
              Printer.hasLongRun '\'' 0 cs = false := by simpa using hliteral
          exact holds_single (isOpen_of_hasLongRun hrun) hclean (.inl rfl)
        · split
          · exact holds_double false cs
          · exact holds_double true cs

theorem Holds.scan (h : s.Holds cs) (hrest : NoQuote rest) :
    s.scan (Printer.spelling s cs ++ (s.closing ++ rest)) = some (String.ofList cs, rest) := by
  have hquote : s.quote ≠ '\\' ∧ rest.head? ≠ some s.quote := by
    rcases h.known with hs | hs
    · rw [hs]
      exact ⟨by simp [double], hrest.1⟩
    · rw [hs]
      exact ⟨by simp [single], hrest.2⟩
  have hsplit := h.isOpen.split hquote.1 (.inl rfl) hquote.2
  rw [List.replicate_zero, List.nil_append, List.nil_append] at hsplit
  rw [Style.scan, hsplit]
  simp only [Option.bind_eq_bind, Option.bind_some, h.decode, Option.pure_def]

/-- A spelling in one line does not begin with a quote. -/
theorem IsOpen.head?_ne (h : s.IsOpen 0 cs) (hblock : s.isBlock = false) (hq : s.quote ≠ '\\') :
    cs.head? ≠ some s.quote := by
  cases h with
  | nil => simp
  | quote h' _ _ => simp [hblock] at h'
  | escape _ _ => simpa using hq.symm
  | other hne _ _ => simpa using hne

end Style

/-! ## Texts between quotes -/

open Style (double single BeginsInLine)

theorem scanText_double {cs : List Char} (h : ∀ r, cs ≠ '"' :: '"' :: r) :
    scanText ('"' :: cs) = Style.basic.scan cs := by
  unfold scanText
  split
  · rename_i heq
    cases heq
    exact absurd rfl (h _)
  · rename_i heq
    cases heq
  · rename_i heq
    cases heq
    rfl
  · rename_i heq
    cases heq
  · rename_i h₁ h₂ h₃ h₄
    exact absurd rfl (h₃ cs)

theorem scanText_single {cs : List Char} (h : ∀ r, cs ≠ '\'' :: '\'' :: r) :
    scanText ('\'' :: cs) = Style.literal.scan cs := by
  unfold scanText
  split
  · rename_i heq
    cases heq
  · rename_i heq
    cases heq
    exact absurd rfl (h _)
  · rename_i heq
    cases heq
  · rename_i heq
    cases heq
    rfl
  · rename_i h₁ h₂ h₃ h₄
    exact absurd rfl (h₄ cs)

theorem dropNewline_of_beginsInLine {cs : List Char} (h : BeginsInLine cs) :
    dropNewline cs = cs := by
  unfold dropNewline
  split
  · exact absurd rfl h.1
  · exact absurd rfl h.2
  · rfl

/-- Where two quotes do not follow each other at once, they do not open a block. -/
theorem ne_two_quotes {q : Char} {sp rest : List Char} (hsp : sp.head? ≠ some q)
    (hrest : rest.head? ≠ some q) (r : List Char) : sp ++ q :: rest ≠ q :: q :: r := by
  intro heq
  cases sp with
  | nil =>
      cases heq
      exact hrest rfl
  | cons c sp => exact hsp (congrArg some (List.cons.inj heq).1)

variable {s : Style} {cs rest : List Char}

/-- The end of the line after the quotes that open a block is dropped, and nothing else. -/
theorem dropNewline_start (h : s.Holds cs) (hblock : s.isBlock = true) (more : List Char) :
    dropNewline ((if s.isBlock && cs.contains '\n' then ['\n'] else []) ++
      (Printer.spelling s cs ++ (s.closing ++ more))) =
      Printer.spelling s cs ++ (s.closing ++ more) := by
  split
  · rfl
  · rename_i hline
    have hbegins := h.beginsInLine (by simpa [hblock] using hline)
    rw [List.nil_append]
    apply dropNewline_of_beginsInLine
    cases hsp : Printer.spelling s cs with
    | nil =>
        rcases h.known with hs | hs
        · rw [hs, hblock]
          constructor <;> simp [Style.closing, double, List.replicate]
        · rw [hs, hblock]
          constructor <;> simp [Style.closing, single, List.replicate]
    | cons c sp =>
        rw [hsp] at hbegins
        exact hbegins

/-- A text that has been written in a style that can hold it is read back. -/
theorem scanText_quotedIn (h : s.Holds cs) (hrest : NoQuote rest) :
    scanText (Printer.quotedIn s cs ++ rest) = some (String.ofList cs, rest) := by
  have hscan := h.scan hrest
  have hquoted : Printer.quotedIn s cs ++ rest = s.closing ++
      ((if s.isBlock && cs.contains '\n' then ['\n'] else []) ++
        (Printer.spelling s cs ++ (s.closing ++ rest))) := by
    rw [Printer.quotedIn, Style.closing]
    simp only [List.append_assoc]
  have hstart := dropNewline_start h
  have hhead := h.isOpen.head?_ne
  rw [hquoted]
  rcases h.known with hs | hs <;> generalize s.isBlock = isBlock at hs <;> subst hs
  · cases isBlock with
    | false => exact (scanText_double (ne_two_quotes (hhead rfl (by decide)) hrest.1)).trans hscan
    | true => exact (congrArg Style.basicBlock.scan (hstart rfl rest)).trans hscan
  · cases isBlock with
    | false => exact (scanText_single (ne_two_quotes (hhead rfl (by decide)) hrest.2)).trans hscan
    | true => exact (congrArg Style.literalBlock.scan (hstart rfl rest)).trans hscan

/-- A text that has been written is read back. -/
theorem scanText_text (t : String) (hrest : NoQuote rest) :
    scanText (Printer.text t ++ rest) = some (t, rest) := by
  rw [Printer.text, scanText_quotedIn (Style.holds_styleOf _) hrest, String.ofList_toList]

example :
    scanText (Printer.text "a\"\"\"\n'\t\\\x01" ++ [',']) =
      some ("a\"\"\"\n'\t\\\x01", [',']) := by
  decide +kernel

end StatusBoard.Toml
