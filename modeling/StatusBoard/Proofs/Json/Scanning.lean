import StatusBoard.Json.Printer
import StatusBoard.Json.Token
import StatusBoard.Proofs.Text.Digits
import Mathlib.Data.List.Chain
import Mathlib.Data.List.TakeWhile

/-!
The tokens of a document are found again when their characters are read.

A string ends at its first quote that no backslash stands before, so what stands in it cannot be
taken for what stands around it.  Only a number goes on as long as it can; after it there must be a
character that does not continue it.
-/

namespace StatusBoard.Json

open Text

namespace Token

/-! ## Strings -/

theorem hex4?_hexByte :
    ∀ n < 0x20, hex4? '0' '0' (Nat.digitChar (n / 16)) (Nat.digitChar (n % 16)) = some n := by
  decide

theorem pieceOfCode_toNat {c : Char} (h : c.toNat < 0x20) : pieceOfCode c.toNat = .char c := by
  rw [pieceOfCode, if_neg (by omega), Char.ofNat_toNat]

theorem scanText_plain {c : Char} (hquote : c ≠ '"') (hback : c ≠ '\\') (hhigh : ¬ c.toNat < 0x20)
    (rest : List Char) :
    scanText (c :: rest) = (scanText rest).map fun p => (.char c :: p.1, p.2) := by
  rw [scanText, if_neg (by simp [hback, hhigh])]
  · cases scanText rest <;> rfl
  · exact hquote
  · exact fun _ _ _ _ _ heq => absurd heq hback
  · exact fun _ _ heq => absurd heq hback

theorem scanText_simple {e c : Char} (hcode : e ≠ 'u') (he : simpleEscape? e = some c)
    (rest : List Char) :
    scanText ('\\' :: e :: rest) = (scanText rest).map fun p => (.char c :: p.1, p.2) := by
  rw [scanText, he]
  · cases scanText rest <;> rfl
  · exact fun _ _ _ _ _ heq => absurd heq hcode

theorem assemble_chars (cs : List Char) : assemble (cs.map .char) = some cs := by
  induction cs with
  | nil => rfl
  | cons c cs ih =>
      rw [List.map_cons, assemble, ih]
      rfl

/-! ## Numbers -/

/-- No character that could continue a number. -/
def EndsNumber (r : List Char) : Prop :=
  ∀ c, r.head? = some c → c.isDigit = false ∧ c ≠ '.' ∧ c ≠ 'e' ∧ c ≠ 'E'

section

variable {cs ds rest r : List Char}

/-- The digits at the start of a text are those of what stands before the end of a number. -/
theorem EndsNumber.digits_append (hr : EndsNumber r) (cs : List Char) :
    (cs ++ r).takeWhile Char.isDigit = cs.takeWhile Char.isDigit ∧
      (cs ++ r).dropWhile Char.isDigit = cs.dropWhile Char.isDigit ++ r := by
  induction cs with
  | nil =>
      cases r with
      | nil => exact ⟨rfl, rfl⟩
      | cons c r =>
          have hc : ¬ c.isDigit = true := by simp [(hr c rfl).1]
          exact ⟨List.takeWhile_cons_of_neg hc, List.dropWhile_cons_of_neg hc⟩
  | cons c cs ih =>
      rw [List.cons_append, List.takeWhile_cons, List.takeWhile_cons, List.dropWhile_cons,
        List.dropWhile_cons, ih.1, ih.2]
      split
      · exact ⟨rfl, rfl⟩
      · exact ⟨rfl, rfl⟩

theorem scanDigits_append (h : scanDigits cs = some (ds, rest)) (hr : EndsNumber r) :
    scanDigits (cs ++ r) = some (ds, rest ++ r) := by
  simp only [scanDigits, hr.digits_append cs] at h ⊢
  split at h
  · cases h
  · rename_i hne
    cases h
    rw [if_neg hne]

theorem scanInteger_append (h : scanInteger cs = some (ds, rest)) (hr : EndsNumber r) :
    scanInteger (cs ++ r) = some (ds, rest ++ r) := by
  cases cs with
  | nil => cases h
  | cons c cs =>
      by_cases hzero : c = '0'
      · subst hzero
        cases h
        rfl
      · have hother : ∀ tail, scanInteger (c :: tail) = scanDigits (c :: tail) := fun tail => by
          rw [scanInteger]
          exact fun _ heq => hzero (List.cons.inj heq).1
        rw [hother] at h
        rw [List.cons_append, hother]
        exact scanDigits_append h hr

theorem scanFraction_append (h : scanFraction cs = some (ds, rest)) (hr : EndsNumber r) :
    scanFraction (cs ++ r) = some (ds, rest ++ r) := by
  have hother : ∀ tail : List Char, tail.head? ≠ some '.' → scanFraction tail = some ([], tail) :=
    fun tail hhead => by
      rw [scanFraction]
      rintro _ rfl
      exact hhead rfl
  cases cs with
  | nil =>
      cases h
      exact hother r fun heq => (hr '.' heq).2.1 rfl
  | cons c cs =>
      by_cases hpoint : c = '.'
      · subst hpoint
        obtain ⟨⟨ds', rest'⟩, hdigits, heq⟩ := Option.map_eq_some_iff.mp h
        cases heq
        rw [List.cons_append, scanFraction, scanDigits_append hdigits hr]
        rfl
      · have hhead : some c ≠ some '.' := fun heq => hpoint (Option.some.inj heq)
        rw [hother (c :: cs) hhead] at h
        cases h
        exact hother (c :: cs ++ r) hhead

theorem scanExponent_other {c : Char} (hc : c ≠ 'e' ∧ c ≠ 'E') (cs : List Char) :
    scanExponent (c :: cs) = some ([], c :: cs) := by
  unfold scanExponent
  exact if_neg (by simp [hc.1, hc.2])

/-- The digits of an exponent come after its sign, if it has one. -/
theorem scanExponent_cons {e : Char} (he : (e = 'e' || e = 'E') = true) (c : Char) (cs : List Char) :
    scanExponent (e :: c :: cs) =
      if c = '+' ∨ c = '-' then (scanDigits cs).map fun p => (e :: c :: p.1, p.2)
      else (scanDigits (c :: cs)).map fun p => (e :: p.1, p.2) := by
  refine (if_pos he).trans ?_
  split
  · rename_i hcons
    cases hcons
    rfl
  · rename_i hcons
    cases hcons
    rfl
  · rename_i hplus hminus
    have hsign : ¬ (c = '+' ∨ c = '-') := by
      rintro (rfl | rfl)
      · exact hplus _ rfl
      · exact hminus _ rfl
    rw [if_neg hsign]
    rfl

theorem scanExponent_append (h : scanExponent cs = some (ds, rest)) (hr : EndsNumber r) :
    scanExponent (cs ++ r) = some (ds, rest ++ r) := by
  cases cs with
  | nil =>
      cases h
      cases r with
      | nil => rfl
      | cons c r => exact scanExponent_other (hr c rfl).2.2 r
  | cons e cs =>
      by_cases he : (e = 'e' || e = 'E') = true
      · cases cs with
        | nil =>
            have hnone : scanExponent [e] = none := (if_pos he).trans rfl
            rw [hnone] at h
            cases h
        | cons c cs =>
            rw [scanExponent_cons he] at h
            rw [List.cons_append, List.cons_append, scanExponent_cons he]
            split at h
            · rename_i hsign
              obtain ⟨⟨ds', rest'⟩, hdigits, heq⟩ := Option.map_eq_some_iff.mp h
              cases heq
              rw [if_pos hsign, scanDigits_append hdigits hr]
              rfl
            · rename_i hsign
              obtain ⟨⟨ds', rest'⟩, hdigits, heq⟩ := Option.map_eq_some_iff.mp h
              cases heq
              rw [if_neg hsign, ← List.cons_append, scanDigits_append hdigits hr]
              rfl
      · have hother : e ≠ 'e' ∧ e ≠ 'E' := by simpa using he
        rw [scanExponent_other hother] at h
        cases h
        exact scanExponent_other hother (cs ++ r)

theorem scanUnsigned_append (h : scanUnsigned cs = some (ds, rest)) (hr : EndsNumber r) :
    scanUnsigned (cs ++ r) = some (ds, rest ++ r) := by
  simp only [scanUnsigned, Option.bind_eq_bind, Option.bind_eq_some_iff, Option.pure_def,
    Option.some.injEq, Prod.mk.injEq] at h ⊢
  obtain ⟨⟨whole, r1⟩, h1, ⟨fraction, r2⟩, h2, ⟨exponent, r3⟩, h3, rfl, rfl⟩ := h
  exact ⟨_, scanInteger_append h1 hr, _, scanFraction_append h2 hr, _, scanExponent_append h3 hr,
    rfl, rfl⟩

/-- A number is read up to what ends it. -/
theorem scanNumber_append (h : scanNumber cs = some (ds, rest)) (hr : EndsNumber r) :
    scanNumber (cs ++ r) = some (ds, rest ++ r) := by
  cases cs with
  | nil => cases h
  | cons c cs =>
      by_cases hminus : c = '-'
      · subst hminus
        obtain ⟨⟨ds', rest'⟩, hdigits, heq⟩ := Option.map_eq_some_iff.mp h
        cases heq
        rw [List.cons_append, scanNumber, scanUnsigned_append hdigits hr]
        rfl
      · have hother : ∀ tail, scanNumber (c :: tail) = scanUnsigned (c :: tail) := fun tail => by
          rw [scanNumber]
          exact fun _ heq => hminus (List.cons.inj heq).1
        rw [hother] at h
        rw [List.cons_append, hother]
        exact scanUnsigned_append h hr

end

/-- Characters that are a number, all of them. -/
def IsNumeral (cs : List Char) : Prop := scanNumber cs = some (cs, [])

theorem scanNumber_digits {c : Char} (hzero : c ≠ '0') (hminus : c ≠ '-') (cs : List Char) :
    scanNumber (c :: cs) = scanUnsigned (c :: cs) ∧ scanInteger (c :: cs) = scanDigits (c :: cs) := by
  rw [scanNumber, scanInteger]
  · exact ⟨rfl, rfl⟩
  · exact fun _ heq => hzero (List.cons.inj heq).1
  · exact fun _ heq => hminus (List.cons.inj heq).1

theorem isNumeral_toDigits (n : Nat) : IsNumeral (Nat.toDigits 10 n) := by
  rcases Nat.eq_zero_or_pos n with rfl | hpos
  · rfl
  · have hdigits : ∀ c ∈ Nat.toDigits 10 n, c.isDigit = true := fun c hc =>
      Nat.isDigit_of_mem_toDigits (by decide) (by decide) hc
    obtain ⟨c, cs, heq⟩ := List.exists_cons_of_ne_nil (Nat.toDigits_ne_nil (n := n) (b := 10))
    have hhead := head?_toDigits hpos
    rw [heq] at hdigits hhead ⊢
    have hzero : c ≠ '0' := fun h => hhead (congrArg some h)
    have hminus : c ≠ '-' := by
      rintro rfl
      exact absurd (hdigits '-' List.mem_cons_self) (by decide)
    have htake : (c :: cs).takeWhile Char.isDigit = c :: cs :=
      List.takeWhile_eq_self_iff.mpr hdigits
    have hdrop : (c :: cs).dropWhile Char.isDigit = [] := List.dropWhile_eq_nil_iff.mpr hdigits
    have hscan : scanDigits (c :: cs) = some (c :: cs, []) := by
      simp only [scanDigits, htake, hdrop]
      rfl
    obtain ⟨hnumber, hinteger⟩ := scanNumber_digits hzero hminus cs
    rw [IsNumeral, hnumber, scanUnsigned, hinteger, hscan]
    simp [scanFraction, scanExponent]

/-! ## Tokens -/

/-- The characters of a token. -/
def chars : Token → List Char
  | openBrace => ['\x7b']
  | closeBrace => ['\x7d']
  | openBracket => ['[']
  | closeBracket => [']']
  | comma => [',']
  | colon => [':']
  | null => "null".toList
  | bool true => "true".toList
  | bool false => "false".toList
  | number n => n.toList
  | text t => optionalText t

/-- Whether the characters of a token are those of this token and no other. -/
def IsWritable : Token → Prop
  | number n => IsNumeral n.toList
  | text t => t.isSome = true
  | _ => True

/-- Whether a token ends where its last character is, with these characters after it. -/
def EndsBefore (r : List Char) : Token → Prop
  | number _ => EndsNumber r
  | _ => True

theorem head_of_isNumeral {c : Char} {cs : List Char} (h : IsNumeral (c :: cs)) :
    c = '-' ∨ c.isDigit = true := by
  by_cases hminus : c = '-'
  · exact .inl hminus
  · refine .inr ?_
    by_cases hzero : c = '0'
    · rw [hzero]
      rfl
    · obtain ⟨hnumber, hinteger⟩ := scanNumber_digits hzero hminus cs
      by_contra hdigit
      have hnone : scanDigits (c :: cs) = none := by
        simp only [scanDigits, List.takeWhile_cons_of_neg hdigit]
        rfl
      rw [IsNumeral, hnumber, scanUnsigned, hinteger, hnone] at h
      cases h

theorem scanToken_numeral {c : Char} {cs : List Char} (h : IsNumeral (c :: cs)) (rest : List Char) :
    scanToken c rest = (scanNumber (c :: rest)).map fun p => (.number (String.ofList p.1), p.2) := by
  have hhead := head_of_isNumeral h
  unfold scanToken
  split
  case h_11 => rfl
  all_goals exact absurd hhead (by decide)

theorem scanToken_quote (rest : List Char) :
    scanToken '"' rest =
      (scanText rest).map fun p => (.text ((assemble p.1).map String.ofList), p.2) := rfl

theorem isSpace_of_isDigit {c : Char} (h : c.isDigit = true) : isSpace c = false := by
  by_contra hspace
  rw [Bool.not_eq_false, isSpace] at hspace
  simp only [Bool.or_eq_true, decide_eq_true_eq] at hspace
  rcases hspace with ((rfl | rfl) | rfl) | rfl
  all_goals exact absurd h (by decide)

theorem scan_space {c : Char} (h : isSpace c = true) (cs : List Char) : scan (c :: cs) = scan cs := by
  rw [scan, if_pos h]

theorem scan_cons {c : Char} {cs r : List Char} {t : Token} (hspace : isSpace c = false)
    (h : scanToken c cs = some (t, r)) : scan (c :: cs) = (scan r).map (t :: ·) := by
  rw [scan, if_neg (by simp [hspace])]
  split
  · rename_i hnone
    rw [h] at hnone
    cases hnone
  · rename_i hsome
    rw [h] at hsome
    cases hsome
    rfl

/-- A number is read up to what ends it, as one token. -/
theorem scan_numeral {cs : List Char} (h : IsNumeral cs) {r : List Char} (hr : EndsNumber r) :
    scan (cs ++ r) = (scan r).map (.number (String.ofList cs) :: ·) := by
  cases cs with
  | nil => cases h
  | cons c cs =>
      have hspace : isSpace c = false := by
        rcases head_of_isNumeral h with rfl | hdigit
        · rfl
        · exact isSpace_of_isDigit hdigit
      rw [List.cons_append]
      refine scan_cons hspace ?_
      rw [scanToken_numeral h, ← List.cons_append, scanNumber_append h hr, List.nil_append,
        Option.map_some]

/-! ## Documents -/

theorem scan_spaces {spaces : List Char} (h : ∀ c ∈ spaces, isSpace c = true) (cs : List Char) :
    scan (spaces ++ cs) = scan cs := by
  induction spaces with
  | nil => rfl
  | cons c spaces ih =>
      rw [List.cons_append, scan_space (h c List.mem_cons_self),
        ih fun c hc => h c (List.mem_cons_of_mem _ hc)]

/-- Whether a token is a number. -/
def isNumber : Token → Bool
  | number _ => true
  | _ => false

/-- Tokens of which no two numbers stand side by side. -/
def AreApart (ts : List Token) : Prop := ts.IsChain fun a b => (a.isNumber && b.isNumber) = false

/-- The characters of tokens that have white space after them. -/
def spread (ts : List (Token × List Char)) : List Char := ts.flatMap fun p => p.1.chars ++ p.2

theorem endsNumber_cons {c : Char} (h : c.isDigit = false ∧ c ≠ '.' ∧ c ≠ 'e' ∧ c ≠ 'E')
    (r : List Char) : EndsNumber (c :: r) := by
  rintro _ ⟨⟩
  exact h

theorem endsNumber_spaces {spaces r : List Char} (h : ∀ c ∈ spaces, isSpace c = true)
    (hr : EndsNumber r) : EndsNumber (spaces ++ r) := by
  cases spaces with
  | nil => exact hr
  | cons c spaces =>
      have hc := h c List.mem_cons_self
      rw [isSpace] at hc
      simp only [Bool.or_eq_true, decide_eq_true_eq] at hc
      rcases hc with ((rfl | rfl) | rfl) | rfl
      all_goals exact endsNumber_cons (by decide) _

end Token

end StatusBoard.Json
