import StatusBoard.Proofs.Json.Scanning

/-!
All the ways in which tokens may be written.

A character of a string may stand for itself or be escaped, and an escape may also be half of a
surrogate pair; a number has the form of the grammar; white space may stand before, between and
after the tokens.  Scanning finds the tokens behind all of them, and printing is one of the ways.
-/

namespace StatusBoard.Json

namespace Token

/-! ## Numbers -/

/-- One digit or more. -/
def AreDigits (ds : List Char) : Prop := ds ≠ [] ∧ ∀ c ∈ ds, c.isDigit = true

/-- An integer part: no zero stands in front of other digits. -/
def IsWhole (cs : List Char) : Prop := cs = ['0'] ∨ AreDigits cs ∧ cs.head? ≠ some '0'

def IsFraction (cs : List Char) : Prop := cs = [] ∨ ∃ ds, AreDigits ds ∧ cs = '.' :: ds

def IsExponent (cs : List Char) : Prop :=
  cs = [] ∨ ∃ e sign ds, (e = 'e' ∨ e = 'E') ∧ (sign = [] ∨ sign = ['+'] ∨ sign = ['-']) ∧
    AreDigits ds ∧ cs = e :: (sign ++ ds)

/-- A number by the grammar. -/
def IsNumberText (cs : List Char) : Prop :=
  ∃ sign whole fraction exponent, (sign = [] ∨ sign = ['-']) ∧ IsWhole whole ∧
    IsFraction fraction ∧ IsExponent exponent ∧ cs = sign ++ (whole ++ (fraction ++ exponent))

section

variable {cs ds r : List Char}

/-- The digits up to a character that is none. -/
theorem scanDigits_of_areDigits (h : AreDigits ds)
    (hr : ∀ c, r.head? = some c → c.isDigit = false) :
    scanDigits (ds ++ r) = some (ds, r) := by
  have hrest : r.takeWhile Char.isDigit = [] ∧ r.dropWhile Char.isDigit = r := by
    cases r with
    | nil => exact ⟨rfl, rfl⟩
    | cons c r =>
        have hc : ¬ c.isDigit = true := by simp [hr c rfl]
        exact ⟨List.takeWhile_cons_of_neg hc, List.dropWhile_cons_of_neg hc⟩
  rw [scanDigits, List.takeWhile_append_of_pos h.2, List.dropWhile_append_of_pos h.2, hrest.1,
    hrest.2, List.append_nil]
  exact if_neg h.1

theorem AreDigits.exists_cons (h : AreDigits ds) :
    ∃ c rest, ds = c :: rest ∧ c.isDigit = true := by
  obtain ⟨c, rest, rfl⟩ := List.exists_cons_of_ne_nil h.1
  exact ⟨c, rest, rfl, h.2 c List.mem_cons_self⟩

theorem IsExponent.head (h : IsExponent cs) {c : Char} (hc : cs.head? = some c) :
    c = 'e' ∨ c = 'E' := by
  rcases h with rfl | ⟨e, sign, ds, he, -, -, rfl⟩
  · cases hc
  · cases hc
    exact he

theorem scanExponent_of_isExponent (h : IsExponent cs) : scanExponent cs = some (cs, []) := by
  rcases h with rfl | ⟨e, sign, ds, he, hsign, hds, rfl⟩
  · rfl
  · have hscan := scanDigits_of_areDigits (r := []) hds nofun
    rw [List.append_nil] at hscan
    have he' : (e = 'e' || e = 'E') = true := by simpa using he
    obtain ⟨c, rest, rfl, hc⟩ := hds.exists_cons
    rcases hsign with rfl | rfl | rfl
    · have hne : ¬ (c = '+' ∨ c = '-') := by
        rintro (rfl | rfl)
        · exact absurd hc (by decide)
        · exact absurd hc (by decide)
      rw [List.nil_append, scanExponent_cons he', if_neg hne, hscan]
      rfl
    · rw [List.singleton_append, scanExponent_cons he', if_pos (.inl rfl), hscan]
      rfl
    · rw [List.singleton_append, scanExponent_cons he', if_pos (.inr rfl), hscan]
      rfl

theorem scanFraction_of_isFraction (h : IsFraction cs) (hr : IsExponent r) :
    scanFraction (cs ++ r) = some (cs, r) := by
  have hnot : ∀ c, r.head? = some c → c.isDigit = false ∧ c ≠ '.' := by
    intro c hc
    rcases hr.head hc with rfl | rfl
    · decide
    · decide
  rcases h with rfl | ⟨ds, hds, rfl⟩
  · rw [List.nil_append, scanFraction]
    rintro rest rfl
    exact (hnot '.' rfl).2 rfl
  · rw [List.cons_append, scanFraction, scanDigits_of_areDigits hds fun c hc => (hnot c hc).1]
    rfl

theorem scanInteger_of_isWhole (h : IsWhole cs)
    (hr : ∀ c, r.head? = some c → c.isDigit = false) :
    scanInteger (cs ++ r) = some (cs, r) := by
  rcases h with rfl | ⟨hds, hzero⟩
  · rfl
  · obtain ⟨c, rest, rfl, -⟩ := hds.exists_cons
    rw [List.cons_append, scanInteger]
    · exact scanDigits_of_areDigits hds hr
    · rintro rest' heq
      exact hzero (congrArg some (List.cons.inj heq).1)

/-- A number may go on behind its integer part, but not with a digit. -/
theorem head_of_isFraction (h : IsFraction cs) (hr : IsExponent r) {c : Char}
    (hc : (cs ++ r).head? = some c) : c.isDigit = false := by
  rcases h with rfl | ⟨ds, -, rfl⟩
  · rcases hr.head hc with rfl | rfl
    · rfl
    · rfl
  · cases hc
    rfl

theorem IsWhole.head_ne (h : IsWhole cs) : (cs ++ r).head? ≠ some '-' := by
  rcases h with rfl | ⟨hds, -⟩
  · exact nofun
  · obtain ⟨c, rest, rfl, hc⟩ := hds.exists_cons
    rintro heq
    cases heq
    exact absurd hc (by decide)

/-- What is a number by the grammar is read as one. -/
theorem IsNumberText.isNumeral (h : IsNumberText cs) : IsNumeral cs := by
  obtain ⟨sign, whole, fraction, exponent, hsign, hwhole, hfraction, hexponent, rfl⟩ := h
  have hunsigned : scanUnsigned (whole ++ (fraction ++ exponent)) =
      some (whole ++ (fraction ++ exponent), []) := by
    rw [scanUnsigned, scanInteger_of_isWhole hwhole fun c => head_of_isFraction hfraction hexponent]
    simp [scanFraction_of_isFraction hfraction hexponent, scanExponent_of_isExponent hexponent]
  rw [IsNumeral]
  rcases hsign with rfl | rfl
  · rw [List.nil_append, scanNumber, hunsigned]
    rintro rest heq
    exact hwhole.head_ne (congrArg List.head? heq)
  · rw [List.singleton_append, scanNumber, hunsigned]
    rfl

theorem areDigits_of_scanDigits (h : scanDigits cs = some (ds, r)) :
    AreDigits ds ∧ cs = ds ++ r := by
  rw [scanDigits] at h
  split at h
  · cases h
  · rename_i hne
    cases h
    exact ⟨⟨hne, fun _ => List.mem_takeWhile_imp⟩, List.takeWhile_append_dropWhile.symm⟩

theorem isWhole_of_scanInteger (h : scanInteger cs = some (ds, r)) : IsWhole ds ∧ cs = ds ++ r := by
  unfold scanInteger at h
  split at h
  · cases h
    exact ⟨.inl rfl, rfl⟩
  · rename_i hzero
    obtain ⟨hds, rfl⟩ := areDigits_of_scanDigits h
    refine ⟨.inr ⟨hds, ?_⟩, rfl⟩
    obtain ⟨c, rest, rfl, -⟩ := hds.exists_cons
    rintro heq
    cases heq
    exact hzero _ rfl

theorem isFraction_of_scanFraction (h : scanFraction cs = some (ds, r)) :
    IsFraction ds ∧ cs = ds ++ r := by
  unfold scanFraction at h
  split at h
  · obtain ⟨⟨ds', r'⟩, hdigits, heq⟩ := Option.map_eq_some_iff.mp h
    cases heq
    obtain ⟨hds, rfl⟩ := areDigits_of_scanDigits hdigits
    exact ⟨.inr ⟨_, hds, rfl⟩, rfl⟩
  · cases h
    exact ⟨.inl rfl, rfl⟩

theorem isExponent_of_scanExponent (h : scanExponent cs = some (ds, r)) :
    IsExponent ds ∧ cs = ds ++ r := by
  cases cs with
  | nil =>
      cases h
      exact ⟨.inl rfl, rfl⟩
  | cons e cs =>
      by_cases he : e = 'e' ∨ e = 'E'
      · have he' : (e = 'e' || e = 'E') = true := by simpa using he
        cases cs with
        | nil =>
            have hnone : scanExponent [e] = none := (if_pos he').trans rfl
            rw [hnone] at h
            cases h
        | cons c cs =>
            rw [scanExponent_cons he'] at h
            split at h
            · rename_i hsign
              obtain ⟨⟨ds', r'⟩, hdigits, heq⟩ := Option.map_eq_some_iff.mp h
              cases heq
              obtain ⟨hds, rfl⟩ := areDigits_of_scanDigits hdigits
              have hsign' : [c] = ['+'] ∨ [c] = ['-'] := by simpa using hsign
              exact ⟨.inr ⟨e, [c], _, he, .inr hsign', hds, rfl⟩, rfl⟩
            · obtain ⟨⟨ds', r'⟩, hdigits, heq⟩ := Option.map_eq_some_iff.mp h
              cases heq
              obtain ⟨hds, hsplit⟩ := areDigits_of_scanDigits hdigits
              exact ⟨.inr ⟨e, [], _, he, .inl rfl, hds, rfl⟩, congrArg (e :: ·) hsplit⟩
      · rw [scanExponent_other (not_or.mp he)] at h
        cases h
        exact ⟨.inl rfl, rfl⟩

theorem isNumberText_of_scanUnsigned {sign : List Char} (hsign : sign = [] ∨ sign = ['-'])
    (h : scanUnsigned cs = some (cs, [])) : IsNumberText (sign ++ cs) := by
  simp only [scanUnsigned, Option.bind_eq_bind, Option.bind_eq_some_iff, Option.pure_def,
    Option.some.injEq, Prod.mk.injEq] at h
  obtain ⟨⟨whole, r1⟩, h1, ⟨fraction, r2⟩, h2, ⟨exponent, r3⟩, h3, hcs, rfl⟩ := h
  refine ⟨sign, whole, fraction, exponent, hsign, (isWhole_of_scanInteger h1).1,
    (isFraction_of_scanFraction h2).1, (isExponent_of_scanExponent h3).1, ?_⟩
  rw [← hcs, List.append_assoc]

/-- The numbers that are read are those of the grammar. -/
theorem isNumberText_iff : IsNumberText cs ↔ IsNumeral cs := by
  refine ⟨IsNumberText.isNumeral, fun h => ?_⟩
  unfold IsNumeral scanNumber at h
  split at h
  · obtain ⟨⟨ds, r⟩, hunsigned, heq⟩ := Option.map_eq_some_iff.mp h
    cases heq
    exact isNumberText_of_scanUnsigned (.inr rfl) hunsigned
  · exact isNumberText_of_scanUnsigned (.inl rfl) h

end

/-! ## Strings -/

/-- What may be written between quotes for the pieces of a string. -/
inductive WritesPieces : List Piece → List Char → Prop
  | nil : WritesPieces [] []
  | plain {c : Char} {ps : List Piece} {cs : List Char} (hquote : c ≠ '"') (hback : c ≠ '\\')
      (hhigh : ¬ c.toNat < 0x20) (rest : WritesPieces ps cs) :
      WritesPieces (.char c :: ps) (c :: cs)
  | simple {e c : Char} {ps : List Piece} {cs : List Char} (he : simpleEscape? e = some c)
      (rest : WritesPieces ps cs) : WritesPieces (.char c :: ps) ('\\' :: e :: cs)
  | code {a b c d : Char} {n : Nat} {ps : List Piece} {cs : List Char}
      (hcode : hex4? a b c d = some n) (rest : WritesPieces ps cs) :
      WritesPieces (pieceOfCode n :: ps) ('\\' :: 'u' :: a :: b :: c :: d :: cs)

theorem WritesPieces.scan {ps : List Piece} {cs : List Char} (h : WritesPieces ps cs)
    (r : List Char) : scanText (cs ++ '"' :: r) = some (ps, r) := by
  induction h with
  | nil => rfl
  | plain hquote hback hhigh _ ih =>
      rw [List.cons_append, scanText_plain hquote hback hhigh, ih]
      rfl
  | @simple e _ _ _ he _ ih =>
      have hcode : e ≠ 'u' := by
        rintro rfl
        cases he
      rw [List.cons_append, List.cons_append, scanText_simple hcode he, ih]
      rfl
  | code hcode _ ih =>
      simp only [List.cons_append]
      rw [scanText, hcode, ih]

theorem WritesPieces.append {ps qs : List Piece} {cs ds : List Char} (h : WritesPieces ps cs)
    (h' : WritesPieces qs ds) : WritesPieces (ps ++ qs) (cs ++ ds) := by
  induction h with
  | nil => exact h'
  | plain hquote hback hhigh _ ih => exact .plain hquote hback hhigh ih
  | simple he _ ih => exact .simple he ih
  | code hcode _ ih => exact .code hcode ih

/-- A character that has been escaped is one that may be written. -/
theorem writesPieces_escapeChar (c : Char) : WritesPieces [.char c] (escapeChar c) := by
  unfold escapeChar
  split
  case h_8 hquote hback _ _ _ _ _ =>
    split
    · rename_i hlow
      have hcode := WritesPieces.code (hex4?_hexByte c.toNat hlow) .nil
      rwa [pieceOfCode_toNat hlow] at hcode
    · rename_i hhigh
      exact .plain hquote hback hhigh .nil
  all_goals exact .simple rfl .nil

theorem writesPieces_escaped (cs : List Char) :
    WritesPieces (cs.map .char) (cs.flatMap escapeChar) := by
  induction cs with
  | nil => exact .nil
  | cons c cs ih =>
      rw [List.flatMap_cons]
      exact (writesPieces_escapeChar c).append ih

/-! ## Documents -/

/-- Whether these characters may be written for a token. -/
def IsWrittenAs (cs : List Char) : Token → Prop
  | number n => n.toList = cs ∧ IsNumberText cs
  | text t => ∃ ps inner, WritesPieces ps inner ∧ (assemble ps).map String.ofList = t ∧
      cs = '"' :: (inner ++ ['"'])
  | t => t.chars = cs

/-- What may be written for some tokens, with white space around them. -/
inductive Writes : List Token → List Char → Prop
  | nil {spaces : List Char} (hspaces : ∀ c ∈ spaces, isSpace c = true) : Writes [] spaces
  | cons {spaces cs r : List Char} {t : Token} {ts : List Token}
      (hspaces : ∀ c ∈ spaces, isSpace c = true) (ht : t.IsWrittenAs cs) (rest : Writes ts r) :
      Writes (t :: ts) (spaces ++ (cs ++ r))

theorem IsWrittenAs.scan {t : Token} {cs : List Char} (h : t.IsWrittenAs cs) {r : List Char}
    (hr : t.EndsBefore r) : scan (cs ++ r) = (scan r).map (t :: ·) := by
  cases t with
  | number n =>
      obtain ⟨rfl, htext⟩ := h
      rw [scan_numeral htext.isNumeral hr, String.ofList_toList]
  | text t =>
      obtain ⟨ps, inner, hps, rfl, rfl⟩ := h
      rw [List.cons_append, List.append_assoc, List.singleton_append]
      refine scan_cons rfl ?_
      rw [scanToken_quote, hps.scan, Option.map_some]
  | bool b =>
      cases h
      cases b <;> exact scan_cons rfl rfl
  | _ =>
      cases h
      exact scan_cons rfl rfl

/-- What is written for other tokens than numbers ends a number that stands before it. -/
theorem IsWrittenAs.endsNumber {t : Token} {cs : List Char} (h : t.IsWrittenAs cs)
    (hother : t.isNumber = false) (r : List Char) : EndsNumber (cs ++ r) := by
  cases t with
  | number n => cases hother
  | text t =>
      obtain ⟨ps, inner, -, -, rfl⟩ := h
      exact endsNumber_cons (by decide) _
  | bool b =>
      cases h
      cases b <;> exact endsNumber_cons (by decide) _
  | _ =>
      cases h
      exact endsNumber_cons (by decide) _

/-- Reading finds the tokens, however they are written. -/
theorem Writes.scan {ts : List Token} {cs : List Char} (h : Writes ts cs) (hapart : AreApart ts) :
    scan cs = some ts := by
  induction h with
  | nil hspaces =>
      have hend := scan_spaces hspaces []
      rw [List.append_nil] at hend
      rw [hend, Token.scan]
  | @cons spaces cs r t ts hspaces ht hrest ih =>
      have hends : t.EndsBefore r := by
        cases t with
        | number n =>
            cases hrest with
            | nil hspaces' =>
                have hend := endsNumber_spaces (r := []) hspaces' fun _ hc => by cases hc
                rwa [List.append_nil] at hend
            | cons hspaces' ht' _ =>
                have hother := (List.isChain_cons_cons.mp hapart).1
                exact endsNumber_spaces hspaces' (ht'.endsNumber hother _)
        | _ => trivial
      rw [scan_spaces hspaces, ht.scan hends, ih hapart.tail]
      rfl

/-! ## Printing -/

/-- Printing is one of the ways. -/
theorem IsWritable.isWrittenAs {t : Token} (h : t.IsWritable) : t.IsWrittenAs t.chars := by
  cases t with
  | number n => exact ⟨rfl, isNumberText_iff.mpr h⟩
  | text t =>
      obtain ⟨t, rfl⟩ := Option.isSome_iff_exists.mp h
      refine ⟨_, _, writesPieces_escaped t.toList, ?_, rfl⟩
      rw [assemble_chars, Option.map_some, String.ofList_toList]
  | _ => rfl

theorem Writes.spaces_append {ts : List Token} {cs spaces : List Char} (h : Writes ts cs)
    (hspaces : ∀ c ∈ spaces, isSpace c = true) : Writes ts (spaces ++ cs) := by
  cases h with
  | nil hspaces' => exact .nil (List.forall_mem_append.mpr ⟨hspaces, hspaces'⟩)
  | cons hspaces' ht rest =>
      rw [← List.append_assoc]
      exact .cons (List.forall_mem_append.mpr ⟨hspaces, hspaces'⟩) ht rest

theorem writes_spread {ts : List (Token × List Char)}
    (hts : ∀ p ∈ ts, p.1.IsWritable ∧ ∀ c ∈ p.2, isSpace c = true) :
    Writes (ts.map Prod.fst) (spread ts) := by
  induction ts with
  | nil => exact .nil (List.forall_mem_nil _)
  | cons p rest ih =>
      obtain ⟨⟨hp, hspaces⟩, hrest⟩ := List.forall_mem_cons.mp hts
      have hsplit : spread (p :: rest) = [] ++ (p.1.chars ++ (p.2 ++ spread rest)) := by
        rw [spread, List.flatMap_cons, List.append_assoc, List.nil_append, ← spread]
      rw [hsplit]
      exact .cons (List.forall_mem_nil _) hp.isWrittenAs ((ih hrest).spaces_append hspaces)

/-- The same white space may stand after every token. -/
theorem writes_spaced {ts : List Token} (hts : ∀ t ∈ ts, t.IsWritable) {spaces : List Char}
    (hspaces : ∀ c ∈ spaces, isSpace c = true) : Writes ts (spread (ts.map (·, spaces))) := by
  have hfirst : (ts.map (·, spaces)).map Prod.fst = ts := by
    rw [List.map_map]
    exact List.map_id ts
  have hwrites := writes_spread fun p (hp : p ∈ ts.map (·, spaces)) => by
    obtain ⟨t, ht, rfl⟩ := List.mem_map.mp hp
    exact ⟨hts t ht, hspaces⟩
  rwa [hfirst] at hwrites

theorem writes_flatMap_chars {ts : List Token} (hts : ∀ t ∈ ts, t.IsWritable) :
    Writes ts (ts.flatMap chars) := by
  have hwrites := writes_spaced hts (List.forall_mem_nil _)
  rw [spread, List.flatMap_map] at hwrites
  simpa only [List.append_nil] using hwrites

end Token

end StatusBoard.Json
