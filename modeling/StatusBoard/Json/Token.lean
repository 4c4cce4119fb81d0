import StatusBoard.Text.Numeral

/-!
The tokens of a JSON document.

Every token but a number ends where it ends whatever follows, and a number ends at the first
character that cannot continue it, so the tokens of a document do not depend on the white space
between them.
-/

namespace StatusBoard.Json

open Text

/-- A token of a document. -/
inductive Token
  | openBrace
  | closeBrace
  | openBracket
  | closeBracket
  | comma
  | colon
  | null
  | bool (b : Bool)
  | number (lexeme : String)
  | text (t : Option String)
  deriving DecidableEq, Repr

namespace Token

def isSpace (c : Char) : Bool := c = ' ' || c = '\t' || c = '\n' || c = '\r'

def hex4? (a b c d : Char) : Option Nat :=
  match hexDigit? a, hexDigit? b, hexDigit? c, hexDigit? d with
  | some a, some b, some c, some d => some (((a * 16 + b) * 16 + c) * 16 + d)
  | _, _, _, _ => none

/-- A piece of a string: a character, or half of a surrogate pair. -/
inductive Piece
  | char (c : Char)
  | half (code : Nat)
  deriving DecidableEq, Repr

def pieceOfCode (n : Nat) : Piece :=
  if 0xD800 ≤ n ∧ n < 0xE000 then .half n else .char (Char.ofNat n)

/-- The character after a backslash, where that is a single one. -/
def simpleEscape? : Char → Option Char
  | '"' => some '"'
  | '\\' => some '\\'
  | '/' => some '/'
  | 'b' => some '\x08'
  | 'f' => some '\x0c'
  | 'n' => some '\n'
  | 'r' => some '\r'
  | 't' => some '\t'
  | _ => none

/-- Read a string up to its closing quote: its pieces, and what follows the quote. -/
def scanText : List Char → Option (List Piece × List Char)
  | [] => none
  | '"' :: rest => some ([], rest)
  | '\\' :: 'u' :: a :: b :: c :: d :: rest =>
      match hex4? a b c d, scanText rest with
      | some n, some (ps, r) => some (pieceOfCode n :: ps, r)
      | _, _ => none
  | '\\' :: e :: rest =>
      match simpleEscape? e, scanText rest with
      | some ch, some (ps, r) => some (.char ch :: ps, r)
      | _, _ => none
  | ch :: rest =>
      if ch = '\\' || ch.toNat < 0x20 then none
      else match scanText rest with
        | some (ps, r) => some (.char ch :: ps, r)
        | none => none

theorem length_of_scanText {cs : List Char} {ps : List Piece} {r : List Char}
    (h : scanText cs = some (ps, r)) : r.length < cs.length := by
  fun_induction scanText cs generalizing ps r <;> simp_all <;> grind

/-- The text of the pieces of a string, if every half finds its other half. -/
def assemble : List Piece → Option (List Char)
  | [] => some []
  | .char c :: rest => (assemble rest).map (c :: ·)
  | .half hi :: .half lo :: rest =>
      if hi < 0xDC00 ∧ 0xDC00 ≤ lo then
        (assemble rest).map
          (Char.ofNat (0x10000 + (hi - 0xD800) * 0x400 + (lo - 0xDC00)) :: ·)
      else none
  | .half _ :: _ => none

def scanDigits (cs : List Char) : Option (List Char × List Char) :=
  let digits := cs.takeWhile Char.isDigit
  if digits = [] then none else some (digits, cs.dropWhile Char.isDigit)

/-- Read an integer part, which has no zero in front of other digits. -/
def scanInteger : List Char → Option (List Char × List Char)
  | '0' :: rest => some (['0'], rest)
  | cs => scanDigits cs

def scanFraction : List Char → Option (List Char × List Char)
  | '.' :: rest => (scanDigits rest).map fun (ds, r) => ('.' :: ds, r)
  | cs => some ([], cs)

def scanExponent : List Char → Option (List Char × List Char)
  | e :: rest =>
      if e = 'e' || e = 'E' then
        let (sign, rest) := match rest with
          | '+' :: r => (['+'], r)
          | '-' :: r => (['-'], r)
          | r => ([], r)
        (scanDigits rest).map fun (ds, r) => (e :: sign ++ ds, r)
      else some ([], e :: rest)
  | [] => some ([], [])

def scanUnsigned (cs : List Char) : Option (List Char × List Char) := do
  let (whole, r) ← scanInteger cs
  let (fraction, r) ← scanFraction r
  let (exponent, r) ← scanExponent r
  return (whole ++ fraction ++ exponent, r)

def scanNumber : List Char → Option (List Char × List Char)
  | '-' :: rest => (scanUnsigned rest).map fun (ds, r) => ('-' :: ds, r)
  | cs => scanUnsigned cs

def scanToken (c : Char) (rest : List Char) : Option (Token × List Char) :=
  match c, rest with
  | '\x7b', r => some (.openBrace, r)
  | '\x7d', r => some (.closeBrace, r)
  | '[', r => some (.openBracket, r)
  | ']', r => some (.closeBracket, r)
  | ',', r => some (.comma, r)
  | ':', r => some (.colon, r)
  | 'n', 'u' :: 'l' :: 'l' :: r => some (.null, r)
  | 't', 'r' :: 'u' :: 'e' :: r => some (.bool true, r)
  | 'f', 'a' :: 'l' :: 's' :: 'e' :: r => some (.bool false, r)
  | '"', r => (scanText r).map fun (ps, r) => (.text ((assemble ps).map String.ofList), r)
  | c, r => (scanNumber (c :: r)).map fun (ds, r) => (.number (String.ofList ds), r)

theorem length_of_scanDigits {cs ds r : List Char} (h : scanDigits cs = some (ds, r)) :
    r.length < cs.length := by
  have hsplit := List.takeWhile_append_dropWhile (p := Char.isDigit) (l := cs)
  simp only [scanDigits] at h
  split at h
  · simp at h
  · rename_i hne
    obtain ⟨rfl, rfl⟩ := Prod.mk.injEq .. ▸ Option.some.inj h
    have hpos := List.length_pos_iff.2 hne
    have := congrArg List.length hsplit
    simp only [List.length_append] at this
    omega

theorem length_of_scanInteger {cs ds r : List Char} (h : scanInteger cs = some (ds, r)) :
    r.length < cs.length := by
  unfold scanInteger at h
  split at h
  · simp_all
  · exact length_of_scanDigits h

theorem length_of_scanFraction {cs ds r : List Char} (h : scanFraction cs = some (ds, r)) :
    r.length ≤ cs.length := by
  unfold scanFraction at h
  split at h
  · obtain ⟨⟨ds', r'⟩, h', heq⟩ := Option.map_eq_some_iff.1 h
    have := length_of_scanDigits h'
    simp only [Prod.mk.injEq] at heq
    simp only [List.length_cons, ← heq.2]
    omega
  · simp_all

theorem length_of_scanExponent {cs ds r : List Char} (h : scanExponent cs = some (ds, r)) :
    r.length ≤ cs.length := by
  unfold scanExponent at h
  split at h
  · rename_i e rest
    split at h
    · obtain ⟨⟨ds', r'⟩, h', heq⟩ := Option.map_eq_some_iff.1 h
      have := length_of_scanDigits h'
      simp only [Prod.mk.injEq] at heq
      simp only [List.length_cons, ← heq.2]
      split at this <;> simp_all <;> omega
    · simp_all
  · simp_all

theorem length_of_scanUnsigned {cs ds r : List Char} (h : scanUnsigned cs = some (ds, r)) :
    r.length < cs.length := by
  simp only [scanUnsigned, Option.bind_eq_bind, Option.bind_eq_some_iff, Option.pure_def,
    Option.some.injEq, Prod.mk.injEq] at h
  obtain ⟨⟨a, r1⟩, h1, ⟨b, r2⟩, h2, ⟨c, r3⟩, h3, -, rfl⟩ := h
  have h1 := length_of_scanInteger h1
  have h2 := length_of_scanFraction h2
  have h3 := length_of_scanExponent h3
  simp only at h1 h2 h3 ⊢
  omega

theorem length_of_scanNumber {cs ds r : List Char} (h : scanNumber cs = some (ds, r)) :
    r.length < cs.length := by
  unfold scanNumber at h
  split at h
  · obtain ⟨⟨ds', r'⟩, h', heq⟩ := Option.map_eq_some_iff.1 h
    have := length_of_scanUnsigned h'
    simp only [Prod.mk.injEq] at heq
    simp only [List.length_cons, ← heq.2]
    omega
  · exact length_of_scanUnsigned h

theorem length_of_scanToken {c : Char} {rest : List Char} {t : Token} {r : List Char}
    (h : scanToken c rest = some (t, r)) : r.length ≤ rest.length := by
  unfold scanToken at h
  split at h
  case h_10 =>
    obtain ⟨⟨ps, r'⟩, h', heq⟩ := Option.map_eq_some_iff.1 h
    have := length_of_scanText h'
    simp only [Prod.mk.injEq] at heq
    simp only [← heq.2]
    omega
  case h_11 =>
    obtain ⟨⟨ds, r'⟩, h', heq⟩ := Option.map_eq_some_iff.1 h
    have := length_of_scanNumber h'
    simp only [Prod.mk.injEq] at heq
    simp only [List.length_cons, heq.2] at this
    omega
  all_goals simp_all <;> omega

/-- The tokens of a document, if it consists of tokens and white space. -/
def scan (cs : List Char) : Option (List Token) :=
  match cs with
  | [] => some []
  | c :: rest =>
      if isSpace c then scan rest
      else
        match h : scanToken c rest with
        | none => none
        | some (t, r) =>
            have := length_of_scanToken h
            (scan r).map (t :: ·)
termination_by cs.length

end Token

end StatusBoard.Json
