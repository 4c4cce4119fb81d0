import StatusBoard.Text.Numeral
import StatusBoard.Toml.Space

/-!
Reading the four kinds of strings of a TOML document.

Between quotes, or between triple quotes, stands the spelling of a text.  `Style.split` finds
where it ends; `Style.decode` reads it one character at a time, with what the characters before
ask for as its state.
-/

namespace StatusBoard.Toml

open StatusBoard.Text

/-- How a text is written: between which quotes, with escapes or without, in one line or over
several. -/
structure Style where
  quote : Char
  hasEscapes : Bool
  isBlock : Bool
  deriving DecidableEq, Repr

namespace Style

def basic : Style := ⟨'"', true, false⟩
def literal : Style := ⟨'\'', false, false⟩
def basicBlock : Style := ⟨'"', true, true⟩
def literalBlock : Style := ⟨'\'', false, true⟩

def closesBlock (quote : Char) (cs : List Char) : Bool := [quote, quote, quote].isPrefixOf cs

/-- Find the end of a spelling: the spelling itself, and what follows the quotes that close it.  A
quote after a backslash closes nothing.  In a block up to two quotes right before the closing ones
belong to the spelling. -/
def split (s : Style) : List Char → Option (List Char × List Char)
  | [] => none
  | c :: rest =>
      if s.hasEscapes && c = '\\' then
        match rest with
        | [] => none
        | d :: rest => (split s rest).map fun (spelling, r) => (c :: d :: spelling, r)
      else if s.isBlock && closesBlock s.quote (c :: rest) then
        let r := rest.drop 2
        let extra := min 2 (r.takeWhile (· = s.quote)).length
        some (List.replicate extra s.quote, r.drop extra)
      else if !s.isBlock && c = s.quote then some ([], rest)
      else (split s rest).map fun (spelling, r) => (c :: spelling, r)

theorem length_of_split {s : Style} {cs spelling r : List Char}
    (h : s.split cs = some (spelling, r)) : r.length < cs.length := by
  fun_induction split s cs generalizing spelling r <;> simp_all <;> grind

/-- What the characters read so far ask for. -/
inductive State
  /-- Nothing in particular. -/
  | plain
  /-- The newline of a carriage return that was read. -/
  | newline
  /-- The character after a backslash. -/
  | escape
  /-- `left + 1` more digits of a code point. -/
  | code (left value : Nat)
  /-- The end of a line, after a backslash and blanks. -/
  | foldEnd
  /-- The newline of a carriage return that ends a folded line. -/
  | foldNewline
  /-- Blanks and ends of lines, which do not count here. -/
  | folded
  deriving DecidableEq, Repr

/-- The character after a backslash, where that is a single one. -/
def simpleEscape? : Char → Option Char
  | '"' => some '"'
  | '\\' => some '\\'
  | 'b' => some '\x08'
  | 'f' => some '\x0c'
  | 'n' => some '\n'
  | 'r' => some '\r'
  | 't' => some '\t'
  | _ => none

/-- The character with a code point; surrogates have none. -/
def charOfCode? (n : Nat) : Option Char :=
  if n < 0xD800 ∨ (0xE000 ≤ n ∧ n < 0x110000) then some (Char.ofNat n) else none

/-- Read a character that nothing before it affects: what it adds to the text, and what it asks
for. -/
def stepPlain (s : Style) (c : Char) : Option (List Char × State) :=
  if s.hasEscapes && c = '\\' then some ([], .escape)
  else if isPlain c then some ([c], .plain)
  else if s.isBlock && c = '\n' then some (['\n'], .plain)
  else if s.isBlock && c = '\r' then some ([], .newline)
  else none

def stepFold (c : Char) : Option State :=
  if c = '\n' then some .folded else if c = '\r' then some .foldNewline else none

def stepEscape (s : Style) (c : Char) : Option (List Char × State) :=
  if c = 'u' then some ([], .code 3 0)
  else if c = 'U' then some ([], .code 7 0)
  else match simpleEscape? c with
    | some d => some ([d], .plain)
    | none =>
        if !s.isBlock then none
        else if isSpace c then some ([], .foldEnd)
        else (stepFold c).map ([], ·)

def step (s : Style) : State → Char → Option (List Char × State)
  | .plain, c => stepPlain s c
  | .newline, c => if c = '\n' then some (['\n'], .plain) else none
  | .escape, c => stepEscape s c
  | .code left value, c => do
      let value := value * 16 + (← hexDigit? c)
      match left with
      | 0 => return ([← charOfCode? value], .plain)
      | left + 1 => return ([], .code left value)
  | .foldEnd, c => if isSpace c then some ([], .foldEnd) else (stepFold c).map ([], ·)
  | .foldNewline, c => if c = '\n' then some ([], .folded) else none
  | .folded, c =>
      if isSpace c then some ([], .folded)
      else match stepFold c with
        | some state => some ([], state)
        | none => stepPlain s c

def decodeFrom (s : Style) : State → List Char → Option (List Char)
  | .plain, [] | .folded, [] => some []
  | _, [] => none
  | state, c :: rest => do
      let (text, state) ← s.step state c
      let more ← decodeFrom s state rest
      return text ++ more

def decode (s : Style) (spelling : List Char) : Option (List Char) := s.decodeFrom .plain spelling

/-- Read a string after its opening quotes: its text, and what follows its closing quotes. -/
def scan (s : Style) (cs : List Char) : Option (String × List Char) := do
  let (spelling, r) ← s.split cs
  let text ← s.decode spelling
  return (String.ofList text, r)

theorem length_of_scan {s : Style} {cs r : List Char} {t : String}
    (h : s.scan cs = some (t, r)) : r.length < cs.length := by
  simp only [scan, Option.bind_eq_bind, Option.bind_eq_some_iff, Option.pure_def,
    Option.some.injEq, Prod.mk.injEq] at h
  obtain ⟨⟨spelling, r'⟩, hsplit, _, _, -, rfl⟩ := h
  exact length_of_split hsplit

end Style

/-- Drop the end of a line right after the quotes that open a block. -/
def dropNewline : List Char → List Char
  | '\n' :: rest => rest
  | '\r' :: '\n' :: rest => rest
  | cs => cs

theorem length_dropNewline (cs : List Char) : (dropNewline cs).length ≤ cs.length := by
  unfold dropNewline
  split <;> simp
  omega

def scanText : List Char → Option (String × List Char)
  | '"' :: '"' :: '"' :: rest => Style.basicBlock.scan (dropNewline rest)
  | '\'' :: '\'' :: '\'' :: rest => Style.literalBlock.scan (dropNewline rest)
  | '"' :: rest => Style.basic.scan rest
  | '\'' :: rest => Style.literal.scan rest
  | _ => none

theorem length_of_scanText {cs r : List Char} {t : String} (h : scanText cs = some (t, r)) :
    r.length < cs.length := by
  unfold scanText at h
  split at h
  case h_1 rest | h_2 rest =>
    have := Style.length_of_scan h
    have := length_dropNewline rest
    simp only [List.length_cons]
    omega
  case h_3 | h_4 =>
    have := Style.length_of_scan h
    simp only [List.length_cons]
    omega
  case h_5 => simp at h

/-- Read a string that stands in one line, as a key has to. -/
def scanLineText : List Char → Option (String × List Char)
  | '"' :: rest => Style.basic.scan rest
  | '\'' :: rest => Style.literal.scan rest
  | _ => none

theorem length_of_scanLineText {cs r : List Char} {t : String}
    (h : scanLineText cs = some (t, r)) : r.length < cs.length := by
  unfold scanLineText at h
  split at h
  case h_1 | h_2 =>
    have := Style.length_of_scan h
    simp only [List.length_cons]
    omega
  case h_3 => simp at h

end StatusBoard.Toml
