import StatusBoard.Text.CharSet

/-!
White space and control characters, and the operations that only look at them: trimming, taking a
text apart into words, lines or fields.

`split` is the one way a text is taken apart here.  It never returns an empty list, and joining
its fields with the separators gives the text back.
-/

namespace StatusBoard.Text

def blanks : CharSet :=
  ⟨[(0x9, 0xD), (0x20, 0x20), (0x85, 0x85), (0xA0, 0xA0), (0x1680, 0x1680), (0x2000, 0x200A),
    (0x2028, 0x2029), (0x202F, 0x202F), (0x205F, 0x205F), (0x3000, 0x3000)]⟩

/-- White space in the sense of Unicode, the ASCII blanks included. -/
def isBlank (c : Char) : Bool := blanks.contains c

/-- Control characters: the C0 set, DEL and the C1 set. -/
def isControl (c : Char) : Bool := c.toNat < 0x20 || (0x7F ≤ c.toNat && c.toNat < 0xA0)

/-- Drop the longest suffix whose characters all satisfy `p`. -/
def dropEndWhile (p : Char → Bool) (cs : List Char) : List Char :=
  (cs.reverse.dropWhile p).reverse

def trimmed (cs : List Char) : List Char := dropEndWhile isBlank (cs.dropWhile isBlank)

def trimEnd (t : String) : String := String.ofList (dropEndWhile isBlank t.toList)

def trim (t : String) : String := String.ofList (trimmed t.toList)

/-- The fields between the characters that satisfy `p`; one more field than there are separators.
-/
def split (p : Char → Bool) (cs : List Char) : List (List Char) :=
  cs.foldr
    (fun c fields =>
      if p c then [] :: fields
      else match fields with
        | [] => [[c]]
        | field :: rest => (c :: field) :: rest)
    [[]]

@[simp] theorem split_nil (p : Char → Bool) : split p [] = [[]] := rfl

theorem split_cons_sep {p : Char → Bool} {c : Char} (h : p c = true) (cs : List Char) :
    split p (c :: cs) = [] :: split p cs := by
  simp [split, h]

theorem split_ne_nil (p : Char → Bool) (cs : List Char) : split p cs ≠ [] := by
  cases cs with
  | nil => simp [split]
  | cons c cs =>
      simp only [split, List.foldr_cons]
      split
      · simp
      · split <;> simp

theorem split_cons_other {p : Char → Bool} {c : Char} (h : p c = false) (cs : List Char) :
    ∃ field rest, split p cs = field :: rest ∧ split p (c :: cs) = (c :: field) :: rest := by
  cases hs : split p cs with
  | nil => exact absurd hs (split_ne_nil p cs)
  | cons field rest =>
      refine ⟨field, rest, rfl, ?_⟩
      have : split p (c :: cs) =
          match split p cs with
          | [] => [[c]]
          | field :: rest => (c :: field) :: rest := by
        simp [split, h]
      rw [this, hs]

theorem split_eq_singleton {p : Char → Bool} {cs : List Char} (h : ∀ ch ∈ cs, p ch = false) :
    split p cs = [cs] := by
  induction cs with
  | nil => rfl
  | cons ch cs ih =>
      obtain ⟨field, rest, hsplit, hcons⟩ := split_cons_other (h ch (by simp)) cs
      rw [ih fun c hc => h c (by simp [hc])] at hsplit
      rw [hcons]
      simp_all

theorem split_append_sep {p : Char → Bool} {cs : List Char} (h : ∀ ch ∈ cs, p ch = false)
    {sep : Char} (hsep : p sep = true) (rest : List Char) :
    split p (cs ++ sep :: rest) = cs :: split p rest := by
  induction cs with
  | nil => exact split_cons_sep hsep rest
  | cons ch cs ih =>
      obtain ⟨field, fields, hsplit, hcons⟩ := split_cons_other (h ch (by simp)) (cs ++ sep :: rest)
      rw [ih fun c hc => h c (by simp [hc])] at hsplit
      rw [List.cons_append, hcons]
      simp_all

/-- The non-empty runs of characters that are not white space. -/
def words (t : String) : List String :=
  ((split isBlank t.toList).filter (· ≠ [])).map String.ofList

/-- Drop one carriage return at the end, if there is one. -/
def dropReturn (cs : List Char) : List Char :=
  match cs.getLast? with
  | some '\r' => cs.dropLast
  | _ => cs

theorem mem_of_mem_dropReturn {cs : List Char} {ch : Char} (h : ch ∈ dropReturn cs) : ch ∈ cs := by
  unfold dropReturn at h
  split at h
  · exact (List.dropLast_subset _) h
  · exact h

theorem dropReturn_concat (cs : List Char) {ch : Char} (h : ch ≠ '\r') :
    dropReturn (cs ++ [ch]) = cs ++ [ch] := by
  unfold dropReturn
  rw [List.getLast?_concat]
  split
  · rename_i heq
    exact absurd (Option.some.inj heq) h
  · rfl

theorem dropReturn_cons_cons (a b : Char) (cs : List Char) :
    dropReturn (a :: b :: cs) = a :: dropReturn (b :: cs) := by
  unfold dropReturn
  rw [List.getLast?_cons_cons]
  split <;> rfl

/-- The lines of a text.  Each newline, with a carriage return right before it, ends a line; what
follows the last newline is a line of its own unless it is empty. -/
def lines (t : String) : List String :=
  let fields := split (· == '\n') t.toList
  let last := fields.getLastD []
  (fields.dropLast.map fun f => String.ofList (dropReturn f)) ++
    (if last = [] then [] else [String.ofList last])

end StatusBoard.Text
