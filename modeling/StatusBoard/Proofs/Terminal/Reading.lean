import StatusBoard.Proofs.Terminal.Display
import StatusBoard.Proofs.Text.Words

/-!
How a console reads commands.

Each command, once all of its characters have been read, does to the display what `exec` says; a
control command of which some characters are missing does nothing, and of a text the characters
that came are printed.  So bytes cut anywhere have the effect of a part of the commands.
-/

namespace StatusBoard.Terminal

open Text

namespace Console

theorem readAll_params (d : Display) (params : List Char) {cs : List Char}
    (hcs : ∀ ch ∈ cs, ch ≠ escapeChar ∧ isFinal ch = false) :
    readAll ⟨d, .sequence params⟩ cs = ⟨d, .sequence (params ++ cs)⟩ := by
  induction cs generalizing params with
  | nil => simp
  | cons ch cs ih =>
      obtain ⟨hesc, hfinal⟩ := hcs ch (by simp)
      rw [readAll_cons, read, if_neg hesc]
      simp only [hfinal, Bool.false_eq_true, if_false]
      rw [ih _ fun c hc => hcs c (by simp [hc])]
      simp

/-- A whole control sequence does what it says, whatever the console expected. -/
theorem readAll_controlSequence (k : Console) {params : List Char} {final : Char}
    (hparams : ∀ ch ∈ params, ch ≠ escapeChar ∧ isFinal ch = false)
    (hfinal : isFinal final = true) :
    k.readAll (Command.controlSequence (params ++ [final])) =
      ⟨k.display.control params final, .ground⟩ := by
  have hesc : final ≠ escapeChar := by
    rintro rfl
    exact absurd hfinal (by decide)
  rw [Command.controlSequence, readAll_cons, readAll_cons, readAll_append]
  have hstart : (k.read '\x1b').read '[' = ⟨k.display, .sequence []⟩ := by
    simp [read, escapeChar]
  rw [hstart, readAll_params _ _ hparams]
  simp [read, hesc, hfinal]

theorem display_readAll_cut (k : Console) {params part : List Char}
    (hparams : ∀ ch ∈ params, ch ≠ escapeChar ∧ isFinal ch = false)
    (hpart : part <+: Command.controlSequence params) :
    (k.readAll part).display = k.display := by
  cases part with
  | nil => rfl
  | cons a part =>
      rw [Command.controlSequence, List.cons_prefix_cons] at hpart
      obtain ⟨rfl, hpart⟩ := hpart
      cases part with
      | nil => simp [read, escapeChar]
      | cons b part =>
          rw [List.cons_prefix_cons] at hpart
          obtain ⟨rfl, hpart⟩ := hpart
          have hstart : (k.read '\x1b').read '[' = ⟨k.display, .sequence []⟩ := by
            simp [read, escapeChar]
          rw [readAll_cons, readAll_cons, hstart,
            readAll_params _ _ fun ch hch => hparams ch (hpart.subset hch)]

end Console

namespace Display

theorem number_decimal (n : Nat) : number (Command.decimal n) = n := Nat.ofDigitChars_ten_toDigits

theorem isDigit_of_mem_decimal {n : Nat} {ch : Char} (h : ch ∈ Command.decimal n) :
    ch.isDigit = true :=
  Nat.isDigit_of_mem_toDigits (by decide) (by decide) h

theorem plain_of_isDigit {ch : Char} (h : ch.isDigit = true) :
    (ch == ';') = false ∧ ch ≠ escapeChar ∧ isFinal ch = false := by
  rw [Char.isDigit, Bool.and_eq_true, decide_eq_true_eq, decide_eq_true_eq] at h
  refine ⟨?_, ?_, ?_⟩
  · rw [beq_eq_false_iff_ne]
    rintro rfl
    exact absurd h (by decide)
  · rintro rfl
    exact absurd h (by decide)
  · rw [isFinal, Bool.and_eq_false_iff, decide_eq_false_iff_not]
    left
    exact fun hle => absurd (UInt32.le_trans hle h.2) (by decide)

theorem plain_of_mem_decimal {n : Nat} {ch : Char} (h : ch ∈ Command.decimal n) :
    (ch == ';') = false ∧ ch ≠ escapeChar ∧ isFinal ch = false :=
  plain_of_isDigit (isDigit_of_mem_decimal h)

theorem plain_of_mem_numbers {ns : List Nat} {ch : Char} (h : ch ∈ Command.numbers ns) :
    ch ≠ escapeChar ∧ isFinal ch = false := by
  induction ns with
  | nil => cases h
  | cons n ns ih =>
      cases ns with
      | nil => exact (plain_of_mem_decimal (by simpa [Command.numbers] using h)).2
      | cons m ns =>
          rw [Command.numbers, List.map_cons, List.map_cons,
            List.intercalate_cons_cons, List.mem_append, List.mem_append] at h
          rcases h with (h | h) | h
          · exact (plain_of_mem_decimal h).2
          · rw [List.mem_singleton.mp h]
            decide
          · exact ih h

/-- The numbers of a control sequence are told apart by what stands between them. -/
theorem split_numbers {ns : List Nat} (h : ns ≠ []) :
    split (· == ';') (Command.numbers ns) = ns.map Command.decimal := by
  apply split_intercalate rfl
  · intro digits hdigits
    obtain ⟨n, -, rfl⟩ := List.mem_map.mp hdigits
    exact fun ch hch => (plain_of_mem_decimal hch).1
  · exact fun hnil => h (List.map_eq_nil_iff.mp hnil)

theorem byte_decimal (n : UInt8) : byte (Command.decimal n.toNat) = n := by
  rw [byte, number_decimal, UInt8.ofNat_toNat]

theorem control_moveTo (d : Display) (x y : Nat) :
    d.control (Command.numbers [y + 1, x + 1]) 'H' = d.exec (.moveTo x y) := by
  unfold control
  rw [split_numbers (List.cons_ne_nil _ _)]
  simp [exec, number_decimal]

theorem control_foreground (d : Display) (color : Color) :
    d.control (Command.numbers color.parameters) 'm' = d.exec (.foreground color) := by
  unfold control
  cases color with
  | standard => rfl
  | numbered n =>
      rw [Color.parameters, split_numbers (List.cons_ne_nil _ _)]
      change d.exec (.foreground (.numbered (byte (Command.decimal n.toNat)))) = _
      rw [byte_decimal]
  | mixed red green blue =>
      rw [Color.parameters, split_numbers (List.cons_ne_nil _ _)]
      change d.exec (.foreground (.mixed (byte (Command.decimal red.toNat))
        (byte (Command.decimal green.toNat)) (byte (Command.decimal blue.toNat)))) = _
      rw [byte_decimal, byte_decimal, byte_decimal]

end Display

namespace Command

/-- Whether a command is a control sequence, not text. -/
def isControl : Command → Bool
  | .print _ => false
  | _ => true

/-- A control command is a control sequence that does what the command says. -/
theorem exists_controlSequence {c : Command} (h : c.isControl = true) :
    ∃ params final, c.chars = controlSequence (params ++ [final]) ∧
      (∀ ch ∈ params, ch ≠ escapeChar ∧ isFinal ch = false) ∧ isFinal final = true ∧
      ∀ d : Display, d.control params final = d.exec c := by
  cases c with
  | hideCursor =>
      exact ⟨['?', '2', '5'], 'l', rfl, by simp [escapeChar, isFinal], by decide, fun _ => rfl⟩
  | showCursor =>
      exact ⟨['?', '2', '5'], 'h', rfl, by simp [escapeChar, isFinal], by decide, fun _ => rfl⟩
  | resetColor => exact ⟨['0'], 'm', rfl, by simp [escapeChar, isFinal], by decide, fun _ => rfl⟩
  | clear => exact ⟨['2'], 'J', rfl, by simp [escapeChar, isFinal], by decide, fun _ => rfl⟩
  | moveTo x y =>
      exact ⟨numbers [y + 1, x + 1], 'H', rfl, fun ch hch => Display.plain_of_mem_numbers hch,
        by decide, fun d => d.control_moveTo x y⟩
  | foreground color =>
      exact ⟨numbers color.parameters, 'm', rfl, fun ch hch => Display.plain_of_mem_numbers hch,
        by decide, fun d => d.control_foreground color⟩
  | print text => cases h

def IsPlain : Command → Prop
  | .print text => ∀ ch ∈ text, ch ≠ escapeChar
  | _ => True

/-- What is left of some commands when the rest of their characters is missing. -/
inductive IsPart : List Command → List Command → Prop
  | nil (cs : List Command) : IsPart [] cs
  | cons (c : Command) {ds cs : List Command} : IsPart ds cs → IsPart (c :: ds) (c :: cs)
  | print {part text : List Char} (cs : List Command) :
      part <+: text → IsPart [.print part] (.print text :: cs)

/-- What holds of each command, however its text is cut, holds of each command of a part. -/
theorem IsPart.forall {P : Command → Prop} {ds cs : List Command} (h : IsPart ds cs)
    (hcs : ∀ c ∈ cs, P c)
    (hcut : ∀ part text, part <+: text → P (.print text) → P (.print part)) : ∀ d ∈ ds, P d := by
  induction h with
  | nil cs => simp
  | @cons c ds cs _ ih =>
      intro d hd
      rcases List.mem_cons.mp hd with rfl | hd
      · exact hcs d (List.mem_cons_self ..)
      · exact ih (fun c' hc' => hcs c' (List.mem_cons_of_mem c hc')) d hd
  | @print part text cs hpart =>
      intro d hd
      rw [List.mem_singleton.mp hd]
      exact hcut part text hpart (hcs _ (List.mem_cons_self ..))

theorem encode_eq (cs : List Command) :
    encode cs = (cs.flatMap chars).flatMap String.utf8EncodeChar := by
  rw [encode, List.flatMap_assoc]
  rfl

@[simp] theorem encode_append (cs cs' : List Command) :
    encode (cs ++ cs') = encode cs ++ encode cs' := List.flatMap_append

end Command

namespace Console

open Command

/-- A control command does what it says, whatever the console expected. -/
theorem readAll_control (k : Console) {c : Command} (h : c.isControl = true) :
    k.readAll c.chars = ⟨k.display.exec c, .ground⟩ := by
  obtain ⟨params, final, hchars, hparams, hfinal, hcontrol⟩ := exists_controlSequence h
  rw [hchars, readAll_controlSequence k hparams hfinal, hcontrol]

theorem display_readAll_control_cut (k : Console) {c : Command} (h : c.isControl = true)
    {part : List Char} (hpart : part <+: c.chars) (hne : part ≠ c.chars) :
    (k.readAll part).display = k.display := by
  obtain ⟨params, final, hchars, hparams, -, -⟩ := exists_controlSequence h
  have hconcat : c.chars = controlSequence params ++ [final] := hchars
  rw [hconcat] at hpart hne
  rcases List.prefix_concat_iff.mp hpart with heq | hcut
  · exact absurd heq hne
  · exact display_readAll_cut k hparams hcut

theorem readAll_print (d : Display) {text : List Char} (h : ∀ ch ∈ text, ch ≠ escapeChar) :
    readAll ⟨d, .ground⟩ text = ⟨text.foldl Display.put d, .ground⟩ := by
  induction text generalizing d with
  | nil => rfl
  | cons ch text ih =>
      rw [readAll_cons, read, if_neg (h ch (by simp))]
      exact ih (d.put ch) fun c hc => h c (by simp [hc])

/-- Between two commands a console reads each command as a whole. -/
theorem readAll_chars (d : Display) {c : Command} (h : c.IsPlain) :
    readAll ⟨d, .ground⟩ c.chars = ⟨d.exec c, .ground⟩ := by
  cases c with
  | print text => exact readAll_print d h
  | _ => exact readAll_control ⟨d, .ground⟩ rfl

theorem readAll_commands (d : Display) {cs : List Command} (h : ∀ c ∈ cs, c.IsPlain) :
    readAll ⟨d, .ground⟩ (cs.flatMap Command.chars) = ⟨d.execAll cs, .ground⟩ := by
  induction cs generalizing d with
  | nil => rfl
  | cons c cs ih =>
      rw [List.flatMap_cons, readAll_append, readAll_chars d (h c (by simp)),
        ih _ fun c hc => h c (by simp [hc]), Display.execAll_cons]

theorem prefix_append_cases {α : Type} {part xs ys : List α} (h : part <+: xs ++ ys) :
    (part <+: xs ∧ part ≠ xs) ∨ ∃ rest, part = xs ++ rest ∧ rest <+: ys := by
  rcases List.prefix_or_prefix_of_prefix h (List.prefix_append xs ys) with hpart | ⟨rest, rfl⟩
  · by_cases heq : part = xs
    · exact .inr ⟨[], by simp [heq], List.nil_prefix⟩
    · exact .inl ⟨hpart, heq⟩
  · exact .inr ⟨rest, rfl, List.prefix_append_right_inj xs |>.mp h⟩

/-- Of commands that are cut, a console carries out a part. -/
theorem readAll_cut (d : Display) {cs : List Command} (h : ∀ c ∈ cs, c.IsPlain) {part : List Char}
    (hpart : part <+: cs.flatMap Command.chars) :
    ∃ ds, IsPart ds cs ∧ (readAll ⟨d, .ground⟩ part).display = d.execAll ds := by
  induction cs generalizing d part with
  | nil =>
      obtain rfl : part = [] := by simpa using hpart
      exact ⟨[], .nil [], rfl⟩
  | cons c cs ih =>
      rw [List.flatMap_cons] at hpart
      rcases prefix_append_cases hpart with ⟨hcut, hne⟩ | ⟨rest, rfl, hrest⟩
      · cases c with
        | print text =>
            refine ⟨[.print part], .print cs hcut, ?_⟩
            rw [readAll_print d fun ch hch => h (.print text) (by simp) ch (hcut.subset hch)]
            rfl
        | _ => exact ⟨[], .nil _, display_readAll_control_cut ⟨d, .ground⟩ rfl hcut hne⟩
      · obtain ⟨ds, hds, hdisplay⟩ :=
          ih (d.exec c) (fun c hc => h c (by simp [hc])) hrest
        refine ⟨c :: ds, .cons c hds, ?_⟩
        rw [readAll_append, readAll_chars d (h c (by simp)), hdisplay, Display.execAll_cons]

/-! ## Bytes -/

/-- The bytes of a control command start with an escape. -/
theorem exists_encode_eq {c : Command} (h : c.isControl = true) (cs : List Command) :
    ∃ bs, encode (c :: cs) = 0x1b :: bs := by
  obtain ⟨params, final, hchars, -, -, -⟩ := exists_controlSequence h
  let rest := ('[' :: (params ++ [final])) ++ cs.flatMap Command.chars
  refine ⟨rest.flatMap String.utf8EncodeChar, ?_⟩
  rw [encode_eq, List.flatMap_cons, hchars]
  rfl

/-- Whatever came before, bytes that start with a control command are read from their start. -/
theorem receive_append (k : Console) (bs : List UInt8) {c : Command} (h : c.isControl = true)
    {cs : List Command} {part : List UInt8} (hpart : part <+: encode (c :: cs)) :
    k.receive (bs ++ part) = (k.receive bs).receive part := by
  cases part with
  | nil => simp
  | cons b part =>
      obtain ⟨rest, hrest⟩ := exists_encode_eq h cs
      rw [hrest, List.cons_prefix_cons] at hpart
      obtain ⟨rfl, -⟩ := hpart
      rw [receive, Utf8.chars_append_escape, readAll_append]
      rfl

variable {c : Command} {cs : List Command}

/-- Commands that have been received as a whole are carried out. -/
theorem receive_encode (k : Console) (hc : c.isControl = true) (h : ∀ d ∈ cs, d.IsPlain) :
    k.receive (encode (c :: cs)) = ⟨k.display.execAll (c :: cs), .ground⟩ := by
  rw [receive, encode_eq, Utf8.chars_encode, List.flatMap_cons, readAll_append,
    readAll_control k hc, readAll_commands _ h, Display.execAll_cons]

/-- Commands that have been received in part are carried out in part. -/
theorem receive_cut (k : Console) (hc : c.isControl = true) (h : ∀ d ∈ cs, d.IsPlain)
    {part : List UInt8} (hpart : part <+: encode (c :: cs)) :
    ∃ ds, IsPart ds (c :: cs) ∧ (k.receive part).display = k.display.execAll ds := by
  rw [encode_eq] at hpart
  have hchars := Utf8.chars_prefix hpart
  rw [List.flatMap_cons] at hchars
  rcases prefix_append_cases hchars with ⟨hcut, hne⟩ | ⟨rest, heq, hrest⟩
  · exact ⟨[], .nil _, display_readAll_control_cut k hc hcut hne⟩
  · obtain ⟨ds, hds, hdisplay⟩ := readAll_cut (k.display.exec c) h hrest
    refine ⟨c :: ds, .cons c hds, ?_⟩
    rw [receive, heq, readAll_append, readAll_control k hc, hdisplay, Display.execAll_cons]

end Console

end StatusBoard.Terminal
