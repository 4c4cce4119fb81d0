import StatusBoard.Frame.Facts
import StatusBoard.Proofs.Composing
import StatusBoard.Proofs.Terminal.Repaint
import StatusBoard.Proofs.Text.Words

/-!
No text drives the console.

A character that takes no column is never put on a canvas, and control characters take none.  The
only ones that a draw sends are therefore part of the sequences that it queues itself.
-/

namespace StatusBoard

open Text

namespace Text

def isControlByte (b : UInt8) : Bool := b < 0x20 || b = 0x7F

theorem not_isControl_of_columns {ch : Char} (h : 0 < columns ch) : isControl ch = false := by
  cases hcontrol : isControl ch with
  | false => rfl
  | true =>
      rw [columns, charWidth_eq_none_iff.mpr hcontrol] at h
      cases h

theorem isControlByte_eq_false {b : UInt8} (h : 0x20 ≤ b.toNat) (h' : b.toNat ≠ 0x7F) :
    isControlByte b = false := by
  have hlow : ¬ b < 0x20 := by
    rw [UInt8.lt_iff_toNat_lt]
    exact Nat.not_lt.mpr h
  have hdelete : b ≠ 0x7F := fun hb => h' (congrArg UInt8.toNat hb)
  simp [isControlByte, hlow, hdelete]

theorem not_isControlByte_of_mem {c : Char} (h : isControl c = false) :
    ∀ b ∈ String.utf8EncodeChar c, isControlByte b = false := by
  have hhigh : ∀ b : UInt8, 0x80 ≤ b.toNat → isControlByte b = false :=
    fun b hb => isControlByte_eq_false (by omega) (by omega)
  rcases Utf8.encodeChar_cases c with ⟨hone, hlow⟩ | ⟨first, rest, hmany, hfirst, hrest⟩
  · rw [isControl, Bool.or_eq_false_iff, Bool.and_eq_false_iff] at h
    simp only [decide_eq_false_iff_not] at h
    have htoNat : (UInt8.ofNat c.toNat).toNat = c.toNat := Utf8.toNat_ofNat (by omega)
    rw [hone]
    rintro _ (_ | ⟨_, ⟨⟩⟩)
    exact isControlByte_eq_false (by omega) (by omega)
  · rw [hmany]
    rintro _ (_ | ⟨_, hb⟩)
    · exact hhigh first hfirst
    · exact hhigh _ (hrest _ hb).1

end Text

/-! ## Canvases -/

namespace Canvas

theorem AllCells.of_mem_row {q : Char → Prop} {c : Canvas} (h : c.AllCells q) {y : Nat} {k : Cell}
    (hk : k ∈ c.row y) (hmark : k.isContinuation = false) : q k.ch := by
  obtain ⟨x, hx⟩ := exists_cell?_of_mem_row hk
  exact h x y k hx hmark

/-- Every character on the canvas takes a column. -/
def IsVisible (c : Canvas) : Prop := c.AllCells (0 < columns ·)

theorem isVisible_compose {w : Nat} (hw : w < maxCoord) (h : Nat) (frame : Frame) (log : Log.Body)
    (pages : Pages) : (compose frame log pages w h).IsVisible := by
  have hdraws : Draws (fun _ => True) (blank w h) (compose frame log pages w h) :=
    draws_compose hw h (fun _ _ => trivial) fun _ _ _ => trivial
  have hspace : 0 < columns ' ' := by decide
  refine hdraws.allCells ?_ hspace fun _ _ hcolumns => hcolumns
  intro x y k hk _
  obtain ⟨hx, hy⟩ := lt_of_cell? hk
  rw [width_blank] at hx
  rw [height_blank] at hy
  rw [cell?_blank hx hy, Option.some.injEq] at hk
  rw [← hk]
  exact hspace

theorem newline_not_mem_rowText {c : Canvas} (h : c.IsVisible) (y : Nat) :
    ∀ ch ∈ (c.rowText y).toList, (ch == '\n') = false := by
  intro ch hch
  rw [rowText, trimEnd, String.toList_ofList, String.toList_ofList, dropEndWhile,
    List.mem_reverse] at hch
  have hmem := List.mem_reverse.mp ((List.dropWhile_sublist _).subset hch)
  obtain ⟨k, hk, rfl⟩ := List.mem_map.mp hmem
  rw [List.mem_filter, Bool.not_eq_true'] at hk
  have hcontrol := not_isControl_of_columns (h.of_mem_row hk.1 hk.2)
  rw [beq_eq_false_iff_ne]
  intro hnewline
  rw [hnewline] at hcontrol
  cases hcontrol

/-- The lines of a canvas as text are its rows. -/
theorem split_toText {c : Canvas} (h : c.IsVisible) (hheight : 0 < c.height) :
    split (· == '\n') c.toText.toList =
      (List.range c.height).map fun y => (c.rowText y).toList := by
  rw [toText, String.toList_intercalate, List.map_map]
  apply split_intercalate rfl
  · intro row hrow
    obtain ⟨y, -, rfl⟩ := List.mem_map.mp hrow
    exact newline_not_mem_rowText h y
  · intro hnil
    rw [List.map_eq_nil_iff, List.range_eq_nil] at hnil
    omega

end Canvas

/-! ## Commands -/

namespace Terminal

namespace Command

/-- The sequences that a draw queues. -/
def IsSteering : Command → Prop
  | resetColor | clear | moveTo .. | foreground _ => True
  | _ => False

/-- Whatever satisfies `p` in the part that is sent of some commands belongs to one of their
sequences. -/
def SteeringOnly {α : Type} (f : Command → List α) (p : α → Bool) (cs : List Command)
    (sent : List α) : Prop :=
  ∀ front a, front ++ [a] <+: sent → p a = true →
    ∃ before c after part, cs = before ++ c :: after ∧ c.IsSteering ∧
      front = before.flatMap f ++ part ∧ part ++ [a] <+: f c

theorem steeringOnly_of_forall {α : Type} {f : Command → List α} {p : α → Bool}
    {cs : List Command} (h : ∀ c ∈ cs, c.IsSteering ∨ ∀ a ∈ f c, p a = false) {sent : List α}
    (hsent : sent <+: cs.flatMap f) : SteeringOnly f p cs sent := by
  intro front a hfront ha
  -- of the part that is sent only the prefix up to `a` matters
  replace hfront := hfront.trans hsent
  clear hsent
  induction cs generalizing front with
  | nil => simp at hfront
  | cons c cs ih =>
      have hfirst : front ++ [a] <+: f c →
          ∃ before d after part, c :: cs = before ++ d :: after ∧ d.IsSteering ∧
            front = before.flatMap f ++ part ∧ part ++ [a] <+: f d := by
        intro hpart
        rcases h c List.mem_cons_self with hsteering | hfree
        · exact ⟨[], c, cs, front, rfl, hsteering, rfl, hpart⟩
        · rw [hfree a (hpart.subset (List.mem_append_right _ List.mem_cons_self))] at ha
          cases ha
      rw [List.flatMap_cons] at hfront
      rcases Console.prefix_append_cases hfront with ⟨hpart, -⟩ | ⟨rest, hrest, hprefix⟩
      · exact hfirst hpart
      · rcases List.eq_nil_or_concat rest with rfl | ⟨rest, b, rfl⟩
        · rw [List.append_nil] at hrest
          exact hfirst (hrest ▸ List.prefix_rfl)
        · rw [List.concat_eq_append, ← List.append_assoc] at hrest
          obtain ⟨rfl, hb⟩ := List.append_inj' hrest rfl
          obtain rfl : a = b := List.singleton_inj.mp hb
          rw [List.concat_eq_append] at hprefix
          obtain ⟨before, d, after, part, rfl, hd, rfl, hpart⟩ :=
            ih (fun c' hc' => h c' (List.mem_cons_of_mem c hc')) rest hprefix
          refine ⟨c :: before, d, after, part, rfl, hd, ?_, hpart⟩
          rw [List.flatMap_cons, List.append_assoc]

end Command

theorem isSteering_or_print {s : Screen} {c : Canvas} (hc : c.IsVisible) {cmd : Command}
    (h : cmd ∈ s.drawCommands c) :
    cmd.IsSteering ∨ ∃ text, cmd = .print text ∧ ∀ ch ∈ text, isControl ch = false := by
  rw [Screen.drawCommands_eq, List.mem_append, List.mem_append, List.mem_flatMap,
    List.mem_singleton] at h
  rcases h with h | ⟨y, -, h⟩ | rfl
  · left
    rw [Screen.opening] at h
    split at h
    · rcases List.mem_cons.mp h with rfl | h
      · trivial
      · rw [List.mem_singleton.mp h]
        trivial
    · cases h
  · rcases Screen.mem_rowCommands h with rfl | ⟨-, color, rfl⟩ | ⟨text, rfl, htext⟩
    · exact .inl trivial
    · exact .inl trivial
    · refine .inr ⟨text, rfl, ?_⟩
      intro ch hch
      obtain ⟨k, hk, hmark, rfl⟩ := htext ch hch
      exact not_isControl_of_columns (hc.of_mem_row hk hmark)
  · exact .inl trivial

/-- Of the bytes and of the characters that a draw sends, those that could control the console
are its own. -/
theorem steeringOnly_draw {c : Canvas} (hc : c.IsVisible) (s : Screen) (out : Stream) :
    ∃ sent, (s.draw c out).2.1.taken = out.taken ++ sent ∧
      sent <+: Command.encode (s.drawCommands c) ∧
      Command.SteeringOnly Command.bytes isControlByte (s.drawCommands c) sent ∧
      Command.SteeringOnly Command.chars isControl (s.drawCommands c) (Utf8.chars sent) := by
  have hchars : ∀ cmd ∈ s.drawCommands c,
      cmd.IsSteering ∨ ∀ ch ∈ cmd.chars, isControl ch = false := by
    intro cmd hcmd
    rcases isSteering_or_print hc hcmd with hsteering | ⟨text, rfl, htext⟩
    · exact .inl hsteering
    · exact .inr htext
  have hbytes : ∀ cmd ∈ s.drawCommands c,
      cmd.IsSteering ∨ ∀ b ∈ cmd.bytes, isControlByte b = false := by
    intro cmd hcmd
    rcases hchars cmd hcmd with hsteering | hfree
    · exact .inl hsteering
    · right
      intro b hb
      obtain ⟨ch, hch, hmem⟩ := List.mem_flatMap.mp hb
      exact not_isControlByte_of_mem (hfree ch hch) b hmem
  obtain ⟨sent, hsent, htaken⟩ : ∃ sent, sent <+: Command.encode (s.drawCommands c) ∧
      (s.draw c out).2.1.taken = out.taken ++ sent := by
    rcases Attachment.draw_cases ⟨s, out⟩ c with ⟨-, -, htaken⟩ | ⟨n, -, -, -, htaken⟩
    · exact ⟨_, List.prefix_rfl, htaken⟩
    · exact ⟨_, List.take_prefix n _, htaken⟩
  refine ⟨sent, htaken, hsent, Command.steeringOnly_of_forall hbytes hsent, ?_⟩
  apply Command.steeringOnly_of_forall hchars
  rw [Command.encode_eq] at hsent
  exact Utf8.chars_prefix hsent

end Terminal

/-- Whatever the texts on the board, none of them reaches the console but as visible characters. -/
theorem no_text_drives_console {w : Nat} (hw : w < maxCoord) (h : Nat) (frame : Frame)
    (log : Log.Body) (pages : Pages) :
    let c := compose frame log pages w h
    c.width = w ∧ c.height = h ∧
      (∀ x y k, c.cell? x y = some k →
        k.isContinuation = true ∨ isControl k.ch = false ∧ 0 < columns k.ch) ∧
      (∀ (s : Terminal.Screen) (out : Stream),
        ∃ sent, (s.draw c out).2.1.taken = out.taken ++ sent ∧
          sent <+: Terminal.Command.encode (s.drawCommands c) ∧
          Terminal.Command.SteeringOnly Terminal.Command.bytes isControlByte (s.drawCommands c)
            sent ∧
          Terminal.Command.SteeringOnly Terminal.Command.chars isControl (s.drawCommands c)
            (Utf8.chars sent)) ∧
      (0 < h → split (· == '\n') c.toText.toList =
        (List.range h).map fun y => (c.rowText y).toList) ∧
      (h = 0 → c.toText = "") := by
  intro c
  have hvisible : c.IsVisible := Canvas.isVisible_compose hw h frame log pages
  have hdraws : Canvas.Draws (fun _ => True) (Canvas.blank w h) c :=
    draws_compose hw h (fun _ _ => trivial) fun _ _ _ => trivial
  have hheight : c.height = h := hdraws.height_eq
  refine ⟨hdraws.width_eq, hheight, ?_, ?_, ?_, ?_⟩
  · intro x y k hk
    cases hmark : k.isContinuation with
    | true => exact .inl rfl
    | false =>
        have hcolumns := hvisible x y k hk hmark
        exact .inr ⟨not_isControl_of_columns hcolumns, hcolumns⟩
  · exact Terminal.steeringOnly_draw hvisible
  · intro hpos
    rw [← hheight] at hpos ⊢
    exact Canvas.split_toText hvisible hpos
  · intro hzero
    rw [Canvas.toText, hheight, hzero]
    rfl

/-- Facts that try to drive the console. -/
def hostileFacts : Frame.Facts := ⟨"\x1b[2J", "[\x1bc]", 0, ["\u009b2J"], ["\x7f 1\x07"]⟩

def hostileRecord : Log.Record := ⟨.error, "\x1b[1;1H\x08\u009b2J"⟩

def hostileModal : Modal := ⟨"\x1b]0;\x07", "a\x1bb\u0085", 0, 0⟩

theorem no_hostile_text_drives_console :
    let c := compose (Frame.empty.rebuild hostileFacts 20) ((Log.Body.empty 3).append hostileRecord)
      (Pages.base.addOrReplace Pages.modalName (.modal hostileModal)) 20 9
    (∀ x y k, c.cell? x y = some k →
      k.isContinuation = true ∨ isControl k.ch = false ∧ 0 < columns k.ch) ∧
    (∃ sent, ((Terminal.Screen.fresh ⟨20, 9⟩ .standard).draw c .endless).2.1.taken = [] ++ sent ∧
      Terminal.Command.SteeringOnly Terminal.Command.bytes isControlByte
        ((Terminal.Screen.fresh ⟨20, 9⟩ .standard).drawCommands c) sent) ∧
    (split (· == '\n') c.toText.toList).length = 9 := by
  intro c
  obtain ⟨-, -, hcells, hdraw, hrows, -⟩ := no_text_drives_console (show 20 < maxCoord by decide) 9
    (Frame.empty.rebuild hostileFacts 20) ((Log.Body.empty 3).append hostileRecord)
    (Pages.base.addOrReplace Pages.modalName (.modal hostileModal))
  obtain ⟨sent, htaken, -, hbytes, -⟩ := hdraw (.fresh ⟨20, 9⟩ .standard) .endless
  refine ⟨hcells, ⟨sent, htaken, hbytes⟩, ?_⟩
  rw [hrows (by decide), List.length_map, List.length_range]

end StatusBoard
