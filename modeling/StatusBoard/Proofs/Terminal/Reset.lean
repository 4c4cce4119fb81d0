import StatusBoard.Proofs.Terminal.Repaint

/-!
What is left of a display after a full repaint.

A full repaint starts by resetting the color and clearing every cell, and each row starts by moving
the cursor.  So nothing that was done to a console before can be seen afterwards, but for what no
command of the repaint sets: whether the cursor is shown and, if there are no rows, where it is.
-/

namespace StatusBoard.Terminal

/-- Whether a command leaves the cursor as visible as it was. -/
def Command.KeepsCursor : Command → Prop
  | .hideCursor | .showCursor => False
  | _ => True

namespace Display

/-- The same display with the cursor shown or hidden. -/
def withCursor (d : Display) (b : Bool) : Display := { d with isCursorShown := b }

theorem foldl_put_withCursor (d : Display) (b : Bool) (text : List Char) :
    text.foldl put (d.withCursor b) = (text.foldl put d).withCursor b := by
  induction text generalizing d with
  | nil => rfl
  | cons ch text ih => exact ih (d.put ch)

theorem exec_withCursor {c : Command} (hc : c.KeepsCursor) (d : Display) (b : Bool) :
    (d.withCursor b).exec c = (d.exec c).withCursor b := by
  cases c with
  | hideCursor => exact hc.elim
  | showCursor => exact hc.elim
  | print text => exact foldl_put_withCursor d b text
  | _ => rfl

/-- Commands that do not set whether the cursor is shown do not depend on it either. -/
theorem execAll_withCursor {cs : List Command} (hcs : ∀ c ∈ cs, c.KeepsCursor) (d : Display)
    (b : Bool) : (d.withCursor b).execAll cs = (d.execAll cs).withCursor b := by
  induction cs generalizing d with
  | nil => rfl
  | cons c cs ih =>
      rw [execAll_cons, execAll_cons, exec_withCursor (hcs c (List.mem_cons_self ..))]
      exact ih (fun c' hc' => hcs c' (List.mem_cons_of_mem c hc')) (d.exec c)

theorem isCursorShown_execAll {cs : List Command} (hcs : ∀ c ∈ cs, c.KeepsCursor) (d : Display) :
    (d.execAll cs).isCursorShown = d.isCursorShown := by
  have h : d.execAll cs = (d.execAll cs).withCursor d.isCursorShown :=
    execAll_withCursor hcs d d.isCursorShown
  rw [h]
  rfl

/-- A display of which everything but the cursor has been reset. -/
def wiped (d : Display) : Display := { initial with x := d.x, y := d.y }

theorem execAll_wipe (d : Display) :
    d.execAll [.resetColor, .clear] = d.wiped.withCursor d.isCursorShown := rfl

theorem exec_moveTo_wiped (d : Display) (x y : Nat) :
    d.wiped.exec (.moveTo x y) = initial.exec (.moveTo x y) := rfl

end Display

namespace Screen

theorem base_invalidate (s : Screen) (c : Canvas) : s.invalidate.base c = none := rfl

theorem keepsCursor_of_mem_allRows {theme : Theme} {c : Canvas} {cmd : Command}
    (h : cmd ∈ allRows theme c) : cmd.KeepsCursor := by
  rw [allRows, List.mem_append, List.mem_flatMap, List.mem_singleton] at h
  rcases h with ⟨y, -, h⟩ | rfl
  · rcases mem_rowCommands h with rfl | ⟨-, color, rfl⟩ | ⟨text, rfl, -⟩
    · trivial
    · trivial
    · trivial
  · trivial

end Screen

namespace Display

open Screen

/-- What a display becomes with a full repaint, except that the cursor may be hidden.  Only a
canvas without rows leaves the cursor where it was. -/
def repainted (theme : Theme) (c : Canvas) (d : Display) : Display :=
  if c.height = 0 then d.wiped else initial.execAll (allRows theme c)

theorem execAll_allRows_wiped (theme : Theme) (c : Canvas) (d : Display) :
    d.wiped.execAll (allRows theme c) = d.repainted theme c := by
  rw [repainted]
  split
  · rename_i hheight
    rw [allRows, hheight]
    rfl
  · rename_i hheight
    obtain ⟨n, hn⟩ := Nat.exists_eq_succ_of_ne_zero hheight
    have hrows : allRows theme c = .moveTo 0 0 :: (cellCommands theme (sentCells c 0) ++
        ((List.range' 1 n).flatMap (rowCommands theme c) ++ [.resetColor])) := by
      rw [allRows, hn, List.range_eq_range', List.range'_succ, List.flatMap_cons,
        List.append_assoc]
      rfl
    rw [hrows, execAll_cons, exec_moveTo_wiped, execAll_cons]

theorem execAll_full {s : Screen} {c : Canvas} (h : s.base c = none) (d : Display) :
    d.execAll (s.drawCommands c) = (d.repainted s.theme c).withCursor d.isCursorShown := by
  rw [drawCommands_of_base_eq_none h, execAll_append, execAll_wipe,
    execAll_withCursor fun _ => keepsCursor_of_mem_allRows, execAll_allRows_wiped]

theorem isCursorShown_repainted (theme : Theme) (c : Canvas) (d : Display) :
    (d.repainted theme c).isCursorShown = true := by
  rw [← execAll_allRows_wiped, isCursorShown_execAll fun _ => keepsCursor_of_mem_allRows]
  rfl

theorem repainted_of_height_pos {c : Canvas} (h : 0 < c.height) (theme : Theme) (d d' : Display) :
    d.repainted theme c = d'.repainted theme c := by
  rw [repainted, repainted, if_neg (by omega), if_neg (by omega)]

theorem repainted_of_height_eq_zero {c : Canvas} (h : c.height = 0) (theme : Theme) (d : Display) :
    d.repainted theme c = d.wiped := if_pos h

/-- Two displays become the same exactly if the canvas has rows or their cursors are at the same
place. -/
theorem repainted_eq_iff (theme : Theme) (c : Canvas) (d d' : Display) :
    d.repainted theme c = d'.repainted theme c ↔ (c.height = 0 → d.x = d'.x ∧ d.y = d'.y) := by
  rcases Nat.eq_zero_or_pos c.height with hheight | hheight
  · rw [repainted_of_height_eq_zero hheight, repainted_of_height_eq_zero hheight]
    constructor
    · intro h _
      have hx : d.wiped.x = d'.wiped.x := by rw [h]
      have hy : d.wiped.y = d'.wiped.y := by rw [h]
      exact ⟨hx, hy⟩
    · intro h
      obtain ⟨hx, hy⟩ := h hheight
      rw [wiped, hx, hy]
      rfl
  · exact ⟨fun _ h => absurd h (by omega), fun _ => repainted_of_height_pos hheight theme d d'⟩

theorem cells_color_repainted (theme : Theme) (c : Canvas) (d d' : Display) :
    (d.repainted theme c).cells = (d'.repainted theme c).cells ∧
      (d.repainted theme c).color = (d'.repainted theme c).color := by
  rcases Nat.eq_zero_or_pos c.height with hheight | hheight
  · rw [repainted_of_height_eq_zero hheight, repainted_of_height_eq_zero hheight]
    exact ⟨rfl, rfl⟩
  · rw [repainted_of_height_pos hheight theme d d']
    exact ⟨rfl, rfl⟩

theorem withCursor_inj {d d' : Display} (h : d.isCursorShown = d'.isCursorShown) {b b' : Bool} :
    d.withCursor b = d'.withCursor b' ↔ b = b' ∧ d = d' := by
  constructor
  · intro heq
    refine ⟨congrArg isCursorShown heq, ?_⟩
    calc
      d = (d.withCursor b).withCursor d.isCursorShown := rfl
      _ = (d'.withCursor b').withCursor d'.isCursorShown := by rw [heq, h]
      _ = d' := rfl
  · rintro ⟨rfl, rfl⟩
    rfl

theorem withCursor_repainted_eq_iff (theme : Theme) (c : Canvas) (d d' : Display) (b b' : Bool) :
    (d.repainted theme c).withCursor b = (d'.repainted theme c).withCursor b' ↔
      b = b' ∧ (c.height = 0 → d.x = d'.x ∧ d.y = d'.y) := by
  have hshown : (d.repainted theme c).isCursorShown = (d'.repainted theme c).isCursorShown := by
    rw [isCursorShown_repainted, isCursorShown_repainted]
  rw [withCursor_inj hshown, repainted_eq_iff]

end Display

open Screen

/-- A console that has received a full repaint, whatever it was in the middle of. -/
theorem Console.display_receive_full {c : Canvas} (hc : c.WellFormed) {s : Screen}
    (h : s.base c = none) (k : Console) :
    (k.receive (Command.encode (s.drawCommands c))).display =
      (k.display.repainted s.theme c).withCursor k.display.isCursorShown := by
  obtain ⟨cmd, rest, heq, hcontrol⟩ := s.starts_drawCommands c
  have hplain : ∀ d ∈ rest, d.IsPlain := fun d hd =>
    (isApt_of_mem_drawCommands hc (heq ▸ List.mem_cons_of_mem cmd hd)).1
  rw [heq, Console.receive_encode k hcontrol hplain, ← heq]
  exact Display.execAll_full h k.display

/-- A screen that has just been bound hides the cursor and goes to the corner, and its first draw
repaints everything. -/
theorem Attachment.display_first_draw {c : Canvas} (hc : c.WellFormed) (k : Console) {size : Size}
    {theme : Theme} {out out' : Stream} {screen : Screen}
    (hbind : Screen.bind size theme out = (out', .ok screen))
    (hdraw : ((Attachment.mk screen out').draw c).2 = .ok ()) :
    ((Attachment.mk screen out').draw c).1.display k =
      (Display.initial.repainted theme c).withCursor false := by
  obtain ⟨rfl, hdisplay⟩ := Attachment.display_bind k hbind
  have hbase : (Screen.fresh size theme).base c = none := rfl
  rw [Attachment.display_draw_of_ok k hc hdraw, Display.execAll_full hbase, hdisplay]
  rfl

/-- After everything has been forgotten, a draw that succeeds leaves two consoles in the same state
exactly if both showed the cursor or neither did, and, should the canvas have no rows, their
cursors were at the same place.  It leaves a console as if the screen had just been bound exactly
if the cursor was hidden, and in the corner should the canvas have no rows. -/
theorem repaint_agrees_iff {c : Canvas} (hc : c.WellFormed) {s s' : Screen} {out out' : Stream}
    (hdraw : s.invalidate.draw c out = (s', out', .ok ())) :
    ∃ sent, out'.taken = out.taken ++ sent ∧
      (∀ k k' : Console,
        (k.receive sent).display.cells = (k'.receive sent).display.cells ∧
        (k.receive sent).display.color = (k'.receive sent).display.color ∧
        ((k.receive sent).display = (k'.receive sent).display ↔
          k.display.isCursorShown = k'.display.isCursorShown ∧
            (c.height = 0 → k.display.x = k'.display.x ∧ k.display.y = k'.display.y))) ∧
      ∀ (k k' : Console) (size : Size) (stream stream' : Stream) (screen : Screen),
        Screen.bind size s.theme stream = (stream', .ok screen) →
        ((Attachment.mk screen stream').draw c).2 = .ok () →
        ((k.receive sent).display = ((Attachment.mk screen stream').draw c).1.display k' ↔
          k.display.isCursorShown = false ∧
            (c.height = 0 → k.display.x = 0 ∧ k.display.y = 0)) := by
  have hresult : (Attachment.draw ⟨s.invalidate, out⟩ c).2 = .ok () := by
    rw [Attachment.draw, hdraw]
  have htaken := (Attachment.draw_of_ok hresult).2
  rw [Attachment.draw, hdraw] at htaken
  have hreceive : ∀ k : Console,
      (k.receive (Command.encode (s.invalidate.drawCommands c))).display =
        (k.display.repainted s.theme c).withCursor k.display.isCursorShown :=
    Console.display_receive_full hc (s.base_invalidate c)
  refine ⟨_, htaken, ?_, ?_⟩
  · intro k k'
    rw [hreceive, hreceive, Display.withCursor_repainted_eq_iff]
    obtain ⟨hcells, hcolor⟩ := Display.cells_color_repainted s.theme c k.display k'.display
    exact ⟨hcells, hcolor, Iff.rfl⟩
  · intro k k' size stream stream' screen hbind hfirst
    rw [hreceive, Attachment.display_first_draw hc k' hbind hfirst,
      Display.withCursor_repainted_eq_iff]
    rfl

/-! ## A console that has been reset -/

namespace Attachment

/-- A small screen without colors that has been bound and has drawn a letter. -/
def drawnOnce : Attachment :=
  (draw ⟨.fresh ⟨3, 2⟩ .plain, (Screen.bind ⟨3, 2⟩ .plain .endless).1⟩ (sheet "a")).1

/-- The console of this screen. -/
def watching : Console := Console.receive ⟨.initial, .ground⟩ drawnOnce.out.taken

/-- What a full repaint of this screen sends. -/
def repaint : List UInt8 := Command.encode (drawnOnce.screen.invalidate.drawCommands (sheet "a"))

theorem bind_endless :
    Screen.bind ⟨3, 2⟩ .plain .endless =
      ((Screen.bind ⟨3, 2⟩ .plain .endless).1, .ok (.fresh ⟨3, 2⟩ .plain)) := rfl

end Attachment

open Attachment

/-- A console that has been reset shows the cursor again, and goes on to show it after a full
repaint, although the cursor was hidden when the screen was bound. -/
theorem cursor_shown_after_reset :
    (drawnOnce.screen.invalidate.draw (sheet "a") drawnOnce.out).2.2 = .ok () ∧
    (drawnOnce.screen.invalidate.draw (sheet "a") drawnOnce.out).2.1.taken =
      drawnOnce.out.taken ++ repaint ∧
    ((watching.receive Command.fullReset).receive repaint).display ≠
      (watching.receive repaint).display ∧
    ((watching.receive Command.fullReset).receive repaint).display ≠ watching.display := by
  have hshown : ((watching.receive Command.fullReset).receive repaint).display.isCursorShown =
      true := by decide +kernel
  refine ⟨by decide +kernel, by decide +kernel, ?_, ?_⟩
  · intro h
    rw [h] at hshown
    exact absurd hshown (by decide +kernel)
  · intro h
    rw [h] at hshown
    exact absurd hshown (by decide +kernel)

/-- As long as the cursor is hidden, a full repaint leaves a console as if the screen had just been
bound, whatever else has been printed on it; one that has been reset differs. -/
theorem repaint_agrees_unless_reset :
    (sheet "a").WellFormed ∧
    (drawnOnce.screen.invalidate.draw (sheet "a") drawnOnce.out).2.2 = .ok () ∧
    ((watching.receive [0x62, 0x1b, 0x5b, 0x33]).receive repaint).display =
      drawnOnce.display ⟨.initial, .ground⟩ ∧
    ((watching.receive Command.fullReset).receive repaint).display ≠
      (watching.receive repaint).display := by
  have hsheet : (sheet "a").WellFormed := wellFormed_sheet (by decide)
  have hok : (drawnOnce.screen.invalidate.draw (sheet "a") drawnOnce.out).2.2 = .ok () := by
    decide +kernel
  have hdraw : drawnOnce.screen.invalidate.draw (sheet "a") drawnOnce.out = (_, _, .ok ()) :=
    Prod.ext rfl (Prod.ext rfl hok)
  obtain ⟨sent, htaken, hagree, hbound⟩ := repaint_agrees_iff hsheet hdraw
  have hsent : sent = repaint := by
    have hall : (drawnOnce.screen.invalidate.draw (sheet "a") drawnOnce.out).2.1.taken =
        drawnOnce.out.taken ++ repaint := by decide +kernel
    exact List.append_cancel_left (htaken.symm.trans hall)
  subst hsent
  refine ⟨hsheet, hok, ?_, ?_⟩
  · refine (hbound _ ⟨.initial, .ground⟩ _ _ _ _ bind_endless (by decide +kernel)).mpr ?_
    exact ⟨by decide +kernel, fun h => absurd h (by decide +kernel)⟩
  · intro h
    have hcursor := ((hagree _ _).2.2.mp h).1
    exact absurd hcursor (by decide +kernel)

end StatusBoard.Terminal
