import StatusBoard.Proofs.Canvas.Drawing
import StatusBoard.Proofs.Terminal.Sending

/-!
Sending only what has changed shows the same as sending everything.

What a screen remembers and what its console shows are tied by `Mirrors`: as long as the stream
takes everything, the console shows the remembered canvas, except perhaps in the bottom-right
cell.  Each call of the screen keeps this.
-/

namespace StatusBoard.Terminal

/-- What can be asked of a screen. -/
inductive Call
  | draw (c : Canvas)
  | resize (size : Size)
  | invalidate

/-- A screen and the stream that it is bound on. -/
structure Attachment where
  screen : Screen
  out : Stream

namespace Attachment

def draw (a : Attachment) (c : Canvas) : Attachment × Except IoError Unit :=
  let (screen, out, result) := a.screen.draw c a.out
  (⟨screen, out⟩, result)

def call (a : Attachment) : Call → Attachment
  | .draw c => (a.draw c).1
  | .resize size => { a with screen := (a.screen.resize size).1 }
  | .invalidate => { a with screen := a.screen.invalidate }

/-- What a console shows that has received what the stream has taken. -/
def display (k : Console) (a : Attachment) : Display := (k.receive a.out.taken).display

/-- A draw is sent as a whole and remembered, or it fails after a part of it. -/
theorem draw_cases (a : Attachment) (c : Canvas) :
    ((a.draw c).2 = .ok () ∧ (a.draw c).1.screen = { a.screen with shown := some c } ∧
        (a.draw c).1.out.taken = a.out.taken ++ Command.encode (a.screen.drawCommands c)) ∨
      ∃ n ≤ (Command.encode (a.screen.drawCommands c)).length,
        (a.draw c).2 = .error Stream.gone ∧ (a.draw c).1.screen = a.screen ∧
          (a.draw c).1.out.taken =
            a.out.taken ++ (Command.encode (a.screen.drawCommands c)).take n := by
  have hsend := a.out.send_cases (Command.encode (a.screen.drawCommands c))
  unfold draw Screen.draw
  cases h : a.out.send (Command.encode (a.screen.drawCommands c)) with
  | mk out result =>
      rw [h] at hsend
      cases result with
      | ok _ =>
          rcases hsend with ⟨-, htaken⟩ | ⟨n, -, hresult, -⟩
          · exact .inl ⟨rfl, rfl, htaken⟩
          · cases hresult
      | error e =>
          rcases hsend with ⟨hresult, -⟩ | ⟨n, hn, hresult, htaken⟩
          · cases hresult
          · exact .inr ⟨n, hn, hresult, rfl, htaken⟩

theorem draw_of_ok {a : Attachment} {c : Canvas} (h : (a.draw c).2 = .ok ()) :
    (a.draw c).1.screen = { a.screen with shown := some c } ∧
      (a.draw c).1.out.taken = a.out.taken ++ Command.encode (a.screen.drawCommands c) := by
  rcases a.draw_cases c with ⟨-, hdraw⟩ | ⟨n, -, herror, -⟩
  · exact hdraw
  · rw [h] at herror
    cases herror

/-- A draw that succeeds is carried out, whatever the console was in the middle of. -/
theorem display_draw_of_ok (k : Console) {a : Attachment} {c : Canvas} (hc : c.WellFormed)
    (h : (a.draw c).2 = .ok ()) :
    (a.draw c).1.display k = (a.display k).execAll (a.screen.drawCommands c) := by
  obtain ⟨cmd, rest, heq, hcontrol⟩ := a.screen.starts_drawCommands c
  have hplain : ∀ d ∈ rest, d.IsPlain := fun d hd =>
    (Screen.isApt_of_mem_drawCommands hc (heq ▸ List.mem_cons_of_mem cmd hd)).1
  rw [display, (draw_of_ok h).2, heq,
    Console.receive_append k a.out.taken hcontrol List.prefix_rfl,
    Console.receive_encode _ hcontrol hplain]
  rfl

/-- A screen on a stream that takes everything, whose console shows what the screen remembers. -/
structure Mirrors (k : Console) (theme : Theme) (a : Attachment) : Prop where
  isEndless : a.out.IsEndless
  theme_eq : a.screen.theme = theme
  follows : (a.display k).Follows theme
  cells : ∀ p, a.screen.shown = some p → ∀ x y, ¬ p.IsCorner x y →
    (a.display k).cells x y = p.glyph theme x y

theorem draw_of_isEndless {a : Attachment} (h : a.out.IsEndless) (c : Canvas) :
    (a.draw c).2 = .ok () ∧ (a.draw c).1.out.IsEndless := by
  unfold draw Screen.draw
  rw [Stream.send_of_isEndless h]
  exact ⟨rfl, h⟩

/-- Binding a screen clears the console, whatever it was in the middle of. -/
theorem display_bind (k : Console) {size : Size} {theme : Theme} {out out' : Stream}
    {screen : Screen} (h : Screen.bind size theme out = (out', .ok screen)) :
    screen = .fresh size theme ∧
      display k ⟨screen, out'⟩ = (k.receive out.taken).display.execAll Screen.bindCommands := by
  have hsend := out.send_cases (Command.encode Screen.bindCommands)
  unfold Screen.bind at h
  cases hresult : out.send (Command.encode Screen.bindCommands) with
  | mk sent result =>
      rw [hresult] at h hsend
      cases result with
      | error e => cases h
      | ok _ =>
          cases h
          rcases hsend with ⟨-, htaken⟩ | ⟨n, -, herror, -⟩
          · have hplain : ∀ d ∈ [Command.resetColor, .clear, .moveTo 0 0], d.IsPlain := by
              simp [Command.IsPlain]
            refine ⟨rfl, ?_⟩
            rw [display, htaken, Screen.bindCommands,
              Console.receive_append k _ rfl List.prefix_rfl, Console.receive_encode _ rfl hplain]
          · cases herror

theorem mirrors_bind (k : Console) (size : Size) (theme : Theme) {out : Stream}
    (h : out.IsEndless) :
    ∃ out', Screen.bind size theme out = (out', .ok (.fresh size theme)) ∧
      Mirrors k theme ⟨.fresh size theme, out'⟩ := by
  have hbind : ∃ out', Screen.bind size theme out = (out', .ok (.fresh size theme)) ∧
      out'.IsEndless := by
    refine ⟨{ out with taken := out.taken ++ Command.encode Screen.bindCommands }, ?_, h⟩
    rw [Screen.bind, Stream.send_of_isEndless h]
  obtain ⟨out', hbind, hendless⟩ := hbind
  refine ⟨out', hbind, hendless, rfl, ?_, fun p hp => by cases hp⟩
  intro _
  rw [(display_bind k hbind).2]
  rfl

theorem Mirrors.draw {k : Console} {theme : Theme} {a : Attachment} (h : a.Mirrors k theme)
    {c : Canvas} (hc : c.WellFormed) :
    (a.draw c).1.Mirrors k theme ∧ (a.draw c).1.screen.shown = some c := by
  obtain ⟨hok, hendless⟩ := draw_of_isEndless h.isEndless c
  have hscreen := (draw_of_ok hok).1
  have hfollows : (a.display k).Follows a.screen.theme := h.theme_eq ▸ h.follows
  have hdisplay := display_draw_of_ok k hc hok
  have hshown : (a.draw c).1.screen.shown = some c := by rw [hscreen]
  refine ⟨⟨hendless, by rw [hscreen]; exact h.theme_eq, ?_, ?_⟩, hshown⟩
  · rw [hdisplay, ← h.theme_eq]
    exact Display.follows_execAll (fun _ => Screen.isApt_of_mem_drawCommands hc) hfollows
  · rw [hshown]
    rintro _ ⟨⟩ x y hcorner
    rw [hdisplay, ← h.theme_eq]
    refine Display.cells_draw hc hfollows ?_ hcorner
    intro p hbase
    rw [h.theme_eq]
    exact h.cells p (Screen.base_eq_some_iff.mp hbase).1

theorem Mirrors.forget {k : Console} {theme : Theme} {a : Attachment} (h : a.Mirrors k theme)
    (size : Size) : Mirrors k theme { a with screen := { a.screen with size, shown := none } } :=
  ⟨h.isEndless, h.theme_eq, h.follows, fun _ hp => by cases hp⟩

/-- Whatever is asked of a screen, its console goes on to show what it remembers. -/
theorem Mirrors.call {k : Console} {theme : Theme} {a : Attachment} (h : a.Mirrors k theme)
    {request : Call} (hrequest : ∀ c, request = .draw c → c.WellFormed) :
    (a.call request).Mirrors k theme := by
  cases request with
  | draw c => exact (h.draw (hrequest c rfl)).1
  | resize size =>
      rw [Attachment.call, Screen.resize]
      split
      · exact h
      · exact h.forget size
  | invalidate => exact h.forget a.screen.size

theorem Mirrors.foldl_call {k : Console} {theme : Theme} {a : Attachment} (h : a.Mirrors k theme)
    {requests : List Call} (hrequests : ∀ c, .draw c ∈ requests → c.WellFormed) :
    (requests.foldl Attachment.call a).Mirrors k theme := by
  induction requests generalizing a with
  | nil => exact h
  | cons request requests ih =>
      refine ih (h.call ?_) fun c hc => hrequests c (List.mem_cons_of_mem request hc)
      rintro c rfl
      exact hrequests c (List.mem_cons_self ..)

/-- A draw that sends only the rows that differ from the remembered canvas shows what a draw shows
that sends all of them, and both show the canvas, cell by cell and with nothing around it.  The
canvas that is remembered is the one drawn last. -/
theorem draw_agrees_with_full_draw (k : Console) (size : Size) (theme : Theme) {out : Stream}
    (hout : out.IsEndless) {requests : List Call}
    (hrequests : ∀ c, .draw c ∈ requests → c.WellFormed) {c : Canvas} (hc : c.WellFormed) :
    ∃ out', Screen.bind size theme out = (out', .ok (.fresh size theme)) ∧
      let a := requests.foldl call ⟨.fresh size theme, out'⟩
      let full := { a with screen := a.screen.invalidate }
      (a.draw c).2 = .ok () ∧ (full.draw c).2 = .ok () ∧ (a.draw c).1.screen.shown = some c ∧
      (∀ x y, ¬ c.IsCorner x y →
        ((a.draw c).1.display k).cells x y = c.glyph theme x y ∧
        ((full.draw c).1.display k).cells x y = c.glyph theme x y) ∧
      (∀ p, a.screen.shown = some p → p.width = c.width → p.height = c.height →
        (a.draw c).1.out.taken = a.out.taken ++ Command.encode
          (((List.range c.height).filter fun y => p.row y ≠ c.row y).flatMap
            (Screen.rowCommands theme c) ++ [.resetColor])) := by
  obtain ⟨out', hbind, hmirrors⟩ := mirrors_bind k size theme hout
  refine ⟨out', hbind, ?_⟩
  intro a full
  have ha : a.Mirrors k theme := hmirrors.foldl_call hrequests
  have hfull : full.Mirrors k theme := ha.forget a.screen.size
  have hok := (draw_of_isEndless ha.isEndless c).1
  refine ⟨hok, (draw_of_isEndless hfull.isEndless c).1, (ha.draw hc).2, ?_, ?_⟩
  · intro x y hcorner
    have hdraw := ha.draw hc
    have hdraw' := hfull.draw hc
    exact ⟨hdraw.1.cells c hdraw.2 x y hcorner, hdraw'.1.cells c hdraw'.2 x y hcorner⟩
  · intro p hp hwidth hheight
    have hbase : a.screen.base c = some p := Screen.base_eq_some_iff.mpr ⟨hp, hwidth, hheight⟩
    rw [(draw_of_ok hok).2, Screen.drawCommands_eq, Screen.opening, Screen.staleRows, hbase,
      ha.theme_eq]
    rfl

/-- A canvas of three columns and two rows with a text in its first row. -/
def sheet (text : String) : Canvas :=
  Canvas.Stroke.picture 3 2 [.text 0 0 text .normal 3]

theorem wellFormed_sheet {text : String} (h : Text.beyyal ∉ text.toList) :
    (sheet text).WellFormed := by
  refine Canvas.Stroke.wellFormed_picture (by decide) 2 ?_ ?_
  · simp [Canvas.Stroke.IsRegular]
  · simpa [Canvas.Stroke.chars] using h

/-- After two letters a character of two columns, of which the console shows both halves. -/
theorem draw_shows_wide_after_letters :
    Stream.endless.IsEndless ∧ (sheet "ab").WellFormed ∧ (sheet "日").WellFormed ∧
    ∃ out', Screen.bind ⟨3, 2⟩ .standard .endless = (out', .ok (.fresh ⟨3, 2⟩ .standard)) ∧
      let a := [Call.draw (sheet "ab")].foldl call ⟨.fresh ⟨3, 2⟩ .standard, out'⟩
      (a.draw (sheet "日")).2 = .ok () ∧
      ((a.draw (sheet "日")).1.display ⟨.initial, .ground⟩).cells 0 0 = ⟨'日', .white⟩ ∧
      ((a.draw (sheet "日")).1.display ⟨.initial, .ground⟩).cells 1 0 =
        ⟨Cell.continuationMark, .white⟩ := by
  have hout : Stream.endless.IsEndless := ⟨rfl, rfl⟩
  have hletters : (sheet "ab").WellFormed := wellFormed_sheet (by decide)
  have hwide : (sheet "日").WellFormed := wellFormed_sheet (by decide)
  have hrequests : ∀ c, Call.draw c ∈ [Call.draw (sheet "ab")] → c.WellFormed := by
    intro c hc
    rw [List.mem_singleton, Call.draw.injEq] at hc
    rw [hc]
    exact hletters
  obtain ⟨out', hbind, hok, -, -, hcells, -⟩ :=
    draw_agrees_with_full_draw ⟨.initial, .ground⟩ ⟨3, 2⟩ .standard hout hrequests hwide
  refine ⟨hout, hletters, hwide, out', hbind, hok, ?_, ?_⟩
  · rw [(hcells 0 0 (by decide +kernel)).1]
    decide +kernel
  · rw [(hcells 1 0 (by decide +kernel)).1]
    decide +kernel

end Attachment

end StatusBoard.Terminal
