import StatusBoard.Proofs.Terminal.Repaint

/-!
What a failed draw leaves behind, and when a later draw makes up for it.

A draw that fails has had a part of its bytes taken: it has begun some rows and perhaps erased all
of them, while the screen goes on to remember the canvas before.  A `Ledger` keeps account of the
rows that have been begun or erased so and not sent again.  Rows that it does not list show what
is remembered.
-/

namespace StatusBoard.Terminal

open Text

namespace Screen

/-- The rows of a list of which some byte is among the first `n` bytes that are sent. -/
def begunRows (theme : Theme) (c : Canvas) : List Nat → Nat → List Nat
  | [], _ => []
  | y :: rows, n =>
      if n = 0 then []
      else y :: begunRows theme c rows (n - (Command.encode (rowCommands theme c y)).length)

/-- Whether a row has been begun or erased when `n` bytes of a draw have been taken. -/
def touches (s : Screen) (c : Canvas) (n y : Nat) : Bool :=
  let opening := (Command.encode (s.opening c)).length
  ((s.base c).isNone && opening ≤ n) ||
    (begunRows s.theme c (s.staleRows c) (n - opening)).contains y

/-- Whether a draw sends a row or clears the console first. -/
def renews (s : Screen) (c : Canvas) (y : Nat) : Bool :=
  (s.base c).isNone || (s.staleRows c).contains y

/-- The rows that are not renewed are those that are the same on the canvas built upon. -/
theorem renews_eq_false_iff {s : Screen} {c : Canvas} {y : Nat} :
    s.renews c y = false ↔ ∃ p, s.base c = some p ∧ p.row y = c.row y := by
  rw [renews, Bool.or_eq_false_iff, Option.isNone_eq_false_iff, Option.isSome_iff_exists]
  constructor
  · rintro ⟨⟨p, hbase⟩, hrow⟩
    refine ⟨p, hbase, row_eq_of_not_mem_staleRows hbase ?_⟩
    simpa using hrow
  · rintro ⟨p, hbase, hrow⟩
    refine ⟨⟨p, hbase⟩, ?_⟩
    simp [staleRows, hbase, isStale, hrow]

theorem isStale_of_renews {s : Screen} {c : Canvas} {y : Nat} (h : s.renews c y = true) :
    isStale (s.base c) c y = true := by
  rw [renews, Bool.or_eq_true] at h
  rcases h with hnone | hrow
  · rw [Option.isNone_iff_eq_none.mp hnone]
    rfl
  · exact (List.mem_filter.mp (List.contains_iff_mem.mp hrow)).2

/-- The bytes that have been taken belong to rows that have been begun. -/
theorem take_prefix_begunRows (theme : Theme) (c : Canvas) (rows : List Nat) (n : Nat) :
    (Command.encode (rows.flatMap (rowCommands theme c) ++ [.resetColor])).take n <+:
      Command.encode ((begunRows theme c rows n).flatMap (rowCommands theme c) ++ [.resetColor]) := by
  induction rows generalizing n with
  | nil => exact List.take_prefix n _
  | cons y rows ih =>
      rw [begunRows]
      split
      · rename_i hn
        rw [hn, List.take_zero]
        exact List.nil_prefix
      · have hcons : ∀ rest : List Nat,
            Command.encode ((y :: rest).flatMap (rowCommands theme c) ++ [.resetColor]) =
              Command.encode (rowCommands theme c y) ++
                Command.encode (rest.flatMap (rowCommands theme c) ++ [.resetColor]) := by
          intro rest
          rw [List.flatMap_cons, List.append_assoc, Command.encode_append]
        rw [hcons, hcons, List.take_append]
        by_cases hlength : n ≤ (Command.encode (rowCommands theme c y)).length
        · rw [show n - (Command.encode (rowCommands theme c y)).length = 0 by omega, List.take_zero,
            List.append_nil]
          exact (List.take_prefix n _).trans (List.prefix_append ..)
        · rw [List.take_of_length_le (by omega), List.prefix_append_right_inj]
          exact ih _

end Screen

namespace Display

open Screen

/-- Commands that clear nothing and go to certain rows only change no other row. -/
theorem cells_execAll_of_not_mem {rows : List Nat} {cs : List Command} {d : Display}
    (h : ∀ cmd ∈ cs, cmd ≠ .clear ∧ ∀ x y, cmd = .moveTo x y → y ∈ rows) (hd : d.y ∈ rows) {y : Nat}
    (hy : y ∉ rows) (x : Nat) : (d.execAll cs).cells x y = d.cells x y := by
  induction cs generalizing d with
  | nil => rfl
  | cons cmd cs ih =>
      have hcmd := h cmd (List.mem_cons_self ..)
      have hrest := fun c hc => h c (List.mem_cons_of_mem cmd hc)
      cases cmd with
      | clear => exact absurd rfl hcmd.1
      | moveTo x' y' => exact ih hrest (hcmd.2 x' y' rfl)
      | print text =>
          have hne : y ≠ d.y := by
            rintro rfl
            exact hy hd
          have hrow : (d.exec (.print text)).y ∈ rows := (y_foldl_put d text).symm ▸ hd
          exact (ih hrest hrow).trans (cells_foldl_put_of_ne hne text x)
      | _ => exact ih hrest hd

end Display

/-! ## Bytes that are cut -/

namespace Console

open Screen Command

/-- Of an opening that is cut nothing is seen, since the erasing comes last. -/
theorem cells_receive_opening (k : Console) {n : Nat}
    (hn : n < (encode [.resetColor, .clear]).length) (x y : Nat) :
    (k.receive ((encode [.resetColor, .clear]).take n)).display.cells x y =
      k.display.cells x y := by
  have hall : encode [.resetColor, .clear] =
      (resetColor.chars ++ controlSequence ['2']).flatMap String.utf8EncodeChar ++ [0x4A] := by
    decide
  have hbytes : (encode [.resetColor, .clear]).take n <+:
      (resetColor.chars ++ controlSequence ['2']).flatMap String.utf8EncodeChar := by
    rw [hall, List.length_append, List.length_singleton] at hn
    rw [hall, List.take_append_of_le_length (by omega)]
    exact List.take_prefix n _
  rcases prefix_append_cases (Utf8.chars_prefix hbytes) with ⟨hcut, hne⟩ | ⟨rest, heq, hrest⟩
  · rw [receive, display_readAll_control_cut k rfl hcut hne]
  · have hparams : ∀ ch ∈ ['2'], ch ≠ escapeChar ∧ isFinal ch = false := by
      simp [escapeChar, isFinal]
    rw [receive, heq, readAll_append, readAll_control k rfl, display_readAll_cut _ hparams hrest]
    rfl

/-- Of rows that are cut nothing is seen outside of them. -/
theorem cells_receive_rows (k : Console) {theme : Theme} {c : Canvas} (hc : c.WellFormed)
    {rows : List Nat} {part : List UInt8}
    (hpart : part <+: encode (rows.flatMap (rowCommands theme c) ++ [.resetColor])) {y : Nat}
    (hy : y ∉ rows) (x : Nat) : (k.receive part).display.cells x y = k.display.cells x y := by
  have hplain : ∀ cmd ∈ rows.flatMap (rowCommands theme c) ++ [.resetColor], cmd.IsPlain := by
    intro cmd hcmd
    rw [List.mem_append, List.mem_flatMap, List.mem_singleton] at hcmd
    rcases hcmd with ⟨r, -, hcmd⟩ | rfl
    · exact (isApt_of_mem_rowCommands hc hcmd).1
    · trivial
  have hrows : ∀ cmd ∈ rows.flatMap (rowCommands theme c) ++ [.resetColor],
      cmd ≠ .clear ∧ ∀ x y, cmd = .moveTo x y → y ∈ rows := by
    intro cmd hcmd
    rw [List.mem_append, List.mem_flatMap, List.mem_singleton] at hcmd
    rcases hcmd with ⟨r, hr, hcmd⟩ | rfl
    · rcases mem_rowCommands hcmd with rfl | ⟨-, color, rfl⟩ | ⟨text, rfl, -⟩
      · refine ⟨by simp, ?_⟩
        rintro _ _ ⟨⟩
        exact hr
      · simp
      · simp
    · simp
  cases rows with
  | nil =>
      obtain ⟨ds, hds, hdisplay⟩ := receive_cut k rfl (by simp) hpart
      rw [hdisplay]
      cases hds with
      | nil => rfl
      | cons _ hrest =>
          cases hrest
          rfl
  | cons r rows =>
      have hcons : (r :: rows).flatMap (rowCommands theme c) ++ [.resetColor] =
          .moveTo 0 r :: (cellCommands theme (sentCells c r) ++
            (rows.flatMap (rowCommands theme c) ++ [.resetColor])) := by
        rw [List.flatMap_cons, List.append_assoc]
        rfl
      rw [hcons] at hpart hplain hrows
      obtain ⟨ds, hds, hdisplay⟩ :=
        receive_cut k rfl (fun d hd => hplain d (List.mem_cons_of_mem _ hd)) hpart
      rw [hdisplay]
      cases hds with
      | nil => rfl
      | cons _ hrest =>
          have hds := hrest.forall (fun d hd => hrows d (List.mem_cons_of_mem _ hd))
            (fun _ _ _ _ => by simp)
          exact Display.cells_execAll_of_not_mem (d := k.display.exec (.moveTo 0 r)) hds
            (List.mem_cons_self ..) hy x

/-- Of a draw that is cut nothing is seen outside the rows that it has touched. -/
theorem cells_receive_draw (k : Console) {s : Screen} {c : Canvas} (hc : c.WellFormed) {n y : Nat}
    (h : s.touches c n y = false) (x : Nat) :
    (k.receive ((encode (s.drawCommands c)).take n)).display.cells x y = k.display.cells x y := by
  rw [touches, Bool.or_eq_false_iff] at h
  rw [drawCommands_eq, encode_append, List.take_append]
  cases hbase : s.base c with
  | none =>
      have hopening : s.opening c = [.resetColor, .clear] := by
        rw [opening, hbase]
        rfl
      have hn : n < (encode [.resetColor, .clear]).length := by
        simpa [hbase, hopening] using h.1
      rw [hopening, show n - (encode [.resetColor, .clear]).length = 0 by omega, List.take_zero,
        List.append_nil]
      exact cells_receive_opening k hn x y
  | some p =>
      have hopening : s.opening c = [] := by
        rw [opening, hbase]
        rfl
      have hy : y ∉ begunRows s.theme c (s.staleRows c) n := by
        simpa [hopening, encode] using h.2
      rw [hopening, show encode [] = [] from rfl, List.take_nil, List.nil_append, List.length_nil,
        Nat.sub_zero]
      exact cells_receive_rows k hc (take_prefix_begunRows s.theme c _ n) hy x

/-- A draw that is cut chooses no color unless colors are in use. -/
theorem follows_receive_draw (k : Console) {s : Screen} {c : Canvas} (hc : c.WellFormed)
    (hk : k.display.Follows s.theme) (n : Nat) :
    (k.receive ((encode (s.drawCommands c)).take n)).display.Follows s.theme := by
  have hapt : ∀ cmd ∈ s.drawCommands c, IsApt s.theme cmd := fun _ =>
    isApt_of_mem_drawCommands hc
  obtain ⟨cmd, rest, heq, hcontrol⟩ := s.starts_drawCommands c
  rw [heq] at hapt ⊢
  obtain ⟨ds, hds, hdisplay⟩ := receive_cut k hcontrol
    (fun d hd => (hapt d (List.mem_cons_of_mem cmd hd)).1) (List.take_prefix n _)
  rw [hdisplay]
  refine Display.follows_execAll (hds.forall hapt ?_) hk
  intro part text hpart happ
  exact ⟨fun ch hch => happ.1 ch (hpart.subset hch), fun _ h => by cases h⟩

end Console

/-! ## The account of what is owed -/

/-- An attachment with the rows that a failed draw has begun or erased and no draw has renewed
since. -/
structure Ledger where
  attachment : Attachment
  owed : Nat → Bool

/-- What can happen to a screen: it is asked for something, or its stream begins to fail or
recovers. -/
inductive Event
  | call (request : Call)
  | stream (room : Option Nat) (isFlushing : Bool)

namespace Ledger

def settled (a : Attachment) : Ledger := ⟨a, fun _ => false⟩

/-- Draw a canvas.  Success renews rows; failure touches some. -/
def draw (l : Ledger) (c : Canvas) : Ledger :=
  let (a, result) := l.attachment.draw c
  match result with
  | .ok _ => ⟨a, fun y => l.owed y && !l.attachment.screen.renews c y⟩
  | .error _ =>
      let sent := a.out.taken.length - l.attachment.out.taken.length
      ⟨a, fun y => l.owed y || l.attachment.screen.touches c sent y⟩

def after (l : Ledger) : Event → Ledger
  | .call (.draw c) => l.draw c
  | .call request => { l with attachment := l.attachment.call request }
  | .stream room isFlushing =>
      let out := { l.attachment.out with room, isFlushing }
      { l with attachment := { l.attachment with out } }

/-- The console shows each row that the screen remembers and that is not owed. -/
structure Tracks (k : Console) (theme : Theme) (l : Ledger) : Prop where
  theme_eq : l.attachment.screen.theme = theme
  follows : (l.attachment.display k).Follows theme
  shows : ∀ p, l.attachment.screen.shown = some p → ∀ y < p.height, l.owed y = false →
    (l.attachment.display k).Shows theme p y

theorem tracks_settled (k : Console) {size : Size} {theme : Theme} {out out' : Stream}
    {screen : Screen} (h : Screen.bind size theme out = (out', .ok screen)) :
    (settled ⟨screen, out'⟩).Tracks k theme := by
  obtain ⟨rfl, hdisplay⟩ := Attachment.display_bind k h
  refine ⟨rfl, ?_, fun p hp => by cases hp⟩
  intro _
  rw [settled, hdisplay]
  rfl

theorem draw_of_ok {l : Ledger} {c : Canvas} (h : (l.attachment.draw c).2 = .ok ()) :
    l.draw c = ⟨(l.attachment.draw c).1, fun y => l.owed y && !l.attachment.screen.renews c y⟩ := by
  unfold draw
  cases hdraw : l.attachment.draw c with
  | mk a result =>
      rw [hdraw] at h
      cases h
      rfl

/-- After a draw that succeeds, every row of the canvas that is not owed is shown. -/
theorem Tracks.draw_of_ok {k : Console} {theme : Theme} {l : Ledger} (h : l.Tracks k theme)
    {c : Canvas} (hc : c.WellFormed) (hok : (l.attachment.draw c).2 = .ok ()) :
    (l.draw c).Tracks k theme ∧ (l.draw c).attachment.screen.shown = some c := by
  obtain ⟨rfl, hfollows, hshows⟩ := h
  have hscreen := (Attachment.draw_of_ok hok).1
  have hdisplay := Attachment.display_draw_of_ok k hc hok
  rw [Ledger.draw_of_ok hok]
  refine ⟨⟨by rw [hscreen], ?_, ?_⟩, by rw [hscreen]⟩
  · simp only
    rw [hdisplay]
    exact Display.follows_execAll (fun _ => Screen.isApt_of_mem_drawCommands hc) hfollows
  · simp only
    rw [hscreen, hdisplay]
    rintro _ ⟨⟩ y hy howed
    cases hrenews : l.attachment.screen.renews c y with
    | true =>
        exact Display.shows_draw_of_isStale hc hfollows hy (Screen.isStale_of_renews hrenews)
    | false =>
        obtain ⟨p, hbase, hrow⟩ := Screen.renews_eq_false_iff.mp hrenews
        obtain ⟨hp, hwidth, hheight⟩ := Screen.base_eq_some_iff.mp hbase
        have howed' : l.owed y = false := by simpa [hrenews] using howed
        have hbefore := hshows p hp y (by omega) howed'
        have hfresh : y ∉ l.attachment.screen.staleRows c := by
          rw [Screen.renews, Bool.or_eq_false_iff] at hrenews
          simpa using hrenews.2
        refine (hbefore.of_row_eq hwidth hheight hrow).congr fun x => ?_
        exact Display.cells_draw_of_not_isStale hc hfollows hbase (fun hin => hfresh hin.1)

theorem draw_of_error {l : Ledger} {c : Canvas} {e : IoError}
    (h : (l.attachment.draw c).2 = .error e) :
    ∃ n, l.draw c =
        ⟨(l.attachment.draw c).1, fun y => l.owed y || l.attachment.screen.touches c n y⟩ ∧
      (l.attachment.draw c).1.screen = l.attachment.screen ∧
      (l.attachment.draw c).1.out.taken = l.attachment.out.taken ++
        (Command.encode (l.attachment.screen.drawCommands c)).take n := by
  rcases l.attachment.draw_cases c with ⟨hok, -⟩ | ⟨n, hn, -, hscreen, htaken⟩
  · rw [h] at hok
    cases hok
  · refine ⟨n, ?_, hscreen, htaken⟩
    unfold draw
    cases hdraw : l.attachment.draw c with
    | mk a result =>
        rw [hdraw] at h htaken
        cases h
        have hsent : a.out.taken.length - l.attachment.out.taken.length = n := by
          simp only at htaken
          rw [htaken, List.length_append, List.length_take]
          omega
        simp only [hsent]

/-- After a draw that fails, the rows that it has not touched show what they did. -/
theorem Tracks.draw_of_error {k : Console} {theme : Theme} {l : Ledger} (h : l.Tracks k theme)
    {c : Canvas} (hc : c.WellFormed) {e : IoError} (herror : (l.attachment.draw c).2 = .error e) :
    (l.draw c).Tracks k theme := by
  obtain ⟨rfl, hfollows, hshows⟩ := h
  obtain ⟨n, hdraw, hscreen, htaken⟩ := Ledger.draw_of_error herror
  have hdisplay : (l.attachment.draw c).1.display k =
      ((k.receive l.attachment.out.taken).receive
        ((Command.encode (l.attachment.screen.drawCommands c)).take n)).display := by
    obtain ⟨cmd, rest, heq, hcontrol⟩ := l.attachment.screen.starts_drawCommands c
    rw [Attachment.display, htaken, heq,
      Console.receive_append k _ hcontrol (List.take_prefix n _)]
  rw [hdraw]
  refine ⟨by rw [hscreen], ?_, ?_⟩
  · simp only
    rw [hdisplay]
    exact Console.follows_receive_draw _ hc hfollows n
  · simp only
    rw [hscreen, hdisplay]
    intro p hp y hy howed
    rw [Bool.or_eq_false_iff] at howed
    exact (hshows p hp y hy howed.1).congr fun x => Console.cells_receive_draw _ hc howed.2 x

theorem Tracks.forget {k : Console} {theme : Theme} {l : Ledger} (h : l.Tracks k theme)
    (size : Size) :
    Tracks k theme { l with
      attachment.screen := { l.attachment.screen with size, shown := none } } :=
  ⟨h.theme_eq, h.follows, fun _ hp => by cases hp⟩

/-- Whatever happens, the rows that are not owed show what is remembered. -/
theorem Tracks.after {k : Console} {theme : Theme} {l : Ledger} (h : l.Tracks k theme)
    {event : Event} (hevent : ∀ c, event = .call (.draw c) → c.WellFormed) :
    (l.after event).Tracks k theme := by
  cases event with
  | stream room isFlushing => exact ⟨h.theme_eq, h.follows, h.shows⟩
  | call request =>
      cases request with
      | draw c =>
          cases hresult : (l.attachment.draw c).2 with
          | ok _ => exact (h.draw_of_ok (hevent c rfl) hresult).1
          | error e => exact h.draw_of_error (hevent c rfl) hresult
      | resize size =>
          simp only [Ledger.after, Attachment.call, Screen.resize]
          split
          · exact h
          · exact h.forget size
      | invalidate => exact h.forget l.attachment.screen.size

theorem Tracks.foldl_after {k : Console} {theme : Theme} {l : Ledger} (h : l.Tracks k theme)
    {events : List Event} (hevents : ∀ c, .call (.draw c) ∈ events → c.WellFormed) :
    (events.foldl Ledger.after l).Tracks k theme := by
  induction events generalizing l with
  | nil => exact h
  | cons event events ih =>
      refine ih (h.after ?_) fun c hc => hevents c (List.mem_cons_of_mem event hc)
      rintro c rfl
      exact hevents c (List.mem_cons_self ..)

/-- A draw that succeeds leaves nothing owed exactly if no row that is owed looks the same on the
canvas that the draw builds upon.  Each row that is not owed shows the canvas just drawn. -/
theorem draw_settles_iff (k : Console) {size : Size} {theme : Theme} {out out' : Stream}
    {screen : Screen} (hbind : Screen.bind size theme out = (out', .ok screen))
    {events : List Event} (hevents : ∀ c, .call (.draw c) ∈ events → c.WellFormed) {c : Canvas}
    (hc : c.WellFormed) :
    let l := events.foldl after (settled ⟨screen, out'⟩)
    (l.attachment.draw c).2 = .ok () →
      ((∀ y, (l.draw c).owed y = false) ↔
        ∀ y p, l.owed y = true → l.attachment.screen.base c = some p → p.row y ≠ c.row y) ∧
      ∀ y < c.height, (l.draw c).owed y = false →
        ((l.draw c).attachment.display k).Shows theme c y := by
  intro l hok
  have htracks : l.Tracks k theme := (tracks_settled k hbind).foldl_after hevents
  obtain ⟨hdrawn, hshown⟩ := htracks.draw_of_ok hc hok
  refine ⟨?_, fun y hy howed => hdrawn.shows c hshown y hy howed⟩
  have howed : ∀ y, (l.draw c).owed y = (l.owed y && !l.attachment.screen.renews c y) := by
    intro y
    rw [Ledger.draw_of_ok hok]
  constructor
  · intro hsettled y p hy hbase hrow
    have hkept := Screen.renews_eq_false_iff.mpr ⟨p, hbase, hrow⟩
    have := hsettled y
    rw [howed, hy, hkept] at this
    cases this
  · intro hdiffer y
    rw [howed]
    cases hy : l.owed y with
    | false => rfl
    | true =>
        cases hrenews : l.attachment.screen.renews c y with
        | true => rfl
        | false =>
            obtain ⟨p, hbase, hrow⟩ := Screen.renews_eq_false_iff.mp hrenews
            exact absurd hrow (hdiffer y p hy hbase)

/-- A draw is cut after the first letter, and then the canvas before is drawn again. -/
def goingBack : List Event :=
  [.call (.draw (Attachment.sheet "a")), .stream (some 7) true,
    .call (.draw (Attachment.sheet "b")), .stream none true]

/-- The ledger of a small screen without colors after some events. -/
def afterAll (events : List Event) : Ledger :=
  events.foldl after
    (settled ⟨.fresh ⟨3, 2⟩ .plain, (Screen.bind ⟨3, 2⟩ .plain .endless).1⟩)

/-- A draw that succeeds but sends nothing leaves the letter of the abandoned canvas on the
console. -/
theorem owed_after_goingBack :
    ((afterAll goingBack).attachment.draw (Attachment.sheet "a")).2 = .ok () ∧
    ((afterAll goingBack).draw (Attachment.sheet "a")).owed 0 = true ∧
    (((afterAll goingBack).draw (Attachment.sheet "a")).attachment.display
      ⟨.initial, .ground⟩).cells 0 0 = ⟨'b', .standard⟩ ∧
    (Attachment.sheet "a").glyph .plain 0 0 = ⟨'a', .standard⟩ := by
  decide +kernel

/-- Forgetting in between what was shown settles everything. -/
theorem draw_settles_after_invalidate :
    Screen.bind ⟨3, 2⟩ .plain .endless =
      ((Screen.bind ⟨3, 2⟩ .plain .endless).1, .ok (.fresh ⟨3, 2⟩ .plain)) ∧
    (∀ c, .call (.draw c) ∈ goingBack ++ [.call .invalidate] → c.WellFormed) ∧
    ((afterAll (goingBack ++ [.call .invalidate])).attachment.draw (Attachment.sheet "a")).2 =
      .ok () ∧
    (∀ y,
      ((afterAll (goingBack ++ [.call .invalidate])).draw (Attachment.sheet "a")).owed y = false) ∧
    (((afterAll (goingBack ++ [.call .invalidate])).draw (Attachment.sheet "a")).attachment.display
      ⟨.initial, .ground⟩).Shows .plain (Attachment.sheet "a") 0 := by
  have hletter : ∀ c, .call (.draw c) ∈ goingBack ++ [.call .invalidate] → c.WellFormed := by
    intro c hc
    simp only [goingBack, List.cons_append, List.nil_append, List.mem_cons, Event.call.injEq,
      Call.draw.injEq, List.not_mem_nil, reduceCtorEq, or_false, false_or] at hc
    rcases hc with rfl | rfl
    · exact Attachment.wellFormed_sheet (by decide)
    · exact Attachment.wellFormed_sheet (by decide)
  have hbind : Screen.bind ⟨3, 2⟩ .plain .endless =
      ((Screen.bind ⟨3, 2⟩ .plain .endless).1, .ok (.fresh ⟨3, 2⟩ .plain)) := rfl
  have hok : ((afterAll (goingBack ++ [.call .invalidate])).attachment.draw
      (Attachment.sheet "a")).2 = .ok () := by decide +kernel
  have hsheet : (Attachment.sheet "a").WellFormed := Attachment.wellFormed_sheet (by decide)
  obtain ⟨hsettled, hshows⟩ := draw_settles_iff ⟨.initial, .ground⟩ hbind hletter hsheet hok
  have hnone := hsettled.mpr fun y p _ hbase => by cases hbase
  exact ⟨hbind, hletter, hok, hnone, hshows 0 (by decide +kernel) (hnone 0)⟩

end Ledger

end StatusBoard.Terminal
