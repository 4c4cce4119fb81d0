import StatusBoard.Compose
import StatusBoard.Proofs.Canvas.Drawing
import StatusBoard.Proofs.Log.Wrapping

/-!
Pictures of the board are drawn like any other, so what drawing keeps, composing keeps.

The main result is that every canvas drawn or composed is well formed exactly as long as no
character of three columns is left on it.
-/

namespace StatusBoard

open Text Canvas

variable {p : Char → Prop} {c d : Canvas}

theorem Frame.draws_drawSpans (h : Draws p c d) (hc : c.width < maxCoord) {spans : List Span}
    (hspans : ∀ s ∈ spans, Allows p s.text.toList) (area : Rect) (col y : Nat) :
    Draws p c (drawSpans d area col y spans) := by
  induction spans generalizing d col with
  | nil => exact h
  | cons s rest ih =>
      exact ih (h.putText hc (hspans s List.mem_cons_self) _ _ _ _)
        (fun s' hs' => hspans s' (List.mem_cons_of_mem _ hs')) _

theorem Frame.draws_place (hc : c.width < maxCoord) (area : Rect) {q : Progress}
    (h : Draws p c q.canvas) {e : Entry} (he : ∀ s ∈ e.spans, Allows p s.text.toList) :
    Draws p c (q.place area e).canvas := by
  unfold Progress.place
  split
  · simp only
    split
    · exact h
    · exact draws_drawSpans h hc he _ _ _
  · simp only
    split
    · exact h
    · exact draws_drawSpans h hc he _ _ _

theorem Frame.draws_drawLogRows (h : Draws p c d) (hc : c.width < maxCoord) {rows : List Log.Line}
    (hrows : ∀ r ∈ rows, Allows p r.text.toList) (area : Rect) (y : Nat) :
    Draws p c (drawLogRows d area y rows) := by
  induction rows generalizing d y with
  | nil => exact h
  | cons r rest ih =>
      exact ih (h.putText hc (hrows r List.mem_cons_self) _ _ _ _)
        (fun r' hr' => hrows r' (List.mem_cons_of_mem _ hr')) _

theorem Frame.draws_drawLogPane (h : Draws p c d) (hc : c.width < maxCoord)
    (hp : ∀ ch ∈ furniture, p ch) {log : Log.Body}
    (hlog : ∀ l ∈ log.lines, Allows p l.text.toList) (area : Rect) :
    Draws p c (drawLogPane d area log) := by
  have hbox : Draws p c (d.drawBox area none) := h.drawBox hc hp area (by simp)
  unfold drawLogPane
  simp only
  split
  · exact hbox
  · refine draws_drawLogRows hbox hc ?_ _ _
    intro row hrow ch hch hcols
    rcases Log.mem_of_mem_tail hrow hch with ⟨l, hl, hmem⟩ | rfl
    · exact hlog l hl ch hmem hcols
    · exact hp _ (by decide)

theorem Frame.draws_render (h : Draws p c d) (hc : c.width < maxCoord)
    (hp : ∀ ch ∈ furniture, p ch) {f : Frame} {log : Log.Body}
    (hframe : ∀ e ∈ f.entries, ∀ s ∈ e.spans, Allows p s.text.toList)
    (hlog : ∀ l ∈ log.lines, Allows p l.text.toList) (area : Rect) :
    Draws p c (f.render d area log) := by
  have hentries : ∀ (es : List Entry) (q : Progress), Draws p c q.canvas →
      (∀ e ∈ es, ∀ s ∈ e.spans, Allows p s.text.toList) →
      Draws p c (es.foldl (Progress.place area) q).canvas := by
    intro es
    induction es with
    | nil => exact fun q hq _ => hq
    | cons e es ih =>
        intro q hq hes
        exact ih _ (draws_place hc area hq (hes e List.mem_cons_self))
          fun e' he' => hes e' (List.mem_cons_of_mem _ he')
  have hall := hentries f.entries ⟨d, .all area.y, .all area.bottom⟩ h hframe
  unfold render
  split
  · exact h
  · simp only
    split
    · exact draws_drawLogPane hall hc hp hlog _
    · exact hall

theorem Modal.draws_drawRows (h : Draws p c d) (hc : c.width < maxCoord) {rows : List String}
    (hrows : ∀ r ∈ rows, Allows p r.toList) (area : Rect) (y : Nat) :
    Draws p c (drawRows d area y rows) := by
  induction rows generalizing d y with
  | nil => exact h
  | cons r rest ih =>
      exact ih (h.putText hc (hrows r List.mem_cons_self) _ _ _ _)
        (fun r' hr' => hrows r' (List.mem_cons_of_mem _ hr')) _

theorem Modal.allows_progressBar (hp : ∀ ch ∈ furniture, p ch) (f : Float) (width : Nat) :
    Allows p (progressBar f width).toList := by
  intro ch hch _
  rw [progressBar, String.toList_ofList, List.mem_append] at hch
  rcases hch with h | h
  · rw [List.eq_of_mem_replicate h]
    exact hp _ (by decide)
  · rw [List.eq_of_mem_replicate h]
    exact hp _ (by decide)

theorem Modal.draws_render (h : Draws p c d) (hc : c.width < maxCoord)
    (hp : ∀ ch ∈ furniture, p ch) {m : Modal} (htitle : Allows p m.title.toList)
    (hmessage : Allows p m.message.toList) (screen : Rect) : Draws p c (m.render d screen) := by
  have hrows : ∀ n k, ∀ r ∈ (m.messageLines n).take k, Allows p r.toList := by
    intro n k row hrow ch hch hcols
    obtain ⟨line, hline, hwrapped⟩ := List.mem_flatMap.mp (List.mem_of_mem_take hrow)
    rcases Log.mem_of_mem_wrapLine hwrapped hch with hmem | rfl
    · exact hmessage ch (mem_of_mem_lines hline hmem) hcols
    · exact hp _ (by decide)
  unfold render
  simp only
  split
  · exact h
  · have htitle' : ∀ t ∈ some m.title, Allows p t.toList := by
      rintro t ht
      obtain rfl := Option.some.inj ht
      exact htitle
    have hbox := (h.fill (layout screen) .normal columns_space (hp _ (by decide))).drawBox hc hp
      (layout screen) htitle'
    have hbody := draws_drawRows hbox hc (hrows (layout screen).inner.width
      (m.messageRows (layout screen))) (layout screen).inner (layout screen).inner.y
    split
    · exact (hbody.drawSeparator hp _ _).putText hc (allows_progressBar hp _ _) _ _ _ _
    · exact hbody

/-- The texts that a picture of the board is made of. -/
def writtenChars (frame : Frame) (log : Log.Body) (pages : Pages) : List Char :=
  (frame.entries.flatMap fun e => e.spans.flatMap fun s => s.text.toList) ++
  (log.lines.toList.flatMap fun l => l.text.toList) ++
  pages.entries.flatMap fun e => match e.2 with
    | .frame => []
    | .modal m => m.title.toList ++ m.message.toList

theorem Page.draws_render (h : Draws p c d) (hc : c.width < maxCoord)
    (hp : ∀ ch ∈ furniture, p ch) {frame : Frame} {log : Log.Body} {pages : Pages}
    (htext : Allows p (writtenChars frame log pages)) {e : String × Page}
    (he : e ∈ pages.entries) : Draws p c (e.2.render frame log d) := by
  obtain ⟨name, page⟩ := e
  cases page with
  | frame =>
      refine Frame.draws_render h hc hp ?_ ?_ _
      · intro e he s hs ch hch
        exact htext ch (List.mem_append_left _ (List.mem_append_left _
          (List.mem_flatMap.mpr ⟨e, he, List.mem_flatMap.mpr ⟨s, hs, hch⟩⟩)))
      · intro l hl ch hch
        exact htext ch (List.mem_append_left _ (List.mem_append_right _
          (List.mem_flatMap.mpr ⟨l, Array.mem_toList_iff.mpr hl, hch⟩)))
  | modal m =>
      have hmem : ∀ ch ∈ m.title.toList ++ m.message.toList, 0 < columns ch → p ch := by
        intro ch hch
        exact htext ch (List.mem_append_right _ (List.mem_flatMap.mpr ⟨_, he, hch⟩))
      exact Modal.draws_render h hc hp (fun ch hch => hmem ch (List.mem_append_left _ hch))
        (fun ch hch => hmem ch (List.mem_append_right _ hch)) _

theorem draws_compose {w : Nat} (hw : w < maxCoord) (h : Nat) (hp : ∀ ch ∈ furniture, p ch)
    {frame : Frame} {log : Log.Body} {pages : Pages}
    (htext : Allows p (writtenChars frame log pages)) :
    Draws p (blank w h) (compose frame log pages w h) := by
  have hpages : ∀ (es : List (String × Page)) (d : Canvas), Draws p (blank w h) d →
      (∀ e ∈ es, e ∈ pages.entries) →
      Draws p (blank w h) (es.foldl (fun c e => e.2.render frame log c) d) := by
    intro es
    induction es with
    | nil => exact fun d hd _ => hd
    | cons e es ih =>
        intro d hd hes
        exact ih _ (Page.draws_render hd hw hp htext (hes e List.mem_cons_self))
          fun e' he' => hes e' (List.mem_cons_of_mem _ he')
  exact hpages pages.entries _ .refl fun _ he => he

/-! ## Well-formed pictures -/

/-- Everything drawn or composed is well formed as long as no character of three columns is left
on it, and only then; the texts decide whether one can be.  A well-formed row prints the columns
it has. -/
theorem wellFormed_iff_no_beyyal {w : Nat} (hw : w < maxCoord) (h : Nat) {strokes : List Stroke}
    (hstrokes : ∀ s ∈ strokes, s.IsRegular) (frame : Frame) (log : Log.Body) (pages : Pages) :
    ((Stroke.picture w h strokes).WellFormed ↔
      (Stroke.picture w h strokes).AllCells (· ≠ beyyal)) ∧
    ((∀ s ∈ strokes, beyyal ∉ s.chars) → (Stroke.picture w h strokes).WellFormed) ∧
    (h < maxCoord →
      ((compose frame log pages w h).WellFormed ↔
        (compose frame log pages w h).AllCells (· ≠ beyyal)) ∧
      (beyyal ∉ writtenChars frame log pages → (compose frame log pages w h).WellFormed)) ∧
    ∀ c : Canvas, c.WellFormed → ∀ y < c.height, Cell.printedColumns (c.row y) = c.width := by
  have hdrawn : Draws (fun _ => True) (blank w h) (Stroke.picture w h strokes) :=
    Stroke.draws_picture hw h hstrokes (fun _ _ => trivial) fun _ _ _ _ _ => trivial
  have hcomposed : Draws (fun _ => True) (blank w h) (compose frame log pages w h) :=
    draws_compose hw h (fun _ _ => trivial) fun _ _ _ => trivial
  refine ⟨hdrawn.wellFormed_iff, fun hfree => Stroke.wellFormed_picture hw h hstrokes hfree,
    fun _ => ⟨hcomposed.wellFormed_iff, fun hfree => hcomposed.wellFormed_iff.mpr ?_⟩,
    fun c hc y hy => hc.printedColumns_row hy⟩
  refine (draws_compose hw h (fun ch hch => ne_beyyal_of_columns (columns_furniture ch hch))
    ?_).allCells_ne_beyyal
  rintro ch hch - rfl
  exact hfree hch

/-- A box whose title cuts a text of double columns, and an empty board. -/
theorem wellFormed_cut_title :
    (∀ s ∈ [Stroke.text 1 0 "日本" .normal 8, .box ⟨0, 0, 8, 3⟩ (some "本")], s.IsRegular) ∧
    (Stroke.picture 8 3 [.text 1 0 "日本" .normal 8, .box ⟨0, 0, 8, 3⟩ (some "本")]).WellFormed ∧
    (compose .empty (.empty 5) .base 8 3).WellFormed ∧
    Cell.printedColumns ((compose .empty (.empty 5) .base 8 3).row 0) = 8 := by
  have hregular : ∀ s ∈ [Stroke.text 1 0 "日本" .normal 8, .box ⟨0, 0, 8, 3⟩ (some "本")],
      s.IsRegular := by
    intro s hs
    simp only [List.mem_cons, List.not_mem_nil, or_false] at hs
    rcases hs with rfl | rfl
    · trivial
    · exact ⟨by decide, by decide⟩
  have hfree : ∀ s ∈ [Stroke.text 1 0 "日本" .normal 8, .box ⟨0, 0, 8, 3⟩ (some "本")],
      beyyal ∉ s.chars := by
    intro s hs
    simp only [List.mem_cons, List.not_mem_nil, or_false] at hs
    rcases hs with rfl | rfl <;> decide
  obtain ⟨-, hdrawn, hcomposed, hrows⟩ :=
    wellFormed_iff_no_beyyal (show 8 < maxCoord by decide) 3 hregular .empty (.empty 5) .base
  have hboard := (hcomposed (by decide)).2 (by decide)
  exact ⟨hregular, hdrawn hfree, hboard, hrows _ hboard 0 (by decide)⟩

/-- One such character is enough: the cell that holds it has neither one column nor two. -/
theorem not_wellFormed_beyyal :
    ¬ (Stroke.picture 4 1 [.text 0 0 "\u17d8" .normal 4]).WellFormed := by
  intro h
  have hcell : (Stroke.picture 4 1 [.text 0 0 "\u17d8" .normal 4]).cell? 0 0 =
      some ⟨beyyal, .normal⟩ := by decide +kernel
  have := h.narrow 0 0 _ hcell (by decide) (by decide +kernel)
  simp [columns_eq_three_iff.mpr rfl] at this

end StatusBoard
