import StatusBoard.Log.Body
import Mathlib.Data.List.DropRight
import Mathlib.Data.List.SplitBy

/-!
What a log holds, told from the text of its records alone.

The text of all records, taken apart after each newline, gives the lines of the log, of which the
last ones are kept.  How the text is cut into records shows in the severities and nowhere else.
-/

namespace StatusBoard.Log

open Text

/-- The characters of some records, each with the severity of its record. -/
def written (rs : List Record) : List (Char × Severity) :=
  rs.flatMap fun r => r.text.toList.map (·, r.severity)

/-- A text taken apart after each newline. -/
def pieces (cs : List (Char × Severity)) : List (List (Char × Severity)) :=
  cs.splitBy fun a _ => a.1 ≠ '\n'

def gravest (vs : List Severity) : Severity := vs.foldl Severity.graver .info

/-- The line that a piece of text is shown as. -/
def lineOf (piece : List (Char × Severity)) : Line :=
  { severity := gravest (piece.map Prod.snd)
    text := String.ofList
      (((piece.map Prod.fst).map fun c => if c = '\t' then ' ' else c).filter (!isControl ·)) }

/-- Whether a text goes on after its last newline. -/
def isOpenText (cs : List (Char × Severity)) : Bool := cs.getLast?.any (·.1 ≠ '\n')

namespace Body

def ofRecords (maxLines : Nat) (rs : List Record) : Body := rs.foldl append (empty maxLines)

end Body

/-! ## Segments -/

namespace Segment

def chars (s : Segment) : List Char := s.text ++ if s.closed then ['\n'] else []

/-- A segment has no newline but the one that ends it, and is not empty. -/
structure IsProper (s : Segment) : Prop where
  newline_not_mem : '\n' ∉ s.text
  chars_ne_nil : s.chars ≠ []

end Segment

theorem segments_newline (cs : List Char) : segments ('\n' :: cs) = ⟨[], true⟩ :: segments cs := by
  obtain ⟨field, fields, hsplit⟩ := List.exists_cons_of_ne_nil (split_ne_nil (· == '\n') cs)
  have hcons : split (· == '\n') ('\n' :: cs) = [] :: field :: fields := by
    rw [split_cons_sep rfl, hsplit]
  rw [segments, segments, hcons, hsplit]
  rfl

theorem segments_cons {c : Char} (hc : c ≠ '\n') (cs : List Char) :
    ∃ text closed rest, segments (c :: cs) = ⟨c :: text, closed⟩ :: rest ∧
      (segments cs = ⟨text, closed⟩ :: rest ∨
        segments cs = [] ∧ text = [] ∧ closed = false ∧ rest = []) := by
  obtain ⟨field, fields, hsplit, hcons⟩ :=
    split_cons_other (p := (· == '\n')) (beq_eq_false_iff_ne.mpr hc) cs
  rw [segments, segments, hcons, hsplit]
  cases fields with
  | nil =>
      by_cases hfield : field = []
      · exact ⟨[], false, [], by simp [hfield], .inr (by simp [hfield])⟩
      · exact ⟨field, false, [], by simp, .inl (by simp [hfield])⟩
  | cons next fields => exact ⟨field, true, _, rfl, .inl rfl⟩

theorem flatMap_chars_segments (cs : List Char) : (segments cs).flatMap Segment.chars = cs := by
  induction cs with
  | nil => rfl
  | cons c cs ih =>
      by_cases hc : c = '\n'
      · rw [hc, segments_newline, List.flatMap_cons, ih]
        rfl
      · obtain ⟨text, closed, rest, hcons, hsegments | ⟨hsegments, rfl, rfl, rfl⟩⟩ :=
          segments_cons hc cs
        · rw [hsegments] at ih
          rw [hcons, ← ih]
          rfl
        · rw [hsegments] at ih
          rw [hcons, ← ih]
          rfl

theorem isProper_of_mem_segments {cs : List Char} {s : Segment} (h : s ∈ segments cs) :
    s.IsProper := by
  induction cs generalizing s with
  | nil => simp [segments] at h
  | cons c cs ih =>
      by_cases hc : c = '\n'
      · rw [hc, segments_newline] at h
        rcases List.mem_cons.mp h with rfl | h
        · exact ⟨by simp, by simp [Segment.chars]⟩
        · exact ih h
      · obtain ⟨text, closed, rest, hcons, hsegments⟩ := segments_cons hc cs
        rw [hcons] at h
        rcases List.mem_cons.mp h with rfl | h
        · have htext : '\n' ∉ text := by
            rcases hsegments with hsegments | ⟨-, rfl, -, -⟩
            · exact (ih (hsegments ▸ List.mem_cons_self)).newline_not_mem
            · simp
          refine ⟨?_, by simp [Segment.chars]⟩
          rintro (_ | hmem)
          · exact hc rfl
          · exact htext ‹_›
        · rcases hsegments with hsegments | ⟨-, -, -, rfl⟩
          · exact ih (hsegments ▸ List.mem_cons_of_mem _ h)
          · simp at h

/-! ## Pieces -/

theorem isOpenText_append (cs : List (Char × Severity)) {x : List (Char × Severity)} (h : x ≠ []) :
    isOpenText (cs ++ x) = isOpenText x := by
  rw [isOpenText, isOpenText, List.getLast?_append_of_ne_nil _ h]

theorem isChain_append_of_ne_newline {q x : List (Char × Severity)} (hq : ∀ a ∈ q, a.1 ≠ '\n')
    (hx : x.IsChain fun a _ => decide (a.1 ≠ '\n') = true) :
    (q ++ x).IsChain fun a _ => decide (a.1 ≠ '\n') = true := by
  induction q with
  | nil => exact hx
  | cons a q ih =>
      rw [List.cons_append, List.isChain_cons]
      refine ⟨?_, ih fun b hb => hq b (List.mem_cons_of_mem a hb)⟩
      intro _ _
      exact decide_eq_true (hq a List.mem_cons_self)

theorem pieces_append_of_closed {cs : List (Char × Severity)} (h : isOpenText cs = false)
    (x : List (Char × Severity)) : pieces (cs ++ x) = pieces cs ++ pieces x := by
  apply List.splitBy_append
  intro a ha _ _
  rw [isOpenText, Option.mem_def.mp ha, Option.any_some] at h
  exact h

theorem exists_closed_append {cs : List (Char × Severity)} (h : isOpenText cs = true) :
    ∃ before q, cs = before ++ q ∧ isOpenText before = false ∧ q ≠ [] ∧ ∀ a ∈ q, a.1 ≠ '\n' := by
  induction cs using List.reverseRecOn with
  | nil => cases h
  | append_singleton cs c ih =>
      have hc : c.1 ≠ '\n' := by
        rw [isOpenText_append cs (List.cons_ne_nil c [])] at h
        simpa [isOpenText] using h
      cases hopen : isOpenText cs with
      | false =>
          refine ⟨cs, [c], rfl, hopen, List.cons_ne_nil c [], ?_⟩
          intro a ha
          rw [List.mem_singleton.mp ha]
          exact hc
      | true =>
          obtain ⟨before, q, rfl, hclosed, -, hq⟩ := ih hopen
          refine ⟨before, q ++ [c], List.append_assoc .., hclosed, by simp, ?_⟩
          intro a ha
          rcases List.mem_append.mp ha with ha | ha
          · exact hq a ha
          · rw [List.mem_singleton.mp ha]
            exact hc

/-- What comes after text that is open goes to its last piece. -/
theorem pieces_append_of_open {cs : List (Char × Severity)} (h : isOpenText cs = true) :
    ∃ before q, pieces cs = before ++ [q] ∧
      ∀ x, x.IsChain (fun a _ => decide (a.1 ≠ '\n') = true) →
        pieces (cs ++ x) = before ++ [q ++ x] := by
  obtain ⟨before, q, rfl, hclosed, hne, hq⟩ := exists_closed_append h
  have hpieces : ∀ x, x.IsChain (fun a _ => decide (a.1 ≠ '\n') = true) →
      pieces (before ++ q ++ x) = pieces before ++ [q ++ x] := by
    intro x hx
    have hwhole : pieces (q ++ x) = [q ++ x] :=
      List.splitBy_of_isChain (by simp [hne]) (isChain_append_of_ne_newline hq hx)
    rw [List.append_assoc, pieces_append_of_closed hclosed, hwhole]
  refine ⟨pieces before, q, ?_, hpieces⟩
  have hnothing := hpieces [] List.isChain_nil
  rwa [List.append_nil, List.append_nil] at hnothing

section

variable {s : Segment} (hs : s.IsProper) (v : Severity)

include hs

theorem Segment.IsProper.isChain :
    (s.chars.map (·, v)).IsChain fun a _ => decide (a.1 ≠ '\n') = true := by
  rw [Segment.chars, List.map_append]
  apply isChain_append_of_ne_newline
  · intro a ha
    obtain ⟨c, hc, rfl⟩ := List.mem_map.mp ha
    rintro rfl
    exact hs.newline_not_mem hc
  · cases s.closed <;> simp

theorem Segment.IsProper.isOpenText : isOpenText (s.chars.map (·, v)) = !s.closed := by
  obtain ⟨text, closed⟩ := s
  cases closed with
  | true => simp [Segment.chars, Log.isOpenText]
  | false =>
      have hne : text ≠ [] := by simpa [Segment.chars] using hs.chars_ne_nil
      have hlast : text.getLast hne ≠ '\n' := fun h =>
        hs.newline_not_mem (h ▸ List.getLast_mem hne)
      simp [Segment.chars, Log.isOpenText, List.getLast?_eq_some_getLast hne, hlast]

end

/-! ## Lines -/

theorem graver_graver_self (u v : Severity) : (u.graver v).graver v = u.graver v := by
  cases u <;> cases v <;> rfl

theorem rank_graver (u v : Severity) : (u.graver v).rank = max u.rank v.rank := by
  cases u <;> cases v <;> rfl

theorem gravest_append_replicate (us : List Severity) (v : Severity) (n : Nat) :
    gravest (us ++ List.replicate (n + 1) v) = (gravest us).graver v := by
  induction n with
  | zero => exact List.foldl_append
  | succ n ih =>
      rw [List.replicate_succ', ← List.append_assoc, gravest, List.foldl_append]
      change (gravest (us ++ List.replicate (n + 1) v)).graver v = _
      rw [ih, graver_graver_self]

theorem foldl_graver_mem (u : Severity) (vs : List Severity) :
    vs.foldl Severity.graver u ∈ u :: vs := by
  induction vs generalizing u with
  | nil => exact List.mem_singleton.mpr rfl
  | cons v vs ih =>
      have hmem := ih (u.graver v)
      have hgraver : u.graver v = u ∨ u.graver v = v := by
        rw [Severity.graver]
        split
        · exact .inr rfl
        · exact .inl rfl
      rw [List.mem_cons] at hmem ⊢
      rcases hmem with hmem | hmem
      · rcases hgraver with hu | hv
        · exact .inl (hmem.trans hu)
        · exact .inr (List.mem_cons.mpr (.inl (hmem.trans hv)))
      · exact .inr (List.mem_cons_of_mem v hmem)

theorem gravest_mem {vs : List Severity} (h : vs ≠ []) : gravest vs ∈ vs := by
  cases vs with
  | nil => exact absurd rfl h
  | cons v vs =>
      have hinfo : Severity.info.graver v = v := by cases v <;> rfl
      rw [gravest, List.foldl_cons, hinfo]
      exact foldl_graver_mem v vs

theorem rank_le_rank_foldl_graver {u v : Severity} {vs : List Severity} (h : v ∈ u :: vs) :
    v.rank ≤ (vs.foldl Severity.graver u).rank := by
  induction vs generalizing u v with
  | nil =>
      rw [List.mem_singleton.mp h]
      exact Nat.le_refl _
  | cons w vs ih =>
      have hgraver : (u.graver w).rank ≤ (vs.foldl Severity.graver (u.graver w)).rank :=
        ih List.mem_cons_self
      rw [rank_graver] at hgraver
      rcases List.mem_cons.mp h with rfl | h
      · exact Nat.le_trans (Nat.le_max_left ..) hgraver
      · rcases List.mem_cons.mp h with rfl | h
        · exact Nat.le_trans (Nat.le_max_right ..) hgraver
        · exact ih (List.mem_cons_of_mem _ h)

theorem rank_le_rank_gravest {v : Severity} {vs : List Severity} (h : v ∈ vs) :
    v.rank ≤ (gravest vs).rank :=
  rank_le_rank_foldl_graver (List.mem_cons_of_mem _ h)

theorem sanitize_eq (cs : List Char) :
    sanitize cs = (cs.map fun c => if c = '\t' then ' ' else c).filter (!isControl ·) := by
  induction cs with
  | nil => rfl
  | cons c cs ih =>
      rw [sanitize, List.filterMap_cons, List.map_cons, List.filter_cons, ← ih]
      by_cases htab : c = '\t'
      · simp [htab, sanitize, show isControl ' ' = false from rfl]
      · cases hcontrol : isControl c <;> simp [htab, hcontrol, sanitize]

theorem sanitize_chars (s : Segment) : sanitize s.chars = sanitize s.text := by
  rw [Segment.chars, sanitize, List.filterMap_append]
  cases s.closed with
  | true => exact List.append_nil _
  | false => exact List.append_nil _

theorem lineOf_append (q : List (Char × Severity)) {cs : List Char} (hcs : cs ≠ [])
    (v : Severity) :
    lineOf (q ++ cs.map (·, v)) =
      ⟨(lineOf q).severity.graver v, (lineOf q).text ++ String.ofList (sanitize cs)⟩ := by
  have hseverities : (cs.map (·, v)).map Prod.snd = List.replicate (cs.length - 1 + 1) v := by
    rw [List.map_map, Nat.sub_add_cancel (List.length_pos_iff.mpr hcs)]
    exact List.map_const' ..
  have hchars : (cs.map (·, v)).map Prod.fst = cs := by
    rw [List.map_map]
    exact List.map_id cs
  simp only [lineOf, List.map_append, List.filter_append, hseverities, hchars, sanitize_eq,
    String.ofList_append, gravest_append_replicate]

theorem lineOf_chars {cs : List Char} (hcs : cs ≠ []) (v : Severity) :
    lineOf (cs.map (·, v)) = ⟨v, String.ofList (sanitize cs)⟩ := by
  have hnothing := lineOf_append [] hcs v
  have hinfo : (lineOf []).severity.graver v = v := by cases v <;> rfl
  rw [List.nil_append, hinfo] at hnothing
  rw [hnothing]
  simp [lineOf]

/-! ## Bodies -/

theorem rtake_rtake {α : Type} (l : List α) {m k : Nat} (h : m ≤ k) :
    (l.rtake k).rtake m = l.rtake m := by
  rw [List.rtake, List.rtake, List.rtake, List.drop_drop, List.length_drop]
  congr 1
  omega

theorem rtake_rtake_append {α : Type} (l l' : List α) (k : Nat) :
    (l.rtake k ++ l').rtake k = (l ++ l').rtake k := by
  simp only [List.rtake, List.drop_append, List.drop_drop, List.length_append, List.length_drop]
  congr 2
  · omega
  · omega

namespace Body

/-- The log holds the last `k` lines of a text. -/
structure Holds (b : Body) (cs : List (Char × Severity)) (k : Nat) : Prop where
  lines : b.lines.toList = ((pieces cs).map lineOf).rtake k
  isOpen : b.isOpen = isOpenText cs

theorem holds_empty (maxLines k : Nat) : (empty maxLines).Holds [] k :=
  ⟨List.rtake_nil k |>.symm, rfl⟩

section

variable {b : Body} {cs : List (Char × Severity)} {k : Nat} {v : Severity} {s : Segment}

theorem Holds.addSegment_of_closed (h : b.Holds cs k) (hs : s.IsProper)
    (hclosed : isOpenText cs = false) :
    (b.addSegment v s).Holds (cs ++ s.chars.map (·, v)) (k + 1) := by
  have hne : s.chars.map (·, v) ≠ [] := by simpa using hs.chars_ne_nil
  have hpiece : pieces (s.chars.map (·, v)) = [s.chars.map (·, v)] :=
    List.splitBy_of_isChain hne (hs.isChain v)
  have hlines : (b.addSegment v s).lines = b.lines.push ⟨v, String.ofList (sanitize s.text)⟩ := by
    simp [addSegment, h.isOpen, hclosed]
  constructor
  · rw [hlines, Array.toList_push, h.lines, pieces_append_of_closed hclosed, hpiece,
      List.map_append, List.map_singleton, List.rtake_concat_succ, lineOf_chars hs.chars_ne_nil,
      sanitize_chars]
  · rw [isOpenText_append cs hne, hs.isOpenText v]
    rfl

theorem Holds.addSegment_of_open (h : b.Holds cs (k + 1)) (hs : s.IsProper)
    (hopen : isOpenText cs = true) :
    (b.addSegment v s).Holds (cs ++ s.chars.map (·, v)) (k + 1) := by
  have hne : s.chars.map (·, v) ≠ [] := by simpa using hs.chars_ne_nil
  obtain ⟨before, q, hpieces, hcontinued⟩ := pieces_append_of_open hopen
  have hbefore : b.lines = (((before.map lineOf).rtake k).toArray).push (lineOf q) := by
    apply Array.toList_inj.mp
    rw [h.lines, hpieces, List.map_append, List.map_singleton, List.rtake_concat_succ]
    simp
  have hlines : (b.addSegment v s).lines = (((before.map lineOf).rtake k).toArray).push
      ⟨(lineOf q).severity.graver v, (lineOf q).text ++ String.ofList (sanitize s.text)⟩ := by
    simp [addSegment, h.isOpen, hopen, hbefore]
  constructor
  · rw [hlines, hcontinued _ (hs.isChain v), List.map_append, List.map_singleton,
      List.rtake_concat_succ, lineOf_append q hs.chars_ne_nil, sanitize_chars]
    simp
  · rw [isOpenText_append cs hne, hs.isOpenText v]
    rfl

/-- Lines are not given up before the whole record has been added, and then only the first. -/
theorem Holds.foldl_addSegment {segs : List Segment} (h : b.Holds cs k) (hk : 0 < k)
    (hsegs : ∀ s ∈ segs, s.IsProper) :
    ∃ k' ≥ k, (segs.foldl (addSegment v) b).Holds
      (cs ++ (segs.flatMap Segment.chars).map (·, v)) k' := by
  -- a segment adds a line or goes to the last one, so the number of lines kept does not fall
  induction segs generalizing b cs k with
  | nil => exact ⟨k, Nat.le_refl k, by simpa using h⟩
  | cons s segs ih =>
      have hs := hsegs s List.mem_cons_self
      have hstep : ∃ k' ≥ k, (b.addSegment v s).Holds (cs ++ s.chars.map (·, v)) k' := by
        cases hopen : isOpenText cs with
        | false => exact ⟨k + 1, Nat.le_succ k, h.addSegment_of_closed hs hopen⟩
        | true =>
            obtain ⟨k, rfl⟩ := Nat.exists_eq_succ_of_ne_zero (Nat.ne_of_gt hk)
            exact ⟨k + 1, Nat.le_refl _, h.addSegment_of_open hs hopen⟩
      obtain ⟨k₁, hk₁, hadded⟩ := hstep
      obtain ⟨k₂, hk₂, hall⟩ := ih hadded (by omega) fun s' hs' =>
        hsegs s' (List.mem_cons_of_mem s hs')
      refine ⟨k₂, by omega, ?_⟩
      rwa [List.append_assoc, ← List.map_append] at hall

theorem Holds.evict (h : b.Holds cs k) (hk : b.maxLines ≤ k) : b.evict.Holds cs b.maxLines := by
  have hlines : b.evict.lines.toList = b.lines.toList.rtake b.maxLines := by
    rw [Body.evict, List.rtake, Array.length_toList]
    split
    · rw [Nat.sub_eq_zero_of_le ‹_›, List.drop_zero]
    · rw [Array.toList_extract, List.extract_eq_take_drop, ← Array.length_toList,
        ← List.length_drop, List.take_length]
  constructor
  · rw [hlines, h.lines, rtake_rtake _ hk]
  · rw [Body.evict]
    split
    · exact h.isOpen
    · exact h.isOpen

end

theorem maxLines_evict (b : Body) : b.evict.maxLines = b.maxLines := by
  rw [evict]
  split <;> rfl

@[simp] theorem maxLines_foldl_addSegment (b : Body) (v : Severity) (segs : List Segment) :
    (segs.foldl (addSegment v) b).maxLines = b.maxLines := by
  induction segs generalizing b with
  | nil => rfl
  | cons s segs ih => exact ih (b.addSegment v s)

@[simp] theorem maxLines_append (b : Body) (r : Record) : (b.append r).maxLines = b.maxLines := by
  rw [append, maxLines_evict, maxLines_foldl_addSegment]

theorem Holds.append {b : Body} {cs : List (Char × Severity)} (h : b.Holds cs b.maxLines)
    (r : Record) :
    (b.append r).Holds (cs ++ r.text.toList.map (·, r.severity)) (b.append r).maxLines := by
  have hproper : ∀ s ∈ segments r.text.toList, s.IsProper := fun _ => isProper_of_mem_segments
  obtain ⟨k, hk, hadded⟩ := h.foldl_addSegment (v := r.severity) b.maxLines_pos hproper
  rw [flatMap_chars_segments] at hadded
  have hkept := hadded.evict (by simpa using hk)
  rw [maxLines_foldl_addSegment] at hkept
  rwa [maxLines_append]

theorem Holds.foldl_append {b : Body} {cs : List (Char × Severity)} (h : b.Holds cs b.maxLines)
    (rs : List Record) :
    (rs.foldl Body.append b).maxLines = b.maxLines ∧
      (rs.foldl Body.append b).Holds (cs ++ written rs) b.maxLines := by
  induction rs generalizing b cs with
  | nil => exact ⟨rfl, by simpa [written] using h⟩
  | cons r rs ih =>
      have hrest := ih (h.append r)
      rw [maxLines_append, List.append_assoc] at hrest
      exact hrest

theorem ofRecords_concat (maxLines : Nat) (rs : List Record) (r : Record) :
    ofRecords maxLines (rs ++ [r]) = (ofRecords maxLines rs).append r :=
  List.foldl_concat ..

theorem maxLines_ofRecords (maxLines : Nat) (rs : List Record) :
    (ofRecords maxLines rs).maxLines = max maxLines 1 :=
  ((holds_empty maxLines _).foldl_append rs).1

theorem holds_ofRecords (maxLines : Nat) (rs : List Record) :
    (ofRecords maxLines rs).Holds (written rs) (max maxLines 1) :=
  ((holds_empty maxLines _).foldl_append rs).2

/-- A log does not tell how its text was cut into records. -/
theorem ofRecords_congr {rs rs' : List Record} (h : written rs = written rs') (maxLines : Nat) :
    ofRecords maxLines rs = ofRecords maxLines rs' := by
  have hlines : (ofRecords maxLines rs).lines = (ofRecords maxLines rs').lines := by
    apply Array.toList_inj.mp
    rw [(holds_ofRecords maxLines rs).lines, (holds_ofRecords maxLines rs').lines, h]
  have hopen : (ofRecords maxLines rs).isOpen = (ofRecords maxLines rs').isOpen := by
    rw [(holds_ofRecords maxLines rs).isOpen, (holds_ofRecords maxLines rs').isOpen, h]
  have hmax : (ofRecords maxLines rs).maxLines = (ofRecords maxLines rs').maxLines := by
    rw [maxLines_ofRecords, maxLines_ofRecords]
  generalize ofRecords maxLines rs = b at hlines hopen hmax ⊢
  generalize ofRecords maxLines rs' = b' at hlines hopen hmax ⊢
  cases b
  cases b'
  cases hlines
  cases hopen
  cases hmax
  rfl

theorem written_append (rs rs' : List Record) : written (rs ++ rs') = written rs ++ written rs' :=
  List.flatMap_append

theorem written_join (v : Severity) (parts : List String) :
    written [⟨v, String.join parts⟩] = written (parts.map (⟨v, ·⟩)) := by
  induction parts with
  | nil => rfl
  | cons part parts ih =>
      simp only [written, List.flatMap_cons, List.flatMap_nil, List.append_nil, List.map_cons,
        String.join_cons, String.toList_append, List.map_append] at ih ⊢
      rw [ih]

/-- A log holds the last pieces of the whole text, each with the gravest severity that has a
character in it. -/
theorem holds_last_pieces (maxLines : Nat) (rs : List Record) :
    (written rs).map Prod.fst = rs.flatMap (·.text.toList) ∧
      (ofRecords maxLines rs).lines.toList =
        ((pieces (written rs)).map lineOf).rtake (max maxLines 1) ∧
      (∀ piece ∈ pieces (written rs),
        (lineOf piece).severity ∈ piece.map Prod.snd ∧
          ∀ v ∈ piece.map Prod.snd, v.rank ≤ (lineOf piece).severity.rank) ∧
      ((ofRecords maxLines rs).isOpen = true ↔
        rs.flatMap (·.text.toList) ≠ [] ∧ (rs.flatMap (·.text.toList)).getLast? ≠ some '\n') ∧
      ∀ before v parts after,
        ofRecords maxLines (before ++ ⟨v, String.join parts⟩ :: after) =
          ofRecords maxLines (before ++ parts.map (⟨v, ·⟩) ++ after) := by
  have hchars : (written rs).map Prod.fst = rs.flatMap (·.text.toList) := by
    rw [written, List.map_flatMap]
    simp [Function.comp_def]
  refine ⟨hchars, (holds_ofRecords maxLines rs).lines, ?_, ?_, ?_⟩
  · intro piece hpiece
    have hne : piece ≠ [] := List.ne_nil_of_mem_splitBy hpiece
    exact ⟨gravest_mem (by simpa using hne), fun v hv => rank_le_rank_gravest hv⟩
  · rw [(holds_ofRecords maxLines rs).isOpen, ← hchars, isOpenText, List.getLast?_map]
    cases hlast : (written rs).getLast? with
    | none => simp [List.getLast?_eq_none_iff.mp hlast]
    | some a =>
        have hne : written rs ≠ [] := fun h => by simp [h] at hlast
        simp [hne]
  · intro before v parts after
    apply ofRecords_congr
    rw [List.append_cons, written_append, written_append, written_append, written_append,
      written_join]

example :
    ofRecords 1 [⟨.info, "a\nb"⟩, ⟨.error, "c\r"⟩, ⟨.info, "\n"⟩] =
      ⟨#[⟨.error, "bc"⟩], false, 1, by decide⟩ := by decide

end Body

/-! ## Records of whole lines -/

/-- The lines that a record makes on its own. -/
def Record.lines (r : Record) : List Line := (pieces (written [r])).map lineOf

theorem Record.severity_of_mem_lines {r : Record} {line : Line} (h : line ∈ r.lines) :
    line.severity = r.severity := by
  obtain ⟨piece, hpiece, rfl⟩ := List.mem_map.mp h
  have hne : piece.map Prod.snd ≠ [] := by simpa using List.ne_nil_of_mem_splitBy hpiece
  obtain ⟨a, ha, hseverity⟩ := List.mem_map.mp (gravest_mem hne)
  have hwritten : a ∈ written [r] := by
    rw [← List.flatten_splitBy (fun a _ => decide (a.1 ≠ '\n')) (written [r])]
    exact List.mem_flatten_of_mem hpiece ha
  obtain ⟨r', hr', ha'⟩ := List.mem_flatMap.mp hwritten
  obtain ⟨c, -, rfl⟩ := List.mem_map.mp ha'
  rw [List.mem_singleton.mp hr'] at hseverity
  exact hseverity.symm

section

variable {rs : List Record} (h : ∀ r ∈ rs, r.text.toList.getLast? = some '\n')

include h

theorem isOpenText_written : isOpenText (written rs) = false := by
  induction rs using List.reverseRecOn with
  | nil => rfl
  | append_singleton rs r ih =>
      have hlast := h r (List.mem_concat_self ..)
      have hr : written [r] = r.text.toList.map (·, r.severity) := List.append_nil _
      have hne : written [r] ≠ [] := by
        intro hnil
        rw [hr, List.map_eq_nil_iff] at hnil
        rw [hnil] at hlast
        cases hlast
      rw [Body.written_append, isOpenText_append _ hne, hr, isOpenText, List.getLast?_map, hlast]
      rfl

theorem map_lineOf_pieces_written :
    (pieces (written rs)).map lineOf = rs.flatMap Record.lines := by
  induction rs using List.reverseRecOn with
  | nil => rfl
  | append_singleton rs r ih =>
      have hrs : ∀ r ∈ rs, r.text.toList.getLast? = some '\n' := fun r' hr' =>
        h r' (List.mem_append_left _ hr')
      rw [Body.written_append, pieces_append_of_closed (isOpenText_written hrs), List.map_append,
        ih hrs, List.flatMap_append, List.flatMap_singleton]
      rfl

/-- Records that end with a newline give a log that is not open their own lines. -/
theorem Body.ofRecords_append {maxLines : Nat} {earlier : List Record}
    (hclosed : (ofRecords maxLines earlier).isOpen = false) :
    (ofRecords maxLines (earlier ++ rs)).isOpen = false ∧
      (ofRecords maxLines (earlier ++ rs)).lines.toList =
        ((ofRecords maxLines earlier).lines.toList ++ rs.flatMap Record.lines).rtake
          (max maxLines 1) := by
  rw [(holds_ofRecords ..).isOpen] at hclosed
  constructor
  · rw [(holds_ofRecords ..).isOpen, written_append]
    cases hrs : written rs with
    | nil => rwa [List.append_nil]
    | cons a as =>
        rw [isOpenText_append _ (List.cons_ne_nil a as), ← hrs]
        exact isOpenText_written h
  · rw [(holds_ofRecords ..).lines, (holds_ofRecords ..).lines, written_append,
      pieces_append_of_closed hclosed, List.map_append, map_lineOf_pieces_written h,
      rtake_rtake_append]

end

end StatusBoard.Log
