import StatusBoard.Pages
import Mathlib.Data.List.Induction
import Mathlib.Data.List.Nodup

/-!
The pages as a map from names to pages that keeps the order in which the names came.

Apart from the frame, which is always at the bottom, a name is there exactly if a page was added in
the last edit of that name.  A name that is there and is given another page keeps its place; one
that has been removed and comes again is put on top.
-/

namespace StatusBoard.Pages

/-! ## What has been done under a name -/

/-- Something that is done to the pages. -/
inductive Edit
  | add (name : String) (page : Page)
  | remove (name : String)
  deriving DecidableEq

def Edit.name : Edit → String
  | add name _ => name
  | remove name => name

def after (p : Pages) : Edit → Pages
  | .add name page => p.addOrReplace name page
  | .remove name => (p.remove name).1

/-- The pages after some edits of the frame alone. -/
def ofEdits (edits : List Edit) : Pages := edits.foldl after base

theorem ofEdits_concat (edits : List Edit) (e : Edit) :
    ofEdits (edits ++ [e]) = (ofEdits edits).after e :=
  List.foldl_concat ..

/-- The last edit of a name. -/
def lastEdit? (name : String) (edits : List Edit) : Option Edit :=
  edits.reverse.find? fun e => e.name = name

theorem lastEdit?_concat (name : String) (edits : List Edit) (e : Edit) :
    lastEdit? name (edits ++ [e]) = if e.name = name then some e else lastEdit? name edits := by
  rw [lastEdit?, List.reverse_append, List.reverse_singleton, List.singleton_append,
    List.find?_cons]
  by_cases h : e.name = name
  · simp [h]
  · simp [h, lastEdit?]

/-- Whether the last edit of a name has added a page. -/
def IsAdded (name : String) (edits : List Edit) : Prop :=
  ∃ page, lastEdit? name edits = some (.add name page)

/-- The edit with this number has added a name that was not there, and the name has been there
since. -/
structure CameWith (edits : List Edit) (name : String) (i : Nat) : Prop where
  adds : ∃ page, edits[i]? = some (.add name page)
  not_before : ¬ IsAdded name (edits.take i)
  since : ∀ j, i < j → j ≤ edits.length → IsAdded name (edits.take j)

section

variable {edits : List Edit} {e : Edit} {name : String} {i : Nat}

theorem CameWith.lt_length (h : CameWith edits name i) : i < edits.length := by
  obtain ⟨page, hpage⟩ := h.adds
  exact (List.getElem?_eq_some_iff.mp hpage).1

theorem CameWith.concat (h : CameWith edits name i) (hadded : IsAdded name (edits ++ [e])) :
    CameWith (edits ++ [e]) name i := by
  have hlt := h.lt_length
  have htake : ∀ j ≤ edits.length, (edits ++ [e]).take j = edits.take j := fun j hj =>
    List.take_append_of_le_length hj
  refine ⟨?_, ?_, fun j hij hj => ?_⟩
  · rw [List.getElem?_append_left hlt]
    exact h.adds
  · rw [htake i (Nat.le_of_lt hlt)]
    exact h.not_before
  · rw [List.length_append, List.length_singleton] at hj
    by_cases hend : j = edits.length + 1
    · rwa [List.take_of_length_le (by simp [hend])]
    · rw [htake j (by omega)]
      exact h.since j hij (by omega)

theorem cameWith_last (h : ¬ IsAdded name edits) (page : Page) :
    CameWith (edits ++ [.add name page]) name edits.length := by
  refine ⟨⟨page, List.getElem?_concat_length⟩, ?_, fun j hij hj => ?_⟩
  · rwa [List.take_left]
  · rw [List.length_append, List.length_singleton] at hj
    rw [List.take_of_length_le (by rw [List.length_append, List.length_singleton]; omega)]
    exact ⟨page, by rw [lastEdit?_concat, Edit.name, if_pos rfl]⟩

end

/-! ## Single edits -/

theorem contains_iff (p : Pages) (name : String) :
    p.contains name = true ↔ name ∈ p.entries.map Prod.fst := by
  simp [contains]

theorem map_fst_replaceFirst (name : String) (page : Page) (entries : List (String × Page)) :
    (replaceFirst name page entries).map Prod.fst = entries.map Prod.fst := by
  induction entries with
  | nil => rfl
  | cons e rest ih =>
      rw [replaceFirst]
      split
      · rfl
      · rw [List.map_cons, List.map_cons, ih]

/-- Where each name stands once, replacing a page changes what the name has and nothing else. -/
theorem mem_replaceFirst {entries : List (String × Page)} (h : (entries.map Prod.fst).Nodup)
    {name : String} (hname : name ∈ entries.map Prod.fst) (page : Page) (x : String × Page) :
    x ∈ replaceFirst name page entries ↔ if x.1 = name then x.2 = page else x ∈ entries := by
  induction entries with
  | nil => cases hname
  | cons e rest ih =>
      obtain ⟨hfirst, hrest⟩ := List.nodup_cons.mp h
      have hother : ∀ y ∈ rest, y.1 ≠ e.1 := fun y hy heq =>
        hfirst (heq ▸ List.mem_map_of_mem hy)
      rw [replaceFirst]
      by_cases heq : e.1 = name
      · subst heq
        rw [if_pos rfl, List.mem_cons]
        by_cases hx : x.1 = e.1
        · rw [if_pos hx, Prod.ext_iff]
          simpa [hx] using fun hmem => absurd hx (hother x hmem)
        · have hnew : x ≠ (e.1, page) := fun hxe => hx (hxe ▸ rfl)
          have hold : x ≠ e := fun hxe => hx (hxe ▸ rfl)
          rw [if_neg hx, List.mem_cons, or_iff_right hnew, or_iff_right hold]
      · have hname' : name ∈ rest.map Prod.fst :=
          (List.mem_cons.mp hname).resolve_left (Ne.symm heq)
        rw [if_neg heq, List.mem_cons, ih hrest hname']
        by_cases hx : x.1 = name
        · have hne : x ≠ e := fun h => heq (h ▸ hx)
          rw [if_pos hx, if_pos hx, or_iff_right hne]
        · rw [if_neg hx, if_neg hx, List.mem_cons]

/-- A page that is added under a new name can be removed without a trace. -/
theorem remove_addOrReplace {p : Pages} {name : String} (hname : name ≠ frameName)
    (h : p.contains name = false) (page : Page) :
    (p.addOrReplace name page).remove name = (p, true) := by
  have hkept : p.entries.filter (fun e => e.1 ≠ name) = p.entries := by
    apply List.filter_eq_self.mpr
    intro e he
    rw [contains, List.any_eq_false] at h
    simpa using h e he
  rw [addOrReplace, if_neg hname, h, if_neg Bool.false_ne_true, remove, if_neg hname]
  simp only
  rw [List.filter_append, hkept]
  simp

theorem remove_eq_true_iff (p : Pages) (name : String) :
    (p.remove name).2 = true ↔ p.contains name = true ∧ name ≠ frameName := by
  rw [remove]
  split
  · rename_i hname
    simp [hname]
  · rename_i hname
    rw [and_iff_left hname]
    simp [contains]

/-! ## Many edits -/

/-- The pages above the frame after some edits. -/
structure Follows (edits : List Edit) (rest : List (String × Page)) : Prop where
  nodup : (rest.map Prod.fst).Nodup
  mem_iff : ∀ name page, (name, page) ∈ rest ↔
    name ≠ frameName ∧ lastEdit? name edits = some (.add name page)
  came : ∀ name ∈ rest.map Prod.fst, ∃ i, CameWith edits name i
  inOrder : (rest.map Prod.fst).Pairwise fun a b =>
    ∃ i j, CameWith edits a i ∧ CameWith edits b j ∧ i < j

theorem follows_nil : Follows [] [] := by
  refine ⟨List.nodup_nil, fun name page => ?_, nofun, List.Pairwise.nil⟩
  constructor
  · intro h
    cases h
  · rintro ⟨-, h⟩
    cases h

namespace Follows

variable {edits : List Edit} {rest : List (String × Page)}

theorem mem_names_iff (h : Follows edits rest) (name : String) :
    name ∈ rest.map Prod.fst ↔ name ≠ frameName ∧ IsAdded name edits := by
  rw [List.mem_map, IsAdded]
  constructor
  · rintro ⟨⟨name, page⟩, hmem, rfl⟩
    obtain ⟨hname, hlast⟩ := (h.mem_iff name page).mp hmem
    exact ⟨hname, page, hlast⟩
  · rintro ⟨hname, page, hlast⟩
    exact ⟨(name, page), (h.mem_iff name page).mpr ⟨hname, hlast⟩, rfl⟩

/-- Names that stay keep their order. -/
theorem keep (h : Follows edits rest) {e : Edit} {rest' : List (String × Page)}
    (hsub : (rest'.map Prod.fst).Sublist (rest.map Prod.fst))
    (hmem : ∀ name page, (name, page) ∈ rest' ↔
      name ≠ frameName ∧ lastEdit? name (edits ++ [e]) = some (.add name page)) :
    Follows (edits ++ [e]) rest' := by
  have hadded : ∀ name ∈ rest'.map Prod.fst, IsAdded name (edits ++ [e]) := by
    intro name hname
    obtain ⟨⟨name, page⟩, hpage, rfl⟩ := List.mem_map.mp hname
    exact ⟨page, ((hmem name page).mp hpage).2⟩
  refine ⟨h.nodup.sublist hsub, hmem, fun name hname => ?_, ?_⟩
  · obtain ⟨i, hi⟩ := h.came name (hsub.mem hname)
    exact ⟨i, hi.concat (hadded name hname)⟩
  · refine (h.inOrder.sublist hsub).imp_of_mem fun {a b} ha hb => ?_
    rintro ⟨i, j, hi, hj, hij⟩
    exact ⟨i, j, hi.concat (hadded a ha), hj.concat (hadded b hb), hij⟩

theorem addAgain (h : Follows edits rest) {name : String} (hname : name ∈ rest.map Prod.fst)
    (page : Page) : Follows (edits ++ [.add name page]) (replaceFirst name page rest) := by
  refine h.keep (by rw [map_fst_replaceFirst]) fun other page' => ?_
  rw [mem_replaceFirst h.nodup hname, lastEdit?_concat, Edit.name]
  have hframe : name ≠ frameName := ((h.mem_names_iff name).mp hname).1
  by_cases hother : other = name
  · subst hother
    simp [hframe, eq_comm]
  · rw [if_neg hother, if_neg (Ne.symm hother), h.mem_iff]

theorem addNew (h : Follows edits rest) {name : String} (hframe : name ≠ frameName)
    (hname : name ∉ rest.map Prod.fst) (page : Page) :
    Follows (edits ++ [.add name page]) (rest ++ [(name, page)]) := by
  have habsent : ¬ IsAdded name edits := fun hadded =>
    hname ((h.mem_names_iff name).mpr ⟨hframe, hadded⟩)
  have hlast := cameWith_last habsent page
  have hkept : ∀ other ∈ rest.map Prod.fst, IsAdded other (edits ++ [.add name page]) := by
    intro other hother
    obtain ⟨-, page', hadded⟩ := (h.mem_names_iff other).mp hother
    have hne : name ≠ other := fun heq => hname (heq ▸ hother)
    refine ⟨page', ?_⟩
    rwa [lastEdit?_concat, Edit.name, if_neg hne]
  have hnames : (rest ++ [(name, page)]).map Prod.fst = rest.map Prod.fst ++ [name] :=
    List.map_append
  refine ⟨?_, fun other page' => ?_, ?_, ?_⟩
  · rw [hnames]
    refine List.nodup_append.mpr ⟨h.nodup, List.nodup_singleton name, fun a ha b hb heq => ?_⟩
    exact hname (List.mem_singleton.mp hb ▸ heq ▸ ha)
  · rw [List.mem_append, List.mem_singleton, h.mem_iff, lastEdit?_concat, Edit.name]
    by_cases hother : name = other
    · subst hother
      have hnone : ¬ (name ≠ frameName ∧ lastEdit? name edits = some (.add name page')) :=
        fun hadded => habsent ⟨page', hadded.2⟩
      rw [if_pos rfl, or_iff_right hnone, and_iff_right hframe]
      simp [eq_comm]
    · have hne : (other, page') ≠ (name, page) := fun heq => hother (congrArg Prod.fst heq).symm
      rw [if_neg hother, or_iff_left hne]
  · rw [hnames]
    intro other hother
    rcases List.mem_append.mp hother with hother | hother
    · obtain ⟨i, hi⟩ := h.came other hother
      exact ⟨i, hi.concat (hkept other hother)⟩
    · rw [List.mem_singleton.mp hother]
      exact ⟨edits.length, hlast⟩
  · rw [hnames, List.pairwise_append]
    refine ⟨h.inOrder.imp_of_mem fun {a b} ha hb => ?_, List.pairwise_singleton .., ?_⟩
    · rintro ⟨i, j, hi, hj, hij⟩
      exact ⟨i, j, hi.concat (hkept a ha), hj.concat (hkept b hb), hij⟩
    · intro other hother _ hb
      obtain ⟨i, hi⟩ := h.came other hother
      rw [List.mem_singleton.mp hb]
      exact ⟨i, edits.length, hi.concat (hkept other hother), hlast, hi.lt_length⟩

theorem remove (h : Follows edits rest) (name : String) :
    Follows (edits ++ [.remove name]) (rest.filter fun e => e.1 ≠ name) := by
  refine h.keep (List.filter_sublist.map Prod.fst) fun other page => ?_
  rw [List.mem_filter, h.mem_iff, lastEdit?_concat, Edit.name]
  by_cases hother : other = name
  · simp [hother]
  · simp [hother, Ne.symm hother]

/-- Edits of the name of the frame change nothing. -/
theorem editFrame (h : Follows edits rest) {e : Edit} (he : e.name = frameName) :
    Follows (edits ++ [e]) rest := by
  refine h.keep (List.Sublist.refl _) fun name page => ?_
  rw [h.mem_iff, lastEdit?_concat, he]
  refine and_congr_right fun hname => ?_
  rw [if_neg (Ne.symm hname)]

/-- One edit leaves the frame at the bottom and the pages above it in their order. -/
theorem exists_after (h : Follows edits rest) (e : Edit) :
    ∃ rest', after ⟨(frameName, .frame) :: rest⟩ e = ⟨(frameName, .frame) :: rest'⟩ ∧
      Follows (edits ++ [e]) rest' := by
  by_cases hname : e.name = frameName
  · refine ⟨rest, ?_, h.editFrame hname⟩
    cases e with
    | add name page => exact if_pos hname
    | remove name => exact congrArg Prod.fst (if_pos hname)
  · cases e with
    | add name page =>
        change name ≠ frameName at hname
        have hcontains := contains_iff ⟨(frameName, .frame) :: rest⟩ name
        rw [List.map_cons, List.mem_cons, or_iff_right hname] at hcontains
        rw [after, addOrReplace, if_neg hname]
        by_cases hmem : name ∈ rest.map Prod.fst
        · refine ⟨replaceFirst name page rest, ?_, h.addAgain hmem page⟩
          rw [if_pos (hcontains.mpr hmem), replaceFirst, if_neg (Ne.symm hname)]
        · refine ⟨rest ++ [(name, page)], ?_, h.addNew hname hmem page⟩
          rw [if_neg fun hc => hmem (hcontains.mp hc)]
          rfl
    | remove name =>
        change name ≠ frameName at hname
        refine ⟨rest.filter fun e => e.1 ≠ name, ?_, h.remove name⟩
        rw [after, Pages.remove, if_neg hname]
        simp only
        rw [List.filter_cons_of_pos (by simpa using Ne.symm hname)]

end Follows

theorem exists_follows (edits : List Edit) :
    ∃ rest, ofEdits edits = ⟨(frameName, .frame) :: rest⟩ ∧ Follows edits rest := by
  induction edits using List.reverseRecOn with
  | nil => exact ⟨[], rfl, follows_nil⟩
  | append_singleton edits e ih =>
      obtain ⟨rest, hpages, hrest⟩ := ih
      rw [ofEdits_concat, hpages]
      exact hrest.exists_after e

/-- The pages are a map that keeps the order in which its names came, over the frame at the bottom.
A name is removed exactly if it is there and not that of the frame. -/
theorem keeps_order_of_arrival (edits : List Edit) :
    let p := ofEdits edits
    (∃ rest, p.entries = (frameName, .frame) :: rest ∧
      (rest.map Prod.fst).Pairwise fun a b =>
        ∃ i j, CameWith edits a i ∧ CameWith edits b j ∧ i < j) ∧
    (p.entries.map Prod.fst).Nodup ∧
    (∀ name, name ≠ frameName →
      (p.contains name = true ↔ IsAdded name edits) ∧
      ∀ page, (name, page) ∈ p.entries ↔ lastEdit? name edits = some (.add name page)) ∧
    (∀ name, (p.remove name).2 = true ↔ p.contains name = true ∧ name ≠ frameName) ∧
    ∀ name page, p.contains name = false →
      (p.addOrReplace name page).remove name = (p, true) := by
  intro p
  obtain ⟨rest, hpages, hrest⟩ := exists_follows edits
  have hentries : p.entries = (frameName, .frame) :: rest := congrArg entries hpages
  have hnames : p.entries.map Prod.fst = frameName :: rest.map Prod.fst := by
    rw [hentries, List.map_cons]
  have hframe : frameName ∉ rest.map Prod.fst := fun hmem =>
    ((hrest.mem_names_iff frameName).mp hmem).1 rfl
  refine ⟨⟨rest, hentries, hrest.inOrder⟩, ?_, fun name hname => ⟨?_, fun page => ?_⟩,
    p.remove_eq_true_iff, fun name page hnew => ?_⟩
  · rw [hnames]
    exact List.nodup_cons.mpr ⟨hframe, hrest.nodup⟩
  · rw [contains_iff, hnames, List.mem_cons, or_iff_right hname, hrest.mem_names_iff,
      and_iff_right hname]
  · have hne : (name, page) ≠ (frameName, .frame) := fun heq => hname (congrArg Prod.fst heq)
    rw [hentries, List.mem_cons, or_iff_right hne, hrest.mem_iff, and_iff_right hname]
  · refine remove_addOrReplace ?_ hnew page
    rintro rfl
    have hthere : p.contains frameName = true := by
      rw [contains_iff, hnames]
      exact List.mem_cons_self
    rw [hnew] at hthere
    cases hthere

/-- A dialog that is given another page keeps its place, and one that comes again is put on top. -/
example :
    let edit (name : String) := Edit.add name (.modal ⟨name, "", 0, 0⟩)
    ((ofEdits [edit "a", edit "b", edit "a", edit "frame"]).entries.map Prod.fst =
      ["frame", "a", "b"]) ∧
    (ofEdits [edit "a", edit "b", .remove "a", edit "a"]).entries.map Prod.fst =
      ["frame", "b", "a"] := by
  decide

end StatusBoard.Pages
