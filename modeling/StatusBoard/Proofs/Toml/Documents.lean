import Mathlib.Data.Nat.Init
import StatusBoard.Proofs.Toml.Values

/-!
A document of sections that has been written is read back as its tables.

What is written is plainer than what can be read: names need no quotes, no key is dotted, and every
table has one header.  A document may start with a comment, in which everything but control
characters may stand; what follows its line is read as if the line were empty.
-/

namespace StatusBoard.Toml

open Text

/-! ## Names -/

/-- A name that may stand without quotes. -/
def IsBareName (name : String) : Prop := name.toList ≠ [] ∧ name.toList.all isBare = true

instance (name : String) : Decidable (IsBareName name) := inferInstanceAs (Decidable (_ ∧ _))

theorem isInk_of_isBare {c : Char} (h : isBare c = true) : IsInk c := by
  have hne : ∀ d, isBare d = false → c ≠ d := by
    rintro d hd rfl
    cases h.symm.trans hd
  exact ⟨hne _ rfl, hne _ rfl, hne _ rfl, by simp [isSpace, hne ' ' rfl, hne '\t' rfl]⟩

theorem IsBareName.exists_cons {name : String} (h : IsBareName name) :
    ∃ c cs, name.toList = c :: cs ∧ isBare c = true := by
  obtain ⟨c, cs, hname⟩ := List.exists_cons_of_ne_nil h.1
  exact ⟨c, cs, hname, List.all_eq_true.1 h.2 c (hname ▸ List.mem_cons_self)⟩

theorem scanName_bareName {name : String} (h : IsBareName name) {c : Char} (hc : isBare c = false)
    (rest : List Char) : scanName (name.toList ++ c :: rest) = some (name, c :: rest) := by
  have hsplit : (name.toList ++ c :: rest).takeWhile isBare = name.toList ∧
      (name.toList ++ c :: rest).dropWhile isBare = c :: rest := by
    have hall := List.all_eq_true.1 h.2
    constructor
    · rw [List.takeWhile_append_of_pos hall]
      simp [hc]
    · rw [List.dropWhile_append_of_pos hall]
      simp [hc]
  obtain ⟨d, ds, hname, hd⟩ := h.exists_cons
  unfold scanName
  split
  · rename_i heq
    rw [hname] at heq
    cases heq
    cases hd
  · rename_i heq
    rw [hname] at heq
    cases heq
    cases hd
  · simp only [hsplit, h.1, if_false, String.ofList_toList]

/-- A name without quotes is a key, where no dot follows it. -/
theorem readKey_bareName {name : String} (h : IsBareName name) {c : Char} {rest r : List Char}
    (hc : isBare c = false) (hr : skipSpaces (c :: rest) = r) (hdot : r.head? ≠ some '.') :
    Reads readKey (name.toList ++ c :: rest) ⟨[], name⟩ r := by
  have hskip : skipSpaces (name.toList ++ c :: rest) = name.toList ++ c :: rest := by
    obtain ⟨d, ds, hname, hd⟩ := h.exists_cons
    rw [hname, List.cons_append, skipSpaces,
      List.dropWhile_cons_of_neg (by simp [(isInk_of_isBare hd).2.2.2])]
  have hscan : scanName (skipSpaces (name.toList ++ c :: rest)) = some (name, c :: rest) := by
    rw [hskip]
    exact scanName_bareName h hc rest
  have hlt : r.length < (name.toList ++ c :: rest).length := by
    have hrest := length_skipSpaces (c :: rest)
    have hname := length_of_scanName (scanName_bareName h hc rest)
    rw [hr] at hrest
    exact Nat.lt_of_le_of_lt hrest hname
  refine ⟨hlt, ?_⟩
  rw [readKey, scanKey]
  split
  · rename_i heq
    cases hscan.symm.trans heq
  · rename_i heq
    cases hscan.symm.trans heq
    split
    · rename_i heq'
      rw [hr] at heq'
      rw [heq'] at hdot
      exact absurd rfl hdot
    · subst hr
      rfl

/-! ## Lines -/

section

variable {cs r r' : List Char} {k : Key}

theorem readStatement_of_readValue {v : Value} {r'' : List Char} (hcs : cs.head? ≠ some '[')
    (hkey : Reads readKey cs k ('=' :: r))
    (hvalue : Reads (readValue maxNesting) (skipSpaces r) v r') (hend : endLine r' = some r'') :
    Reads readStatement cs (.assign k v) r'' := by
  obtain ⟨hlt, hkey⟩ := hkey
  obtain ⟨hlt', hvalue⟩ := hvalue
  have hskip := length_skipSpaces r
  have hline := length_of_endLine hend
  refine ⟨by simp at hlt; omega, ?_⟩
  rw [readStatement]
  · simp only [hkey, hvalue]
    split
    · rename_i heq
      cases hend.symm.trans heq
      rfl
    · rename_i heq
      cases hend.symm.trans heq
  · rintro rest rfl
    exact hcs rfl
  · rintro rest rfl
    exact hcs rfl

/-- A key that no value follows makes no line. -/
theorem readStatement_eq_none (hcs : cs.head? ≠ some '[') (hkey : Reads readKey cs k r)
    (hr : r.head? ≠ some '=') : readStatement cs = none := by
  obtain ⟨hlt, hkey⟩ := hkey
  unfold readStatement
  split
  · exact absurd rfl hcs
  · exact absurd rfl hcs
  · rw [hkey]
    split
    · rename_i heq
      cases heq
      exact absurd rfl hr
    · rfl

theorem readStatement_of_readKey (hcs : cs.head? ≠ some '[') (hkey : Reads readKey cs k (']' :: r))
    (hend : endLine r = some r') : Reads readStatement ('[' :: cs) (.openTable k) r' := by
  obtain ⟨hlt, hkey⟩ := hkey
  have hline := length_of_endLine hend
  refine ⟨by simp at hlt ⊢; omega, ?_⟩
  rw [readStatement]
  · simp only [hkey]
    split
    · rename_i heq
      cases hend.symm.trans heq
      rfl
    · rename_i heq
      cases hend.symm.trans heq
  · rintro rest rfl
    exact hcs rfl

end

theorem skipSpaces_item (i : Item) (rest : List Char) :
    skipSpaces (Printer.item i ++ '\n' :: rest) = Printer.item i ++ '\n' :: rest := by
  have hskip : ∀ {c : Char} {cs : List Char}, isSpace c = false → skipSpaces (c :: cs) = c :: cs :=
    fun hc => List.dropWhile_cons_of_neg (by simp [hc])
  cases i with
  | text t =>
      obtain ⟨q, more, htext, rfl | rfl⟩ := exists_text_eq_cons t
      · rw [Printer.item, htext]
        exact hskip rfl
      · rw [Printer.item, htext]
        exact hskip rfl
  | texts ts =>
      rcases ts with _ | ⟨t, _ | ⟨u, ts⟩⟩ <;> exact hskip rfl
  | integer n =>
      cases n with
      | ofNat k =>
          obtain ⟨c, cs, hcs⟩ := List.exists_cons_of_ne_nil (Nat.toDigits_ne_nil (n := k) (b := 10))
          have hc := Nat.isDigit_of_mem_toDigits (by decide) (by decide) (hcs ▸ List.mem_cons_self)
          rw [Printer.item, toList_toString_ofNat, hcs]
          exact hskip (isInk_of_isBare (by simp [isBare, Char.isAlphanum, hc])).2.2.2
      | negSucc k =>
          rw [Printer.item, toList_toString_negSucc]
          exact hskip rfl
  | boolean b => cases b <;> exact hskip rfl

theorem IsBareName.head?_ne {name : String} (h : IsBareName name) (rest : List Char) :
    (name.toList ++ rest).head? ≠ some '[' := by
  obtain ⟨c, cs, hcs, hc⟩ := h.exists_cons
  rw [hcs, List.cons_append, List.head?_cons, ne_eq, Option.some.injEq]
  rintro rfl
  cases hc

/-- The line of a key and its value is read back. -/
theorem readStatement_line {e : String × Item} (hname : IsBareName e.1) (hitem : e.2.IsWritable)
    (rest : List Char) :
    Reads readStatement (Printer.line e ++ rest) (.assign ⟨[], e.1⟩ e.2.value) rest := by
  have hline : Printer.line e ++ rest =
      e.1.toList ++ ' ' :: '=' :: ' ' :: (Printer.item e.2 ++ '\n' :: rest) := by
    simp [Printer.line]
  have hequals : skipSpaces (' ' :: '=' :: ' ' :: (Printer.item e.2 ++ '\n' :: rest)) =
      '=' :: ' ' :: (Printer.item e.2 ++ '\n' :: rest) := rfl
  have hspaces : skipSpaces (' ' :: (Printer.item e.2 ++ '\n' :: rest)) =
      Printer.item e.2 ++ '\n' :: rest := skipSpaces_item e.2 rest
  have hvalue := readValue_item 78 hitem rest
  rw [← hspaces] at hvalue
  rw [hline]
  exact readStatement_of_readValue (hname.head?_ne _) (readKey_bareName hname rfl hequals nofun)
    hvalue rfl

/-- A header is read back. -/
theorem readStatement_header {name : String} (h : IsBareName name) (rest : List Char) :
    Reads readStatement ('[' :: (name.toList ++ ']' :: '\n' :: rest)) (.openTable ⟨[], name⟩)
      rest :=
  readStatement_of_readKey (h.head?_ne _) (readKey_bareName h rfl rfl nofun) rfl

/-! ## Statements -/

/-- Read what follows all that stands before a statement. -/
def readFrom : List Char → Option (List Statement)
  | [] => some []
  | c :: r => (readStatement (c :: r)).bind fun p => (readStatements p.2.1).map (p.1 :: ·)

/-- What stands before a statement does not count. -/
theorem readStatements_eq (cs : List Char) :
    readStatements cs = (skipFiller false cs).bind readFrom := by
  rw [readStatements]
  split
  · rename_i heq
    rw [heq]
    rfl
  · rename_i heq
    rw [heq]
    rfl
  · rename_i heq
    simp only [heq, Option.bind_some, readFrom]
    split
    · rename_i heq'
      simp only [heq', Option.bind_some]
    · rename_i heq'
      simp only [heq', Option.bind_none]

theorem readStatements_end {cs : List Char} (h : skipFiller false cs = some []) :
    readStatements cs = some [] := by
  rw [readStatements_eq, h]
  rfl

theorem readStatements_cons {cs r r' : List Char} {c : Char} {s : Statement}
    (h : skipFiller false cs = some (c :: r)) (hs : Reads readStatement (c :: r) s r') :
    readStatements cs = (readStatements r').map (s :: ·) := by
  obtain ⟨_, hs⟩ := hs
  rw [readStatements_eq, h, Option.bind_some, readFrom, hs]
  rfl

theorem readStatements_congr {cs cs' : List Char} (h : skipFiller false cs = skipFiller false cs') :
    readStatements cs = readStatements cs' := by
  rw [readStatements_eq cs, readStatements_eq cs', h]

namespace Section

/-- A section that a document can hold. -/
structure IsWritable (s : Section) : Prop where
  name : IsBareName s.name
  items : ∀ e ∈ s.items, IsBareName e.1 ∧ e.2.IsWritable
  nodup : (s.items.map Prod.fst).Nodup

/-- The table that keys and their values are read as. -/
def table (items : List (String × Item)) : Table := items.map fun e => (e.1, e.2.value)

/-- The lines that keys and their values are read as. -/
def assignments (items : List (String × Item)) : List Statement :=
  items.map fun e => .assign ⟨[], e.1⟩ e.2.value

def statements (s : Section) : List Statement := .openTable ⟨[], s.name⟩ :: assignments s.items

/-- The entry of a document that a section is read as. -/
def entry (s : Section) : String × Value :=
  (s.name, .table .header (table s.items))

end Section

theorem readStatements_lines {items : List (String × Item)}
    (h : ∀ e ∈ items, IsBareName e.1 ∧ e.2.IsWritable) (rest : List Char) :
    readStatements (items.flatMap Printer.line ++ rest) =
      (readStatements rest).map (Section.assignments items ++ ·) := by
  induction items with
  | nil => simp [Section.assignments]
  | cons e items ih =>
      obtain ⟨hname, hitem⟩ := h e List.mem_cons_self
      obtain ⟨c, cs, hcs, hc⟩ := hname.exists_cons
      have hline := readStatement_line hname hitem (items.flatMap Printer.line ++ rest)
      have hstart : ∃ more, Printer.line e ++ (items.flatMap Printer.line ++ rest) = c :: more := by
        rw [Printer.line, hcs]
        exact ⟨_, rfl⟩
      obtain ⟨more, hmore⟩ := hstart
      rw [hmore] at hline
      have hskip := skipFiller_of_isInk (isInk_of_isBare hc) more
      rw [List.flatMap_cons, List.append_assoc, hmore, readStatements_cons hskip hline,
        ih fun e he => h e (List.mem_cons_of_mem _ he), Option.map_map]
      rfl

theorem readStatements_section {s : Section} (h : s.IsWritable) (rest : List Char) :
    readStatements (Printer.sectionLines s ++ rest) =
      (readStatements rest).map (s.statements ++ ·) := by
  have hlines : Printer.sectionLines s ++ rest =
      '[' :: (s.name.toList ++ ']' :: '\n' :: (s.items.flatMap Printer.line ++ rest)) := by
    simp [Printer.sectionLines]
  rw [hlines, readStatements_cons rfl (readStatement_header h.name _),
    readStatements_lines h.items, Option.map_map]
  rfl

theorem readStatements_sections {ss : List Section} (h : ∀ s ∈ ss, s.IsWritable) :
    readStatements (Printer.sectionsLines ss) = some (ss.flatMap Section.statements) := by
  induction ss with
  | nil => exact readStatements_end rfl
  | cons s ss ih =>
      have hs := h s List.mem_cons_self
      have hrest := ih fun s hs => h s (List.mem_cons_of_mem _ hs)
      cases ss with
      | nil =>
          have hsection := readStatements_section hs []
          have hend : readStatements [] = some [] := readStatements_end rfl
          rw [hend, List.append_nil] at hsection
          rw [Printer.sectionsLines, hsection]
          simp
      | cons s' ss =>
          have hblank : readStatements ('\n' :: Printer.sectionsLines (s' :: ss)) =
              readStatements (Printer.sectionsLines (s' :: ss)) := readStatements_congr rfl
          rw [Printer.sectionsLines, readStatements_section hs, hblank, hrest]
          · rfl
          · exact nofun

/-! ## Tables -/

namespace Table

variable {t : Table} {name : String}

theorem get?_eq_none (h : name ∉ t.map Prod.fst) : t.get? name = none := by
  rw [get?, List.lookup_eq_none_iff]
  intro e he
  rw [bne_iff_ne]
  rintro rfl
  exact h (List.mem_map_of_mem he)

theorem get?_concat (h : name ∉ t.map Prod.fst) (v : Value) :
    Table.get? (t ++ [(name, v)]) name = some v := by
  induction t with
  | nil => simp [get?]
  | cons e t ih =>
      rw [List.map_cons, List.mem_cons, not_or] at h
      have hne : (name == e.1) = false := by simpa using h.1
      rw [get?, List.cons_append, List.lookup_cons, hne]
      exact ih h.2

theorem put_of_not_mem (h : name ∉ t.map Prod.fst) (v : Value) :
    t.put name v = t ++ [(name, v)] := by
  induction t with
  | nil => rfl
  | cons e t ih =>
      rw [List.map_cons, List.mem_cons, not_or] at h
      rw [put, if_neg (Ne.symm h.1), ih h.2, List.cons_append]

theorem put_concat (h : name ∉ t.map Prod.fst) (v w : Value) :
    Table.put name w (t ++ [(name, v)]) = t ++ [(name, w)] := by
  induction t with
  | nil => simp [put]
  | cons e t ih =>
      rw [List.map_cons, List.mem_cons, not_or] at h
      rw [List.cons_append, put, if_neg (Ne.symm h.1), ih h.2, List.cons_append]

end Table

/-- A header opens an empty table after the others. -/
theorem run_openTable {b : Building} {name : String} (h : name ∉ b.root.map Prod.fst) :
    b.run (.openTable ⟨[], name⟩) =
      some ⟨b.root ++ [(name, .table .header [])], some ⟨[], name⟩⟩ := by
  simp [Building.run, Table.openTable, Table.changeAt, Table.get?_eq_none h, Table.put_of_not_mem h]

/-- A line adds to the table that was opened last. -/
theorem run_assign {root inner : Table} {name key : String} (h : name ∉ root.map Prod.fst)
    (hkey : key ∉ inner.map Prod.fst) (v : Value) :
    Building.run ⟨root ++ [(name, .table .header inner)], some ⟨[], name⟩⟩ (.assign ⟨[], key⟩ v) =
      some ⟨root ++ [(name, .table .header (inner ++ [(key, v)]))], some ⟨[], name⟩⟩ := by
  simp [Building.run, Building.path, Table.changeAt, Table.get?_concat h, Table.put_concat h,
    Table.assign, Table.assignInside, Table.define, Table.get?_eq_none hkey,
    Table.put_of_not_mem hkey]

theorem run_assignments {root : Table} {name : String} (h : name ∉ root.map Prod.fst)
    (items : List (String × Item)) (inner : Table)
    (hnodup : (inner.map Prod.fst ++ items.map Prod.fst).Nodup) :
    (Section.assignments items).foldlM Building.run
        ⟨root ++ [(name, .table .header inner)], some ⟨[], name⟩⟩ =
      some ⟨root ++ [(name, .table .header (inner ++ Section.table items))], some ⟨[], name⟩⟩ := by
  -- The lines read so far stand in `inner`, so it grows with each step.
  induction items generalizing inner with
  | nil => simp [Section.assignments, Section.table]
  | cons e items ih =>
      have hkey : e.1 ∉ inner.map Prod.fst := by
        rw [List.nodup_append] at hnodup
        exact fun hmem => hnodup.2.2 _ hmem _ (by simp) rfl
      have hnext := ih (inner ++ [(e.1, e.2.value)]) (by simpa using hnodup)
      rw [List.append_assoc] at hnext
      rw [Section.assignments, List.map_cons, List.foldlM_cons, run_assign h hkey]
      exact hnext

theorem run_section {b : Building} {s : Section} (h : s.IsWritable)
    (hname : s.name ∉ b.root.map Prod.fst) :
    s.statements.foldlM Building.run b = some ⟨b.root ++ [s.entry], some ⟨[], s.name⟩⟩ := by
  rw [Section.statements, List.foldlM_cons, run_openTable hname]
  exact run_assignments hname s.items [] (by simpa using h.nodup)

theorem run_sections {ss : List Section} (h : ∀ s ∈ ss, s.IsWritable) (b : Building)
    (hnodup : (b.root.map Prod.fst ++ ss.map Section.name).Nodup) :
    ((ss.flatMap Section.statements).foldlM Building.run b).map Building.root =
      some (b.root ++ ss.map Section.entry) := by
  induction ss generalizing b with
  | nil => simp
  | cons s ss ih =>
      have hname : s.name ∉ b.root.map Prod.fst := by
        rw [List.nodup_append] at hnodup
        exact fun hmem => hnodup.2.2 _ hmem _ (by simp) rfl
      have hnext := ih (fun s hs => h s (List.mem_cons_of_mem _ hs))
        ⟨b.root ++ [s.entry], some ⟨[], s.name⟩⟩ (by simpa [Section.entry] using hnodup)
      rw [List.flatMap_cons, List.foldlM_append, run_section (h s List.mem_cons_self) hname]
      rw [List.append_assoc] at hnext
      exact hnext

/-! ## Documents -/

theorem all_isPlain_dropReturn {line : List Char} (h : ∀ c ∈ line, isPlain c = true) :
    (dropReturn line).all isPlain = true :=
  List.all_eq_true.2 fun c hc => h c (mem_of_mem_dropReturn hc)

theorem all_isPlain_dropReturn_cons {c : Char} (hc : isPlain c = true) (cs : List Char) :
    (dropReturn (c :: cs)).all isPlain = (dropReturn cs).all isPlain := by
  cases cs with
  | nil =>
      have hne : c ≠ '\r' := by
        rintro rfl
        cases hc
      have hsame : dropReturn [c] = [c] := dropReturn_concat [] hne
      rw [hsame, List.all_cons, hc]
      rfl
  | cons d cs => rw [dropReturn_cons_cons, List.all_cons, hc, Bool.true_and]

/-- A comment is dropped with its line, unless a control character stands in it.  A carriage return
is one, but before the line feed it belongs to the end of the line. -/
theorem skipFiller_comment {line : List Char} (hline : '\n' ∉ line) (rest : List Char) :
    skipFiller true (line ++ '\n' :: rest) =
      if (dropReturn line).all isPlain then skipFiller false rest else none := by
  induction line with
  | nil => rfl
  | cons c cs ih =>
      rw [List.mem_cons, not_or] at hline
      cases cs with
      | nil =>
          by_cases hreturn : c = '\r'
          · rw [hreturn]
            rfl
          · have hsame : dropReturn [c] = [c] := dropReturn_concat [] hreturn
            rw [hsame, List.singleton_append, skipFiller]
            · simp [skipFiller]
            · exact Ne.symm hline.1
            · exact fun _ hc _ => hreturn hc
      | cons d cs =>
          rw [List.mem_cons, not_or] at hline
          rw [List.cons_append, skipFiller]
          · rw [ih (by simpa using hline.2), dropReturn_cons_cons, List.all_cons]
            cases isPlain c <;> rfl
          · exact Ne.symm hline.1
          · rintro r - heq
            exact hline.2.1 (List.cons.inj heq).1.symm

theorem dropMark_comment (cs : List Char) : dropMark ('#' :: cs) = '#' :: cs := rfl

/-- A document that starts with a comment is read as if its first line were empty, unless a control
character stands in the comment. -/
theorem read?_comment {line : List Char} (hline : '\n' ∉ line) (rest : List Char) :
    read? (String.ofList ('#' :: (line ++ '\n' :: rest))) =
      if (dropReturn line).all isPlain then read? (String.ofList ('\n' :: rest)) else none := by
  have hskip : skipFiller false ('#' :: (line ++ '\n' :: rest)) =
      if (dropReturn line).all isPlain then skipFiller false ('\n' :: rest) else none :=
    skipFiller_comment hline rest
  rw [read?, read?, String.toList_ofList, String.toList_ofList, dropMark_comment]
  change _ = if _ then (readStatements ('\n' :: rest)).bind build else none
  cases hplain : (dropReturn line).all isPlain with
  | true =>
      rw [hplain, if_pos rfl] at hskip
      rw [if_pos rfl, readStatements_congr hskip]
  | false =>
      rw [hplain, if_neg Bool.false_ne_true] at hskip
      rw [if_neg Bool.false_ne_true, readStatements_eq, hskip]
      rfl

/-- Sections that have been written below an empty line are read back. -/
theorem read?_sections {ss : List Section} (hss : ∀ s ∈ ss, s.IsWritable)
    (hnodup : (ss.map Section.name).Nodup) :
    read? (String.ofList ('\n' :: Printer.sectionsLines ss)) = some (ss.map Section.entry) := by
  have hskip : readStatements ('\n' :: Printer.sectionsLines ss) =
      readStatements (Printer.sectionsLines ss) := readStatements_congr rfl
  rw [read?, String.toList_ofList]
  change (readStatements ('\n' :: Printer.sectionsLines ss)).bind build = _
  rw [hskip, readStatements_sections hss]
  exact run_sections hss ⟨[], none⟩ hnodup

/-- A document is malformed if its first line is a name and no value is given to it. -/
theorem read?_name_eq_none {name : String} (hname : IsBareName name) (rest : List Char) :
    read? (String.ofList ('\n' :: (name.toList ++ ' ' :: '(' :: rest))) = none := by
  obtain ⟨c, more, hcons, hc⟩ := hname.exists_cons
  have hskip : skipFiller false ('\n' :: (name.toList ++ ' ' :: '(' :: rest)) =
      some (name.toList ++ ' ' :: '(' :: rest) := by
    rw [skipFiller, hcons]
    exact skipFiller_of_isInk (isInk_of_isBare hc) _
  have hkey : Reads readKey (name.toList ++ ' ' :: '(' :: rest) ⟨[], name⟩ ('(' :: rest) :=
    readKey_bareName hname rfl rfl (by simp)
  have hnone := readStatement_eq_none (hname.head?_ne _) hkey (by simp)
  rw [read?, String.toList_ofList]
  change (readStatements ('\n' :: (name.toList ++ ' ' :: '(' :: rest))).bind build = none
  rw [readStatements_eq, hskip, Option.bind_some]
  rw [hcons] at hnone ⊢
  rw [List.cons_append, readFrom, ← List.cons_append, hnone]
  rfl

end StatusBoard.Toml
