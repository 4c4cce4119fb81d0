import StatusBoard.CommandLine.Outcome
import StatusBoard.Proofs.Config.Checks
import StatusBoard.Proofs.Text.Utf8
import StatusBoard.Proofs.Toml.Documents

/-!
A configuration that is shown as a document is loaded again from it.

A document has less room than a configuration: an integer has to be below `Toml.maxAbsolute`, and
the comment at its start cannot hold control characters.  Where these limits are kept nothing is
lost.
-/

namespace StatusBoard.Config

open CommandLine Toml Text

/-! ## Sections -/

section

variable {σ : Type} {fields : List (Field σ)} {f : Field σ} {t : Table} {v : Value} {s s' s'' : σ}

/-- A table that names some of the fields, in their order, and what it makes of a section. -/
inductive Fills : List (Field σ) → Table → σ → σ → Prop
  | nil {s : σ} : Fills [] [] s s
  | field {fields : List (Field σ)} {f : Field σ} {t : Table} {v : Value} {s s' s'' : σ} :
      f.set v s = some s' → Fills fields t s' s'' → Fills (f :: fields) ((f.name, v) :: t) s s''
  | skip {fields : List (Field σ)} {f : Field σ} {t : Table} {s s' : σ} :
      Fills fields t s s' → Fills (f :: fields) t s s'

theorem Fills.sublist (h : Fills fields t s s') :
    (t.map Prod.fst).Sublist (fields.map Field.name) := by
  induction h with
  | nil => exact .slnil
  | field _ _ ih => exact ih.cons_cons _
  | skip _ ih => exact ih.cons _

theorem setNamed_of_get? (h : t.get? f.name = some v) (hset : f.set v s = some s') :
    setNamed (f :: fields) t s = setNamed fields t s' := by
  rw [setNamed, List.foldlM_cons, h]
  simp only [hset]
  rfl

theorem setNamed_of_get?_eq_none (h : t.get? f.name = none) :
    setNamed (f :: fields) t s = setNamed fields t s := by
  rw [setNamed, List.foldlM_cons, h]
  rfl

/-- An entry that has the name of none of the fields does not count. -/
theorem setNamed_entry {name : String} (h : name ∉ fields.map Field.name) :
    setNamed fields ((name, v) :: t) s = setNamed fields t s := by
  induction fields generalizing s with
  | nil => rfl
  | cons f fields ih =>
      rw [List.map_cons, List.mem_cons, not_or] at h
      have hget : Table.get? ((name, v) :: t) f.name = t.get? f.name := by
        rw [Table.get?, List.lookup_cons, beq_false_of_ne (Ne.symm h.1)]
        rfl
      rw [setNamed, List.foldlM_cons, hget]
      exact bind_congr fun s' => ih h.2

theorem Fills.setNamed (h : Fills fields t s s') (hnodup : (fields.map Field.name).Nodup) :
    setNamed fields t s = some s' := by
  induction h with
  | nil => rfl
  | field hset _ ih =>
      -- The entry stays in the table for the other fields, but none of them has its name.
      rw [List.map_cons, List.nodup_cons] at hnodup
      rw [setNamed_of_get? (by simp [Table.get?]) hset, setNamed_entry hnodup.1, ih hnodup.2]
  | skip h ih =>
      rw [List.map_cons, List.nodup_cons] at hnodup
      rw [setNamed_of_get?_eq_none, ih hnodup.2]
      exact Table.get?_eq_none fun hmem => hnodup.1 (h.sublist.mem hmem)

/-- Keys and values that can be written, and that give a section where they are read. -/
structure Shows (fields : List (Field σ)) (items : List (String × Item)) (s s' : σ) : Prop where
  fills : Fills fields (Section.table items) s s'
  items : ∀ e ∈ items, e.2.IsWritable

theorem Shows.isWritable {items : List (String × Item)} {name : String}
    (h : Shows fields items s s') (hname : IsBareName name)
    (hfields : ∀ n ∈ fields.map Field.name, IsBareName n)
    (hnodup : (fields.map Field.name).Nodup) : Section.IsWritable ⟨name, items⟩ := by
  have hnames : items.map Prod.fst = (Section.table items).map Prod.fst := by
    simp [Section.table]
  refine ⟨hname, ?_, ?_⟩
  · intro e he
    have hmem : e.1 ∈ items.map Prod.fst := List.mem_map_of_mem he
    rw [hnames] at hmem
    exact ⟨hfields _ (h.fills.sublist.mem hmem), h.items e he⟩
  · rw [hnames]
    exact hnodup.sublist h.fills.sublist

theorem Shows.read {items : List (String × Item)} (h : Shows fields items s s')
    (hnodup : (fields.map Field.name).Nodup) :
    readSection fields (.table .header (Section.table items)) s = some s' :=
  h.fills.setNamed hnodup

end

/-! ## Values -/

theorem readTexts_texts (ts : List String) : readTexts (.array (ts.map .text)) = some ts := by
  rw [readTexts]
  induction ts with
  | nil => rfl
  | cons t ts ih => simp [readText, ih]

theorem readBelow_toNat {bound n : Nat} (h : n < bound) :
    readBelow bound (.integer n) = some n := by
  simp [readBelow, h]

theorem readLength_toNat (n : UInt16) : readLength (.integer n.toNat) = some n := by
  simp [readLength, readBelow_toNat n.toNat_lt]

theorem readCount_toNat (n : UInt64) : readCount (.integer n.toNat) = some n := by
  simp [readCount, readBelow_toNat n.toNat_lt]

theorem toInteger?_of_lt {n : Nat} (h : n < maxAbsolute) : toInteger? n = some (n : Int) :=
  if_pos ⟨by omega, by omega⟩

/-- A count is shown if it fits into a document. -/
theorem countItem_eq_some_iff {n : UInt64} {i : Item} :
    countItem n = some i ↔ n.toNat < maxAbsolute ∧ i = .integer n.toNat := by
  rw [countItem]
  rcases Nat.lt_or_ge n.toNat maxAbsolute with hlt | hle
  · rw [toInteger?_of_lt hlt, Option.map_some, Option.some.injEq]
    constructor
    · rintro rfl
      exact ⟨hlt, rfl⟩
    · rintro ⟨-, rfl⟩
      rfl
  · have hnone : toInteger? n.toNat = none := if_neg (by omega)
    rw [hnone]
    constructor
    · nofun
    · rintro ⟨hlt, -⟩
      omega

theorem field_set {σ α : Type} {name : String} {read : Value → Option α} {put : σ → α → σ}
    {v : Value} {a : α} (h : read v = some a) (s : σ) :
    (field name read put).set v s = some (put s a) :=
  congrArg (Option.map (put s)) h

/-! ## What is shown -/

theorem isWritable_lengthItem {name : String} {n : Option UInt16} :
    ∀ e ∈ lengthItem name n, e.2.IsWritable := by
  cases n with
  | none => simp [lengthItem]
  | some n =>
      have hlt := n.toNat_lt
      simpa [lengthItem, Item.IsWritable] using toInteger?_of_lt (Nat.lt_trans hlt (by decide))

theorem shows_console (c : Console) : Shows Console.fields c.items Console.standard c := by
  have hdevices := readTexts_texts c.devices
  have hside := readLength_toNat
  constructor
  -- A side that is not set is not shown, and it is not set in the standard either.
  · obtain ⟨devices, primary, width, height, rawMode⟩ := c
    apply Fills.field (field_set hdevices _)
    apply Fills.field rfl
    rcases width with _ | width
    · apply Fills.skip
      rcases height with _ | height
      · exact .skip (.field rfl .nil)
      · exact .field (field_set (hside height) _) (.field rfl .nil)
    · apply Fills.field (field_set (hside width) _)
      rcases height with _ | height
      · exact .skip (.field rfl .nil)
      · exact .field (field_set (hside height) _) (.field rfl .nil)
  · intro e he
    simp only [Console.items, List.mem_append] at he
    rcases he with ((he | he) | he) | he
    · revert e
      simp [Item.IsWritable]
    · exact isWritable_lengthItem e he
    · exact isWritable_lengthItem e he
    · revert e
      simp [Item.IsWritable]

theorem shows_refresh {r : Refresh} {items : List (String × Item)} (h : r.items? = some items) :
    Shows Refresh.fields items Refresh.standard r := by
  simp only [Refresh.items?, Option.bind_eq_bind, Option.bind_eq_some_iff, countItem_eq_some_iff,
    Option.pure_def, Option.some.injEq] at h
  obtain ⟨_, ⟨htick, rfl⟩, _, ⟨hclear, rfl⟩, rfl⟩ := h
  constructor
  · exact .field (field_set (readCount_toNat _) _) (.field (field_set (readCount_toNat _) _) .nil)
  · simp [Item.IsWritable, toInteger?_of_lt, htick, hclear]

theorem shows_sources (s : Sources) : Shows Sources.fields s.items Sources.standard s := by
  constructor
  · exact .field rfl (.field rfl (.field rfl .nil))
  · simp [Sources.items, Item.IsWritable]

theorem shows_logging {l : Logging} {items : List (String × Item)} (h : l.items? = some items) :
    Shows Logging.fields items Logging.standard l := by
  simp only [Logging.items?, Option.bind_eq_bind, Option.bind_eq_some_iff, countItem_eq_some_iff,
    Option.pure_def, Option.some.injEq] at h
  obtain ⟨_, ⟨hmax, rfl⟩, rfl⟩ := h
  constructor
  · exact .field rfl <| .field rfl <| .field (field_set (readCount_toNat _) _) <| .field rfl <|
      .field rfl .nil
  · simp [Item.IsWritable, toInteger?_of_lt, hmax]

/-- The counts of a configuration fit into a document. -/
structure CountsFit (c : Config) : Prop where
  tickMs : c.refresh.tickMs.toNat < maxAbsolute
  clearSecs : c.refresh.clearSecs.toNat < maxAbsolute
  maxLines : c.log.maxLines.toNat < maxAbsolute

theorem countsFit_iff {c : Config} : c.CountsFit ↔ ∃ ss, c.sections? = some ss := by
  simp only [sections?, Refresh.items?, Logging.items?, Option.bind_eq_bind,
    Option.bind_eq_some_iff, countItem_eq_some_iff, Option.pure_def, Option.some.injEq]
  constructor
  · rintro ⟨htick, hclear, hmax⟩
    exact ⟨_, _, ⟨_, ⟨htick, rfl⟩, _, ⟨hclear, rfl⟩, rfl⟩, _, ⟨_, ⟨hmax, rfl⟩, rfl⟩, rfl⟩
  · rintro ⟨-, -, ⟨-, ⟨htick, -⟩, -, ⟨hclear, -⟩, -⟩, -, ⟨-, ⟨hmax, -⟩, -⟩, -⟩
    exact ⟨htick, hclear, hmax⟩

theorem fills_sections {c : Config} {refresh log : List (String × Item)}
    (hrefresh : Shows Refresh.fields refresh Refresh.standard c.refresh)
    (hlog : Shows Logging.fields log Logging.standard c.log) :
    Fills sectionFields
      [("console", .table .header (Section.table c.console.items)),
        ("refresh", .table .header (Section.table refresh)),
        ("sources", .table .header (Section.table c.sources.items)),
        ("log", .table .header (Section.table log))]
      standard { c with path := defaultPath } := by
  have hconsole := congrArg (Option.map fun a => { standard with console := a })
    ((shows_console c.console).read (by decide))
  have hrefresh := congrArg
    (Option.map fun a => { standard with console := c.console, refresh := a })
    (hrefresh.read (by decide))
  have hsources := congrArg
    (Option.map fun a => { standard with console := c.console, refresh := c.refresh, sources := a })
    ((shows_sources c.sources).read (by decide))
  have hlog := congrArg
    (Option.map fun a => Config.mk c.console c.refresh c.sources a defaultPath)
    (hlog.read (by decide))
  exact .field hconsole (.field hrefresh (.field hsources (.field hlog .nil)))

/-- The sections that are shown can be written, and give the configuration where they are read. -/
theorem sections?_spec {c : Config} {ss : List Toml.Section} (h : c.sections? = some ss) :
    (∀ s ∈ ss, s.IsWritable) ∧ (ss.map Section.name).Nodup ∧
      setNamed sectionFields (ss.map Section.entry) standard =
        some { c with path := defaultPath } := by
  simp only [sections?, Option.bind_eq_bind, Option.bind_eq_some_iff, Option.pure_def,
    Option.some.injEq] at h
  obtain ⟨refresh, hrefresh, log, hlog, rfl⟩ := h
  replace hrefresh := shows_refresh hrefresh
  replace hlog := shows_logging hlog
  refine ⟨?_, ?_, ?_⟩
  · simp only [List.forall_mem_cons]
    refine ⟨?_, ?_, ?_, ?_, List.forall_mem_nil _⟩
    · exact (shows_console c.console).isWritable (by decide) (by decide) (by decide)
    · exact hrefresh.isWritable (by decide) (by decide) (by decide)
    · exact (shows_sources c.sources).isWritable (by decide) (by decide) (by decide)
    · exact hlog.isWritable (by decide) (by decide) (by decide)
  · simp
  · exact (fills_sections hrefresh hlog).setNamed (by decide)

/-! ## The comment -/

theorem isPlain_of_mem_toDigits {n : Nat} : ∀ c ∈ Nat.toDigits 16 n, isPlain c = true := by
  have hdigit : ∀ d < 16, isPlain (Nat.digitChar d) = true := by decide
  induction n using Nat.strongRecOn with
  | ind n ih =>
      rcases Nat.lt_or_ge n 16 with hlt | hge
      · rw [Nat.toDigits_of_lt_base hlt]
        simpa using hdigit n hlt
      · rw [Nat.toDigits_of_base_le (by decide) hge]
        intro c hc
        rcases List.mem_append.1 hc with hc | hc
        · exact ih (n / 16) (by omega) c hc
        · rw [List.mem_singleton.1 hc]
          exact hdigit _ (Nat.mod_lt n (by decide))

theorem toList_hexWord (n : UInt64) : (hexWord n).toList =
    List.replicate (16 - (Nat.toDigits 16 n.toNat).length) '0' ++ Nat.toDigits 16 n.toNat :=
  String.toList_ofList

theorem isPlain_of_mem_hexWord (n : UInt64) : ∀ c ∈ (hexWord n).toList, isPlain c = true := by
  rw [toList_hexWord, List.forall_mem_append]
  constructor
  · intro c hc
    rw [List.eq_of_mem_replicate hc]
    rfl
  · exact isPlain_of_mem_toDigits

/-- What stands in the comment of a document after its path. -/
def afterPath (c : Config) : String := " (hash " ++ c.fingerprint ++ ")"

theorem toList_afterPath (c : Config) :
    c.afterPath.toList = ' ' :: ("(hash ".toList ++ c.fingerprint.toList ++ [')']) := by
  rw [afterPath, String.toList_append, String.toList_append]
  rfl

theorem isPlain_of_mem_afterPath (c : Config) : ∀ ch ∈ c.afterPath.toList, isPlain ch = true := by
  have hhash : ∀ ch ∈ c.fingerprint.toList, isPlain ch = true := isPlain_of_mem_hexWord _
  have hwords : ∀ ch ∈ "(hash ".toList, isPlain ch = true := List.all_eq_true.1 rfl
  rw [toList_afterPath, List.forall_mem_cons]
  refine ⟨rfl, ?_⟩
  have hclosing : ∀ ch ∈ [')'], isPlain ch = true := List.all_eq_true.1 rfl
  exact List.forall_mem_append.2 ⟨List.forall_mem_append.2 ⟨hwords, hhash⟩, hclosing⟩

theorem document?_eq_some {c : Config} {ss : List Toml.Section} (h : c.sections? = some ss) :
    c.document? = some (String.ofList ('#' :: (' ' :: c.path.toList ++
      (c.afterPath.toList ++ '\n' :: Printer.sectionsLines ss)))) := by
  rw [document?, h, Option.map_some, Option.some.injEq, ← String.toList_inj]
  simp [Toml.print, afterPath]

/-! ## Loading -/

theorem runVariables_none (vs : List Variable) (c : Config) :
    runVariables (fun _ => none) vs c = .ok c := by
  rw [runVariables]
  induction vs with
  | nil => rfl
  | cons v vs ih => exact ih

theorem complaint_of_load {path : Option String} {f : Source.File} {lookup : String → Option String}
    {c : Config} (h : load path f lookup = .ok c) : c.complaint = none :=
  (complaint_eq_none_iff c).mpr (keepsLimits_of_load h)

/-- Load a document as the file that is asked for, with nothing set in the environment. -/
def loadDocument (path document : String) : Except LoadError Config :=
  load (some path) (.bytes (Utf8.encode document)) fun _ => none

theorem loadDocument_eq (path document : String) :
    loadDocument path document =
      match ofDocument? document with
      | some c =>
          match validate { c with path } with
          | .error e => .error (.fault e)
          | .ok c => .ok c
      | none => .error .malformed := by
  have hread : (Source.File.bytes (Utf8.encode document)).readText = .ok document := by
    rw [Source.File.readText, Utf8.decode?_encode]
  have hpresent : (Source.File.bytes (Utf8.encode document)).isPresent = true := rfl
  simp only [loadDocument, load, ofFile, if_pos hpresent, hread, Option.getD_some]
  cases ofDocument? document with
  | none => rfl
  | some c =>
      simp only [finish, override, runVariables_none]
      rfl

/-- A document that starts with a comment is loaded as if its first line were empty, unless a
control character stands in the comment. -/
theorem loadDocument_comment (path : String) {line : List Char} (hline : '\n' ∉ line)
    (rest : List Char) :
    loadDocument path (String.ofList ('#' :: (line ++ '\n' :: rest))) =
      if (dropReturn line).all isPlain then loadDocument path (String.ofList ('\n' :: rest))
      else .error .malformed := by
  rw [loadDocument_eq, loadDocument_eq, ofDocument?, ofDocument?, read?_comment hline]
  cases (dropReturn line).all isPlain <;> rfl

theorem loadDocument_of_read?_eq_none (path : String) {document : String}
    (h : read? document = none) : loadDocument path document = .error .malformed := by
  rw [loadDocument_eq, ofDocument?, h]
  rfl

theorem loadDocument_of_ofDocument? (path : String) {document : String} {c : Config}
    (h : ofDocument? document = some { c with path := defaultPath }) (hc : c.complaint = none) :
    loadDocument path document = .ok { c with path } := by
  have hvalid : validate { c with path } = .ok { c with path } := by
    have hcomplaint : complaint { c with path } = none := hc
    rw [validate, hcomplaint]
  rw [loadDocument_eq, h]
  simp only [hvalid]

/-! ## Shown and loaded again -/

section

variable {c : Config} {ss : List Toml.Section}

theorem showConfig_of_sections? (h : c.sections? = some ss) :
    showConfig c false = .success (String.ofList ('#' :: (' ' :: c.path.toList ++
      (c.afterPath.toList ++ '\n' :: Printer.sectionsLines ss)))) := by
  rw [showConfig, if_neg Bool.false_ne_true, document?_eq_some h]

theorem status_showConfig_iff : (showConfig c false).status = 0 ↔ c.CountsFit := by
  rw [countsFit_iff]
  constructor
  · intro h
    cases hss : c.sections? with
    | some ss => exact ⟨ss, rfl⟩
    | none =>
        rw [showConfig, if_neg Bool.false_ne_true, document?, hss] at h
        cases h
  · rintro ⟨ss, hss⟩
    rw [showConfig_of_sections? hss]
    rfl

theorem newline_not_mem_comment {line : List Char} (h : '\n' ∉ line) :
    '\n' ∉ ' ' :: line ++ c.afterPath.toList := by
  have hafter : '\n' ∉ c.afterPath.toList := fun hmem => by
    cases isPlain_of_mem_afterPath c '\n' hmem
  simp [h, hafter]

theorem loadDocument_of_isPlain (p : String) (h : c.sections? = some ss)
    (hcomplaint : c.complaint = none) (hpath : ∀ ch ∈ c.path.toList, isPlain ch = true) :
    loadDocument p (showConfig c false).output = .ok { c with path := p } := by
  obtain ⟨hwritable, hnodup, hset⟩ := sections?_spec h
  have hline : '\n' ∉ c.path.toList := fun hmem => by cases hpath '\n' hmem
  have hcomment : ∀ ch ∈ ' ' :: c.path.toList ++ c.afterPath.toList, isPlain ch = true := by
    rw [List.forall_mem_append, List.forall_mem_cons]
    exact ⟨⟨rfl, hpath⟩, isPlain_of_mem_afterPath c⟩
  rw [showConfig_of_sections? h, Outcome.success, ← List.append_assoc,
    loadDocument_comment p (newline_not_mem_comment hline),
    if_pos (all_isPlain_dropReturn hcomment)]
  apply loadDocument_of_ofDocument? p _ hcomplaint
  rw [ofDocument?, read?_sections hwritable hnodup]
  exact hset

theorem loadDocument_eq_malformed (p : String) (h : c.sections? = some ss)
    (hline : '\n' ∉ c.path.toList) (hpath : ∃ ch ∈ c.path.toList, isPlain ch = false) :
    loadDocument p (showConfig c false).output = .error .malformed := by
  have hsame : dropReturn (' ' :: c.path.toList ++ c.afterPath.toList) =
      ' ' :: c.path.toList ++ c.afterPath.toList := by
    rw [toList_afterPath, ← List.cons_append, ← List.append_assoc]
    exact dropReturn_concat _ (by decide)
  obtain ⟨ch, hmem, hplain⟩ := hpath
  have hnot : ¬ (dropReturn (' ' :: c.path.toList ++ c.afterPath.toList)).all isPlain = true := by
    rw [hsame, List.all_eq_true]
    intro hall
    have hplain' := hall ch (List.mem_append_left _ (List.mem_cons_of_mem _ hmem))
    rw [hplain] at hplain'
    cases hplain'
  rw [showConfig_of_sections? h, Outcome.success, ← List.append_assoc,
    loadDocument_comment p (newline_not_mem_comment hline), if_neg hnot]

/-- What is shown starts with a comment, which may take more lines than one. -/
theorem loadDocument_first_line (p : String) (h : c.sections? = some ss) {line rest : List Char}
    (hsplit : (showConfig c false).output.toList = line ++ '\n' :: rest) (hline : '\n' ∉ line) :
    loadDocument p (showConfig c false).output =
      if (dropReturn line).all isPlain then loadDocument p (String.ofList ('\n' :: rest))
      else .error .malformed := by
  rw [← String.ofList_toList (s := (showConfig c false).output), hsplit]
  rw [showConfig_of_sections? h, Outcome.success, String.toList_ofList] at hsplit
  cases line with
  | nil => cases hsplit
  | cons first line =>
      obtain rfl : '#' = first := (List.cons.inj hsplit).1
      rw [List.mem_cons, not_or] at hline
      rw [List.cons_append, loadDocument_comment p hline.2, all_isPlain_dropReturn_cons rfl]

end

/-- A configuration that has been loaded is shown if its counts fit into a document.  What is shown
can be loaded again and says the same, if nothing in the path breaks out of the comment that holds
it.  Whatever the path, a control character in the first line makes the text malformed, and else
what stands below this line is loaded, be it the rest of a path of several lines. -/
theorem reloads_from_document {path : Option String} {f : Source.File}
    {lookup : String → Option String} {c : Config} (h : load path f lookup = .ok c) :
    ((showConfig c false).status = 0 ↔ c.CountsFit) ∧
      ∀ p, c.CountsFit →
        ((∀ ch ∈ c.path.toList, isPlain ch = true) →
          loadDocument p (showConfig c false).output = .ok { c with path := p } ∧
            fingerprint { c with path := p } = c.fingerprint) ∧
        ('\n' ∉ c.path.toList → (∃ ch ∈ c.path.toList, isPlain ch = false) →
          loadDocument p (showConfig c false).output = .error .malformed) ∧
        ∀ line rest, (showConfig c false).output.toList = line ++ '\n' :: rest → '\n' ∉ line →
          loadDocument p (showConfig c false).output =
            if (dropReturn line).all isPlain then loadDocument p (String.ofList ('\n' :: rest))
            else .error .malformed := by
  refine ⟨status_showConfig_iff, ?_⟩
  intro p hfit
  obtain ⟨ss, hss⟩ := countsFit_iff.1 hfit
  refine ⟨?_, loadDocument_eq_malformed p hss, fun line rest => loadDocument_first_line p hss⟩
  intro hpath
  exact ⟨loadDocument_of_isPlain p hss (complaint_of_load h) hpath, rfl⟩

/-- A width and a filter from the environment. -/
def quotedFilter (name : String) : Option String :=
  if name = "OSD_CONSOLE_WIDTH" then some "132"
  else if name = "OSD_CONSOLE_LOG" then some "a=\"b\",'c'\n"
  else none

def quotedConfig : Config :=
  { standard with
    console := { Console.standard with width := some 132 }
    log := { Logging.standard with filter := "a=\"b\",'c'\n" } }

theorem reloads_quoted_filter :
    load none .absent quotedFilter = .ok quotedConfig ∧ quotedConfig.CountsFit ∧
      (showConfig quotedConfig false).status = 0 ∧
      loadDocument "copy.toml" (showConfig quotedConfig false).output =
        .ok { quotedConfig with path := "copy.toml" } := by
  have hload : load none .absent quotedFilter = .ok quotedConfig := by rfl
  have hfit : quotedConfig.CountsFit := by
    constructor <;> decide
  have hplain : ∀ ch ∈ quotedConfig.path.toList, isPlain ch = true := List.all_eq_true.1 rfl
  obtain ⟨hstatus, hreload⟩ := reloads_from_document hload
  exact ⟨hload, hfit, hstatus.2 hfit, ((hreload "copy.toml" hfit).1 hplain).1⟩

/-- More lines than a document can count, from the environment. -/
def manyLines (name : String) : Option String :=
  if name = "OSD_CONSOLE_LOG_MAX_LINES" then some "9223372036854775808" else none

/-- A path of two lines, and what is loaded from an empty file under it. -/
def brokenPath : Config := { standard with path := "a\nb" }

theorem ofDocument?_empty : ofDocument? "" = some standard := by
  have hread : readStatements (dropMark "".toList) = some [] := readStatements_end rfl
  rw [ofDocument?, Toml.read?, hread]
  rfl

theorem loadDocument_brokenPath (p : String) :
    loadDocument p (showConfig brokenPath false).output = .error .malformed := by
  have hfit : brokenPath.CountsFit := by constructor <;> decide
  obtain ⟨ss, hss⟩ := countsFit_iff.1 hfit
  have hpath : brokenPath.path.toList = ['a', '\n', 'b'] := rfl
  have hname : "b".toList = ['b'] := rfl
  have hnone := read?_name_eq_none (show IsBareName "b" by decide)
    ("hash ".toList ++ brokenPath.fingerprint.toList ++ [')'] ++ '\n' :: Printer.sectionsLines ss)
  have hcomment := loadDocument_comment p (show '\n' ∉ [' ', 'a'] by decide)
    ('b' :: ' ' :: '(' :: ("hash ".toList ++ brokenPath.fingerprint.toList ++ [')'] ++
      '\n' :: Printer.sectionsLines ss))
  rw [hname, List.singleton_append] at hnone
  rw [if_pos (by decide), loadDocument_of_read?_eq_none p hnone] at hcomment
  rw [showConfig_of_sections? hss, Outcome.success, toList_afterPath, hpath]
  exact hcomment

theorem not_always_reloaded :
    (∃ c, load none .absent manyLines = .ok c ∧ (showConfig c false).status = 2) ∧
      load (some "a\nb") (.bytes []) (fun _ => none) = .ok brokenPath ∧
        (showConfig brokenPath false).status = 0 ∧
        loadDocument "c" (showConfig brokenPath false).output = .error .malformed := by
  have hcomplaint : standard.complaint = none := by decide +kernel
  refine ⟨⟨_, rfl, rfl⟩, ?_, ?_, ?_⟩
  · exact loadDocument_of_ofDocument? "a\nb" ofDocument?_empty hcomplaint
  · exact status_showConfig_iff.2 (by constructor <;> decide)
  · exact loadDocument_brokenPath "c"

end StatusBoard.Config
