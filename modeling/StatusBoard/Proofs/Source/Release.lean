import StatusBoard.Source.Release
import StatusBoard.Proofs.Text.Utf8
import StatusBoard.Proofs.Text.Words
import Mathlib.Data.List.Basic
import Mathlib.Data.List.TakeWhile

/-!
Writing a release file and reading it back.

A value is written between double quotes, with a backslash before each backslash and each double
quote.  Reading takes the two escapes back one after the other: the first pass leaves every
backslash of the value doubled, so that the second finds pairs only where a backslash was written.
-/

namespace StatusBoard

open Text

namespace NameMap

variable {α : Type}

/-- The value of the last entry with a name. -/
def lastValue (name : String) (entries : List (String × α)) : Option α :=
  lookup name entries.reverse

theorem lookup_append (name : String) (as bs : List (String × α)) :
    lookup name (as ++ bs) = (lookup name as).or (lookup name bs) := by
  induction as with
  | nil => rfl
  | cons a as ih =>
      rw [List.cons_append, lookup, lookup]
      split
      · rfl
      · exact ih

theorem get?_foldl_insert (m : NameMap α) (entries : List (String × α)) (name : String) :
    (entries.foldl (fun m e => m.insert e.1 e.2) m).get? name =
      (lastValue name entries).or (m.get? name) := by
  induction entries generalizing m with
  | nil => rfl
  | cons e rest ih =>
      have hsingle : lookup name [e] = if e.1 = name then some e.2 else none := rfl
      rw [List.foldl_cons, ih, get?_insert, lastValue, lastValue, List.reverse_cons, lookup_append,
        Option.or_assoc, hsingle]
      congr 1
      by_cases hname : name = e.1
      · rw [if_pos hname, if_pos hname.symm]
        rfl
      · rw [if_neg hname, if_neg (Ne.symm hname)]
        rfl

theorem get?_ofList (entries : List (String × α)) (name : String) :
    (ofList entries).get? name = lastValue name entries :=
  (get?_foldl_insert empty entries name).trans (Option.or_none ..)

end NameMap

namespace Source.Release

/-! ## Escapes -/

/-- A value as it is written, without the quotes around it. -/
def escape (cs : List Char) : List Char :=
  cs.flatMap fun c => if c = '\\' ∨ c = '"' then ['\\', c] else [c]

/-- A value with its backslashes doubled. -/
def double (cs : List Char) : List Char :=
  cs.flatMap fun c => if c = '\\' then ['\\', c] else [c]

theorem escape_cons (c : Char) (cs : List Char) :
    escape (c :: cs) = (if c = '\\' ∨ c = '"' then ['\\', c] else [c]) ++ escape cs :=
  List.flatMap_cons

theorem double_cons (c : Char) (cs : List Char) :
    double (c :: cs) = (if c = '\\' then ['\\', c] else [c]) ++ double cs :=
  List.flatMap_cons

theorem dropEscapes_cons_of_ne {c d : Char} (hd : d ≠ '\\') (rest : List Char) :
    dropEscapes c (d :: rest) = d :: dropEscapes c rest := by
  rw [dropEscapes]
  rintro d' rest' heq
  cases heq
  exact absurd rfl hd

theorem dropEscapes_escaped (c : Char) (rest : List Char) :
    dropEscapes c ('\\' :: c :: rest) = c :: dropEscapes c rest := by
  rw [dropEscapes, if_pos rfl]

theorem dropEscapes_backslash {c : Char} {rest : List Char} (h : rest.head? ≠ some c) :
    dropEscapes c ('\\' :: rest) = '\\' :: dropEscapes c rest := by
  cases rest with
  | nil => rfl
  | cons d rest =>
      have hd : d ≠ c := fun heq => h (congrArg some heq)
      rw [dropEscapes, if_neg hd]

theorem head?_escape_ne (cs : List Char) : (escape cs).head? ≠ some '"' := by
  cases cs with
  | nil => simp [escape]
  | cons c rest =>
      rw [escape_cons]
      split
      · simp
      · rename_i hc
        rw [List.singleton_append, List.head?_cons, ne_eq, Option.some.injEq]
        exact fun heq => hc (.inr heq)

/-- The first pass takes the backslashes before quotes away and no other. -/
theorem dropEscapes_escape (cs : List Char) : dropEscapes '"' (escape cs) = double cs := by
  induction cs with
  | nil => rfl
  | cons c rest ih =>
      rw [escape_cons, double_cons]
      by_cases hback : c = '\\'
      · subst hback
        rw [if_pos (.inl rfl), if_pos rfl, List.cons_append, List.cons_append, List.cons_append,
          List.cons_append, dropEscapes_backslash (by simp), List.nil_append,
          dropEscapes_backslash (head?_escape_ne rest), ih, List.nil_append]
      · by_cases hquote : c = '"'
        · subst hquote
          rw [if_pos (.inr rfl), if_neg hback, List.cons_append, List.cons_append, List.nil_append,
            dropEscapes_escaped, ih, List.singleton_append]
        · rw [if_neg (by simp [hback, hquote]), if_neg hback, List.singleton_append,
            dropEscapes_cons_of_ne hback, ih, List.singleton_append]

/-- The second pass takes one backslash of each pair away. -/
theorem dropEscapes_double (cs : List Char) : dropEscapes '\\' (double cs) = cs := by
  induction cs with
  | nil => rfl
  | cons c rest ih =>
      rw [double_cons]
      by_cases hback : c = '\\'
      · subst hback
        rw [if_pos rfl, List.cons_append, List.cons_append, List.nil_append, dropEscapes_escaped, ih]
      · rw [if_neg hback, List.singleton_append, dropEscapes_cons_of_ne hback, ih]

/-- A value between quotes. -/
def quote (cs : List Char) : List Char := '"' :: (escape cs ++ ['"'])

theorem unquote_quote (cs : List Char) : unquote (quote cs) = cs := by
  have hbetween : between? '"' (quote cs) = some (escape cs) := by
    rw [quote, between?, List.getLast?_concat, List.dropLast_concat]
    rfl
  rw [unquote, hbetween]
  exact (congrArg (dropEscapes '\\') (dropEscapes_escape cs)).trans (dropEscapes_double cs)

/-! ## White space around -/

/-- No white space at either end. -/
structure IsTight (cs : List Char) : Prop where
  head : ∀ c, cs.head? = some c → isBlank c = false
  last : ∀ c, cs.getLast? = some c → isBlank c = false

/-- White space within a line. -/
structure Padding where
  chars : List Char
  blank : ∀ c ∈ chars, isBlank c = true
  oneLine : '\n' ∉ chars

theorem IsTight.trimmed_eq {cs : List Char} (h : IsTight cs) : trimmed cs = cs := by
  have hfront : cs.dropWhile isBlank = cs := by
    cases cs with
    | nil => rfl
    | cons c rest => exact List.dropWhile_cons_of_neg (by simp [h.head c rfl])
  have hback : cs.reverse.dropWhile isBlank = cs.reverse := by
    cases hrev : cs.reverse with
    | nil => rfl
    | cons c rest =>
        have hlast : cs.getLast? = some c := by rw [← List.head?_reverse, hrev, List.head?_cons]
        exact List.dropWhile_cons_of_neg (by simp [h.last c hlast])
  rw [trimmed, hfront, dropEndWhile, hback, List.reverse_reverse]

/-- What begins and ends tightly is tight, whatever stands between. -/
theorem IsTight.around {a b : List Char} (ha : IsTight a) (hb : IsTight b) (hane : a ≠ [])
    (hbne : b ≠ []) (between : List Char) : IsTight (a ++ between ++ b) where
  head c hc := by
    rw [List.append_assoc, List.head?_append_of_ne_nil _ hane] at hc
    exact ha.head c hc
  last c hc := by
    rw [List.getLast?_append_of_ne_nil _ hbne] at hc
    exact hb.last c hc

theorem trimmed_append_blank (cs : List Char) {blanks : List Char}
    (h : ∀ c ∈ blanks, isBlank c = true) : trimmed (cs ++ blanks) = trimmed cs := by
  have hblanks : blanks.dropWhile isBlank = [] := List.dropWhile_eq_nil_iff.mpr h
  have hend : dropEndWhile isBlank blanks = [] := by
    rw [dropEndWhile, List.dropWhile_eq_nil_iff.mpr fun c hc => h c (List.mem_reverse.mp hc)]
    rfl
  rw [trimmed, List.dropWhile_append, hblanks]
  split
  · rename_i hcs
    rw [trimmed, List.isEmpty_iff.mp hcs]
  · rw [dropEndWhile_append, hend, if_pos rfl, trimmed]

theorem trimmed_blank_append {blanks : List Char} (h : ∀ c ∈ blanks, isBlank c = true)
    (cs : List Char) : trimmed (blanks ++ cs) = trimmed cs := by
  rw [trimmed, List.dropWhile_append_of_pos h, trimmed]

theorem trimmed_sublist (cs : List Char) : (trimmed cs).Sublist cs := by
  have hend : ∀ ds : List Char, (dropEndWhile isBlank ds).Sublist ds := fun ds => by
    simpa [dropEndWhile] using (List.dropWhile_sublist isBlank (l := ds.reverse)).reverse
  exact (hend _).trans (List.dropWhile_sublist isBlank)

/-! ## Lines -/

/-- A key and its value, as they may be written. -/
structure Entry where
  key : String
  value : String
  key_ne : key ≠ ""
  key_tight : IsTight key.toList
  key_not_comment : key.toList.head? ≠ some '#'
  key_plain : '=' ∉ key.toList ∧ '\n' ∉ key.toList
  value_plain : '\n' ∉ value.toList

/-- A line of a release file: an entry with white space around its key, its value and itself, or
one that says nothing, because it is blank, a comment or without an equals sign. -/
inductive Line
  | entry (e : Entry) (before afterKey beforeValue after : Padding)
  | silent (chars : List Char) (oneLine : '\n' ∉ chars)
      (silent : '=' ∉ chars ∨ (trimmed chars).head? = some '#')

namespace Line

def chars : Line → List Char
  | entry e before afterKey beforeValue after =>
      before.chars ++ (e.key.toList ++ (afterKey.chars ++ '=' :: beforeValue.chars) ++
        quote e.value.toList) ++ after.chars
  | silent chars _ _ => chars

/-- What a line says. -/
def field? : Line → Option (String × String)
  | entry e .. => some (e.key, e.value)
  | silent .. => none

end Line

theorem splitAtEquals?_eq {key : List Char} (hkey : '=' ∉ key) (rest : List Char) :
    splitAtEquals? (key ++ '=' :: rest) = some (key, rest) := by
  have hother : ∀ c ∈ key, decide (c ≠ '=') = true := fun c hc =>
    decide_eq_true fun heq => hkey (heq ▸ hc)
  rw [splitAtEquals?, List.dropWhile_append_of_pos hother, List.takeWhile_append_of_pos hother,
    List.dropWhile_cons_of_neg (by simp), List.takeWhile_cons_of_neg (by simp), List.append_nil]

theorem splitAtEquals?_eq_none {cs : List Char} (h : '=' ∉ cs) : splitAtEquals? cs = none := by
  have hnone : cs.dropWhile (· ≠ '=') = [] :=
    List.dropWhile_eq_nil_iff.mpr fun c hc => decide_eq_true fun heq => h (heq ▸ hc)
  rw [splitAtEquals?, hnone]

theorem isTight_quote (cs : List Char) : IsTight (quote cs) where
  head := by
    rintro c ⟨⟩
    decide
  last := by
    intro c hc
    rw [quote, ← List.cons_append, List.getLast?_concat] at hc
    cases hc
    decide

/-- A line is read as what it says. -/
theorem readLine_chars (l : Line) : readLine (String.ofList l.chars) = l.field? := by
  rw [readLine, String.toList_ofList]
  cases l with
  | silent chars oneLine silent =>
      change (if (trimmed chars).head? = some '#' then none
        else (splitAtEquals? (trimmed chars)).map _) = none
      split
      · rfl
      · rename_i hcomment
        have hequals : '=' ∉ chars := silent.resolve_right hcomment
        rw [splitAtEquals?_eq_none fun hmem => hequals ((trimmed_sublist chars).mem hmem)]
        rfl
  | entry e before afterKey beforeValue after =>
      have hne : e.key.toList ≠ [] := fun hnil => e.key_ne (String.toList_eq_nil_iff.mp hnil)
      have htight := e.key_tight.around (isTight_quote e.value.toList) hne (List.cons_ne_nil _ _)
        (afterKey.chars ++ '=' :: beforeValue.chars)
      have hequals : '=' ∉ e.key.toList ++ afterKey.chars := by
        rw [List.mem_append, not_or]
        exact ⟨e.key_plain.1, fun hmem => by cases afterKey.blank _ hmem⟩
      have hsplit : e.key.toList ++ (afterKey.chars ++ '=' :: beforeValue.chars) ++
          quote e.value.toList =
            e.key.toList ++ afterKey.chars ++ '=' :: (beforeValue.chars ++ quote e.value.toList) := by
        simp only [List.append_assoc, List.cons_append]
      have hcomment : (e.key.toList ++ (afterKey.chars ++ '=' :: beforeValue.chars) ++
          quote e.value.toList).head? ≠ some '#' := by
        rw [List.append_assoc, List.head?_append_of_ne_nil _ hne]
        exact e.key_not_comment
      rw [Line.chars, trimmed_append_blank _ after.blank, trimmed_blank_append before.blank,
        htight.trimmed_eq, if_neg hcomment, hsplit, splitAtEquals?_eq hequals, Option.map_some]
      simp only
      rw [trimmed_append_blank _ afterKey.blank, trimmed_blank_append beforeValue.blank,
        e.key_tight.trimmed_eq, (isTight_quote _).trimmed_eq, unquote_quote, String.ofList_toList,
        String.ofList_toList]
      rfl

/-! ## Files -/

/-- Lines, one below the other. -/
def document (ls : List Line) : String := String.ofList (['\n'].intercalate (ls.map Line.chars))

theorem newline_not_mem_quote {cs : List Char} (h : '\n' ∉ cs) : '\n' ∉ quote cs := by
  have hescape : '\n' ∉ escape cs := by
    intro hmem
    obtain ⟨c, hc, hmem⟩ := List.mem_flatMap.mp hmem
    split at hmem
    · rcases List.mem_cons.mp hmem with heq | hmem
      · cases heq
      · exact h (List.mem_singleton.mp hmem ▸ hc)
    · exact h (List.mem_singleton.mp hmem ▸ hc)
  simp [quote, hescape]

theorem Line.oneLine (l : Line) : '\n' ∉ l.chars := by
  cases l with
  | silent chars oneLine _ => exact oneLine
  | entry e before afterKey beforeValue after =>
      simp [chars, before.oneLine, afterKey.oneLine, beforeValue.oneLine, after.oneLine,
        e.key_plain.2, newline_not_mem_quote e.value_plain]

theorem readLine_dropReturn (cs : List Char) :
    readLine (String.ofList (dropReturn cs)) = readLine (String.ofList cs) := by
  rw [dropReturn]
  split
  · rename_i hlast
    obtain ⟨rest, rfl⟩ := List.getLast?_eq_some_iff.mp hlast
    rw [List.dropLast_concat, readLine, readLine, String.toList_ofList, String.toList_ofList,
      trimmed_append_blank rest (List.forall_mem_singleton.mpr rfl)]
  · rfl

/-- Reading does not depend on how the lines end. -/
theorem readFields_eq (t : String) : readFields t =
    .ofList ((split (· == '\n') t.toList).filterMap fun cs => readLine (String.ofList cs)) := by
  have hne := split_ne_nil (· == '\n') t.toList
  rw [readFields, lines]
  generalize split (· == '\n') t.toList = fields at hne ⊢
  obtain ⟨init, last, rfl⟩ := (List.eq_nil_or_concat fields).resolve_left hne
  simp only [List.concat_eq_append, List.dropLast_concat, List.getLastD_concat,
    List.filterMap_append, List.filterMap_map]
  congr 2
  · exact List.filterMap_congr fun cs _ => readLine_dropReturn cs
  · split
    · rename_i hempty
      rw [hempty]
      rfl
    · rfl

theorem split_document {ls : List Line} (h : ls ≠ []) :
    split (· == '\n') (document ls).toList = ls.map Line.chars := by
  rw [document, String.toList_ofList]
  refine split_intercalate (p := (· == '\n')) rfl ?_ fun hnil => h (List.map_eq_nil_iff.mp hnil)
  intro field hfield ch hch
  obtain ⟨l, -, rfl⟩ := List.mem_map.mp hfield
  exact beq_eq_false_iff_ne.mpr fun heq => l.oneLine (heq ▸ hch)

theorem readFields_document (ls : List Line) :
    readFields (document ls) = .ofList (ls.filterMap Line.field?) := by
  rw [readFields_eq]
  cases ls with
  | nil => rfl
  | cons l rest =>
      rw [split_document (List.cons_ne_nil l rest), List.filterMap_map]
      congr 1
      exact List.filterMap_congr fun l _ => readLine_chars l

theorem ofFields_eq (fields : NameMap String) : ofFields fields =
    ((fields.get? "IMAGE_VERSION").filter (· ≠ "")).or
      ((fields.get? "VERSION_ID").filter (· ≠ "")) := by
  have hfilter : ∀ o : Option String,
      (o.bind fun v => if v = "" then none else some v) = o.filter (· ≠ "") := by
    rintro (_ | v)
    · rfl
    · rw [Option.filter_some, Option.bind_some]
      by_cases hempty : v = ""
      · simp [hempty]
      · simp [hempty]
  rw [ofFields]
  simp only [hfilter, List.findSome?_cons, List.findSome?_nil]
  cases (fields.get? "IMAGE_VERSION").filter (· ≠ "") with
  | none => cases (fields.get? "VERSION_ID").filter (· ≠ "") <;> rfl
  | some v => rfl

theorem readRelease_encode (path t : String) : readRelease path (.bytes (Utf8.encode t)) =
    match ofFields (readFields t) with
    | some v => .ok v
    | none => .error (.release path "no IMAGE_VERSION or VERSION_ID entry") := by
  have htext : (File.bytes (Utf8.encode t)).readText = .ok t := by
    rw [File.readText, Utf8.decode?_encode]
  cases hfields : ofFields (readFields t) with
  | none => simp only [readRelease, htext, hfields]
  | some v => simp only [readRelease, htext, hfields]

/-- Reading a release file undoes writing it: each key has its last value and nothing else is
there.  The release is the first of the two versions that has been written and is not empty. -/
theorem reads_what_is_written (ls : List Line) (path : String) :
    let entries := ls.filterMap Line.field?
    let version := ((NameMap.lastValue "IMAGE_VERSION" entries).filter (· ≠ "")).or
      ((NameMap.lastValue "VERSION_ID" entries).filter (· ≠ ""))
    let fault := Fault.release path "no IMAGE_VERSION or VERSION_ID entry"
    (∀ key, (readFields (document ls)).get? key = NameMap.lastValue key entries) ∧
    (∀ v, version = some v → readRelease path (.bytes (Utf8.encode (document ls))) = .ok v) ∧
    (version = none → readRelease path (.bytes (Utf8.encode (document ls))) = .error fault) ∧
    fault.code = "OSD-3001" := by
  intro entries version fault
  have hget : ∀ key, (readFields (document ls)).get? key = NameMap.lastValue key entries := by
    intro key
    rw [readFields_document, NameMap.get?_ofList]
  have hversion : ofFields (readFields (document ls)) = version := by
    rw [ofFields_eq, hget, hget]
  refine ⟨hget, fun v hv => ?_, fun hnone => ?_, rfl⟩
  · rw [readRelease_encode, hversion, hv]
  · rw [readRelease_encode, hversion, hnone]

/-- A value that ends in a quote and a backslash, with white space around it and its key. -/
def oddVersion : Line :=
  .entry
    { key := "VERSION_ID"
      value := "1\"\\"
      key_ne := by decide
      key_tight := ⟨fun c hc => by cases hc; decide, fun c hc => by cases hc; decide⟩
      key_not_comment := by decide
      key_plain := by decide
      value_plain := by decide }
    ⟨[], List.forall_mem_nil _, by decide⟩
    ⟨[' '], List.forall_mem_singleton.mpr rfl, by decide⟩
    ⟨['\t'], List.forall_mem_singleton.mpr rfl, by decide⟩
    ⟨['\r'], List.forall_mem_singleton.mpr rfl, by decide⟩

example : document [oddVersion, .silent [] (by decide) (by decide)] =
    "VERSION_ID =\t\"1\\\"\\\\\"\r\n" := by decide

end Source.Release

end StatusBoard
