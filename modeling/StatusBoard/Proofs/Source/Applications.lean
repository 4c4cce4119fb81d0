import StatusBoard.Proofs.Json.Reading
import StatusBoard.Proofs.Text.Utf8
import StatusBoard.Source.Applications
import Mathlib.Data.List.Induction

/-!
The state file gives the applications back that have been written to it.

Each record has one member that counts.  Others may stand before and after it, under any other
names and with any values, and the file may be written in any way that a JSON document can be
written.
-/

namespace StatusBoard

namespace NameMap

variable {α : Type}

theorem insertEntry_concat {name : String} (value : α) {entries : List (String × α)}
    (h : ∀ e ∈ entries, e.1 < name) :
    insertEntry name value entries = entries ++ [(name, value)] := by
  induction entries with
  | nil => rfl
  | cons e rest ih =>
      obtain ⟨hfirst, hrest⟩ := List.forall_mem_cons.mp h
      have hne : e.1 ≠ name := fun heq => String.lt_irrefl _ (heq ▸ hfirst)
      have hnot : ¬ name < e.1 := fun hlt => String.lt_irrefl _ (String.lt_trans hlt hfirst)
      rw [insertEntry, if_neg hne, if_neg hnot, ih hrest]
      rfl

/-- Ascending entries are put in one behind the other. -/
theorem entries_ofList {entries : List (String × α)}
    (h : entries.Pairwise fun a b => a.1 < b.1) : (ofList entries).entries = entries := by
  induction entries using List.reverseRecOn with
  | nil => rfl
  | append_singleton init last ih =>
      obtain ⟨hinit, -, hlast⟩ := List.pairwise_append.mp h
      rw [ofList, List.foldl_concat, insert, ← ofList]
      simp only
      rw [ih hinit]
      exact insertEntry_concat last.2 fun e he => hlast e he last List.mem_cons_self

/-- A map is that of its own entries. -/
theorem ofList_entries (m : NameMap α) : ofList m.entries = m := by
  obtain ⟨entries, ascending⟩ := m
  have hentries := entries_ofList ascending
  generalize ofList entries = built at hentries
  obtain ⟨_, _⟩ := built
  subst hentries
  rfl

end NameMap

namespace Source.Applications

/-- Members that stand before and after the one that counts. -/
structure Padding where
  before : List (String × Json)
  after : List (String × Json)

namespace Padding

/-- The object with a member among the others. -/
def wrap (p : Padding) (name : String) (value : Json) : Json :=
  .ofMembers (p.before ++ (name, value) :: p.after)

/-- Whether no other member has a name. -/
def Spares (p : Padding) (name : String) : Prop := ∀ m ∈ p.before ++ p.after, m.1 ≠ name

def none : Padding := ⟨[], []⟩

theorem spares_none (name : String) : none.Spares name := fun _ hm => absurd hm List.not_mem_nil

theorem filter_named_eq_nil {members : List (String × Json)} {name : String}
    (h : ∀ m ∈ members, m.1 ≠ name) :
    (members.map fun m => (some m.1, m.2)).filter (fun m => m.1 = some name) = [] := by
  refine List.filter_eq_nil_iff.mpr fun _ hm => ?_
  obtain ⟨m, hmem, rfl⟩ := List.mem_map.mp hm
  simpa using h m hmem

/-- The member is found among the others. -/
theorem member?_wrap {p : Padding} {name : String} (h : p.Spares name) (value : Json) :
    member? name (p.wrap name value) = some (some value) := by
  obtain ⟨hbefore, hafter⟩ := List.forall_mem_append.mp h
  have hnames : ((p.before ++ (name, value) :: p.after).map fun m => (some m.1, m.2)).all
      (fun m => m.1.isSome) = true := by
    simp
  have hfound : ((p.before ++ (name, value) :: p.after).map fun m => (some m.1, m.2)).filter
      (fun m => m.1 = some name) = [(some name, value)] := by
    rw [List.map_append, List.map_cons, List.filter_append, filter_named_eq_nil hbefore,
      List.nil_append, List.filter_cons_of_pos (by simp), filter_named_eq_nil hafter]
  rw [wrap, Json.ofMembers, member?, if_pos hnames, hfound]

end Padding

/-- The record of all applications with other members in it and in that of each application. -/
def pad (a : Applications) (top : Padding) (each : String → Padding) : Json :=
  top.wrap "applications"
    (.ofMembers (a.entries.map fun e => (e.1, (each e.1).wrap "version" (.ofText e.2))))

theorem pad_none (a : Applications) : a.pad .none (fun _ => .none) = a.toJson := rfl

theorem isPrintable_toJson (a : Applications) : a.toJson.IsPrintable := by
  refine Json.isPrintable_ofMembers (List.forall_mem_singleton.mpr ?_)
  refine Json.isPrintable_ofMembers fun m hm => ?_
  obtain ⟨e, -, rfl⟩ := List.mem_map.mp hm
  exact Json.isPrintable_ofMembers (List.forall_mem_singleton.mpr (Json.isPrintable_ofText e.2))

theorem readVersion_wrap {p : Padding} (h : p.Spares "version") (v : String) :
    readVersion (p.wrap "version" (.ofText v)) = some v := by
  rw [readVersion, Padding.member?_wrap h]
  rfl

theorem readRecords_pad (a : Applications) {each : String → Padding}
    (heach : ∀ name, (each name).Spares "version") :
    readRecords (.ofMembers (a.entries.map fun e =>
      (e.1, (each e.1).wrap "version" (.ofText e.2)))) = some a := by
  have hread (e : String × String) : (do
      let name ← some e.1
      let version ← readVersion ((each e.1).wrap "version" (.ofText e.2))
      return (name, version)) = some e := by
    rw [readVersion_wrap (heach e.1)]
    rfl
  have hentries : a.entries.mapM (fun e => do
      let name ← some e.1
      let version ← readVersion ((each e.1).wrap "version" (.ofText e.2))
      return (name, version)) = some a.entries := by
    rw [funext hread]
    exact (List.mapM_pure (m := Option) (f := id)).trans (congrArg some (List.map_id _))
  rw [Json.ofMembers, readRecords, List.map_map, List.mapM_map]
  exact (congrArg (Option.map NameMap.ofList) hentries).trans
    (congrArg some (NameMap.ofList_entries a))

theorem ofJson?_pad (a : Applications) {top : Padding} (htop : top.Spares "applications")
    {each : String → Padding} (heach : ∀ name, (each name).Spares "version") :
    ofJson? (a.pad top each) = some a := by
  rw [ofJson?, pad, Padding.member?_wrap htop]
  exact readRecords_pad a heach

end Source.Applications

namespace Source

theorem readApplications_encode (t : String) : readApplications (.bytes (Text.Utf8.encode t)) =
    match (Json.read? t).bind Applications.ofJson? with
    | some a => .ok a
    | none => .error .malformed := by
  have htext : (File.bytes (Text.Utf8.encode t)).readText = .ok t := by
    rw [File.readText, Text.Utf8.decode?_encode]
  cases hjson : (Json.read? t).bind Applications.ofJson? with
  | none => simp only [readApplications, htext, hjson]
  | some a => simp only [readApplications, htext, hjson]

/-- The applications are read back from the text that is written for them, and from any other text
of their record with other members in it. -/
theorem reads_applications_back (a : Applications) :
    readApplications (.bytes (Text.Utf8.encode a.toJson.compact)) = .ok a ∧
    ∀ (top : Applications.Padding) (each : String → Applications.Padding),
      top.Spares "applications" → (∀ name, (each name).Spares "version") →
      ∀ text, Json.Token.Writes (Json.tokens (a.pad top each)) text →
        readApplications (.bytes (Text.Utf8.encode (String.ofList text))) = .ok a := by
  constructor
  · have hpad := a.ofJson?_pad (Applications.Padding.spares_none "applications") fun _ =>
      Applications.Padding.spares_none "version"
    rw [readApplications_encode, Json.read?_compact a.isPrintable_toJson, ← a.pad_none,
      Option.bind_some, hpad]
  · intro top each htop heach text htext
    rw [readApplications_encode, Json.read?_of_writes htext, Option.bind_some,
      a.ofJson?_pad htop heach]

/-- An application with the name of a member, and a quote in its version. -/
def namesake : Applications := .ofList [("version", "1\"")]

/-- Members around all applications, one of them with a name that counts in each application. -/
def aroundNamesake : Applications.Padding :=
  ⟨[("os", .array [.number "-2.5e3", .null])], [("version", .bool true)]⟩

/-- A member of an application, with a name that counts around all applications. -/
def insideNamesake : Applications.Padding := ⟨[("applications", .ofMembers [])], []⟩

theorem isPrintable_namesake :
    (namesake.pad aroundNamesake fun _ => insideNamesake).IsPrintable := by
  have hnumber : (Json.number "-2.5e3").IsPrintable := by
    rw [Json.IsPrintable, Json.tokens, List.forall_mem_singleton]
    rfl
  refine Json.isPrintable_ofMembers ?_
  rw [aroundNamesake, List.singleton_append, List.forall_mem_cons, List.forall_mem_cons,
    List.forall_mem_singleton]
  refine ⟨Json.isPrintable_array ?_, Json.isPrintable_ofMembers ?_, Json.isPrintable_bool true⟩
  · exact List.forall_mem_cons.mpr ⟨hnumber, List.forall_mem_singleton.mpr Json.isPrintable_null⟩
  · refine List.forall_mem_singleton.mpr (Json.isPrintable_ofMembers ?_)
    exact List.forall_mem_cons.mpr ⟨Json.isPrintable_ofMembers (List.forall_mem_nil _),
      List.forall_mem_singleton.mpr (Json.isPrintable_ofText _)⟩

theorem reads_applications_back_namesake :
    readApplications (.bytes (Text.Utf8.encode
      ("\x7b \"os\" : [ -2.5e3 , null ] , \"applications\" : \x7b \"version\" : " ++
        "\x7b \"applications\" : \x7b \x7d , \"version\" : \"1\\\"\" \x7d \x7d , " ++
        "\"version\" : true \x7d "))) = .ok namesake := by
  have htext : "\x7b \"os\" : [ -2.5e3 , null ] , \"applications\" : \x7b \"version\" : " ++
        "\x7b \"applications\" : \x7b \x7d , \"version\" : \"1\\\"\" \x7d \x7d , " ++
        "\"version\" : true \x7d " =
      String.ofList (Json.Token.spread
        ((Json.tokens (namesake.pad aroundNamesake fun _ => insideNamesake)).map (·, [' ']))) := by
    decide +kernel
  rw [htext]
  exact (reads_applications_back namesake).2 aroundNamesake (fun _ => insideNamesake)
    (by unfold Applications.Padding.Spares; decide)
    (fun _ => by unfold Applications.Padding.Spares; decide) _
    (Json.Token.writes_spaced isPrintable_namesake (List.forall_mem_singleton.mpr rfl))

end Source

end StatusBoard
