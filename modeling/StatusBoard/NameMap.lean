/-!
Maps from names to values that list their entries in ascending order of the names.

Names are compared by code points.  The order is part of the type, so two maps with the same
look-ups are the same list.
-/

namespace StatusBoard

/-- A map from names to values; each name occurs once, in ascending order. -/
structure NameMap (α : Type) where
  entries : List (String × α)
  ascending : entries.Pairwise fun a b => a.1 < b.1

namespace NameMap

variable {α : Type}

def empty : NameMap α := ⟨[], .nil⟩

/-- The value of the first entry with a name. -/
def lookup (name : String) : List (String × α) → Option α
  | [] => none
  | e :: rest => if e.1 = name then some e.2 else lookup name rest

def get? (m : NameMap α) (name : String) : Option α := lookup name m.entries

/-- Put a value under a name in an ascending list of entries. -/
def insertEntry (name : String) (value : α) : List (String × α) → List (String × α)
  | [] => [(name, value)]
  | e :: rest =>
      if e.1 = name then (name, value) :: rest
      else if name < e.1 then (name, value) :: e :: rest
      else e :: insertEntry name value rest

theorem mem_insertEntry {name : String} {value : α} {entries : List (String × α)}
    {x : String × α} (h : x ∈ insertEntry name value entries) :
    x = (name, value) ∨ x ∈ entries := by
  induction entries with
  | nil => simpa [insertEntry] using h
  | cons e rest ih =>
      unfold insertEntry at h
      split at h
      · rcases List.mem_cons.1 h with rfl | h
        · exact .inl rfl
        · exact .inr (List.mem_cons_of_mem _ h)
      · split at h
        · rcases List.mem_cons.1 h with rfl | h
          · exact .inl rfl
          · exact .inr h
        · rcases List.mem_cons.1 h with rfl | h
          · exact .inr (List.mem_cons_self ..)
          · rcases ih h with rfl | h
            · exact .inl rfl
            · exact .inr (List.mem_cons_of_mem _ h)

theorem pairwise_insertEntry {name : String} {value : α} {entries : List (String × α)}
    (h : entries.Pairwise fun a b => a.1 < b.1) :
    (insertEntry name value entries).Pairwise fun a b => a.1 < b.1 := by
  induction entries with
  | nil => simp [insertEntry]
  | cons e rest ih =>
      have hrest := (List.pairwise_cons.1 h).2
      have hhead := (List.pairwise_cons.1 h).1
      unfold insertEntry
      split
      · rename_i heq
        exact List.pairwise_cons.2 ⟨fun b hb => heq ▸ hhead b hb, hrest⟩
      · split
        · rename_i hlt
          refine List.pairwise_cons.2 ⟨fun b hb => ?_, h⟩
          rcases List.mem_cons.1 hb with rfl | hb
          · exact hlt
          · exact String.lt_trans hlt (hhead b hb)
        · rename_i hne hnlt
          refine List.pairwise_cons.2 ⟨fun b hb => ?_, ih hrest⟩
          rcases mem_insertEntry hb with rfl | hb
          · exact String.not_le.1 fun hle => hne (String.le_antisymm (String.not_lt.1 hnlt) hle)
          · exact hhead b hb

/-- Put a value under a name, in place of the value it may have had. -/
def insert (m : NameMap α) (name : String) (value : α) : NameMap α :=
  ⟨insertEntry name value m.entries, pairwise_insertEntry m.ascending⟩

/-- The map of a list of entries, where the last entry of a name counts. -/
def ofList (entries : List (String × α)) : NameMap α :=
  entries.foldl (fun m e => m.insert e.1 e.2) empty

theorem lookup_insertEntry (name : String) (value : α) (entries : List (String × α))
    (other : String) (h : entries.Pairwise fun a b => a.1 < b.1) :
    lookup other (insertEntry name value entries) =
      if other = name then some value else lookup other entries := by
  induction entries with
  | nil =>
      by_cases ho : other = name
      · simp [insertEntry, lookup, ho]
      · simp [insertEntry, lookup, ho, Ne.symm ho]
  | cons e rest ih =>
      have hrest := (List.pairwise_cons.1 h).2
      unfold insertEntry
      split
      · rename_i heq
        by_cases ho : other = name
        · simp [lookup, ho]
        · have : e.1 ≠ other := fun h' => ho (h' ▸ heq)
          simp [lookup, ho, Ne.symm ho, this]
      · rename_i hne
        split
        · by_cases ho : other = name
          · simp [lookup, ho]
          · simp [lookup, ho, Ne.symm ho]
        · by_cases he : e.1 = other
          · have ho : other ≠ name := fun h' => hne (he.trans h')
            simp [lookup, he, ho]
          · simp [lookup, he, ih hrest]

/-- A look-up finds the value put last under the name. -/
theorem get?_insert (m : NameMap α) (name : String) (value : α) (other : String) :
    (m.insert name value).get? other = if other = name then some value else m.get? other :=
  lookup_insertEntry name value m.entries other m.ascending

end NameMap

end StatusBoard
