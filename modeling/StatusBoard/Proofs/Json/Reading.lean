import StatusBoard.Json.Reader
import StatusBoard.Json.Strict
import StatusBoard.Proofs.Json.Writing

/-!
Values read back from their tokens, and documents from the values that have been printed.
-/

namespace StatusBoard.Json

open Token

/-! ## Tokens of a value -/

mutual

/-- The tokens of a value. -/
def tokens : Json → List Token
  | .null => [.null]
  | .bool b => [.bool b]
  | .number n => [.number n]
  | .text t => [.text t]
  | .array items => .openBracket :: (itemTokens items ++ [.closeBracket])
  | .object members => .openBrace :: (memberTokens members ++ [.closeBrace])

/-- The tokens of some items, with commas between them. -/
def itemTokens : List Json → List Token
  | [] => []
  | [v] => tokens v
  | v :: w :: rest => tokens v ++ .comma :: itemTokens (w :: rest)

/-- The tokens of some members, with commas between them. -/
def memberTokens : List (Option String × Json) → List Token
  | [] => []
  | [(name, v)] => .text name :: .colon :: tokens v
  | (name, v) :: m :: rest =>
      .text name :: .colon :: (tokens v ++ .comma :: memberTokens (m :: rest))

end

mutual

/-- A value is printed as its tokens, one after the other. -/
theorem compactChars_eq : ∀ v : Json, compactChars v = (tokens v).flatMap chars
  | .null | .bool true | .bool false | .number _ | .text _ => by
      rw [tokens, List.flatMap_singleton]
      rfl
  | .array items => by
      rw [compactChars, compactItems_eq items, tokens, List.flatMap_cons, List.flatMap_append]
      rfl
  | .object members => by
      rw [compactChars, compactMembers_eq members, tokens, List.flatMap_cons, List.flatMap_append]
      rfl

theorem compactItems_eq : ∀ items : List Json, compactItems items = (itemTokens items).flatMap chars
  | [] => rfl
  | [v] => by rw [compactItems, itemTokens, compactChars_eq v]
  | v :: w :: rest => by
      rw [compactItems, itemTokens, compactChars_eq v, compactItems_eq (w :: rest),
        List.flatMap_append, List.flatMap_cons, List.append_assoc]
      rfl

theorem compactMembers_eq : ∀ members : List (Option String × Json),
    compactMembers members = (memberTokens members).flatMap chars
  | [] => rfl
  | [(name, v)] => by
      rw [compactMembers, memberTokens, compactChars_eq v, List.flatMap_cons, List.flatMap_cons,
        List.append_assoc]
      rfl
  | (name, v) :: m :: rest => by
      rw [compactMembers, memberTokens, compactChars_eq v, compactMembers_eq (m :: rest),
        List.flatMap_cons, List.flatMap_cons, List.flatMap_append, List.flatMap_cons]
      simp only [List.append_assoc]
      rfl

end

/-! ## Numbers stand apart -/

theorem areApart_cons {t : Token} (ht : t.isNumber = false) {ts : List Token} (h : AreApart ts) :
    AreApart (t :: ts) := by
  refine List.isChain_cons.mpr ⟨fun _ _ => ?_, h⟩
  rw [ht, Bool.false_and]

theorem areApart_between {ts us : List Token} (h : AreApart ts) {t : Token}
    (ht : t.isNumber = false) (h' : AreApart us) : AreApart (ts ++ t :: us) := by
  refine List.isChain_append.mpr ⟨h, areApart_cons ht h', ?_⟩
  rintro u - _ ⟨⟩
  rw [ht, Bool.and_false]

mutual

theorem areApart_tokens : ∀ v : Json, AreApart (tokens v)
  | .null | .bool _ | .number _ | .text _ => by
      rw [tokens]
      exact List.isChain_singleton _
  | .array items => by
      rw [tokens]
      exact areApart_cons rfl (areApart_between (areApart_items items) rfl List.isChain_nil)
  | .object members => by
      rw [tokens]
      exact areApart_cons rfl (areApart_between (areApart_members members) rfl List.isChain_nil)

theorem areApart_items : ∀ items : List Json, AreApart (itemTokens items)
  | [] => List.isChain_nil
  | [v] => by
      rw [itemTokens]
      exact areApart_tokens v
  | v :: w :: rest => by
      rw [itemTokens]
      exact areApart_between (areApart_tokens v) rfl (areApart_items (w :: rest))

theorem areApart_members : ∀ members : List (Option String × Json), AreApart (memberTokens members)
  | [] => List.isChain_nil
  | [(name, v)] => by
      rw [memberTokens]
      exact areApart_cons rfl (areApart_cons rfl (areApart_tokens v))
  | (name, v) :: m :: rest => by
      rw [memberTokens]
      exact areApart_cons rfl (areApart_cons rfl
        (areApart_between (areApart_tokens v) rfl (areApart_members (m :: rest))))

end

/-! ## Depth -/

mutual

theorem depth_le_length : ∀ v : Json, depth v ≤ (tokens v).length
  | .null | .bool _ | .number _ | .text _ => Nat.zero_le _
  | .array items => by
      have := depthItems_le_length items
      rw [depth, tokens, List.length_cons, List.length_append]
      omega
  | .object members => by
      have := depthMembers_le_length members
      rw [depth, tokens, List.length_cons, List.length_append]
      omega

theorem depthItems_le_length : ∀ items : List Json, depthItems items ≤ (itemTokens items).length
  | [] => Nat.le_refl 0
  | [v] => by
      have := depth_le_length v
      rw [depthItems, depthItems, itemTokens]
      omega
  | v :: w :: rest => by
      have := depth_le_length v
      have := depthItems_le_length (w :: rest)
      rw [depthItems, itemTokens, List.length_append, List.length_cons]
      omega

theorem depthMembers_le_length : ∀ members : List (Option String × Json),
    depthMembers members ≤ (memberTokens members).length
  | [] => Nat.le_refl 0
  | [(name, v)] => by
      have := depth_le_length v
      rw [depthMembers, depthMembers, memberTokens, List.length_cons, List.length_cons]
      omega
  | (name, v) :: m :: rest => by
      have := depth_le_length v
      have := depthMembers_le_length (m :: rest)
      rw [depthMembers, memberTokens, List.length_cons, List.length_cons, List.length_append,
        List.length_cons]
      omega

end

/-! ## Reading -/

/-- No value begins like the end of an array. -/
theorem exists_tokens_eq_cons (v : Json) : ∃ t ts, tokens v = t :: ts ∧ t ≠ .closeBracket := by
  cases v with
  | null | bool _ | number _ | text _ =>
      rw [tokens]
      exact ⟨_, _, rfl, nofun⟩
  | array items =>
      rw [tokens]
      exact ⟨_, _, rfl, nofun⟩
  | object members =>
      rw [tokens]
      exact ⟨_, _, rfl, nofun⟩

theorem exists_itemTokens_eq_cons (v : Json) (rest : List Json) :
    ∃ t ts, itemTokens (v :: rest) = t :: ts ∧ t ≠ .closeBracket := by
  obtain ⟨t, ts, hfirst, hne⟩ := exists_tokens_eq_cons v
  cases rest with
  | nil => exact ⟨t, ts, hfirst, hne⟩
  | cons w rest =>
      rw [itemTokens, hfirst]
      exact ⟨t, _, rfl, hne⟩

mutual

/-- A value is read back from its tokens, whatever follows them. -/
theorem readValue_tokens : ∀ (v : Json) {d : Nat}, depth v ≤ d → ∀ r : List Token,
    ∃ h, readValue d (tokens v ++ r) = some (v, ⟨r, h⟩)
  | .null, _, _, r | .bool _, _, _, r | .number _, _, _, r | .text _, _, _, r => by
      rw [tokens, List.singleton_append, readValue]
      exact ⟨_, rfl⟩
  | .array items, 0, hd, _ | .object members, 0, hd, _ => by cases hd
  | .array [], _ + 1, _, r => by
      rw [tokens, itemTokens, List.nil_append, List.cons_append, List.singleton_append, readValue]
      exact ⟨_, rfl⟩
  | .object [], _ + 1, _, r => by
      rw [tokens, memberTokens, List.nil_append, List.cons_append, List.singleton_append, readValue]
      exact ⟨_, rfl⟩
  | .array (v :: rest), d + 1, hd, r => by
      obtain ⟨h, hread⟩ :=
        readItems_tokens (v :: rest) (List.cons_ne_nil v rest) (Nat.le_of_succ_le_succ hd) r
      rw [tokens, List.cons_append, List.append_assoc, List.singleton_append, readValue, hread]
      · exact ⟨_, rfl⟩
      · intro r' heq
        obtain ⟨t, ts, hfirst, hne⟩ := exists_itemTokens_eq_cons v rest
        rw [hfirst] at heq
        exact hne (List.cons.inj heq).1
  | .object (m :: rest), d + 1, hd, r => by
      obtain ⟨h, hread⟩ :=
        readMembers_tokens (m :: rest) (List.cons_ne_nil m rest) (Nat.le_of_succ_le_succ hd) r
      rw [tokens, List.cons_append, List.append_assoc, List.singleton_append, readValue, hread]
      · exact ⟨_, rfl⟩
      · obtain ⟨name, v⟩ := m
        cases rest with
        | nil => exact nofun
        | cons m rest => exact nofun

theorem readItems_tokens : ∀ (items : List Json) {d : Nat}, items ≠ [] → depthItems items ≤ d →
    ∀ r : List Token, ∃ h,
      readItems d (itemTokens items ++ .closeBracket :: r) = some (items, ⟨r, h⟩)
  | [], _, hne, _, _ => absurd rfl hne
  | [v], d, _, hd, r => by
      rw [depthItems, depthItems] at hd
      obtain ⟨h, hread⟩ := readValue_tokens v (show depth v ≤ d by omega) (.closeBracket :: r)
      rw [itemTokens, readItems, hread]
      exact ⟨_, rfl⟩
  | v :: w :: rest, d, _, hd, r => by
      rw [depthItems] at hd
      obtain ⟨h, hread⟩ := readValue_tokens v (show depth v ≤ d by omega)
        (.comma :: (itemTokens (w :: rest) ++ .closeBracket :: r))
      obtain ⟨h', hrest⟩ := readItems_tokens (w :: rest) (List.cons_ne_nil w rest)
        (show depthItems (w :: rest) ≤ d by omega) r
      rw [itemTokens, List.append_assoc, List.cons_append, readItems, hread]
      dsimp only
      rw [hrest]
      exact ⟨_, rfl⟩

theorem readMembers_tokens : ∀ (members : List (Option String × Json)) {d : Nat}, members ≠ [] →
    depthMembers members ≤ d → ∀ r : List Token, ∃ h,
      readMembers d (memberTokens members ++ .closeBrace :: r) = some (members, ⟨r, h⟩)
  | [], _, hne, _, _ => absurd rfl hne
  | [(name, v)], d, _, hd, r => by
      rw [depthMembers, depthMembers] at hd
      obtain ⟨h, hread⟩ := readValue_tokens v (show depth v ≤ d by omega) (.closeBrace :: r)
      rw [memberTokens, List.cons_append, List.cons_append, readMembers, hread]
      exact ⟨_, rfl⟩
  | (name, v) :: m :: rest, d, _, hd, r => by
      rw [depthMembers] at hd
      obtain ⟨h, hread⟩ := readValue_tokens v (show depth v ≤ d by omega)
        (.comma :: (memberTokens (m :: rest) ++ .closeBrace :: r))
      obtain ⟨h', hrest⟩ := readMembers_tokens (m :: rest) (List.cons_ne_nil m rest)
        (show depthMembers (m :: rest) ≤ d by omega) r
      rw [memberTokens, List.cons_append, List.cons_append, List.append_assoc, List.cons_append,
        readMembers, hread]
      dsimp only
      rw [hrest]
      exact ⟨_, rfl⟩

end

/-- Whether every string of a value is a text and every number is one. -/
def IsPrintable (v : Json) : Prop := ∀ t ∈ tokens v, t.IsWritable

theorem isWritable_itemTokens {items : List Json} (h : ∀ v ∈ items, IsPrintable v) :
    ∀ t ∈ itemTokens items, t.IsWritable := by
  induction items with
  | nil => exact nofun
  | cons v rest ih =>
      obtain ⟨hv, hrest⟩ := List.forall_mem_cons.mp h
      cases rest with
      | nil => exact hv
      | cons w rest =>
          rw [itemTokens, List.forall_mem_append, List.forall_mem_cons]
          exact ⟨hv, trivial, ih hrest⟩

theorem isWritable_memberTokens {members : List (Option String × Json)}
    (h : ∀ m ∈ members, m.1.isSome = true ∧ IsPrintable m.2) :
    ∀ t ∈ memberTokens members, t.IsWritable := by
  induction members with
  | nil => exact nofun
  | cons m rest ih =>
      obtain ⟨⟨hname, hv⟩, hrest⟩ := List.forall_mem_cons.mp h
      cases rest with
      | nil =>
          rw [memberTokens, List.forall_mem_cons, List.forall_mem_cons]
          exact ⟨hname, trivial, hv⟩
      | cons m rest =>
          rw [memberTokens, List.forall_mem_cons, List.forall_mem_cons, List.forall_mem_append,
            List.forall_mem_cons]
          exact ⟨hname, trivial, hv, trivial, ih hrest⟩

theorem isPrintable_array {items : List Json} (h : ∀ v ∈ items, IsPrintable v) :
    IsPrintable (.array items) := by
  rw [IsPrintable, tokens, List.forall_mem_cons, List.forall_mem_append, List.forall_mem_singleton]
  exact ⟨trivial, isWritable_itemTokens h, trivial⟩

theorem isPrintable_ofMembers {members : List (String × Json)} (h : ∀ m ∈ members, IsPrintable m.2) :
    IsPrintable (ofMembers members) := by
  rw [ofMembers, IsPrintable, tokens, List.forall_mem_cons, List.forall_mem_append,
    List.forall_mem_singleton]
  refine ⟨trivial, isWritable_memberTokens fun m hm => ?_, trivial⟩
  obtain ⟨m, hmem, rfl⟩ := List.mem_map.mp hm
  exact ⟨rfl, h m hmem⟩

theorem isPrintable_ofText (t : String) : IsPrintable (ofText t) := by
  rw [ofText, IsPrintable, tokens, List.forall_mem_singleton]
  rfl

theorem isPrintable_ofTexts (ts : List String) : IsPrintable (ofTexts ts) := by
  refine isPrintable_array fun v hv => ?_
  obtain ⟨t, -, rfl⟩ := List.mem_map.mp hv
  exact isPrintable_ofText t

theorem isPrintable_ofNat (n : Nat) : IsPrintable (ofNat n) := by
  rw [ofNat, IsPrintable, tokens, List.forall_mem_singleton, IsWritable, Text.toList_toString]
  exact isNumeral_toDigits n

theorem isPrintable_bool (b : Bool) : IsPrintable (.bool b) := by
  rw [IsPrintable, tokens, List.forall_mem_singleton]
  trivial

theorem isPrintable_null : IsPrintable .null := by
  rw [IsPrintable, tokens, List.forall_mem_singleton]
  trivial

theorem ofText_inj {s t : String} : ofText s = ofText t ↔ s = t := by
  rw [ofText, ofText, text.injEq, Option.some.injEq]

theorem ofTexts_inj {ss ts : List String} : ofTexts ss = ofTexts ts ↔ ss = ts := by
  rw [ofTexts, ofTexts, array.injEq]
  exact (List.map_injective_iff.mpr fun _ _ h => ofText_inj.mp h).eq_iff

theorem ofNat_inj {m n : Nat} : ofNat m = ofNat n ↔ m = n := by
  rw [ofNat, ofNat, number.injEq]
  exact Text.toString_inj

/-- Reading finds the value, however it is written. -/
theorem read?_of_writes {v : Json} {cs : List Char} (h : Writes (tokens v) cs) :
    read? (String.ofList cs) = some v := by
  have hwhole := readValue_tokens v (depth_le_length v) []
  rw [List.append_nil] at hwhole
  obtain ⟨hlength, hread⟩ := hwhole
  rw [read?, String.toList_ofList, h.scan (areApart_tokens v)]
  dsimp only
  rw [hread]

/-- A value that has been printed is read back. -/
theorem read?_compact {v : Json} (h : v.IsPrintable) : read? v.compact = some v := by
  rw [compact, compactChars_eq]
  exact read?_of_writes (writes_flatMap_chars h)

/-- Printed values can be told apart. -/
theorem compact_inj {v w : Json} (hv : v.IsPrintable) (hw : w.IsPrintable) :
    v.compact = w.compact ↔ v = w := by
  refine ⟨fun h => ?_, fun h => h ▸ rfl⟩
  have hread := read?_compact hv
  rw [h, read?_compact hw] at hread
  exact (Option.some.inj hread).symm

end StatusBoard.Json
