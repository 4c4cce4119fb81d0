import StatusBoard.Log.Sink
import StatusBoard.Proofs.Log.Assembly
import StatusBoard.Proofs.Text.Cutting

/-!
Text that reaches the log through a sink in chunks.

Each chunk is decoded on its own.  Where the chunks are cut shows only in the characters that a
cut goes through; how many lines there are, how grave each is and whether the last one is open does
not depend on it.
-/

namespace StatusBoard.Log

open Text

namespace Sink

/-- Write chunks one after the other, and log what they record. -/
def feed (severity : Option Severity) : Sink → Body → List (List UInt8) → Body
  | _, b, [] => b
  | s, b, bytes :: chunks =>
      let (s, receipt) := s.write severity bytes
      feed severity s (receipt.record.elim b b.append) chunks

theorem record_write (s : Sink) (severity : Option Severity) (bytes : List UInt8) :
    (s.write severity bytes).2.record =
      if bytes = [] then none else some (s.record severity bytes) := by
  unfold write
  split <;> rfl

theorem log_write_ofRecords (v : Severity) (s : Sink) (maxLines : Nat) (rs : List Record)
    (bytes : List UInt8) :
    (s.write (some v) bytes).2.record.elim (Body.ofRecords maxLines rs)
        (Body.ofRecords maxLines rs).append =
      Body.ofRecords maxLines (rs ++ [⟨v, Utf8.decodeLossy bytes⟩]) := by
  rw [record_write, Body.ofRecords_concat]
  split
  · rename_i hbytes
    rw [hbytes, ← Body.ofRecords_concat, Option.elim_none]
    apply Body.ofRecords_congr
    rw [Body.written_append]
    exact (List.append_nil _).symm
  · rw [Option.elim_some, record, Option.getD_some]

theorem feed_ofRecords (v : Severity) (s : Sink) (maxLines : Nat) (rs : List Record)
    (chunks : List (List UInt8)) :
    feed (some v) s (Body.ofRecords maxLines rs) chunks =
      Body.ofRecords maxLines (rs ++ chunks.map fun c => ⟨v, Utf8.decodeLossy c⟩) := by
  induction chunks generalizing s rs with
  | nil => rw [feed, List.map_nil, List.append_nil]
  | cons c chunks ih =>
      change feed (some v) (s.write (some v) c).1
        ((s.write (some v) c).2.record.elim _ (Body.ofRecords maxLines rs).append) chunks = _
      rw [log_write_ofRecords, ih, List.map_cons, ← List.append_cons]

end Sink

/-! ## Outlines -/

/-- The severities of the lines a text makes, and whether the last line is open. -/
def outline (cs : List (Char × Severity)) : List Severity × Bool :=
  ((pieces cs).map fun piece => (lineOf piece).severity, isOpenText cs)

/-- What one more character does to an outline. -/
def extendOutline (o : List Severity × Bool) (a : Char × Severity) : List Severity × Bool :=
  (if o.2 then o.1.dropLast ++ [(o.1.getLastD .info).graver a.2] else o.1 ++ [a.2], a.1 ≠ '\n')

theorem outline_concat (cs : List (Char × Severity)) (a : Char × Severity) :
    outline (cs ++ [a]) = extendOutline (outline cs) a := by
  obtain ⟨c, v⟩ := a
  have hopen : isOpenText (cs ++ [(c, v)]) = decide (c ≠ '\n') := by
    rw [isOpenText_append cs (List.cons_ne_nil _ _)]
    rfl
  rw [outline, outline, extendOutline, hopen]
  congr 1
  cases hcs : isOpenText cs with
  | false =>
      have hpiece : pieces [(c, v)] = [[(c, v)]] := rfl
      have hline : (lineOf [(c, v)]).severity = v :=
        congrArg Line.severity (lineOf_chars (List.cons_ne_nil c []) v)
      rw [pieces_append_of_closed hcs, hpiece]
      simp [hline]
  | true =>
      obtain ⟨before, q, hpieces, hcontinued⟩ := pieces_append_of_open hcs
      have hline : (lineOf (q ++ [(c, v)])).severity = (lineOf q).severity.graver v :=
        congrArg Line.severity (lineOf_append q (List.cons_ne_nil c []) v)
      rw [hcontinued _ (List.isChain_singleton _), hpieces]
      simp [hline]

theorem outline_append (cs xs : List (Char × Severity)) :
    outline (cs ++ xs) = xs.foldl extendOutline (outline cs) := by
  induction xs using List.reverseRecOn with
  | nil => rw [List.append_nil, List.foldl_nil]
  | append_singleton xs a ih => rw [← List.append_assoc, outline_concat, ih, List.foldl_concat]

theorem extendOutline_twice (o : List Severity × Bool) {c c' : Char} (hc : c ≠ '\n')
    (hc' : c' ≠ '\n') (v : Severity) :
    extendOutline (extendOutline o (c, v)) (c', v) = extendOutline o (c, v) := by
  have hself : v.graver v = v := by cases v <;> rfl
  obtain ⟨vs, isOpen⟩ := o
  cases isOpen with
  | false => simp [extendOutline, hc, hc', hself]
  | true => simp [extendOutline, hc, hc', graver_graver_self]

theorem foldl_extendOutline_replicate (o : List Severity × Bool) {c c' : Char} (hc : c ≠ '\n')
    (hc' : c' ≠ '\n') (v : Severity) (n : Nat) :
    (List.replicate (1 + n) (c', v)).foldl extendOutline o = extendOutline o (c, v) := by
  induction n with
  | zero => simp [extendOutline, hc, hc']
  | succ n ih =>
      rw [← Nat.add_assoc, List.replicate_succ', List.foldl_concat, ih,
        extendOutline_twice o hc hc']

theorem foldl_extendOutline_tear (o : List Severity × Bool) (cut : Nat → Bool) (c : Char)
    (v : Severity) :
    ((Utf8.tear cut c).map (·, v)).foldl extendOutline o = extendOutline o (c, v) := by
  unfold Utf8.tear
  split
  · rfl
  · rename_i k hfind
    obtain ⟨hcut, hmem, -⟩ := List.find?_range_eq_some.mp hfind
    have hc : c ≠ '\n' := by
      rintro rfl
      have hk : k < 1 := List.mem_range.mp hmem
      simp [Nat.lt_one_iff.mp hk] at hcut
    rw [List.map_replicate, foldl_extendOutline_replicate o hc (by decide)]

theorem foldl_extendOutline_fray (o : List Severity × Bool) (cut : Nat → Bool) (cs : List Char)
    (v : Severity) :
    ((Utf8.fray cut cs).map (·, v)).foldl extendOutline o =
      (cs.map (·, v)).foldl extendOutline o := by
  induction cs generalizing o cut with
  | nil => rfl
  | cons c cs ih =>
      rw [Utf8.fray, List.map_append, List.foldl_append, foldl_extendOutline_tear, ih]
      rfl

/-! ## Chunks -/

theorem written_map_chunks (v : Severity) (chunks : List (List UInt8)) :
    written (chunks.map fun c => ⟨v, Utf8.decodeLossy c⟩) =
      (chunks.flatMap fun c => (Utf8.decodeLossy c).toList).map (·, v) := by
  rw [written, List.flatMap_map, List.map_flatMap]

theorem severities_ofRecords (maxLines : Nat) (rs : List Record) :
    (Body.ofRecords maxLines rs).lines.toList.map Line.severity =
      (outline (written rs)).1.rtake (max maxLines 1) := by
  rw [(Body.holds_ofRecords maxLines rs).lines, outline, List.rtake, List.rtake, List.map_drop,
    List.map_map, List.length_map, List.length_map]
  rfl

namespace Sink

variable (v : Severity) (s : Sink) (maxLines : Nat) (earlier : List Record)
  {chunks : List (List UInt8)} {t : String}

/-- A log does not tell how the text written to it was cut, but by the characters cut through. -/
theorem feed_chunks (h : chunks.flatten = Utf8.encode t) :
    let fed := feed (some v) s (Body.ofRecords maxLines earlier)
    fed chunks =
        fed [Utf8.encode (String.ofList (Utf8.fray (Utf8.isCut chunks) t.toList))] ∧
      (fed chunks).lines.map Line.severity = (fed [Utf8.encode t]).lines.map Line.severity ∧
      (fed chunks).isOpen = (fed [Utf8.encode t]).isOpen ∧
      ((∀ c ∈ chunks, ∃ u, c = Utf8.encode u) → fed chunks = fed [Utf8.encode t]) := by
  intro fed
  have hchunks : ∀ chunks, fed chunks =
      Body.ofRecords maxLines (earlier ++ chunks.map fun c => ⟨v, Utf8.decodeLossy c⟩) :=
    feed_ofRecords v s maxLines earlier
  have hwritten : written (earlier ++ chunks.map fun c => ⟨v, Utf8.decodeLossy c⟩) =
      written earlier ++ (Utf8.fray (Utf8.isCut chunks) t.toList).map (·, v) := by
    rw [Body.written_append, written_map_chunks, Utf8.flatMap_decodeLossy h]
  have honce : ∀ u, written (earlier ++ [Utf8.encode u].map fun c => ⟨v, Utf8.decodeLossy c⟩) =
      written earlier ++ u.toList.map (·, v) := by
    intro u
    rw [Body.written_append, written_map_chunks, List.flatMap_singleton, Utf8.decodeLossy_encode]
  have houtline : outline (written (earlier ++ chunks.map fun c => ⟨v, Utf8.decodeLossy c⟩)) =
      outline (written (earlier ++ [Utf8.encode t].map fun c => ⟨v, Utf8.decodeLossy c⟩)) := by
    rw [hwritten, honce, outline_append, outline_append, foldl_extendOutline_fray]
  refine ⟨?_, ?_, ?_, ?_⟩
  · rw [hchunks, hchunks]
    apply Body.ofRecords_congr
    rw [hwritten, honce, String.toList_ofList]
  · apply Array.toList_inj.mp
    rw [hchunks, hchunks, Array.toList_map, Array.toList_map, severities_ofRecords,
      severities_ofRecords, houtline]
  · rw [hchunks, hchunks, (Body.holds_ofRecords ..).isOpen, (Body.holds_ofRecords ..).isOpen]
    exact congrArg Prod.snd houtline
  · intro hwhole
    rw [hchunks, hchunks]
    apply Body.ofRecords_congr
    rw [hwritten, honce, Utf8.fray_isCut_of_encode h hwhole]

/-- A character cut through is lost to the log. -/
theorem feed_torn_acute :
    [[0xC3], [0xA9]].flatten = Utf8.encode "\u00e9" ∧
      feed (some .info) ⟨.standard, none⟩ (.empty 1) [[0xC3], [0xA9]] ≠
        feed (some .info) ⟨.standard, none⟩ (.empty 1) [Utf8.encode "\u00e9"] := by
  decide

theorem feed_frayed_acute :
    feed (some .error) ⟨.standard, none⟩ (Body.ofRecords 1 [⟨.info, "b"⟩])
        [[0x61, 0xC3], [0xA9, 0x0A]] =
      feed (some .error) ⟨.standard, none⟩ (Body.ofRecords 1 [⟨.info, "b"⟩])
        [Utf8.encode "a\uFFFD\uFFFD\n"] ∧
    feed (some .error) ⟨.standard, none⟩ (Body.ofRecords 1 [⟨.info, "b"⟩])
        [[0x61], [0xC3, 0xA9, 0x0A]] =
      feed (some .error) ⟨.standard, none⟩ (Body.ofRecords 1 [⟨.info, "b"⟩])
        [Utf8.encode "a\u00e9\n"] := by
  have htorn : [[0x61, 0xC3], [0xA9, 0x0A]].flatten = Utf8.encode "a\u00e9\n" := by decide
  have hfray : String.ofList
      (Utf8.fray (Utf8.isCut [[0x61, 0xC3], [0xA9, 0x0A]]) "a\u00e9\n".toList) =
        "a\uFFFD\uFFFD\n" := by decide
  have hwhole : [[0x61], [0xC3, 0xA9, 0x0A]].flatten = Utf8.encode "a\u00e9\n" := by decide
  have hchunks : ∀ c ∈ [[0x61], [0xC3, 0xA9, 0x0A]], ∃ u, c = Utf8.encode u := by
    rintro _ (_ | ⟨_, _ | ⟨_, ⟨⟩⟩⟩)
    · exact ⟨"a", by decide⟩
    · exact ⟨"\u00e9\n", by decide⟩
  rw [← hfray]
  exact ⟨(feed_chunks .error ⟨.standard, none⟩ 1 [⟨.info, "b"⟩] htorn).1,
    (feed_chunks .error ⟨.standard, none⟩ 1 [⟨.info, "b"⟩] hwhole).2.2.2 hchunks⟩

end Sink

end StatusBoard.Log
