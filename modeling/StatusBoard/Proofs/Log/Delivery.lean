import StatusBoard.Log.Sink
import StatusBoard.Proofs.Log.Assembly
import StatusBoard.Proofs.Shares
import StatusBoard.Proofs.Text.Utf8
import Mathlib.Logic.Function.Basic
import Mathlib.Logic.Relation

/-!
Writers that share a sink, each with its own chunks to write.

The log and the mirror are locked one after the other, so that between the logging of a chunk and
its copying any other writer may have its turn.  A `Delivery` keeps the history of both; no step
looks at it.
-/

namespace StatusBoard

namespace Stream

/-- What a stream takes of the bytes that are sent. -/
def part (m : Stream) (bytes : List UInt8) : List UInt8 :=
  (m.send bytes).1.taken.drop m.taken.length

theorem taken_send (m : Stream) (bytes : List UInt8) :
    (m.send bytes).1.taken = m.taken ++ m.part bytes ∧ m.part bytes <+: bytes := by
  rcases m.send_cases bytes with ⟨-, htaken⟩ | ⟨n, -, -, htaken⟩
  · rw [part, htaken, List.drop_left]
    exact ⟨rfl, List.prefix_rfl⟩
  · rw [part, htaken, List.drop_left]
    exact ⟨rfl, List.take_prefix ..⟩

theorem result_send (m : Stream) (bytes : List UInt8) :
    (m.send bytes).2 = .ok () ∧ m.part bytes = bytes ∧ m.isFlushing = true ∨
      (m.send bytes).2 = .error gone ∧ ¬ (m.part bytes = bytes ∧ m.isFlushing = true) := by
  obtain ⟨room, taken, isFlushing⟩ := m
  cases room with
  | none => cases isFlushing <;> simp [part, send, write, flush]
  | some n =>
      by_cases hn : bytes.length ≤ n
      · cases isFlushing <;> simp [part, send, write, flush, hn, List.take_of_length_le hn]
      · have htake : bytes.take n ≠ bytes := fun h =>
          hn (h ▸ List.length_take_le n bytes)
        simp [part, send, write, hn, htake]

end Stream

namespace Log

open Text

/-- Bytes to be written, with the severity of the event they belong to, if there is one. -/
structure Chunk where
  severity : Option Severity
  bytes : List UInt8
  bytes_ne_nil : bytes ≠ []

def Chunk.record (c : Chunk) (k : Sink) : Record := k.record c.severity c.bytes

/-- A chunk that has been passed to the mirror, as the mirror was then, and what its writer has
been told. -/
structure Copy (ι : Type) where
  writer : ι
  chunk : Chunk
  mirror : Option Stream
  result : Except IoError Nat

namespace Copy

variable {ι : Type}

def part (y : Copy ι) : List UInt8 := y.mirror.elim [] (·.part y.chunk.bytes)

/-- The mirror, if there is one, took the whole chunk and passed it on. -/
def IsWhole (y : Copy ι) : Prop :=
  ∀ m, y.mirror = some m → y.part = y.chunk.bytes ∧ m.isFlushing = true

/-- Whatever the mirror took is a first part of the chunk, and its writer knows if it is all. -/
structure IsFair (y : Copy ι) : Prop where
  part_prefix : y.part <+: y.chunk.bytes
  result : y.result = .ok y.chunk.bytes.length ∧ y.IsWhole ∨
    y.result = .error Stream.gone ∧ ¬ y.IsWhole

theorem isFair_copy (k : Sink) (i : ι) (c : Chunk) :
    IsFair ⟨i, c, k.mirror, (k.copy c.bytes).2⟩ := by
  obtain ⟨markers, mirror⟩ := k
  cases mirror with
  | none => exact ⟨List.nil_prefix, .inl ⟨rfl, fun m hm => by cases hm⟩⟩
  | some m =>
      refine ⟨(m.taken_send c.bytes).2, ?_⟩
      have hcopy : (Sink.copy ⟨markers, some m⟩ c.bytes).2 =
          (m.send c.bytes).2.map fun _ => c.bytes.length := rfl
      rcases m.result_send c.bytes with ⟨hresult, hwhole⟩ | ⟨hresult, hwhole⟩
      · refine .inl ⟨by rw [hcopy, hresult]; rfl, ?_⟩
        rintro _ ⟨⟩
        exact hwhole
      · refine .inr ⟨by rw [hcopy, hresult]; rfl, ?_⟩
        intro h
        exact hwhole (h m rfl)

end Copy

structure Delivery (ι : Type) where
  queue : ι → List Chunk
  /-- The chunk that a writer has logged and not yet copied. -/
  held : ι → Option Chunk
  logged : List (ι × Chunk)
  copied : List (Copy ι)
  sink : Sink
  body : Body

def ofWriter {ι : Type} [DecidableEq ι] (i : ι) (ws : List (ι × Chunk)) : List Chunk :=
  (ws.filter (·.1 = i)).map Prod.snd

namespace Delivery

variable {ι : Type}

def start (k : Sink) (b : Body) (program : ι → List Chunk) : Delivery ι :=
  ⟨program, fun _ => none, [], [], k, b⟩

def returned (s : Delivery ι) : List (ι × Chunk) := s.copied.map fun y => (y.writer, y.chunk)

variable [DecidableEq ι]

def log (s : Delivery ι) (i : ι) (c : Chunk) (rest : List Chunk) : Delivery ι :=
  { s with
    body := s.body.append (c.record s.sink)
    queue := Function.update s.queue i rest
    held := Function.update s.held i (some c)
    logged := s.logged ++ [(i, c)] }

def copy (s : Delivery ι) (i : ι) (c : Chunk) : Delivery ι :=
  { s with
    sink := (s.sink.copy c.bytes).1
    held := Function.update s.held i none
    copied := s.copied ++ [⟨i, c, s.sink.mirror, (s.sink.copy c.bytes).2⟩] }

/-- The mirror has more room or less, or begins or ceases to pass on what it takes. -/
def disturb (s : Delivery ι) (room : Option Nat) (isFlushing : Bool) : Delivery ι :=
  { s with sink.mirror := s.sink.mirror.map ({ · with room, isFlushing }) }

theorem body_log (s : Delivery ι) (i : ι) (c : Chunk) (rest : List Chunk) :
    (s.log i c rest).body = s.body.append (c.record s.sink) := by
  rw [log]

theorem body_copy (s : Delivery ι) (i : ι) (c : Chunk) : (s.copy i c).body = s.body := rfl

/-- One step of a writer, or of what is behind the mirror. -/
inductive Step : Delivery ι → Delivery ι → Prop
  | log {s : Delivery ι} (i : ι) (c : Chunk) (rest : List Chunk) :
      s.held i = none → s.queue i = c :: rest → Step s (s.log i c rest)
  | copy {s : Delivery ι} (i : ι) (c : Chunk) : s.held i = some c → Step s (s.copy i c)
  | disturb {s : Delivery ι} (room : Option Nat) (isFlushing : Bool) :
      Step s (s.disturb room isFlushing)

def Reachable (k : Sink) (b : Body) (program : ι → List Chunk) (s : Delivery ι) : Prop :=
  Relation.ReflTransGen Step (start k b program) s

open Relation (ReflTransGen)

/-- Writing to the sink is made of two steps of a writer. -/
theorem exists_steps_write {s : Delivery ι} {i : ι} {c : Chunk} {rest : List Chunk}
    (hheld : s.held i = none) (hqueue : s.queue i = c :: rest) :
    ∃ t, ReflTransGen Step s t ∧ t.sink = (s.sink.write c.severity c.bytes).1 ∧
      t.body =
        (s.sink.write c.severity c.bytes).2.record.elim s.body s.body.append ∧
      t.copied =
        s.copied ++ [⟨i, c, s.sink.mirror, (s.sink.write c.severity c.bytes).2.result⟩] ∧
      t.queue i = rest ∧ t.held i = none := by
  have hwrite : s.sink.write c.severity c.bytes =
      ((s.sink.copy c.bytes).1, ⟨some (c.record s.sink), (s.sink.copy c.bytes).2⟩) :=
    if_neg c.bytes_ne_nil
  have hlog : Step s (s.log i c rest) := .log i c rest hheld hqueue
  have hcopy : Step (s.log i c rest) ((s.log i c rest).copy i c) :=
    .copy i c (Function.update_self ..)
  refine ⟨_, (ReflTransGen.single hlog).tail hcopy, ?_, ?_, ?_, ?_, ?_⟩
  · rw [hwrite]
    rfl
  · rw [hwrite, body_copy, body_log, Option.elim_some]
  · rw [hwrite]
    rfl
  · exact Function.update_self ..
  · exact Function.update_self ..

/-- No writer is ever stuck, whatever the others do and however the mirror fails. -/
theorem exists_steps_finish (s : Delivery ι) (i : ι) :
    ∃ t, ReflTransGen Step s t ∧ t.queue i = [] ∧ t.held i = none := by
  have hidle : ∀ (chunks : List Chunk) (s : Delivery ι), s.queue i = chunks → s.held i = none →
      ∃ t, ReflTransGen Step s t ∧ t.queue i = [] ∧ t.held i = none := by
    intro chunks
    induction chunks with
    | nil => exact fun s hqueue hheld => ⟨s, .refl, hqueue, hheld⟩
    | cons c rest ih =>
        intro s hqueue hheld
        obtain ⟨t, hwrite, -, -, -, hrest, hdone⟩ := exists_steps_write hheld hqueue
        obtain ⟨u, hfinish, hu⟩ := ih t hrest hdone
        exact ⟨u, hwrite.trans hfinish, hu⟩
  cases hheld : s.held i with
  | none => exact hidle _ s rfl hheld
  | some c =>
      obtain ⟨t, hsteps, ht⟩ := hidle _ (s.copy i c) rfl (Function.update_self ..)
      exact ⟨t, .head (.copy i c hheld) hsteps, ht⟩

/-! ## What is delivered -/

omit [DecidableEq ι] in
theorem taken_copy (k : Sink) (i : ι) (c : Chunk) :
    (k.copy c.bytes).1.mirror.map Stream.taken =
      (k.mirror.map Stream.taken).map (· ++ Copy.part ⟨i, c, k.mirror, (k.copy c.bytes).2⟩) := by
  obtain ⟨markers, mirror⟩ := k
  cases mirror with
  | none => rfl
  | some m => exact congrArg some (m.taken_send c.bytes).1

theorem ofWriter_concat (ws : List (ι × Chunk)) (i j : ι) (c : Chunk) :
    ofWriter j (ws ++ [(i, c)]) = if j = i then ofWriter j ws ++ [c] else ofWriter j ws :=
  shareOf_concat ws i j c

theorem ofWriter_concat_append {q : ι → List Chunk} {i : ι} {c : Chunk} {rest : List Chunk}
    (h : q i = c :: rest) (ws : List (ι × Chunk)) (j : ι) :
    ofWriter j (ws ++ [(i, c)]) ++ Function.update q i rest j = ofWriter j ws ++ q j :=
  shareOf_concat_append h ws j

/-- The log has the chunks in the order of their logging, the mirror in the order of their
copying, and both have those of one writer in its own order. -/
structure Accounts (k : Sink) (maxLines : Nat) (earlier : List Record) (program : ι → List Chunk)
    (s : Delivery ι) : Prop where
  markers : s.sink.markers = k.markers
  body : s.body = Body.ofRecords maxLines (earlier ++ s.logged.map (·.2.record k))
  logged : ∀ i, ofWriter i s.logged ++ s.queue i = program i
  returned : ∀ i, ofWriter i s.returned ++ (s.held i).toList = ofWriter i s.logged
  mirror : s.sink.mirror.map Stream.taken =
    k.mirror.map (fun m => m.taken ++ s.copied.flatMap Copy.part)
  copied : ∀ y ∈ s.copied, y.mirror.isSome = k.mirror.isSome ∧ y.IsFair

section

variable {k : Sink} {maxLines : Nat} {earlier : List Record} {program : ι → List Chunk}
  {s : Delivery ι}

theorem accounts_start :
    Accounts k maxLines earlier program (start k (Body.ofRecords maxLines earlier) program) where
  markers := rfl
  body := by rw [start, List.map_nil, List.append_nil]
  logged := fun _ => rfl
  returned := fun _ => rfl
  mirror := by simp [start]
  copied := fun _ hy => by cases hy

theorem record_eq_of_markers {k k' : Sink} (h : k.markers = k'.markers) (c : Chunk) :
    c.record k = c.record k' := by
  rw [Chunk.record, Chunk.record, Sink.record, Sink.record, h]

theorem Accounts.log (h : Accounts k maxLines earlier program s) {i : ι} {c : Chunk}
    {rest : List Chunk} (hheld : s.held i = none) (hqueue : s.queue i = c :: rest) :
    Accounts k maxLines earlier program (s.log i c rest) := by
  have hlogged : (s.log i c rest).logged = s.logged ++ [(i, c)] := rfl
  have hqueues : (s.log i c rest).queue = Function.update s.queue i rest := rfl
  have hhelds : (s.log i c rest).held = Function.update s.held i (some c) := rfl
  refine ⟨h.markers, ?_, ?_, ?_, h.mirror, h.copied⟩
  · rw [body_log, hlogged, h.body, record_eq_of_markers h.markers, ← Body.ofRecords_concat,
      List.map_append, List.append_assoc, List.map_singleton]
  · intro j
    rw [hlogged, hqueues, ofWriter_concat_append hqueue, h.logged j]
  · intro j
    have hreturned : (s.log i c rest).returned = s.returned := rfl
    rw [hlogged, hhelds, hreturned, ofWriter_concat, ← h.returned j]
    by_cases hj : j = i
    · subst hj
      rw [if_pos rfl, Function.update_self, hheld, Option.toList_none, List.append_nil,
        Option.toList_some]
    · rw [if_neg hj, Function.update_of_ne hj]

theorem Accounts.copy (h : Accounts k maxLines earlier program s) {i : ι} {c : Chunk}
    (hheld : s.held i = some c) : Accounts k maxLines earlier program (s.copy i c) := by
  have hcopied : (s.copy i c).copied =
      s.copied ++ [⟨i, c, s.sink.mirror, (s.sink.copy c.bytes).2⟩] := rfl
  have hhelds : (s.copy i c).held = Function.update s.held i none := rfl
  have hmarkers : (s.copy i c).sink.markers = s.sink.markers := by
    rw [Delivery.copy, Sink.copy]
    cases s.sink.mirror <;> rfl
  have hsome : s.sink.mirror.isSome = k.mirror.isSome := by
    have hmap := congrArg Option.isSome h.mirror
    rwa [Option.isSome_map, Option.isSome_map] at hmap
  refine ⟨hmarkers.trans h.markers, h.body, h.logged, ?_, ?_, ?_⟩
  · intro j
    -- what a writer holds is a queue of at most one chunk
    have hreturned : (s.copy i c).returned = s.returned ++ [(i, c)] := by
      rw [Delivery.returned, hcopied, List.map_append]
      rfl
    have hlogged : (s.copy i c).logged = s.logged := rfl
    have hrest : ((s.copy i c).held j).toList =
        Function.update (fun j => (s.held j).toList) i [] j := by
      rw [hhelds]
      exact Function.apply_update (fun _ => Option.toList) s.held i none j
    have hhead : (s.held i).toList = [c] := by
      rw [hheld]
      rfl
    rw [hlogged, hreturned, hrest,
      ofWriter_concat_append (q := fun j => (s.held j).toList) hhead, h.returned j]
  · have hsink : (s.copy i c).sink = (s.sink.copy c.bytes).1 := rfl
    rw [hsink, taken_copy s.sink i c, h.mirror, Option.map_map, hcopied, List.flatMap_append,
      List.flatMap_singleton]
    simp only [Function.comp_def, List.append_assoc]
  · intro y hy
    rw [hcopied] at hy
    rcases List.mem_append.mp hy with hy | hy
    · exact h.copied y hy
    · obtain rfl := List.mem_singleton.mp hy
      exact ⟨hsome, Copy.isFair_copy s.sink i c⟩

theorem Accounts.disturb (h : Accounts k maxLines earlier program s) (room : Option Nat)
    (isFlushing : Bool) : Accounts k maxLines earlier program (s.disturb room isFlushing) := by
  refine ⟨h.markers, h.body, h.logged, h.returned, ?_, h.copied⟩
  refine Eq.trans ?_ h.mirror
  rw [Delivery.disturb, Option.map_map]
  rfl

theorem Accounts.step {t : Delivery ι} (h : Accounts k maxLines earlier program s)
    (hstep : Step s t) : Accounts k maxLines earlier program t := by
  cases hstep with
  | log i c rest hheld hqueue => exact h.log hheld hqueue
  | copy i c hheld => exact h.copy hheld
  | disturb room isFlushing => exact h.disturb room isFlushing

theorem accounts_of_reachable
    (h : Reachable k (Body.ofRecords maxLines earlier) program s) :
    Accounts k maxLines earlier program s := by
  induction h with
  | refl => exact accounts_start
  | tail _ hstep ih => exact ih.step hstep

theorem Accounts.mem_program (h : Accounts k maxLines earlier program s) {w : ι × Chunk}
    (hw : w ∈ s.logged) : w.2 ∈ program w.1 := by
  rw [← h.logged w.1, ofWriter]
  exact List.mem_append_left _
    (List.mem_map_of_mem (List.mem_filter.mpr ⟨hw, decide_eq_true rfl⟩))

/-- However writers interleave and whenever the mirror fails, chunks are logged and copied whole
and in order; and if they end their lines, each line of the log is of one chunk. -/
theorem delivers_whole_chunks (h : Reachable k (Body.ofRecords maxLines earlier) program s) :
    Accounts k maxLines earlier program s ∧
      (∀ i, ∃ t, ReflTransGen Step s t ∧ ofWriter i t.logged = program i ∧
        ofWriter i t.returned = program i) ∧
      ((Body.ofRecords maxLines earlier).isOpen = false →
        (∀ i, ∀ c ∈ program i, c.bytes.getLast? = some 0x0A) →
          s.body.isOpen = false ∧
            s.body.lines.toList =
              ((Body.ofRecords maxLines earlier).lines.toList ++
                s.logged.flatMap fun w => (w.2.record k).lines).rtake (max maxLines 1) ∧
            ∀ w ∈ s.logged, ∀ line ∈ (w.2.record k).lines,
              line.severity = w.2.severity.getD (k.markers.classify w.2.bytes)) := by
  have haccounts := accounts_of_reachable h
  refine ⟨haccounts, ?_, ?_⟩
  · intro i
    obtain ⟨t, hsteps, hqueue, hheld⟩ := exists_steps_finish s i
    have hlast := accounts_of_reachable (h.trans hsteps)
    have hlogged := hlast.logged i
    have hreturned := hlast.returned i
    rw [hqueue, List.append_nil] at hlogged
    rw [hheld, Option.toList_none, List.append_nil, hlogged] at hreturned
    exact ⟨t, hsteps, hlogged, hreturned⟩
  · intro hclosed hends
    have hrecords : ∀ r ∈ s.logged.map (·.2.record k), r.text.toList.getLast? = some '\n' := by
      intro r hr
      obtain ⟨w, hw, rfl⟩ := List.mem_map.mp hr
      exact Utf8.getLast?_decodeLossy (hends w.1 w.2 (haccounts.mem_program hw))
    obtain ⟨hopen, hlines⟩ := Body.ofRecords_append hrecords hclosed
    rw [← haccounts.body] at hopen hlines
    rw [List.flatMap_map] at hlines
    exact ⟨hopen, hlines, fun w _ line hline => Record.severity_of_mem_lines hline⟩

end

/-! Two writers whose chunks are copied in the other order, the last one only in part. -/

def hello : Chunk := ⟨none, [0x68, 0x69, 0x0A], by decide⟩

def alarm : Chunk := ⟨some .error, [0x21, 0x0A], by decide⟩

def narrow : Sink := ⟨.standard, some ⟨some 4, [], true⟩⟩

def greeting (isFirst : Bool) : List Chunk := if isFirst then [alarm] else [hello]

def crossed : Delivery Bool :=
  ((((start narrow (.empty 5) greeting).log true alarm []).log false hello []).copy false
    hello).copy true alarm

theorem delivers_crossed :
    Accounts narrow 5 [] greeting crossed ∧
      crossed.sink.mirror.map Stream.taken = some [0x68, 0x69, 0x0A, 0x21] ∧
      crossed.body.isOpen = false ∧
      crossed.body.lines.toList = [⟨.error, "!"⟩, ⟨.info, "hi"⟩] := by
  have hreachable : Reachable narrow (Body.ofRecords 5 []) greeting crossed :=
    (((Relation.ReflTransGen.single (.log true alarm [] rfl rfl)).tail
      (.log false hello [] rfl rfl)).tail (.copy false hello rfl)).tail (.copy true alarm rfl)
  obtain ⟨haccounts, -, hlines⟩ := delivers_whole_chunks hreachable
  have hends : ∀ i, ∀ c ∈ greeting i, c.bytes.getLast? = some 0x0A := by
    rintro (_ | _) _ (_ | ⟨_, ⟨⟩⟩)
    · rfl
    · rfl
  obtain ⟨hopen, hlines, -⟩ := hlines rfl hends
  refine ⟨haccounts, ?_, hopen, ?_⟩
  · rfl
  · rw [hlines]
    decide

end Delivery

end Log

end StatusBoard
