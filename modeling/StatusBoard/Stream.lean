import StatusBoard.Fault

/-!
Streams of bytes that may stop accepting them.

A stream has room for so many bytes more, or for any number.  Bytes that find no room make the
write fail; those before them have been taken all the same.  A stream may also take bytes and then
fail to pass them on.
-/

namespace StatusBoard

/-- A stream that output is written to. -/
structure Stream where
  /-- How many bytes the stream still takes; `none` if it takes any number. -/
  room : Option Nat
  /-- The bytes taken so far. -/
  taken : List UInt8
  /-- Whether the bytes taken can be passed on. -/
  isFlushing : Bool := true
  deriving DecidableEq, Repr

namespace Stream

def endless : Stream := { room := none, taken := [] }

/-- The failure of a write that finds no room. -/
def gone : IoError := ⟨.brokenPipe, "console gone"⟩

/-- Write bytes: as many as there is room for. -/
def write (s : Stream) (bytes : List UInt8) : Stream × Except IoError Unit :=
  match s.room with
  | none => ({ s with taken := s.taken ++ bytes }, .ok ())
  | some n =>
      let s := { s with room := some (n - bytes.length), taken := s.taken ++ bytes.take n }
      (s, if bytes.length ≤ n then .ok () else .error gone)

def flush (s : Stream) : Except IoError Unit := if s.isFlushing then .ok () else .error gone

def send (s : Stream) (bytes : List UInt8) : Stream × Except IoError Unit :=
  match s.write bytes with
  | (s, .ok ()) => (s, s.flush)
  | (s, .error e) => (s, .error e)

theorem isFlushing_write (s : Stream) (bytes : List UInt8) :
    (s.write bytes).1.isFlushing = s.isFlushing := by
  unfold write
  split <;> rfl

/-- A stream that takes whatever is written and passes it on. -/
def IsEndless (s : Stream) : Prop := s.room = none ∧ s.isFlushing = true

theorem send_of_isEndless {s : Stream} (h : s.IsEndless) (bytes : List UInt8) :
    s.send bytes = ({ s with taken := s.taken ++ bytes }, .ok ()) := by
  rw [send, write, h.1]
  simp [flush, h.2]

/-- Bytes that are sent are taken as a whole and passed on, or the sending fails after a part of
them. -/
theorem send_cases (s : Stream) (bytes : List UInt8) :
    ((s.send bytes).2 = .ok () ∧ (s.send bytes).1.taken = s.taken ++ bytes) ∨
      ∃ n ≤ bytes.length, (s.send bytes).2 = .error gone ∧
        (s.send bytes).1.taken = s.taken ++ bytes.take n := by
  unfold send write flush
  cases s.room with
  | none =>
      cases s.isFlushing with
      | true => exact .inl ⟨rfl, rfl⟩
      | false => exact .inr ⟨bytes.length, Nat.le_refl _, rfl, by simp⟩
  | some n =>
      by_cases hn : bytes.length ≤ n
      · cases s.isFlushing with
        | true => exact .inl (by simp [hn, List.take_of_length_le hn])
        | false => exact .inr ⟨bytes.length, Nat.le_refl _, by simp [hn, List.take_of_length_le hn]⟩
      · exact .inr ⟨n, by omega, by simp [hn]⟩

end Stream

end StatusBoard
