import StatusBoard.Devices.Output
import StatusBoard.Proofs.Terminal.Repaint

/-!
One screen on several devices.

The bytes of a draw reach the devices in chunks, and any device may fail at any chunk and take the
next ones again.  The draw succeeds as long as each chunk is taken by some device, and then every
device is taken to show the canvas.  This is so for the devices that are current: those that have
taken every chunk since the consoles were last cleared.
-/

namespace StatusBoard.Terminal

open Devices (broadcast)

/-- The size of a chunk, and for how many of its bytes each device has room. -/
structure Portion where
  size : Nat
  room : Nat → Option Nat

/-- Bytes that are written at once. -/
structure Chunk where
  bytes : List UInt8
  room : Nat → Option Nat

namespace Chunk

/-- Cut bytes into portions; what is left over is the last chunk. -/
def cut (bytes : List UInt8) : List Portion → List Chunk
  | [] => [⟨bytes, fun _ => none⟩]
  | p :: rest => ⟨bytes.take p.size, p.room⟩ :: cut (bytes.drop p.size) rest

theorem flatMap_bytes_cut (bytes : List UInt8) (plan : List Portion) :
    (cut bytes plan).flatMap Chunk.bytes = bytes := by
  induction plan generalizing bytes with
  | nil => exact List.append_nil bytes
  | cons p plan ih =>
      rw [cut, List.flatMap_cons, ih]
      exact List.take_append_drop p.size bytes

/-- Whether a device has room for the whole chunk. -/
def fits (ch : Chunk) (i : Nat) : Bool := (ch.room i).all (ch.bytes.length ≤ ·)

/-- Offer the chunk to every device. -/
def offer (ch : Chunk) (devices : List Stream) : List Stream × Except IoError Nat :=
  broadcast (devices.mapIdx fun i d => { d with room := ch.room i }) ch.bytes

theorem getElem?_offer (ch : Chunk) (devices : List Stream) (i : Nat) :
    (ch.offer devices).1[i]? =
      devices[i]?.map fun d => (Stream.write { d with room := ch.room i } ch.bytes).1 := by
  simp only [offer, broadcast, List.getElem?_map, List.getElem?_mapIdx, Option.map_map]
  rfl

theorem offer_singleton (ch : Chunk) (d : Stream) :
    ch.offer [d] =
      let (d, result) := Stream.write { d with room := ch.room 0 } ch.bytes
      ([d], result.map fun _ => ch.bytes.length) := by
  simp only [offer, broadcast, Devices.combine, List.mapIdx_cons, List.mapIdx_nil, List.map_cons,
    List.map_nil, List.foldl_cons, List.foldl_nil]

theorem taken_write_of_fits {ch : Chunk} {i : Nat} (h : ch.fits i = true) (d : Stream) :
    (Stream.write { d with room := ch.room i } ch.bytes).1.taken = d.taken ++ ch.bytes := by
  rw [fits] at h
  unfold Stream.write
  cases hroom : ch.room i with
  | none => rfl
  | some n =>
      rw [hroom, Option.all_some, decide_eq_true_eq] at h
      simp [List.take_of_length_le h]

end Chunk

/-- A screen and the devices that it is bound on. -/
structure Wall where
  screen : Screen
  devices : List Stream

namespace Wall

/-- Offer chunks to all devices until one is taken by none. -/
def sendAll (devices : List Stream) : List Chunk → List Stream × Except IoError Unit
  | [] => (devices, .ok ())
  | ch :: rest =>
      match ch.offer devices with
      | (devices, .ok _) => sendAll devices rest
      | (devices, .error e) => (devices, .error e)

def chunks (w : Wall) (c : Canvas) (plan : List Portion) : List Chunk :=
  Chunk.cut (Command.encode (w.screen.drawCommands c)) plan

def draw (w : Wall) (c : Canvas) (plan : List Portion) : Wall × Except IoError Unit :=
  match sendAll w.devices (w.chunks c plan) with
  | (devices, .ok _) => (⟨{ w.screen with shown := some c }, devices⟩, .ok ())
  | (devices, .error e) => (⟨w.screen, devices⟩, .error e)

/-- Whether a device takes every chunk of a draw. -/
def takes (w : Wall) (c : Canvas) (plan : List Portion) (i : Nat) : Bool :=
  (w.chunks c plan).all (Chunk.fits · i)

/-- What the console behind a device shows. -/
def display (k : Nat → Console) (w : Wall) (i : Nat) : Display :=
  ((k i).receive (w.devices[i]?.elim [] Stream.taken)).display

/-- One device is a stream like any other. -/
theorem draw_singleton (s : Screen) {d : Stream} (hd : d.isFlushing = true) (c : Canvas) :
    let a := Attachment.mk s d
    let w := (Wall.mk s [d]).draw c [⟨(Command.encode (s.drawCommands c)).length, fun _ => d.room⟩]
    w.2 = (a.draw c).2 ∧ w.1.screen = (a.draw c).1.screen ∧
      w.1.devices.map Stream.taken = [(a.draw c).1.out.taken] := by
  intro a w
  have hchunks : (Wall.mk s [d]).chunks c
      [⟨(Command.encode (s.drawCommands c)).length, fun _ => d.room⟩] =
        [⟨Command.encode (s.drawCommands c), fun _ => d.room⟩, ⟨[], fun _ => none⟩] := by
    simp [chunks, Chunk.cut]
  simp only [w, a, draw, hchunks, sendAll, Chunk.offer_singleton, Attachment.draw, Screen.draw,
    Stream.send]
  cases hwrite : d.write (Command.encode (s.drawCommands c)) with
  | mk after result =>
      have hflush : after.flush = .ok () := by
        have hkept := Stream.isFlushing_write d (Command.encode (s.drawCommands c))
        rw [hwrite] at hkept
        rw [Stream.flush, hkept, hd, if_pos rfl]
      cases result with
      | ok _ => simp [Except.map, Chunk.offer_singleton, Stream.write, hflush]
      | error e => simp [Except.map]

theorem length_sendAll (devices : List Stream) (chunks : List Chunk) :
    (sendAll devices chunks).1.length = devices.length := by
  induction chunks generalizing devices with
  | nil => rfl
  | cons ch rest ih =>
      have hoffer : (ch.offer devices).1.length = devices.length := by
        simp [Chunk.offer, broadcast]
      rw [sendAll]
      cases h : ch.offer devices with
      | mk after result =>
          rw [h] at hoffer
          cases result with
          | ok _ => exact (ih after).trans hoffer
          | error e => exact hoffer

theorem taken_sendAll {devices devices' : List Stream} {chunks : List Chunk}
    (h : sendAll devices chunks = (devices', .ok ())) {i : Nat}
    (hfits : ∀ ch ∈ chunks, ch.fits i = true) :
    devices'[i]?.map Stream.taken =
      devices[i]?.map fun d => d.taken ++ chunks.flatMap Chunk.bytes := by
  induction chunks generalizing devices with
  | nil =>
      cases h
      simp
  | cons ch rest ih =>
      have hget := ch.getElem?_offer devices i
      rw [sendAll] at h
      cases hoffer : ch.offer devices with
      | mk after result =>
          rw [hoffer] at h hget
          cases result with
          | error e => cases h
          | ok _ =>
              rw [ih h fun ch' hch' => hfits ch' (List.mem_cons_of_mem ch hch'), hget,
                Option.map_map]
              congr 1
              funext d
              rw [Function.comp_apply,
                Chunk.taken_write_of_fits (hfits ch (List.mem_cons_self ..)), List.flatMap_cons,
                List.append_assoc]

theorem draw_of_ok {w : Wall} {c : Canvas} {plan : List Portion}
    (h : (w.draw c plan).2 = .ok ()) :
    ∃ devices, sendAll w.devices (w.chunks c plan) = (devices, .ok ()) ∧
      (w.draw c plan).1 = ⟨{ w.screen with shown := some c }, devices⟩ := by
  unfold draw at h ⊢
  cases hsend : sendAll w.devices (w.chunks c plan) with
  | mk devices result =>
      rw [hsend] at h
      cases result with
      | ok _ => exact ⟨devices, rfl, rfl⟩
      | error e => cases h

theorem devices_draw (w : Wall) (c : Canvas) (plan : List Portion) :
    (w.draw c plan).1.devices = (sendAll w.devices (w.chunks c plan)).1 := by
  unfold draw
  cases sendAll w.devices (w.chunks c plan) with
  | mk devices result => cases result <;> rfl

theorem length_draw (w : Wall) (c : Canvas) (plan : List Portion) :
    (w.draw c plan).1.devices.length = w.devices.length := by
  rw [devices_draw, length_sendAll]

/-- A draw that succeeds is carried out by the console behind a device that has taken all of it,
whatever this console was in the middle of. -/
theorem display_draw_of_takes (k : Nat → Console) {w : Wall} {c : Canvas} (hc : c.WellFormed)
    {plan : List Portion} (hok : (w.draw c plan).2 = .ok ()) {i : Nat} (hi : i < w.devices.length)
    (htakes : w.takes c plan i = true) :
    (w.draw c plan).1.display k i = (w.display k i).execAll (w.screen.drawCommands c) := by
  obtain ⟨devices, hsend, hdraw⟩ := draw_of_ok hok
  have htaken := taken_sendAll hsend (i := i) (List.all_eq_true.mp htakes)
  rw [chunks, Chunk.flatMap_bytes_cut, List.getElem?_eq_getElem hi, Option.map_some] at htaken
  obtain ⟨d, hd, htaken⟩ := Option.map_eq_some_iff.mp htaken
  obtain ⟨cmd, rest, heq, hcontrol⟩ := w.screen.starts_drawCommands c
  have hplain : ∀ cmd' ∈ rest, cmd'.IsPlain := fun cmd' hcmd' =>
    (Screen.isApt_of_mem_drawCommands hc (heq ▸ List.mem_cons_of_mem cmd hcmd')).1
  rw [hdraw, display, display, hd, List.getElem?_eq_getElem hi]
  change ((k i).receive d.taken).display = _
  rw [htaken, heq, Console.receive_append (k i) _ hcontrol List.prefix_rfl,
    Console.receive_encode _ hcontrol hplain]
  rfl

/-- Every cell but the corner shows what it is to look like. -/
def Bears (k : Nat → Console) (w : Wall) (c : Canvas) (i : Nat) : Prop :=
  ∀ x y, ¬ c.IsCorner x y → (w.display k i).cells x y = c.glyph w.screen.theme x y

end Wall

namespace Display

/-- The last command of a draw goes back to the default color. -/
theorem follows_draw (theme : Theme) (s : Screen) (c : Canvas) (d : Display) :
    (d.execAll (s.drawCommands c)).Follows theme := by
  intro _
  rw [Screen.drawCommands_eq, execAll_append, execAll_append]
  rfl

/-- A draw shows the canvas exactly if it clears the console or what it does not send was shown
before. -/
theorem cells_draw_iff {s : Screen} {c : Canvas} (hc : c.WellFormed) {d : Display}
    (hd : d.Follows s.theme) :
    (∀ x y, ¬ c.IsCorner x y →
      (d.execAll (s.drawCommands c)).cells x y = c.glyph s.theme x y) ↔
    s.base c = none ∨ ∀ x y, ¬ c.IsCorner x y → ¬ (y ∈ s.staleRows c ∧ x < c.width) →
      d.cells x y = c.glyph s.theme x y := by
  constructor
  · intro hshown
    cases hbase : s.base c with
    | none => exact .inl rfl
    | some p =>
        refine .inr fun x y hcorner hunsent => ?_
        rw [← cells_draw_of_not_isStale hc hd hbase hunsent]
        exact hshown x y hcorner
  · rintro (hbase | hkept) x y hcorner
    · exact cells_draw_of_base_eq_none hc hbase hcorner
    · by_cases hsent : y ∈ s.staleRows c ∧ x < c.width
      · exact shows_draw_of_isStale hc hd (Screen.lt_of_mem_staleRows hsent.1)
          (List.mem_filter.mp hsent.1).2 x hsent.2 hcorner
      · cases hbase : s.base c with
        | none => exact cells_draw_of_base_eq_none hc hbase hcorner
        | some p =>
            rw [cells_draw_of_not_isStale hc hd hbase hsent]
            exact hkept x y hcorner hsent

end Display

/-! ## The devices that are current -/

/-- A wall, and which of its devices have taken everything since their consoles were cleared. -/
structure Register where
  wall : Wall
  isCurrent : Nat → Bool

/-- What can happen to a wall. -/
inductive Occurrence
  | draw (c : Canvas) (plan : List Portion)
  | resize (size : Size)
  | invalidate

namespace Register

def start (size : Size) (theme : Theme) (devices : List Stream) : Register :=
  ⟨⟨.fresh size theme, devices⟩, fun _ => false⟩

/-- Draw a canvas.  A device stays current if it takes the whole draw, and becomes so if the draw
clears its console; after a failure none is. -/
def draw (r : Register) (c : Canvas) (plan : List Portion) : Register :=
  match r.wall.draw c plan with
  | (wall, .ok _) =>
      ⟨wall, fun i =>
        r.wall.takes c plan i && ((r.wall.screen.base c).isNone || r.isCurrent i)⟩
  | (wall, .error _) => ⟨wall, fun _ => false⟩

def after (r : Register) : Occurrence → Register
  | .draw c plan => r.draw c plan
  | .resize size => { r with wall.screen := (r.wall.screen.resize size).1 }
  | .invalidate => { r with wall.screen := r.wall.screen.invalidate }

/-- The current devices show what the screen remembers. -/
structure Tracks (k : Nat → Console) (theme : Theme) (n : Nat) (r : Register) : Prop where
  theme_eq : r.wall.screen.theme = theme
  length_eq : r.wall.devices.length = n
  follows : ∀ i < n, r.isCurrent i = true → (r.wall.display k i).Follows theme
  bears : ∀ p, r.wall.screen.shown = some p → ∀ i < n, r.isCurrent i = true → r.wall.Bears k p i

theorem tracks_start (k : Nat → Console) (size : Size) (theme : Theme) (devices : List Stream) :
    (start size theme devices).Tracks k theme devices.length where
  theme_eq := rfl
  length_eq := rfl
  follows := fun _ _ h => by cases h
  bears := fun _ h => by cases h

theorem draw_of_ok {r : Register} {c : Canvas} {plan : List Portion}
    (h : (r.wall.draw c plan).2 = .ok ()) :
    r.draw c plan = ⟨(r.wall.draw c plan).1, fun i =>
      r.wall.takes c plan i && ((r.wall.screen.base c).isNone || r.isCurrent i)⟩ := by
  unfold draw
  cases hdraw : r.wall.draw c plan with
  | mk wall result =>
      rw [hdraw] at h
      cases h
      rfl

theorem draw_of_error {r : Register} {c : Canvas} {plan : List Portion} {e : IoError}
    (h : (r.wall.draw c plan).2 = .error e) :
    (r.draw c plan).wall.screen = r.wall.screen ∧ (r.draw c plan).isCurrent = fun _ => false := by
  unfold draw
  unfold Wall.draw at h ⊢
  cases hsend : Wall.sendAll r.wall.devices (r.wall.chunks c plan) with
  | mk devices result =>
      rw [hsend] at h
      cases result with
      | ok _ => cases h
      | error e => exact ⟨rfl, rfl⟩

theorem wall_draw (r : Register) (c : Canvas) (plan : List Portion) :
    (r.draw c plan).wall = (r.wall.draw c plan).1 := by
  unfold draw
  cases r.wall.draw c plan with
  | mk wall result => cases result <;> rfl

variable {k : Nat → Console} {theme : Theme} {n : Nat} {r : Register} {c : Canvas}
  {plan : List Portion}

/-- A device that takes the whole of a draw shows the canvas if it was current or the draw clears
its console. -/
theorem Tracks.bears_draw (h : r.Tracks k theme n) (hc : c.WellFormed)
    (hok : (r.wall.draw c plan).2 = .ok ()) {i : Nat} (hi : i < n)
    (htakes : r.wall.takes c plan i = true)
    (hcurrent : r.wall.screen.base c = none ∨ r.isCurrent i = true) :
    (r.wall.draw c plan).1.Bears k c i := by
  obtain ⟨rfl, rfl, hfollows, hbears⟩ := h
  have hdisplay := Wall.display_draw_of_takes k hc hok hi htakes
  obtain ⟨devices, -, hdraw⟩ := Wall.draw_of_ok hok
  have htheme : (r.wall.draw c plan).1.screen.theme = r.wall.screen.theme := by rw [hdraw]
  intro x y hcorner
  rw [hdisplay, htheme]
  rcases hcurrent with hbase | hcurrent
  · exact Display.cells_draw_of_base_eq_none hc hbase hcorner
  · refine Display.cells_draw hc (hfollows i hi hcurrent) ?_ hcorner
    intro p hbase
    exact hbears p (Screen.base_eq_some_iff.mp hbase).1 i hi hcurrent

theorem Tracks.draw (h : r.Tracks k theme n) (hc : c.WellFormed) (plan : List Portion) :
    (r.draw c plan).Tracks k theme n := by
  have hlength : (r.draw c plan).wall.devices.length = n := by
    rw [wall_draw, Wall.length_draw, h.length_eq]
  cases hresult : (r.wall.draw c plan).2 with
  | error e =>
      obtain ⟨hscreen, hnone⟩ := draw_of_error hresult
      refine ⟨hscreen ▸ h.theme_eq, hlength, ?_, ?_⟩
      · intro i hi hcurrent
        rw [hnone] at hcurrent
        cases hcurrent
      · intro p hp i hi hcurrent
        rw [hnone] at hcurrent
        cases hcurrent
  | ok _ =>
      obtain ⟨devices, -, hwall⟩ := Wall.draw_of_ok hresult
      have hcurrent : ∀ i, (r.draw c plan).isCurrent i = true →
          r.wall.takes c plan i = true ∧
            (r.wall.screen.base c = none ∨ r.isCurrent i = true) := by
        intro i hi
        rw [draw_of_ok hresult] at hi
        simpa using hi
      refine ⟨?_, hlength, ?_, ?_⟩
      · rw [wall_draw, hwall]
        exact h.theme_eq
      · intro i hi hafter
        rw [wall_draw,
          Wall.display_draw_of_takes k hc hresult (h.length_eq ▸ hi) (hcurrent i hafter).1]
        exact Display.follows_draw theme _ c _
      · intro p hp i hi hafter
        rw [wall_draw, hwall, Option.some.injEq] at hp
        rw [wall_draw, ← hp]
        exact h.bears_draw hc hresult hi (hcurrent i hafter).1 (hcurrent i hafter).2

theorem Tracks.after (h : r.Tracks k theme n) {occurrence : Occurrence}
    (hdrawn : ∀ c plan, occurrence = .draw c plan → c.WellFormed) :
    (r.after occurrence).Tracks k theme n := by
  have hforget : ∀ size, Tracks k theme n
      { r with wall.screen := { r.wall.screen with size, shown := none } } :=
    fun size => ⟨h.theme_eq, h.length_eq, h.follows, fun _ hp => by cases hp⟩
  cases occurrence with
  | draw c plan => exact h.draw (hdrawn c plan rfl) plan
  | resize size =>
      simp only [Register.after, Screen.resize]
      split
      · exact h
      · exact hforget size
  | invalidate => exact hforget r.wall.screen.size

theorem Tracks.foldl_after (h : r.Tracks k theme n) {occurrences : List Occurrence}
    (hdrawn : ∀ c plan, .draw c plan ∈ occurrences → c.WellFormed) :
    (occurrences.foldl Register.after r).Tracks k theme n := by
  induction occurrences generalizing r with
  | nil => exact h
  | cons occurrence occurrences ih =>
      refine ih (h.after ?_) fun c plan hc => hdrawn c plan (List.mem_cons_of_mem occurrence hc)
      rintro c plan rfl
      exact hdrawn c plan (List.mem_cons_self ..)

/-- After a draw that succeeds, a device that has taken all of it shows the canvas if it was current
before or the draw clears its console.  In general it shows the canvas exactly if it was cleared or
has shown before all that the draw does not send. -/
theorem shows_drawn_iff (k : Nat → Console) (size : Size) (theme : Theme) (devices : List Stream)
    {occurrences : List Occurrence} (hdrawn : ∀ c plan, .draw c plan ∈ occurrences → c.WellFormed)
    {c : Canvas} (hc : c.WellFormed) (plan : List Portion) :
    let r := occurrences.foldl after (start size theme devices)
    (r.wall.draw c plan).2 = .ok () →
    ∀ i < devices.length, r.wall.takes c plan i = true →
      (r.wall.screen.base c = none ∨ r.isCurrent i = true →
        (r.wall.draw c plan).1.Bears k c i ∧ (r.draw c plan).isCurrent i = true) ∧
      ((r.wall.display k i).Follows theme →
        ((r.wall.draw c plan).1.Bears k c i ↔
          r.wall.screen.base c = none ∨
            ∀ x y, ¬ c.IsCorner x y → ¬ (y ∈ r.wall.screen.staleRows c ∧ x < c.width) →
              (r.wall.display k i).cells x y = c.glyph theme x y)) := by
  intro r hok i hi htakes
  have htracks : r.Tracks k theme devices.length :=
    (tracks_start k size theme devices).foldl_after hdrawn
  obtain ⟨devices', -, hwall⟩ := Wall.draw_of_ok hok
  constructor
  · intro hcurrent
    refine ⟨htracks.bears_draw hc hok hi htakes hcurrent, ?_⟩
    rw [draw_of_ok hok]
    simpa [htakes] using hcurrent
  · intro hfollows
    have htheme : (r.wall.draw c plan).1.screen.theme = r.wall.screen.theme := by rw [hwall]
    have hdisplay := Wall.display_draw_of_takes k hc hok (htracks.length_eq ▸ hi) htakes
    rw [Wall.Bears, htheme, hdisplay]
    rw [← htracks.theme_eq] at hfollows ⊢
    exact Display.cells_draw_iff hc hfollows

/-- A draw of which the second device takes nothing. -/
def missedDraw : Occurrence :=
  .draw (Attachment.sheet "a") [⟨64, fun i => if i = 1 then some 0 else none⟩]

def missed (rest : List Occurrence) : Register :=
  (missedDraw :: rest).foldl after (start ⟨3, 2⟩ .plain [.endless, .endless])

/-- A canvas with a letter right of a character of three columns. -/
def beyyalSheet : Canvas :=
  Canvas.Stroke.picture 4 2 [.text 0 0 (String.ofList [Text.beyyal, 'a']) .normal 4]

/-- Consoles that have just been switched on. -/
def consoles : Nat → Console := fun _ => ⟨.initial, .ground⟩

/-- A device that has missed the first draw stays blank when the same canvas is drawn again, though
both devices take all of it.  On a single device that takes everything, a letter right of a
character of three columns is not shown where the canvas has it. -/
theorem letter_missing_after_draw :
    (((missed []).wall.draw (Attachment.sheet "a") []).2 = .ok () ∧
      (∀ i < 2, (missed []).wall.takes (Attachment.sheet "a") [] i = true) ∧
      (((missed []).wall.draw (Attachment.sheet "a") []).1.display consoles 0).cells 0 0 =
        ⟨'a', .standard⟩ ∧
      (((missed []).wall.draw (Attachment.sheet "a") []).1.display consoles 1).cells 0 0 =
        .blank) ∧
    let w : Wall := ⟨.fresh ⟨4, 2⟩ .plain, [.endless]⟩
    (w.draw beyyalSheet []).2 = .ok () ∧ w.takes beyyalSheet [] 0 = true ∧
      ¬ beyyalSheet.IsCorner 3 0 ∧ beyyalSheet.glyph .plain 3 0 = ⟨'a', .standard⟩ ∧
      ((w.draw beyyalSheet []).1.display consoles 0).cells 3 0 = ⟨' ', .standard⟩ := by
  decide +kernel

/-- Forgetting in between what was shown makes both devices show the letter. -/
theorem shows_letter_after_invalidate :
    (∀ c plan, .draw c plan ∈ [missedDraw, .invalidate] → c.WellFormed) ∧
    (Attachment.sheet "a").WellFormed ∧
    ((missed [.invalidate]).wall.draw (Attachment.sheet "a") []).2 = .ok () ∧
    (∀ i < 2, (missed [.invalidate]).wall.takes (Attachment.sheet "a") [] i = true) ∧
    ∀ i < 2, ((missed [.invalidate]).wall.draw (Attachment.sheet "a") []).1.Bears consoles
      (Attachment.sheet "a") i := by
  have hsheet : (Attachment.sheet "a").WellFormed := Attachment.wellFormed_sheet (by decide)
  have hdrawn : ∀ c plan, .draw c plan ∈ [missedDraw, .invalidate] → c.WellFormed := by
    intro c plan hc
    simp only [missedDraw, List.mem_cons, Occurrence.draw.injEq, List.not_mem_nil, reduceCtorEq,
      or_false] at hc
    rw [hc.1]
    exact hsheet
  have hok : ((missed [.invalidate]).wall.draw (Attachment.sheet "a") []).2 = .ok () := by
    decide +kernel
  have htakes : ∀ i < 2, (missed [.invalidate]).wall.takes (Attachment.sheet "a") [] i = true := by
    decide +kernel
  refine ⟨hdrawn, hsheet, hok, htakes, ?_⟩
  intro i hi
  exact ((shows_drawn_iff consoles ⟨3, 2⟩ .plain [.endless, .endless] hdrawn hsheet [] hok i hi
    (htakes i hi)).1 (.inl rfl)).1

end Register

end StatusBoard.Terminal
