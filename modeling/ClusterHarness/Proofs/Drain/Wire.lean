import ClusterHarness.Machine.Hosting
import ClusterHarness.Proofs.Drain.Turns

/-!
# The wire between a child and its reader

A child prints into a pipe, the harness takes bytes out of it at its own times, first to find lines
and later in a drain, and the drain may be cancelled. Each of these is a turn of its own, and any
sequence of turns may happen, so a statement about every sequence of turns is one about every
interleaving of the two. No turn loses or reorders a byte on its way to the reader.
-/

namespace ClusterHarness

open Machine

/-! ## Outlets -/

namespace Machine.Outlet

/-- Keep bytes that were read until they are used. -/
def hold (o : Outlet) (bytes : Bytes) : Outlet :=
  match o.reading with
  | .drain d => { o with reading := .drain { d with unread := d.unread ++ bytes } }
  | _ => { o with unread := o.unread ++ bytes }

/-- Bytes that were read and not used yet. -/
def held (o : Outlet) : Bytes :=
  match o.reading with
  | .drain d => d.unread
  | _ => o.unread

/-- Let the drain take one turn: what it forwards, and what is held then. A drain that is over
closes the pipe. -/
def forward (o : Outlet) (closed : Bool) : List Shown × Outlet :=
  match o.reading with
  | .drain d =>
    if d.ended.isSome then ([], o)
    else
      let (text, d) := d.turn closed
      (text.toList.map (⟨d.label, ·⟩),
        { o with reading := .drain d, pipe := if d.ended.isSome then none else o.pipe })
  | _ => ([], o)

@[simp]
private theorem held_hold (o : Outlet) (bytes : Bytes) : (o.hold bytes).held = o.held ++ bytes := by
  unfold hold held
  cases o.reading <;> rfl

@[simp]
private theorem pipe_hold (o : Outlet) (bytes : Bytes) : (o.hold bytes).pipe = o.pipe := by
  unfold hold
  cases o.reading <;> rfl

end Machine.Outlet

/-! ## Turns of a wire -/

/-- What happens next between a child and its reader. -/
inductive Turn where
  /-- The child prints up to so many bytes. -/
  | print (count : Nat)
  /-- The child closes its output, if it has printed everything. -/
  | close
  /-- The reader takes up to so many bytes out of the pipe. -/
  | read (count : Nat)
  /-- The drain takes one turn. -/
  | forward
  /-- The drain is cancelled. -/
  | cancel
deriving DecidableEq, Repr

/-- The output of a child on its way to the lines that are shown. -/
structure Wire where
  /-- What the child will still print; nothing once it has closed its output. -/
  unprinted : Option Bytes
  /-- What it has printed and nobody has read. -/
  inPipe : Bytes := []
  outlet : Outlet := { pipe := some 0 }
  shown : List Shown := []
  /-- What happens while the harness waits for a line. -/
  schedule : List Turn := []

namespace Wire

/-- The wire of a child that has not printed yet. -/
def printing (output : Bytes) (schedule : List Turn) : Wire :=
  { unprinted := some output, schedule }

/-- Whether nothing will come out of the pipe any more. -/
def isOver (w : Wire) : Bool := w.unprinted.isNone && w.inPipe.isEmpty

/-- All bytes that were not made lines yet, in the order in which they are printed. -/
def stream (w : Wire) : Bytes := w.outlet.held ++ w.inPipe ++ w.unprinted.getD []

/-- The child prints up to so many bytes. It cannot print into a pipe that its reader has closed. -/
def print (w : Wire) (count : Nat) : Wire :=
  if w.outlet.pipe.isNone then w
  else
    { w with
      unprinted := w.unprinted.map (·.drop count)
      inPipe := w.inPipe ++ (w.unprinted.getD []).take count }

/-- The child closes its output, if it has printed everything. -/
def close (w : Wire) : Wire :=
  if w.unprinted = some [] then { w with unprinted := none } else w

/-- The reader takes up to so many bytes out of the pipe. -/
def read (w : Wire) (count : Nat) : Wire :=
  if w.outlet.pipe.isNone then w
  else
    let count := min count w.outlet.wanted
    { w with inPipe := w.inPipe.drop count, outlet := w.outlet.hold (w.inPipe.take count) }

/-- The drain takes one turn. -/
def forward (w : Wire) : Wire :=
  let (lines, outlet) := w.outlet.forward w.isOver
  { w with outlet, shown := w.shown ++ lines }

/-- The drain is cancelled. -/
def cancel (w : Wire) : Wire := { w with outlet := w.outlet.cancelDrain }

/-- Take one turn. -/
def take (w : Wire) : Turn → Wire
  | .print count => w.print count
  | .close => w.close
  | .read count => w.read count
  | .forward => w.forward
  | .cancel => w.cancel

/-- Take turns in order. -/
def run (w : Wire) (turns : List Turn) : Wire := turns.foldl take w

/-! ## Reading lines -/

/-- What there is to be read without waiting. -/
def poll (w : Wire) : Option (LineRead × Wire) :=
  match nextLine? w.isOver w.outlet.unread with
  | some (line, rest) =>
    let w := { w with outlet := { w.outlet with unread := rest } }
    match Text.ofBytes? line with
    | some text => some (.line text, w)
    | none => some (.failed (.malformedLine ((Text.malformed? 0 line).getD default)), w)
  | none => if w.isOver then some (.ended, w) else none

/-- Let turns happen until there is something to be read. -/
def await (w : Wire) : List Turn → LineRead × Wire
  | [] => w.poll.getD (.timedOut, { w with schedule := [] })
  | t :: turns =>
    match w.poll with
    | some (r, w) => (r, { w with schedule := t :: turns })
    | none => await (w.take t) turns

/-- Read the next line, unless a drain has taken over. -/
def readLine (w : Wire) : LineRead × Wire :=
  match w.outlet.reading with
  | .drain _ => (.ended, w)
  | _ =>
    let (r, w) := await { w with outlet := { w.outlet with reading := .line } } w.schedule
    (r, { w with outlet := { w.outlet with reading := .nothing } })

/-! ## Turns while lines are read -/

/-- The same bytes are on their way to the same reader, and the same lines were shown. -/
structure Alike (v w : Wire) : Prop where
  stream : v.stream = w.stream
  shown : v.shown = w.shown
  reading : v.outlet.reading = w.outlet.reading
  pipe : v.outlet.pipe = w.outlet.pipe

/-- Printing leaves the stream and its reader as they are. -/
theorem alike_print (w : Wire) (count : Nat) : Alike (w.print count) w := by
  unfold print
  split
  · exact ⟨rfl, rfl, rfl, rfl⟩
  · refine ⟨?_, rfl, rfl, rfl⟩
    cases h : w.unprinted <;> simp [stream, h]

/-- So does closing the output. -/
theorem alike_close (w : Wire) : Alike w.close w := by
  unfold close
  split
  · next h => exact ⟨by simp [stream, h], rfl, rfl, rfl⟩
  · exact ⟨rfl, rfl, rfl, rfl⟩

/-- Reading from the pipe leaves the stream as it is. -/
@[simp]
theorem stream_read (w : Wire) (count : Nat) : (w.read count).stream = w.stream := by
  unfold read
  split
  · rfl
  · simp [stream]

private theorem alike_read_of_line {w : Wire} (h : w.outlet.reading = .line) (count : Nat) :
    Alike (w.read count) w := by
  refine ⟨w.stream_read count, ?_, ?_, ?_⟩ <;> unfold read <;> split
  all_goals simp [Outlet.hold, h]

/-- No turn loses a byte while lines are read one by one. -/
theorem alike_take_of_line {w : Wire} (h : w.outlet.reading = .line) (t : Turn) :
    Alike (w.take t) w := by
  cases t with
  | print count => exact w.alike_print count
  | close => exact w.alike_close
  | read count => exact alike_read_of_line h count
  | forward =>
    have ht : w.forward = w := by simp [forward, Outlet.forward, h]
    rw [take, ht]
    exact ⟨rfl, rfl, rfl, rfl⟩
  | cancel =>
    have ht : w.cancel = w := by simp [cancel, Outlet.cancelDrain, h]
    rw [take, ht]
    exact ⟨rfl, rfl, rfl, rfl⟩

/-- A line was made of the beginning of the stream, and nothing else was done. -/
structure Gives (w : Wire) (text : String) (v : Wire) : Prop where
  lines : Text.textLines w.stream = some text :: Text.textLines v.stream
  shorter : v.stream.length < w.stream.length
  shown : v.shown = w.shown
  pipe : v.outlet.pipe = w.outlet.pipe

private theorem gives_of_poll {w v : Wire} (h : w.outlet.reading = .line) {text : String}
    (hp : w.poll = some (.line text, v)) : Gives w text v ∧ v.outlet.reading = .line := by
  unfold poll at hp
  cases hn : nextLine? w.isOver w.outlet.unread with
  | none =>
    rw [hn] at hp
    dsimp only at hp
    split at hp <;> simp at hp
  | some next =>
  obtain ⟨line, rest⟩ := next
  rw [hn] at hp
  dsimp only at hp
  cases ht : Text.ofBytes? line with
  | none => simp [ht] at hp
  | some t =>
  rw [ht] at hp
  cases hp
  have hmore : w.isOver = true → w.inPipe ++ w.unprinted.getD [] = [] := by
    intro hover
    simp_all [isOver]
  have hlines := textLines_of_nextLine?_eq_some hn hmore
  have hlength := length_of_nextLine? hn
  refine ⟨⟨?_, ?_, rfl, rfl⟩, h⟩
  · simpa [stream, Outlet.held, h, ht] using hlines
  · simpa [stream, Outlet.held, h] using hlength

private theorem gives_of_await {w v : Wire} (h : w.outlet.reading = .line) {turns : List Turn}
    {text : String} (ha : w.await turns = (.line text, v)) :
    Gives w text v ∧ v.outlet.reading = .line := by
  induction turns generalizing w with
  | nil =>
    unfold await at ha
    cases hp : w.poll with
    | none => simp [hp] at ha
    | some r =>
      rw [hp, Option.getD_some] at ha
      exact gives_of_poll h (hp.trans (congrArg some ha))
  | cons t turns ih =>
    unfold await at ha
    cases hp : w.poll with
    | none =>
      rw [hp] at ha
      have halike := alike_take_of_line h t
      obtain ⟨hg, hline⟩ := ih (halike.reading.trans h) ha
      exact ⟨⟨halike.stream ▸ hg.lines, halike.stream ▸ hg.shorter,
        hg.shown.trans halike.shown, hg.pipe.trans halike.pipe⟩, hline⟩
    | some r =>
      obtain ⟨r, v'⟩ := r
      rw [hp] at ha
      cases ha
      obtain ⟨hg, hline⟩ := gives_of_poll h hp
      exact ⟨⟨hg.lines, hg.shorter, hg.shown, hg.pipe⟩, hline⟩

/-- A line that is read was the next one of the stream. -/
theorem gives_of_readLine {w v : Wire} {text : String} (hr : w.readLine = (.line text, v)) :
    Gives w text v ∧ v.outlet.reading = .nothing := by
  have hundrained : ∀ d, w.outlet.reading ≠ .drain d := by
    intro d hd
    simp [readLine, hd] at hr
  have hheld : w.outlet.held = w.outlet.unread := by
    unfold Outlet.held
    split
    · next d hd => exact absurd hd (hundrained d)
    · rfl
  let began : Wire := { w with outlet := { w.outlet with reading := .line } }
  have hread : w.readLine =
      ((began.await w.schedule).1,
        { (began.await w.schedule).2 with
          outlet := { (began.await w.schedule).2.outlet with reading := .nothing } }) := by
    unfold readLine
    split
    · next d hd => exact absurd hd (hundrained d)
    · rfl
  rw [hread] at hr
  cases ha : began.await w.schedule with
  | mk r u =>
  rw [ha] at hr
  cases hr
  obtain ⟨hg, hline⟩ := gives_of_await rfl ha
  have hbegan : began.stream = w.stream := by
    unfold stream
    rw [hheld]
    rfl
  have hended : stream { u with outlet := { u.outlet with reading := .nothing } } = u.stream := by
    simp [stream, Outlet.held, hline]
  exact ⟨⟨hbegan ▸ hended ▸ hg.lines, hbegan ▸ hended ▸ hg.shorter, hg.shown, hg.pipe⟩, rfl⟩

/-! ## Wires that are over -/

/-- What can be read at once is read, however the schedule goes on. -/
theorem await_of_poll {w v : Wire} {r : LineRead} (hp : w.poll = some (r, v)) (turns : List Turn) :
    ∃ later, w.await turns = (r, { v with schedule := later }) := by
  cases turns with
  | nil => exact ⟨v.schedule, by simp [await, hp]⟩
  | cons t turns => exact ⟨t :: turns, by simp [await, hp]⟩

/-- A wire that is over and from which the next bytes were already taken. -/
structure Waiting (w : Wire) (lines : List (Option String)) : Prop where
  isOver : w.isOver = true
  idle : w.outlet.reading = .nothing
  lines : Text.textLines w.outlet.unread = lines

/-- The schedule has no part in what a waiting wire gives. -/
theorem readLine_of_poll {w v : Wire} {r : LineRead} (hidle : w.outlet.reading = .nothing)
    (hp : poll { w with outlet := { w.outlet with reading := .line } } = some (r, v)) :
    ∃ later, w.readLine =
      (r, { v with outlet := { v.outlet with reading := .nothing }, schedule := later }) := by
  obtain ⟨later, ha⟩ := await_of_poll hp w.schedule
  unfold readLine
  rw [hidle]
  dsimp only
  rw [ha]
  exact ⟨later, rfl⟩

/-- Where no line waits, a reader is told that the output has ended. -/
theorem readLine_of_waiting_nil {w : Wire} (h : w.Waiting []) : ∃ v, w.readLine = (.ended, v) := by
  let began : Wire := { w with outlet := { w.outlet with reading := .line } }
  have hnext : nextLine? true w.outlet.unread = none := by
    have hlines := h.lines
    rw [textLines_eq] at hlines
    cases hn : nextLine? true w.outlet.unread with
    | none => rfl
    | some next =>
      rw [hn] at hlines
      cases hlines
  have hover : began.isOver = true := h.isOver
  have hpoll : began.poll = some (.ended, began) := by
    have hnext' : nextLine? true began.outlet.unread = none := hnext
    simp only [poll, hover, hnext', if_true]
  obtain ⟨later, hr⟩ := readLine_of_poll h.idle hpoll
  exact ⟨_, hr⟩

/-- A reader gets the first line that waits, and the others go on waiting. -/
theorem readLine_of_waiting_cons {w : Wire} {line : String} {lines : List (Option String)}
    (h : w.Waiting (some line :: lines)) :
    ∃ v, w.readLine = (.line line, v) ∧ v.Waiting lines := by
  let began : Wire := { w with outlet := { w.outlet with reading := .line } }
  have hlines := h.lines
  rw [textLines_eq] at hlines
  cases hn : nextLine? true w.outlet.unread with
  | none =>
    rw [hn] at hlines
    cases hlines
  | some next =>
    obtain ⟨bytes, rest⟩ := next
    rw [hn] at hlines
    obtain ⟨htext, hrest⟩ := List.cons.inj hlines
    have hover : began.isOver = true := h.isOver
    have hpoll : began.poll =
        some (.line line, { began with outlet := { began.outlet with unread := rest } }) := by
      have hn' : nextLine? true began.outlet.unread = some (bytes, rest) := hn
      simp only [poll, hover, hn', htext]
    obtain ⟨later, hr⟩ := readLine_of_poll h.idle hpoll
    exact ⟨_, hr, h.isOver, rfl, hrest⟩

/-! ## The host -/

/-- How the drain of a wire ended. -/
def drainEnd? (w : Wire) : Option DrainEnd := w.outlet.drain?.bind (·.ended)

/-- Cancel the drain: how it has ended then. -/
def stop (w : Wire) : DrainEnd × Wire := (w.cancel.drainEnd?.getD .endOfStream, w.cancel)

/-- Let a drain take over where lines were read before. -/
def startDrain (w : Wire) (label : String) : Wire :=
  { w with outlet := w.outlet.startDrain label }

variable {σ : Type}

/-- A host whose one child prints into a wire, and which does everything else like another host. -/
def host (rest : Host σ) : Host (Wire × σ) where
  spawn l label := Host.onSecond (rest.spawn l label)
  readLine _ _ s := (s.1.readLine.1, (s.1.readLine.2, s.2))
  linesLeft s := s.1.stream.length
  linesLeft_readLine := by
    intro _ _ s text s' hr
    obtain ⟨hread, rfl⟩ := Prod.mk.inj hr
    exact (gives_of_readLine (Prod.ext hread rfl)).1.shorter
  closeInput c s := (s.1, rest.closeInput c s.2)
  dropOutput _ s := ({ s.1 with outlet := {} }, s.2)
  drainOutput _ label s := (s.1.startDrain label, s.2)
  joinOutput _ _ s := ((s.1.run s.1.schedule).stop.1, ((s.1.run s.1.schedule).stop.2, s.2))
  stopOutput _ s := (s.1.stop.1, (s.1.stop.2, s.2))
  joinErrors c t s := (s.1, rest.joinErrors c t s.2)
  stopErrors c s := (s.1, rest.stopErrors c s.2)
  wait c := Host.onSecond (rest.wait c)
  waitUpTo c t := Host.onSecond (rest.waitUpTo c t)
  kill c := Host.onSecond (rest.kill c)
  capture l := Host.onSecond (rest.capture l)
  emit label text s := (s.1, rest.emit label text s.2)
  readText p s := rest.readText p s.2
  isFile p s := rest.isFile p s.2
  removeTree p := Host.onSecond (rest.removeTree p)
  createDirs p := Host.onSecond (rest.createDirs p)

end Wire
end ClusterHarness
