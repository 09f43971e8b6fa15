import ClusterHarness.Proofs.Drain.Wire

/-!
# What a drain forwards

At every moment a drain has shown the first of the lines that are printed from where it took over,
in order and each once, whatever turns the child and the harness have taken. What it can do early
is to be cancelled or to stop at a line that is no text.
-/

namespace ClusterHarness.Wire

open Machine

/-- What has become of the lines that are printed once some were shown. A drain at work is about
to show the next one. It comes to its end by itself only after the last line or at one that is no
text, and a drain that was cancelled has left lines out at the end only. -/
def Accounts (w : Wire) (printed : List (Option String)) (done : List String) :
    Option DrainEnd → Prop
  | none => w.outlet.pipe.isSome ∧ printed = done.map some ++ Text.textLines w.stream
  | some .endOfStream =>
    (printed = done.map some ∧ w.unprinted = none ∧ w.inPipe = []) ∨
      ∃ rest, printed = done.map some ++ none :: rest
  | some .cancelled => done.map some <+: printed

/-- However a drain ended, it has shown the first of the lines. -/
theorem Accounts.beginning {w : Wire} {printed : List (Option String)} {done : List String}
    {ended : Option DrainEnd} (h : w.Accounts printed done ended) :
    done.map some <+: printed := by
  cases ended with
  | none => exact ⟨_, h.2.symm⟩
  | some e =>
    cases e with
    | endOfStream =>
      obtain ⟨hall, -⟩ | ⟨rest, hrest⟩ := h
      · exact hall ▸ List.prefix_rfl
      · exact ⟨_, hrest.symm⟩
    | cancelled => exact h

/-- A drain shows the lines that are printed, under its label and in order. -/
def Forwards (label : String) (before : List Shown) (printed : List (Option String)) (w : Wire) :
    Prop :=
  ∃ (d : Drain) (done : List String), w.outlet.reading = .drain d ∧ d.label = label ∧
    w.shown = before ++ done.map (Shown.mk label) ∧ w.Accounts printed done d.ended

variable {label : String} {before : List Shown} {printed : List (Option String)} {w : Wire}

private theorem forwards_of_alike {v : Wire} (h : Forwards label before printed w) (ha : Alike v w)
    (hunprinted : w.unprinted = none → v.unprinted = none)
    (hinPipe : w.unprinted = none → w.inPipe = [] → v.inPipe = []) :
    Forwards label before printed v := by
  obtain ⟨d, done, hd, hlabel, hshown, hacc⟩ := h
  refine ⟨d, done, ha.reading.trans hd, hlabel, ha.shown.trans hshown, ?_⟩
  cases he : d.ended with
  | none =>
    rw [he] at hacc
    exact ⟨ha.pipe ▸ hacc.1, ha.stream ▸ hacc.2⟩
  | some e =>
    rw [he] at hacc
    cases e with
    | endOfStream =>
      exact hacc.imp_left fun h ↦ ⟨h.1, hunprinted h.2.1, hinPipe h.2.1 h.2.2⟩
    | cancelled => exact hacc

private theorem forwards_print (h : Forwards label before printed w) (count : Nat) :
    Forwards label before printed (w.print count) := by
  refine forwards_of_alike h (w.alike_print count) (fun hu ↦ ?_) (fun hu hp ↦ ?_) <;>
    unfold print <;> split <;> simp [*]

private theorem forwards_close (h : Forwards label before printed w) :
    Forwards label before printed w.close := by
  refine forwards_of_alike h w.alike_close (fun hu ↦ ?_) (fun hu hp ↦ ?_) <;>
    unfold close <;> split <;> simp_all

/-- Once a drain is over nothing is read. -/
theorem forwards_read (h : Forwards label before printed w) (count : Nat) :
    Forwards label before printed (w.read count) := by
  have hstream := w.stream_read count
  unfold read at hstream ⊢
  split
  · exact h
  · next hpipe =>
    rw [if_neg hpipe] at hstream
    obtain ⟨d, done, hd, hlabel, hshown, hacc⟩ := h
    refine ⟨{ d with unread := d.unread ++ w.inPipe.take (min count w.outlet.wanted) }, done,
      by simp [Outlet.hold, hd], hlabel, hshown, ?_⟩
    dsimp only
    cases he : d.ended with
    | none =>
      rw [he] at hacc
      exact ⟨by simpa using hacc.1, by rw [hstream]; exact hacc.2⟩
    | some e =>
      rw [he] at hacc
      cases e with
      | endOfStream => exact hacc.imp_left fun h ↦ ⟨h.1, h.2.1, by simp [h.2.2]⟩
      | cancelled => exact hacc

/-- The turn of a drain at work. -/
theorem forward_eq {d : Drain} (hd : w.outlet.reading = .drain d) (hwork : d.ended = none) :
    w.forward =
      { w with
        outlet := { w.outlet with
          reading := .drain (d.turn w.isOver).2
          pipe := if (d.turn w.isOver).2.ended.isSome then none else w.outlet.pipe }
        shown := w.shown ++ (d.turn w.isOver).1.toList.map (⟨d.label, ·⟩) } := by
  simp [forward, Outlet.forward, hd, hwork]

private theorem forwards_forward (h : Forwards label before printed w) :
    Forwards label before printed w.forward := by
  obtain ⟨d, done, hd, hlabel, hshown, hacc⟩ := h
  cases he : d.ended with
  | some e =>
    have hw : w.forward = w := by simp [forward, Outlet.forward, hd, he]
    rw [hw]
    exact ⟨d, done, hd, hlabel, hshown, hacc⟩
  | none =>
  rw [he] at hacc
  obtain ⟨hpipe, hprinted⟩ := hacc
  have hstream : w.stream = d.unread ++ (w.inPipe ++ w.unprinted.getD []) := by
    simp [stream, Outlet.held, hd]
  have hmore : w.isOver = true → w.inPipe ++ w.unprinted.getD [] = [] := by
    intro hover
    simp_all [isOver]
  rw [hstream] at hprinted
  rw [forward_eq hd he]
  refine ⟨(d.turn w.isOver).2, done ++ (d.turn w.isOver).1.toList, rfl,
    (d.turn_label _).trans hlabel, by simp [hshown, hlabel], ?_⟩
  cases hn : nextLine? w.isOver d.unread with
  | none =>
    have hturn : d.turn w.isOver =
        (none, { d with ended := if w.isOver then some .endOfStream else none }) := by
      simp [Drain.turn, hn]
    rw [hturn]
    cases hover : w.isOver with
    | false =>
      refine ⟨by simpa using hpipe, ?_⟩
      simpa [stream, Outlet.held] using hprinted
    | true =>
      rw [hover] at hn
      rw [hmore hover, List.append_nil, textLines_of_nextLine?_eq_none hn] at hprinted
      simp only [isOver, Bool.and_eq_true, Option.isNone_iff_eq_none, List.isEmpty_iff] at hover
      exact .inl ⟨by simpa using hprinted, hover⟩
  | some next =>
    obtain ⟨line, rest⟩ := next
    rw [textLines_of_nextLine?_eq_some hn hmore] at hprinted
    cases ht : Text.ofBytes? line with
    | none =>
      have hturn : d.turn w.isOver =
          (none, { d with unread := rest, ended := some .endOfStream }) := by
        simp [Drain.turn, hn, ht]
      rw [hturn]
      rw [ht] at hprinted
      exact .inr ⟨_, by simpa using hprinted⟩
    | some text =>
      have hturn : d.turn w.isOver = (some text, { d with unread := rest }) := by
        simp [Drain.turn, hn, ht]
      rw [hturn]
      dsimp only
      rw [he]
      rw [ht] at hprinted
      refine ⟨by simpa using hpipe, ?_⟩
      simpa [stream, Outlet.held] using hprinted

private theorem forwards_cancel (h : Forwards label before printed w) :
    Forwards label before printed w.cancel := by
  obtain ⟨d, done, hd, hlabel, hshown, hacc⟩ := h
  have hcancel : w.cancel.outlet.reading = .drain d.cancel := by
    simp [cancel, Outlet.cancelDrain, hd]
  cases he : d.ended with
  | none =>
    have hended : d.cancel = { d with ended := some .cancelled } := by simp [Drain.cancel, he]
    refine ⟨d.cancel, done, hcancel, by rw [hended, ← hlabel], hshown, ?_⟩
    rw [hended]
    rw [he] at hacc
    exact ⟨_, hacc.2.symm⟩
  | some e =>
    have hended : d.cancel = d := by simp [Drain.cancel, he]
    refine ⟨d.cancel, done, hcancel, by rw [hended, hlabel], hshown, ?_⟩
    rw [hended, he]
    rw [he] at hacc
    cases e <;> exact hacc

private theorem forwards_take (h : Forwards label before printed w) (t : Turn) :
    Forwards label before printed (w.take t) := by
  cases t with
  | print count => exact forwards_print h count
  | close => exact forwards_close h
  | read count => exact forwards_read h count
  | forward => exact forwards_forward h
  | cancel => exact forwards_cancel h

/-- Whatever happens next, a drain forwards the lines of what is printed, in their order. -/
theorem forwards_run (h : Forwards label before printed w) (turns : List Turn) :
    Forwards label before printed (w.run turns) := by
  induction turns generalizing w with
  | nil => exact h
  | cons t turns ih => exact ih (forwards_take h t)

/-- A drain that starts has all that was not read before it. -/
theorem forwards_startDrain (label : String) (hidle : w.outlet.reading = .nothing)
    (hpipe : w.outlet.pipe.isSome) :
    Forwards label w.shown (Text.textLines w.stream) (w.startDrain label) := by
  refine ⟨{ label, unread := w.outlet.unread }, [], rfl, rfl, by simp [startDrain], hpipe, ?_⟩
  simp [startDrain, stream, Outlet.startDrain, Outlet.held, hidle]

/-! ## Portions -/

/-- As many turns as a drain wants forward all lines that are complete. -/
theorem run_forward {d : Drain} (hd : w.outlet.reading = .drain d) (hwork : d.ended = none) :
    ∃ n, w.run (List.replicate n .forward) =
      { w with
        outlet := { w.outlet with
          reading := .drain (d.forward w.isOver).2
          pipe := if (d.forward w.isOver).2.ended.isSome then none else w.outlet.pipe }
        shown := w.shown ++ (d.forward w.isOver).1.map (⟨d.label, ·⟩) } := by
  induction hn : d.unread.length using Nat.strongRecOn generalizing w d with
  | ind n ih =>
  subst hn
  rw [Drain.forward_eq]
  cases ht : d.turn w.isOver with
  | mk text d' =>
  have hforward := forward_eq hd hwork
  rw [ht] at hforward
  cases text with
  | none =>
    refine ⟨1, ?_⟩
    show w.forward = _
    rw [hforward]
    rfl
  | some text =>
    obtain ⟨hless, hended, hlabel⟩ := Drain.of_turn_eq_some ht
    have hwork' : d'.ended = none := hended.trans hwork
    have hreading : w.forward.outlet.reading = .drain d' := by rw [hforward]
    obtain ⟨n, hrun⟩ := ih _ hless hreading hwork' rfl
    refine ⟨n + 1, ?_⟩
    show w.forward.run (List.replicate n .forward) = _
    have hover : w.forward.isOver = w.isOver := by
      rw [hforward]
      rfl
    rw [hrun, hover, hforward]
    simp [hwork', hlabel]

/-! ## Reading to the end -/

/-- Only a cancellation makes a drain end as cancelled. -/
theorem drainEnd?_take_ne_cancelled {t : Turn} (ht : t ≠ .cancel)
    (hw : w.drainEnd? ≠ some .cancelled) : (w.take t).drainEnd? ≠ some .cancelled := by
  cases t with
  | print count =>
    have houtlet : (w.print count).outlet = w.outlet := by unfold print; split <;> rfl
    rwa [take, drainEnd?, houtlet]
  | close =>
    have houtlet : w.close.outlet = w.outlet := by unfold close; split <;> rfl
    rwa [take, drainEnd?, houtlet]
  | read count =>
    rw [take, read]
    split
    · exact hw
    · unfold drainEnd? Outlet.drain? Outlet.hold at *
      cases hr : w.outlet.reading <;> simp_all
  | forward =>
    cases hr : w.outlet.reading with
    | drain d =>
      cases he : d.ended with
      | some e =>
        have hforward : w.forward = w := by simp [forward, Outlet.forward, hr, he]
        rwa [take, hforward]
      | none =>
        rw [take, forward_eq hr he]
        exact Drain.turn_ended_ne_cancelled (by simp [he]) _
    | _ => simp [take, forward, Outlet.forward, drainEnd?, Outlet.drain?, hr]
  | cancel => exact absurd rfl ht

private theorem drainEnd?_run_ne_cancelled {turns : List Turn} (h : Turn.cancel ∉ turns)
    (hw : w.drainEnd? ≠ some .cancelled) : (w.run turns).drainEnd? ≠ some .cancelled := by
  induction turns generalizing w with
  | nil => exact hw
  | cons t turns ih =>
    obtain ⟨ht, hturns⟩ := List.ne_and_not_mem_of_not_mem_cons h
    exact ih hturns (drainEnd?_take_ne_cancelled (Ne.symm ht) hw)

/-- A drain that is at work on an open pipe. -/
def Working (w : Wire) : Prop :=
  ∃ d, w.outlet.reading = .drain d ∧ d.ended = none ∧ w.outlet.pipe.isSome

/-- Once the child has closed its output, the drain reads what is left and comes to its end. -/
theorem exists_run_of_closed (hw : w.Working) (hclosed : w.unprinted = none) :
    ∃ turns, Turn.cancel ∉ turns ∧ (w.run turns).drainEnd? = some .endOfStream := by
  induction hp : w.inPipe generalizing w with
  | nil =>
    obtain ⟨d, hd, hwork, -⟩ := hw
    obtain ⟨n, hrun⟩ := run_forward hd hwork
    have hover : w.isOver = true := by simp [isOver, hclosed, hp]
    refine ⟨List.replicate n .forward, by simp, ?_⟩
    rw [hrun, hover]
    exact d.ended_forward_true
  | cons b bs ih =>
    obtain ⟨d, hd, hwork, hpipe⟩ := hw
    have hwanted : min 1 w.outlet.wanted = 1 := by
      simp [Outlet.wanted, hd, hwork, Pipe.capacity, Page.size]
    have hread : w.read 1 = { w with inPipe := bs, outlet := w.outlet.hold [b] } := by
      simp [read, Option.isNone_iff_eq_none, Option.isSome_iff_ne_none.mp hpipe, hwanted, hp]
    obtain ⟨turns, hcancel, hrun⟩ := ih (w := w.read 1)
      ⟨{ d with unread := d.unread ++ [b] }, by simp [hread, Outlet.hold, hd], hwork,
        by simpa [hread] using hpipe⟩ (by rw [hread]; exact hclosed) (by rw [hread])
    exact ⟨.read 1 :: turns, by simpa using hcancel, hrun⟩

/-- A drain at work can always be brought to its end by reading on. -/
theorem exists_run_of_working (hw : w.Working) :
    ∃ turns, Turn.cancel ∉ turns ∧ (w.run turns).drainEnd? = some .endOfStream := by
  cases hu : w.unprinted with
  | none => exact exists_run_of_closed hw hu
  | some rest =>
    obtain ⟨d, hd, hwork, hpipe⟩ := hw
    have hprint : (w.print rest.length).close =
        { w with unprinted := none, inPipe := w.inPipe ++ rest } := by
      simp [print, close, Option.isNone_iff_eq_none, Option.isSome_iff_ne_none.mp hpipe, hu]
    obtain ⟨turns, hcancel, hrun⟩ := exists_run_of_closed (w := (w.print rest.length).close)
      (by rw [hprint]; exact ⟨d, hd, hwork, hpipe⟩) (by rw [hprint])
    exact ⟨.print rest.length :: .close :: turns, by simpa using hcancel, hrun⟩

private theorem working_of_forwards (h : Forwards label before printed w)
    (hwork : w.drainEnd? = none) : w.Working := by
  obtain ⟨d, done, hd, -, -, hacc⟩ := h
  have he : d.ended = none := by simpa [drainEnd?, Outlet.drain?, hd] using hwork
  rw [he] at hacc
  exact ⟨d, hd, he, hacc.1⟩

/-- A drain that is never cancelled reads on until it is over, and it is over after the last line
or at the first that is no text. So every line is shown, as if malformed parts were replaced, and
everything is read exactly if each line is text. -/
theorem reads_to_end_iff_all_text {w : Wire} (hidle : w.outlet.reading = .nothing)
    (hpipe : w.outlet.pipe.isSome) (label : String) {turns : List Turn}
    (hcancel : Turn.cancel ∉ turns) :
    let v := (w.startDrain label).run turns
    (v.drainEnd? = none → v.outlet.pipe.isSome ∧
      ∃ more, Turn.cancel ∉ more ∧ (v.run more).drainEnd? = some .endOfStream) ∧
    v.drainEnd? ≠ some .cancelled ∧
    (v.drainEnd? = some .endOfStream →
      v.shown = w.shown ++ (Text.textBeginning w.stream).map (Shown.mk label) ∧
      (v.shown = w.shown ++ ((Text.byteLines w.stream).map Text.ofBytesLossy).map (Shown.mk label) ∧
          v.unprinted = none ∧ v.inPipe = [] ↔
        ∀ line ∈ Text.byteLines w.stream, (Text.ofBytes? line).isSome)) := by
  intro v
  have hforwards : Forwards label w.shown (Text.textLines w.stream) v :=
    forwards_run (forwards_startDrain label hidle hpipe) turns
  have hstart : (w.startDrain label).drainEnd? ≠ some .cancelled := by
    simp [startDrain, drainEnd?, Outlet.drain?, Outlet.startDrain]
  refine ⟨fun hwork ↦ ?_, drainEnd?_run_ne_cancelled hcancel hstart, fun hended ↦ ?_⟩
  · have hworking := working_of_forwards hforwards hwork
    refine ⟨?_, exists_run_of_working hworking⟩
    obtain ⟨_, _, _, hopen⟩ := hworking
    exact hopen
  obtain ⟨d, done, hd, -, hshown, hacc⟩ := hforwards
  have he : d.ended = some .endOfStream := by
    simpa [drainEnd?, Outlet.drain?, hd] using hended
  rw [he] at hacc
  rw [hshown]
  obtain ⟨hall, hunprinted, hinPipe⟩ | ⟨rest, hbad⟩ := hacc
  · have htext : ∀ line ∈ Text.byteLines w.stream, (Text.ofBytes? line).isSome := by
      intro line hline
      have hmem : Text.ofBytes? line ∈ done.map some := hall ▸ List.mem_map_of_mem hline
      obtain ⟨text, -, ht⟩ := List.mem_map.mp hmem
      rw [← ht]
      rfl
    rw [Text.textBeginning_eq (hall.trans (List.append_nil _).symm) rfl,
      Text.map_ofBytesLossy hall]
    exact ⟨rfl, fun _ ↦ htext, fun _ ↦ ⟨rfl, hunprinted, hinPipe⟩⟩
  · rw [Text.textBeginning_eq hbad rfl]
    have hlength : (Text.byteLines w.stream).length = done.length + (rest.length + 1) := by
      simpa [Text.textLines] using congrArg List.length hbad
    refine ⟨rfl, fun hread ↦ ?_, fun htext ↦ ?_⟩
    · obtain ⟨hsame, -⟩ := hread
      have hshort := congrArg List.length (List.append_cancel_left hsame)
      simp only [List.length_map] at hshort
      omega
    · have hmem : none ∈ Text.textLines w.stream := hbad ▸ by simp
      obtain ⟨line, hline, hnone⟩ := List.mem_map.mp hmem
      simpa [hnone] using htext line hline

/-- Two lines of text are shown to the end. -/
theorem texts_are_read_to_end :
    let v := ((printing [0x61, 0x0a, 0x62, 0x0a] []).startDrain "svc").run
      [.print 4, .close, .read 4, .forward, .forward, .forward]
    v.drainEnd? = some .endOfStream ∧ v.shown = [⟨"svc", "a"⟩, ⟨"svc", "b"⟩] ∧
      v.unprinted = none ∧ v.inPipe = [] := by
  intro v
  have hend : v.drainEnd? = some .endOfStream := by decide +kernel
  have hcancel : Turn.cancel ∉
      [Turn.print 4, .close, .read 4, .forward, .forward, .forward] := by decide
  obtain ⟨-, -, hover⟩ := reads_to_end_iff_all_text
    (w := printing [0x61, 0x0a, 0x62, 0x0a] []) rfl rfl "svc" hcancel
  obtain ⟨hshown, hread⟩ := (hover hend).2.mpr (by decide +kernel)
  exact ⟨hend, hshown.trans (by decide +kernel), hread⟩

/-- After a line that is no text nothing is shown, and the child can print no more. -/
theorem malformed_line_closes_pipe :
    let w := printing [0x61, 0x0a, 0xff, 0x0a, 0x62, 0x0a] []
    let v := (w.startDrain "svc").run
      [.print 4, .read 4, .forward, .forward, .print 2, .close, .read 2, .forward]
    (Text.byteLines w.stream).map Text.ofBytesLossy = ["a", "\ufffd", "b"] ∧
      v.drainEnd? = some .endOfStream ∧ v.shown = [⟨"svc", "a"⟩] ∧
      v.outlet.pipe = none ∧ v.unprinted = some [0x62, 0x0a] := by
  decide +kernel

end ClusterHarness.Wire
