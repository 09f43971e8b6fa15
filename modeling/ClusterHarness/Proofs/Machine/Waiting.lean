import ClusterHarness.Machine.Hosting

/-!
# What waiting leaves as it is

While the harness waits, processes take steps and what they write is read. None of this opens or
closes an input that the harness holds: what a process asks for has no part in what the harness
holds, and the harness only reads.
-/

namespace ClusterHarness.Machine

/-- What no step of a fold changes, the fold does not change. -/
theorem foldl_keeps {α β γ : Type} {f : β → α → β} {p : β → γ}
    (hf : ∀ b a, p (f b a) = p b) (xs : List α) (b : β) : p (xs.foldl f b) = p b := by
  induction xs generalizing b with
  | nil => rfl
  | cons a xs ih => exact (ih (f b a)).trans (hf b a)

/-! ## What the harness holds -/

@[simp]
private theorem attachments_updateJob (m : Machine) (id : Nat) (f : Job → Job) :
    (m.updateJob id f).attachments = m.attachments := rfl

@[simp]
private theorem attachments_addOpenFile (m : Machine) (f : OpenFile) :
    (m.addOpenFile f).2.attachments = m.attachments := rfl

@[simp]
private theorem attachments_newPipe (m : Machine) : m.newPipe.2.attachments = m.attachments := rfl

/-- All that is ever forgotten are open files and pipes. -/
theorem forget_eq (m : Machine) (id : Nat) :
    ∃ openFiles pipes, m.forget id = { m with openFiles, pipes } := by
  unfold forget
  split
  · exact ⟨_, _, rfl⟩
  · dsimp only
    split
    · split <;> exact ⟨_, _, rfl⟩
    · split <;> exact ⟨_, _, rfl⟩
    · exact ⟨_, _, rfl⟩

@[simp]
private theorem attachments_forget (m : Machine) (id : Nat) :
    (m.forget id).attachments = m.attachments := by
  obtain ⟨_, _, h⟩ := m.forget_eq id
  rw [h]

@[simp]
private theorem attachments_bindDescriptor (m : Machine) (j : Job) (descriptor : Nat)
    (file : Option Nat) : (m.bindDescriptor j descriptor file).attachments = m.attachments := by
  unfold bindDescriptor
  dsimp only
  split
  · rw [attachments_forget, attachments_updateJob]
  · rfl

@[simp]
private theorem attachments_endJob (m : Machine) (id : Nat) (status : WaitStatus) :
    (m.endJob id status).attachments = m.attachments := by
  unfold endJob
  dsimp only
  have hheld := foldl_keeps (p := attachments)
    fun (m : Machine) (d : Nat × Nat) ↦ m.attachments_forget d.2
  split
  · rw [attachments_updateJob, hheld, attachments_updateJob]
  · rw [hheld, attachments_updateJob]

@[simp]
private theorem attachments_closeSaved (m : Machine) (j : Job) :
    (m.closeSaved j).attachments = m.attachments := by
  unfold closeSaved
  exact foldl_keeps (p := attachments)
    (fun m (d : Nat × Nat) ↦ m.attachments_bindDescriptor j d.1 none) _ m

@[simp]
private theorem attachments_signal (m : Machine) (target signal : Nat) :
    (m.signal target signal).attachments = m.attachments := by
  unfold Machine.signal
  dsimp only
  split
  · rfl
  · rfl
  · split
    · exact m.attachments_endJob target _
    · rfl
    · rfl
    · rfl

private theorem attachments_openAt {m n : Machine} {j : Job} {path : Path} {access : Access}
    {f : OpenFile} (h : m.openAt j path access = .ok (f, n)) : n.attachments = m.attachments := by
  unfold openAt at h
  split at h
  · unfold reopen at h
    split at h
    · cases h
    · cases h
      rfl
    · cases h
      rfl
    · cases h
      split <;> rfl
    · cases h
      rfl
  · split at h
    · split at h
      · cases h
      · cases h
        rfl
      · cases h
        rfl
      · cases h
        rfl
    · split at h
      · cases h
      · dsimp only at h
        split at h
        · cases h
          rfl
        · cases h
          split <;> rfl

/-! ## Serving -/

/-- The machine that is left when a request was looked at. -/
def Served.machine {α : Type} : Served α → Machine
  | .answer _ m | .waits m | .moved m => m

private theorem attachments_serveRead (m : Machine) (j : Job) (descriptor most : Nat) :
    (m.serveRead j descriptor most).machine.attachments = m.attachments := by
  unfold serveRead
  repeat' split
  all_goals rfl

private theorem attachments_serveWriteTo (m : Machine) (j : Job) (pipe : Nat) (bytes : Bytes) :
    (m.serveWriteTo j pipe bytes).machine.attachments = m.attachments := by
  unfold serveWriteTo
  dsimp only
  split <;> rfl

private theorem attachments_serveWrite (m : Machine) (j : Job) (descriptor : Nat) (bytes : Bytes) :
    (m.serveWrite j descriptor bytes).machine.attachments = m.attachments := by
  unfold serveWrite
  split
  · rfl
  · rfl
  · rfl
  · rfl
  · split
    · exact m.attachments_serveWriteTo j _ bytes
    · dsimp only
      split <;> exact m.attachments_signal j.id _
  · rfl
  · rfl

private theorem attachments_changed (m : Machine) (r : Except IoError FileTree) :
    (m.changed r).machine.attachments = m.attachments := by
  cases r <;> rfl

/-- What a process asks for has no part in what the harness holds. -/
theorem attachments_serve (m : Machine) (j : Job) (r : Request) :
    (m.serve j r).machine.attachments = m.attachments := by
  cases r with
  | read descriptor most => exact m.attachments_serveRead j descriptor most
  | write descriptor bytes => exact m.attachments_serveWrite j descriptor bytes
  | createDir path => exact m.attachments_changed _
  | remove path whole => exact m.attachments_changed _
  | rename source target => exact m.attachments_changed _
  | openFile path access =>
    dsimp only [serve]
    cases ho : m.openAt j path access with
    | error e => rfl
    | ok opened =>
      have hopened := attachments_openAt ho
      simpa [Served.machine] using hopened
  | execute path args env =>
    dsimp only [serve]
    split
    · rfl
    · simp [Served.machine]
  | kill target signal =>
    dsimp only [serve]
    split
    · rfl
    · split
      · rfl
      · split <;> exact m.attachments_signal target signal
  | pipe => simp [serve, Served.machine]
  | close descriptor => exact m.attachments_bindDescriptor j descriptor none
  | copy descriptor target | save descriptor =>
    dsimp only [serve]
    split
    · rfl
    · exact m.attachments_bindDescriptor j _ _
  | goBack descriptor count | wait target | sleep time | changeDirectory path
  | setExecutable path executable | touch path =>
    dsimp only [serve]
    repeat' split
    all_goals rfl
  | poll | handle | disposition | signals | inspect | list | currentDirectory | identity | parent
  | time | createDirs => rfl

/-! ## Inputs -/

/-- Which children the harness has started, and the inputs of these that it holds open. -/
def inputs (m : Machine) : List (Nat × Option Nat) :=
  m.attachments.map fun a ↦ (a.child, a.input)

private theorem inputs_congr {m n : Machine} (h : n.attachments = m.attachments) :
    n.inputs = m.inputs := by rw [inputs, h, inputs]

private theorem inputs_updateAttachment (m : Machine) (child : Nat) {f : Attachment → Attachment}
    (hf : ∀ a, ((f a).child, (f a).input) = (a.child, a.input)) :
    (m.updateAttachment child f).inputs = m.inputs := by
  unfold inputs updateAttachment
  rw [List.map_map]
  refine List.map_congr_left fun a _ ↦ ?_
  dsimp only [Function.comp_apply]
  split
  · exact hf a
  · rfl

private theorem attachments_readOutlet (m : Machine) (o : Outlet) :
    (m.readOutlet o).2.2.attachments = m.attachments := by
  unfold readOutlet
  split <;> rfl

private theorem inputs_readAttachment (a : Attachment) (m : Machine) :
    (readAttachment a m).2.inputs = m.inputs := by
  unfold readAttachment
  let outlets (b : Attachment) : Attachment :=
    { b with
      output := (m.readOutlet a.output).2.1
      errors := ((m.readOutlet a.output).2.2.readOutlet a.errors).2.1 }
  refine (inputs_updateAttachment _ a.child (f := outlets) fun _ ↦ rfl).trans ?_
  apply inputs_congr
  rw [attachments_readOutlet, attachments_readOutlet]

private theorem inputs_readLines (m : Machine) : m.readLines.inputs = m.inputs := by
  unfold readLines
  refine foldl_keeps (fun m a ↦ ?_) m.attachments m
  split
  · exact inputs_readAttachment a m
  · rfl

private theorem inputs_readAttachments (m : Machine) : m.readAttachments.2.inputs = m.inputs := by
  unfold readAttachments
  let part (b : Bool × Machine) : List (Nat × Option Nat) := b.2.inputs
  exact foldl_keeps (f := fun b a ↦ (b.1 || (readAttachment a b.2).1, (readAttachment a b.2).2))
    (p := part) (fun b a ↦ inputs_readAttachment a b.2) m.attachments (false, m)

/-- A step of a job leaves the inputs that the harness holds as they are. -/
theorem inputs_step (m : Machine) (j : Job) : (m.step j).2.inputs = m.inputs := by
  unfold step
  split
  · split
    · rfl
    · split
      · exact inputs_congr (m.attachments_endJob j.id _)
      · rfl
  · rfl
  · next r next _ =>
    have hserved := m.attachments_serve j r
    split
    · next a n hs =>
      rw [hs] at hserved
      let asked (j : Job) : Job := { j with task := next a, unwritten := none }
      have hanswered : (n.updateJob j.id asked).inputs = m.inputs := inputs_congr hserved
      have hread := (inputs_readLines _).trans hanswered
      dsimp only
      repeat' split
      all_goals first | exact hread | exact hanswered
    all_goals
      next n hs =>
      rw [hs] at hserved
      exact inputs_congr hserved

private theorem inputs_turn (id steps : Nat) (m : Machine) :
    (turn id steps m).2.inputs = m.inputs := by
  induction steps generalizing m with
  | zero => rfl
  | succ steps ih =>
    unfold turn
    split
    · rfl
    · next j _ =>
      split
      · rfl
      · have hstep := m.inputs_step j
        split
        · next n hs =>
          rw [hs] at hstep
          exact hstep
        · next n hs =>
          rw [hs] at hstep
          exact (ih n).trans hstep

private theorem inputs_round (ids : List Nat) (m : Machine) :
    (round ids m).2.inputs = m.inputs := by
  unfold round
  let part (b : Bool × Machine) : List (Nat × Option Nat) := b.2.inputs
  exact foldl_keeps (f := fun b id ↦ (b.1 || (turn id turnLimit b.2).1, (turn id turnLimit b.2).2))
    (p := part) (fun b id ↦ inputs_turn id turnLimit b.2) ids (false, m)

/-- So do jobs that run until they all wait. -/
theorem inputs_settleWithin (rounds : Nat) (m : Machine) :
    (settleWithin rounds m).inputs = m.inputs := by
  induction rounds generalizing m with
  | zero => rfl
  | succ rounds ih =>
    have hround : (m.round (m.jobs.map (·.id))).2.readAttachments.2.inputs = m.inputs :=
      (inputs_readAttachments _).trans (inputs_round _ m)
    unfold settleWithin
    dsimp only
    split
    · exact (ih _).trans hround
    · exact hround

/-- So does waiting. -/
theorem inputs_waitWithin (holds : Machine → Bool) (deadline : Option Nat) (moves : Nat)
    (m : Machine) : (waitWithin holds deadline moves m).2.inputs = m.inputs := by
  induction moves generalizing m with
  | zero => rfl
  | succ moves ih =>
    have hsettle : m.settle.inputs = m.inputs := inputs_settleWithin roundLimit m
    unfold waitWithin
    dsimp only
    split
    · exact hsettle
    · split
      · split
        · exact hsettle
        · exact (ih _).trans hsettle
      · exact hsettle

/-- However long the harness waits, and for whatever: the inputs that it holds stay open. -/
theorem inputs_waitFor (holds : Machine → Bool) (limit : Option Duration) (m : Machine) :
    (m.waitFor holds limit).2.inputs = m.inputs :=
  inputs_waitWithin holds _ waitLimit m

/-! ## Machines in which everybody waits -/

/-- Once nobody is going to wake up, time passes and nothing else happens. -/
theorem waitFor_of_nextWake_eq_none {m : Machine} (h : m.settle.nextWake = none)
    (holds : Machine → Bool) (limit : Option Duration) :
    ∃ time, (m.waitFor holds limit).2 = { m.settle with now := time } := by
  unfold waitFor waitLimit
  rw [waitWithin, h]
  dsimp only
  split
  · exact ⟨m.settle.now, rfl⟩
  · exact ⟨_, rfl⟩

end ClusterHarness.Machine
