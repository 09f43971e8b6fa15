import ClusterHarness.Proofs.Drain.Forwarding
import ClusterHarness.Proofs.Fixture.Steps

/-!
# From the handshake to the drain

The handshake of a service reads the lines of its contract, and the drain forwards what comes after
them: nothing that the service prints is read twice or lost between the two, however its prints,
the reads of the harness and a cancellation follow each other.
-/

namespace ClusterHarness

variable {σ : Type}

namespace Wire

/-- Lines that are read are the first ones of the stream, and what is left is read later. -/
theorem textLines_of_reads {rest : Host σ} {timeout : Option Duration} {process : Subprocess}
    {x y : Wire × σ} {lines : List String} (hidle : x.1.outlet.reading = .nothing)
    (h : process.Reads (host rest) timeout x lines y) :
    Text.textLines x.1.stream = lines.map some ++ Text.textLines y.1.stream ∧
      y.1.shown = x.1.shown ∧ y.1.outlet.pipe = x.1.outlet.pipe ∧
      y.1.outlet.reading = .nothing := by
  induction h with
  | nil => exact ⟨rfl, rfl, rfl, hidle⟩
  | @cons x z y text lines hread _ ih =>
    obtain ⟨child, hsource⟩ := Subprocess.source?_of_readLine hread
    rw [Subprocess.readLine_of_source?_eq_some hsource] at hread
    obtain ⟨hline, hz⟩ := Prod.mk.inj hread
    have hz' : x.1.readLine.2 = z.1 := congrArg Prod.fst hz
    obtain ⟨hgives, hnothing⟩ := gives_of_readLine (Prod.ext hline hz')
    obtain ⟨hlines, hshown, hpipe, hreading⟩ := ih hnothing
    refine ⟨?_, hshown.trans hgives.shown, hpipe.trans hgives.pipe, hreading⟩
    rw [hgives.lines, hlines]
    rfl

/-- A launch prints nothing and reads nothing. -/
theorem launch_fst (rest : Host σ) (site : Site) (label : String) (command : CommandLine)
    (x : Wire × σ) : (Subprocess.launch (host rest) site label command x).2.1 = x.1 := by
  unfold Subprocess.launch
  cases command.validate with
  | error e => rfl
  | ok =>
    dsimp only [host, Host.onSecond]
    generalize rest.spawn _ _ x.2 = spawned
    obtain ⟨r, t⟩ := spawned
    cases r <;> rfl

end Wire

namespace Fixture.Setup

/-- What a service prints after the lines of its contract is forwarded under its label, in order
and from the first line on, whatever turns the service and the harness take and whenever the drain
is cancelled. A drain that comes to its end has forwarded all of it. -/
theorem hand_over_loses_nothing {rest : Host σ} {admin : Admin.Runner (Wire × σ)} {plan : Plan}
    {kind : ServiceRole} {label : String} {command : CommandLine} {contract : Readiness}
    {p q : Progress (Wire × σ)} {output : Bytes} {schedule : List Turn}
    (hwire : p.world.1 = Wire.printing output schedule) {lines : List String}
    (hlines : Text.textLines output = lines.map some)
    (hup : (Setup.bringUp ⟨Wire.host rest, admin, plan⟩ kind label command contract).run p =
      (.ok (), q)) :
    ∃ pid read later, lines = read ++ later ∧ contract.Accepts pid read ∧
      ∀ turns, ∃ forwarded,
        (q.world.1.run turns).shown = forwarded.map (Machine.Shown.mk label) ∧
        forwarded <+: later ∧
        ((q.world.1.run turns).drainEnd? = some .endOfStream → forwarded = later) := by
  obtain ⟨child, pid, read, t, hreads, haccepts, hworld, -⟩ := drained_of_bringUp_eq_ok hup
  have hlaunch := (Wire.launch_fst rest (siteOf plan) label command p.world).trans hwire
  dsimp only [site] at hreads hworld
  cases hl : Subprocess.launch (Wire.host rest) (siteOf plan) label command p.world with
  | mk process x =>
  rw [hl] at hreads hlaunch
  dsimp only at hreads hlaunch
  -- The handshake starts at a wire on which nothing was read.
  obtain ⟨hsplit, hshown, hpipe, hidle⟩ :=
    Wire.textLines_of_reads (x := x) (by rw [hlaunch]; rfl) hreads
  rw [hlaunch] at hsplit hshown hpipe
  have hstream : (Wire.printing output schedule).stream = output := rfl
  rw [hstream, hlines] at hsplit
  obtain ⟨first, later, rfl, hfirst, hlater⟩ := List.map_eq_append_iff.mp hsplit
  cases (List.map_inj_right fun _ _ ↦ Option.some.inj).mp hfirst
  refine ⟨pid, read, later, rfl, haccepts, fun turns ↦ ?_⟩
  -- The drain starts where the handshake ended.
  have hq : q.world.1 = t.1.startDrain label := by
    rw [hworld]
    rfl
  have hforwards := Wire.forwards_run
    (Wire.forwards_startDrain label hidle (by rw [hpipe]; rfl)) turns
  rw [← hlater, hshown, ← hq] at hforwards
  obtain ⟨d, done, hd, -, hdone, hacc⟩ := hforwards
  have hended : (q.world.1.run turns).drainEnd? = d.ended := by
    simp [Wire.drainEnd?, Machine.Outlet.drain?, hd]
  obtain ⟨shown, unshown, hsame, hshownFirst, -⟩ :=
    List.map_eq_append_iff.mp hacc.beginning.choose_spec.symm
  refine ⟨done, hdone, ?_, fun hend ↦ ?_⟩
  · rw [hsame, (List.map_inj_right fun _ _ ↦ Option.some.inj).mp hshownFirst]
    exact List.prefix_append _ _
  · rw [hended] at hend
    rw [hend] at hacc
    obtain ⟨hall, -⟩ | ⟨rest, hrest⟩ := hacc
    · exact ((List.map_inj_right fun _ _ ↦ Option.some.inj).mp hall).symm
    · have hnone : none ∈ later.map some := hrest ▸ by simp
      simp at hnone

/-! ## A server that greets -/

/-- A server that prints more than its contract asks for. -/
def greeting : Bytes := Text.toBytes "7\nready\nhello\nworld\n"

def greetingPlan : Plan where
  name := "x"
  testDir := ⟨"/"⟩
  port := 1
  admin := { binary := "admin" }
  registry := { binary := "true" }

/-- Lines on a wire, beside a machine on which everything else happens. -/
def greetingSetup : Setup (Wire × Machine) where
  host := Wire.host Machine.host
  admin := fun _ _ s ↦ (.ok ⟨0, ""⟩, s)
  plan := greetingPlan

/-- The harness reads into the greeting before the handshake is over. -/
def greetingStart : Progress (Wire × Machine) where
  world := (Wire.printing greeting [.print 20, .read 18], Machine.initial ["work"])

def greetingUp : Except Failure Unit × Progress (Wire × Machine) :=
  (greetingSetup.bringUp .server "greeter" ⟨"true", []⟩ { adapters := 1 }).run greetingStart

/-- What the harness has read too early is forwarded. -/
theorem greeting_is_handed_over :
    greetingUp.1.toOption = some () ∧
      ∃ pid read later, ["7", "ready", "hello", "world"] = read ++ later ∧
        Readiness.Accepts { adapters := 1 } pid read ∧
        ∀ turns, ∃ forwarded,
          (greetingUp.2.world.1.run turns).shown =
            forwarded.map (Machine.Shown.mk "greeter") ∧
          forwarded <+: later ∧
          ((greetingUp.2.world.1.run turns).drainEnd? = some .endOfStream →
            forwarded = later) := by
  have hup : greetingUp.1.toOption = some () := by decide +kernel
  have hok : greetingUp = (.ok (), greetingUp.2) := by
    cases hr : greetingUp with
    | mk r q =>
    rw [hr] at hup
    cases r with
    | error e => cases hup
    | ok => rfl
  exact ⟨hup, hand_over_loses_nothing (p := greetingStart) rfl (by decide +kernel) hok⟩

end Fixture.Setup
end ClusterHarness
