import ClusterHarness.Fixture.Run
import ClusterHarness.Proofs.Fixture.Steps

/-!
# The trail of a run

The steps that a run takes, each with the state that it finds and the state that it leaves. A trail
follows the course of the plan and breaks off at the first step that fails, so what holds at the
start and is kept by every step holds at every point of the run.
-/

namespace ClusterHarness.Fixture

variable {σ : Type}

/-- One step that a run took. -/
structure Moment (σ : Type) where
  step : Step
  found : Progress σ
  outcome : Except Failure Unit
  left : Progress σ

/-- The state at the end of some moments that began in a state. -/
def Progress.after (p : Progress σ) (past : List (Moment σ)) : Progress σ :=
  (past.getLast?.map (·.left)).getD p

/-- After the first moment the progress is what that has left. -/
theorem Progress.after_cons (p : Progress σ) (m : Moment σ) (past : List (Moment σ)) :
    p.after (m :: past) = m.left.after past := by
  cases past with
  | nil => rfl
  | cons m' past => simp [after, List.getLast?_cons]

namespace Setup

variable (c : Setup σ)

/-- The steps that a run takes, up to the first that fails. -/
def trail : List Step → Progress σ → List (Moment σ)
  | [], _ => []
  | step :: steps, p =>
    match (c.take step).run p with
    | (.ok (), q) => ⟨step, p, .ok (), q⟩ :: trail steps q
    | (.error e, q) => [⟨step, p, .error e, q⟩]

/-- The moments of a run of the plan. -/
def moments (s : σ) : List (Moment σ) := c.trail c.plan.course { world := s }

/-- The moments by which a run gets from one state to another. Only a step that did not fail is
followed by another. -/
inductive Leads (p : Progress σ) : List (Moment σ) → Progress σ → Prop
  | start : Leads p [] p
  | next {past : List (Moment σ)} {q q' : Progress σ} {step : Step} {r : Except Failure Unit} :
    Leads p past q → (∀ m ∈ past, m.outcome = .ok ()) → (c.take step).run q = (r, q') →
      Leads p (past ++ [⟨step, q, r, q'⟩]) q'

variable {c}

private theorem Leads.eq_after {p q : Progress σ} {past : List (Moment σ)} (h : c.Leads p past q) :
    q = p.after past := by
  cases h with
  | start => rfl
  | next => simp [Progress.after]

/-- What holds at the start and is kept by every step that succeeds holds after steps that all
succeed. -/
theorem Leads.induction_ok {motive : List (Moment σ) → Progress σ → Prop} {p q : Progress σ}
    {past : List (Moment σ)} (h : c.Leads p past q) (hok : ∀ m ∈ past, m.outcome = .ok ())
    (start : motive [] p)
    (next : ∀ {past q step q'}, c.Leads p past q → (∀ m ∈ past, m.outcome = .ok ()) →
      (c.take step).run q = (.ok (), q') → motive past q →
        motive (past ++ [⟨step, q, .ok (), q'⟩]) q') :
    motive past q := by
  induction h with
  | start => exact start
  | next hpast hbefore hs ih =>
    have hr := hok _ (List.mem_append_right _ List.mem_cons_self)
    dsimp only at hr
    subst hr
    exact next hpast hbefore hs (ih hbefore)

/-- The moments before a moment have all succeeded, and lead to the state that it finds. -/
theorem Leads.exists_of_mem {p q : Progress σ} {past : List (Moment σ)} (h : c.Leads p past q)
    {m : Moment σ} (hm : m ∈ past) :
    ∃ earlier, c.Leads p earlier m.found ∧ ∀ m' ∈ earlier, m'.outcome = .ok () := by
  induction h with
  | start => cases hm
  | @next past _ _ _ _ hpast hok _ ih =>
    cases List.mem_append.mp hm with
    | inl hm => exact ih hm
    | inr hm =>
      cases List.mem_singleton.mp hm
      exact ⟨past, hpast, hok⟩

/-- A step taken first is followed by the moments after it. -/
theorem Leads.cons {p q t : Progress σ} {step : Step} {past : List (Moment σ)}
    (hs : (c.take step).run p = (.ok (), q)) (h : c.Leads q past t) :
    c.Leads p (⟨step, p, .ok (), q⟩ :: past) t := by
  induction h with
  | start => exact .next .start (by simp) hs
  | next _ hok hr ih => exact .next ih (List.forall_mem_cons.mpr ⟨rfl, hok⟩) hr

/-- Every beginning of a trail leads somewhere, by steps of the course in their order. -/
theorem leads_of_prefix_trail {steps : List Step} {p : Progress σ} {past : List (Moment σ)}
    (h : past <+: c.trail steps p) :
    c.Leads p past (p.after past) ∧ past.map (·.step) <+: steps := by
  suffices hl : (∃ q, c.Leads p past q) ∧ past.map (·.step) <+: steps by
    obtain ⟨⟨q, hq⟩, hsteps⟩ := hl
    exact ⟨hq.eq_after ▸ hq, hsteps⟩
  induction steps generalizing p past with
  | nil =>
    rw [List.prefix_nil.mp h]
    exact ⟨⟨p, .start⟩, List.nil_prefix⟩
  | cons step steps ih =>
    cases past with
    | nil => exact ⟨⟨p, .start⟩, List.nil_prefix⟩
    | cons m past =>
      unfold trail at h
      cases hs : (c.take step).run p with
      | mk r q =>
      rw [hs] at h
      cases r with
      | error e =>
        obtain ⟨rfl, hnil⟩ := List.cons_prefix_cons.mp h
        rw [List.prefix_nil.mp hnil]
        exact ⟨⟨q, .next .start (by simp) hs⟩, by simp⟩
      | ok =>
        obtain ⟨rfl, hrest⟩ := List.cons_prefix_cons.mp h
        obtain ⟨⟨t, ht⟩, hsteps⟩ := ih hrest
        exact ⟨⟨t, ht.cons hs⟩, by simpa using hsteps⟩

/-- A moment is a step taken in the state that it finds. -/
theorem run_of_mem_trail {steps : List Step} {p : Progress σ} {m : Moment σ}
    (h : m ∈ c.trail steps p) : (c.take m.step).run m.found = (m.outcome, m.left) := by
  induction steps generalizing p with
  | nil => cases h
  | cons step steps ih =>
    unfold trail at h
    cases hs : (c.take step).run p with
    | mk r q =>
    rw [hs] at h
    cases r with
    | error e =>
      rw [List.mem_singleton.mp h]
      exact hs
    | ok =>
      cases List.mem_cons.mp h with
      | inl hm =>
        rw [hm]
        exact hs
      | inr hm => exact ih hm

/-- The moments before a moment have all succeeded and lead to the state that it finds. -/
theorem leads_of_trail_eq {steps : List Step} {p : Progress σ} {past future} {m : Moment σ}
    (h : c.trail steps p = past ++ m :: future) :
    c.Leads p past m.found ∧ ∀ m' ∈ past, m'.outcome = .ok () := by
  have hp : past ++ [m] <+: c.trail steps p := ⟨future, by simp [h]⟩
  obtain ⟨q, hq⟩ : ∃ q, c.Leads p (past ++ [m]) q := ⟨_, (leads_of_prefix_trail hp).1⟩
  generalize hl : past ++ [m] = moments at hq
  cases hq with
  | start => simp at hl
  | next hpast hok _ =>
    obtain ⟨rfl, hm⟩ := List.append_inj' hl rfl
    obtain rfl := List.singleton_inj.mp hm
    exact ⟨hpast, hok⟩

/-- Every moment but the last succeeded. -/
theorem outcome_eq_ok_of_trail_eq {steps : List Step} {p : Progress σ} {past future}
    {m : Moment σ} (h : c.trail steps p = past ++ m :: future) :
    ∀ m' ∈ past, m'.outcome = .ok () :=
  (leads_of_trail_eq h).2

/-- All steps of a trail before one of them have succeeded. -/
theorem run_of_trail_eq {steps : List Step} {p : Progress σ} {past future} {m : Moment σ}
    (h : c.trail steps p = past ++ m :: future) :
    ∀ m' ∈ past, (c.take m'.step).run m'.found = (.ok (), m'.left) := by
  intro m' hm'
  rw [← outcome_eq_ok_of_trail_eq h m' hm']
  exact run_of_mem_trail (h ▸ List.mem_append_left _ hm')

/-! ## Trails and runs -/

/-- Steps are followed as long as they succeed. -/
theorem run_follow_cons (step : Step) (steps : List Step) (p : Progress σ) :
    (c.follow (step :: steps)).run p =
      match (c.take step).run p with
      | (.ok (), q) => (c.follow steps).run q
      | (.error e, q) => (.error e, q) := by
  show (c.take step >>= fun _ ↦ c.follow steps).run p = _
  rw [Run.run_bind]
  cases (c.take step).run p with
  | mk r q => cases r <;> rfl

/-- Steps are followed by others if none of them fails. -/
theorem run_follow_append (xs ys : List Step) (p : Progress σ) :
    (c.follow (xs ++ ys)).run p =
      match (c.follow xs).run p with
      | (.ok (), q) => (c.follow ys).run q
      | (.error e, q) => (.error e, q) := by
  induction xs generalizing p with
  | nil => rfl
  | cons step xs ih =>
    rw [List.cons_append, run_follow_cons, run_follow_cons]
    cases (c.take step).run p with
    | mk r q =>
    cases r with
    | error e => rfl
    | ok => exact ih q

/-- A run ends where its trail ends, and succeeds unless one of its steps fails. -/
theorem run_follow (steps : List Step) (p : Progress σ) :
    (c.follow steps).run p =
      (((c.trail steps p).getLast?.map (·.outcome)).getD (.ok ()), p.after (c.trail steps p)) := by
  induction steps generalizing p with
  | nil => rfl
  | cons step steps ih =>
    rw [run_follow_cons]
    unfold trail
    cases (c.take step).run p with
    | mk r q =>
    cases r with
    | error e => rfl
    | ok =>
      dsimp only
      rw [ih q, Progress.after_cons]
      congr 1
      cases c.trail steps q with
      | nil => rfl
      | cons m past => simp [List.getLast?_cons]

/-- Steps that have all succeeded are followed to the same state once more. -/
theorem Leads.run_follow_ok {p q : Progress σ} {past : List (Moment σ)} (h : c.Leads p past q)
    (hok : ∀ m ∈ past, m.outcome = .ok ()) :
    (c.follow (past.map (·.step))).run p = (.ok (), q) := by
  refine h.induction_ok (motive := fun past q ↦
    (c.follow (past.map (·.step))).run p = (.ok (), q)) hok rfl fun _ _ hs ih ↦ ?_
  rw [List.map_append, run_follow_append, ih]
  dsimp only
  rw [List.map_singleton, run_follow_cons, hs]
  rfl

/-- The moments of a run lead to where following their steps leads. -/
theorem Leads.run_follow {p q : Progress σ} {past : List (Moment σ)} (h : c.Leads p past q) :
    ((c.follow (past.map (·.step))).run p).2 = q := by
  cases h with
  | start => rfl
  | @next _ _ _ _ r hpast hok hs =>
    rw [List.map_append, run_follow_append, hpast.run_follow_ok hok]
    dsimp only
    rw [List.map_singleton, run_follow_cons, hs]
    cases r <;> rfl

/-- A trail goes on after some steps if none of them fails. -/
theorem trail_append (xs ys : List Step) (p : Progress σ) :
    c.trail (xs ++ ys) p =
      c.trail xs p ++
        match (c.follow xs).run p with
        | (.ok (), q) => c.trail ys q
        | (.error _, _) => [] := by
  induction xs generalizing p with
  | nil => rfl
  | cons step xs ih =>
    have hcons (steps : List Step) : c.trail (step :: steps) p =
        match (c.take step).run p with
        | (.ok (), q) => ⟨step, p, .ok (), q⟩ :: c.trail steps q
        | (.error e, q) => [⟨step, p, .error e, q⟩] := rfl
    rw [run_follow_cons, List.cons_append, hcons, hcons]
    cases (c.take step).run p with
    | mk r q =>
    cases r with
    | error e => rfl
    | ok =>
      dsimp only
      rw [ih, List.cons_append]

/-- A run that succeeds has taken all its steps. -/
theorem trail_of_follow_eq_ok {steps : List Step} {p : Progress σ}
    (h : ((c.follow steps).run p).1 = .ok ()) :
    (c.trail steps p).map (·.step) = steps ∧ ∀ m ∈ c.trail steps p, m.outcome = .ok () := by
  induction steps generalizing p with
  | nil => exact ⟨rfl, by simp [trail]⟩
  | cons step steps ih =>
    rw [run_follow_cons] at h
    unfold trail
    cases hs : (c.take step).run p with
    | mk r q =>
    rw [hs] at h
    cases r with
    | error e => cases h
    | ok =>
      obtain ⟨hsteps, hok⟩ := ih h
      exact ⟨by simp [hsteps], List.forall_mem_cons.mpr ⟨rfl, hok⟩⟩

/-- A run that succeeds is led to its end by the steps that it was to take. -/
theorem leads_of_follow_eq_ok {steps : List Step} {p q : Progress σ}
    (h : (c.follow steps).run p = (.ok (), q)) :
    c.Leads p (c.trail steps p) q ∧ (c.trail steps p).map (·.step) = steps ∧
      ∀ m ∈ c.trail steps p, m.outcome = .ok () := by
  have hleads := (leads_of_prefix_trail (List.prefix_refl (c.trail steps p))).1
  have hend : ((c.follow steps).run p).2 = p.after (c.trail steps p) := by rw [run_follow]
  rw [← hend, h] at hleads
  exact ⟨hleads, trail_of_follow_eq_ok (congrArg Prod.fst h)⟩

/-- The plan is carried out as far as its moments go. -/
theorem after_moments (s : σ) :
    (c.attempt.run { world := s }).2 = Progress.after { world := s } (c.moments s) :=
  congrArg Prod.snd (run_follow c.plan.course { world := s })

end Setup
end ClusterHarness.Fixture
