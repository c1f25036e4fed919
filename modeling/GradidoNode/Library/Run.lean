import Mathlib.Data.List.Basic
import Mathlib.Tactic.Common

/-!
# Runs of partial step functions

A system is a partial step function: an event that is not enabled in a state has
no successor. Runs, runs whose steps all meet a condition, and the induction
that carries a step-stable predicate along them.
-/

namespace GradidoNode

namespace Library

variable {State Event : Type*}

/-- Execute a list of events. The run stops with `none` at the first event that
is not enabled. -/
def runEvents (step : State → Event → Option State) : List Event → State → Option State
  | [], state => some state
  | event :: events, state =>
      match step state event with
      | some next => runEvents step events next
      | none => none

variable {step : State → Event → Option State}

@[simp] theorem runEvents_nil (state : State) : runEvents step [] state = some state := rfl

theorem runEvents_cons {event : Event} {events : List Event} {state final : State} :
    runEvents step (event :: events) state = some final ↔
      ∃ next, step state event = some next ∧ runEvents step events next = some final := by
  simp only [runEvents]
  cases taken : step state event with
  | none => simp
  | some next => simp

/-- Executing appended event lists runs the second list from where the first ended. -/
theorem runEvents_append {first second : List Event} {state final : State} :
    runEvents step (first ++ second) state = some final ↔
      ∃ middle, runEvents step first state = some middle ∧
        runEvents step second middle = some final := by
  induction first generalizing state with
  | nil => simp
  | cons event events ih =>
      simp only [List.cons_append, runEvents_cons, ih]
      constructor
      · rintro ⟨next, taken, middle, reached, rest⟩
        exact ⟨middle, ⟨next, taken, reached⟩, rest⟩
      · rintro ⟨middle, ⟨next, taken, reached⟩, rest⟩
        exact ⟨next, taken, middle, reached, rest⟩

/-- Every step of a run is taken in a state where `allowed` holds of it. -/
def StepsMeet (step : State → Event → Option State) (allowed : State → Event → Prop) :
    List Event → State → Prop
  | [], _ => True
  | event :: events, state =>
      allowed state event ∧ ∀ next, step state event = some next →
        StepsMeet step allowed events next

theorem StepsMeet.cons {allowed : State → Event → Prop} {event : Event} {events : List Event}
    {state next : State} (permitted : allowed state event)
    (taken : step state event = some next) (rest : StepsMeet step allowed events next) :
    StepsMeet step allowed (event :: events) state := by
  refine ⟨permitted, fun other takenOther => ?_⟩
  cases taken.symm.trans takenOther
  exact rest

/-- A condition on every step is a condition on the steps of every prefix of the run. -/
theorem StepsMeet.left {allowed : State → Event → Prop} {first second : List Event}
    {state : State} (meets : StepsMeet step allowed (first ++ second) state) :
    StepsMeet step allowed first state := by
  induction first generalizing state with
  | nil => trivial
  | cons event events ih => exact ⟨meets.1, fun next taken => ih (meets.2 next taken)⟩

/-- A condition on every step holds of the event that follows a prefix of the run. -/
theorem StepsMeet.at_event {allowed : State → Event → Prop} {first second : List Event}
    {event : Event} {state middle : State}
    (meets : StepsMeet step allowed (first ++ event :: second) state)
    (reached : runEvents step first state = some middle) : allowed middle event := by
  induction first generalizing state with
  | nil =>
      cases reached
      exact meets.1
  | cons head events ih =>
      obtain ⟨next, taken, rest⟩ := Iff.mp runEvents_cons reached
      exact ih (meets.2 next taken) rest

/-- A condition on every step is a condition on the steps of the rest of the run. -/
theorem StepsMeet.right {allowed : State → Event → Prop} {first second : List Event}
    {state middle : State} (meets : StepsMeet step allowed (first ++ second) state)
    (reached : runEvents step first state = some middle) : StepsMeet step allowed second middle := by
  induction first generalizing state with
  | nil =>
      cases reached
      exact meets
  | cons head events ih =>
      obtain ⟨next, taken, rest⟩ := Iff.mp runEvents_cons reached
      exact ih (meets.2 next taken) rest

/-- A condition on every step is one on each event in the state that the events before it
reach. -/
theorem stepsMeet_iff {allowed : State → Event → Prop} {events : List Event} {state : State} :
    StepsMeet step allowed events state ↔ ∀ first event rest middle,
      events = first ++ event :: rest → runEvents step first state = some middle →
        allowed middle event := by
  constructor
  · rintro meets first event rest middle rfl reached
    exact meets.at_event reached
  · intro all
    induction events generalizing state with
    | nil => trivial
    | cons event events ih =>
        refine ⟨all [] event events state rfl rfl, fun next taken => ih ?_⟩
        rintro first other rest middle rfl reached
        exact all (event :: first) other rest middle rfl
          (Iff.mpr runEvents_cons ⟨next, taken, reached⟩)

/-- **Run induction.** A predicate that every permitted step preserves holds at
the end of every run whose steps are permitted. -/
theorem invariant_of_stepsMeet {allowed : State → Event → Prop} {predicate : State → Prop}
    (stable : ∀ state event next, predicate state → allowed state event →
      step state event = some next → predicate next)
    {events : List Event} {state final : State} (valid : predicate state)
    (meets : StepsMeet step allowed events state)
    (reached : runEvents step events state = some final) : predicate final := by
  induction events generalizing state with
  | nil =>
      cases reached
      exact valid
  | cons event events ih =>
      obtain ⟨next, taken, rest⟩ := Iff.mp runEvents_cons reached
      exact ih (stable state event next valid meets.1 taken) (meets.2 next taken) rest

/-- A condition that does not look at the state is met where all events meet it. -/
theorem stepsMeet_of_forall {allowed : Event → Prop} {events : List Event}
    (all : ∀ event ∈ events, allowed event) (state : State) :
    StepsMeet step (fun _ event => allowed event) events state := by
  induction events generalizing state with
  | nil => trivial
  | cons event events ih =>
      refine ⟨all event (List.mem_cons_self ..), fun next _ => ?_⟩
      exact ih (fun other member => all other (List.mem_cons_of_mem _ member)) next

theorem stepsMeet_true (events : List Event) (state : State) :
    StepsMeet step (fun _ _ => True) events state := by
  induction events generalizing state with
  | nil => trivial
  | cons event events ih => exact ⟨trivial, fun next _ => ih next⟩

/-- Where valid states stay valid in exactly the steps that are allowed, and validity is what
makes a state good, the runs whose states are all good are those whose steps are all
allowed. -/
theorem good_iff_stepsMeet {allowed : State → Event → Prop} {valid good : State → Prop}
    (stable : ∀ state event next, valid state → allowed state event →
      step state event = some next → valid next)
    (good_of_valid : ∀ state, valid state → good state)
    (allowed_of_good : ∀ state event, valid state →
      (∀ next, step state event = some next → good next) → allowed state event)
    (events : List Event) {start : State} (started : valid start) :
    (∀ first rest reached, events = first ++ rest → runEvents step first start = some reached →
      good reached) ↔ StepsMeet step allowed events start := by
  constructor
  · intro allGood
    induction events generalizing start with
    | nil => trivial
    | cons event events ih =>
        have permitted : allowed start event := by
          apply allowed_of_good start event started
          intro next taken
          exact allGood [event] events next rfl (Iff.mpr runEvents_cons ⟨next, taken, rfl⟩)
        refine ⟨permitted, fun next taken => ih (stable start event next started permitted taken) ?_⟩
        rintro first rest reached rfl run
        exact allGood (event :: first) rest reached rfl (Iff.mpr runEvents_cons ⟨next, taken, run⟩)
  · rintro meets first rest reached rfl run
    exact good_of_valid reached (invariant_of_stepsMeet stable started meets.left run)

/-- The same for the states that at least one step leads to, where a valid state need not be
good. -/
theorem reached_good_iff_stepsMeet {allowed : State → Event → Prop} {valid good : State → Prop}
    (stable : ∀ state event next, valid state → allowed state event →
      step state event = some next → valid next ∧ good next)
    (allowed_of_good : ∀ state event, valid state →
      (∀ next, step state event = some next → good next) → allowed state event)
    {events : List Event} {start : State} (started : valid start) :
    (∀ first event rest reached, events = first ++ event :: rest →
      runEvents step (first ++ [event]) start = some reached → good reached) ↔
      StepsMeet step allowed events start := by
  constructor
  · intro allGood
    induction events generalizing start with
    | nil => trivial
    | cons event events ih =>
        have permitted : allowed start event := by
          apply allowed_of_good start event started
          intro next taken
          exact allGood [] event events next rfl (Iff.mpr runEvents_cons ⟨next, taken, rfl⟩)
        refine ⟨permitted, fun next taken =>
          ih (stable start event next started permitted taken).1 ?_⟩
        rintro first other rest reached rfl run
        exact allGood (event :: first) other rest reached rfl
          (Iff.mpr runEvents_cons ⟨next, taken, run⟩)
  · rintro meets first event rest reached rfl run
    obtain ⟨middle, before, last⟩ := Iff.mp runEvents_append run
    obtain ⟨next, taken, final⟩ := Iff.mp runEvents_cons last
    cases final
    have valid : valid middle := invariant_of_stepsMeet
      (fun state event next valid permitted taken => (stable state event next valid permitted taken).1)
      started meets.left before
    exact (stable middle event reached valid (meets.at_event before) taken).2

/-- Where one of the parties may always run ahead: the runs along which its own steps never lead
out of the good states are those whose steps are all allowed, if its steps are allowed and any
other step that is not lets it run into trouble. -/
theorem ahead_good_iff_stepsMeet {allowed : State → Event → Prop} {valid good : State → Prop}
    {ahead : Event → Prop}
    (stable : ∀ state event next, valid state → allowed state event →
      step state event = some next → valid next)
    (good_of_valid : ∀ state, valid state → good state)
    (allowed_ahead : ∀ state event, valid state → ahead event → allowed state event)
    (allowed_of_good : ∀ state event, valid state →
      (∀ next ending reached, step state event = some next → (∀ last ∈ ending, ahead last) →
        runEvents step ending next = some reached → good reached) → allowed state event)
    (events : List Event) {start : State} (started : valid start) :
    (∀ first rest ending reached, events = first ++ rest → (∀ last ∈ ending, ahead last) →
      runEvents step (first ++ ending) start = some reached → good reached) ↔
      StepsMeet step allowed events start := by
  have limited : (∀ first rest middle, events = first ++ rest →
      runEvents step first start = some middle → ∀ ending reached, (∀ last ∈ ending, ahead last) →
        runEvents step ending middle = some reached → good reached) ↔
      StepsMeet step allowed events start := by
    apply good_iff_stepsMeet stable _ _ events started
    · intro state isValid ending reached allAhead run
      induction ending generalizing state with
      | nil =>
          cases run
          exact good_of_valid _ isValid
      | cons event ending ih =>
          obtain ⟨next, taken, rest⟩ := Iff.mp runEvents_cons run
          have permitted := allowed_ahead state event isValid (allAhead event (List.mem_cons_self ..))
          exact ih next (stable state event next isValid permitted taken)
            (fun last member => allAhead last (List.mem_cons_of_mem _ member)) rest
    · intro state event isValid allGood
      apply allowed_of_good state event isValid
      intro next ending reached taken allAhead run
      exact allGood next taken ending reached allAhead run
  rw [← limited]
  constructor
  · intro allGood first rest middle split before ending reached allAhead after
    exact allGood first rest ending reached split allAhead
      (Iff.mpr runEvents_append ⟨middle, before, after⟩)
  · intro allGood first rest ending reached split allAhead run
    obtain ⟨middle, before, after⟩ := Iff.mp runEvents_append run
    exact allGood first rest middle split before ending reached allAhead after

/-- Two conditions that say the same of the steps out of valid states say the same of a run,
where the steps that meet them keep the state valid. -/
theorem stepsMeet_congr {first second : State → Event → Prop} {valid : State → Prop}
    (stable : ∀ state event next, valid state → second state event →
      step state event = some next → valid next)
    (same : ∀ state event, valid state → (first state event ↔ second state event))
    (events : List Event) {start : State} (started : valid start) :
    StepsMeet step first events start ↔ StepsMeet step second events start := by
  induction events generalizing start with
  | nil => exact Iff.rfl
  | cons event events ih =>
      unfold StepsMeet
      rw [same start event started]
      refine and_congr_right fun permitted => forall_congr' fun next => forall_congr' fun taken => ?_
      exact ih (stable start event next started permitted taken)

/-- Run induction without a condition on the steps. -/
theorem invariant_of_run {predicate : State → Prop}
    (stable : ∀ state event next, predicate state → step state event = some next →
      predicate next)
    {events : List Event} {state final : State} (valid : predicate state)
    (reached : runEvents step events state = some final) : predicate final :=
  invariant_of_stepsMeet (fun state event next valid _ taken => stable state event next valid taken)
    valid (stepsMeet_true events state) reached

end Library

end GradidoNode
