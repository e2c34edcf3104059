import Mathlib.Data.List.Basic

/-!
# Finite runs of executable transition systems

A system is a partial step function: `step state event` is `none` when `event`
is not enabled in `state`. All nondeterminism (scheduling, outcomes of external
calls) is resolved by the event, so a run is determined by its event list.

`Runs` grows a run at its end, which is the direction invariants are proved in;
`replay` evaluates a concrete event list. `Conforms` is a condition on every step
of a run and `Visits` ranges over the states a run passes through.
`visits_iff_conforms` relates the two: a state property holds throughout a run
exactly when every step of the run satisfies the condition that preserves it.
-/

namespace CoderDesktop.Semantics

universe u v

variable {State : Type u} {Event : Type v} (step : State → Event → Option State)

/-- Replay a list of events, failing at the first one that is not enabled. -/
def replay : State → List Event → Option State
  | state, [] => some state
  | state, event :: rest => (step state event).bind fun next => replay next rest

/-- A step that is taken under a guard. -/
theorem of_guarded {guard : Prop} [Decidable guard] {state next : State}
    (taken : (if guard then some state else none) = some next) : guard ∧ state = next :=
  (Option.ite_none_right_eq_some.mp taken).imp id Option.some.inj

/-- A finite run from `start`, together with the events it took. -/
inductive Runs (start : State) : List Event → State → Prop where
  | refl : Runs start [] start
  | step {events current event next}
      (prior : Runs start events current) (taken : step current event = some next) :
      Runs start (events ++ [event]) next

/-- Every step a run takes satisfies `allowed` in the state before it. -/
def Conforms (allowed : State → Event → Prop) : State → List Event → Prop
  | _, [] => True
  | state, event :: rest =>
      ∀ next ∈ step state event, allowed state event ∧ Conforms allowed next rest

/-- `state` is passed through by the run of `events` from `start`. -/
def Visits (start : State) (events : List Event) (state : State) : Prop :=
  ∃ before after, events = before ++ after ∧ Runs step start before state

variable {step}

instance decidableConforms (allowed : State → Event → Prop)
    [∀ state event, Decidable (allowed state event)] :
    ∀ start events, Decidable (Conforms step allowed start events)
  | _, [] => .isTrue trivial
  | start, event :: rest =>
      match taken : step start event with
      | none => .isTrue fun next enabled => by simp [taken] at enabled
      | some next =>
          have := decidableConforms allowed next rest
          decidable_of_iff (allowed start event ∧ Conforms step allowed next rest)
            ⟨fun both other enabled => by
              obtain rfl : next = other := by simpa [taken] using enabled
              exact both, fun every => every next taken⟩

/-- The places where a list extended by one event can be split at an event. -/
theorem snoc_eq_split {events before after : List Event} {last event : Event} :
    events ++ [last] = before ++ event :: after ↔
      (after = [] ∧ before = events ∧ event = last) ∨
        ∃ rest, after = rest ++ [last] ∧ events = before ++ event :: rest := by
  constructor
  · intro split
    rcases List.eq_nil_or_concat after with rfl | ⟨rest, final, rfl⟩
    · obtain ⟨rfl, same⟩ := List.append_inj' split rfl
      exact .inl ⟨rfl, rfl, (List.cons.inj same).1.symm⟩
    · have regrouped : events ++ [last] = (before ++ event :: rest) ++ [final] := by
        simpa using split
      obtain ⟨rfl, same⟩ := List.append_inj' regrouped rfl
      exact .inr ⟨rest, by simp [(List.cons.inj same).1], rfl⟩
  · rintro (⟨rfl, rfl, rfl⟩ | ⟨rest, rfl, rfl⟩)
    · rfl
    · simp

/-! ## Composing and replaying runs -/

/-- One step is a run. -/
theorem Runs.single {state next : State} {event : Event}
    (taken : step state event = some next) : Runs step state [event] next :=
  .step .refl taken

/-- Runs compose when they meet at the same state. -/
theorem Runs.trans {start middle finish : State} {first second : List Event}
    (head : Runs step start first middle) (tail : Runs step middle second finish) :
    Runs step start (first ++ second) finish := by
  induction tail with
  | refl => simpa using head
  | step _ taken inductionHypothesis =>
      rw [← List.append_assoc]
      exact .step inductionHypothesis taken

/-- A step and a run are a run. -/
theorem Runs.cons {start next finish : State} {event : Event} {rest : List Event}
    (taken : step start event = some next) (tail : Runs step next rest finish) :
    Runs step start (event :: rest) finish :=
  (Runs.single taken).trans tail

/-- A run is exactly a successful replay of its events. -/
theorem runs_iff_replay {start finish : State} {events : List Event} :
    Runs step start events finish ↔ replay step start events = some finish := by
  constructor
  · have append : ∀ (first : List Event) (event : Event) (from_ : State),
        replay step from_ (first ++ [event]) =
          (replay step from_ first).bind fun middle => step middle event := by
      intro first event
      induction first with
      | nil => intro from_; simp [replay]
      | cons head rest inductionHypothesis =>
          intro from_
          cases taken : step from_ head with
          | none => simp [replay, taken]
          | some next => simp [replay, taken, inductionHypothesis]
    intro run
    induction run with
    | refl => rfl
    | step _ taken inductionHypothesis => rw [append, inductionHypothesis]; exact taken
  · intro replayed
    induction events generalizing start with
    | nil =>
        obtain rfl : start = finish := by simpa [replay] using replayed
        exact .refl
    | cons event rest inductionHypothesis =>
        obtain ⟨next, taken, replayed⟩ := Option.bind_eq_some_iff.mp replayed
        exact .cons taken (inductionHypothesis replayed)

/-- The events of a run determine the state it ends in. -/
theorem Runs.unique {start left right : State} {events : List Event}
    (first : Runs step start events left) (second : Runs step start events right) :
    left = right :=
  Option.some.inj ((runs_iff_replay.mp first).symm.trans (runs_iff_replay.mp second))

/-! ## Step conditions -/

section Conditions

variable {allowed : State → Event → Prop} {start : State}

/-- A run conforms when it does up to its last step and this step is allowed. -/
theorem conforms_snoc {events : List Event} {event : Event} :
    Conforms step allowed start (events ++ [event]) ↔
      Conforms step allowed start events ∧ ∀ state, Runs step start events state →
        ∀ next, step state event = some next → allowed state event := by
  induction events generalizing start with
  | nil =>
      constructor
      · intro conforms
        refine ⟨trivial, fun state run next taken => ?_⟩
        cases Runs.unique run .refl
        exact (conforms next taken).1
      · rintro ⟨-, last⟩ next taken
        exact ⟨last start .refl next taken, trivial⟩
  | cons head rest inductionHypothesis =>
      constructor
      · intro conforms
        refine ⟨fun next taken => ?_, fun state run next taken => ?_⟩
        · exact ⟨(conforms next taken).1, (inductionHypothesis.mp (conforms next taken).2).1⟩
        · obtain ⟨middle, first, replayed⟩ :=
            Option.bind_eq_some_iff.mp (runs_iff_replay.mp run)
          exact (inductionHypothesis.mp (conforms middle first).2).2 state
            (runs_iff_replay.mpr replayed) next taken
      · rintro ⟨conforms, last⟩ next taken
        refine ⟨(conforms next taken).1, inductionHypothesis.mpr ⟨(conforms next taken).2, ?_⟩⟩
        exact fun state run => last state (.cons taken run)

/-- Run rule: what holds at the start and is kept by every allowed step holds,
together with the events taken so far, after every conforming run. -/
theorem Runs.induct (holds : List Event → State → Prop)
    (initial : holds [] start)
    (preserved : ∀ events state event next, Runs step start events state →
      holds events state → allowed state event → step state event = some next →
      holds (events ++ [event]) next)
    {events : List Event} {finish : State} (run : Runs step start events finish)
    (conforms : Conforms step allowed start events) : holds events finish := by
  induction run with
  | refl => exact initial
  | step prior taken inductionHypothesis =>
      obtain ⟨before, last⟩ := conforms_snoc.mp conforms
      exact preserved _ _ _ _ prior (inductionHypothesis before)
        (last _ prior _ taken) taken

/-- Every run meets the trivial condition. -/
theorem conforms_true (events : List Event) :
    Conforms step (fun _ _ => True) start events := by
  induction events generalizing start with
  | nil => trivial
  | cons _ _ inductionHypothesis => exact fun _ _ => ⟨trivial, inductionHypothesis⟩

/-- A state invariant kept by every step holds after every run. -/
theorem Runs.invariant {holds : State → Prop} (initial : holds start)
    (preserved : ∀ state event next, holds state → step state event = some next → holds next)
    {events : List Event} {finish : State} (run : Runs step start events finish) :
    holds finish :=
  run.induct (fun _ state => holds state) initial
    (fun _ state event next _ held _ taken => preserved state event next held taken)
    (conforms_true events)

/-- Step conditions that agree wherever an invariant of all runs holds. -/
theorem conforms_congr {other : State → Event → Prop} (always : State → Prop)
    (alwaysStep : ∀ state event next, always state → step state event = some next → always next)
    (same : ∀ state event next, always state → step state event = some next →
      (allowed state event ↔ other state event))
    (alwaysStart : always start) (events : List Event) :
    Conforms step allowed start events ↔ Conforms step other start events := by
  induction events generalizing start with
  | nil => exact Iff.rfl
  | cons event rest inductionHypothesis =>
      refine forall₂_congr fun next taken => ?_
      exact and_congr (same _ _ _ alwaysStart taken)
        (inductionHypothesis (alwaysStep _ _ _ alwaysStart taken))

/-- A prefix of a conforming run conforms. -/
theorem Conforms.ofAppend {before after : List Event}
    (conforms : Conforms step allowed start (before ++ after)) :
    Conforms step allowed start before := by
  induction before generalizing start with
  | nil => trivial
  | cons _ _ inductionHypothesis =>
      exact fun next taken =>
        ⟨(conforms next taken).1, inductionHypothesis (conforms next taken).2⟩

/-! ## Properties of all visited states -/

/-- A run visits its start. -/
theorem Visits.initial (events : List Event) : Visits step start events start :=
  ⟨[], events, rfl, .refl⟩

/-- A run visits its end. -/
theorem Runs.visits {events : List Event} {finish : State}
    (run : Runs step start events finish) : Visits step start events finish :=
  ⟨events, [], by simp, run⟩

/-- A run visits its start and what the rest visits. -/
theorem visits_cons {event : Event} {rest : List Event} {state : State} :
    Visits step start (event :: rest) state ↔
      state = start ∨ ∃ next, step start event = some next ∧ Visits step next rest state := by
  constructor
  · rintro ⟨before, after, shape, run⟩
    cases before with
    | nil => exact .inl (Runs.unique run .refl)
    | cons head before =>
        obtain ⟨rfl, rfl⟩ := List.cons.inj shape
        obtain ⟨next, taken, replayed⟩ := Option.bind_eq_some_iff.mp (runs_iff_replay.mp run)
        exact .inr ⟨next, taken, before, after, rfl, runs_iff_replay.mpr replayed⟩
  · rintro (rfl | ⟨next, taken, before, after, rfl, run⟩)
    · exact Visits.initial _
    · exact ⟨event :: before, after, rfl, .cons taken run⟩

/-- A concrete run and what can be computed of its last state. -/
theorem runs_of_replay {events : List Event} (observed : State → Bool)
    (reached : (replay step start events).any observed = true) :
    ∃ state, Runs step start events state ∧ observed state = true := by
  obtain ⟨state, replayed, isObserved⟩ := (Option.any_eq_true observed _).mp reached
  exact ⟨state, runs_iff_replay.mpr replayed, isObserved⟩

/-- Refute a property of all visited states at the end of a concrete run. -/
theorem not_visits_of_replay {holds : State → Prop} {events : List Event} (bad : State → Bool)
    (reached : (replay step start events).any bad = true)
    (breaks : ∀ state, bad state = true → ¬ holds state) :
    ¬ ∀ state, Visits step start events state → holds state := by
  intro everywhere
  obtain ⟨state, run, isBad⟩ := runs_of_replay bad reached
  exact breaks state isBad (everywhere state run.visits)

/-- Exactness rule. If, under an invariant of all runs, the condition `allowed`
is what decides whether a step keeps `holds`, then `holds` is true of every
visited state exactly when every step taken is allowed. -/
theorem visits_iff_conforms (always holds : State → Prop)
    (alwaysStep : ∀ state event next, always state → step state event = some next → always next)
    (exactStep : ∀ state event next, always state → holds state →
      step state event = some next → (holds next ↔ allowed state event))
    (alwaysStart : always start) (holdsStart : holds start) (events : List Event) :
    (∀ state, Visits step start events state → holds state) ↔
      Conforms step allowed start events := by
  induction events generalizing start with
  | nil =>
      refine ⟨fun _ => trivial, fun _ state visited => ?_⟩
      obtain ⟨before, after, shape, run⟩ := visited
      obtain ⟨rfl, -⟩ := List.append_eq_nil_iff.mp shape.symm
      cases Runs.unique run .refl
      exact holdsStart
  | cons event rest inductionHypothesis =>
      constructor
      · intro everywhere next taken
        have holdsNext := everywhere next (visits_cons.mpr (.inr ⟨next, taken, Visits.initial _⟩))
        refine ⟨(exactStep _ _ _ alwaysStart holdsStart taken).mp holdsNext, ?_⟩
        refine (inductionHypothesis (alwaysStep _ _ _ alwaysStart taken) holdsNext).mp ?_
        exact fun state visited => everywhere state (visits_cons.mpr (.inr ⟨next, taken, visited⟩))
      · intro conforms state visited
        rcases visits_cons.mp visited with rfl | ⟨next, taken, visited⟩
        · exact holdsStart
        · have holdsNext :=
            (exactStep _ _ _ alwaysStart holdsStart taken).mpr (conforms next taken).1
          exact (inductionHypothesis (alwaysStep _ _ _ alwaysStart taken) holdsNext).mpr
            (conforms next taken).2 state visited

/-- Invariant rule. What every allowed step keeps holds in every state a conforming run
visits, and what every such step has, all its steps have. -/
theorem Conforms.invariant {other : State → Event → Prop} {always : State → Prop}
    (keeps : ∀ state event next, always state → allowed state event →
      step state event = some next → always next ∧ other state event)
    (alwaysStart : always start) {events : List Event}
    (conforms : Conforms step allowed start events) :
    (∀ state, Visits step start events state → always state) ∧
      Conforms step other start events := by
  induction events generalizing start with
  | nil =>
      refine ⟨fun state visited => ?_, trivial⟩
      obtain ⟨before, after, shape, run⟩ := visited
      obtain ⟨rfl, -⟩ := List.append_eq_nil_iff.mp shape.symm
      cases Runs.unique run .refl
      exact alwaysStart
  | cons event rest inductionHypothesis =>
      have later (next : State) (taken : step start event = some next) :=
        keeps start event next alwaysStart (conforms next taken).1 taken
      constructor
      · intro state visited
        rcases visits_cons.mp visited with rfl | ⟨next, taken, visited⟩
        · exact alwaysStart
        · exact (inductionHypothesis (later next taken).1 (conforms next taken).2).1 state visited
      · intro next taken
        exact ⟨(later next taken).2,
          (inductionHypothesis (later next taken).1 (conforms next taken).2).2⟩

end Conditions

end CoderDesktop.Semantics
