import CoderDesktop.Semantics.Run

/-!
# Projections of runs

A system seen through a view of its states. Some of its events are invisible, the others
are events of the system it is seen as. If every step is one the view can follow, so is
every run: `Runs.project` is the rule.
-/

namespace CoderDesktop.Semantics

universe u v w x

variable {State : Type u} {Event : Type v} {Abstract : Type w} {Action : Type x}
  {step : State → Event → Option State} {start : State}

/-- The view stays, or takes the step of the event's image. -/
def Follows (abstractStep : Abstract → Action → Option Abstract) (view : State → Abstract)
    (image : Event → Option Action) (state : State) (event : Event) (next : State) : Prop :=
  match image event with
  | none => view next = view state
  | some action => abstractStep (view state) action = some (view next)

/-- Projection rule. Where every allowed step from a state with the invariant keeps it and can
be followed, a conforming run is a run of the visible events. -/
theorem Runs.project {abstractStep : Abstract → Action → Option Abstract}
    {view : State → Abstract} {image : Event → Option Action} {always : State → Prop}
    {allowed : State → Event → Prop} (alwaysStart : always start)
    (follows : ∀ state event next, always state → allowed state event →
      step state event = some next →
      always next ∧ Follows abstractStep view image state event next)
    {events : List Event} {finish : State} (run : Runs step start events finish)
    (conforms : Conforms step allowed start events) :
    always finish ∧ Runs abstractStep (view start) (events.filterMap image) (view finish) := by
  refine run.induct (fun events state => always state ∧
    Runs abstractStep (view start) (events.filterMap image) (view state)) ⟨alwaysStart, .refl⟩
    (fun events state event next _ held isAllowed taken => ?_) conforms
  obtain ⟨keeps, followed⟩ := follows state event next held.1 isAllowed taken
  refine ⟨keeps, ?_⟩
  unfold Follows at followed
  rw [List.filterMap_append]
  cases shape : image event with
  | none =>
      simp only [shape] at followed
      simpa [shape, followed] using held.2
  | some action =>
      simp only [shape] at followed
      simpa [shape] using held.2.step followed

/-- A condition on the events alone. -/
theorem conforms_of_forall {allowed : Event → Prop} {events : List Event}
    (every : ∀ event ∈ events, allowed event) :
    Conforms step (fun _ event => allowed event) start events := by
  induction events generalizing start with
  | nil => trivial
  | cons event events inductionHypothesis =>
      exact fun next _ => ⟨every event List.mem_cons_self,
        inductionHypothesis fun other member => every other (List.mem_cons_of_mem _ member)⟩

end CoderDesktop.Semantics
