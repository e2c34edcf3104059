import CoderDesktop.Dlp.CompositorLifecycle
import CoderDesktop.Semantics.Run

/-!
# The environment of Xwayland

An Xwayland server is started when the first X11 client comes, with the environment the
process has then. Creating a compositor sets `XWAYLAND_NO_GLAMOR` before it creates
Xwayland, and destroying one unsets it, although the variable belongs to the process and
other compositors may be left.
-/

namespace CoderDesktop.Dlp

open Semantics

/-- `coder_dlp_create` gets to `dlp_xwayland_init`. -/
def CreateOutcome.initsXwayland (outcome : CreateOutcome) : Bool :=
  outcome.calloc.isSome && outcome.display && outcome.backend &&
    (outcome.renderer && outcome.allocator)

/-- The compositors and the variable they share. -/
structure XwaylandWorld where
  compositors : CompositorWorld
  /-- `XWAYLAND_NO_GLAMOR` is set. -/
  noGlamor : Bool

namespace XwaylandWorld

/-- The variable may have been inherited. -/
def new (noGlamor : Bool) : XwaylandWorld := ⟨.new, noGlamor⟩

/-- `dlp_xwayland_init` sets the variable, whether or not Xwayland can be created, and
`dlp_xwayland_destroy` unsets it, whether or not there is an Xwayland. -/
def noGlamorAfter (world : XwaylandWorld) : CompositorEvent → Bool
  | .create outcome => outcome.initsXwayland || world.noGlamor
  | .destroy _ => false
  | .setLogCallback _ | .announced _ _ | .outputDestroyed _ _ => world.noGlamor

/-- A compositor event, with what it does to the variable. -/
def next (world : XwaylandWorld) (event : CompositorEvent) : Option XwaylandWorld :=
  (world.compositors.next event).map fun after => ⟨after, world.noGlamorAfter event⟩

/-- Some compositor has an Xwayland. -/
def MayStart (compositors : CompositorWorld) : Prop :=
  ∃ address comp, compositors.memory address = some comp ∧ comp.xwayland = true

/-- An Xwayland that starts now starts without glamor. -/
def WithoutGlamor (world : XwaylandWorld) : Prop :=
  MayStart world.compositors → world.noGlamor = true

/-- A compositor is destroyed only when no other one has an Xwayland. -/
def DestroysLast (world : XwaylandWorld) : CompositorEvent → Prop
  | .destroy address =>
      ∀ other comp, other ≠ address → world.compositors.memory other = some comp →
        comp.xwayland = false
  | .create _ | .setLogCallback _ | .announced _ _ | .outputDestroyed _ _ => True

end XwaylandWorld

/-! ## What becomes of Xwayland objects -/

namespace Compositor

variable (comp : Compositor)

@[simp] theorem xwayland_announce (announcement : Announcement) :
    (comp.announce announcement).xwayland = comp.xwayland := by
  cases announcement with
  | newOutput => rfl
  | newInput device =>
      cases device with
      | keyboard keymap => cases keymap <;> rfl
      | pointer | touch | other => rfl

@[simp] theorem xwayland_outputDestroyed (number : Nat) :
    (comp.outputDestroyed number).xwayland = comp.xwayland := by
  simp only [outputDestroyed]
  split <;> rfl

/-- A compositor that is returned has been through all of the creation. -/
theorem inits_of_build {comp : Compositor} {outcome : CreateOutcome}
    (built : (comp.build outcome).1 = true) :
    outcome.display = true ∧ outcome.backend = true ∧
      (outcome.renderer = true ∧ outcome.allocator = true) := by
  unfold build at built
  split at built
  · cases built
  · rename_i display
    dsimp only at built
    split at built
    · cases built
    · rename_i backend
      split at built
      · cases built
      · rename_i renderer
        exact ⟨not_not.mp display, not_not.mp backend, not_not.mp renderer⟩

end Compositor

namespace XwaylandWorld

variable {world : XwaylandWorld}

/-- Storing a compositor that has an Xwayland only if the one before it had. -/
theorem mayStart_of_store {compositors : CompositorWorld} {address : Nat}
    {comp changed : Compositor} (found : compositors.memory address = some comp)
    (same : changed.xwayland = comp.xwayland)
    (mayStart : MayStart { compositors with
      memory := compositors.store address (some changed) }) : MayStart compositors := by
  obtain ⟨other, stored, located, started⟩ := mayStart
  by_cases here : other = address
  · subst here
    simp only [CompositorWorld.store, Function.update_self] at located
    obtain rfl := Option.some.inj located
    exact ⟨other, comp, found, same ▸ started⟩
  · simp only [CompositorWorld.store, Function.update_of_ne here] at located
    exact ⟨other, stored, located, started⟩

/-- Creation sets the variable before it returns a compositor, and what it gives up has
not been stored. -/
theorem withoutGlamor_create {outcome : CreateOutcome} {after : CompositorWorld}
    (without : world.WithoutGlamor)
    (taken : world.compositors.next (.create outcome) = some after) :
    WithoutGlamor ⟨after, outcome.initsXwayland || world.noGlamor⟩ := by
  intro mayStart
  have kept : MayStart world.compositors →
      (outcome.initsXwayland || world.noGlamor) = true := fun before => by
    rw [without before, Bool.or_true]
  simp only [CompositorWorld.next] at taken
  split at taken
  · obtain rfl := Option.some.inj taken
    exact kept mayStart
  · rename_i address allocated
    obtain ⟨-, rfl⟩ := of_guarded taken
    cases built : ((Compositor.calloc
      (world.compositors.active.add address outcome.realloc).2).build outcome).1 with
    | true =>
        obtain ⟨display, backend, renderer, allocator⟩ := Compositor.inits_of_build built
        simp [CreateOutcome.initsXwayland, allocated, display, backend, renderer, allocator]
    | false =>
        refine kept ?_
        simpa [MayStart, CompositorWorld.coderDlpCreate, built] using mayStart

/-- Destruction unsets the variable for whoever is left. -/
theorem withoutGlamor_destroy (address : Nat) (comp : Compositor) :
    WithoutGlamor ⟨world.compositors.coderDlpDestroy address comp, false⟩ ↔
      world.DestroysLast (.destroy address) := by
  constructor
  · intro without other left elsewhere found
    by_contra started
    have mayStart : MayStart (world.compositors.coderDlpDestroy address comp) := by
      refine ⟨other, left, ?_, Bool.not_eq_false _ ▸ started⟩
      exact (Function.update_of_ne elsewhere _ _).trans found
    exact Bool.false_ne_true (without mayStart)
  · rintro last ⟨other, left, located, started⟩
    by_cases here : other = address
    · subst here
      cases (Function.update_self _ _ _).symm.trans located
    · have found := (Function.update_of_ne here _ _).symm.trans located
      exact absurd ((last other left here found).symm.trans started) Bool.false_ne_true

/-- A step keeps new Xwaylands without glamor exactly when no other has one as it destroys a
compositor. -/
theorem withoutGlamor_step {event : CompositorEvent} {after : XwaylandWorld}
    (without : world.WithoutGlamor) (taken : world.next event = some after) :
    after.WithoutGlamor ↔ world.DestroysLast event := by
  obtain ⟨compositors, step, rfl⟩ := Option.map_eq_some_iff.mp taken
  cases event with
  | create outcome => exact iff_of_true (withoutGlamor_create without step) trivial
  | destroy address =>
      obtain ⟨comp, -, rfl⟩ := Option.map_eq_some_iff.mp step
      exact withoutGlamor_destroy address comp
  | setLogCallback address =>
      obtain ⟨comp, found, rfl⟩ := Option.map_eq_some_iff.mp step
      have same : Compositor.xwayland { comp with logCallback := true } = comp.xwayland := rfl
      exact iff_of_true (fun mayStart => without (mayStart_of_store found same mayStart)) trivial
  | announced address announcement =>
      obtain ⟨comp, found, rfl⟩ := Option.map_eq_some_iff.mp step
      refine iff_of_true (fun mayStart => without ?_) trivial
      exact mayStart_of_store found (comp.xwayland_announce announcement) mayStart
  | outputDestroyed address number =>
      obtain ⟨comp, found, step⟩ := Option.bind_eq_some_iff.mp step
      obtain ⟨-, rfl⟩ := of_guarded step
      refine iff_of_true (fun mayStart => without ?_) trivial
      exact mayStart_of_store found (comp.xwayland_outputDestroyed number) mayStart

/-- No Xwayland can start with glamor exactly if no compositor is destroyed while another
one has an Xwayland. -/
theorem withoutGlamor_iff (inherited : Bool) (events : List CompositorEvent) :
    (∀ world, Visits next (new inherited) events world → world.WithoutGlamor) ↔
      Conforms next DestroysLast (new inherited) events :=
  visits_iff_conforms (fun _ => True) WithoutGlamor (fun _ _ _ _ _ => trivial)
    (fun _ _ _ _ without taken => withoutGlamor_step without taken) trivial
    (fun mayStart => by obtain ⟨_, _, located, _⟩ := mayStart; cases located) events

/-- An outcome without failures, at the address given. -/
def succeeds (address : Nat) : CreateOutcome where
  calloc := some address
  realloc := true
  display := true
  backend := true
  renderer := true
  allocator := true
  securityContextMgr := true
  xwayland := true
  announced := []
  started := true
  socket := true

/-- Of two compositors the second is destroyed, and the first has yet to start its
Xwayland. -/
theorem not_withoutGlamor :
    ¬ (∀ inherited events world, Visits next (new inherited) events world →
      world.WithoutGlamor) := by
  intro always
  refine not_visits_of_replay
    (fun world => !world.noGlamor && (world.compositors.memory 1).any (·.xwayland)) ?_ ?_
    (always false [.create (succeeds 1), .create (succeeds 2), .destroy 2])
  · decide
  · intro world unset without
    simp only [Bool.and_eq_true, Bool.not_eq_true', Option.any_eq_true] at unset
    obtain ⟨unset, comp, located, started⟩ := unset
    exact Bool.false_ne_true (unset.symm.trans (without ⟨1, comp, located, started⟩))

end XwaylandWorld
end CoderDesktop.Dlp
