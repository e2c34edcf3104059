import CoderDesktop.Dlp.CompositorLifecycle
import CoderDesktop.Semantics.Run

/-!
# Listener discipline

Every listener of a compositor is linked where the fields of the compositor say, also
after a fault. So what a handler does to the listeners is decided by the fields: a
second output or device is linked over the first, and destruction expects a security
context manager whether or not there is one.
-/

namespace CoderDesktop.Dlp

open Signals Semantics

/-- What has one set of listeners in the compositor, whichever number comes. -/
inductive ListenerSlot where
  | output
  | keyboard
  | touch
deriving DecidableEq, Repr

/-- The slot whose listeners an announcement links. -/
def Announcement.slot : Announcement → Option ListenerSlot
  | .newOutput => some .output
  | .newInput (.keyboard keymap) => if keymap then some .keyboard else none
  | .newInput .touch => some .touch
  | .newInput .pointer | .newInput .other => none

namespace Compositor

variable (comp : Compositor)

/-- Where the fields of the compositor say a listener is linked, once it is wired. -/
def emitterOf : Listener → Option WlObject
  | .outputFrame | .outputRequestState | .outputDestroy => comp.output.map .output
  | .keyboardKey | .keyboardModifiers => comp.keyboard.map .keyboard
  | .touchDown | .touchUp | .touchMotion | .touchCancel | .touchFrame => comp.touch.map .touch
  | .newXdgToplevel | .newXdgPopup => some .xdgShell
  | .xwaylandSurface | .xwaylandReady => if comp.xwayland then some .xwayland else none
  | .newOutput | .newInput => some .backend
  | .cursorMotion | .cursorMotionAbsolute | .cursorButton | .cursorAxis | .cursorFrame =>
      some .cursor
  | .requestSetCursor | .requestSetSelection | .requestSetPrimarySelection => some .seat
  | .securityContextCommit =>
      if comp.securityContextMgr then some .securityContextMgr else none
  | .clientCreated => some .display

/-- Every listener is linked to what it is meant for. -/
structure Wired (comp : Compositor) : Prop where
  target : ∀ listener, comp.links.target listener = comp.emitterOf listener
  /-- The cursor belongs to nothing that is destroyed before it. -/
  cursor : .cursor ∈ comp.objects

/-- The kind has an object whose listeners are linked. -/
def occupied : ListenerSlot → Bool
  | .output => comp.output.isSome
  | .keyboard => comp.keyboard.isSome
  | .touch => comp.touch.isSome

/-- Each slot is asked for once at most, and only if it is free. -/
def Fits (announced : List Announcement) : Prop :=
  (announced.filterMap Announcement.slot).Nodup ∧
    ∀ slot ∈ announced.filterMap Announcement.slot, comp.occupied slot = false

/-- A freed compositor: nothing went wrong, and nothing that lives on knows it. -/
structure Detached (comp : Compositor) : Prop where
  faultless : comp.links.faults = []
  unlinked : ∀ listener object, comp.links.target listener = some object →
    object ∉ comp.objects

end Compositor

namespace CompositorWorld

/-- No link was misused, and nothing freed is linked. -/
structure Disciplined (world : CompositorWorld) : Prop where
  live : ∀ address comp, world.memory address = some comp → comp.links.faults = []
  freed : ∀ comp ∈ world.freed, comp.Detached

/-- Nothing is announced twice; a compositor is destroyed only if it has a security
context manager, and given up only before the Wayland globals are made. -/
def Orderly (world : CompositorWorld) : CompositorEvent → Prop
  | .create outcome =>
      outcome.calloc.isSome = true → outcome.display = true → outcome.backend = true →
        outcome.renderer = true → outcome.allocator = true →
          outcome.started = true ∧ outcome.socket = true ∧
            (outcome.announced.filterMap Announcement.slot).Nodup
  | .destroy address =>
      ∀ comp, world.memory address = some comp → comp.securityContextMgr = true
  | .announced address announcement =>
      ∀ comp, world.memory address = some comp → comp.Fits [announcement]
  | .setLogCallback _ | .outputDestroyed _ _ => True

end CompositorWorld

/-! ## Outputs and input devices -/

namespace Compositor

variable (comp : Compositor)

/-- An announcement links its slot to the new object and records its number. -/
theorem Wired.announce {comp : Compositor} (wired : comp.Wired) (announcement : Announcement) :
    (comp.announce announcement).Wired := by
  cases announcement with
  | newOutput =>
      refine ⟨fun listener => ?_, List.mem_cons_of_mem _ wired.cursor⟩
      simp only [Compositor.announce, handleNewOutput, signalAdd, withObject, Links.target_addAll]
      cases listener <;> simp [outputListeners, emitterOf, wired.target]
  | newInput device =>
      cases device with
      | pointer | other => exact wired
      | touch =>
          refine ⟨fun listener => ?_, List.mem_cons_of_mem _ wired.cursor⟩
          simp only [Compositor.announce, handleNewInput, setupTouch, signalAdd, withObject,
            Links.target_addAll]
          cases listener <;> simp [touchListeners, emitterOf, wired.target]
      | keyboard keymap =>
          cases keymap with
          | false => exact ⟨wired.target, List.mem_cons_of_mem _ wired.cursor⟩
          | true =>
              refine ⟨fun listener => ?_, List.mem_cons_of_mem _ wired.cursor⟩
              simp only [Compositor.announce, handleNewInput, setupKeyboard, signalAdd,
                withObject, Links.target_addAll, if_true]
              cases listener <;> simp [keyboardListeners, emitterOf, wired.target]

/-- What is announced occupies its slot. -/
theorem occupied_announce (announcement : Announcement) (slot : ListenerSlot) :
    (comp.announce announcement).occupied slot = true ↔
      announcement.slot = some slot ∨ comp.occupied slot = true := by
  cases announcement with
  | newOutput =>
      cases slot <;>
        simp [announce, handleNewOutput, occupied, Announcement.slot, signalAdd, withObject]
  | newInput device =>
      cases device with
      | pointer | other => simp [announce, handleNewInput, Announcement.slot]
      | touch =>
          cases slot <;> simp [announce, handleNewInput, setupTouch, occupied,
            Announcement.slot, signalAdd, withObject]
      | keyboard keymap =>
          cases keymap <;> cases slot <;> simp [announce, handleNewInput, setupKeyboard,
            occupied, Announcement.slot, signalAdd, withObject]

/-- One announcement goes without a fault when its slot is free. -/
theorem faults_announce_eq_nil_iff {comp : Compositor} (wired : comp.Wired)
    (announcement : Announcement) :
    (comp.announce announcement).links.faults = [] ↔
      comp.links.faults = [] ∧
        ∀ slot, announcement.slot = some slot → comp.occupied slot = false := by
  have group : ∀ (object : WlObject) (listeners : List Listener) (field : Option Nat)
      (emitter : Nat → WlObject), listeners.Nodup → listeners ≠ [] →
      (∀ listener ∈ listeners, comp.emitterOf listener = field.map emitter) →
      ((comp.links.addAll object listeners).faults = [] ↔
        comp.links.faults = [] ∧ field.isSome = false) := by
    intro object listeners field emitter distinct someone same
    rw [Links.faults_addAll_eq_nil_iff _ _ distinct]
    refine and_congr_right fun _ => ?_
    obtain ⟨first, member⟩ := List.exists_mem_of_ne_nil _ someone
    constructor
    · intro free
      have unlinked := free first member
      rw [wired.target, same first member] at unlinked
      simpa using unlinked
    · intro free listener listed
      rw [wired.target, same listener listed]
      simpa using free
  cases announcement with
  | newOutput =>
      have exact_ := group (.output comp.fresh) outputListeners comp.output .output (by decide)
        (by decide) (by simp [outputListeners, emitterOf])
      simpa [announce, handleNewOutput, signalAdd, withObject, Announcement.slot, occupied]
        using exact_
  | newInput device =>
      cases device with
      | pointer | other => simp [announce, handleNewInput, Announcement.slot]
      | touch =>
          have exact_ := group (.touch comp.fresh) touchListeners comp.touch .touch (by decide)
            (by decide) (by simp [touchListeners, emitterOf])
          simpa [announce, handleNewInput, setupTouch, signalAdd, withObject, Announcement.slot,
            occupied] using exact_
      | keyboard keymap =>
          cases keymap with
          | false => simp [announce, handleNewInput, setupKeyboard, withObject, Announcement.slot]
          | true =>
              have exact_ := group (.keyboard comp.fresh) keyboardListeners comp.keyboard
                .keyboard (by decide) (by decide) (by simp [keyboardListeners, emitterOf])
              simpa [announce, handleNewInput, setupKeyboard, signalAdd, withObject,
                Announcement.slot, occupied] using exact_

/-- Announcements keep the wiring. -/
theorem Wired.announceAll {comp : Compositor} (wired : comp.Wired)
    (announced : List Announcement) : (comp.announceAll announced).Wired := by
  induction announced generalizing comp with
  | nil => exact wired
  | cons announcement rest inductionHypothesis =>
      exact inductionHypothesis (wired.announce announcement)

/-- All announcements together go without a fault when they fit. -/
theorem faults_announceAll_eq_nil_iff {comp : Compositor} (wired : comp.Wired)
    (announced : List Announcement) :
    (comp.announceAll announced).links.faults = [] ↔
      comp.links.faults = [] ∧ comp.Fits announced := by
  induction announced generalizing comp with
  | nil => simp [Compositor.announceAll, Fits]
  | cons announcement rest inductionHypothesis =>
      show ((comp.announce announcement).announceAll rest).links.faults = [] ↔ _
      rw [inductionHypothesis (wired.announce announcement),
        faults_announce_eq_nil_iff wired, and_assoc]
      refine and_congr_right fun _ => ?_
      have still : ∀ slot, (comp.announce announcement).occupied slot = false ↔
          announcement.slot ≠ some slot ∧ comp.occupied slot = false := by
        intro slot
        rw [← Bool.not_eq_true, occupied_announce, not_or, Bool.not_eq_true]
      unfold Fits
      simp only [still]
      cases asked : announcement.slot with
      | none => simp [List.filterMap_cons_none asked]
      | some slot =>
          simp only [List.filterMap_cons_some asked, List.nodup_cons, List.forall_mem_cons]
          constructor
          · rintro ⟨free, distinct, later⟩
            exact ⟨⟨fun again => (later slot again).1 rfl, distinct⟩, free slot rfl,
              fun other member => (later other member).2⟩
          · rintro ⟨⟨once, distinct⟩, free, later⟩
            exact ⟨fun other same => Option.some.inj same ▸ free, distinct,
              fun other member => ⟨fun same => once (Option.some.inj same ▸ member),
                later other member⟩⟩

/-- One announcement fits exactly when its slot is free. -/
theorem fits_singleton_iff (announcement : Announcement) :
    comp.Fits [announcement] ↔
      ∀ slot, announcement.slot = some slot → comp.occupied slot = false := by
  unfold Fits
  cases asked : announcement.slot with
  | none => simp [asked]
  | some slot => simp [asked]

/-! ## Outputs that go away -/

/-- The end of an output keeps the wiring. -/
theorem Wired.handleOutputDestroy {comp : Compositor} (wired : comp.Wired) :
    comp.handleOutputDestroy.Wired := by
  refine ⟨fun listener => ?_, wired.cursor⟩
  simp only [Compositor.handleOutputDestroy, listRemove, Links.target_removeAll]
  cases listener <;> simp [outputListeners, emitterOf, wired.target]

/-- The end of one of several outputs keeps the wiring. -/
theorem Wired.outputDestroyed {comp : Compositor} (wired : comp.Wired) (number : Nat) :
    (comp.outputDestroyed number).Wired := by
  unfold Compositor.outputDestroyed
  dsimp only
  split
  · have notified := wired.handleOutputDestroy
    exact ⟨notified.target, (List.mem_erase_of_ne WlObject.noConfusion).mpr notified.cursor⟩
  · exact ⟨wired.target, (List.mem_erase_of_ne WlObject.noConfusion).mpr wired.cursor⟩

/-- The handler runs only while its listeners are linked. -/
theorem faults_outputDestroyed {comp : Compositor} (wired : comp.Wired) (number : Nat) :
    (comp.outputDestroyed number).links.faults = [] ↔ comp.links.faults = [] := by
  unfold outputDestroyed
  dsimp only
  split
  · rename_i notified
    have linked : comp.output = some number := by
      simpa [wired.target, emitterOf] using notified
    refine (Links.faults_removeAll_eq_nil_iff _ (by decide)).trans ?_
    refine and_iff_left fun listener listed => ?_
    rw [wired.target]
    revert listener
    simp [outputListeners, emitterOf, linked]
  · rfl

/-- The end of the display keeps the wiring. -/
theorem Wired.wlDisplayDestroy {comp : Compositor} (wired : comp.Wired) :
    comp.wlDisplayDestroy.Wired := by
  have keep : ∀ {other : Compositor}, other.Wired →
      ({ other with objects := other.objects.filter (· = .cursor) } : Compositor).Wired :=
    fun other => ⟨other.target, List.mem_filter.mpr ⟨other.cursor, by simp⟩⟩
  unfold Compositor.wlDisplayDestroy
  dsimp only
  split
  · exact keep (wired.outputDestroyed _)
  · exact keep wired

/-- The listeners on the cursor outlast the display. -/
theorem Wired.not_detached_wlDisplayDestroy {comp : Compositor} (wired : comp.Wired) :
    ¬ comp.wlDisplayDestroy.Detached := by
  intro detached
  have left := wired.wlDisplayDestroy
  exact detached.unlinked .cursorMotion .cursor (left.target .cursorMotion) left.cursor

/-! ## Creation -/

/-- A new compositor up to where its backend is started. -/
def ready (inserted : Bool) (outcome : CreateOutcome) : Compositor :=
  ((Compositor.calloc inserted).openDisplay.withObject .backend).wire outcome

/-- A compositor that is ready is wired. -/
theorem wired_ready (inserted : Bool) (outcome : CreateOutcome) :
    (ready inserted outcome).Wired := by
  unfold ready wire dlpSecurityContextInit dlpXwaylandInit
  cases outcome.securityContextMgr <;> cases outcome.xwayland <;>
    exact ⟨fun listener => by cases listener <;> rfl, by simp [Compositor.withObject,
      signalAdd, dlpClipboardInit]⟩

/-- A compositor that is ready has made no fault. -/
theorem faults_ready (inserted : Bool) (outcome : CreateOutcome) :
    (ready inserted outcome).links.faults = [] := by
  unfold ready wire dlpSecurityContextInit dlpXwaylandInit
  cases outcome.securityContextMgr <;> cases outcome.xwayland <;> rfl

/-- A compositor that is ready has its slots free. -/
theorem occupied_ready (inserted : Bool) (outcome : CreateOutcome) (slot : ListenerSlot) :
    (ready inserted outcome).occupied slot = false := by
  unfold ready wire dlpSecurityContextInit dlpXwaylandInit
  cases outcome.securityContextMgr <;> cases outcome.xwayland <;> cases slot <;> rfl

/-- A compositor without a display, or without listeners but the one on the display. -/
theorem detached_early (inserted : Bool) :
    (Compositor.calloc inserted).Detached ∧
      (Compositor.calloc inserted).openDisplay.wlDisplayDestroy.Detached ∧
        ((Compositor.calloc inserted).openDisplay.withObject .backend).wlDisplayDestroy.Detached :=
  ⟨⟨rfl, fun _ _ _ => List.not_mem_nil⟩, ⟨rfl, fun _ _ _ => List.not_mem_nil⟩,
    ⟨rfl, fun _ _ _ => List.not_mem_nil⟩⟩

/-- The exits of a creation: before the globals nothing stays linked, after them the
compositor is returned or given up with its listeners. -/
theorem build_cases (inserted : Bool) (outcome : CreateOutcome) :
    (¬ (outcome.display = true ∧ outcome.backend = true ∧ outcome.renderer = true ∧
        outcome.allocator = true) ∧
      ((Compositor.calloc inserted).build outcome).1 = false ∧
        ((Compositor.calloc inserted).build outcome).2.Detached) ∨
    ((outcome.display = true ∧ outcome.backend = true ∧ outcome.renderer = true ∧
        outcome.allocator = true) ∧
      (Compositor.calloc inserted).build outcome =
        if outcome.started = true ∧ outcome.socket = true then
          (true, (ready inserted outcome).announceAll outcome.announced)
        else
          (false, ((ready inserted outcome).announceAll outcome.announced).wlDisplayDestroy)) := by
  obtain ⟨unmade, opened, backed⟩ := detached_early inserted
  unfold build
  by_cases display : outcome.display = true
  · by_cases backend : outcome.backend = true
    · by_cases drawn : outcome.renderer = true ∧ outcome.allocator = true
      · refine .inr ⟨⟨display, backend, drawn⟩, ?_⟩
        simp only [display, backend, drawn.1, drawn.2, not_true_eq_false, and_self, if_false,
          ite_not, ready]
      · refine .inl ⟨fun all => drawn all.2.2, ?_⟩
        simp only [display, backend, not_true_eq_false, if_false, if_pos drawn]
        exact ⟨trivial, backed⟩
    · refine .inl ⟨fun all => backend all.2.1, ?_⟩
      simp only [display, not_true_eq_false, if_false, if_pos backend]
      exact ⟨trivial, opened⟩
  · refine .inl ⟨fun all => display all.1, ?_⟩
    simp only [if_pos display]
    exact ⟨trivial, unmade⟩

/-! ## Destruction -/

/-- What `coder_dlp_destroy` removes, in its order. -/
def removedOnDestroy (output keyboard touch xwayland : Bool) : List Listener :=
  [Listener.newOutput, .newInput, .newXdgToplevel, .newXdgPopup, .requestSetSelection,
    .requestSetPrimarySelection, .securityContextCommit, .clientCreated] ++
  (if output then outputListeners else []) ++ (if keyboard then keyboardListeners else []) ++
  (if touch then touchListeners else []) ++ cursorListeners ++ [Listener.requestSetCursor] ++
  if xwayland then xwaylandListeners else []

/-- No listener is removed twice on destruction. -/
theorem nodup_removedOnDestroy (output keyboard touch xwayland : Bool) :
    (removedOnDestroy output keyboard touch xwayland).Nodup := by
  cases output <;> cases keyboard <;> cases touch <;> cases xwayland <;> decide

@[simp] theorem listRemove_nil : comp.listRemove [] = comp := rfl

/-- Listeners are removed one after the other. -/
theorem listRemove_append (first second : List Listener) :
    comp.listRemove (first ++ second) = (comp.listRemove first).listRemove second := by
  simp [listRemove, Links.removeAll]

/-- A group is removed only where it is present. -/
theorem listRemove_if (comp : Compositor) (present : Bool) (group : List Listener) :
    comp.listRemove (if present then group else []) =
      if present then comp.listRemove group else comp := by
  cases present <;> rfl

/-- The conditional groups depend on fields that removing leaves alone. -/
theorem unlink_eq :
    comp.unlink = comp.listRemove (removedOnDestroy comp.output.isSome comp.keyboard.isSome
      comp.touch.isSome comp.xwayland) := by
  have output (comp group) : (listRemove comp group).output = comp.output := rfl
  have keyboard (comp group) : (listRemove comp group).keyboard = comp.keyboard := rfl
  have touch (comp group) : (listRemove comp group).touch = comp.touch := rfl
  have xwayland (comp group) : (listRemove comp group).xwayland = comp.xwayland := rfl
  simp only [unlink, dlpXwaylandDestroy, ← listRemove_if, output, keyboard, touch, xwayland]
  simp only [removedOnDestroy, listRemove_append]

/-- The last listener is the one that need not have been linked. -/
theorem mem_removedOnDestroy {comp : Compositor} (listener : Listener) :
    listener ∈ removedOnDestroy comp.output.isSome comp.keyboard.isSome comp.touch.isSome
        comp.xwayland ↔
      (comp.emitterOf listener).isSome = true ∨ listener = .securityContextCommit := by
  simp only [removedOnDestroy, List.mem_append, List.mem_ite_nil_right]
  cases listener <;>
    simp [emitterOf, outputListeners, keyboardListeners, touchListeners, cursorListeners,
      xwaylandListeners]

/-- Destruction leaves nothing linked, but a security context manager that was not made
is a fault. -/
theorem Wired.detached_unlink_iff {comp : Compositor} (wired : comp.Wired)
    (faultless : comp.links.faults = []) :
    comp.unlink.Detached ↔ comp.securityContextMgr = true := by
  have faults : comp.unlink.links.faults = [] ↔ comp.securityContextMgr = true := by
    have distinct := nodup_removedOnDestroy comp.output.isSome comp.keyboard.isSome
      comp.touch.isSome comp.xwayland
    rw [unlink_eq, listRemove, Links.faults_removeAll_eq_nil_iff _ distinct]
    simp only [faultless, true_and, mem_removedOnDestroy, wired.target]
    constructor
    · intro linked
      simpa [emitterOf] using linked .securityContextCommit (.inr rfl)
    · rintro made listener (linked | rfl)
      · exact linked
      · simp [emitterOf, made]
  refine ⟨fun detached => faults.mp detached.faultless, fun made => ⟨faults.mpr made, ?_⟩⟩
  intro listener object linked
  rw [unlink_eq] at linked
  simp only [listRemove, Links.target_removeAll, mem_removedOnDestroy, wired.target] at linked
  split at linked
  · cases linked
  · rename_i kept
    exact absurd (.inl (Option.isSome_iff_exists.mpr ⟨object, linked⟩)) kept

end Compositor

/-! ## Runs -/

namespace CompositorWorld

variable {world after : CompositorWorld}

/-- What holds of every compositor in memory holds after one is stored if it has it. -/
theorem forall_store_iff {holds : Compositor → Prop} {address : Nat} {comp : Compositor}
    (before : ∀ address comp, world.memory address = some comp → holds comp) :
    (∀ sought other, world.store address (some comp) sought = some other → holds other) ↔
      holds comp := by
  constructor
  · intro every
    exact every address comp (by simp [store])
  · intro stored sought other found
    by_cases same : sought = address
    · subst same
      obtain rfl : comp = other := by simpa [store] using found
      exact stored
    · exact before sought other (by simpa [store, same] using found)

/-- What holds of all compositors holds of those left after one goes. -/
theorem forall_store_none {holds : Compositor → Prop} {address : Nat}
    (before : ∀ address comp, world.memory address = some comp → holds comp) :
    ∀ sought other, world.store address none sought = some other → holds other := by
  intro sought other found
  by_cases same : sought = address
  · subst same
    simp [store] at found
  · exact before sought other (by simpa [store, same] using found)

/-- Also after a fault, listeners are linked where the fields say. -/
def AllWired (world : CompositorWorld) : Prop :=
  ∀ address comp, world.memory address = some comp → comp.Wired

/-- A stored compositor keeps the discipline exactly when it has no faults. -/
theorem Disciplined.of_stored (held : world.Disciplined) {address : Nat} {comp : Compositor}
    (active : ActiveCompositors) :
    Disciplined ⟨active, world.store address (some comp), world.freed⟩ ↔
      comp.links.faults = [] := by
  have stored : (∀ sought other, world.store address (some comp) sought = some other →
      other.links.faults = []) ↔ comp.links.faults = [] := forall_store_iff held.live
  rw [← stored]
  exact ⟨fun after => after.live, fun live => ⟨live, held.freed⟩⟩

/-- A freed one does exactly when it is detached. -/
theorem Disciplined.of_freed (held : world.Disciplined)
    {memory : Nat → Option Compositor} {comp : Compositor} (active : ActiveCompositors)
    (live : ∀ address comp, memory address = some comp → comp.links.faults = []) :
    Disciplined ⟨active, memory, world.freed ++ [comp]⟩ ↔ comp.Detached := by
  constructor
  · exact fun after => after.freed comp (by simp)
  · intro detached
    refine ⟨live, fun other member => ?_⟩
    rcases List.mem_append.mp member with earlier | last
    · exact held.freed other earlier
    · exact List.mem_singleton.mp last ▸ detached

/-- Every step keeps the compositors wired. -/
theorem AllWired.step (wired : world.AllWired) {event : CompositorEvent}
    (taken : world.next event = some after) : after.AllWired := by
  cases event with
  | create outcome =>
      cases calloc : outcome.calloc with
      | none =>
          obtain rfl : world = after := by simpa [next, calloc] using taken
          exact wired
      | some address =>
          simp only [next, calloc, Option.ite_none_right_eq_some] at taken
          obtain ⟨-, created⟩ := taken
          obtain rfl := Option.some.inj created
          unfold coderDlpCreate
          dsimp only
          rcases Compositor.build_cases (world.active.add address outcome.realloc).2 outcome with
            ⟨-, failed, -⟩ | ⟨-, built⟩
          · rw [if_neg (by simp [failed])]
            exact wired
          · rw [built]
            split
            · exact (forall_store_iff wired).mpr ((Compositor.wired_ready _ _).announceAll _)
            · exact wired
  | destroy address =>
      obtain ⟨comp, -, rfl⟩ := Option.map_eq_some_iff.mp taken
      exact forall_store_none wired
  | setLogCallback address =>
      obtain ⟨comp, found, rfl⟩ := Option.map_eq_some_iff.mp taken
      exact (forall_store_iff wired).mpr ⟨(wired address comp found).target,
        (wired address comp found).cursor⟩
  | announced address announcement =>
      obtain ⟨comp, found, rfl⟩ := Option.map_eq_some_iff.mp taken
      exact (forall_store_iff wired).mpr ((wired address comp found).announce announcement)
  | outputDestroyed address number =>
      obtain ⟨comp, found, taken⟩ := Option.bind_eq_some_iff.mp taken
      obtain ⟨-, rfl⟩ := of_guarded taken
      exact (forall_store_iff wired).mpr ((wired address comp found).outputDestroyed number)

/-- What decides whether a creation keeps the discipline. -/
theorem create_disciplined_iff (held : world.Disciplined) (address : Nat)
    (outcome : CreateOutcome) :
    (world.coderDlpCreate address outcome).Disciplined ↔
      (outcome.display = true → outcome.backend = true → outcome.renderer = true →
        outcome.allocator = true → outcome.started = true ∧ outcome.socket = true ∧
          (outcome.announced.filterMap Announcement.slot).Nodup) := by
  unfold coderDlpCreate
  dsimp only
  generalize world.active.add address outcome.realloc = added
  rcases Compositor.build_cases added.2 outcome with ⟨early, failed, detached⟩ | ⟨late, built⟩
  · refine iff_of_true ?_ fun display backend renderer allocator =>
      absurd ⟨display, backend, renderer, allocator⟩ early
    simp only [failed, Bool.false_eq_true, if_false]
    exact (held.of_freed _ held.live).mpr detached
  · have wired := Compositor.wired_ready added.2 outcome
    obtain ⟨display, backend, renderer, allocator⟩ := late
    simp only [display, backend, renderer, allocator, forall_const, ← and_assoc]
    rw [built]
    by_cases succeeds : outcome.started = true ∧ outcome.socket = true
    · simp only [if_pos succeeds, if_true, and_iff_right succeeds]
      refine (held.of_stored _).trans ?_
      rw [Compositor.faults_announceAll_eq_nil_iff wired]
      unfold Compositor.Fits
      simp [Compositor.faults_ready, Compositor.occupied_ready]
    · refine iff_of_false (fun disciplined => ?_) fun both => succeeds both.1
      simp only [if_neg succeeds, Bool.false_eq_true, if_false] at disciplined
      exact (wired.announceAll _).not_detached_wlDisplayDestroy
        ((held.of_freed _ held.live).mp disciplined)

/-- A step keeps the discipline exactly when it is orderly. -/
theorem disciplined_step_iff (wired : world.AllWired) (held : world.Disciplined)
    {event : CompositorEvent} (taken : world.next event = some after) :
    after.Disciplined ↔ world.Orderly event := by
  cases event with
  | create outcome =>
      cases calloc : outcome.calloc with
      | none =>
          obtain rfl : world = after := by simpa [next, calloc] using taken
          exact iff_of_true held (by simp [Orderly, calloc])
      | some address =>
          simp only [next, calloc, Option.ite_none_right_eq_some] at taken
          obtain ⟨-, created⟩ := taken
          obtain rfl := Option.some.inj created
          simp only [Orderly, calloc, Option.isSome_some, forall_const]
          exact create_disciplined_iff held address outcome
  | destroy address =>
      obtain ⟨comp, found, rfl⟩ := Option.map_eq_some_iff.mp taken
      refine (held.of_freed _ (forall_store_none held.live)).trans ?_
      rw [(wired address comp found).detached_unlink_iff (held.live address comp found)]
      simp [Orderly, found]
  | setLogCallback address =>
      obtain ⟨comp, found, rfl⟩ := Option.map_eq_some_iff.mp taken
      exact iff_of_true ((held.of_stored _).mpr (held.live address comp found)) trivial
  | announced address announcement =>
      obtain ⟨comp, found, rfl⟩ := Option.map_eq_some_iff.mp taken
      refine (held.of_stored _).trans ?_
      rw [Compositor.faults_announce_eq_nil_iff (wired address comp found),
        and_iff_right (held.live address comp found), ← Compositor.fits_singleton_iff]
      simp [Orderly, found]
  | outputDestroyed address number =>
      obtain ⟨comp, found, taken⟩ := Option.bind_eq_some_iff.mp taken
      obtain ⟨-, rfl⟩ := of_guarded taken
      refine iff_of_true ((held.of_stored _).mpr ?_) trivial
      exact (Compositor.faults_outputDestroyed (wired address comp found) number).mpr
        (held.live address comp found)

/-- There is no compositor at first. -/
theorem disciplined_new : new.Disciplined where
  live _ _ found := by cases found
  freed _ member := by cases member

/-- Without compositors all are wired. -/
theorem allWired_new : new.AllWired := by
  intro address comp found
  cases found

/-- In every run the listeners are added and removed as they should, and nothing keeps
one of a freed compositor, exactly when the run is orderly. -/
theorem disciplined_iff_orderly (events : List CompositorEvent) :
    (∀ world, Visits next new events world → world.Disciplined) ↔
      Conforms next Orderly new events :=
  visits_iff_conforms AllWired Disciplined (fun _ _ _ wired taken => wired.step taken)
    (fun _ _ _ wired held => disciplined_step_iff wired held) allWired_new
    disciplined_new events

/-- Everything is made, with the security context manager or without. -/
def madeWith (securityContextMgr : Bool) : CreateOutcome :=
  ⟨some 0x1000, true, true, true, true, true, securityContextMgr, true,
    [.newOutput, .newInput (.keyboard true)], true, true⟩

/-- The commit listener is removed though it never was linked. -/
theorem destroy_without_securityContextMgr_faults :
    ¬ ∀ world, Visits next new [.create (madeWith false), .destroy 0x1000] world →
      world.Disciplined := by
  refine not_visits_of_replay (fun world => world.freed.any fun comp =>
    comp.links.faults = [.removedUnlinked .securityContextCommit]) (by decide) ?_
  intro world reached disciplined
  obtain ⟨comp, member, fault⟩ := List.any_eq_true.mp reached
  have faultless := (disciplined.freed comp member).faultless
  simp [faultless] at fault

end CompositorWorld

end CoderDesktop.Dlp
