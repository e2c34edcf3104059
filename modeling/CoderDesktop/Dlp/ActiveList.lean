import CoderDesktop.Dlp.CompositorLifecycle
import CoderDesktop.Semantics.Run

/-!
# The list of active compositors

A compositor enters the process-wide list before anything else is made, and each way
out has to take it off again. Without a display `coder_dlp_create` frees it in the
list, where the next log message finds it.
-/

namespace CoderDesktop.Dlp

open Collections Semantics

namespace CompositorWorld

/-- The list has the live compositors that were inserted, each once, and a log message
meets no other. -/
structure ListsLive (world : CompositorWorld) : Prop where
  once : world.active.entries.Nodup
  live : ∀ address, address ∈ world.active.entries ↔
    ∃ comp, world.memory address = some comp ∧ comp.inserted = true
  logs : ∃ receiver, customWlrLog world.memory world.active.entries = .ok receiver

/-- A compositor that is inserted gets its display. -/
def DisplaysInserted (world : CompositorWorld) : CompositorEvent → Prop
  | .create outcome =>
      outcome.calloc.isSome = true → world.active.canAdd outcome.realloc = true →
        outcome.display = true
  | .destroy _ | .setLogCallback _ | .announced _ _ | .outputDestroyed _ _ => True

end CompositorWorld

/-! ## Insertion is remembered -/

namespace Compositor

variable (comp : Compositor)

@[simp] theorem inserted_signalAdd (object : WlObject) (listeners : List Listener) :
    (comp.signalAdd object listeners).inserted = comp.inserted := rfl

@[simp] theorem inserted_listRemove (listeners : List Listener) :
    (comp.listRemove listeners).inserted = comp.inserted := rfl

@[simp] theorem inserted_withObject (object : WlObject) :
    (comp.withObject object).inserted = comp.inserted := rfl

@[simp] theorem inserted_announce (announcement : Announcement) :
    (comp.announce announcement).inserted = comp.inserted := by
  cases announcement with
  | newOutput => rfl
  | newInput device =>
      cases device with
      | keyboard keymap => cases keymap <;> rfl
      | pointer | touch | other => rfl

@[simp] theorem inserted_announceAll (announced : List Announcement) :
    (comp.announceAll announced).inserted = comp.inserted := by
  induction announced generalizing comp with
  | nil => rfl
  | cons announcement rest inductionHypothesis =>
      exact (inductionHypothesis _).trans (comp.inserted_announce announcement)

@[simp] theorem inserted_outputDestroyed (number : Nat) :
    (comp.outputDestroyed number).inserted = comp.inserted := by
  unfold outputDestroyed
  dsimp only
  split <;> rfl

@[simp] theorem inserted_wire (outcome : CreateOutcome) :
    (comp.wire outcome).inserted = comp.inserted := by
  cases context : outcome.securityContextMgr <;> cases xwayland : outcome.xwayland <;>
    simp [wire, dlpClipboardInit, dlpSecurityContextInit, dlpXwaylandInit, context, xwayland]

/-- A compositor that is returned was given all it needs. -/
theorem build_of_returned {outcome : CreateOutcome} (returned : (comp.build outcome).1 = true) :
    outcome.display = true ∧ (comp.build outcome).2.inserted = comp.inserted := by
  unfold build at returned ⊢
  split at returned
  · cases returned
  split at returned
  · cases returned
  split at returned
  · cases returned
  split at returned
  · cases returned
  · rename_i display backend renderer started
    simp only [if_neg display, if_neg backend, if_neg renderer, if_neg started]
    refine ⟨Decidable.not_not.mp display, ?_⟩
    simp [openDisplay]

end Compositor

namespace ActiveCompositors

variable (active : ActiveCompositors) (address : Nat) (realloc : Bool)

/-- A compositor is listed when its insertion succeeds. -/
theorem entries_add : (active.add address realloc).1.entries =
    if (active.add address realloc).2 then active.entries ++ [address] else active.entries := by
  unfold add
  split <;> rfl

/-- The insertion fails exactly when the array cannot grow. -/
theorem returned_add : (active.add address realloc).2 = active.canAdd realloc := by
  unfold add
  split
  · rename_i fits
    exact fits.symm
  · rename_i full
    exact (Bool.eq_false_iff.mpr full).symm

end ActiveCompositors

namespace CompositorWorld

variable {world after : CompositorWorld}

/-- A log message is delivered, or printed, when every entry is in memory. -/
theorem customWlrLog_ok {memory : Nat → Option Compositor} {entries : List Nat}
    (live : ∀ address ∈ entries, ∃ comp, memory address = some comp) :
    ∃ receiver, customWlrLog memory entries = .ok receiver := by
  induction entries with
  | nil => exact ⟨none, rfl⟩
  | cons address rest inductionHypothesis =>
      obtain ⟨⟨comp, found⟩, live⟩ := List.forall_mem_cons.mp live
      rw [customWlrLog, found]
      by_cases callback : comp.logCallback = true
      · exact ⟨some address, if_pos callback⟩
      · simp only [if_neg callback]
        exact inductionHypothesis live

/-- A list without repetition whose members are the live, inserted compositors is right. -/
theorem ListsLive.of_live {world : CompositorWorld} (once : world.active.entries.Nodup)
    (live : ∀ address, address ∈ world.active.entries ↔
      ∃ comp, world.memory address = some comp ∧ comp.inserted = true) : world.ListsLive :=
  ⟨once, live, customWlrLog_ok fun address member =>
    ((live address).mp member).imp fun _ found => found.1⟩

/-- Nothing is listed at first. -/
theorem listsLive_new : new.ListsLive :=
  .of_live List.nodup_nil fun _ => iff_of_false nofun nofun

/-- A step that leaves the list and what it says about each address. -/
theorem ListsLive.of_same (lists : world.ListsLive) {address : Nat} {comp other : Compositor}
    (found : world.memory address = some comp) (inserted : other.inserted = comp.inserted)
    (freed : List Compositor) :
    ListsLive ⟨world.active, world.store address (some other), freed⟩ := by
  refine .of_live lists.once fun sought => (lists.live sought).trans ?_
  by_cases same : sought = address
  · subst same
    simp [store, found, inserted]
  · simp [store, Function.update_of_ne same]

/-- An address without a compositor is not listed. -/
theorem ListsLive.notMem (lists : world.ListsLive) {address : Nat}
    (unused : world.memory address = none) : address ∉ world.active.entries := by
  intro member
  obtain ⟨comp, found, -⟩ := (lists.live address).mp member
  rw [unused] at found
  cases found

/-- Destroying a compositor takes it off the list. -/
theorem ListsLive.destroyed (lists : world.ListsLive) (address : Nat) (comp : Compositor) :
    (world.coderDlpDestroy address comp).ListsLive := by
  refine .of_live (nodup_swapRemove address lists.once) fun sought => ?_
  refine (mem_swapRemove_iff lists.once).trans ?_
  by_cases same : sought = address
  · subst same
    simp [coderDlpDestroy, store]
  · simp [coderDlpDestroy, store, same, lists.live sought]

/-- A new compositor is stored, and is in the list if it was inserted. -/
theorem ListsLive.stored (lists : world.ListsLive) {address : Nat}
    (unused : world.memory address = none) (comp : Compositor) {entries : List Nat}
    (added : entries =
      if comp.inserted then world.active.entries ++ [address] else world.active.entries)
    (capacity : Nat) :
    ListsLive ⟨⟨entries, capacity⟩, world.store address (some comp), world.freed⟩ := by
  have fresh := lists.notMem unused
  have others : ∀ sought, sought ≠ address →
      (sought ∈ entries ↔ sought ∈ world.active.entries) := by
    intro sought apart
    rw [added]
    split
    · simp [apart]
    · rfl
  refine .of_live ?_ fun sought => ?_
  · show entries.Nodup
    rw [added]
    split
    · exact List.nodup_append.mpr ⟨lists.once, by simp, fun entry member other isNew same =>
        fresh (List.mem_singleton.mp isNew ▸ same ▸ member)⟩
    · exact lists.once
  · show sought ∈ entries ↔ ∃ other, world.store address (some comp) sought = some other ∧ _
    by_cases same : sought = address
    · subst same
      rw [added, store, Function.update_self]
      cases inserted : comp.inserted with
      | true => simp [inserted]
      | false => simp [inserted, fresh]
    · rw [others sought same, lists.live, store, Function.update_of_ne same]

/-- A compositor that could not be made is taken off the list before it is freed. -/
theorem ListsLive.discarded (lists : world.ListsLive) {address : Nat}
    (unused : world.memory address = none) {active : ActiveCompositors}
    (entries : active.entries = world.active.entries ∨
      active.entries = world.active.entries ++ [address]) (freed : List Compositor) :
    ListsLive ⟨active.remove address, world.memory, freed⟩ := by
  have fresh := lists.notMem unused
  have once : active.entries.Nodup := by
    rcases entries with same | appended
    · exact same ▸ lists.once
    · rw [appended]
      exact List.nodup_append.mpr ⟨lists.once, by simp, fun entry member other isNew same =>
        fresh (List.mem_singleton.mp isNew ▸ same ▸ member)⟩
  refine .of_live (nodup_swapRemove address once) fun sought => ?_
  refine (mem_swapRemove_iff once).trans (Iff.trans ?_ (lists.live sought))
  by_cases same : sought = address
  · simp [same, fresh]
  · rcases entries with unchanged | appended
    · simp [same, unchanged]
    · simp [same, appended]

/-- What decides whether a creation leaves the list exact. -/
theorem create_listsLive_iff (lists : world.ListsLive) {address : Nat}
    (unused : world.memory address = none) (outcome : CreateOutcome) :
    (world.coderDlpCreate address outcome).ListsLive ↔
      (world.active.canAdd outcome.realloc = true → outcome.display = true) := by
  have entries := world.active.entries_add address outcome.realloc
  have added := world.active.returned_add address outcome.realloc
  unfold coderDlpCreate
  generalize world.active.add address outcome.realloc = result at entries added ⊢
  cases returned : ((Compositor.calloc result.2).build outcome).1 with
  | true =>
      obtain ⟨display, inserted⟩ := Compositor.build_of_returned _ returned
      refine iff_of_true ?_ fun _ => display
      simp only [returned, if_true]
      refine lists.stored unused _ ?_ _
      rw [inserted]
      exact entries
  | false =>
      simp only [returned, Bool.false_eq_true, if_false]
      cases display : outcome.display with
      | true =>
          refine iff_of_true ?_ fun _ => rfl
          refine lists.discarded unused ?_ _
          rw [entries]
          split
          · exact .inr rfl
          · exact .inl rfl
      | false =>
          simp only [Bool.false_eq_true, if_false]
          rw [← added]
          cases inserted : result.2 with
          | false =>
              have same : result.1.entries = world.active.entries := by
                rw [entries, inserted, if_neg nofun]
              refine iff_of_true ?_ nofun
              refine .of_live (same ▸ lists.once) fun sought => ?_
              show sought ∈ result.1.entries ↔ _
              rw [same]
              exact lists.live sought
          | true =>
              -- it was freed and is still listed
              refine iff_of_false (fun after => ?_) (by simp)
              rw [inserted] at entries
              have listed : address ∈ result.1.entries := by simp [entries]
              obtain ⟨comp, found, -⟩ := (after.live address).mp listed
              exact absurd (unused.symm.trans found) nofun

/-- A step keeps the list right exactly when a compositor it inserts gets its display. -/
theorem listsLive_step_iff {event : CompositorEvent} (lists : world.ListsLive)
    (taken : world.next event = some after) :
    after.ListsLive ↔ world.DisplaysInserted event := by
  cases event with
  | create outcome =>
      cases calloc : outcome.calloc with
      | none =>
          obtain rfl : world = after := by simpa [next, calloc] using taken
          exact iff_of_true lists (by simp [DisplaysInserted, calloc])
      | some address =>
          simp only [next, calloc, Option.ite_none_right_eq_some, Option.isNone_iff_eq_none]
            at taken
          obtain ⟨unused, created⟩ := taken
          obtain rfl := Option.some.inj created
          simp [DisplaysInserted, calloc, create_listsLive_iff lists unused]
  | destroy address =>
      obtain ⟨comp, -, rfl⟩ := Option.map_eq_some_iff.mp taken
      exact iff_of_true (lists.destroyed address comp) trivial
  | setLogCallback address =>
      obtain ⟨comp, found, rfl⟩ := Option.map_eq_some_iff.mp taken
      exact iff_of_true (lists.of_same found (by rfl) _) trivial
  | announced address announcement =>
      obtain ⟨comp, found, rfl⟩ := Option.map_eq_some_iff.mp taken
      exact iff_of_true (lists.of_same found (comp.inserted_announce announcement) _) trivial
  | outputDestroyed address number =>
      obtain ⟨comp, found, taken⟩ := Option.bind_eq_some_iff.mp taken
      obtain ⟨-, rfl⟩ := of_guarded taken
      exact iff_of_true (lists.of_same found (comp.inserted_outputDestroyed number) _) trivial

/-- In every run, the list has exactly the live compositors that were inserted, and no
log message meets a freed one, exactly when each compositor inserted gets its display. -/
theorem listsLive_iff_displaysInserted (events : List CompositorEvent) :
    (∀ world, Visits next new events world → world.ListsLive) ↔
      Conforms next DisplaysInserted new events :=
  visits_iff_conforms (fun _ => True) ListsLive (fun _ _ _ _ _ => trivial)
    (fun _ _ _ _ => listsLive_step_iff) trivial listsLive_new events

/-- Nothing but the memory for a compositor is to be had. -/
def noDisplay : CreateOutcome :=
  ⟨some 0x1000, true, false, true, true, true, true, true, [], true, true⟩

/-- The compositor is freed, and the next log message is looked up in it. -/
theorem freed_compositor_stays_listed :
    ¬ ∀ world, Visits next new [.create noDisplay] world → world.ListsLive := by
  refine not_visits_of_replay (fun world => world.active.entries = [0x1000] ∧
    (world.memory 0x1000).isNone) (by decide) ?_
  intro world reached lists
  obtain ⟨listed, freed⟩ := of_decide_eq_true reached
  obtain ⟨comp, found, -⟩ := (lists.live 0x1000).mp (listed ▸ List.mem_singleton.mpr rfl)
  rw [found] at freed
  cases freed

end CompositorWorld

end CoderDesktop.Dlp
