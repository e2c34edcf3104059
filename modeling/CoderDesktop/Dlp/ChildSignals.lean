import CoderDesktop.Dlp.CompositorManager
import CoderDesktop.Semantics.Children
import CoderDesktop.Semantics.Run

/-!
# Which processes are signalled

An entry of the manager outlives its process while clients of its compositor remain. The
entry knows that the process was reaped, but `stopApp` and `stopAll` do not ask it, and
by then the kernel may have handed the pid out again.
-/

namespace CoderDesktop.Dlp

open Semantics

/-- The manager and the children of its process. -/
structure ChildWorld where
  manager : DlpCompositorManager
  children : Children
  /-- History: the pids sent SIGTERM, and whether the child had not been reaped. -/
  signalled : List (Int × Bool)

/-- What the manager does, and the ends of its children. -/
inductive ChildEvent where
  | launchApp (request : LaunchRequest) (outcome : LaunchOutcome)
  | stopApp (pid : Int)
  | stopAll
  | childExits (pid : Int)
  /-- `clients`: the clients each compositor has then, by the index of the entry. -/
  | checkChildProcesses (clients : Nat → Nat)

namespace ChildWorld

/-- No child was forked. -/
def new : ChildWorld := ⟨.new, .none, []⟩

variable (world : ChildWorld)

/-- The step of a call that sent SIGTERM to some pids. -/
def killed (result : DlpCompositorManager × List Int) : ChildWorld :=
  { world with
    manager := result.1
    signalled := world.signalled ++ result.2.map fun pid => (pid, world.children.unreaped pid) }

/-- One round of the loop, with what `waitpid` returns in it. -/
def checkChild (index clients : Nat) : ChildWorld :=
  match world.manager.apps[index]? with
  | none => world
  | some app =>
      let waited := world.children.waitpid app.pid
      { world with
        manager := world.manager.checkChild index waited.2 clients
        children := waited.1 }

/-- The loop of the check, from the last entry to the first. -/
def checkFrom (clients : Nat → Nat) : Nat → ChildWorld → ChildWorld
  | 0, world => world
  | index + 1, world => checkFrom clients index (world.checkChild index (clients index))

/-- The indices are visited from the last to the first. -/
def checkChildProcesses (clients : Nat → Nat) : ChildWorld :=
  checkFrom clients world.manager.apps.length world

/-- The kernel hands out a pid that no child has that was not reaped. -/
def next : ChildEvent → Option ChildWorld
  | .launchApp request outcome =>
      let launched := (world.manager.launchApp request outcome).1
      if outcome.succeeds then
        if 0 < outcome.pid ∧ world.children.unreaped outcome.pid = false then
          some { world with manager := launched, children := world.children.fork outcome.pid }
        else none
      else some { world with manager := launched }
  | .stopApp pid => some (world.killed (world.manager.stopApp pid))
  | .stopAll => some (world.killed world.manager.stopAll)
  | .childExits pid =>
      (world.children.exits pid).map fun children => { world with children := children }
  | .checkChildProcesses clients => some (world.checkChildProcesses clients)

/-- Only children that have not been reaped were signalled. -/
def SignalsChildren (world : ChildWorld) : Prop := ∀ signal ∈ world.signalled, signal.2 = true

/-- Some entry of the pid does not know its process to have exited. -/
def Waiting (apps : List RunningApp) (pid : Int) : Prop :=
  ∃ app ∈ apps, app.pid = pid ∧ app.bwrapExited = false

/-- An application that is stopped has an entry whose process was not reaped. -/
def StopsWaiting (world : ChildWorld) : ChildEvent → Prop
  | .stopApp pid =>
      (∃ app ∈ world.manager.apps, app.pid = pid) → Waiting world.manager.apps pid
  | .stopAll => ∀ app ∈ world.manager.apps, Waiting world.manager.apps app.pid
  | .launchApp _ _ | .childExits _ | .checkChildProcesses _ => True

end ChildWorld

/-! ## What the entries know -/

/-- The entries agree with the kernel. -/
structure Tracked (apps : List RunningApp) (children : Children) : Prop where
  positive : ∀ app ∈ apps, 0 < app.pid
  unreaped : ∀ app ∈ apps, app.bwrapExited = false → children.unreaped app.pid = true
  /-- Of the entries with one pid only the last can wait for it. -/
  last : apps.Pairwise fun earlier later =>
    earlier.pid = later.pid → earlier.bwrapExited = true
  waited : ∀ app ∈ apps, children.unreaped app.pid = true → ChildWorld.Waiting apps app.pid

namespace Tracked

variable {apps earlier later : List RunningApp} {app : RunningApp} {children : Children}

/-- No app, no child. -/
theorem nil (children : Children) : Tracked [] children := by
  constructor <;> simp

/-- A listed pid is unreaped exactly when its app waits. -/
theorem unreaped_iff (tracked : Tracked apps children) {pid : Int}
    (listed : ∃ app ∈ apps, app.pid = pid) :
    children.unreaped pid = true ↔ ChildWorld.Waiting apps pid := by
  obtain ⟨app, member, rfl⟩ := listed
  refine ⟨tracked.waited app member, ?_⟩
  rintro ⟨other, member, same, waits⟩
  exact same ▸ tracked.unreaped other member waits

/-- An entry that was reaped, or that is the only one with its pid, can be removed. -/
theorem remove (tracked : Tracked (earlier ++ app :: later) children)
    (done : app.bwrapExited = true ∨ ∀ other ∈ earlier ++ later, other.pid ≠ app.pid) :
    Tracked (earlier ++ later) children := by
  have fewer : (earlier ++ later).Sublist (earlier ++ app :: later) :=
    List.Sublist.append_left (List.sublist_cons_self app later) earlier
  refine ⟨fun other member => tracked.positive other (fewer.subset member),
    fun other member => tracked.unreaped other (fewer.subset member),
    tracked.last.sublist fewer, fun other member unreaped => ?_⟩
  obtain ⟨waiting, listed, same, waits⟩ := tracked.waited other (fewer.subset member) unreaped
  have apart : waiting ≠ app := by
    rintro rfl
    rcases done with exited | only
    · exact absurd (waits.symm.trans exited) nofun
    · exact only other member same.symm
  refine ⟨waiting, ?_, same, waits⟩
  rcases List.mem_append.mp listed with before | after
  · exact List.mem_append_left _ before
  · exact List.mem_append_right _ ((List.mem_cons.mp after).resolve_left apart)

/-- The entry of a zombie reaps it, when no later entry could have. -/
theorem reap (tracked : Tracked (earlier ++ app :: later) children)
    (swept : ∀ other ∈ later, children.state other.pid ≠ some .zombie)
    (zombie : children.state app.pid = some .zombie) :
    Tracked (earlier ++ { app with bwrapExited := true } :: later)
      ⟨Function.update children.state app.pid none⟩ := by
  obtain ⟨first, rest, between⟩ := List.pairwise_append.mp tracked.last
  obtain ⟨next, rest⟩ := List.pairwise_cons.mp rest
  have gone : (⟨Function.update children.state app.pid none⟩ : Children).unreaped app.pid =
      false := by
    simp [Children.unreaped]
  have others : ∀ pid, pid ≠ app.pid →
      (⟨Function.update children.state app.pid none⟩ : Children).unreaped pid =
        children.unreaped pid := by
    intro pid apart
    simp [Children.unreaped, apart]
  have old : ∀ other ∈ earlier ++ { app with bwrapExited := true } :: later,
      other.pid ≠ app.pid → other ∈ earlier ++ app :: later := by
    intro other member apart
    rcases List.mem_append.mp member with before | after
    · exact List.mem_append_left _ before
    · rcases List.mem_cons.mp after with rfl | after
      · exact absurd rfl apart
      · exact List.mem_append_right _ (List.mem_cons_of_mem _ after)
  refine ⟨fun other member => ?_, fun other member waits => ?_, ?_,
    fun other member unreaped => ?_⟩
  · by_cases same : other.pid = app.pid
    · rw [same]
      exact tracked.positive app (by simp)
    · exact tracked.positive other (old other member same)
  · have apart : other.pid ≠ app.pid := by
      intro same
      rcases List.mem_append.mp member with before | after
      · have exited := between other before app List.mem_cons_self same
        exact absurd (waits.symm.trans exited) Bool.false_ne_true
      · rcases List.mem_cons.mp after with rfl | after
        · cases waits
        · exact swept other after (same ▸ zombie)
    rw [others _ apart]
    exact tracked.unreaped other (old other member apart) waits
  · refine List.pairwise_append.mpr ⟨first, List.pairwise_cons.mpr ⟨fun _ _ _ => rfl, rest⟩, ?_⟩
    intro before member after listed same
    rcases List.mem_cons.mp listed with rfl | listed
    · exact between before member app List.mem_cons_self same
    · exact between before member after (List.mem_cons_of_mem _ listed) same
  · have apart : other.pid ≠ app.pid := by
      intro same
      rw [same, gone] at unreaped
      cases unreaped
    rw [others _ apart] at unreaped
    obtain ⟨waiting, listed, same, waits⟩ :=
      tracked.waited other (old other member apart) unreaped
    refine ⟨waiting, ?_, same, waits⟩
    rcases List.mem_append.mp listed with before | after
    · exact List.mem_append_left _ before
    · rcases List.mem_cons.mp after with rfl | after
      · exact absurd same.symm apart
      · exact List.mem_append_right _ (List.mem_cons_of_mem _ after)

end Tracked

/-! ## Steps -/

namespace ChildWorld

variable {world after : ChildWorld}

/-- A list around an index. -/
theorem split_at {apps : List RunningApp} {index : Nat} {app : RunningApp}
    (found : apps[index]? = some app) :
    apps = apps.take index ++ app :: apps.drop (index + 1) := by
  obtain ⟨within, rfl⟩ := List.getElem?_eq_some_iff.mp found
  rw [← List.drop_eq_getElem_cons within, List.take_append_drop]

/-- A round of the loop polls one entry, and removes it if it is done. -/
theorem apps_checkChild {manager : DlpCompositorManager} {index : Nat} {app : RunningApp}
    (found : manager.apps[index]? = some app) (exited : Bool) (clients : Nat) :
    (manager.checkChild index exited clients).apps =
      manager.apps.take index ++
        (if (app.bwrapExited || exited) = true ∧ clients = 0 then manager.apps.drop (index + 1)
        else { app with bwrapExited := app.bwrapExited || exited } ::
          manager.apps.drop (index + 1)) := by
  obtain ⟨within, -⟩ := List.getElem?_eq_some_iff.mp found
  have polled : manager.apps.set index { app with bwrapExited := app.bwrapExited || exited } =
      manager.apps.take index ++ { app with bwrapExited := app.bwrapExited || exited } ::
        manager.apps.drop (index + 1) := List.set_eq_take_append_cons_drop.trans (if_pos within)
  have length : (manager.apps.take index).length = index := List.length_take_of_le within.le
  unfold DlpCompositorManager.checkChild
  simp only [found]
  split
  · unfold DlpCompositorManager.removeApp
    simp only [polled]
    rw [List.getElem?_append_right length.le, length, Nat.sub_self]
    simp only [List.getElem?_cons_zero]
    rw [List.eraseIdx_append_of_length_le length.le, length, Nat.sub_self]
    rfl
  · exact polled

/-- After a round, no entry from its index on waits for a zombie. -/
theorem tracked_checkChild {index : Nat} (clients : Nat)
    (tracked : Tracked world.manager.apps world.children)
    (swept : ∀ app ∈ world.manager.apps.drop (index + 1),
      world.children.state app.pid ≠ some .zombie) :
    Tracked (world.checkChild index clients).manager.apps
        (world.checkChild index clients).children ∧
      ∀ app ∈ (world.checkChild index clients).manager.apps.drop index,
        (world.checkChild index clients).children.state app.pid ≠ some .zombie := by
  unfold ChildWorld.checkChild
  cases found : world.manager.apps[index]? with
  | none =>
      refine ⟨tracked, fun app member => ?_⟩
      have beyond := List.getElem?_eq_none_iff.mp found
      rw [List.drop_eq_nil_of_le beyond] at member
      cases member
  | some app =>
      obtain ⟨within, -⟩ := List.getElem?_eq_some_iff.mp found
      have length : (world.manager.apps.take index).length = index :=
        List.length_take_of_le within.le
      rw [split_at found] at tracked
      dsimp only
      rw [apps_checkChild found]
      -- the entry is polled first, and removed from the list of the polled entries
      have polled : Tracked (world.manager.apps.take index ++
            { app with bwrapExited := app.bwrapExited || (world.children.waitpid app.pid).2 } ::
              world.manager.apps.drop (index + 1)) (world.children.waitpid app.pid).1 ∧
          (world.children.waitpid app.pid).1.state app.pid ≠ some .zombie ∧
          ∀ other ∈ world.manager.apps.drop (index + 1),
            (world.children.waitpid app.pid).1.state other.pid ≠ some .zombie := by
        by_cases zombie : world.children.state app.pid = some .zombie
        · rw [Children.waitpid_of_zombie zombie, Bool.or_true]
          refine ⟨tracked.reap swept zombie, by simp, fun other member => ?_⟩
          by_cases same : other.pid = app.pid
          · simp [same]
          · simpa [same] using swept other member
        · rw [Children.waitpid_of_not_zombie zombie, Bool.or_false]
          exact ⟨tracked, zombie, swept⟩
      obtain ⟨tracked, own, others⟩ := polled
      split
      · rename_i done
        refine ⟨tracked.remove (.inl done.1), fun other member => ?_⟩
        rw [List.drop_left' length] at member
        exact others other member
      · refine ⟨tracked, fun other member => ?_⟩
        rw [List.drop_left' length] at member
        rcases List.mem_cons.mp member with rfl | member
        · exact own
        · exact others other member

/-- Checking children keeps the children of the rest as the apps say. -/
theorem tracked_checkFrom (clients : Nat → Nat) (index : Nat)
    (tracked : Tracked world.manager.apps world.children)
    (swept : ∀ app ∈ world.manager.apps.drop index,
      world.children.state app.pid ≠ some .zombie) :
    Tracked (checkFrom clients index world).manager.apps
      (checkFrom clients index world).children := by
  induction index generalizing world with
  | zero => exact tracked
  | succ index inductionHypothesis =>
      obtain ⟨tracked, swept⟩ := tracked_checkChild (clients index) tracked swept
      exact inductionHypothesis tracked swept

@[simp] theorem signalled_checkFrom (clients : Nat → Nat) (index : Nat) :
    (checkFrom clients index world).signalled = world.signalled := by
  induction index generalizing world with
  | zero => rfl
  | succ index inductionHypothesis =>
      rw [checkFrom, inductionHypothesis]
      unfold ChildWorld.checkChild
      split <;> rfl

/-- What the manager does follows from whether the child has exited. -/
theorem manager_checkChild (index clients : Nat) :
    ∃ exited, (world.checkChild index clients).manager =
      world.manager.checkChild index exited clients := by
  unfold ChildWorld.checkChild
  cases found : world.manager.apps[index]? with
  | none => exact ⟨false, by simp only [DlpCompositorManager.checkChild, found]⟩
  | some app => exact ⟨_, rfl⟩

/-- The rounds are those of the manager, with what `waitpid` returns in each. -/
theorem manager_checkFrom (clients : Nat → Nat) (count : Nat) :
    ∃ exited : Nat → Bool, (checkFrom clients count world).manager =
      (List.range count).reverse.foldl
        (fun current index => current.checkChild index (exited index) (clients index))
        world.manager := by
  induction count generalizing world with
  | zero => exact ⟨fun _ => false, rfl⟩
  | succ index inductionHypothesis =>
      obtain ⟨first, firstSame⟩ := world.manager_checkChild index (clients index)
      obtain ⟨exited, same⟩ := @inductionHypothesis (world.checkChild index (clients index))
      refine ⟨Function.update exited index first, ?_⟩
      rw [checkFrom, same, firstSame, List.range_succ, List.reverse_append]
      simp only [List.reverse_singleton, List.singleton_append, List.foldl_cons,
        Function.update_self]
      refine List.foldl_ext _ _ _ fun current other member => ?_
      have below := List.mem_range.mp (List.mem_reverse.mp member)
      rw [Function.update_of_ne (by omega)]

/-- What the manager does with all children follows from which have exited. -/
theorem manager_checkChildProcesses (clients : Nat → Nat) :
    ∃ exited, (world.checkChildProcesses clients).manager =
      world.manager.checkChildProcesses exited clients :=
  manager_checkFrom clients world.manager.apps.length

/-- An application that was launched waits for a child of its own. -/
theorem tracked_launch {request : LaunchRequest} {outcome : LaunchOutcome}
    (tracked : Tracked world.manager.apps world.children) (succeeds : outcome.succeeds = true)
    (positive : 0 < outcome.pid) (free : world.children.unreaped outcome.pid = false) :
    Tracked (world.manager.launchApp request outcome).1.apps
      (world.children.fork outcome.pid) := by
  simp only [LaunchOutcome.succeeds, decide_eq_true_eq] at succeeds
  obtain ⟨available, created, started⟩ := succeeds
  have launched : ∃ app : RunningApp, (world.manager.launchApp request outcome).1.apps =
      world.manager.apps ++ [app] ∧ app.pid = outcome.pid ∧ app.bwrapExited = false := by
    simp [DlpCompositorManager.launchApp, available, created, Int.not_lt.mpr started]
  obtain ⟨app, apps, pid, waits⟩ := launched
  rw [apps]
  have reaped : ∀ other ∈ world.manager.apps, other.pid = outcome.pid →
      other.bwrapExited = true := by
    intro other member same
    by_contra waits
    have unreaped := tracked.unreaped other member (Bool.eq_false_iff.mpr waits)
    rw [same, free] at unreaped
    cases unreaped
  refine ⟨fun other member => ?_, fun other member waiting => ?_, ?_,
    fun other member unreaped => ?_⟩
  · rcases List.mem_append.mp member with old | new
    · exact tracked.positive other old
    · rw [List.mem_singleton.mp new, pid]
      exact positive
  · refine (Children.unreaped_fork _ _ _).mpr ?_
    rcases List.mem_append.mp member with old | new
    · exact .inr (tracked.unreaped other old waiting)
    · exact .inl (List.mem_singleton.mp new ▸ pid)
  · refine List.pairwise_append.mpr ⟨tracked.last, List.pairwise_singleton _ _, ?_⟩
    intro earlier member later new same
    exact reaped earlier member (same.trans (List.mem_singleton.mp new ▸ pid))
  · by_cases same : other.pid = outcome.pid
    · exact ⟨app, by simp, pid.trans same.symm, waits⟩
    · rcases List.mem_append.mp member with old | new
      · rcases (Children.unreaped_fork _ _ _).mp unreaped with isNew | unreaped
        · exact absurd isNew same
        · obtain ⟨waiting, listed, samePid, waits⟩ := tracked.waited other old unreaped
          exact ⟨waiting, List.mem_append_left _ listed, samePid, waits⟩
      · exact absurd (List.mem_singleton.mp new ▸ pid) same

/-- `stopApp` removes the first entry with the pid. -/
theorem stopApp_cases (manager : DlpCompositorManager) (pid : Int) :
    ((manager.stopApp pid) = (manager, []) ∧ ∀ app ∈ manager.apps, app.pid ≠ pid) ∨
    ∃ earlier app later, manager.apps = earlier ++ app :: later ∧ app.pid = pid ∧
      (∀ other ∈ earlier, other.pid ≠ pid) ∧ (manager.stopApp pid).1.apps = earlier ++ later ∧
        (manager.stopApp pid).2 = [pid] := by
  unfold DlpCompositorManager.stopApp
  cases search : manager.apps.findIdx? fun app => app.pid = pid with
  | none =>
      refine .inl ⟨rfl, fun app member => ?_⟩
      simpa using List.findIdx?_eq_none_iff.mp search app member
  | some index =>
      obtain ⟨within, here, before⟩ := List.findIdx?_eq_some_iff_getElem.mp search
      refine .inr ⟨manager.apps.take index, manager.apps[index], manager.apps.drop (index + 1),
        split_at (List.getElem?_eq_getElem within), of_decide_eq_true here, ?_, ?_, rfl⟩
      · intro other member
        obtain ⟨position, bound, rfl⟩ := List.mem_iff_getElem.mp member
        have earlier : position < index := by
          simp only [List.length_take] at bound
          omega
        rw [List.getElem_take]
        simpa using before position earlier
      · simp only [DlpCompositorManager.removeApp, List.getElem?_eq_getElem within]
        exact List.eraseIdx_eq_take_drop_succ _ _

/-- `stopApp` leaves the children alone. -/
theorem tracked_stopApp (tracked : Tracked world.manager.apps world.children) (pid : Int) :
    Tracked (world.manager.stopApp pid).1.apps world.children := by
  rcases stopApp_cases world.manager pid with ⟨same, -⟩ |
    ⟨earlier, app, later, split, isPid, before, apps, -⟩
  · rw [same]
    exact tracked
  · rw [apps]
    rw [split] at tracked
    refine tracked.remove ?_
    cases exited : app.bwrapExited with
    | true => exact .inl rfl
    | false =>
        refine .inr fun other member same => ?_
        rcases List.mem_append.mp member with first | last
        · exact before other first (same.trans isPid)
        · have next := (List.pairwise_cons.mp (List.pairwise_append.mp tracked.last).2.1).1
          exact absurd (exited.symm.trans (next other last same.symm)) nofun

/-! ## Runs -/

/-- The entries and the children fit. -/
def Agrees (world : ChildWorld) : Prop := Tracked world.manager.apps world.children

/-- Every step keeps apps and children in agreement. -/
theorem Agrees.step {event : ChildEvent} (agrees : world.Agrees)
    (taken : world.next event = some after) : after.Agrees := by
  cases event with
  | launchApp request outcome =>
      simp only [next] at taken
      cases succeeds : outcome.succeeds with
      | false =>
          simp only [succeeds, Bool.false_eq_true, if_false,
            DlpCompositorManager.launchApp_of_failed succeeds] at taken
          obtain rfl := Option.some.inj taken
          exact agrees
      | true =>
          simp only [succeeds, if_true, Option.ite_none_right_eq_some] at taken
          obtain ⟨⟨positive, free⟩, taken⟩ := taken
          obtain rfl := Option.some.inj taken
          exact tracked_launch agrees succeeds positive free
  | stopApp pid =>
      obtain rfl := Option.some.inj taken
      exact tracked_stopApp agrees pid
  | stopAll =>
      obtain rfl := Option.some.inj taken
      exact Tracked.nil _
  | childExits pid =>
      obtain ⟨children, exited, rfl⟩ := Option.map_eq_some_iff.mp taken
      have same (other : Int) : children.unreaped other = world.children.unreaped other :=
        Children.unreaped_exits other exited
      exact ⟨agrees.positive,
        fun app member waits => (same _).trans (agrees.unreaped app member waits), agrees.last,
        fun app member unreaped => agrees.waited app member ((same _).symm.trans unreaped)⟩
  | checkChildProcesses clients =>
      obtain rfl := Option.some.inj taken
      refine tracked_checkFrom clients _ agrees fun app member => ?_
      rw [List.drop_length] at member
      cases member

/-- Signals reach children only exactly when every pid is still unreaped. -/
theorem signalsChildren_killed (held : world.SignalsChildren)
    (result : DlpCompositorManager × List Int) :
    (world.killed result).SignalsChildren ↔
      ∀ pid ∈ result.2, world.children.unreaped pid = true := by
  constructor
  · intro signals pid member
    exact signals (pid, world.children.unreaped pid)
      (List.mem_append_right _ (List.mem_map_of_mem member))
  · intro unreaped signal member
    rcases List.mem_append.mp member with old | new
    · exact held signal old
    · obtain ⟨pid, sent, rfl⟩ := List.mem_map.mp new
      exact unreaped pid sent

/-- A step signals children only exactly when what it stops was not reaped. -/
theorem signalsChildren_step_iff {event : ChildEvent} (agrees : world.Agrees)
    (held : world.SignalsChildren) (taken : world.next event = some after) :
    after.SignalsChildren ↔ world.StopsWaiting event := by
  cases event with
  | launchApp request outcome =>
      simp only [next] at taken
      split at taken
      · obtain ⟨-, rfl⟩ := of_guarded taken
        exact iff_of_true held trivial
      · obtain rfl := Option.some.inj taken
        exact iff_of_true held trivial
  | stopApp pid =>
      obtain rfl := Option.some.inj taken
      rw [signalsChildren_killed held]
      rcases stopApp_cases world.manager pid with ⟨same, unlisted⟩ |
        ⟨earlier, app, later, split, isPid, -, -, signalled⟩
      · rw [same]
        refine iff_of_true nofun fun listed => ?_
        obtain ⟨app, member, isPid⟩ := listed
        exact absurd isPid (unlisted app member)
      · have listed : ∃ app ∈ world.manager.apps, app.pid = pid := ⟨app, by simp [split], isPid⟩
        simp only [signalled, List.forall_mem_singleton]
        exact (agrees.unreaped_iff listed).trans (imp_iff_right listed).symm
  | stopAll =>
      obtain rfl := Option.some.inj taken
      rw [signalsChildren_killed held]
      simp only [DlpCompositorManager.stopAll, List.mem_filter, List.mem_map, decide_eq_true_eq,
        and_imp, forall_exists_index, forall_apply_eq_imp_iff₂]
      refine forall₂_congr fun app member => ?_
      rw [imp_iff_right (agrees.positive app member)]
      exact agrees.unreaped_iff ⟨app, member, rfl⟩
  | childExits pid =>
      obtain ⟨children, -, rfl⟩ := Option.map_eq_some_iff.mp taken
      exact iff_of_true held trivial
  | checkChildProcesses clients =>
      obtain rfl := Option.some.inj taken
      refine iff_of_true ?_ trivial
      unfold SignalsChildren checkChildProcesses
      rw [signalled_checkFrom]
      exact held

/-- There are no apps and no children at first. -/
theorem agrees_new : new.Agrees := Tracked.nil _

/-- No signal was sent at first. -/
theorem signalsChildren_new : new.SignalsChildren := by
  intro signal member
  cases member

/-- In every run only live children are signalled exactly when each application that is
stopped has an entry that still waits for its process. -/
theorem signalsChildren_iff_stopsWaiting (events : List ChildEvent) :
    (∀ world, Visits next new events world → world.SignalsChildren) ↔
      Conforms next StopsWaiting new events :=
  visits_iff_conforms Agrees SignalsChildren (fun _ _ _ agrees taken => agrees.step taken)
    (fun _ _ _ agrees held taken => signalsChildren_step_iff agrees held taken)
    agrees_new signalsChildren_new events

/-- A request from the launcher. -/
def firefox : LaunchRequest :=
  ⟨"firefox", "Firefox", "", true, true, false, false, false, [], false⟩

/-- The sandbox has exited, a client of its compositor remains, and the entry is stopped. -/
theorem reaped_child_is_signalled :
    ¬ ∀ world, Visits next new [.launchApp firefox ⟨true, true, 4711⟩, .childExits 4711,
      .checkChildProcesses fun _ => 1, .stopApp 4711] world → world.SignalsChildren := by
  refine not_visits_of_replay (fun world => world.signalled = [(4711, false)]) (by decide) ?_
  intro world reached signals
  have only := of_decide_eq_true reached
  exact absurd (signals (4711, false) (only ▸ List.mem_cons_self)) nofun

end ChildWorld

end CoderDesktop.Dlp
