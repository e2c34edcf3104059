import Mathlib.Algebra.Group.Nat.Defs
import CoderDesktop.Collections.BackwardSweep
import CoderDesktop.Dlp.AppBookkeeping

/-!
# Counting the clients of a compositor

`compositor.c` counts the Wayland clients of a compositor: a listener on the display
counts a new client, and a wrapper allocated for the client counts it again when it goes.
The manager removes an application whose process has exited once the count is zero.
-/

namespace CoderDesktop.Dlp

open Collections Semantics

/-- The client tracking of a compositor. Clients are `wl_client`s. -/
structure ClientTracking where
  /-- `client_count`, an `int`. Its overflow, undefined in C, is taken to wrap. -/
  clientCount : BitVec 32
  /-- The clients that are connected. -/
  connected : List Nat
  /-- The clients on whose destroy signal a wrapper listens. -/
  wrappers : List Nat
deriving DecidableEq, Repr

namespace ClientTracking

/-- No client was seen. -/
def new : ClientTracking := ⟨0, [], []⟩

variable (tracking : ClientTracking) (client : Nat)

/-- The notifier of the wrapper of a client, which is unlinked and freed. -/
def handleClientDestroyed : ClientTracking :=
  { tracking with
    clientCount := tracking.clientCount - 1
    wrappers := tracking.wrappers.erase client }

/-- The notifier for a new client; `allocated` is whether a wrapper could be. -/
def handleClientCreated (allocated : Bool) : ClientTracking :=
  let counted := { tracking with clientCount := tracking.clientCount + 1 }
  if allocated then { counted with wrappers := client :: counted.wrappers } else counted

/-- `wl_client_create`. -/
def connect (allocated : Bool) : ClientTracking :=
  handleClientCreated { tracking with connected := client :: tracking.connected } client allocated

/-- `wl_client_destroy`: only listeners that are linked are notified. -/
def disconnect : ClientTracking :=
  let gone := { tracking with connected := tracking.connected.erase client }
  if client ∈ gone.wrappers then gone.handleClientDestroyed client else gone

/-- The count is the number of the clients that are connected. -/
def Counts : Prop := tracking.clientCount.toInt = tracking.connected.length

variable {tracking client}

/-- Nothing is counted at first. -/
theorem counts_new : new.Counts := rfl

/-- A client that connects is counted, listener or not. -/
theorem clientCount_connect (allocated : Bool) :
    (tracking.connect client allocated).clientCount = tracking.clientCount + 1 := by
  cases allocated <;> rfl

/-- A client that connects is connected. -/
theorem connected_connect (allocated : Bool) :
    (tracking.connect client allocated).connected = client :: tracking.connected := by
  cases allocated <;> rfl

/-- A client that disconnects is no longer connected. -/
theorem connected_disconnect :
    (tracking.disconnect client).connected = tracking.connected.erase client := by
  unfold disconnect
  dsimp only
  split <;> rfl

/-- A new client is counted, with a wrapper or without one. -/
theorem counts_connect (counts : tracking.Counts) (allocated : Bool) :
    (tracking.connect client allocated).Counts ↔ tracking.connected.length + 1 < 2 ^ 31 := by
  unfold Counts at *
  rw [clientCount_connect, connected_connect, BitVec.toInt_add, counts, List.length_cons]
  simp only [BitVec.reduceToInt, Int.bmod_def]
  omega

/-- A client that goes is counted by its wrapper only. -/
theorem counts_disconnect (counts : tracking.Counts) (member : client ∈ tracking.connected) :
    (tracking.disconnect client).Counts ↔ client ∈ tracking.wrappers := by
  have positive := List.length_pos_of_mem member
  have bounded := tracking.clientCount.toInt_lt
  unfold Counts at *
  rw [connected_disconnect, List.length_erase_of_mem member]
  by_cases watched : client ∈ tracking.wrappers
  · have counted : (tracking.disconnect client).clientCount = tracking.clientCount - 1 := by
      simp [disconnect, watched, handleClientDestroyed]
    rw [counted, BitVec.toInt_sub, counts]
    simp only [BitVec.reduceToInt, Int.bmod_def, watched, iff_true]
    omega
  · have kept : (tracking.disconnect client).clientCount = tracking.clientCount := by
      simp [disconnect, watched]
    rw [kept, counts]
    simp only [watched, iff_false]
    omega

end ClientTracking

/-- An entry after its turn in a poll: it is removed if its process has exited and it is
alone, without clients. -/
def ManagedApp.visited (app : ManagedApp) (exited alone : Bool) : Option ManagedApp :=
  let done := app.app.bwrapExited || exited
  if done && alone then none else some { app with app := { app.app with bwrapExited := done } }

/-- The manager and the tracking of each compositor. -/
structure ClientWorld where
  session : AppSession
  tracking : Nat → ClientTracking

/-- Clients come and go, and the manager acts. -/
inductive ClientEvent where
  | connect (compositor client : Nat) (allocated : Bool)
  | disconnect (compositor client : Nat)
  | manager (event : AppEvent)

namespace ClientWorld

/-- No compositor was created. -/
def new : ClientWorld := ⟨.new, fun _ => .new⟩

variable (world : ClientWorld)

/-- `coder_dlp_get_client_count`, of the compositor of an entry. A compositor that is
null has no clients. -/
def getClientCount (app : ManagedApp) : Int :=
  app.compositor.elim 0 fun compositor => (world.tracking compositor).clientCount.toInt

/-- The counts that a poll of the children reads are those of the compositors. -/
def read : AppEvent → AppEvent
  | .checkChildProcesses exited _ =>
      .checkChildProcesses exited fun index =>
        (world.session.apps[index]?.elim 0 world.getClientCount).natAbs
  | event => event

/-- The tracking of one compositor is rewritten. -/
def track (compositor : Nat) (tracking : ClientTracking) : ClientWorld :=
  { world with tracking := Function.update world.tracking compositor tracking }

/-- A compositor that is destroyed takes its clients along. -/
def adopt (session : AppSession) : ClientWorld where
  session
  tracking compositor :=
    if compositor ∈ session.held then world.tracking compositor else .new

/-- Clients come and go at the compositors of running applications. -/
def next : ClientEvent → Option ClientWorld
  | .connect compositor client allocated =>
      let tracking := world.tracking compositor
      if compositor ∈ world.session.held ∧ client ∉ tracking.connected then
        some (world.track compositor (tracking.connect client allocated))
      else none
  | .disconnect compositor client =>
      let tracking := world.tracking compositor
      if compositor ∈ world.session.held ∧ client ∈ tracking.connected then
        some (world.track compositor (tracking.disconnect client))
      else none
  | .manager event => (world.session.next (world.read event)).map world.adopt

/-- The clients connected to the compositor of an entry. -/
def clientsOf (app : ManagedApp) : List Nat :=
  app.compositor.elim [] fun compositor => (world.tracking compositor).connected

/-- Every count is that of the clients connected, and a poll leaves of each entry what it
should: an entry is alone when its clients are gone. -/
structure Exact : Prop where
  counted : ∀ compositor, (world.tracking compositor).Counts
  cleaned : ∀ exited clients after,
    world.next (.manager (.checkChildProcesses exited clients)) = some after →
      after.session.apps =
        world.session.apps.zipIdx.filterMap fun entry =>
          entry.1.visited (exited entry.2) (world.clientsOf entry.1).isEmpty

/-- The condition on a step: an `int` can hold the number of clients after a new one, and
a client that goes has its wrapper. -/
def Watched : ClientEvent → Prop
  | .connect compositor _ _ => (world.tracking compositor).connected.length + 1 < 2 ^ 31
  | .disconnect compositor client => client ∈ (world.tracking compositor).wrappers
  | .manager _ => True

variable {world}

/-! ## Polling the children -/

/-- One round of a poll is one of a sweep over the entries. -/
theorem apps_checkChild (session : AppSession) (index : Nat) (exited : Bool) (clients : Nat) :
    (session.checkChild index exited clients).apps =
      sweepAt (fun _ app => app.visited exited (clients = 0)) session.apps index := by
  unfold AppSession.checkChild sweepAt
  cases found : session.apps[index]? with
  | none => rfl
  | some app =>
      obtain ⟨inside, -⟩ := List.getElem?_eq_some_iff.mp found
      cases done : app.app.bwrapExited || exited with
      | false => simp [ManagedApp.visited, done]
      | true =>
          by_cases alone : clients = 0
          · -- The entry is written before it is removed.
            have written (polled : ManagedApp) :
                (session.apps.set index polled)[index]? = some polled :=
              List.getElem?_set_self inside
            have erased (polled : ManagedApp) :
                (session.apps.set index polled).eraseIdx index = session.apps.eraseIdx index :=
              List.eraseIdx_set_eq
            simp only [ManagedApp.visited, done, alone, AppSession.removeApp, AppSession.callOf,
              written, erased, decide_true, Bool.and_self, if_true]
            split <;> rfl
          · simp [ManagedApp.visited, done, alone, AppSession.callOf]

/-- What a poll leaves, given the counts that it reads. -/
theorem apps_checkChildProcesses (session : AppSession) (exited : Nat → Bool)
    (clients : Nat → Nat) :
    (session.checkChildProcesses exited clients).apps =
      session.apps.zipIdx.filterMap fun entry =>
        entry.1.visited (exited entry.2) (clients entry.2 = 0) := by
  have swept := foldl_sweepAt
    (fun index (app : ManagedApp) => app.visited (exited index) (clients index = 0)) session.apps []
  rw [List.append_nil, List.append_nil] at swept
  unfold AppSession.checkChildProcesses
  rw [← swept]
  refine (List.foldl_hom AppSession.apps fun current index => ?_).symm
  rw [apps_checkChild]
  rfl

/-- Where the counts are right, a poll removes what it should. -/
theorem cleaned_of_counted (counted : ∀ compositor, (world.tracking compositor).Counts)
    {exited : Nat → Bool} {clients : Nat → Nat} {after : ClientWorld}
    (taken : world.next (.manager (.checkChildProcesses exited clients)) = some after) :
    after.session.apps = world.session.apps.zipIdx.filterMap fun entry =>
      entry.1.visited (exited entry.2) (world.clientsOf entry.1).isEmpty := by
  obtain rfl := Option.some.inj taken
  have poll := apps_checkChildProcesses world.session exited fun index =>
    (world.session.apps[index]?.elim 0 world.getClientCount).natAbs
  refine poll.trans (List.filterMap_congr fun entry member => ?_)
  have here := List.mem_zipIdx_iff_getElem?.mp member
  have gone : (world.getClientCount entry.1).natAbs = 0 ↔ world.clientsOf entry.1 = [] := by
    unfold getClientCount clientsOf
    cases entry.1.compositor with
    | none => simp
    | some compositor =>
        have counts := counted compositor
        unfold ClientTracking.Counts at counts
        rw [Option.elim_some, Option.elim_some, counts, Int.natAbs_natCast, List.length_eq_zero_iff]
  have alone : decide ((world.getClientCount entry.1).natAbs = 0) =
      (world.clientsOf entry.1).isEmpty := by
    rw [Bool.eq_iff_iff, decide_eq_true_iff, List.isEmpty_iff]
    exact gone
  rw [here, Option.elim_some, alone]

/-! ## Runs -/

/-- The counts are exact when each compositor counts. -/
theorem exact_iff_counted :
    world.Exact ↔ ∀ compositor, (world.tracking compositor).Counts :=
  ⟨Exact.counted, fun counted => ⟨counted, fun _ _ _ taken => cleaned_of_counted counted taken⟩⟩

/-- Only the compositor that changes matters. -/
theorem counted_track (counted : ∀ compositor, (world.tracking compositor).Counts)
    (compositor : Nat) (tracking : ClientTracking) :
    (∀ other, ((world.track compositor tracking).tracking other).Counts) ↔ tracking.Counts := by
  constructor
  · intro all
    simpa [track] using all compositor
  · intro counts other
    by_cases here : other = compositor
    · subst here
      simpa [track] using counts
    · simpa [track, here] using counted other

/-- A step keeps the counts exact exactly when it is watched. -/
theorem exact_next {event : ClientEvent} {after : ClientWorld} (holds : world.Exact)
    (taken : world.next event = some after) : after.Exact ↔ world.Watched event := by
  rw [exact_iff_counted]
  cases event with
  | connect compositor client allocated =>
      obtain ⟨-, rfl⟩ := of_guarded taken
      rw [counted_track holds.counted]
      exact ClientTracking.counts_connect (holds.counted compositor) allocated
  | disconnect compositor client =>
      obtain ⟨⟨-, member⟩, rfl⟩ := of_guarded taken
      rw [counted_track holds.counted]
      exact ClientTracking.counts_disconnect (holds.counted compositor) member
  | manager event =>
      obtain ⟨session, -, rfl⟩ := Option.map_eq_some_iff.mp taken
      refine iff_of_true (fun compositor => ?_) trivial
      unfold adopt
      dsimp only
      split
      · exact holds.counted compositor
      · exact ClientTracking.counts_new

/-- The counts are exact at first. -/
theorem exact_new : new.Exact :=
  exact_iff_counted.mpr fun _ => ClientTracking.counts_new

/-- In every state of a run the counts are those of the clients connected, and a poll
removes the applications whose process has exited and whose clients are gone, if and only
if each client that goes had been given a wrapper. -/
theorem client_count_exact_iff (events : List ClientEvent) :
    (∀ world, Visits next new events world → world.Exact) ↔ Conforms next Watched new events :=
  visits_iff_conforms (fun _ => True) Exact (fun _ _ _ _ _ => trivial)
    (fun _ _ _ _ holds taken => exact_next holds taken) trivial exact_new events

/-- An application whose only client comes when no wrapper can be allocated, and goes. -/
def unwatchedClient : List ClientEvent :=
  [.manager (.launchApp ⟨"code", "", "", true, true, false, false, false, [], true⟩
      ⟨true, true, 7⟩),
    .connect 0 1 false, .disconnect 0 1]

/-- The client is still counted when it has gone. -/
theorem client_count_not_exact :
    ¬ ∀ world, Visits next new unwatchedClient world → world.Exact := by
  apply not_visits_of_replay fun world =>
    (world.tracking 0).clientCount.toInt != (world.tracking 0).connected.length
  · decide
  · intro world different holds
    exact bne_iff_ne.mp different (holds.counted 0)

end ClientWorld

end CoderDesktop.Dlp
