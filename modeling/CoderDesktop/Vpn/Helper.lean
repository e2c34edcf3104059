import CoderDesktop.Semantics.Run

/-!
# The VPN helper service

`HelperService` of the privileged helper together with every `startTunnel`
goroutine and controller monitor it has spawned. A mutex-protected section is
one step; an external call of `startTunnel` is one step whose outcome the event
chooses; a signal emitted after the mutex was released is a step of its own.

Objects are named by the accepted `Start` that created them, so comparing two
pointers of the source is comparing two attempt ids.
-/

namespace CoderDesktop.Vpn

open Semantics

/-- The values of `HelperService.state`. -/
inductive HelperState where
  | disconnected
  | connecting
  | connected
  | error
deriving DecidableEq, Repr

/-- Arguments of the `StateChanged` signal. -/
structure StateChanged where
  state : HelperState
  errorMsg : String
deriving DecidableEq, Repr

/-- A D-Bus error reply. -/
structure DBusError where
  name : String
  message : String
deriving DecidableEq, Repr

/-- The accepted `Start` calls, numbered in the order they were accepted. -/
abbrev AttemptId := Nat

/-- What `startTunnel` creates and somebody has to release: the context's cancel
function, the TUN device, a configured DNS manager and the tailnet connection. -/
inductive ResourceKind where
  | cancel
  | tunDev
  | dnsManager
  | tailnetCon
deriving DecidableEq, Repr

/-- A resource of an attempt. -/
structure Resource where
  owner : AttemptId
  kind : ResourceKind
deriving DecidableEq, Repr

/-- The mutex-protected fields of the service. -/
structure HelperService where
  state : HelperState
  coderURL : String
  cancel : Option AttemptId
  tailnetCon : Option AttemptId
  tunDev : Option AttemptId
  controller : Option AttemptId
  dnsManager : Option AttemptId
deriving DecidableEq, Repr

namespace HelperService

/-- `NewHelperService`. -/
def new : HelperService where
  state := .disconnected
  coderURL := ""
  cancel := none
  tailnetCon := none
  tunDev := none
  controller := none
  dnsManager := none

/-- The critical section of `Start`. -/
def start (svc : HelperService) (coderURL : String) : Except DBusError HelperService :=
  if svc.state = .connected ∨ svc.state = .connecting then
    .error ⟨"com.coder.Desktop.Helper1.Error.AlreadyRunning", "tunnel is already running"⟩
  else
    .ok { svc with state := .connecting, coderURL := coderURL }

/-- The field holding a resource of the given kind. -/
def stored (svc : HelperService) : ResourceKind → Option AttemptId
  | .cancel => svc.cancel
  | .tunDev => svc.tunDev
  | .dnsManager => svc.dnsManager
  | .tailnetCon => svc.tailnetCon

/-- What `shutdown` releases, in its order; nil fields are skipped. -/
def storedResources (svc : HelperService) : List Resource :=
  [ResourceKind.tailnetCon, .cancel, .tunDev, .dnsManager].filterMap fun kind =>
    (svc.stored kind).map fun owner => ⟨owner, kind⟩

/-- `shutdown` returns at once when the service is already disconnected. -/
def shutdown (svc : HelperService) : HelperService × List Resource × List StateChanged :=
  if svc.state = .disconnected then
    (svc, [], [])
  else
    ({ svc with
        tailnetCon := none
        cancel := none
        tunDev := none
        dnsManager := none
        controller := none
        state := .disconnected },
      svc.storedResources, [⟨.disconnected, ""⟩])

/-- The save at the end of `startTunnel`: every field is overwritten. -/
def save (svc : HelperService) (attempt : AttemptId) : HelperService :=
  { svc with
    cancel := some attempt
    tailnetCon := some attempt
    tunDev := some attempt
    controller := some attempt
    dnsManager := some attempt
    state := .connected }

/-- The critical section of `setError`. -/
def setError (svc : HelperService) : HelperService :=
  { svc with state := .error }

/-- The critical section of the monitor goroutine. -/
def controllerClosed (svc : HelperService) (attempt : AttemptId) :
    HelperService × List StateChanged :=
  if svc.controller = some attempt ∧ svc.state = .connected then
    ({ svc with state := .error }, [⟨.error, "VPN tunnel connection lost"⟩])
  else
    (svc, [])

end HelperService

/-- The calls of `startTunnel` that can fail, in order. -/
inductive SetupStep where
  | parseURL
  | authenticate
  | connectionInfo
  | createTUN
  | configureTUN
  | configureDNS
  | newConn
  | parseRPC
deriving DecidableEq, Repr

namespace SetupStep

/-- What the step adds to the goroutine's locals when it succeeds. The context
is made right after the URL was parsed. -/
def creates : SetupStep → List ResourceKind
  | .parseURL => [.cancel]
  | .createTUN => [.tunDev]
  | .configureDNS => [.dnsManager]
  | .newConn => [.tailnetCon]
  | _ => []

/-- What the step's error exit releases before it calls `setError`. -/
def cleanup : SetupStep → List ResourceKind
  | .parseURL => []
  | .authenticate | .connectionInfo | .createTUN => [.cancel]
  | .configureTUN | .configureDNS => [.tunDev, .cancel]
  | .newConn => [.dnsManager, .tunDev, .cancel]
  | .parseRPC => [.tailnetCon, .dnsManager, .tunDev, .cancel]

/-- The message passed to `setError` when the step fails with `err`. -/
def failure (err : String) : SetupStep → String
  | .parseURL => "parse coder URL: " ++ err
  | .authenticate => "get current user: " ++ err
  | .connectionInfo => "get connection info: " ++ err
  | .createTUN => "create TUN device: " ++ err
  | .configureTUN => "configure TUN device: " ++ err
  | .configureDNS => "configure DNS: " ++ err
  | .newConn => "create tailnet conn: " ++ err
  | .parseRPC => "parse RPC URL: " ++ err

end SetupStep

/-- Where an accepted `Start` has got to. -/
inductive Phase where
  /-- `Start` has left its critical section and has not yet emitted "connecting". -/
  | announce
  /-- `startTunnel` is in one of its fallible calls. -/
  | setup (step : SetupStep)
  /-- The controller runs; the tunnel is about to be saved. -/
  | save
  | emitConnected
  /-- Waiting for the controller to close. -/
  | monitor
  /-- On an error exit: the releases left, then the critical section of `setError`. -/
  | unwind (todo : List ResourceKind) (msg : String)
  | emitError (msg : String)
  | done
deriving DecidableEq, Repr

/-- The phase after a successful setup step. -/
def SetupStep.next : SetupStep → Phase
  | .parseURL => .setup .authenticate
  | .authenticate => .setup .connectionInfo
  | .connectionInfo => .setup .createTUN
  | .createTUN => .setup .configureTUN
  | .configureTUN => .setup .configureDNS
  | .configureDNS => .setup .newConn
  | .newConn => .setup .parseRPC
  | .parseRPC => .save

/-- The attempt can still reach its save or its `setError`. -/
def Phase.inSetup : Phase → Bool
  | .announce | .setup _ | .save | .unwind _ _ => true
  | .emitConnected | .monitor | .emitError _ | .done => false

/-- One accepted `Start` with the locals of its `startTunnel`. -/
structure Attempt where
  coderURL : String
  phase : Phase
  /-- Created, neither released nor saved yet; the latest first. -/
  locals : List ResourceKind
deriving DecidableEq, Repr

/-- The helper process. `created` and `released` log every resource made and
every release performed, in order. -/
structure Helper where
  svc : HelperService
  attempts : List Attempt
  created : List Resource
  released : List Resource
deriving DecidableEq, Repr

/-- The calls on the helper and the steps of its goroutines. -/
inductive HelperEvent where
  /-- An authorised `Start` that is accepted. -/
  | start (coderURL : String)
  /-- An authorised `Start` answered with AlreadyRunning. -/
  | startRejected (coderURL : String)
  /-- An authorised `Stop`, or `Shutdown` at process exit. -/
  | shutdown
  /-- The attempt takes its next step. `failure` is the error of the call it
  makes; a monitor's step is the death of its controller. -/
  | advance (attempt : AttemptId) (failure : Option String)
deriving DecidableEq, Repr

namespace Helper

/-- The helper is idle. -/
def new : Helper := ⟨.new, [], [], []⟩

/-- An attempt moves on. -/
def setAttempt (helper : Helper) (attempt : AttemptId) (value : Attempt) : Helper :=
  { helper with attempts := helper.attempts.set attempt value }

/-- One step of an attempt in the state `current`. -/
def advance (helper : Helper) (attempt : AttemptId) (current : Attempt) :
    Option String → Option (Helper × List StateChanged)
  | some err =>
      match current.phase with
      | .setup step =>
          some (helper.setAttempt attempt
            { current with phase := .unwind step.cleanup (step.failure err) }, [])
      | _ => none
  | none =>
      match current.phase with
      | .announce =>
          some (helper.setAttempt attempt { current with phase := .setup .parseURL },
            [⟨.connecting, ""⟩])
      | .setup step =>
          some ({ helper.setAttempt attempt
                    { current with
                      phase := step.next, locals := step.creates ++ current.locals } with
                  created := helper.created ++ step.creates.map (⟨attempt, ·⟩) }, [])
      | .save =>
          some ({ helper.setAttempt attempt
                    { current with phase := .emitConnected, locals := [] } with
                  svc := helper.svc.save attempt }, [])
      | .emitConnected =>
          some (helper.setAttempt attempt { current with phase := .monitor }, [⟨.connected, ""⟩])
      | .monitor =>
          some ({ helper.setAttempt attempt { current with phase := .done } with
                  svc := (helper.svc.controllerClosed attempt).1 },
            (helper.svc.controllerClosed attempt).2)
      | .unwind (kind :: todo) msg =>
          some ({ helper.setAttempt attempt
                    { current with
                      phase := .unwind todo msg, locals := current.locals.erase kind } with
                  released := helper.released ++ [⟨attempt, kind⟩] }, [])
      | .unwind [] msg =>
          some ({ helper.setAttempt attempt { current with phase := .emitError msg } with
                  svc := helper.svc.setError }, [])
      | .emitError msg =>
          some (helper.setAttempt attempt { current with phase := .done }, [⟨.error, msg⟩])
      | .done => none

/-- One step of the helper and the `StateChanged` signals it sends. -/
def step (helper : Helper) : HelperEvent → Option (Helper × List StateChanged)
  | .start coderURL =>
      match helper.svc.start coderURL with
      | .ok svc =>
          some ({ helper with
                  svc := svc
                  attempts := helper.attempts ++ [⟨coderURL, .announce, []⟩] }, [])
      | .error _ => none
  | .startRejected coderURL =>
      match helper.svc.start coderURL with
      | .ok _ => none
      | .error _ => some (helper, [])
  | .shutdown =>
      let (svc, resources, signals) := helper.svc.shutdown
      some ({ helper with svc := svc, released := helper.released ++ resources }, signals)
  | .advance attempt failure =>
      helper.attempts[attempt]?.bind fun current => helper.advance attempt current failure

/-- The helper on its own: its signals go to whoever listens. -/
def next (helper : Helper) (event : HelperEvent) : Option Helper :=
  (helper.step event).map Prod.fst

/-- Every way a step of the helper can go. -/
inductive Step (helper : Helper) : HelperEvent → Helper → List StateChanged → Prop where
  | start {coderURL svc} (accepted : helper.svc.start coderURL = .ok svc) :
      Step helper (.start coderURL)
        { helper with svc := svc, attempts := helper.attempts ++ [⟨coderURL, .announce, []⟩] } []
  | startRejected {coderURL err} (rejected : helper.svc.start coderURL = .error err) :
      Step helper (.startRejected coderURL) helper []
  | shutdown :
      Step helper .shutdown
        { helper with
          svc := helper.svc.shutdown.1
          released := helper.released ++ helper.svc.shutdown.2.1 } helper.svc.shutdown.2.2
  | announce {attempt coderURL locals}
      (running : helper.attempts[attempt]? = some ⟨coderURL, .announce, locals⟩) :
      Step helper (.advance attempt none)
        (helper.setAttempt attempt ⟨coderURL, .setup .parseURL, locals⟩) [⟨.connecting, ""⟩]
  | succeed {attempt coderURL step locals}
      (running : helper.attempts[attempt]? = some ⟨coderURL, .setup step, locals⟩) :
      Step helper (.advance attempt none)
        { helper.setAttempt attempt ⟨coderURL, step.next, step.creates ++ locals⟩ with
          created := helper.created ++ step.creates.map (⟨attempt, ·⟩) } []
  | fail {attempt coderURL step locals err}
      (running : helper.attempts[attempt]? = some ⟨coderURL, .setup step, locals⟩) :
      Step helper (.advance attempt (some err))
        (helper.setAttempt attempt ⟨coderURL, .unwind step.cleanup (step.failure err), locals⟩) []
  | save {attempt coderURL locals}
      (running : helper.attempts[attempt]? = some ⟨coderURL, .save, locals⟩) :
      Step helper (.advance attempt none)
        { helper.setAttempt attempt ⟨coderURL, .emitConnected, []⟩ with
          svc := helper.svc.save attempt } []
  | emitConnected {attempt coderURL locals}
      (running : helper.attempts[attempt]? = some ⟨coderURL, .emitConnected, locals⟩) :
      Step helper (.advance attempt none)
        (helper.setAttempt attempt ⟨coderURL, .monitor, locals⟩) [⟨.connected, ""⟩]
  | controllerClosed {attempt coderURL locals}
      (running : helper.attempts[attempt]? = some ⟨coderURL, .monitor, locals⟩) :
      Step helper (.advance attempt none)
        { helper.setAttempt attempt ⟨coderURL, .done, locals⟩ with
          svc := (helper.svc.controllerClosed attempt).1 } (helper.svc.controllerClosed attempt).2
  | release {attempt coderURL kind todo msg locals}
      (running : helper.attempts[attempt]? = some ⟨coderURL, .unwind (kind :: todo) msg, locals⟩) :
      Step helper (.advance attempt none)
        { helper.setAttempt attempt ⟨coderURL, .unwind todo msg, locals.erase kind⟩ with
          released := helper.released ++ [⟨attempt, kind⟩] } []
  | setError {attempt coderURL msg locals}
      (running : helper.attempts[attempt]? = some ⟨coderURL, .unwind [] msg, locals⟩) :
      Step helper (.advance attempt none)
        { helper.setAttempt attempt ⟨coderURL, .emitError msg, locals⟩ with
          svc := helper.svc.setError } []
  | emitError {attempt coderURL msg locals}
      (running : helper.attempts[attempt]? = some ⟨coderURL, .emitError msg, locals⟩) :
      Step helper (.advance attempt none)
        (helper.setAttempt attempt ⟨coderURL, .done, locals⟩) [⟨.error, msg⟩]

/-- `Step` is exactly what the executable `step` does. -/
theorem step_eq_some_iff {helper after : Helper} {event : HelperEvent}
    {signals : List StateChanged} :
    helper.step event = some (after, signals) ↔ Step helper event after signals := by
  constructor
  · intro taken
    cases event with
    | start coderURL =>
        cases accepted : helper.svc.start coderURL with
        | error err => simp [step, accepted] at taken
        | ok svc =>
            simp only [step, accepted, Option.some.injEq, Prod.mk.injEq] at taken
            obtain ⟨rfl, rfl⟩ := taken
            exact .start accepted
    | startRejected coderURL =>
        cases rejected : helper.svc.start coderURL with
        | ok svc => simp [step, rejected] at taken
        | error err =>
            simp only [step, rejected, Option.some.injEq, Prod.mk.injEq] at taken
            obtain ⟨rfl, rfl⟩ := taken
            exact .startRejected rejected
    | shutdown =>
        simp only [step, Option.some.injEq, Prod.mk.injEq] at taken
        obtain ⟨rfl, rfl⟩ := taken
        exact .shutdown
    | advance attempt failure =>
        obtain ⟨⟨coderURL, phase, locals⟩, running, taken⟩ := Option.bind_eq_some_iff.mp taken
        cases failure with
        | some err =>
            cases phase <;> simp only [advance, Option.some.injEq, Prod.mk.injEq, reduceCtorEq]
              at taken
            obtain ⟨rfl, rfl⟩ := taken
            exact .fail running
        | none =>
            rcases phase with _ | step | _ | _ | _ | ⟨_ | ⟨kind, todo⟩, msg⟩ | msg | _ <;>
              simp only [advance, Option.some.injEq, Prod.mk.injEq, reduceCtorEq] at taken <;>
              obtain ⟨rfl, rfl⟩ := taken
            · exact .announce running
            · exact .succeed running
            · exact .save running
            · exact .emitConnected running
            · exact .controllerClosed running
            · exact .setError running
            · exact .release running
            · exact .emitError running
  · rintro (⟨accepted⟩ | ⟨rejected⟩ | _ | ⟨running⟩ | ⟨running⟩ | ⟨running⟩ | ⟨running⟩ |
      ⟨running⟩ | ⟨running⟩ | ⟨running⟩ | ⟨running⟩ | ⟨running⟩)
    · simp [step, accepted]
    · simp [step, rejected]
    · rfl
    all_goals simp [step, advance, running]

/-- Every event is one of the steps listed. -/
theorem next_eq_some_iff {helper after : Helper} {event : HelperEvent} :
    helper.next event = some after ↔ ∃ signals, Step helper event after signals := by
  simp [next, step_eq_some_iff]

end Helper
end CoderDesktop.Vpn
