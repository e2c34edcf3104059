import CoderDesktop.Vpn.Helper

/-!
# The application's VPN bridge

`VpnBridge` is the D-Bus client of the helper. `World` puts one bridge next to
the helper: calls the bridge has sent and the helper has not handled, replies the
helper has not sent, and the messages under way to the bridge, which arrive in
the order they were sent. The helper also takes steps of its own and serves other
clients, whose calls appear only as steps of the helper.
-/

namespace CoderDesktop.Vpn

/-- The values of `m_state`: a state the helper reports, or the bridge's own
"disconnecting". -/
inductive BridgeState where
  | reported (state : HelperState)
  | disconnecting
deriving DecidableEq, Repr

/-- The calls of the helper's interface. -/
inductive HelperCall where
  | start (url apiToken : String)
  | stop
  | getStatus
deriving DecidableEq, Repr

/-- How the helper answers a call. A success reply of `Start` belongs to the
attempt it accepted. -/
inductive Reply where
  | started (attempt : AttemptId)
  | startFailed (err : DBusError)
  | stopped
  | stopFailed (err : DBusError)
  | status (state : HelperState) (coderURL : String)
  | statusFailed (err : DBusError)
deriving DecidableEq, Repr

/-- What the bus delivers to the bridge. -/
inductive Message where
  | stateChanged (signal : StateChanged)
  | reply (reply : Reply)
deriving DecidableEq, Repr

/-- The Qt signals the bridge emits about its state. -/
inductive BridgeSignal where
  | stateChanged
  | errorOccurred (message : String)
deriving DecidableEq, Repr

/-- The state the bridge shows. -/
structure VpnBridge where
  state : BridgeState
deriving DecidableEq, Repr

namespace VpnBridge

/-- The bridge before any reply to the `GetStatus` its constructor sends. -/
def new : VpnBridge := ⟨.reported .disconnected⟩

/-- `start` does nothing unless the bridge shows "disconnected". -/
def start (bridge : VpnBridge) (url token : String) :
    VpnBridge × List BridgeSignal × List HelperCall :=
  if bridge.state ≠ .reported .disconnected then
    (bridge, [], [])
  else
    (⟨.reported .connecting⟩, [.stateChanged], [.start url token])

/-- A bridge that is disconnected or disconnecting does nothing. -/
def stop (bridge : VpnBridge) : VpnBridge × List BridgeSignal × List HelperCall :=
  if bridge.state = .reported .disconnected ∨ bridge.state = .disconnecting then
    (bridge, [], [])
  else
    (⟨.disconnecting⟩, [.stateChanged], [.stop])

/-- Another state is shown and announced, with its error. -/
def onStateChanged (bridge : VpnBridge) (signal : StateChanged) : VpnBridge × List BridgeSignal :=
  if bridge.state = .reported signal.state then
    (bridge, [])
  else
    (⟨.reported signal.state⟩,
      .stateChanged ::
        if signal.errorMsg.isEmpty then [] else [.errorOccurred signal.errorMsg])

/-- `onStartFinished`: an error resets the state to "disconnected". -/
def onStartFinished (bridge : VpnBridge) : Except DBusError Unit → VpnBridge × List BridgeSignal
  | .error err => (⟨.reported .disconnected⟩, [.stateChanged, .errorOccurred err.message])
  | .ok () => (bridge, [])

/-- `onStopFinished`: an error is reported, the state is kept. -/
def onStopFinished (bridge : VpnBridge) : Except DBusError Unit → VpnBridge × List BridgeSignal
  | .error err => (bridge, [.errorOccurred err.message])
  | .ok () => (bridge, [])

/-- A status that differs is shown and announced. -/
def onGetStatusFinished (bridge : VpnBridge) :
    Except DBusError (HelperState × String) → VpnBridge × List BridgeSignal
  | .error _ => (bridge, [])
  | .ok (state, _) =>
      if bridge.state ≠ .reported state then
        (⟨.reported state⟩, [.stateChanged])
      else
        (bridge, [])

/-- Each reply goes to the handler of its call. -/
def receive (bridge : VpnBridge) : Message → VpnBridge × List BridgeSignal
  | .stateChanged signal => bridge.onStateChanged signal
  | .reply (.started _) => bridge.onStartFinished (.ok ())
  | .reply (.startFailed err) => bridge.onStartFinished (.error err)
  | .reply .stopped => bridge.onStopFinished (.ok ())
  | .reply (.stopFailed err) => bridge.onStopFinished (.error err)
  | .reply (.status state coderURL) => bridge.onGetStatusFinished (.ok (state, coderURL))
  | .reply (.statusFailed err) => bridge.onGetStatusFinished (.error err)

end VpnBridge

/-- The error reply to a call that polkit or the bus refuses. -/
def HelperCall.refused (err : DBusError) : HelperCall → Reply
  | .start _ _ => .startFailed err
  | .stop => .stopFailed err
  | .getStatus => .statusFailed err

/-- The bridge, the helper and everything between them. -/
structure World where
  helper : Helper
  bridge : VpnBridge
  /-- Calls of the bridge the helper has not handled. -/
  calls : List HelperCall
  /-- Replies of handled calls that are not sent yet. -/
  answers : List Reply
  /-- Messages sent to the bridge, the oldest first. -/
  queue : List Message
deriving DecidableEq, Repr

/-- The user, the helper and the bus act. -/
inductive WorldEvent where
  | userStart (url token : String)
  | userStop
  /-- A step of the helper's own, or a call of another client. -/
  | helper (event : HelperEvent)
  /-- The helper carries out a call. -/
  | execute (call : Nat)
  /-- A call fails before it reaches the service's state. -/
  | refuse (call : Nat) (err : DBusError)
  | sendReply (answer : Nat)
  | deliver
deriving DecidableEq, Repr

namespace World

/-- The application starts next to a helper in any state and asks for its status. -/
def construct (helper : Helper) : World where
  helper := helper
  bridge := .new
  calls := [.getStatus]
  answers := []
  queue := []

/-- The helper moves on and its signals are queued. -/
def withHelper (world : World) (result : Helper × List StateChanged) : World :=
  { world with helper := result.1, queue := world.queue ++ result.2.map .stateChanged }

/-- What the helper does with a call and what it will answer. -/
def execute (world : World) : HelperCall → Option (World × Reply)
  | .start url _ =>
      match world.helper.svc.start url with
      | .ok _ => (world.helper.step (.start url)).map fun result =>
          (world.withHelper result, .started world.helper.attempts.length)
      | .error err => some (world, .startFailed err)
  | .stop => (world.helper.step .shutdown).map fun result => (world.withHelper result, .stopped)
  | .getStatus => some (world, .status world.helper.svc.state world.helper.svc.coderURL)

/-- `Start` emits "connecting" before it returns. -/
def mayReply (helper : Helper) : Reply → Bool
  | .started attempt => helper.attempts[attempt]?.all fun current => current.phase ≠ .announce
  | _ => true

/-- One event; calls, answers and signals travel in their queues. -/
def next (world : World) : WorldEvent → Option World
  | .userStart url token =>
      let (bridge, _, calls) := world.bridge.start url token
      some { world with bridge := bridge, calls := world.calls ++ calls }
  | .userStop =>
      let (bridge, _, calls) := world.bridge.stop
      some { world with bridge := bridge, calls := world.calls ++ calls }
  | .helper event => (world.helper.step event).map world.withHelper
  | .execute index => do
      let call ← world.calls[index]?
      let (world, reply) ← execute { world with calls := world.calls.eraseIdx index } call
      return { world with answers := world.answers ++ [reply] }
  | .refuse index err => do
      let call ← world.calls[index]?
      return { world with
        calls := world.calls.eraseIdx index
        answers := world.answers ++ [call.refused err] }
  | .sendReply index => do
      let reply ← world.answers[index]?
      if mayReply world.helper reply then
        return { world with
          answers := world.answers.eraseIdx index
          queue := world.queue ++ [.reply reply] }
      else
        none
  | .deliver =>
      match world.queue with
      | [] => none
      | message :: rest =>
          some { world with bridge := (world.bridge.receive message).1, queue := rest }

/-- A refused call is answered with its error. -/
theorem next_refuse {world after : World} {index : Nat} {err : DBusError} :
    world.next (.refuse index err) = some after ↔ ∃ call, world.calls[index]? = some call ∧
      { world with
        calls := world.calls.eraseIdx index
        answers := world.answers ++ [call.refused err] } = after := by
  simp [next, Option.bind_eq_some_iff]

/-- An answer is queued when the helper may send it. -/
theorem next_sendReply {world after : World} {index : Nat} :
    world.next (.sendReply index) = some after ↔ ∃ reply, world.answers[index]? = some reply ∧
      mayReply world.helper reply ∧
      { world with
        answers := world.answers.eraseIdx index
        queue := world.queue ++ [.reply reply] } = after := by
  simp [next, Option.bind_eq_some_iff]

/-- The bridge receives the first message. -/
theorem next_deliver {world after : World} :
    world.next .deliver = some after ↔ ∃ message rest, world.queue = message :: rest ∧
      { world with bridge := (world.bridge.receive message).1, queue := rest } = after := by
  cases queue : world.queue <;> simp [next, queue]

end World
end CoderDesktop.Vpn
