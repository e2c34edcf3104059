import CoderDesktop.Semantics.Run

/-!
# WebSocket connections

`WebSocketBase` next to the state of its `QWebSocket`. A connection that fails is reported
as a disconnection like one that is lost, possibly before `open` has returned. The timer
of an automatic attempt is armed when a disconnection is reported, and an attempt goes
through the public entry point, which resets the counter of attempts for a moment.
-/

namespace CoderDesktop.Api

open Semantics

/-- The states of a `QWebSocket` the code tells apart. -/
inductive SocketState where
  | unconnected
  | connecting
  | connected
  | closing
deriving DecidableEq, Repr

/-- What becomes of a call that is to open the socket. -/
inductive OpenOutcome where
  /-- The URL will not do. An error is reported and the socket is left alone. -/
  | rejected
  | pending
  /-- The attempt fails and `disconnected` is emitted before `open` returns. -/
  | failed
deriving DecidableEq, Repr

/-- `QWebSocket`, with the path of its last request and what was sent since. -/
structure WebSocket (Path Message : Type) where
  state : SocketState
  path : Option Path
  sent : List Message
deriving DecidableEq, Repr

/-- The signals of the class, without their arguments. -/
inductive WebSocketSignal where
  | connectionStateChanged
  | connected
  | disconnected
  | errorOccurred
deriving DecidableEq, Repr

/-- The fields of the class, with its socket and its timer. -/
structure WebSocketBase (Path Message : Type) where
  socket : WebSocket Path Message
  autoReconnect : Bool
  maxReconnectAttempts : Int
  reconnectAttempt : Int
  /-- The delay in milliseconds, while the timer is active. -/
  reconnectTimer : Option Int
  /-- `none` is the empty path. -/
  lastPath : Option Path
deriving DecidableEq, Repr

namespace WebSocketBase

variable {Path Message : Type}

/-- A socket that reconnects up to five times. -/
def new : WebSocketBase Path Message where
  socket := ⟨.unconnected, none, []⟩
  autoReconnect := true
  maxReconnectAttempts := 5
  reconnectAttempt := 0
  reconnectTimer := none
  lastPath := none

variable (ws : WebSocketBase Path Message)

/-- The socket's state says so. -/
def isConnected : Bool := ws.socket.state = .connected

/-- The timer is left as it is. -/
def setAutoReconnect (enabled : Bool) : WebSocketBase Path Message :=
  { ws with autoReconnect := enabled }

/-- The limit counts from the next disconnection on. -/
def setMaxReconnectAttempts (max : Int) : WebSocketBase Path Message :=
  { ws with maxReconnectAttempts := max }

/-- The attempts are counted anew. -/
def onConnected : WebSocketBase Path Message × List WebSocketSignal :=
  ({ ws with reconnectAttempt := 0 }, [.connected, .connectionStateChanged])

/-- Each attempt waits a second longer than the one before. -/
def onDisconnected : WebSocketBase Path Message × List WebSocketSignal :=
  (if ws.autoReconnect && decide (ws.reconnectAttempt < ws.maxReconnectAttempts) then
      { ws with reconnectTimer := some ((ws.reconnectAttempt + 1) * 1000) }
    else ws,
    [.disconnected, .connectionStateChanged])

/-- The socket gives up the connection it had without a signal. -/
def openSocket (path : Option Path) (state : SocketState) : WebSocketBase Path Message :=
  { ws with socket := ⟨state, path, []⟩ }

/-- The path is kept for reconnecting. The attempts are counted anew. -/
def connectToEndpoint (path : Option Path) (outcome : OpenOutcome) :
    WebSocketBase Path Message × List WebSocketSignal :=
  let started := { ws with lastPath := path, reconnectAttempt := 0, reconnectTimer := none }
  match outcome with
  | .rejected => (started, [.errorOccurred])
  | .pending => (started.openSocket path .connecting, [])
  | .failed => (started.openSocket path .unconnected).onDisconnected

/-- The socket is closed for good: it does not reconnect any more. -/
def disconnect : WebSocketBase Path Message :=
  { ws with
    autoReconnect := false
    reconnectTimer := none
    socket :=
      if ws.socket.state ≠ .unconnected then { ws.socket with state := .closing }
      else ws.socket }

/-- The slot of the timer, which is single-shot. -/
def attemptReconnect (outcome : OpenOutcome) :
    WebSocketBase Path Message × List WebSocketSignal :=
  let expired := { ws with reconnectTimer := none }
  match ws.lastPath with
  | none => (expired, [])
  | some path =>
      let attempt := ws.reconnectAttempt + 1
      let (opened, signals) :=
        { expired with reconnectAttempt := attempt }.connectToEndpoint (some path) outcome
      ({ opened with reconnectAttempt := attempt }, signals)

/-- What is sent without a connection is dropped. -/
def sendBinaryMessage (data : Message) : WebSocketBase Path Message :=
  if ws.isConnected then
    { ws with socket := { ws.socket with sent := ws.socket.sent ++ [data] } }
  else ws

end WebSocketBase

/-! ## What happens to a socket -/

/-- What a socket and its timer do on their own. -/
inductive SocketEvent where
  | connected
  | disconnected
  | error
  | timeout (outcome : OpenOutcome)
deriving DecidableEq, Repr

namespace WebSocketBase

variable {Path Message : Type} (ws : WebSocketBase Path Message)

/-- The state `QWebSocket` takes before it signals. -/
def setState (state : SocketState) : WebSocketBase Path Message :=
  { ws with socket := { ws.socket with state } }

/-- An event, where it can come: the socket first takes its new state. -/
def react : SocketEvent → Option (WebSocketBase Path Message × List WebSocketSignal)
  | .connected =>
      if ws.socket.state = .connecting then some (ws.setState .connected).onConnected else none
  | .disconnected =>
      if ws.socket.state ≠ .unconnected then some (ws.setState .unconnected).onDisconnected
      else none
  | .error => some (ws, [.errorOccurred])
  | .timeout outcome =>
      if ws.reconnectTimer ≠ none then some (ws.attemptReconnect outcome) else none

/-- The reactions of a socket, each with what it takes. -/
inductive Reacted (ws : WebSocketBase Path Message) :
    SocketEvent → WebSocketBase Path Message × List WebSocketSignal → Prop where
  | connected (connecting : ws.socket.state = .connecting) :
      Reacted ws .connected (ws.setState .connected).onConnected
  | disconnected (opened : ws.socket.state ≠ .unconnected) :
      Reacted ws .disconnected (ws.setState .unconnected).onDisconnected
  | error : Reacted ws .error (ws, [.errorOccurred])
  | timeout (armed : ws.reconnectTimer ≠ none) (outcome : OpenOutcome) :
      Reacted ws (.timeout outcome) (ws.attemptReconnect outcome)

variable {ws}

/-- The reaction is one of those `Reacted` lists. -/
theorem reacted_of_react {event : SocketEvent}
    {after : WebSocketBase Path Message × List WebSocketSignal}
    (reacted : ws.react event = some after) : ws.Reacted event after := by
  cases event with
  | connected =>
      obtain ⟨connecting, rfl⟩ := of_guarded reacted
      exact .connected connecting
  | disconnected =>
      obtain ⟨opened, rfl⟩ := of_guarded reacted
      exact .disconnected opened
  | error =>
      obtain rfl := Option.some.inj reacted
      exact .error
  | timeout outcome =>
      obtain ⟨armed, rfl⟩ := of_guarded reacted
      exact .timeout armed outcome

/-! ## Scheduling -/

@[simp] theorem socket_onDisconnected : ws.onDisconnected.1.socket = ws.socket := by
  unfold onDisconnected
  dsimp only
  split <;> rfl

@[simp] theorem autoReconnect_onDisconnected :
    ws.onDisconnected.1.autoReconnect = ws.autoReconnect := by
  unfold onDisconnected
  dsimp only
  split <;> rfl

@[simp] theorem maxReconnectAttempts_onDisconnected :
    ws.onDisconnected.1.maxReconnectAttempts = ws.maxReconnectAttempts := by
  unfold onDisconnected
  dsimp only
  split <;> rfl

@[simp] theorem reconnectAttempt_onDisconnected :
    ws.onDisconnected.1.reconnectAttempt = ws.reconnectAttempt := by
  unfold onDisconnected
  dsimp only
  split <;> rfl

@[simp] theorem lastPath_onDisconnected : ws.onDisconnected.1.lastPath = ws.lastPath := by
  unfold onDisconnected
  dsimp only
  split <;> rfl

/-- The timer is armed while attempts are left. -/
theorem reconnectTimer_onDisconnected :
    ws.onDisconnected.1.reconnectTimer =
      if ws.autoReconnect && decide (ws.reconnectAttempt < ws.maxReconnectAttempts) then
        some ((ws.reconnectAttempt + 1) * 1000)
      else ws.reconnectTimer := by
  unfold onDisconnected
  dsimp only
  split <;> rfl

section Connect

variable (path : Option Path) (outcome : OpenOutcome)

@[simp] theorem autoReconnect_connectToEndpoint :
    (ws.connectToEndpoint path outcome).1.autoReconnect = ws.autoReconnect := by
  cases outcome with
  | rejected | pending => rfl
  | failed => exact autoReconnect_onDisconnected

@[simp] theorem maxReconnectAttempts_connectToEndpoint :
    (ws.connectToEndpoint path outcome).1.maxReconnectAttempts = ws.maxReconnectAttempts := by
  cases outcome with
  | rejected | pending => rfl
  | failed => exact maxReconnectAttempts_onDisconnected

@[simp] theorem reconnectAttempt_connectToEndpoint :
    (ws.connectToEndpoint path outcome).1.reconnectAttempt = 0 := by
  cases outcome with
  | rejected | pending => rfl
  | failed => exact reconnectAttempt_onDisconnected

@[simp] theorem lastPath_connectToEndpoint :
    (ws.connectToEndpoint path outcome).1.lastPath = path := by
  cases outcome with
  | rejected | pending => rfl
  | failed => exact lastPath_onDisconnected

/-- The socket is opened towards the path, unless the URL is rejected. -/
theorem socket_connectToEndpoint :
    (ws.connectToEndpoint path outcome).1.socket =
      match outcome with
      | .rejected => ws.socket
      | .pending => ⟨.connecting, path, []⟩
      | .failed => ⟨.unconnected, path, []⟩ := by
  cases outcome with
  | rejected | pending => rfl
  | failed => exact socket_onDisconnected

/-- A call arms the timer only if it fails at once, and then as if no attempt was made. -/
theorem reconnectTimer_connectToEndpoint :
    (ws.connectToEndpoint path outcome).1.reconnectTimer =
      if outcome = .failed ∧ ws.autoReconnect = true ∧ 0 < ws.maxReconnectAttempts then some 1000
      else none := by
  cases outcome with
  | rejected | pending => rfl
  | failed =>
      rw [connectToEndpoint, reconnectTimer_onDisconnected]
      refine if_congr ?_ rfl rfl
      rw [Bool.and_eq_true, decide_eq_true_eq]
      exact (and_iff_right rfl).symm

end Connect

/-- An automatic attempt, as far as the schedule goes. -/
theorem attemptReconnect_of_path {path : Path} (hasPath : ws.lastPath = some path)
    (outcome : OpenOutcome) :
    (ws.attemptReconnect outcome).1 =
      { (ws.connectToEndpoint (some path) outcome).1 with
        reconnectAttempt := ws.reconnectAttempt + 1 } := by
  rw [attemptReconnect, hasPath]
  cases outcome with
  | rejected | pending => rfl
  | failed =>
      simp only [connectToEndpoint, openSocket, onDisconnected]

/-- Without a path an attempt only stops the timer. -/
theorem attemptReconnect_of_noPath (noPath : ws.lastPath = none) (outcome : OpenOutcome) :
    (ws.attemptReconnect outcome).1 = { ws with reconnectTimer := none } := by
  rw [attemptReconnect, noPath]

@[simp] theorem maxReconnectAttempts_attemptReconnect (outcome : OpenOutcome) :
    (ws.attemptReconnect outcome).1.maxReconnectAttempts = ws.maxReconnectAttempts := by
  cases path : ws.lastPath with
  | none => rw [attemptReconnect_of_noPath path]
  | some path =>
      rw [attemptReconnect_of_path ‹_›]
      exact maxReconnectAttempts_connectToEndpoint _ _

/-! ### Sockets that are not connected -/

/-- A socket that is not connected is no connection. -/
theorem isConnected_of_socket {socket : WebSocket Path Message} (same : ws.socket = socket)
    (down : socket.state ≠ .connected) : ws.isConnected = false := by
  refine decide_eq_false ?_
  rw [same]
  exact down

/-- A closed socket is no connection. -/
theorem isConnected_disconnect : ws.disconnect.isConnected = false := by
  refine decide_eq_false ?_
  unfold disconnect
  dsimp only
  split
  · exact nofun
  · next opened =>
      rw [not_not.mp opened]
      exact nofun

/-- A socket that is opened is connected later, if at all. -/
theorem isConnected_connectToEndpoint (path : Option Path) {outcome : OpenOutcome}
    (opens : outcome ≠ .rejected) : (ws.connectToEndpoint path outcome).1.isConnected = false := by
  refine isConnected_of_socket (socket_connectToEndpoint path outcome) ?_
  cases outcome with
  | rejected => exact absurd rfl opens
  | pending | failed => exact nofun

/-- An attempt does not connect at once. -/
theorem isConnected_attemptReconnect {path : Path} (hasPath : ws.lastPath = some path)
    {outcome : OpenOutcome} (opens : outcome ≠ .rejected) :
    (ws.attemptReconnect outcome).1.isConnected = false := by
  rw [attemptReconnect_of_path hasPath]
  exact isConnected_connectToEndpoint (some path) opens

end WebSocketBase

end CoderDesktop.Api
