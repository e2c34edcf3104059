import CoderDesktop.Api.WebSocketBase

/-!
# The size of a terminal

The size a page reports on its way to the PTY. It is kept in the bridge, in the socket, in
a flag for a resize that waits for a connection, and in the URL a connection was requested
with. An automatic reconnect uses that URL again and does not go through the bridge.
-/

namespace CoderDesktop.Terminal

open Api Semantics

/-- `/api/v2/workspaceagents/{agentId}/pty?reconnect={sessionId}&width={cols}&height={rows}` -/
structure PtyPath where
  agentId : String
  sessionId : String
  cols : Int
  rows : Int
deriving DecidableEq, Repr

/-- The size a connection asks for. -/
def PtyPath.size (path : PtyPath) : Int × Int := (path.cols, path.rows)

/-- The two kinds of messages, by the fields of their JSON objects. -/
inductive PtyFrame where
  | input (data : String)
  | resize (width height : Int)
deriving DecidableEq, Repr

/-- The size a frame tells, if it tells one. -/
def PtyFrame.size : PtyFrame → Option (Int × Int)
  | .input _ => none
  | .resize width height => some (width, height)

/-- The terminal's connection with the size it was opened with or told last. -/
structure TerminalWebSocket where
  base : WebSocketBase PtyPath PtyFrame
  sessionId : String
  agentId : String
  cols : Int
  rows : Int
deriving DecidableEq, Repr

namespace TerminalWebSocket

/-- The terminal has 80 columns and 24 rows. -/
def new : TerminalWebSocket where
  base := .new
  sessionId := ""
  agentId := ""
  cols := 80
  rows := 24

variable (ws : TerminalWebSocket)

/-- The session ID is stable, so that a reconnect resumes the same PTY. -/
def connectToPty (agentId : String) (cols rows : Int) (uuid : String) (outcome : OpenOutcome) :
    TerminalWebSocket × List WebSocketSignal :=
  let sessionId := if ws.sessionId = "" then uuid else ws.sessionId
  let (base, signals) := ws.base.connectToEndpoint (some ⟨agentId, sessionId, cols, rows⟩) outcome
  (⟨base, sessionId, agentId, cols, rows⟩, signals)

/-- Keystrokes are sent. -/
def sendInput (data : String) : TerminalWebSocket :=
  { ws with base := ws.base.sendBinaryMessage (.input data) }

/-- A size is sent and kept. -/
def resize (cols rows : Int) : TerminalWebSocket :=
  { ws with base := ws.base.sendBinaryMessage (.resize cols rows), cols, rows }

end TerminalWebSocket

/-- The connection, and the size the page last told. -/
structure TerminalBridge where
  ws : TerminalWebSocket
  agentId : String
  jsReady : Bool
  hasPendingResize : Bool
  pendingCols : Int
  pendingRows : Int
deriving DecidableEq, Repr

namespace TerminalBridge

/-- The page is not ready and no agent is known. -/
def new : TerminalBridge where
  ws := .new
  agentId := ""
  jsReady := false
  hasPendingResize := false
  pendingCols := 80
  pendingRows := 24

variable (bridge : TerminalBridge)

/-- The connection is open. -/
def isConnected : Bool := bridge.ws.base.isConnected

/-- Flushes a resize that arrived before the connection was ready. -/
def onConnectionStateChanged : TerminalBridge :=
  if bridge.isConnected && bridge.hasPendingResize then
    { bridge with
      hasPendingResize := false
      ws := bridge.ws.resize bridge.pendingCols bridge.pendingRows }
  else bridge

/-- The signals of the socket, as far as they change the bridge. -/
def emit (signals : List WebSocketSignal) : TerminalBridge :=
  signals.foldl
    (fun bridge signal =>
      if signal = .connectionStateChanged then bridge.onConnectionStateChanged else bridge)
    bridge

/-- The terminal connects once the page is ready and the agent known. -/
def tryConnect (uuid : String) (outcome : OpenOutcome) : TerminalBridge :=
  if bridge.jsReady && decide (bridge.agentId ≠ "") then
    let (ws, signals) :=
      bridge.ws.connectToPty bridge.agentId bridge.pendingCols bridge.pendingRows uuid outcome
    { bridge with ws }.emit signals
  else bridge

/-- The agent becomes known. -/
def setAgentId (agentId uuid : String) (outcome : OpenOutcome) : TerminalBridge :=
  { bridge with agentId }.tryConnect uuid outcome

/-- The page is ready and tells its size. -/
def notifyReady (cols rows : Int) (uuid : String) (outcome : OpenOutcome) : TerminalBridge :=
  { bridge with jsReady := true, pendingCols := cols, pendingRows := rows }.tryConnect uuid outcome

/-- Keystrokes are dropped without a connection. -/
def sendInput (data : String) : TerminalBridge :=
  if bridge.isConnected then { bridge with ws := bridge.ws.sendInput data } else bridge

/-- Without a connection the size waits. -/
def resize (cols rows : Int) : TerminalBridge :=
  let sized := { bridge with pendingCols := cols, pendingRows := rows }
  if bridge.isConnected then { sized with ws := bridge.ws.resize cols rows }
  else { sized with hasPendingResize := true }

/-- The connection is closed. -/
def disconnectFromPty : TerminalBridge :=
  { bridge with ws := { bridge.ws with base := bridge.ws.base.disconnect } }

/-- The connection reports something, and the bridge reacts to its signals. -/
def react (event : SocketEvent) : Option TerminalBridge :=
  (bridge.ws.base.react event).map fun (base, signals) =>
    { bridge with ws := { bridge.ws with base } }.emit signals

end TerminalBridge

/-! ## A terminal at work -/

/-- The page and the connection act. -/
inductive TerminalEvent where
  | setAgentId (agentId uuid : String) (outcome : OpenOutcome)
  | notifyReady (cols rows : Int) (uuid : String) (outcome : OpenOutcome)
  | sendInput (data : String)
  | resize (cols rows : Int)
  | disconnectFromPty
  | socket (event : SocketEvent)
deriving DecidableEq, Repr

/-- The last size a PTY was told over a connection. -/
def toldSize (socket : WebSocket PtyPath PtyFrame) : Option (Int × Int) :=
  (socket.path.toList.map PtyPath.size ++ socket.sent.filterMap PtyFrame.size).getLast?

/-- A bridge, and the size of the last call of `notifyReady` or `resize`. -/
structure TerminalSession where
  bridge : TerminalBridge
  latest : Option (Int × Int)
deriving DecidableEq, Repr

namespace TerminalSession

/-- The page told no size yet. -/
def new : TerminalSession := ⟨.new, none⟩

variable (world : TerminalSession)

/-- One event, with the size the page told last. -/
def next : TerminalEvent → Option TerminalSession
  | .setAgentId agentId uuid outcome =>
      some ⟨world.bridge.setAgentId agentId uuid outcome, world.latest⟩
  | .notifyReady cols rows uuid outcome =>
      some ⟨world.bridge.notifyReady cols rows uuid outcome, some (cols, rows)⟩
  | .sendInput data => some ⟨world.bridge.sendInput data, world.latest⟩
  | .resize cols rows => some ⟨world.bridge.resize cols rows, some (cols, rows)⟩
  | .disconnectFromPty => some ⟨world.bridge.disconnectFromPty, world.latest⟩
  | .socket event => (world.bridge.react event).map fun bridge => ⟨bridge, world.latest⟩

/-- The connection with what was sent on it. -/
def socket : WebSocket PtyPath PtyFrame := world.bridge.ws.base.socket

/-- While it is connected the terminal has the size the page told last. -/
def PtyInformed : Prop :=
  world.bridge.isConnected = true → toldSize world.socket = world.latest

/-- What keeps the PTY informed. A connection that comes up was requested with the current
size, or a resize waits for it. A page that gets ready again while there is a connection
starts a new one, or has kept its size. -/
def SizeFollows (world : TerminalSession) : TerminalEvent → Prop
  | .notifyReady cols rows _ outcome =>
      world.bridge.isConnected = true →
        (world.bridge.agentId ≠ "" ∧ outcome ≠ .rejected) ∨
          (world.bridge.pendingCols, world.bridge.pendingRows) = (cols, rows)
  | .socket .connected =>
      world.bridge.hasPendingResize = true ∨
        world.socket.path.map PtyPath.size =
          some (world.bridge.pendingCols, world.bridge.pendingRows)
  | _ => True

/-! ### Told sizes -/

/-- A new connection tells the size of its path. -/
theorem toldSize_requested (state : SocketState) (path : Option PtyPath) :
    toldSize ⟨state, path, []⟩ = path.map PtyPath.size := by
  cases path with
  | none | some => rfl

/-- A resize tells its size. -/
theorem toldSize_resize (socket : WebSocket PtyPath PtyFrame) (cols rows : Int) :
    toldSize { socket with sent := socket.sent ++ [.resize cols rows] } = some (cols, rows) := by
  simp only [toldSize, List.filterMap_append]
  rw [← List.append_assoc]
  exact List.getLast?_concat

/-- Input tells no size. -/
theorem toldSize_input (socket : WebSocket PtyPath PtyFrame) (data : String) :
    toldSize { socket with sent := socket.sent ++ [.input data] } = toldSize socket := by
  simp [toldSize, PtyFrame.size]

/-! ### The bridge -/

variable {bridge : TerminalBridge}

/-- A socket that is not connected changes nothing by its signals. -/
theorem emit_of_not_connected (down : bridge.isConnected = false)
    (signals : List WebSocketSignal) : bridge.emit signals = bridge := by
  have quiet : bridge.onConnectionStateChanged = bridge := by
    rw [TerminalBridge.onConnectionStateChanged, down]
    rfl
  induction signals with
  | nil => rfl
  | cons signal signals inductionHypothesis =>
      rw [TerminalBridge.emit, List.foldl_cons, quiet, ite_self]
      exact inductionHypothesis

/-- A call that connects changes the bridge by its socket alone. -/
theorem tryConnect_eq (uuid : String) (outcome : OpenOutcome) :
    bridge.tryConnect uuid outcome =
      if bridge.jsReady && decide (bridge.agentId ≠ "") then
        { bridge with
          ws := (bridge.ws.connectToPty bridge.agentId bridge.pendingCols bridge.pendingRows uuid
            outcome).1 }
      else bridge := by
  rw [TerminalBridge.tryConnect]
  split
  · cases outcome with
    | rejected | pending => rfl
    | failed =>
        have opens : OpenOutcome.failed ≠ .rejected := nofun
        refine emit_of_not_connected ?_ _
        exact WebSocketBase.isConnected_connectToEndpoint _ opens
  · rfl

/-! ### What is kept -/

/-- The bridge knows the last size, and before there is one it does not connect. A socket
that is still to be connected was sent nothing. -/
structure Tracked (world : TerminalSession) : Prop where
  pending : ∀ size ∈ world.latest, (world.bridge.pendingCols, world.bridge.pendingRows) = size
  ready : world.latest = none → world.bridge.jsReady = false
  unopened : world.latest = none → world.socket.state = .unconnected
  idle : world.latest = none → world.bridge.ws.base.reconnectTimer = none
  unsent : world.socket.state = .connecting → world.socket.sent = []

variable {world : TerminalSession}

/-- Once there is a size, the socket is free to change. -/
theorem Tracked.setSocket {latest : Option (Int × Int)} (tracked : Tracked ⟨bridge, latest⟩)
    (isSized : latest ≠ none) {ws : TerminalWebSocket} (hasPendingResize : Bool)
    (unsent : ws.base.socket.state = .connecting → ws.base.socket.sent = []) :
    Tracked ⟨{ bridge with ws, hasPendingResize }, latest⟩ where
  pending := tracked.pending
  ready notSized := absurd notSized isSized
  unopened notSized := absurd notSized isSized
  idle notSized := absurd notSized isSized
  unsent := unsent

/-- Nothing is sent before the connection is established. -/
theorem unsent_connectToEndpoint {base : WebSocketBase PtyPath PtyFrame}
    (unsent : base.socket.state = .connecting → base.socket.sent = []) (path : Option PtyPath)
    (outcome : OpenOutcome) :
    (base.connectToEndpoint path outcome).1.socket.state = .connecting →
      (base.connectToEndpoint path outcome).1.socket.sent = [] := by
  rw [WebSocketBase.socket_connectToEndpoint]
  cases outcome with
  | rejected => exact unsent
  | pending | failed => exact fun _ => rfl

/-- Connecting keeps the sizes. -/
theorem Tracked.tryConnect {latest : Option (Int × Int)} (tracked : Tracked ⟨bridge, latest⟩)
    (uuid : String) (outcome : OpenOutcome) :
    Tracked ⟨bridge.tryConnect uuid outcome, latest⟩ := by
  rw [tryConnect_eq]
  split
  · next ready =>
      refine tracked.setSocket (fun notSized => ?_) bridge.hasPendingResize
        (unsent_connectToEndpoint tracked.unsent _ _)
      have notReady : bridge.jsReady = false := tracked.ready notSized
      rw [notReady] at ready
      exact Bool.false_ne_true ready
  · exact tracked

/-- Only a socket that is connected sends. -/
theorem unsent_sendBinaryMessage {base : WebSocketBase PtyPath PtyFrame}
    (unsent : base.socket.state = .connecting → base.socket.sent = []) (frame : PtyFrame) :
    (base.sendBinaryMessage frame).socket.state = .connecting →
      (base.sendBinaryMessage frame).socket.sent = [] := by
  rw [WebSocketBase.sendBinaryMessage]
  split
  · next up =>
      intro connecting
      have connected : base.socket.state = .connected := of_decide_eq_true up
      cases connected.symm.trans connecting
  · exact unsent

/-- Signals keep the sizes. -/
theorem Tracked.emit {latest : Option (Int × Int)} (tracked : Tracked ⟨bridge, latest⟩)
    (isSized : latest ≠ none) (signals : List WebSocketSignal) :
    Tracked ⟨bridge.emit signals, latest⟩ := by
  have flushed {bridge : TerminalBridge} (tracked : Tracked ⟨bridge, latest⟩) :
      Tracked ⟨bridge.onConnectionStateChanged, latest⟩ := by
    unfold TerminalBridge.onConnectionStateChanged
    split
    · exact tracked.setSocket isSized false (unsent_sendBinaryMessage tracked.unsent _)
    · exact tracked
  induction signals generalizing bridge with
  | nil => exact tracked
  | cons signal signals inductionHypothesis =>
      rw [TerminalBridge.emit, List.foldl_cons]
      refine inductionHypothesis ?_
      split
      · exact flushed tracked
      · exact tracked

/-- The bridge reacts to the socket's signals. -/
theorem of_react {event : SocketEvent} {after : TerminalBridge}
    (reacted : bridge.react event = some after) :
    ∃ reaction, bridge.ws.base.Reacted event reaction ∧
      after =
        TerminalBridge.emit { bridge with ws := { bridge.ws with base := reaction.1 } }
          reaction.2 := by
  obtain ⟨reaction, fired, rfl⟩ := Option.map_eq_some_iff.mp reacted
  exact ⟨reaction, WebSocketBase.reacted_of_react fired, rfl⟩

/-- What the connection reports keeps the sizes. -/
theorem Tracked.react {event : SocketEvent} {after : TerminalBridge} (tracked : world.Tracked)
    (reacted : world.bridge.react event = some after) : Tracked ⟨after, world.latest⟩ := by
  obtain ⟨reaction, fired, rfl⟩ := of_react reacted
  -- A size that was not reported yet leaves the socket nothing to do.
  have emitted (isSized : world.latest ≠ none)
      (unsent : reaction.1.socket.state = .connecting → reaction.1.socket.sent = []) :
      Tracked
        ⟨{ world.bridge with ws := { world.bridge.ws with base := reaction.1 } }.emit reaction.2,
          world.latest⟩ :=
    Tracked.emit (tracked.setSocket isSized _ unsent) isSized reaction.2
  cases fired with
  | connected connecting =>
      refine emitted (fun notSized => ?_) nofun
      cases connecting.symm.trans (tracked.unopened notSized)
  | disconnected opened =>
      refine emitted (fun notSized => opened (tracked.unopened notSized)) ?_
      rw [WebSocketBase.socket_onDisconnected]
      exact nofun
  | error => exact tracked
  | timeout armed outcome =>
      refine emitted (fun notSized => armed (tracked.idle notSized)) ?_
      cases path : world.bridge.ws.base.lastPath with
      | none =>
          rw [WebSocketBase.attemptReconnect_of_noPath path]
          exact tracked.unsent
      | some path =>
          rw [WebSocketBase.attemptReconnect_of_path ‹_›]
          exact unsent_connectToEndpoint tracked.unsent _ _

/-- A connected terminal was told a size. -/
theorem Tracked.sized_of_connected (tracked : world.Tracked)
    (up : world.bridge.isConnected = true) : world.latest ≠ none := by
  intro notSized
  have connected : world.socket.state = .connected := of_decide_eq_true up
  cases connected.symm.trans (tracked.unopened notSized)

/-- Every event keeps the sizes. -/
theorem Tracked.next {event : TerminalEvent} {after : TerminalSession} (tracked : world.Tracked)
    (taken : world.next event = some after) : after.Tracked := by
  cases event with
  | setAgentId agentId uuid outcome =>
      obtain rfl := Option.some.inj taken
      have named : Tracked ⟨{ world.bridge with agentId }, world.latest⟩ :=
        ⟨tracked.pending, tracked.ready, tracked.unopened, tracked.idle, tracked.unsent⟩
      exact named.tryConnect uuid outcome
  | notifyReady cols rows uuid outcome =>
      obtain rfl := Option.some.inj taken
      have sized : Tracked
          ⟨{ world.bridge with jsReady := true, pendingCols := cols, pendingRows := rows },
            some (cols, rows)⟩ :=
        ⟨fun _ isSize => Option.some.inj isSize, nofun, nofun, nofun, tracked.unsent⟩
      exact sized.tryConnect uuid outcome
  | sendInput data =>
      obtain rfl := Option.some.inj taken
      unfold TerminalBridge.sendInput
      split
      · next up =>
          exact tracked.setSocket (tracked.sized_of_connected up) _
            (unsent_sendBinaryMessage tracked.unsent _)
      · exact tracked
  | resize cols rows =>
      obtain rfl := Option.some.inj taken
      have sized : Tracked
          ⟨{ world.bridge with pendingCols := cols, pendingRows := rows }, some (cols, rows)⟩ :=
        ⟨fun _ isSize => Option.some.inj isSize, nofun, nofun, nofun, tracked.unsent⟩
      unfold TerminalBridge.resize
      dsimp only
      split
      · exact sized.setSocket nofun _ (unsent_sendBinaryMessage tracked.unsent _)
      · exact sized.setSocket nofun true tracked.unsent
  | disconnectFromPty =>
      obtain rfl := Option.some.inj taken
      refine ⟨tracked.pending, tracked.ready, fun notSized => ?_, fun _ => rfl, ?_⟩
      · have unopened := tracked.unopened notSized
        exact (congrArg WebSocket.state (if_neg (not_not.mpr unopened))).trans unopened
      · change (if world.socket.state ≠ .unconnected then
          { world.socket with state := .closing } else world.socket).state = .connecting → _
        split
        · exact nofun
        · next opened =>
            intro connecting
            rw [connecting] at opened
            exact absurd nofun opened
  | socket event =>
      obtain ⟨bridge, reacted, rfl⟩ := Option.map_eq_some_iff.mp taken
      exact tracked.react reacted

/-! ### Steps -/

/-- Without a connection nobody has to be informed. -/
theorem ptyInformed_of_not_connected (down : world.bridge.isConnected = false) :
    world.PtyInformed := by
  intro up
  rw [down] at up
  cases up

/-- A connection that is requested anew makes up for any size. -/
theorem ptyInformed_tryConnect_iff (latest : Option (Int × Int)) (uuid : String)
    (outcome : OpenOutcome) :
    PtyInformed ⟨bridge.tryConnect uuid outcome, latest⟩ ↔
      ((bridge.jsReady = true ∧ bridge.agentId ≠ "") ∧ outcome ≠ .rejected) ∨
        PtyInformed ⟨bridge, latest⟩ := by
  rw [tryConnect_eq]
  split
  · next ready =>
      rw [Bool.and_eq_true, decide_eq_true_eq] at ready
      by_cases opens : outcome = .rejected
      · subst opens
        exact (or_iff_right fun opens => opens.2 rfl).symm
      · refine iff_of_true (ptyInformed_of_not_connected ?_) (.inl ⟨ready, opens⟩)
        exact WebSocketBase.isConnected_connectToEndpoint _ opens
  · next notReady =>
      rw [Bool.and_eq_true, decide_eq_true_eq] at notReady
      exact (or_iff_right fun opens => notReady opens.1).symm

/-- While it is connected the bridge keeps the latest size. -/
theorem Tracked.latest_of_connected (tracked : world.Tracked)
    (up : world.bridge.isConnected = true) :
    world.latest = some (world.bridge.pendingCols, world.bridge.pendingRows) := by
  obtain ⟨size, isSize⟩ := Option.ne_none_iff_exists'.mp (tracked.sized_of_connected up)
  rw [isSize, tracked.pending size isSize]

/-- A page that is ready keeps the terminal informed exactly when its size follows. -/
theorem Tracked.informed_notifyReady_iff (tracked : world.Tracked) (informed : world.PtyInformed)
    (cols rows : Int) (uuid : String) (outcome : OpenOutcome) :
    PtyInformed ⟨world.bridge.notifyReady cols rows uuid outcome, some (cols, rows)⟩ ↔
      world.SizeFollows (.notifyReady cols rows uuid outcome) := by
  rw [TerminalBridge.notifyReady, ptyInformed_tryConnect_iff]
  constructor
  · rintro (⟨⟨-, hasAgent⟩, opens⟩ | told) up
    · exact .inl ⟨hasAgent, opens⟩
    · have told : toldSize world.socket = some (cols, rows) := told up
      rw [informed up, tracked.latest_of_connected up] at told
      exact .inr (Option.some.inj told)
  · intro follows
    cases up : world.bridge.isConnected with
    | false => exact .inr (ptyInformed_of_not_connected up)
    | true =>
        rcases follows up with ⟨hasAgent, opens⟩ | same
        · exact .inl ⟨⟨rfl, hasAgent⟩, opens⟩
        · refine .inr fun _ => (informed up).trans ?_
          rw [tracked.latest_of_connected up, same]

/-- On a connection the frame is sent. -/
theorem socket_sendBinaryMessage {base : WebSocketBase PtyPath PtyFrame}
    (up : base.isConnected = true) (frame : PtyFrame) :
    (base.sendBinaryMessage frame).socket =
      { base.socket with sent := base.socket.sent ++ [frame] } :=
  congrArg WebSocketBase.socket (if_pos up)

/-- Input keeps the terminal informed. -/
theorem PtyInformed.sendInput (informed : world.PtyInformed) (data : String) :
    PtyInformed ⟨world.bridge.sendInput data, world.latest⟩ := by
  unfold TerminalBridge.sendInput
  split
  · next up =>
      intro _
      have sent := congrArg toldSize (socket_sendBinaryMessage up (.input data))
      exact sent.trans ((toldSize_input _ data).trans (informed up))
  · exact informed

/-- A resize informs the terminal. -/
theorem ptyInformed_resize (cols rows : Int) :
    PtyInformed ⟨bridge.resize cols rows, some (cols, rows)⟩ := by
  unfold TerminalBridge.resize
  dsimp only
  split
  · next up =>
      intro _
      have sent := congrArg toldSize (socket_sendBinaryMessage up (.resize cols rows))
      exact sent.trans (toldSize_resize _ cols rows)
  · next down => exact ptyInformed_of_not_connected (Bool.eq_false_iff.mpr down)

/-- A connection that comes up tells the size it was requested with, if no resize waits. -/
theorem Tracked.informed_connected_iff (tracked : world.Tracked) {after : TerminalBridge}
    (reacted : world.bridge.react .connected = some after) :
    PtyInformed ⟨after, world.latest⟩ ↔ world.SizeFollows (.socket .connected) := by
  obtain ⟨reaction, ⟨connecting⟩, rfl⟩ := of_react reacted
  have isSized : world.latest ≠ none := by
    intro notSized
    cases connecting.symm.trans (tracked.unopened notSized)
  obtain ⟨size, isSize⟩ := Option.ne_none_iff_exists'.mp isSized
  have isPending := tracked.pending size isSize
  change PtyInformed ⟨TerminalBridge.onConnectionStateChanged _, _⟩ ↔ _
  unfold TerminalBridge.onConnectionStateChanged
  split
  · next waits =>
      refine iff_of_true (fun _ => ?_) (.inl (Bool.and_eq_true_iff.mp waits).2)
      rw [isSize, ← isPending]
      exact (congrArg toldSize (socket_sendBinaryMessage rfl _)).trans (toldSize_resize _ _ _)
  · next waits =>
      have waits : world.bridge.hasPendingResize ≠ true := fun waiting => waits waiting
      rw [SizeFollows, or_iff_right waits, isPending, ← isSize]
      have told : toldSize ⟨.connected, world.socket.path, world.socket.sent⟩ =
          world.socket.path.map PtyPath.size := by
        rw [tracked.unsent connecting]
        exact toldSize_requested _ _
      rw [← told]
      exact ⟨fun informed => informed rfl, fun same _ => same⟩

/-- Signals of a connection that is down inform nobody. -/
theorem ptyInformed_emit (down : bridge.isConnected = false) (signals : List WebSocketSignal)
    {latest : Option (Int × Int)} : PtyInformed ⟨bridge.emit signals, latest⟩ := by
  rw [emit_of_not_connected down]
  exact ptyInformed_of_not_connected down

/-- A retry keeps the terminal informed. -/
theorem PtyInformed.timeout {outcome : OpenOutcome} {after : TerminalBridge}
    (informed : world.PtyInformed) (reacted : world.bridge.react (.timeout outcome) = some after) :
    PtyInformed ⟨after, world.latest⟩ := by
  obtain ⟨reaction, ⟨-⟩, rfl⟩ := of_react reacted
  cases hasPath : world.bridge.ws.base.lastPath with
  | none =>
      rw [WebSocketBase.attemptReconnect, hasPath]
      exact informed
  | some path =>
      cases outcome with
      | rejected =>
          rw [WebSocketBase.attemptReconnect, hasPath]
          exact informed
      | pending | failed =>
          refine ptyInformed_emit ?_ _
          exact WebSocketBase.isConnected_attemptReconnect hasPath (by decide)

/-- An event keeps the terminal informed exactly when the size follows. -/
theorem Tracked.informed_next_iff {event : TerminalEvent} {after : TerminalSession}
    (tracked : world.Tracked) (informed : world.PtyInformed)
    (taken : world.next event = some after) : after.PtyInformed ↔ world.SizeFollows event := by
  cases event with
  | setAgentId agentId uuid outcome =>
      obtain rfl := Option.some.inj taken
      exact iff_of_true ((ptyInformed_tryConnect_iff _ _ _).mpr (.inr informed)) trivial
  | notifyReady cols rows uuid outcome =>
      obtain rfl := Option.some.inj taken
      exact tracked.informed_notifyReady_iff informed cols rows uuid outcome
  | sendInput data =>
      obtain rfl := Option.some.inj taken
      exact iff_of_true (informed.sendInput data) trivial
  | resize cols rows =>
      obtain rfl := Option.some.inj taken
      exact iff_of_true (ptyInformed_resize cols rows) trivial
  | disconnectFromPty =>
      obtain rfl := Option.some.inj taken
      exact iff_of_true (ptyInformed_of_not_connected WebSocketBase.isConnected_disconnect) trivial
  | socket event =>
      obtain ⟨bridge, reacted, rfl⟩ := Option.map_eq_some_iff.mp taken
      cases event with
      | connected => exact tracked.informed_connected_iff reacted
      | disconnected =>
          obtain ⟨reaction, ⟨-⟩, rfl⟩ := of_react reacted
          refine iff_of_true (ptyInformed_emit ?_ _) trivial
          refine WebSocketBase.isConnected_of_socket WebSocketBase.socket_onDisconnected ?_
          exact nofun
      | error =>
          obtain ⟨reaction, ⟨⟩, rfl⟩ := of_react reacted
          exact iff_of_true informed trivial
      | timeout outcome => exact iff_of_true (informed.timeout reacted) trivial

/-! ### Runs -/

/-- The PTY of a connected terminal knows its size in every state exactly if the sizes of
connections that come up, and of pages that get ready again, follow. -/
theorem ptyInformed_iff (events : List TerminalEvent) :
    (∀ world, Visits next new events world → world.PtyInformed) ↔
      Conforms next SizeFollows new events := by
  refine visits_iff_conforms Tracked PtyInformed (fun _ _ _ tracked taken => tracked.next taken)
    (fun _ _ _ tracked informed taken => tracked.informed_next_iff informed taken) ?_
    (ptyInformed_of_not_connected rfl) events
  exact ⟨nofun, fun _ => rfl, fun _ => rfl, fun _ => rfl, nofun⟩

/-- A terminal that is resized, loses its connection and reconnects on its own. -/
theorem resumed_with_first_size :
    ¬ ∀ world, Visits next new
        [.setAgentId "a" "" .pending, .notifyReady 80 24 "s" .pending, .socket .connected,
          .resize 120 40, .socket .disconnected, .socket (.timeout .pending),
          .socket .connected] world → world.PtyInformed := by
  refine not_visits_of_replay
    (fun world => world.bridge.isConnected && decide (toldSize world.socket ≠ world.latest))
    (by decide) ?_
  intro world told informed
  obtain ⟨up, differs⟩ := Bool.and_eq_true_iff.mp told
  exact of_decide_eq_true differs (informed up)

end TerminalSession

end CoderDesktop.Terminal
