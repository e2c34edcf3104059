import CoderDesktop.Vpn.Bridge
import CoderDesktop.Vpn.UpdatesHandler

/-!
# Peers on their way to the application

Every tunnel has an updates handler with its map of agents, its running `Update`
calls and its ping rounds. `PeerWorld` adds the handlers and the application's
`PeerModel` to the helper and the bridge. All signals travel on one connection:
`traffic` is their order, where `message` stands for the next entry of the
bridge's own queue.
-/

namespace CoderDesktop.Vpn

/-- `PeerModel::PeerInfo` has the fields of the signal. -/
abbrev PeerInfo := PeerUpdated

/-- `PeerModel::updatePeer`: the first row with the host name is replaced. -/
def updatePeer (peer : PeerInfo) : List PeerInfo → List PeerInfo
  | [] => [peer]
  | row :: rest =>
      if row.hostname = peer.hostname then peer :: rest else row :: updatePeer peer rest

/-- The suffix of a deployment that reports none is "coder". -/
def hostnameSuffix (reported : String) : String :=
  if reported = "" then "coder" else reported

/-- What made the helper emit a `PeerUpdated`. -/
inductive Cause where
  | upserted
  | deleted
  | workspace
  | pinged
deriving DecidableEq, Repr

/-- A `PeerUpdated` of the helper, and what the signal itself does not tell: what it was
emitted for. -/
structure Emission where
  cause : Cause
  /-- The agent; a workspace's own signal is about none. -/
  agent : Option AgentRef
  signal : PeerUpdated
deriving DecidableEq, Repr

/-- The updates handler of a tunnel. -/
structure Handler where
  attempt : AttemptId
  suffix : String
  agents : AList fun _ : String => TrackedAgent
  /-- The steps left of each `Update` call. -/
  updates : List (List UpdateAction)
  rounds : List PingRound

namespace Handler

/-- One step of an `Update` call. -/
def act (handler : Handler) : UpdateAction → Handler × Option Emission
  | .emitAgent change =>
      (handler, some ⟨match change.kind with
        | .upserted => .upserted
        | .deleted => .deleted, change.ref, change.signal handler.suffix⟩)
  | .store change =>
      ({ handler with agents := change.store handler.suffix handler.agents }, none)
  | .emitWorkspace workspace status =>
      (handler, some ⟨.workspace, none, workspaceSignal workspace status handler.suffix⟩)

/-- A ping round comes to an agent; an address that is not valid is skipped and an
unanswered ping ignored. -/
def ping (agent : TrackedAgent) : Option (Int × Bool) → Option (Option Emission)
  | some (lastPingMs, isP2P) =>
      if agent.ip.isSome then
        some (some ⟨.pinged, agent.ref, agent.pinged lastPingMs isP2P⟩)
      else none
  | none => some none

end Handler

/-- A message on the connection to the application. -/
inductive Traffic where
  /-- The next entry of the bridge's queue. -/
  | message
  | peer (signal : PeerUpdated)
deriving DecidableEq, Repr

/-- The bridge and the helper, the updates handlers, and the rows shown. -/
structure PeerWorld where
  world : World
  handlers : List Handler
  traffic : List Traffic
  /-- The rows of the `PeerModel`. -/
  peers : List PeerInfo
  /-- Every `PeerUpdated` emitted, the latest first. -/
  log : List Emission

/-- The bridge and the helper, the controllers and the ping loops act. -/
inductive PeerEvent where
  /-- Anything the bridge and the helper do but a delivery. -/
  | world (event : WorldEvent)
  /-- `startTunnel` makes the updates handler and runs the controller. -/
  | controllerRun (attempt : AttemptId) (reportedSuffix : String)
  /-- The controller calls `Update`. -/
  | update (handler : Nat) (update : WorkspaceUpdate)
  /-- The next step of an `Update` call. -/
  | act (handler call : Nat)
  /-- The ping loop's ticker: a round takes its snapshot. -/
  | tick (handler : Nat)
  /-- A round is done with one of its agents; `answer` is the result of the ping. -/
  | ping (handler round agent : Nat) (answer : Option (Int × Bool))
  | deliver

/-- The signals the bridge emits in a step. -/
def World.signals (world : World) : WorldEvent → List BridgeSignal
  | .userStart url token => (world.bridge.start url token).2.1
  | .userStop => world.bridge.stop.2.1
  | .deliver => ((world.queue.head?).map fun message => (world.bridge.receive message).2).getD []
  | .helper _ | .execute _ | .refuse _ _ | .sendReply _ => []

namespace PeerWorld

/-- The application starts next to a fresh helper. -/
def new : PeerWorld := ⟨.construct .new, [], [], [], []⟩

/-- The wiring of `stateChanged`: one connection clears the rows when the state is
"disconnected", another when it is not "connected". -/
def peersAfter (state : PeerWorld) (event : WorldEvent) (next : World) : List PeerInfo :=
  if .stateChanged ∈ state.world.signals event ∧ next.bridge.state ≠ .reported .connected then []
  else state.peers

/-- A signal is sent after those under way. -/
def emit (state : PeerWorld) : Option Emission → PeerWorld
  | some emission =>
      { state with
        traffic := state.traffic ++ [.peer emission.signal]
        log := emission :: state.log }
  | none => state

/-- A handler moves on. -/
def setHandler (state : PeerWorld) (index : Nat) (handler : Handler) : PeerWorld :=
  { state with handlers := state.handlers.set index handler }

/-- The controller of an attempt runs from just before the tunnel is saved. -/
def mayRun (state : PeerWorld) (attempt : AttemptId) : Bool :=
  (state.world.helper.attempts[attempt]?.any (·.phase = .save)) ∧
    state.handlers.all (·.attempt ≠ attempt)

/-- A step of the bridge and the helper, with the messages left on the connection. -/
def withWorld (state : PeerWorld) (event : WorldEvent) (world : World)
    (traffic : List Traffic) : PeerWorld :=
  { state with world := world, traffic := traffic, peers := state.peersAfter event world }

/-- One event; messages and peer signals share one queue. -/
def next (state : PeerWorld) : PeerEvent → Option PeerWorld
  | .world event =>
      if event = .deliver then none
      else do
        let world ← state.world.next event
        return state.withWorld event world (state.traffic ++
          List.replicate (world.queue.length - state.world.queue.length) .message)
  | .controllerRun attempt reportedSuffix =>
      if state.mayRun attempt then
        some { state with
          handlers := state.handlers ++ [⟨attempt, hostnameSuffix reportedSuffix, ∅, [], []⟩] }
      else
        none
  | .update index update => do
      let handler ← state.handlers[index]?
      return state.setHandler index
        { handler with updates := handler.updates ++ [update.actions] }
  | .act index call => do
      let handler ← state.handlers[index]?
      match ← handler.updates[call]? with
      | [] => none
      | action :: rest =>
          let result := { handler with updates := handler.updates.set call rest }.act action
          return (state.setHandler index result.1).emit result.2
  | .tick index => do
      let handler ← state.handlers[index]?
      return state.setHandler index
        { handler with rounds := handler.rounds ++ [snapshot handler.agents] }
  | .ping index round agent answer => do
      let handler ← state.handlers[index]?
      let left ← handler.rounds[round]?
      let tracked ← left[agent]?
      let emission ← Handler.ping tracked answer
      return (state.setHandler index
        { handler with rounds := handler.rounds.set round (left.eraseIdx agent) }).emit emission
  | .deliver =>
      match state.traffic with
      | [] => none
      | .message :: rest => do
          let world ← state.world.next .deliver
          return state.withWorld .deliver world rest
      | .peer signal :: rest =>
          -- `peerUpdated` is connected to the model twice
          some { state with
            traffic := rest
            peers := updatePeer signal (updatePeer signal state.peers) }

/-- Every way a step can go. -/
inductive Step (state : PeerWorld) : PeerEvent → PeerWorld → Prop where
  | world {event world} (own : event ≠ .deliver) (taken : state.world.next event = some world) :
      Step state (.world event) (state.withWorld event world (state.traffic ++
        List.replicate (world.queue.length - state.world.queue.length) .message))
  | controllerRun {attempt reported} (mayRun : state.mayRun attempt = true) :
      Step state (.controllerRun attempt reported)
        { state with
          handlers := state.handlers ++ [⟨attempt, hostnameSuffix reported, ∅, [], []⟩] }
  | update {index update handler} (found : state.handlers[index]? = some handler) :
      Step state (.update index update) (state.setHandler index
        { handler with updates := handler.updates ++ [update.actions] })
  | act {index call handler action rest} (found : state.handlers[index]? = some handler)
      (running : handler.updates[call]? = some (action :: rest)) :
      Step state (.act index call)
        ((state.setHandler index
          ({ handler with updates := handler.updates.set call rest }.act action).1).emit
            ({ handler with updates := handler.updates.set call rest }.act action).2)
  | tick {index handler} (found : state.handlers[index]? = some handler) :
      Step state (.tick index) (state.setHandler index
        { handler with rounds := handler.rounds ++ [snapshot handler.agents] })
  | ping {index round agent answer handler left tracked emission}
      (found : state.handlers[index]? = some handler)
      (running : handler.rounds[round]? = some left) (current : left[agent]? = some tracked)
      (pinged : Handler.ping tracked answer = some emission) :
      Step state (.ping index round agent answer)
        ((state.setHandler index
          { handler with rounds := handler.rounds.set round (left.eraseIdx agent) }).emit emission)
  | deliverMessage {rest world} (first : state.traffic = .message :: rest)
      (taken : state.world.next .deliver = some world) :
      Step state .deliver (state.withWorld .deliver world rest)
  | deliverPeer {signal rest} (first : state.traffic = .peer signal :: rest) :
      Step state .deliver
        { state with
          traffic := rest
          peers := updatePeer signal (updatePeer signal state.peers) }

/-- Every event is one of the steps listed. -/
theorem step_of_next {state after : PeerWorld} {event : PeerEvent}
    (taken : state.next event = some after) : Step state event after := by
  cases event with
  | world event =>
      obtain ⟨own, taken⟩ := Option.ite_none_left_eq_some.mp taken
      obtain ⟨world, moved, taken⟩ := Option.bind_eq_some_iff.mp taken
      obtain rfl := Option.some.inj taken
      exact .world own moved
  | controllerRun attempt reported =>
      obtain ⟨mayRun, taken⟩ := Option.ite_none_right_eq_some.mp taken
      obtain rfl := Option.some.inj taken
      exact .controllerRun mayRun
  | update index update =>
      obtain ⟨handler, found, taken⟩ := Option.bind_eq_some_iff.mp taken
      obtain rfl := Option.some.inj taken
      exact .update found
  | act index call =>
      obtain ⟨handler, found, taken⟩ := Option.bind_eq_some_iff.mp taken
      obtain ⟨left, running, taken⟩ := Option.bind_eq_some_iff.mp taken
      cases left with
      | nil => cases taken
      | cons action rest =>
          obtain rfl := Option.some.inj taken
          exact .act found running
  | tick index =>
      obtain ⟨handler, found, taken⟩ := Option.bind_eq_some_iff.mp taken
      obtain rfl := Option.some.inj taken
      exact .tick found
  | ping index round agent answer =>
      obtain ⟨handler, found, taken⟩ := Option.bind_eq_some_iff.mp taken
      obtain ⟨left, running, taken⟩ := Option.bind_eq_some_iff.mp taken
      obtain ⟨tracked, current, taken⟩ := Option.bind_eq_some_iff.mp taken
      obtain ⟨emission, pinged, taken⟩ := Option.bind_eq_some_iff.mp taken
      obtain rfl := Option.some.inj taken
      exact .ping found running current pinged
  | deliver =>
      simp only [next] at taken
      split at taken
      · cases taken
      · obtain ⟨world, moved, taken⟩ := Option.bind_eq_some_iff.mp taken
        obtain rfl := Option.some.inj taken
        exact .deliverMessage ‹_› moved
      · obtain rfl := Option.some.inj taken
        exact .deliverPeer ‹_›

end PeerWorld

end CoderDesktop.Vpn
