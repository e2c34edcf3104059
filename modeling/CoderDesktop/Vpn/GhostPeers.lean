import CoderDesktop.Vpn.Peers
import CoderDesktop.Vpn.Signals

/-!
# Ghost peers

A peer that was reported disconnected comes back only through a new upsert, and a
disconnected application shows no peers. Both fail through late signals: a ping
round works on a snapshot, and nothing waits for it or for a running `Update`.
-/

namespace CoderDesktop.Vpn

open Semantics

/-! ## The log of signals -/

namespace Emission

/-- CONNECTED for an agent. -/
def connects (emission : Emission) (agent : AgentRef) : Bool :=
  emission.agent = some agent ∧ emission.signal.status = 2

/-- DISCONNECTED for an agent. -/
def disconnects (emission : Emission) (agent : AgentRef) : Bool :=
  emission.agent = some agent ∧ emission.signal.status = 0

/-- The emission comes of an upsert of this agent. -/
def upserts (emission : Emission) (agent : AgentRef) : Bool :=
  emission.cause = .upserted ∧ emission.agent = some agent

end Emission

/-- After a DISCONNECTED for an agent there is no CONNECTED for it unless it was
upserted in between. The latest emission stands first. -/
def Grounded (log : List Emission) : Prop :=
  ∀ later up gap down earlier agent, log = later ++ up :: (gap ++ down :: earlier) →
    up.connects agent = true → down.disconnects agent = true →
      ∃ emission ∈ up :: gap, emission.upserts agent = true

/-- The agent was disconnected and has not been upserted since. -/
def gone (agent : AgentRef) : List Emission → Bool
  | [] => false
  | emission :: earlier =>
      if emission.disconnects agent then true
      else if emission.upserts agent then false
      else gone agent earlier

/-- An agent is gone when it was disconnected and not upserted since. -/
theorem gone_iff {agent : AgentRef} {log : List Emission} :
    gone agent log = true ↔ ∃ gap down earlier, log = gap ++ down :: earlier ∧
      down.disconnects agent = true ∧ ∀ emission ∈ gap, ¬ emission.upserts agent = true := by
  induction log with
  | nil => simp [gone]
  | cons emission earlier inductionHypothesis =>
      unfold gone
      constructor
      · intro isGone
        by_cases down : emission.disconnects agent = true
        · exact ⟨[], emission, earlier, rfl, down, fun _ => List.not_mem_nil.elim⟩
        · rw [if_neg down] at isGone
          by_cases up : emission.upserts agent = true
          · rw [if_pos up] at isGone
            cases isGone
          · rw [if_neg up] at isGone
            obtain ⟨gap, last, rest, rfl, disconnects, unbroken⟩ := inductionHypothesis.mp isGone
            refine ⟨emission :: gap, last, rest, rfl, disconnects, ?_⟩
            exact List.forall_mem_cons.mpr ⟨up, unbroken⟩
      · rintro ⟨gap, down, rest, split, disconnects, unbroken⟩
        cases gap with
        | nil =>
            obtain ⟨rfl, -⟩ := List.cons.inj split
            rw [if_pos disconnects]
        | cons first gap =>
            obtain ⟨rfl, rfl⟩ := List.cons.inj split
            obtain ⟨notFirst, unbroken⟩ := List.forall_mem_cons.mp unbroken
            rw [if_neg notFirst,
              inductionHypothesis.mpr ⟨gap, down, rest, rfl, disconnects, unbroken⟩,
              ite_self]

/-- What a new emission adds. -/
theorem grounded_cons {emission : Emission} {log : List Emission} :
    Grounded (emission :: log) ↔ Grounded log ∧ ∀ agent, emission.connects agent = true →
      emission.upserts agent = false → gone agent log = false := by
  constructor
  · intro grounded
    refine ⟨fun later up gap down earlier agent split => ?_, fun agent connects fresh => ?_⟩
    · exact grounded (emission :: later) up gap down earlier agent (by rw [split]; rfl)
    · by_contra isGone
      obtain ⟨gap, down, earlier, rfl, disconnects, unbroken⟩ :=
        gone_iff.mp ((Bool.not_eq_false _).mp isGone)
      obtain ⟨cause, member, upserts⟩ :=
        grounded [] emission gap down earlier agent rfl connects disconnects
      rcases List.mem_cons.mp member with rfl | between
      · rw [fresh] at upserts
        cases upserts
      · exact unbroken cause between upserts
  · rintro ⟨grounded, last⟩ later up gap down earlier agent split connects disconnects
    cases later with
    | cons first later =>
        obtain ⟨rfl, rfl⟩ := List.cons.inj split
        exact grounded later up gap down earlier agent rfl connects disconnects
    | nil =>
        obtain ⟨rfl, rfl⟩ := List.cons.inj split
        by_contra unbroken
        push Not at unbroken
        obtain ⟨notLast, unbroken⟩ := List.forall_mem_cons.mp unbroken
        have isGone := last agent connects (Bool.not_eq_true _ |>.mp notLast)
        rw [gone_iff.mpr ⟨gap, down, earlier, rfl, disconnects, unbroken⟩] at isGone
        cases isGone

/-- No signal, no ghost. -/
theorem grounded_nil : Grounded [] := by
  intro later up gap down earlier agent split
  simp at split

namespace PeerWorld

/-- The `PeerUpdated` a step emits. -/
def emitted (state : PeerWorld) : PeerEvent → Option Emission
  | .act index call => do
      let handler ← state.handlers[index]?
      let left ← handler.updates[call]?
      let action ← left.head?
      (handler.act action).2
  | .ping index round agent answer => do
      let handler ← state.handlers[index]?
      let left ← handler.rounds[round]?
      let tracked ← left[agent]?
      (Handler.ping tracked answer).join
  | .world _ | .controllerRun _ _ | .update _ _ | .tick _ | .deliver => none

@[simp] theorem log_emit (state : PeerWorld) (emission : Option Emission) :
    (state.emit emission).log = emission.toList ++ state.log := by
  cases emission <;> rfl

@[simp] theorem peers_emit (state : PeerWorld) (emission : Option Emission) :
    (state.emit emission).peers = state.peers := by
  cases emission <;> rfl

@[simp] theorem world_emit (state : PeerWorld) (emission : Option Emission) :
    (state.emit emission).world = state.world := by
  cases emission <;> rfl

/-- What a step does to the log. -/
theorem log_next {state after : PeerWorld} {event : PeerEvent} (step : Step state event after) :
    after.log = (state.emitted event).toList ++ state.log := by
  cases step with
  | act found running =>
      rw [log_emit]
      simp only [emitted, found, running, Option.bind_eq_bind, Option.bind_some, List.head?_cons]
      rename_i handler action rest
      cases action <;> rfl
  | ping found running current pinged =>
      rw [log_emit]
      simp only [emitted, found, running, current, pinged, Option.bind_eq_bind, Option.bind_some,
        Option.join_some]
      rfl
  | _ => rfl

/-! ## Emissions of the updates handler -/

/-- Where a `PeerUpdated` comes from. -/
inductive Emits (state : PeerWorld) : PeerEvent → Emission → Prop where
  | upserted {index call handler change rest} (found : state.handlers[index]? = some handler)
      (running : handler.updates[call]? = some (.emitAgent change :: rest))
      (kind : change.kind = .upserted) :
      Emits state (.act index call) ⟨.upserted, change.ref, change.signal handler.suffix⟩
  | deleted {index call handler change rest} (found : state.handlers[index]? = some handler)
      (running : handler.updates[call]? = some (.emitAgent change :: rest))
      (kind : change.kind = .deleted) :
      Emits state (.act index call) ⟨.deleted, change.ref, change.signal handler.suffix⟩
  | workspace {index call signal} : Emits state (.act index call) ⟨.workspace, none, signal⟩
  | pinged {index round agent lastPingMs isP2P handler left tracked}
      (found : state.handlers[index]? = some handler)
      (running : handler.rounds[round]? = some left) (current : left[agent]? = some tracked)
      (valid : tracked.ip.isSome = true) :
      Emits state (.ping index round agent (some (lastPingMs, isP2P)))
        ⟨.pinged, tracked.ref, tracked.pinged lastPingMs isP2P⟩

/-- What is emitted, one case for each place that emits. -/
theorem emits_of_emitted {state : PeerWorld} {event : PeerEvent} {emission : Emission}
    (emits : state.emitted event = some emission) : Emits state event emission := by
  cases event with
  | act index call =>
      obtain ⟨handler, found, emits⟩ := Option.bind_eq_some_iff.mp emits
      obtain ⟨left, running, emits⟩ := Option.bind_eq_some_iff.mp emits
      obtain ⟨action, first, emits⟩ := Option.bind_eq_some_iff.mp emits
      obtain ⟨rest, rfl⟩ := List.head?_eq_some_iff.mp first
      cases action with
      | store change => cases emits
      | emitWorkspace workspace status =>
          obtain rfl := Option.some.inj emits
          exact .workspace
      | emitAgent change =>
          obtain rfl := Option.some.inj emits
          cases kind : change.kind with
          | upserted => exact .upserted found running kind
          | deleted => exact .deleted found running kind
  | ping index round agent answer =>
      obtain ⟨handler, found, emits⟩ := Option.bind_eq_some_iff.mp emits
      obtain ⟨left, running, emits⟩ := Option.bind_eq_some_iff.mp emits
      obtain ⟨tracked, current, emits⟩ := Option.bind_eq_some_iff.mp emits
      cases answer with
      | none => cases emits
      | some answer =>
          obtain ⟨valid, emits⟩ :=
            Option.ite_none_right_eq_some.mp (Option.join_eq_some_iff.mp emits)
          obtain rfl := Option.some.inj (Option.some.inj emits)
          exact .pinged found running current valid
  | _ => cases emits

/-- Only a deleted agent is reported disconnected. -/
theorem Emits.cause_of_disconnects {state : PeerWorld} {event : PeerEvent} {emission : Emission}
    (emits : Emits state event emission) {agent : AgentRef}
    (disconnects : emission.disconnects agent = true) :
    emission.cause = .deleted ∧ emission.agent = some agent := by
  obtain ⟨isAgent, status⟩ := of_decide_eq_true disconnects
  cases emits with
  | deleted found running kind => exact ⟨rfl, isAgent⟩
  | upserted found running kind => simp [AgentChange.signal, kind] at status
  | workspace => cases isAgent
  | pinged found running current valid => simp [TrackedAgent.pinged] at status

/-! ## Running pings -/

end PeerWorld

/-- A running round has still to ping the agent, at an address that is valid. -/
def Handler.pinging (handler : Handler) (agent : AgentRef) : Bool :=
  handler.rounds.any fun round =>
    round.any fun tracked => tracked.ref = agent ∧ tracked.ip.isSome = true

namespace PeerWorld

/-- Some round of pings still has the agent ahead. -/
def pinging (state : PeerWorld) (agent : AgentRef) : Bool :=
  state.handlers.any (·.pinging agent)

/-- No agent is reported disconnected while a round has still to ping it, and no round takes
its snapshot while the map has an entry of an agent that was, and was not upserted since. -/
def PingsSettled (state : PeerWorld) : PeerEvent → Prop
  | .act index call =>
      ∀ emission ∈ state.emitted (.act index call), emission.cause = .deleted →
        ∀ agent ∈ emission.agent, state.pinging agent = false
  | .tick index =>
      ∀ handler ∈ state.handlers[index]?, ∀ tracked ∈ snapshot handler.agents,
        tracked.ip.isSome = true → gone tracked.ref state.log = false
  | .world _ | .controllerRun _ _ | .update _ _ | .ping _ _ _ _ | .deliver => True

/-- Every agent that is still to be pinged is there. -/
def Settled (state : PeerWorld) : Prop :=
  ∀ agent, state.pinging agent = true → gone agent state.log = false

/-- A round has an entry of the agent ahead, with an address. -/
theorem pinging_iff {state : PeerWorld} {agent : AgentRef} :
    state.pinging agent = true ↔ ∃ handler ∈ state.handlers, ∃ round ∈ handler.rounds,
      ∃ tracked ∈ round, tracked.ref = agent ∧ tracked.ip.isSome = true := by
  simp only [pinging, Handler.pinging, List.any_eq_true, decide_eq_true_eq]

/-- A signal leaves the rounds alone. -/
theorem pinging_emit (state : PeerWorld) (emission : Option Emission) (agent : AgentRef) :
    (state.emit emission).pinging agent = state.pinging agent := by
  cases emission <;> rfl

/-- A handler that moves on pings, or another does. -/
theorem pinging_of_setHandler {state : PeerWorld} {index : Nat} {handler : Handler}
    {agent : AgentRef} (pings : (state.setHandler index handler).pinging agent = true) :
    state.pinging agent = true ∨ handler.pinging agent = true := by
  obtain ⟨other, member, otherPings⟩ := List.any_eq_true.mp pings
  rcases List.mem_or_eq_of_mem_set member with old | rfl
  · exact .inl (List.any_eq_true.mpr ⟨other, old, otherPings⟩)
  · exact .inr otherPings

/-- A handler that keeps pinging keeps the state pinging. -/
theorem pinging_setHandler {state : PeerWorld} {index : Nat} {before handler : Handler}
    (found : state.handlers[index]? = some before) {agent : AgentRef}
    (keeps : before.pinging agent = true → handler.pinging agent = true)
    (pings : state.pinging agent = true) :
    (state.setHandler index handler).pinging agent = true := by
  obtain ⟨within, rfl⟩ := List.getElem?_eq_some_iff.mp found
  obtain ⟨other, member, pings⟩ := List.any_eq_true.mp pings
  obtain ⟨position, inside, rfl⟩ := List.mem_iff_getElem.mp member
  refine List.any_eq_true.mpr ?_
  by_cases here : index = position
  · subst here
    exact ⟨handler, List.mem_set within handler, keeps pings⟩
  · refine ⟨state.handlers[position], ?_, pings⟩
    refine List.mem_iff_getElem.mpr ⟨position, ?_, List.getElem_set_ne here _⟩
    exact (List.length_set ..).symm ▸ inside

/-- Only a tick begins new pings. -/
theorem pinging_step {state after : PeerWorld} {event : PeerEvent}
    (step : Step state event after) {agent : AgentRef} (pings : after.pinging agent = true) :
    state.pinging agent = true ∨ ∃ index handler, event = .tick index ∧
      state.handlers[index]? = some handler ∧
        ∃ tracked ∈ snapshot handler.agents, tracked.ref = agent ∧ tracked.ip.isSome = true := by
  have mine {index : Nat} {handler : Handler} (found : state.handlers[index]? = some handler)
      (pings : handler.pinging agent = true) : state.pinging agent = true :=
    List.any_eq_true.mpr ⟨handler, List.mem_of_getElem? found, pings⟩
  cases step with
  | world own taken => exact .inl pings
  | deliverMessage first taken => exact .inl pings
  | deliverPeer first => exact .inl pings
  | controllerRun mayRun =>
      obtain ⟨handler, member, pings⟩ := List.any_eq_true.mp pings
      rcases List.mem_append.mp member with old | new
      · exact .inl (List.any_eq_true.mpr ⟨handler, old, pings⟩)
      · obtain rfl := List.mem_singleton.mp new
        cases pings
  | update found => exact .inl ((pinging_of_setHandler pings).elim id fun own => mine found own)
  | @act _ _ handler action _ found running =>
      rw [pinging_emit] at pings
      refine .inl ((pinging_of_setHandler pings).elim id fun pings => mine found ?_)
      cases action <;> exact pings
  | @tick index handler found =>
      rcases pinging_of_setHandler pings with before | own
      · exact .inl before
      · obtain ⟨round, member, inRound⟩ := List.any_eq_true.mp own
        rcases List.mem_append.mp member with old | new
        · exact .inl (mine found (List.any_eq_true.mpr ⟨round, old, inRound⟩))
        · obtain rfl := List.mem_singleton.mp new
          obtain ⟨tracked, inSnapshot, isAgent⟩ := List.any_eq_true.mp inRound
          exact .inr ⟨index, handler, rfl, found, tracked, inSnapshot, of_decide_eq_true isAgent⟩
  | @ping _ round position _ handler left _ _ found running current pinged =>
      rw [pinging_emit] at pings
      refine .inl ((pinging_of_setHandler pings).elim id fun pings => mine found ?_)
      obtain ⟨other, member, pings⟩ := List.any_eq_true.mp pings
      rcases List.mem_or_eq_of_mem_set member with old | rfl
      · exact List.any_eq_true.mpr ⟨other, old, pings⟩
      · obtain ⟨tracked, left', isAgent⟩ := List.any_eq_true.mp pings
        exact List.any_eq_true.mpr ⟨left, List.mem_of_getElem? running,
          List.any_eq_true.mpr ⟨tracked, List.mem_of_mem_eraseIdx left', isAgent⟩⟩

/-- What a new emission makes of an agent that was reported disconnected. -/
theorem gone_cons {emission : Emission} {agent : AgentRef} {log : List Emission}
    (isGone : gone agent (emission :: log) = true) :
    emission.disconnects agent = true ∨ gone agent log = true := by
  unfold gone at isGone
  split at isGone
  · exact .inl ‹_›
  · split at isGone
    · cases isGone
    · exact .inr isGone

/-- Every step with settled pings leaves settled agents. -/
theorem Settled.step {state after : PeerWorld} {event : PeerEvent} (settled : state.Settled)
    (calm : state.PingsSettled event) (step : Step state event after) : after.Settled := by
  intro agent pings
  refine (Bool.not_eq_true _).mp fun isGone => ?_
  rw [log_next step] at isGone
  rcases pinging_step step pings with
    before | ⟨index, handler, rfl, found, tracked, inSnapshot, rfl, valid⟩
  · have there := settled agent before
    cases emits : state.emitted event with
    | none =>
        rw [emits] at isGone
        exact Bool.false_ne_true (there.symm.trans isGone)
    | some emission =>
        rw [emits] at isGone
        rcases gone_cons isGone with disconnects | earlier
        · obtain ⟨deleted, isAgent⟩ := (emits_of_emitted emits).cause_of_disconnects disconnects
          cases emits_of_emitted emits with
          | deleted found running kind =>
              have unpinged := calm _ emits deleted agent isAgent
              exact Bool.false_ne_true (unpinged.symm.trans before)
          | upserted | workspace | pinged => cases deleted
        · exact Bool.false_ne_true (there.symm.trans earlier)
  · exact Bool.false_ne_true ((calm handler found tracked inSnapshot valid).symm.trans isGone)

/-- From a settled state no agent is reported connected that is not there. -/
theorem Settled.grounded_step {state after : PeerWorld} {event : PeerEvent}
    (settled : state.Settled) (grounded : Grounded state.log) (step : Step state event after) :
    Grounded after.log := by
  rw [log_next step]
  cases emits : state.emitted event with
  | none => exact grounded
  | some emission =>
      refine grounded_cons.mpr ⟨grounded, fun agent connects fresh => ?_⟩
      obtain ⟨isAgent, status⟩ := of_decide_eq_true connects
      cases emits_of_emitted emits with
      | upserted found running kind =>
          simp [Emission.upserts, Option.some.inj isAgent] at fresh
      | deleted found running kind => simp [AgentChange.signal, kind] at status
      | workspace => cases isAgent
      | pinged found running current valid =>
          refine settled agent (pinging_iff.mpr ⟨_, List.mem_of_getElem? found, _,
            List.mem_of_getElem? running, _, List.mem_of_getElem? current, ?_, valid⟩)
          exact Option.some.inj isAgent

/-- A ping that is still to come is answered after its agent was reported disconnected. -/
theorem haunted_of_pinging {state : PeerWorld} {agent : AgentRef}
    (pings : state.pinging agent = true) (isGone : gone agent state.log = true) :
    ∃ ping last, state.next ping = some last ∧ ¬ Grounded last.log := by
  obtain ⟨handler, isHandler, round, isRound, tracked, isTracked, rfl, valid⟩ :=
    pinging_iff.mp pings
  obtain ⟨index, found⟩ := List.mem_iff_getElem?.mp isHandler
  obtain ⟨position, running⟩ := List.mem_iff_getElem?.mp isRound
  obtain ⟨place, current⟩ := List.mem_iff_getElem?.mp isTracked
  have answered : Handler.ping tracked (some (0, false)) =
      some (some ⟨.pinged, tracked.ref, tracked.pinged 0 false⟩) := if_pos valid
  refine ⟨.ping index position place (some (0, false)),
    (state.setHandler index
      { handler with rounds := handler.rounds.set position (round.eraseIdx place) }).emit
        (some ⟨.pinged, tracked.ref, tracked.pinged 0 false⟩), ?_, ?_⟩
  · simp only [next, found, running, current, answered, Option.bind_eq_bind, Option.bind_some]
    rfl
  · rw [log_emit]
    intro grounded
    have there := (grounded_cons.mp grounded).2 tracked.ref
      (by simp [Emission.connects, TrackedAgent.pinged]) (by simp [Emission.upserts])
    exact Bool.false_ne_true (there.symm.trans isGone)

/-- Where pings are not settled, one of them can still be answered too late. -/
theorem haunted_of_unsettled {state after : PeerWorld} {event : PeerEvent}
    (taken : state.next event = some after) (unsettled : ¬ state.PingsSettled event) :
    ∃ ping last, after.next ping = some last ∧ ¬ Grounded last.log := by
  have step := step_of_next taken
  cases event with
  | act index call =>
      unfold PingsSettled at unsettled
      push Not at unsettled
      obtain ⟨emission, emits, deleted, agent, isAgent, pings⟩ := unsettled
      have log := log_next step
      rw [Option.mem_def.mp emits] at log
      have still : after.pinging agent = true := by
        cases step with
        | @act _ _ handler action _ found running =>
            rw [pinging_emit]
            refine pinging_setHandler found (fun own => ?_) ((Bool.not_eq_false _).mp pings)
            cases action <;> exact own
      refine haunted_of_pinging still ?_
      cases emits_of_emitted emits with
      | deleted found running kind =>
          rw [log]
          refine if_pos ?_
          simp [Emission.disconnects, AgentChange.signal, kind, Option.some.inj isAgent]
      | upserted | workspace => cases deleted
  | tick index =>
      unfold PingsSettled at unsettled
      push Not at unsettled
      obtain ⟨handler, found, tracked, inSnapshot, valid, isGone⟩ := unsettled
      have begun : after.pinging tracked.ref = true := by
        cases step with
        | @tick _ other isHandler =>
            obtain rfl := Option.some.inj (isHandler.symm.trans found)
            refine List.any_eq_true.mpr
              ⟨_, List.mem_set (List.getElem?_eq_some_iff.mp found).1 _, ?_⟩
            refine List.any_eq_true.mpr
              ⟨_, List.mem_append_right _ (List.mem_singleton_self _), ?_⟩
            exact List.any_eq_true.mpr ⟨tracked, inSnapshot, by simp [valid]⟩
      refine haunted_of_pinging begun ?_
      rw [log_next step]
      exact (Bool.not_eq_false _).mp isGone
  | world _ | controllerRun _ _ | update _ _ | ping _ _ _ _ | deliver =>
      exact absurd trivial unsettled

/-! ## Rows of the peer model -/

/-- A peer that was told of has a row. -/
theorem updatePeer_ne_nil (peer : PeerInfo) (rows : List PeerInfo) : updatePeer peer rows ≠ [] := by
  cases rows with
  | nil => simp [updatePeer]
  | cons row rest =>
      unfold updatePeer
      split <;> simp

/-- Executing a call leaves the bridge alone. -/
theorem bridge_execute {world : World} {call : HelperCall} {result : World × Reply}
    (executed : world.execute call = some result) : result.1.bridge = world.bridge := by
  cases call with
  | getStatus =>
      obtain rfl := Option.some.inj executed
      rfl
  | stop =>
      simp only [World.execute, Option.map_eq_some_iff] at executed
      obtain ⟨_, -, rfl⟩ := executed
      rfl
  | start url token =>
      simp only [World.execute] at executed
      split at executed
      · obtain ⟨_, -, rfl⟩ := Option.map_eq_some_iff.mp executed
        rfl
      · obtain rfl := Option.some.inj executed
        rfl

/-- A message that disconnects is announced. -/
theorem receive_disconnected {bridge : VpnBridge} {message : Message}
    (down : (bridge.receive message).1.state = .reported .disconnected) :
    .stateChanged ∈ (bridge.receive message).2 ∨ bridge.state = .reported .disconnected := by
  cases message with
  | stateChanged signal =>
      simp only [VpnBridge.receive, VpnBridge.onStateChanged] at down ⊢
      split at down
      · exact .inr down
      · simp [*]
  | reply reply =>
      cases reply with
      | status state coderURL =>
          simp only [VpnBridge.receive, VpnBridge.onGetStatusFinished] at down ⊢
          split at down
          · simp [*]
          · exact .inr down
      | startFailed err => exact .inl List.mem_cons_self
      | _ => exact .inr down

/-- A start that ends disconnected is announced. -/
theorem start_disconnected {bridge : VpnBridge} {url token : String}
    (down : (bridge.start url token).1.state = .reported .disconnected) :
    .stateChanged ∈ (bridge.start url token).2.1 ∨ bridge.state = .reported .disconnected := by
  unfold VpnBridge.start at down ⊢
  split at down
  · exact .inr down
  · exact .inr (not_not.mp ‹_›)

/-- A stop that ends disconnected is announced. -/
theorem stop_disconnected {bridge : VpnBridge}
    (down : bridge.stop.1.state = .reported .disconnected) :
    .stateChanged ∈ bridge.stop.2.1 ∨ bridge.state = .reported .disconnected := by
  unfold VpnBridge.stop at down ⊢
  split at down
  · exact .inr down
  · cases down

/-- The bridge becomes disconnected only together with a `stateChanged`. -/
theorem disconnected_next {world after : World} {event : WorldEvent}
    (taken : world.next event = some after)
    (down : after.bridge.state = .reported .disconnected) :
    .stateChanged ∈ world.signals event ∨ world.bridge.state = .reported .disconnected := by
  cases event with
  | userStart url token =>
      rw [← Option.some.inj taken] at down
      exact start_disconnected down
  | userStop =>
      rw [← Option.some.inj taken] at down
      exact stop_disconnected down
  | helper event =>
      obtain ⟨result, -, rfl⟩ := Option.map_eq_some_iff.mp taken
      exact .inr down
  | execute index =>
      obtain ⟨call, -, taken⟩ := Option.bind_eq_some_iff.mp taken
      obtain ⟨result, executed, taken⟩ := Option.bind_eq_some_iff.mp taken
      obtain rfl := Option.some.inj taken
      have kept := bridge_execute executed
      exact .inr (kept ▸ down)
  | refuse index err =>
      obtain ⟨call, -, rfl⟩ := World.next_refuse.mp taken
      exact .inr down
  | sendReply index =>
      obtain ⟨reply, -, -, rfl⟩ := World.next_sendReply.mp taken
      exact .inr down
  | deliver =>
      obtain ⟨message, rest, first, rfl⟩ := World.next_deliver.mp taken
      simp only [World.signals, first, List.head?_cons, Option.map_some, Option.getD_some]
      exact receive_disconnected down

/-- The application shows no peers while it is disconnected. -/
def Cleared (state : PeerWorld) : Prop :=
  state.world.bridge.state = .reported .disconnected → state.peers = []

/-- No peer reaches an application that is disconnected. -/
def DeliversWhileUp (state : PeerWorld) (event : PeerEvent) : Prop :=
  event = .deliver → state.world.bridge.state = .reported .disconnected →
    ∀ first ∈ state.traffic.head?, first = .message

/-- The bridge and the helper keep the rows cleared. -/
theorem cleared_withWorld {state : PeerWorld} {event : WorldEvent} {world : World}
    (cleared : state.Cleared) (taken : state.world.next event = some world)
    (traffic : List Traffic) : (state.withWorld event world traffic).Cleared := by
  intro down
  simp only [withWorld, peersAfter]
  split
  · rfl
  · rename_i noSignal
    refine cleared ((disconnected_next taken down).resolve_left fun signal => noSignal ⟨signal, ?_⟩)
    intro connected
    rw [withWorld] at down
    rw [connected] at down
    cases down

/-- A step keeps a disconnected bridge without rows exactly under `DeliversWhileUp`. -/
theorem cleared_step_iff {state after : PeerWorld} {event : PeerEvent}
    (cleared : state.Cleared) (step : Step state event after) :
    after.Cleared ↔ state.DeliversWhileUp event := by
  cases step with
  | world own taken =>
      exact iff_of_true (cleared_withWorld cleared taken _) fun same => by cases same
  | deliverMessage first taken =>
      exact iff_of_true (cleared_withWorld cleared taken _) fun _ _ => by simp [first]
  | deliverPeer first =>
      simp [Cleared, DeliversWhileUp, first, updatePeer_ne_nil]
  | act found running =>
      refine iff_of_true ?_ fun same => by cases same
      rw [Cleared, peers_emit, world_emit]
      exact cleared
  | ping found running current pinged =>
      refine iff_of_true ?_ fun same => by cases same
      rw [Cleared, peers_emit, world_emit]
      exact cleared
  | _ => exact iff_of_true cleared fun same => by cases same

/-! ## Runs -/

/-- Nothing is under way: no message, call or reply, no goroutine of the helper
with something left to do, no `Update` call and no ping round. -/
structure Quiescent (state : PeerWorld) : Prop where
  traffic : state.traffic = []
  queue : state.world.queue = []
  calls : state.world.calls = []
  answers : state.world.answers = []
  helper : state.world.helper.Quiescent
  updates : ∀ handler ∈ state.handlers, ∀ call ∈ handler.updates, call = []
  rounds : ∀ handler ∈ state.handlers, ∀ round ∈ handler.rounds, round = []

/-- No signal tells of an agent that is gone, and once all is quiet no row of one is left. -/
structure NoGhosts (state : PeerWorld) : Prop where
  signals : Grounded state.log
  rows : state.Quiescent → state.world.bridge.state = .reported .disconnected → state.peers = []

/-- A step that makes no ghost. -/
structure Timely (state : PeerWorld) (event : PeerEvent) : Prop where
  pings : state.PingsSettled event
  deliveries : state.DeliversWhileUp event

instance (event : PeerEvent) : Decidable (event = .deliver) :=
  match event with
  | .deliver => .isTrue rfl
  | .world _ | .controllerRun _ _ | .update _ _ | .act _ _ | .tick _ | .ping _ _ _ _ =>
      .isFalse (by simp)

instance (state : PeerWorld) (event : PeerEvent) : Decidable (state.PingsSettled event) := by
  cases event <;> unfold PingsSettled <;> infer_instance

instance (state : PeerWorld) (event : PeerEvent) : Decidable (state.Timely event) :=
  have : Decidable (state.DeliversWhileUp event) := by
    unfold DeliversWhileUp
    infer_instance
  decidable_of_iff (state.PingsSettled event ∧ state.DeliversWhileUp event)
    ⟨fun ⟨pings, deliveries⟩ => ⟨pings, deliveries⟩, fun ⟨pings, deliveries⟩ => ⟨pings, deliveries⟩⟩

/-- What timely steps keep. -/
structure Sound (state : PeerWorld) : Prop where
  grounded : Grounded state.log
  settled : state.Settled
  cleared : state.Cleared

/-- There are no signals at first. -/
theorem sound_new : new.Sound where
  grounded := grounded_nil
  settled _ pings := nomatch pings
  cleared _ := rfl

/-- Every timely step makes no ghost. -/
theorem Sound.step {state after : PeerWorld} {event : PeerEvent} (sound : state.Sound)
    (timely : state.Timely event) (step : Step state event after) : after.Sound where
  grounded := sound.settled.grounded_step sound.grounded step
  settled := sound.settled.step timely.pings step
  cleared := (cleared_step_iff sound.cleared step).mpr timely.deliveries

/-- Without pings of agents that go, and without late deliveries, there are no ghosts; and a
run can be continued, after a step that leaves such a ping, by one that reports an agent
connected that is gone. -/
theorem noGhosts_of_timely (events : List PeerEvent) :
    (Conforms next Timely new events →
        ∀ state, Visits next new events state → state.NoGhosts) ∧
      ∀ state event after, Runs next new events state → state.next event = some after →
        ¬ state.PingsSettled event →
          ∃ ping last, Runs next new (events ++ [event, ping]) last ∧ ¬ last.NoGhosts := by
  constructor
  · intro timely state visited
    have sound : state.Sound := by
      obtain ⟨before, after, rfl, run⟩ := visited
      refine run.induct (fun _ state => state.Sound) sound_new ?_ timely.ofAppend
      exact fun _ _ _ _ _ sound timely taken => sound.step timely (step_of_next taken)
    exact ⟨sound.grounded, fun _ => sound.cleared⟩
  · intro state event after run taken unsettled
    obtain ⟨ping, last, answered, ungrounded⟩ := haunted_of_unsettled taken unsettled
    refine ⟨ping, last, run.trans (.cons taken (.single answered)), fun noGhosts => ?_⟩
    exact ungrounded noGhosts.signals

/-! ## Runs with one agent -/

/-- A workspace. -/
def devWorkspace : Workspace := ⟨0x1, "dev"⟩

/-- An agent of `devWorkspace`. -/
def mainAgent : Agent := ⟨0x2, "main", 0x1, [["fd60::1"]]⟩

/-- The tunnel comes up and the agent is announced. -/
def announceAgent : List PeerEvent :=
  .world (.helper (.start "https://dev.coder.com")) ::
    List.replicate 9 (.world (.helper (.advance 0 none))) ++
    [.controllerRun 0 "", .world (.helper (.advance 0 none)),
      .world (.helper (.advance 0 none)), .update 0 ⟨[devWorkspace], [mainAgent], [], []⟩,
      .act 0 0, .act 0 0]

/-- A round has taken its snapshot when the agent is deleted and the tunnel stopped;
then the ping is answered. -/
def latePing : List PeerEvent :=
  announceAgent ++
    [.tick 0, .update 0 ⟨[], [], [devWorkspace], [mainAgent]⟩, .act 0 1, .act 0 1,
      .world (.helper .shutdown), .ping 0 0 0 (some (12, true)),
      .world (.execute 0), .world (.sendReply 0)] ++
    List.replicate 7 .deliver

/-- The row the late ping re-created stays in the disconnected application. -/
theorem latePing_haunts : ¬ ∀ state, Visits next new latePing state → state.NoGhosts := by
  refine not_visits_of_replay (fun state =>
    (state.traffic = [] ∧ state.world.queue = [] ∧ state.world.calls = [] ∧
      state.world.answers = [] ∧ state.world.helper.attempts.all (·.phase.settled) ∧
      (∀ handler ∈ state.handlers, ∀ call ∈ handler.updates, call = []) ∧
      ∀ handler ∈ state.handlers, ∀ round ∈ handler.rounds, round = []) ∧
      state.world.bridge.state = .reported .disconnected ∧ state.peers ≠ []) (by decide) ?_
  intro state reached sound
  obtain ⟨⟨traffic, queue, calls, answers, settled, updates, rounds⟩, down, shown⟩ :=
    of_decide_eq_true reached
  exact shown (sound.rows ⟨traffic, queue, calls, answers, Helper.quiescent_of_all settled,
    updates, rounds⟩ down)

/-- An agent that is deleted without its workspace keeps its entry, and is pinged on. -/
example : ¬ ∀ state, Visits next new
    (announceAgent ++ [.update 0 ⟨[], [], [], [mainAgent]⟩, .act 0 1, .act 0 1, .tick 0,
      .ping 0 0 0 (some (12, true))]) state → state.NoGhosts := by
  refine not_visits_of_replay (fun state => match state.log with
    | up :: earlier => up.connects ⟨0x2, 0x1⟩ && !up.upserts ⟨0x2, 0x1⟩ && gone ⟨0x2, 0x1⟩ earlier
    | [] => false) (by decide) ?_
  intro state late noGhosts
  split at late
  · next up earlier log =>
      have grounded := noGhosts.signals
      rw [log] at grounded
      simp only [Bool.and_eq_true, Bool.not_eq_true'] at late
      have there := (grounded_cons.mp grounded).2 _ late.1.1 late.1.2
      exact Bool.false_ne_true (there.symm.trans late.2)
  · cases late

/-- The ping answered and delivered before the agent and its workspace go. -/
theorem noGhosts_of_timely_ping : ∃ state, Runs next new
    (announceAgent ++ List.replicate 3 .deliver ++
      [.tick 0, .ping 0 0 0 (some (12, true)), .deliver,
        .update 0 ⟨[], [], [devWorkspace], [mainAgent]⟩, .act 0 1, .act 0 1, .deliver,
        .world (.helper .shutdown), .deliver]) state ∧
    state.world.bridge.state = .reported .disconnected ∧ state.NoGhosts := by
  refine (runs_of_replay (fun state => state.world.bridge.state = .reported .disconnected)
    (by decide)).imp fun state ⟨run, down⟩ => ⟨run, of_decide_eq_true down, ?_⟩
  exact (noGhosts_of_timely _).1 (by decide) state run.visits

end PeerWorld

end CoderDesktop.Vpn
