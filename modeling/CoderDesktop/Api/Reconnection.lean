import CoderDesktop.Api.WebSocketBase

/-!
# Automatic reconnection

How often a socket reconnects on its own, and whether it still does after it was
disconnected on request. An attempt that fails inside `open` is reported while the counter
stands at zero, so the timer is armed again however many attempts were made. The flag
`disconnect` clears is the configured one, and only `setAutoReconnect` sets it again.
-/

namespace CoderDesktop.Api

open Semantics

/-- What is asked of a socket, and what it does on its own. -/
inductive WebSocketUse (Path : Type) where
  | connectToEndpoint (path : Option Path) (outcome : OpenOutcome)
  | disconnect
  | socket (event : SocketEvent)
deriving DecidableEq, Repr

namespace WebSocketBase

variable {Path Message : Type}

/-- A use of the socket, where it can come. -/
def use (ws : WebSocketBase Path Message) :
    WebSocketUse Path → Option (WebSocketBase Path Message)
  | .connectToEndpoint path outcome => some (ws.connectToEndpoint path outcome).1
  | .disconnect => some ws.disconnect
  | .socket event => (ws.react event).map Prod.fst

end WebSocketBase

/-! ## The number of attempts -/

/-- A socket whose policy is left alone, and the automatic attempts it makes. -/
structure Reconnecting (Path Message : Type) where
  ws : WebSocketBase Path Message
  /-- Since the last successful connection or call of `connectToEndpoint`. -/
  attempts : Nat
  /-- Since a call of `disconnect` that no call of `connectToEndpoint` followed. -/
  unwanted : Option Nat
deriving DecidableEq, Repr

namespace Reconnecting

variable {Path Message : Type}

/-- A socket with these two settings. -/
def new (autoReconnect : Bool) (max : Int) : Reconnecting Path Message where
  ws := (WebSocketBase.new.setAutoReconnect autoReconnect).setMaxReconnectAttempts max
  attempts := 0
  unwanted := none

variable (world : Reconnecting Path Message)

/-- An expiry of the timer is an attempt if there is a path to connect to. -/
def count (event : WebSocketUse Path) (ws : WebSocketBase Path Message) :
    Reconnecting Path Message :=
  match event with
  | .connectToEndpoint _ _ => ⟨ws, 0, none⟩
  | .disconnect => ⟨ws, world.attempts, some 0⟩
  | .socket .connected => ⟨ws, 0, world.unwanted⟩
  | .socket (.timeout _) =>
      if world.ws.lastPath = none then ⟨ws, world.attempts, world.unwanted⟩
      else ⟨ws, world.attempts + 1, world.unwanted.map Nat.succ⟩
  | .socket .disconnected | .socket .error => ⟨ws, world.attempts, world.unwanted⟩

/-- A use of the socket, with its attempts counted. -/
def next (event : WebSocketUse Path) : Option (Reconnecting Path Message) :=
  (world.ws.use event).map (world.count event)

/-- Of one connection no more attempts are made than the limit, and none after a disconnect. -/
structure Bounded : Prop where
  attempts : world.attempts ≤ world.ws.maxReconnectAttempts.toNat
  unwanted : ∀ made ∈ world.unwanted, made = 0

/-- The bound is kept also if the timer should expire now. -/
def StaysBounded : Prop :=
  world.Bounded ∧
    ∀ outcome, ∀ after ∈ world.next (.socket (.timeout outcome)), after.Bounded

/-- An automatic attempt that fails inside `open` is not the last one. -/
def LeavesAttempt (world : Reconnecting Path Message) : WebSocketUse Path → Prop
  | .socket (.timeout .failed) =>
      world.ws.lastPath ≠ none → world.ws.reconnectAttempt + 1 < world.ws.maxReconnectAttempts
  | _ => True

/-- What the counters have to do with the object. -/
structure Tracked : Prop where
  counted : world.ws.reconnectAttempt = world.attempts
  wanted : world.ws.reconnectTimer ≠ none → world.ws.autoReconnect = true
  stopped : ∀ made ∈ world.unwanted, world.ws.autoReconnect = false ∧ made = 0

variable {world}

/-- The bound on attempts is one on those since the last connect. -/
theorem Tracked.bounded_iff (tracked : world.Tracked) :
    world.Bounded ↔ world.attempts ≤ world.ws.maxReconnectAttempts.toNat :=
  ⟨Bounded.attempts, fun bounded => ⟨bounded, fun made isMade => (tracked.stopped made isMade).2⟩⟩

/-- A use of the socket, with what the history makes of it. -/
theorem of_next {event : WebSocketUse Path} {after : Reconnecting Path Message}
    (taken : world.next event = some after) :
    ∃ ws, world.ws.use event = some ws ∧ after = world.count event ws := by
  obtain ⟨ws, used, rfl⟩ := Option.map_eq_some_iff.mp taken
  exact ⟨ws, used, rfl⟩

/-- A new connection starts to count anew. -/
theorem tracked_connect (path : Option Path) (outcome : OpenOutcome) :
    Tracked ⟨(world.ws.connectToEndpoint path outcome).1, 0, none⟩ where
  counted := WebSocketBase.reconnectAttempt_connectToEndpoint path outcome
  wanted armed := by
    rw [WebSocketBase.reconnectTimer_connectToEndpoint] at armed
    rw [WebSocketBase.autoReconnect_connectToEndpoint]
    exact (ite_ne_right_iff.mp armed).1.2.1
  stopped := nofun

/-- A broken connection keeps the count. -/
theorem Tracked.drop (tracked : world.Tracked) :
    Tracked
      ⟨(world.ws.setState .unconnected).onDisconnected.1, world.attempts, world.unwanted⟩ where
  counted := by
    rw [WebSocketBase.reconnectAttempt_onDisconnected]
    exact tracked.counted
  wanted armed := by
    rw [WebSocketBase.reconnectTimer_onDisconnected] at armed
    rw [WebSocketBase.autoReconnect_onDisconnected]
    split at armed
    · next scheduled => exact (Bool.and_eq_true_iff.mp scheduled).1
    · exact tracked.wanted armed
  stopped := by
    rw [WebSocketBase.autoReconnect_onDisconnected]
    exact tracked.stopped

/-- Nothing is counted after `disconnect`, where the timer does not run. -/
theorem Tracked.unwanted_of_armed (tracked : world.Tracked)
    (armed : world.ws.reconnectTimer ≠ none) : world.unwanted = none := by
  cases isUnwanted : world.unwanted with
  | none => rfl
  | some made =>
      have stopped := (tracked.stopped made isUnwanted).1
      rw [tracked.wanted armed] at stopped
      cases stopped

/-- An attempt is counted once. -/
theorem Tracked.attempt (tracked : world.Tracked) (armed : world.ws.reconnectTimer ≠ none)
    {path : Path} (hasPath : world.ws.lastPath = some path) (outcome : OpenOutcome) :
    Tracked
      ⟨(world.ws.attemptReconnect outcome).1, world.attempts + 1, world.unwanted.map Nat.succ⟩ := by
  rw [tracked.unwanted_of_armed armed, WebSocketBase.attemptReconnect_of_path hasPath]
  refine ⟨?_, ?_, nofun⟩
  · exact congrArg (· + 1) tracked.counted
  · exact fun _ => (WebSocketBase.autoReconnect_connectToEndpoint _ _).trans (tracked.wanted armed)

/-- The count follows the socket. -/
theorem Tracked.next {event : WebSocketUse Path} {after : Reconnecting Path Message}
    (tracked : world.Tracked) (taken : world.next event = some after) : after.Tracked := by
  obtain ⟨ws, used, rfl⟩ := of_next taken
  cases event with
  | connectToEndpoint path outcome =>
      obtain rfl := Option.some.inj used
      exact tracked_connect path outcome
  | disconnect =>
      obtain rfl := Option.some.inj used
      refine ⟨tracked.counted, fun armed => absurd rfl armed, fun made isMade => ?_⟩
      exact ⟨rfl, (Option.some.inj isMade).symm⟩
  | socket event =>
      obtain ⟨reaction, reacted, rfl⟩ := Option.map_eq_some_iff.mp used
      cases WebSocketBase.reacted_of_react reacted with
      | connected connecting => exact ⟨rfl, tracked.wanted, tracked.stopped⟩
      | disconnected opened => exact tracked.drop
      | error => exact tracked
      | timeout armed outcome =>
          unfold count
          dsimp only
          split
          · next noPath =>
              rw [WebSocketBase.attemptReconnect_of_noPath noPath]
              exact ⟨tracked.counted, fun armed => absurd rfl armed, tracked.stopped⟩
          · next hasPath =>
              obtain ⟨path, hasPath⟩ := Option.ne_none_iff_exists'.mp hasPath
              exact tracked.attempt armed hasPath outcome

/-! ### The bound -/

/-- The timer fires only while it is armed. -/
theorem next_timeout_eq_some_iff {outcome : OpenOutcome} {after : Reconnecting Path Message} :
    world.next (.socket (.timeout outcome)) = some after ↔
      world.ws.reconnectTimer ≠ none ∧
        world.count (.socket (.timeout outcome)) (world.ws.attemptReconnect outcome).1 = after := by
  simp only [next, WebSocketBase.use, WebSocketBase.react, Option.map_map,
    Option.map_eq_some_iff, Option.ite_none_right_eq_some, Option.some.injEq, and_assoc,
    exists_and_left, exists_eq_left', Function.comp_apply]

/-- An armed timer takes up one of the attempts that are left. -/
theorem Tracked.staysBounded_iff_left (tracked : world.Tracked) :
    world.StaysBounded ↔
      world.attempts ≤ world.ws.maxReconnectAttempts.toNat ∧
        (world.ws.reconnectTimer ≠ none → world.ws.lastPath ≠ none →
          world.attempts < world.ws.maxReconnectAttempts.toNat) := by
  rw [StaysBounded, tracked.bounded_iff]
  refine and_congr_right fun bounded => ?_
  constructor
  · intro later armed hasPath
    have after := (later .pending _ (next_timeout_eq_some_iff.mpr ⟨armed, rfl⟩)).attempts
    simp only [count, if_neg hasPath] at after
    rwa [WebSocketBase.maxReconnectAttempts_attemptReconnect] at after
  · intro left outcome after taken
    rw [(tracked.next taken).bounded_iff]
    obtain ⟨armed, rfl⟩ := next_timeout_eq_some_iff.mp taken
    unfold count
    dsimp only
    split
    · exact (WebSocketBase.maxReconnectAttempts_attemptReconnect outcome).symm ▸ bounded
    · next hasPath =>
        rw [WebSocketBase.maxReconnectAttempts_attemptReconnect]
        exact left armed hasPath

/-- An attempt leaves the timer armed only if it fails inside `open`. -/
theorem Tracked.staysBounded_attempt_iff (tracked : world.Tracked)
    (bounded : world.attempts ≤ world.ws.maxReconnectAttempts.toNat)
    (left : world.ws.lastPath ≠ none → world.attempts < world.ws.maxReconnectAttempts.toNat)
    (armed : world.ws.reconnectTimer ≠ none) (outcome : OpenOutcome) :
    let after := world.count (.socket (.timeout outcome)) (world.ws.attemptReconnect outcome).1
    (after.attempts ≤ after.ws.maxReconnectAttempts.toNat ∧
        (after.ws.reconnectTimer ≠ none → after.ws.lastPath ≠ none →
          after.attempts < after.ws.maxReconnectAttempts.toNat)) ↔
      world.LeavesAttempt (.socket (.timeout outcome)) := by
  cases path : world.ws.lastPath with
  | none =>
      simp only [count, if_pos path, WebSocketBase.attemptReconnect_of_noPath path]
      refine iff_of_true ⟨bounded, fun armed => absurd rfl armed⟩ ?_
      cases outcome with
      | rejected | pending => trivial
      | failed => exact fun hasPath => absurd path hasPath
  | some path =>
      have hasPath : world.ws.lastPath ≠ none := by simp [*]
      have fewer := left hasPath
      have counted := tracked.counted
      simp only [count, if_neg hasPath, WebSocketBase.attemptReconnect_of_path ‹_›,
        WebSocketBase.maxReconnectAttempts_connectToEndpoint,
        WebSocketBase.reconnectTimer_connectToEndpoint, tracked.wanted armed]
      cases outcome with
      | rejected | pending => exact iff_of_true ⟨fewer, fun armed => absurd rfl armed⟩ trivial
      | failed =>
          have positive : 0 < world.ws.maxReconnectAttempts := by omega
          simp only [LeavesAttempt, true_and, if_pos positive]
          constructor
          · rintro ⟨-, fewer⟩ -
            have fewer := fewer (Option.some_ne_none _) (by simp)
            omega
          · intro leaves
            have leaves := leaves hasPath
            exact ⟨fewer, fun _ _ => by omega⟩

/-- The bound is kept, and kept for the next attempt, by every step but an attempt that is
the last one and fails inside `open`. -/
theorem Tracked.staysBounded_next_iff (tracked : world.Tracked) (bounded : world.StaysBounded)
    {event : WebSocketUse Path} {after : Reconnecting Path Message}
    (taken : world.next event = some after) :
    after.StaysBounded ↔ world.LeavesAttempt event := by
  rw [(tracked.next taken).staysBounded_iff_left]
  rw [tracked.staysBounded_iff_left] at bounded
  obtain ⟨bounded, left⟩ := bounded
  obtain ⟨ws, used, rfl⟩ := of_next taken
  cases event with
  | connectToEndpoint path outcome =>
      obtain rfl := Option.some.inj used
      refine iff_of_true ⟨Nat.zero_le _, fun armed _ => ?_⟩ trivial
      dsimp only [count] at armed ⊢
      rw [WebSocketBase.reconnectTimer_connectToEndpoint] at armed
      rw [WebSocketBase.maxReconnectAttempts_connectToEndpoint]
      have positive := (ite_ne_right_iff.mp armed).1.2.2
      omega
  | disconnect =>
      obtain rfl := Option.some.inj used
      exact iff_of_true ⟨bounded, fun armed => absurd rfl armed⟩ trivial
  | socket event =>
      obtain ⟨reaction, reacted, rfl⟩ := Option.map_eq_some_iff.mp used
      cases WebSocketBase.reacted_of_react reacted with
      | connected connecting =>
          refine iff_of_true ⟨Nat.zero_le _, fun armed hasPath => ?_⟩ trivial
          exact Nat.lt_of_le_of_lt (Nat.zero_le _) (left armed hasPath)
      | disconnected opened =>
          refine iff_of_true ⟨?_, fun armed hasPath => ?_⟩ trivial
          · exact (WebSocketBase.maxReconnectAttempts_onDisconnected).symm ▸ bounded
          · dsimp only [count] at armed hasPath ⊢
            rw [WebSocketBase.maxReconnectAttempts_onDisconnected]
            rw [WebSocketBase.lastPath_onDisconnected] at hasPath
            rw [WebSocketBase.reconnectTimer_onDisconnected] at armed
            split at armed
            · next scheduled =>
                have fewer := of_decide_eq_true (Bool.and_eq_true_iff.mp scheduled).2
                have counted := tracked.counted
                dsimp only [WebSocketBase.setState] at fewer ⊢
                omega
            · exact left armed hasPath
      | error => exact iff_of_true ⟨bounded, left⟩ trivial
      | timeout armed outcome =>
          exact tracked.staysBounded_attempt_iff bounded (left armed) armed outcome

/-! ### Runs -/

/-- The number of attempts stays within the maximum, and none is made after `disconnect`,
in every run whose failures inside `open` leave an attempt. No other run can be sure of it. -/
theorem staysBounded_iff (autoReconnect : Bool) (max : Int) (events : List (WebSocketUse Path)) :
    (∀ world, Visits next (new autoReconnect max : Reconnecting Path Message) events world →
        world.StaysBounded) ↔
      Conforms next LeavesAttempt (new autoReconnect max : Reconnecting Path Message) events := by
  have tracked : Tracked (new autoReconnect max : Reconnecting Path Message) :=
    ⟨rfl, fun armed => absurd rfl armed, nofun⟩
  refine visits_iff_conforms Tracked StaysBounded (fun _ _ _ tracked taken => tracked.next taken)
    (fun _ _ _ tracked bounded taken => tracked.staysBounded_next_iff bounded taken) tracked ?_
    events
  exact tracked.staysBounded_iff_left.mpr ⟨Nat.zero_le _, fun armed => absurd rfl armed⟩

/-- With one attempt allowed, a network that is down gives two. -/
theorem second_attempt_of_one :
    ¬ ∀ world, Visits next (new true 1 : Reconnecting Unit Unit)
        [.connectToEndpoint (some ()) .pending, .socket .disconnected, .socket (.timeout .failed),
          .socket (.timeout .failed)] world → world.Bounded := by
  refine not_visits_of_replay
    (fun world => decide (world.ws.maxReconnectAttempts.toNat < world.attempts))
    (by decide) ?_
  intro world beyond bounded
  exact Nat.not_lt_of_le bounded.attempts (of_decide_eq_true beyond)

end Reconnecting

/-! ## Reconnection after a disconnection on request -/

/-- The calls of the socket's users, and the events of its connection. -/
inductive WebSocketCall (Path : Type) where
  | setAutoReconnect (enabled : Bool)
  | setMaxReconnectAttempts (max : Int)
  | use (use : WebSocketUse Path)
deriving DecidableEq, Repr

namespace WebSocketCall

variable {Path : Type}

/-- Whether reconnecting is configured: the last argument of `setAutoReconnect`, or the
initial default. -/
def configured (history : List (WebSocketCall Path)) : Bool :=
  history.foldl
    (fun enabled call =>
      match call with
      | .setAutoReconnect argument => argument
      | .setMaxReconnectAttempts _ | .use _ => enabled)
    true

/-- Whether `disconnect` was called since. -/
def disconnected (history : List (WebSocketCall Path)) : Bool :=
  history.foldl
    (fun called call =>
      match call with
      | .setAutoReconnect _ => false
      | .use .disconnect => true
      | .setMaxReconnectAttempts _ | .use _ => called)
    false

end WebSocketCall

namespace WebSocketBase

variable {Path Message : Type}

/-- A call or an event, where it can come. -/
def call (ws : WebSocketBase Path Message) :
    WebSocketCall Path → Option (WebSocketBase Path Message)
  | .setAutoReconnect enabled => some (ws.setAutoReconnect enabled)
  | .setMaxReconnectAttempts max => some (ws.setMaxReconnectAttempts max)
  | .use use => ws.use use

/-- An event of the connection alone. -/
def next (ws : WebSocketBase Path Message) (event : SocketEvent) :
    Option (WebSocketBase Path Message) :=
  (ws.react event).map Prod.fst

/-- The timer after a call of `connectToEndpoint` and what then happens to the socket, if
that can happen. -/
def schedule (ws : WebSocketBase Path Message) (path : Option Path) (outcome : OpenOutcome)
    (events : List SocketEvent) : Option (Option Int) :=
  (replay next (ws.connectToEndpoint path outcome).1 events).map reconnectTimer

/-- From the next connection on it reconnects as a socket would that was never used. -/
def ReconnectsAsNew (ws : WebSocketBase Path Message) : Prop :=
  let fresh : WebSocketBase Path Message := new.setMaxReconnectAttempts ws.maxReconnectAttempts
  ∀ path outcome, outcome ≠ .rejected → ∀ events,
    ws.schedule path outcome events = fresh.schedule path outcome events

variable {ws : WebSocketBase Path Message}

/-- The network does not change the flag. -/
theorem autoReconnect_react {event : SocketEvent}
    {after : WebSocketBase Path Message × List WebSocketSignal}
    (reacted : ws.react event = some after) : after.1.autoReconnect = ws.autoReconnect := by
  cases reacted_of_react reacted with
  | connected connecting => rfl
  | disconnected opened => exact autoReconnect_onDisconnected
  | error => rfl
  | timeout armed outcome =>
      cases path : ws.lastPath with
      | none => rw [attemptReconnect_of_noPath path]
      | some path =>
          rw [attemptReconnect_of_path ‹_›]
          exact autoReconnect_connectToEndpoint _ _

/-- The flag is the configuration until `disconnect` clears it. -/
theorem autoReconnect_of_runs {history : List (WebSocketCall Path)}
    (run : Runs call (new : WebSocketBase Path Message) history ws) :
    ws.autoReconnect =
      (WebSocketCall.configured history && !WebSocketCall.disconnected history) := by
  refine run.induct
    (fun history ws => ws.autoReconnect =
      (WebSocketCall.configured history && !WebSocketCall.disconnected history))
    rfl ?_ (conforms_true history)
  rintro history ws event after - flag - taken
  simp only [WebSocketCall.configured, WebSocketCall.disconnected, List.foldl_append,
    List.foldl_cons, List.foldl_nil] at flag ⊢
  cases event with
  | setAutoReconnect enabled =>
      obtain rfl := Option.some.inj taken
      exact (Bool.and_true enabled).symm
  | setMaxReconnectAttempts max =>
      obtain rfl := Option.some.inj taken
      exact flag
  | use use =>
      cases use with
      | connectToEndpoint path outcome =>
          obtain rfl := Option.some.inj taken
          exact (autoReconnect_connectToEndpoint path outcome).trans flag
      | disconnect =>
          obtain rfl := Option.some.inj taken
          exact (Bool.and_false _).symm
      | socket event =>
          obtain ⟨reaction, reacted, rfl⟩ := Option.map_eq_some_iff.mp taken
          exact (autoReconnect_react reacted).trans flag

/-- A call that opens the socket leaves nothing of the state before it but the policy. -/
theorem connectToEndpoint_congr {other : WebSocketBase Path Message}
    (sameFlag : ws.autoReconnect = other.autoReconnect)
    (sameMax : ws.maxReconnectAttempts = other.maxReconnectAttempts) (path : Option Path)
    {outcome : OpenOutcome} (opens : outcome ≠ .rejected) :
    ws.connectToEndpoint path outcome = other.connectToEndpoint path outcome := by
  obtain ⟨_, _, _, _, _, _⟩ := ws
  obtain ⟨_, _, _, _, _, _⟩ := other
  obtain rfl : _ = _ := sameFlag
  obtain rfl : _ = _ := sameMax
  cases outcome with
  | rejected => exact absurd rfl opens
  | pending | failed => rfl

/-! ### Without any attempts -/

/-- No attempt is scheduled where none is allowed. -/
structure Idle (ws : WebSocketBase Path Message) : Prop where
  max : ws.maxReconnectAttempts ≤ 0
  counter : 0 ≤ ws.reconnectAttempt
  timer : ws.reconnectTimer = none

/-- A socket that may not reconnect stays as it is. -/
theorem Idle.onDisconnected (idle : ws.Idle) : ws.onDisconnected.1 = ws := by
  have used : ¬ (ws.autoReconnect && decide (ws.reconnectAttempt < ws.maxReconnectAttempts)) := by
    have := idle.max
    have := idle.counter
    rw [Bool.and_eq_true, decide_eq_true_eq]
    omega
  rw [WebSocketBase.onDisconnected, if_neg used]

/-- A socket without attempts is idle after connecting, too. -/
theorem Idle.connectToEndpoint (noneAllowed : ws.maxReconnectAttempts ≤ 0) (path : Option Path)
    (outcome : OpenOutcome) : (ws.connectToEndpoint path outcome).1.Idle where
  max := by rwa [maxReconnectAttempts_connectToEndpoint]
  counter := Int.le_of_eq (reconnectAttempt_connectToEndpoint path outcome).symm
  timer := by
    rw [reconnectTimer_connectToEndpoint]
    exact if_neg fun failed => Int.not_lt.mpr noneAllowed failed.2.2

/-- The network leaves an idle socket idle. -/
theorem Idle.next {event : SocketEvent} {after : WebSocketBase Path Message} (idle : ws.Idle)
    (taken : ws.next event = some after) : after.Idle := by
  obtain ⟨reaction, reacted, rfl⟩ := Option.map_eq_some_iff.mp taken
  cases reacted_of_react reacted with
  | connected connecting => exact ⟨idle.max, Int.le_refl 0, idle.timer⟩
  | disconnected opened =>
      have idle : (ws.setState .unconnected).Idle := ⟨idle.max, idle.counter, idle.timer⟩
      rwa [idle.onDisconnected]
  | error => exact idle
  | timeout armed outcome => exact absurd idle.timer armed

/-- The flag makes no difference to an idle socket. -/
theorem Idle.next_setAutoReconnect (idle : ws.Idle) (enabled : Bool) (event : SocketEvent) :
    (ws.setAutoReconnect enabled).next event =
      (ws.next event).map fun after => after.setAutoReconnect enabled := by
  cases event with
  | connected =>
      simp only [WebSocketBase.next, react]
      rw [show (ws.setAutoReconnect enabled).socket = ws.socket from rfl]
      split <;> rfl
  | disconnected =>
      have idle : (ws.setState .unconnected).Idle := ⟨idle.max, idle.counter, idle.timer⟩
      have other : ((ws.setAutoReconnect enabled).setState .unconnected).Idle :=
        ⟨idle.max, idle.counter, idle.timer⟩
      simp only [WebSocketBase.next, react]
      rw [show (ws.setAutoReconnect enabled).socket = ws.socket from rfl]
      split
      · simp only [Option.map_some, idle.onDisconnected, other.onDisconnected]
        rfl
      · rfl
  | error => rfl
  | timeout outcome =>
      simp only [WebSocketBase.next, react]
      rw [if_neg (not_not.mpr idle.timer), if_neg (not_not.mpr _)]
      · rfl
      · exact idle.timer

/-- For an idle socket the flag makes no difference. -/
theorem Idle.replay_setAutoReconnect (idle : ws.Idle) (enabled : Bool)
    (events : List SocketEvent) :
    replay WebSocketBase.next (ws.setAutoReconnect enabled) events =
      (replay WebSocketBase.next ws events).map fun after => after.setAutoReconnect enabled := by
  induction events generalizing ws with
  | nil => rfl
  | cons event events inductionHypothesis =>
      rw [replay, replay, idle.next_setAutoReconnect]
      cases taken : ws.next event with
      | none => rfl
      | some after => exact inductionHypothesis (idle.next taken)

/-! ### The law -/

/-- The schedule depends on the flag and the maximum only. -/
theorem schedule_congr {other : WebSocketBase Path Message}
    (sameFlag : ws.autoReconnect = other.autoReconnect)
    (sameMax : ws.maxReconnectAttempts = other.maxReconnectAttempts) (path : Option Path)
    {outcome : OpenOutcome} (opens : outcome ≠ .rejected) (events : List SocketEvent) :
    ws.schedule path outcome events = other.schedule path outcome events := by
  rw [schedule, schedule, connectToEndpoint_congr sameFlag sameMax path opens]

/-- A first break schedules an attempt after a second, if any. -/
theorem schedule_drop (path : Option Path) :
    ws.schedule path .pending [.disconnected] =
      some (if ws.autoReconnect = true ∧ 0 < ws.maxReconnectAttempts then some 1000 else none) := by
  change some ((ws.connectToEndpoint path .pending).1.setState
    .unconnected).onDisconnected.1.reconnectTimer = _
  rw [reconnectTimer_onDisconnected]
  refine congrArg some (if_congr ?_ rfl rfl)
  rw [Bool.and_eq_true, decide_eq_true_eq]
  rfl

/-- Without attempts the flag makes no difference. -/
theorem schedule_setAutoReconnect (noneAllowed : ws.maxReconnectAttempts ≤ 0) (enabled : Bool)
    (path : Option Path) {outcome : OpenOutcome} (opens : outcome ≠ .rejected)
    (events : List SocketEvent) :
    (ws.setAutoReconnect enabled).schedule path outcome events =
      ws.schedule path outcome events := by
  have idle := Idle.connectToEndpoint noneAllowed path outcome
  have commutes : ((ws.setAutoReconnect enabled).connectToEndpoint path outcome).1 =
      (ws.connectToEndpoint path outcome).1.setAutoReconnect enabled := by
    cases outcome with
    | rejected => exact absurd rfl opens
    | pending => rfl
    | failed =>
        let failed : WebSocketBase Path Message :=
          ⟨⟨.unconnected, path, []⟩, ws.autoReconnect, ws.maxReconnectAttempts, 0, none, path⟩
        have idle : failed.Idle := ⟨noneAllowed, Int.le_refl 0, rfl⟩
        have other : (failed.setAutoReconnect enabled).Idle := ⟨noneAllowed, Int.le_refl 0, rfl⟩
        change (failed.setAutoReconnect enabled).onDisconnected.1 =
          failed.onDisconnected.1.setAutoReconnect enabled
        rw [other.onDisconnected, idle.onDisconnected]
  rw [schedule, commutes, idle.replay_setAutoReconnect, Option.map_map]
  rfl

/-- A socket for which reconnecting is configured reconnects like a new one exactly if it
was not disconnected on request since it was configured, or may make no attempt at all. -/
theorem reconnectsAsNew_iff {history : List (WebSocketCall Path)}
    (run : Runs call (new : WebSocketBase Path Message) history ws)
    (isConfigured : WebSocketCall.configured history = true) :
    ws.ReconnectsAsNew ↔
      WebSocketCall.disconnected history = false ∨ ws.maxReconnectAttempts ≤ 0 := by
  have flag := autoReconnect_of_runs run
  rw [isConfigured, Bool.true_and] at flag
  constructor
  · intro asNew
    by_contra neither
    obtain ⟨wasDisconnected, someAllowed⟩ := not_or.mp neither
    rw [Bool.not_eq_false] at wasDisconnected
    rw [wasDisconnected] at flag
    -- The first drop of a connection tells them apart.
    have dropped := asNew none .pending nofun [.disconnected]
    rw [schedule_drop, schedule_drop, flag] at dropped
    rw [if_neg (fun armed => Bool.false_ne_true armed.1), if_pos] at dropped
    · cases dropped
    · exact ⟨rfl, Int.not_le.mp someAllowed⟩
  · rintro (wasNot | noneAllowed) path outcome opens events
    · rw [wasNot] at flag
      refine schedule_congr ?_ ?_ path opens events
      · exact flag
      · rfl
    · rw [← schedule_setAutoReconnect noneAllowed true path opens]
      refine schedule_congr ?_ ?_ path opens events
      · rfl
      · rfl

/-- The condition, for a socket that was closed and configured anew. -/
theorem reconnectsAsNew_of_configured_again :
    (((new : WebSocketBase Unit Unit).disconnect.setAutoReconnect true).ReconnectsAsNew ↔
      WebSocketCall.disconnected
          [.use .disconnect, (.setAutoReconnect true : WebSocketCall Unit)] = false ∨
        (5 : Int) ≤ 0) :=
  reconnectsAsNew_iff (runs_iff_replay.mpr rfl) (by decide)

/-- A terminal that is disconnected and connected again stays down after the next drop. -/
theorem not_reconnectsAsNew_of_disconnected :
    ¬ ∀ (history : List (WebSocketCall Unit)) (ws : WebSocketBase Unit Unit),
        Runs call new history ws → WebSocketCall.configured history = true →
          ws.ReconnectsAsNew := by
  intro always
  have asNew := always [.use .disconnect] new.disconnect (runs_iff_replay.mpr rfl) rfl
  have dropped := asNew (some ()) .pending nofun [.disconnected]
  revert dropped
  decide

end WebSocketBase

end CoderDesktop.Api
