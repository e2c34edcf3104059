import CoderDesktop.Api.WebSocketBase
import CoderDesktop.Settings.Variant

/-!
# Build logs

The log of a build as a server sends it, from its first line on every connection, and what
`BuildLogWebSocket` emits of it. A connection that the server closes after the last line
and one that is lost before are the same signal, which ends the build for the listeners
and arms the timer of the next attempt.
-/

namespace CoderDesktop.Api

open Semantics Settings

/-- The arguments of `logReceived`. The time is as the server writes it. -/
structure LogEntry where
  id : Int
  output : String
  level : String
  stage : String
  createdAt : String
deriving DecidableEq, Repr

/-- The web socket of a build log. It sends nothing. -/
structure BuildLogWebSocket where
  base : WebSocketBase String Empty
  buildId : String
deriving DecidableEq

namespace BuildLogWebSocket

/-- A socket that has watched no build. -/
def new : BuildLogWebSocket := ⟨.new, ""⟩

/-- The whole log of the build is asked for, and what follows. -/
def connectToBuildLogs (ws : BuildLogWebSocket) (buildId : String) (outcome : OpenOutcome) :
    BuildLogWebSocket × List WebSocketSignal :=
  let path := "/api/v2/workspacebuilds/" ++ buildId ++ "/logs?follow=true&after=0"
  let (base, signals) := ws.base.connectToEndpoint (some path) outcome
  (⟨base, buildId⟩, signals)

/-- What is emitted for a message, which is `none` where it is no JSON. -/
def onTextMessage (message : Option Json) : Option LogEntry :=
  message.map fun doc =>
    let obj := doc.toObject
    { id := (Json.value obj "id").toInt
      output := (Json.value obj "output").toText
      level := (Json.value obj "level").toText
      stage := (Json.value obj "stage").toText
      createdAt := (Json.value obj "created_at").toText }

end BuildLogWebSocket

/-! ## A stream of logs -/

/-- What is seen of a `BuildLogWebSocket`, with the place of a line in the log. -/
inductive BuildLogSignal where
  | attempt
  | logReceived (line : Nat) (entry : LogEntry)
  | buildComplete
deriving DecidableEq, Repr

/-- The number of the log line a signal brings. -/
def BuildLogSignal.line : BuildLogSignal → Option Nat
  | .logReceived line _ => some line
  | .attempt | .buildComplete => none

/-- What happens to a stream, seen from both ends. -/
inductive BuildLogEvent where
  | connectToBuildLogs (buildId : String) (outcome : OpenOutcome)
  /-- The server sends the next line. -/
  | line
  /-- The server closes the connection after the last line. -/
  | finish
  | socket (event : SocketEvent)
deriving DecidableEq, Repr

/-- A socket and the server it is connected to. -/
structure BuildLogStream where
  ws : BuildLogWebSocket
  log : List Json
  /-- The lines sent over the present connection. -/
  sent : Nat
  emitted : List BuildLogSignal
  /-- The server has closed a connection. -/
  closed : Bool

namespace BuildLogStream

/-- A stream over the log the server has, before it is connected. -/
def new (log : List Json) : BuildLogStream := ⟨.new, log, 0, [], false⟩

variable (world : BuildLogStream)

/-- `disconnected` is connected to `buildComplete`. -/
def report (signals : List WebSocketSignal) : List BuildLogSignal :=
  signals.filterMap fun signal => if signal = .disconnected then some .buildComplete else none

/-- An event of the socket, and what it reports. -/
def react (event : SocketEvent) : Option BuildLogStream :=
  (world.ws.base.react event).map fun (base, signals) =>
    { world with ws := { world.ws with base }, emitted := world.emitted ++ report signals }

/-- The stream is connected once; its first report is the attempt. -/
def next : BuildLogEvent → Option BuildLogStream
  | .connectToBuildLogs buildId outcome =>
      if world.emitted = [] then
        let (ws, signals) := world.ws.connectToBuildLogs buildId outcome
        some { world with ws, emitted := .attempt :: report signals }
      else none
  | .line =>
      if world.ws.base.isConnected then
        world.log[world.sent]?.map fun line =>
          { world with
            sent := world.sent + 1
            emitted := world.emitted ++
              (BuildLogWebSocket.onTextMessage (some line)).toList.map (.logReceived world.sent) }
      else none
  | .finish =>
      if world.ws.base.isConnected ∧ world.sent = world.log.length then
        { world with closed := true }.react .disconnected
      else none
  | .socket (.timeout outcome) =>
      let attempts := world.ws.base.lastPath.toList.map fun _ => BuildLogSignal.attempt
      { world with sent := 0, emitted := world.emitted ++ attempts }.react (.timeout outcome)
  | .socket event => world.react event

/-- Each line is received once and in order. The build is complete after the last one, once,
and no connection is attempted after that. -/
structure DeliveredOnce : Prop where
  inOrder : (world.emitted.filterMap BuildLogSignal.line).Pairwise (· < ·)
  complete : ∀ before after, world.emitted = before ++ .buildComplete :: after →
    (∀ line < world.log.length, line ∈ before.filterMap BuildLogSignal.line) ∧
      .buildComplete ∉ after ∧ .attempt ∉ after
  closed : world.closed = true → .buildComplete ∈ world.emitted

/-- The connection is not lost before the last line, and the timer does not expire. -/
def Undisturbed (world : BuildLogStream) : BuildLogEvent → Prop
  | .connectToBuildLogs _ .failed => world.log = []
  | .socket .disconnected => world.sent = world.log.length
  | .socket (.timeout _) => False
  | _ => True

variable {world : BuildLogStream}

/-- What the stream's reaction leaves is read off the socket's. -/
theorem of_react {event : SocketEvent} {after : BuildLogStream}
    (reacted : world.react event = some after) :
    ∃ reaction, world.ws.base.Reacted event reaction ∧
      after = { world with
        ws := { world.ws with base := reaction.1 }
        emitted := world.emitted ++ report reaction.2 } := by
  obtain ⟨reaction, fired, rfl⟩ := Option.map_eq_some_iff.mp reacted
  exact ⟨reaction, WebSocketBase.reacted_of_react fired, rfl⟩

/-! ### The first connection -/

/-- The state up to the end of the first connection. -/
structure First (world : BuildLogStream) : Prop where
  lines : world.emitted.filterMap BuildLogSignal.line = List.range world.sent
  bound : world.sent ≤ world.log.length
  stopped : .buildComplete ∈ world.emitted → world.ws.base.socket.state = .unconnected
  opened : world.ws.base.socket.state ≠ .unconnected → world.ws.base.lastPath ≠ none
  armed : world.ws.base.reconnectTimer ≠ none →
    .buildComplete ∈ world.emitted ∧ world.ws.base.lastPath ≠ none
  closed : world.closed = true → .buildComplete ∈ world.emitted

/-- A connection was attempted after the build was reported complete. -/
def Retried (world : BuildLogStream) : Prop :=
  ∃ before after, world.emitted = before ++ .buildComplete :: after ∧ .attempt ∈ after

/-- A stream that connects again does not deliver its log once. -/
theorem not_deliveredOnce_of_retried (retried : world.Retried) : ¬ world.DeliveredOnce := by
  obtain ⟨before, after, shape, attempted⟩ := retried
  exact fun once => (once.complete before after shape).2.2 attempted

/-- More signals do not undo a retry. -/
theorem Retried.append {after : BuildLogStream} (retried : world.Retried)
    {signals : List BuildLogSignal} (grown : after.emitted = world.emitted ++ signals) :
    after.Retried := by
  obtain ⟨before, rest, shape, attempted⟩ := retried
  refine ⟨before, rest ++ signals, ?_, List.mem_append_left signals attempted⟩
  rw [grown, shape, List.append_assoc]
  rfl

/-- As long as no end was announced the log may still come once. -/
theorem deliveredOnce_of_running (first : world.First) (running : .buildComplete ∉ world.emitted) :
    world.DeliveredOnce where
  inOrder := by
    rw [first.lines]
    exact List.pairwise_lt_range
  complete before after shape := by
    rw [shape] at running
    exact absurd (List.mem_append_right before List.mem_cons_self) running
  closed isClosed := absurd (first.closed isClosed) running

/-- The end of the connection is the end of the build. -/
def ended (world : BuildLogStream) : BuildLogStream :=
  { world with
    ws := { world.ws with base := (world.ws.base.setState .unconnected).onDisconnected.1 }
    emitted := world.emitted ++ [.buildComplete] }

/-- Only a connection that was opened can break. -/
theorem of_disconnected {after : BuildLogStream}
    (reacted : world.react .disconnected = some after) :
    world.ws.base.socket.state ≠ .unconnected ∧ after = world.ended := by
  obtain ⟨reaction, fired, rfl⟩ := of_react reacted
  cases fired with
  | disconnected opened => exact ⟨opened, rfl⟩

/-- An open connection has announced no end. -/
theorem First.running (first : world.First)
    (opened : world.ws.base.socket.state ≠ .unconnected) : .buildComplete ∉ world.emitted :=
  fun complete => opened (first.stopped complete)

/-- The end belongs to the first connection. -/
theorem first_ended (first : world.First)
    (opened : world.ws.base.socket.state ≠ .unconnected) : world.ended.First where
  lines := by
    dsimp only [ended]
    rw [List.filterMap_append, first.lines]
    exact List.append_nil _
  bound := first.bound
  stopped _ := by
    dsimp only [ended]
    rw [WebSocketBase.socket_onDisconnected]
    rfl
  opened stillOpen := by
    dsimp only [ended] at stillOpen
    rw [WebSocketBase.socket_onDisconnected] at stillOpen
    exact absurd rfl stillOpen
  armed _ := by
    dsimp only [ended]
    rw [WebSocketBase.lastPath_onDisconnected]
    exact ⟨List.mem_append_right _ List.mem_cons_self, first.opened opened⟩
  closed _ := List.mem_append_right _ List.mem_cons_self

/-- The build is reported complete rightly if all lines were sent. -/
theorem deliveredOnce_ended_iff (first : world.First)
    (running : .buildComplete ∉ world.emitted) :
    world.ended.DeliveredOnce ↔ world.sent = world.log.length := by
  have bound := first.bound
  constructor
  · intro once
    have received := (once.complete world.emitted [] rfl).1 world.sent
    rw [first.lines, List.mem_range] at received
    by_contra fewer
    exact Nat.lt_irrefl _ (received (Nat.lt_of_le_of_ne bound fewer))
  · intro all
    refine ⟨?_, fun before after shape => ?_, fun _ => ?_⟩
    · dsimp only [ended]
      rw [List.filterMap_append]
      exact (List.append_nil _).symm ▸ (deliveredOnce_of_running first running).inOrder
    · rcases snoc_eq_split.mp shape with ⟨rfl, rfl, -⟩ | ⟨rest, rfl, earlier⟩
      · refine ⟨fun line inLog => ?_, List.not_mem_nil, List.not_mem_nil⟩
        rw [first.lines, List.mem_range, all]
        exact inLog
      · rw [earlier] at running
        exact absurd (List.mem_append_right before List.mem_cons_self) running
    · exact List.mem_append_right _ List.mem_cons_self

/-! ### Steps -/

/-- The stream after a call of `connectToBuildLogs`. -/
def connect (world : BuildLogStream) (buildId : String) (outcome : OpenOutcome) :
    BuildLogStream :=
  { world with
    ws := (world.ws.connectToBuildLogs buildId outcome).1
    emitted := .attempt :: report (world.ws.connectToBuildLogs buildId outcome).2 }

/-- A failure inside `open` is the end of a connection that was just requested. -/
theorem connect_failed (buildId : String) :
    world.connect buildId .failed = (world.connect buildId .pending).ended :=
  rfl

/-- Without a signal no line was sent. -/
theorem First.sent_eq_zero (first : world.First) (nothing : world.emitted = []) :
    world.sent = 0 := by
  have lines := first.lines
  rw [nothing] at lines
  exact List.range_eq_nil.mp lines.symm

/-- The first call connects for the first time. -/
theorem first_connect (first : world.First) (nothing : world.emitted = []) (buildId : String)
    (outcome : OpenOutcome) : (world.connect buildId outcome).First := by
  have requested {outcome : OpenOutcome} (later : outcome ≠ .failed) :
      (world.connect buildId outcome).First := by
    have emitted : (world.connect buildId outcome).emitted = [.attempt] := by
      cases outcome with
      | rejected | pending => rfl
      | failed => exact absurd rfl later
    have running : .buildComplete ∉ (world.connect buildId outcome).emitted := by
      rw [emitted]
      exact List.not_mem_cons_of_ne_of_not_mem nofun List.not_mem_nil
    have hasPath : (world.connect buildId outcome).ws.base.lastPath ≠ none :=
      Option.ne_none_iff_exists'.mpr ⟨_, WebSocketBase.lastPath_connectToEndpoint _ _⟩
    refine ⟨?_, first.bound, fun complete => absurd complete running, fun _ => hasPath, ?_, ?_⟩
    · rw [emitted, connect, first.sent_eq_zero nothing]
      rfl
    · intro armed
      cases outcome with
      | rejected | pending => exact absurd rfl armed
      | failed => exact absurd rfl later
    · intro isClosed
      have complete := first.closed isClosed
      rw [nothing] at complete
      cases complete
  cases outcome with
  | rejected | pending => exact requested nofun
  | failed => exact connect_failed buildId ▸ first_ended (requested nofun) nofun

/-- A call delivers once exactly when nothing disturbs it. -/
theorem deliveredOnce_connect_iff (first : world.First) (nothing : world.emitted = [])
    (buildId : String) (outcome : OpenOutcome) :
    (world.connect buildId outcome).DeliveredOnce ↔
      world.Undisturbed (.connectToBuildLogs buildId outcome) := by
  have after := first_connect first nothing buildId
  have running : .buildComplete ∉ [BuildLogSignal.attempt] :=
    List.not_mem_cons_of_ne_of_not_mem nofun List.not_mem_nil
  cases outcome with
  | rejected | pending =>
      exact iff_of_true (deliveredOnce_of_running (after _) running) trivial
  | failed =>
      rw [connect_failed, deliveredOnce_ended_iff (after .pending) running]
      change world.sent = world.log.length ↔ world.log = []
      rw [first.sent_eq_zero nothing, eq_comm, List.length_eq_zero_iff]

/-- A connected stream has announced no end. -/
theorem First.running_of_connected (first : world.First)
    (up : world.ws.base.isConnected = true) : .buildComplete ∉ world.emitted := by
  refine first.running ?_
  rw [show world.ws.base.socket.state = .connected from of_decide_eq_true up]
  exact nofun

/-- A line does not announce the end. -/
theorem not_complete_line (running : .buildComplete ∉ world.emitted) (entry : LogEntry) :
    .buildComplete ∉ world.emitted ++ [.logReceived world.sent entry] := by
  rw [List.mem_append, not_or]
  exact ⟨running, List.not_mem_cons_of_ne_of_not_mem nofun List.not_mem_nil⟩

/-- The first connection may receive a line. -/
theorem first_line (first : world.First) (running : .buildComplete ∉ world.emitted) {line : Json}
    (isNext : world.log[world.sent]? = some line) (entry : LogEntry) :
    First { world with
      sent := world.sent + 1
      emitted := world.emitted ++ [.logReceived world.sent entry] } := by
  have stays := not_complete_line running entry
  refine ⟨?_, ?_, fun complete => absurd complete stays, first.opened, ?_, ?_⟩
  · rw [List.filterMap_append, first.lines, List.range_succ]
    rfl
  · obtain ⟨inLog, -⟩ := List.getElem?_eq_some_iff.mp isNext
    exact inLog
  · exact fun armed => absurd (first.armed armed).1 running
  · exact fun isClosed => absurd (first.closed isClosed) running

/-- The first connection may be established. -/
theorem first_connected (first : world.First)
    (connecting : world.ws.base.socket.state = .connecting)
    (running : .buildComplete ∉ world.emitted ++ []) :
    First { world with
      ws := { world.ws with base := (world.ws.base.setState .connected).onConnected.1 }
      emitted := world.emitted ++ [] } := by
  have opened : world.ws.base.socket.state ≠ .unconnected := by
    rw [connecting]
    exact nofun
  refine ⟨?_, first.bound, fun complete => absurd complete running,
    fun _ => first.opened opened, ?_, fun isClosed => ?_⟩
  · rw [List.append_nil]
    exact first.lines
  · intro armed
    rw [List.append_nil]
    exact first.armed armed
  · rw [List.append_nil]
    exact first.closed isClosed

/-- The widget may let go of a stream that has ended. -/
theorem First.close (first : world.First) (complete : .buildComplete ∈ world.emitted) :
    First { world with closed := true } :=
  ⟨first.lines, first.bound, first.stopped, first.opened, first.armed, fun _ => complete⟩

/-- Letting go of a stream that has ended changes nothing. -/
theorem DeliveredOnce.close (once : world.DeliveredOnce)
    (complete : .buildComplete ∈ world.emitted) : DeliveredOnce { world with closed := true } :=
  ⟨once.inOrder, once.complete, fun _ => complete⟩

/-- The timer of a retry announces another attempt. -/
theorem emitted_timeout {outcome : OpenOutcome} {after : BuildLogStream}
    (taken : world.next (.socket (.timeout outcome)) = some after) :
    world.ws.base.reconnectTimer ≠ none ∧ ∃ signals, after.emitted =
      world.emitted ++ (world.ws.base.lastPath.toList.map fun _ => .attempt) ++ signals := by
  obtain ⟨reaction, fired, rfl⟩ := of_react taken
  cases fired with
  | timeout armed outcome => exact ⟨armed, _, rfl⟩

/-- The timer runs once the build was reported complete. -/
theorem First.retried_timeout {outcome : OpenOutcome} {after : BuildLogStream}
    (first : world.First) (taken : world.next (.socket (.timeout outcome)) = some after) :
    after.Retried := by
  obtain ⟨armed, signals, grown⟩ := emitted_timeout taken
  obtain ⟨complete, hasPath⟩ := first.armed armed
  obtain ⟨path, hasPath⟩ := Option.ne_none_iff_exists'.mp hasPath
  obtain ⟨before, rest, shape⟩ := List.append_of_mem complete
  refine ⟨before, rest ++ .attempt :: signals, ?_, by simp⟩
  rw [grown, hasPath, shape]
  simp

/-- What a step makes of the first connection. -/
theorem First.next {event : BuildLogEvent} {after : BuildLogStream} (first : world.First)
    (taken : world.next event = some after) :
    (after.First ∨ after.Retried) ∧
      (world.DeliveredOnce → (after.DeliveredOnce ↔ world.Undisturbed event)) := by
  cases event with
  | connectToBuildLogs buildId outcome =>
      obtain ⟨nothing, rfl⟩ := of_guarded taken
      exact ⟨.inl (first_connect first nothing buildId outcome),
        fun _ => deliveredOnce_connect_iff first nothing buildId outcome⟩
  | line =>
      obtain ⟨up, taken⟩ := Option.ite_none_right_eq_some.mp taken
      obtain ⟨line, isNext, rfl⟩ := Option.map_eq_some_iff.mp taken
      have running := first.running_of_connected up
      refine ⟨.inl (first_line first running isNext _), fun _ => iff_of_true ?_ trivial⟩
      exact deliveredOnce_of_running (first_line first running isNext _)
        (not_complete_line running _)
  | finish =>
      obtain ⟨⟨up, all⟩, taken⟩ := Option.ite_none_right_eq_some.mp taken
      obtain ⟨opened, rfl⟩ := of_disconnected taken
      have complete : .buildComplete ∈ world.ended.emitted :=
        List.mem_append_right _ List.mem_cons_self
      have once := (deliveredOnce_ended_iff first (first.running opened)).mpr all
      exact ⟨.inl ((first_ended first opened).close complete),
        fun _ => iff_of_true (once.close complete) trivial⟩
  | socket event =>
      cases event with
      | connected =>
          obtain ⟨reaction, ⟨connecting⟩, rfl⟩ := of_react taken
          have running : .buildComplete ∉ world.emitted := by
            refine first.running ?_
            rw [connecting]
            exact nofun
          have stays : .buildComplete ∉ world.emitted ++ [] := (List.append_nil _).symm ▸ running
          have after := first_connected first connecting stays
          exact ⟨.inl after, fun _ => iff_of_true (deliveredOnce_of_running after stays) trivial⟩
      | disconnected =>
          obtain ⟨opened, rfl⟩ := of_disconnected taken
          exact ⟨.inl (first_ended first opened),
            fun _ => deliveredOnce_ended_iff first (first.running opened)⟩
      | error =>
          obtain ⟨reaction, ⟨⟩, rfl⟩ := of_react taken
          have same : { world with emitted := world.emitted ++ [] } = world :=
            congrArg (fun emitted => { world with emitted }) (List.append_nil world.emitted)
          exact ⟨.inl (same.symm ▸ first), fun once => iff_of_true (same.symm ▸ once) trivial⟩
      | timeout outcome =>
          have retried := first.retried_timeout taken
          exact ⟨.inr retried, fun _ => iff_of_false (not_deliveredOnce_of_retried retried) id⟩

/-- A retry is never undone. -/
theorem Retried.next {event : BuildLogEvent} {after : BuildLogStream} (retried : world.Retried)
    (taken : world.next event = some after) : after.Retried := by
  have reacts {event : SocketEvent} {after world : BuildLogStream} (retried : world.Retried)
      (reacted : world.react event = some after) : after.Retried := by
    obtain ⟨reaction, -, rfl⟩ := of_react reacted
    exact retried.append rfl
  cases event with
  | connectToBuildLogs buildId outcome =>
      obtain ⟨nothing, -⟩ := Option.ite_none_right_eq_some.mp taken
      obtain ⟨before, rest, shape, -⟩ := retried
      rw [nothing] at shape
      cases (List.append_eq_nil_iff.mp shape.symm).2
  | line =>
      obtain ⟨-, taken⟩ := Option.ite_none_right_eq_some.mp taken
      obtain ⟨line, -, rfl⟩ := Option.map_eq_some_iff.mp taken
      exact retried.append rfl
  | finish =>
      obtain ⟨-, taken⟩ := Option.ite_none_right_eq_some.mp taken
      have closing : Retried { world with closed := true } := retried
      exact reacts closing taken
  | socket event =>
      cases event with
      | timeout outcome =>
          obtain ⟨-, signals, grown⟩ := emitted_timeout taken
          exact retried.append (grown.trans (List.append_assoc _ _ _))
      | connected | disconnected | error => exact reacts retried taken

/-! ### Runs -/

/-- A log is delivered once exactly if its connection is not lost before the last line and
the timer does not expire afterwards. -/
theorem deliveredOnce_iff (log : List Json) (events : List BuildLogEvent) :
    (∀ world, Visits next (new log) events world → world.DeliveredOnce) ↔
      Conforms next Undisturbed (new log) events := by
  have first : (new log).First :=
    ⟨rfl, Nat.zero_le _, nofun, fun opened => absurd rfl opened, fun armed => absurd rfl armed,
      nofun⟩
  refine visits_iff_conforms (fun world => world.First ∨ world.Retried) DeliveredOnce ?_ ?_
    (.inl first) (deliveredOnce_of_running first List.not_mem_nil) events
  · rintro world event after (first | retried) taken
    · exact (first.next taken).1
    · exact .inr (retried.next taken)
  · rintro world event after (first | retried) once taken
    · exact (first.next taken).2 once
    · exact absurd once (not_deliveredOnce_of_retried retried)

/-- The server closes the connection after the only line, and the log is requested again. -/
theorem requested_again_after_end :
    ¬ ∀ world, Visits next (new [.object []])
        [.connectToBuildLogs "b" .pending, .socket .connected, .line, .finish,
          .socket (.timeout .pending)] world → world.DeliveredOnce := by
  refine not_visits_of_replay
    (fun world => decide (world.emitted.drop 2 = [.buildComplete, .attempt]))
    (by decide) ?_
  intro world requested once
  have shape := (List.take_append_drop 2 world.emitted).symm
  rw [of_decide_eq_true requested] at shape
  exact (once.complete _ _ shape).2.2 List.mem_cons_self

end BuildLogStream

end CoderDesktop.Api
