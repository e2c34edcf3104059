import CoderDesktop.Vpn.GhostPeers

/-!
# What the peers page shows

The rows of the `PeerModel` as a board with one place for each host name. It is written on by
the signals in the order in which the helper emitted them and wiped when the bridge tells of a
state that is not "connected".
-/

namespace CoderDesktop.Vpn

open Semantics

/-- What was last told of each host name. -/
abbrev Board := String → Option PeerUpdated

/-- A peer is told of, or all are forgotten. -/
inductive BoardEvent where
  | told (signal : PeerUpdated)
  | wiped

/-- The signal told last stands for its hostname. -/
def Board.next (board : Board) : BoardEvent → Board
  | .told signal => Function.update board signal.hostname (some signal)
  | .wiped => fun _ => none

/-- The signal of the event, if it has one. -/
def BoardEvent.signal : BoardEvent → Option PeerUpdated
  | .told signal => some signal
  | .wiped => none

/-! ## The rows as a board -/

/-- The row of a host name. -/
def rowOf (rows : List PeerInfo) (hostname : String) : Option PeerInfo :=
  rows.find? fun row => row.hostname = hostname

/-- A peer's row stays where it is, or is added at the end. -/
theorem hostnames_updatePeer (peer : PeerInfo) (rows : List PeerInfo) :
    (updatePeer peer rows).map PeerUpdated.hostname =
      if peer.hostname ∈ rows.map PeerUpdated.hostname then rows.map PeerUpdated.hostname
      else rows.map PeerUpdated.hostname ++ [peer.hostname] := by
  induction rows with
  | nil => rfl
  | cons row rest inductionHypothesis =>
      rw [updatePeer]
      by_cases same : row.hostname = peer.hostname
      · simp [same]
      · rw [if_neg same, List.map_cons, inductionHypothesis]
        have other : peer.hostname ≠ row.hostname := Ne.symm same
        by_cases listed : peer.hostname ∈ rest.map PeerUpdated.hostname
        · simp [listed]
        · simp [listed, other]

/-- No hostname has two rows. -/
theorem nodup_updatePeer {rows : List PeerInfo} (nodup : (rows.map PeerUpdated.hostname).Nodup)
    (peer : PeerInfo) : ((updatePeer peer rows).map PeerUpdated.hostname).Nodup := by
  rw [hostnames_updatePeer]
  split
  · exact nodup
  · rename_i absent
    exact List.nodup_append.mpr ⟨nodup, List.nodup_singleton _, by
      rintro hostname listed _ last rfl
      obtain rfl := List.mem_singleton.mp last
      exact absent listed⟩

/-- The peer's row becomes the one told. -/
theorem rowOf_updatePeer (peer : PeerInfo) (rows : List PeerInfo) :
    rowOf (updatePeer peer rows) = Function.update (rowOf rows) peer.hostname (some peer) := by
  funext hostname
  induction rows with
  | nil =>
      by_cases same : hostname = peer.hostname
      · subst same
        simp [rowOf, updatePeer]
      · simp [rowOf, updatePeer, Function.update_of_ne same, Ne.symm same]
  | cons row rest inductionHypothesis =>
      rw [updatePeer]
      by_cases replaced : row.hostname = peer.hostname
      · rw [if_pos replaced]
        by_cases same : hostname = peer.hostname
        · subst same
          simp [rowOf]
        · have other : ¬ peer.hostname = hostname := Ne.symm same
          simp [rowOf, Function.update_of_ne same, other, replaced]
      · rw [if_neg replaced]
        by_cases first : row.hostname = hostname
        · have same : hostname ≠ peer.hostname := first ▸ replaced
          simp [rowOf, Function.update_of_ne same, first]
        · have later (rows : List PeerInfo) :
              rowOf (row :: rows) hostname = rowOf rows hostname := by
            simp [rowOf, first]
          rw [later, inductionHypothesis]
          by_cases same : hostname = peer.hostname
          · subst same
            simp
          · rw [Function.update_of_ne same, Function.update_of_ne same, later]

/-- The second of the two connections finds the row as the first one left it. -/
theorem rowOf_updatePeer_twice (peer : PeerInfo) (rows : List PeerInfo) :
    rowOf (updatePeer peer (updatePeer peer rows)) =
      Function.update (rowOf rows) peer.hostname (some peer) := by
  rw [rowOf_updatePeer, rowOf_updatePeer, Function.update_idem]

namespace PeerWorld

/-! ## What a step does to the board -/

/-- The bridge tells of a state that is not "connected". -/
def wipes (state : PeerWorld) (event : WorldEvent) (next : World) : List BoardEvent :=
  if .stateChanged ∈ state.world.signals event ∧ next.bridge.state ≠ .reported .connected then
    [.wiped]
  else []

/-- What the board is told in a step to `after`. -/
def boardEvents (state : PeerWorld) (after : PeerWorld) : PeerEvent → List BoardEvent
  | .world event => state.wipes event after.world
  | .deliver =>
      match state.traffic with
      | .peer signal :: _ => [.told signal]
      | .message :: _ => state.wipes .deliver after.world
      | [] => []
  | .controllerRun _ _ | .update _ _ | .act _ _ | .tick _ | .ping _ _ _ _ => []

/-- What the board is told over a run. -/
def boardHistory : PeerWorld → List PeerEvent → List BoardEvent
  | _, [] => []
  | state, event :: rest =>
      match state.next event with
      | none => []
      | some after => state.boardEvents after event ++ after.boardHistory rest

/-- The signals on their way to the application. -/
def underway (state : PeerWorld) : List PeerUpdated :=
  state.traffic.filterMap fun
    | .peer signal => some signal
    | .message => none

/-- The rows after an event of the bridge are those the board keeps. -/
theorem rowOf_peersAfter (state : PeerWorld) (event : WorldEvent) (world : World) :
    rowOf (state.peersAfter event world) =
      (state.wipes event world).foldl Board.next (rowOf state.peers) := by
  unfold peersAfter wipes
  split
  · rfl
  · rfl

/-- The rows after an event of the bridge have distinct hostnames. -/
theorem nodup_peersAfter {state : PeerWorld}
    (nodup : (state.peers.map PeerUpdated.hostname).Nodup) (event : WorldEvent) (world : World) :
    ((state.peersAfter event world).map PeerUpdated.hostname).Nodup := by
  unfold peersAfter
  split
  · exact List.nodup_nil
  · exact nodup

/-- Forgetting tells of no peer. -/
theorem signals_wipes (state : PeerWorld) (event : WorldEvent) (world : World) :
    (state.wipes event world).filterMap BoardEvent.signal = [] := by
  unfold wipes
  split <;> rfl

/-- The step does to the rows what its events do to the board. -/
theorem rowOf_step {state after : PeerWorld} {event : PeerEvent}
    (step : Step state event after) :
    rowOf after.peers = (state.boardEvents after event).foldl Board.next (rowOf state.peers) := by
  cases step with
  | world own taken => exact rowOf_peersAfter state _ _
  | controllerRun mayRun => rfl
  | update found => rfl
  | act found running => exact congrArg rowOf (peers_emit _ _)
  | tick found => rfl
  | ping found running current pinged => exact congrArg rowOf (peers_emit _ _)
  | deliverMessage first taken =>
      simp only [boardEvents, first]
      exact rowOf_peersAfter state _ _
  | deliverPeer first =>
      simp only [boardEvents, first]
      exact rowOf_updatePeer_twice _ _

/-- Every step keeps the hostnames distinct. -/
theorem nodup_step {state after : PeerWorld} {event : PeerEvent} (step : Step state event after)
    (nodup : (state.peers.map PeerUpdated.hostname).Nodup) :
    (after.peers.map PeerUpdated.hostname).Nodup := by
  cases step with
  | world own taken => exact nodup_peersAfter nodup _ _
  | controllerRun mayRun => exact nodup
  | update found => exact nodup
  | act found running =>
      rw [peers_emit]
      exact nodup
  | tick found => exact nodup
  | ping found running current pinged =>
      rw [peers_emit]
      exact nodup
  | deliverMessage first taken => exact nodup_peersAfter nodup _ _
  | deliverPeer first => exact nodup_updatePeer (nodup_updatePeer nodup _) _

/-! ## Nothing is lost on the way -/

/-- An emitted signal is under way. -/
theorem underway_emit (state : PeerWorld) (emission : Option Emission) :
    (state.emit emission).underway = state.underway ++ (emission.map Emission.signal).toList := by
  cases emission with
  | none => exact (List.append_nil _).symm
  | some emission =>
      unfold underway emit
      rw [List.filterMap_append]
      rfl

/-- Messages of the helper are no peer signals. -/
theorem underway_replicate (count : Nat) :
    (List.replicate count Traffic.message).filterMap (fun
      | .peer signal => some signal
      | .message => none) = [] :=
  List.filterMap_eq_nil_iff.mpr fun entry member => by
    rw [List.eq_of_mem_replicate member]

/-- What is emitted goes behind what is under way, and the board is told of the first of it. -/
theorem told_step {state after : PeerWorld} {event : PeerEvent} (step : Step state event after)
    (told : List PeerUpdated)
    (books : state.log.reverse.map Emission.signal = told ++ state.underway) :
    after.log.reverse.map Emission.signal =
      told ++ (state.boardEvents after event).filterMap BoardEvent.signal ++ after.underway := by
  have emitting {between : PeerWorld} (emission : Option Emission)
      (log : between.log = state.log) (underway : between.underway = state.underway) :
      (between.emit emission).log.reverse.map Emission.signal =
        told ++ [] ++ (between.emit emission).underway := by
    rw [log_emit, underway_emit, List.reverse_append, List.map_append, log, underway, books,
      List.append_nil, List.append_assoc]
    cases emission <;> rfl
  have silent : state.log.reverse.map Emission.signal = told ++ [] ++ state.underway :=
    books.trans (by rw [List.append_nil])
  cases step with
  | @world event world own taken =>
      have same : (state.withWorld event world (state.traffic ++ List.replicate
          (world.queue.length - state.world.queue.length) .message)).underway =
            state.underway := by
        unfold underway withWorld
        rw [List.filterMap_append, underway_replicate, List.append_nil]
      rw [same, boardEvents, signals_wipes, List.append_nil]
      exact books
  | controllerRun mayRun => exact silent
  | update found => exact silent
  | act found running => exact emitting _ rfl rfl
  | tick found => exact silent
  | ping found running current pinged => exact emitting _ rfl rfl
  | deliverMessage first taken =>
      simp only [boardEvents, first]
      rw [signals_wipes, List.append_nil]
      refine books.trans ?_
      simp [underway, first, withWorld]
  | deliverPeer first =>
      simp only [boardEvents, first]
      refine books.trans ?_
      simp [underway, first, BoardEvent.signal]

/-! ## Runs -/

/-- One more event adds its part to the history. -/
theorem boardHistory_append {start state after : PeerWorld} {events : List PeerEvent}
    {event : PeerEvent} (run : Runs next start events state)
    (taken : state.next event = some after) :
    start.boardHistory (events ++ [event]) =
      start.boardHistory events ++ state.boardEvents after event := by
  induction events generalizing start with
  | nil =>
      obtain rfl : start = state := Option.some.inj (runs_iff_replay.mp run)
      simp [boardHistory, taken]
  | cons first rest inductionHypothesis =>
      obtain ⟨middle, stepped, later⟩ := Option.bind_eq_some_iff.mp (runs_iff_replay.mp run)
      have tail := inductionHypothesis (runs_iff_replay.mpr later)
      simp [boardHistory, stepped, tail]

/-- In every run the rows, one for each host name, show what was last told of it since the bridge
last told of a state that is not "connected". What was told and what is under way are the signals
that were emitted, in order. -/
theorem peers_last_told {events : List PeerEvent} {state : PeerWorld}
    (run : Runs next new events state) :
    (state.peers.map PeerUpdated.hostname).Nodup ∧
      rowOf state.peers = (new.boardHistory events).foldl Board.next (fun _ => none) ∧
      state.log.reverse.map Emission.signal =
        (new.boardHistory events).filterMap BoardEvent.signal ++ state.underway := by
  refine run.induct (fun events state => (state.peers.map PeerUpdated.hostname).Nodup ∧
    rowOf state.peers = (new.boardHistory events).foldl Board.next (fun _ => none) ∧
    state.log.reverse.map Emission.signal =
      (new.boardHistory events).filterMap BoardEvent.signal ++ state.underway)
    ⟨List.nodup_nil, rfl, rfl⟩ (fun events state event after prior held _ taken => ?_)
    (conforms_true events)
  obtain ⟨nodup, rows, books⟩ := held
  have step := step_of_next taken
  rw [boardHistory_append prior taken, List.foldl_append, List.filterMap_append, ← rows]
  exact ⟨nodup_step step nodup, rowOf_step step, told_step step _ books⟩

/-- The second signal is delivered, the third is under way. -/
theorem peers_last_told_announced : ∃ state, Runs next new
      (announceAgent ++ .tick 0 :: .ping 0 0 0 (some (12, true)) :: List.replicate 3 .deliver)
      state ∧ state.underway.length = 1 ∧
    (state.peers.map PeerUpdated.hostname).Nodup ∧
    rowOf state.peers = (new.boardHistory (announceAgent ++
      .tick 0 :: .ping 0 0 0 (some (12, true)) :: List.replicate 3 .deliver)).foldl
        Board.next (fun _ => none) := by
  refine (runs_of_replay (fun state => decide (state.underway.length = 1)) (by decide)).imp
    fun state ⟨run, one⟩ => ⟨run, of_decide_eq_true one, ?_⟩
  have told := peers_last_told run
  exact ⟨told.1, told.2.1⟩

end PeerWorld

end CoderDesktop.Vpn
