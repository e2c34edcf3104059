import CoderDesktop.Dlp.ProxyAccounting

/-!
# Launches, reaper ticks and the final cleanup

A run of the compositor over its table of proxies. `failures` records, for each launch
that failed or got no proxy, what there was before and after. A launch leaves something
behind exactly when the directory for the socket is made and the pipe or the fork that
comes next fails.
-/

namespace CoderDesktop.Dlp

open Semantics

/-- What was held before and after a launch that went wrong. -/
structure LaunchFailure where
  before : Resources
  after : Resources
  /-- The application, if it was launched without its proxy. -/
  app : Option Int
deriving DecidableEq, Repr

/-- Nothing is new but the application. -/
def LaunchFailure.Clean (failure : LaunchFailure) : Prop :=
  failure.after = { failure.before with apps := failure.app.toList ++ failure.before.apps }

/-- The system, the table of proxies, and what launches left. -/
structure ProxyWorld where
  kernel : Kernel
  table : ProxyTable
  destroyed : Bool
  failures : List LaunchFailure
deriving DecidableEq, Repr

/-- The calls that concern proxies, and the ends of proxies. -/
inductive ProxyEvent where
  | launch (host : Host) (sandbox : Option SandboxConfig) (outcome : LaunchCalls)
  | reap
  | proxyExited (pid : Int)
  /-- The cleanup, with the proxies that exit as soon as their pipe is closed. -/
  | destroy (exits : Int → Bool)

/-- After `mkdtemp` the pipe or the fork fails. -/
def LaunchCalls.LeavesDirectory (outcome : LaunchCalls) (host : Host) : Prop :=
  (host.getenv "DBUS_SESSION_BUS_ADDRESS").isSome ∧ findInPath host "xdg-dbus-proxy" = true ∧
    outcome.proxy.mkdtemp.isSome ∧ ¬ (outcome.proxy.pipe = true ∧ outcome.proxy.fork = true)

namespace ProxyWorld

/-- No proxy was started. -/
def new : ProxyWorld := ⟨.new, ⟨[], 0⟩, false, []⟩

/-- `mkdtemp` chooses six characters and makes a directory that was not there. -/
def Admits (world : ProxyWorld) (outcome : LaunchCalls) : Prop :=
  ∀ suffix ∈ outcome.proxy.mkdtemp, suffix.toList.length = 6 ∧
    tempDir suffix ∉ world.kernel.directories

instance (world : ProxyWorld) (outcome : LaunchCalls) : Decidable (world.Admits outcome) := by
  unfold Admits
  cases outcome.proxy.mkdtemp with
  | none => exact .isTrue fun _ none => by cases none
  | some suffix => exact decidable_of_iff (suffix.toList.length = 6 ∧
      tempDir suffix ∉ world.kernel.directories) ⟨fun both _ same => Option.some.inj same ▸ both,
        fun every => every suffix rfl⟩

/-- A launch, noted if it went wrong. -/
def launch (world : ProxyWorld) (host : Host) (sandbox : Option SandboxConfig)
    (outcome : LaunchCalls) : ProxyWorld :=
  let launched := world.kernel.coderDlpLaunchApp world.table host sandbox outcome
  { world with
    kernel := launched.kernel
    table := launched.table
    failures :=
      if launched.app = none ∨ launched.proxyFailed = true then
        world.failures ++ [⟨world.kernel.toResources, launched.kernel.toResources, launched.app⟩]
      else world.failures }

/-- The proxies whose applications have exited are let go. -/
def reap (world : ProxyWorld) : ProxyWorld :=
  let reaped := world.kernel.dlpReapDbusProxies world.table.proxies
  { world with kernel := reaped.1, table := { world.table with proxies := reaped.2 } }

/-- All proxies are stopped, and the table is freed. -/
def destroy (world : ProxyWorld) (exits : Int → Bool) : ProxyWorld :=
  { world with
    kernel := world.kernel.dlpCleanupDbusProxies exits world.table.proxies
    table := ⟨[], 0⟩
    destroyed := true }

/-- Nothing is asked of a compositor that was destroyed. -/
def next (world : ProxyWorld) : ProxyEvent → Option ProxyWorld
  | .launch host sandbox outcome =>
      if world.destroyed = false ∧ world.Admits outcome then
        some (world.launch host sandbox outcome)
      else none
  | .reap => if world.destroyed = false then some world.reap else none
  | .proxyExited pid =>
      if pid ∈ world.kernel.processes then some { world with kernel := world.kernel.exit pid }
      else none
  | .destroy exits => if world.destroyed = false then some (world.destroy exits) else none

/-- Launches that failed left nothing behind, and after the cleanup every proxy that
was started has been released. -/
structure Accounted (world : ProxyWorld) : Prop where
  failures : ∀ failure ∈ world.failures, failure.Clean
  released : world.destroyed = true → ∀ proxy ∈ world.kernel.started, world.kernel.Released proxy

/-- A launch with a filtered bus leaves no directory behind. -/
def ReleasesDirectory : ProxyEvent → Prop
  | .launch host sandbox outcome =>
      sandbox.any (·.filterDbus) = true → ¬ outcome.LeavesDirectory host
  | .reap | .proxyExited _ | .destroy _ => True

/-- The table has room for its entries, and none before the start of its proxy. -/
structure TableWellFormed (table : ProxyTable) : Prop where
  fits : table.proxies.length ≤ table.capacity
  entries : ∀ proxy ∈ table.proxies, 0 ≤ proxy.pid

/-- What every run keeps as long as its launches leave nothing behind. -/
structure Sound (world : ProxyWorld) : Prop where
  balanced : world.kernel.Balanced (live world.table.proxies)
  table : TableWellFormed world.table
  empty : world.destroyed = true → world.table.proxies = []

end ProxyWorld

/-! ## Starting a proxy -/

/-- How `dlp_start_dbus_proxy` can end. -/
inductive Starts (kernel : Kernel) (host : Host) (outcome : LaunchCalls) :
    Kernel × DbusProxy × Bool → Prop where
  | notTried {proxy} (none : proxy.pid ≤ 0) (kept : ¬ outcome.LeavesDirectory host) :
      Starts kernel host outcome (kernel, proxy, false)
  | leaves {suffix after proxy} (none : proxy.pid ≤ 0) (left : outcome.LeavesDirectory host)
      (directories : after.directories = tempDir suffix :: kernel.directories) :
      Starts kernel host outcome (after, proxy, false)
  | timedOut {proxy made after entry} (none : entry.pid ≤ 0)
      (kept : ¬ outcome.LeavesDirectory host) (acquires : Kernel.Acquires proxy kernel made)
      (releases : Kernel.Releases proxy made after) :
      Starts kernel host outcome (after, entry, false)
  | ready {proxy made} (kept : ¬ outcome.LeavesDirectory host)
      (acquires : Kernel.Acquires proxy kernel made) :
      Starts kernel host outcome (made, proxy, true)

namespace Kernel

variable {kernel before after : Kernel} {proxy : DbusProxy} {held : List DbusProxy}

/-- Waiting for the socket, once the proxy is there. -/
theorem starts_awaitSocket {host : Host} {outcome : LaunchCalls} {piped made : Kernel}
    {readFd : Int} (kept : ¬ outcome.LeavesDirectory host) (closes : piped.close readFd = made)
    (acquires : Acquires proxy kernel made) (unbound : made.sockets = kernel.sockets)
    (running : proxy.pid ∈ made.processes) :
    Starts kernel host outcome (piped.awaitSocket readFd proxy outcome) := by
  simp only [awaitSocket, closes]
  cases outcome.proxy.socketReady with
  | true =>
      simp only [true_or, if_true]
      exact .ready kept (acquires.bindSocket unbound)
  | false =>
      simp only [Bool.false_eq_true, false_or, if_false]
      cases outcome.socketLate with
      | true =>
          exact .timedOut (Int.le_refl 0) kept (acquires.bindSocket unbound)
            (releases_timeout acquires.made.socket running)
      | false =>
          exact .timedOut (Int.le_refl 0) kept acquires
            (releases_timeout acquires.made.socket running)

/-- Starting a proxy ends in one of the ways listed. -/
theorem starts (balanced : kernel.Balanced held) (host : Host) (outcome : LaunchCalls)
    (admitted : ∀ suffix ∈ outcome.proxy.mkdtemp, suffix.toList.length = 6 ∧
      tempDir suffix ∉ kernel.directories) :
    Starts kernel host outcome (kernel.dlpStartDbusProxy host outcome) := by
  unfold dlpStartDbusProxy
  cases address : host.getenv "DBUS_SESSION_BUS_ADDRESS" with
  | none =>
      have kept : ¬ outcome.LeavesDirectory host := by simp [LaunchCalls.LeavesDirectory, address]
      exact .notTried (by decide) kept
  | some text =>
      by_cases found : findInPath host "xdg-dbus-proxy" = true
      · cases chosen : outcome.proxy.mkdtemp with
        | none =>
            have kept : ¬ outcome.LeavesDirectory host := by
              simp [LaunchCalls.LeavesDirectory, chosen]
            simp only [if_neg (not_not.mpr found)]
            exact .notTried (by decide) kept
        | some suffix =>
            obtain ⟨six, new⟩ := admitted suffix chosen
            simp only [if_neg (not_not.mpr found)]
            have left (failed : ¬ (outcome.proxy.pipe = true ∧ outcome.proxy.fork = true)) :
                outcome.LeavesDirectory host :=
              ⟨by rw [address]; rfl, found, by rw [chosen]; rfl, failed⟩
            by_cases pipe : outcome.proxy.pipe = true
            · rw [if_neg (not_not.mpr pipe)]
              by_cases fork : outcome.proxy.fork = true
              · rw [if_neg (not_not.mpr fork)]
                have kept : ¬ outcome.LeavesDirectory host := fun leaves =>
                  leaves.2.2.2 ⟨pipe, fork⟩
                exact starts_awaitSocket kept rfl (acquires_forked balanced six new) rfl
                  List.mem_cons_self
              · rw [if_pos fork]
                exact .leaves (show (-1 : Int) ≤ 0 by decide) (left fun both => fork both.2) rfl
            · rw [if_pos pipe]
              exact .leaves (show (-1 : Int) ≤ 0 by decide) (left fun both => pipe both.1) rfl
      · have kept : ¬ outcome.LeavesDirectory host := fun leaves => found leaves.2.1
        simp only [if_pos found]
        exact .notTried (by decide) kept

/-! ## Launches -/

/-- Forking the app holds no proxy. -/
theorem Balanced.forkApp (balanced : kernel.Balanced held) : kernel.forkApp.Balanced held :=
  { balanced with
    fresh := Nat.succ_pos _
    made := fun proxy started => (balanced.made proxy started).mono (Nat.le_succ _)
    numbers := fun call called proxy concerns => by
      have given := balanced.numbers call called proxy concerns
      simp only [Kernel.forkApp]
      omega }

/-- A running proxy at the end is live. -/
theorem live_append (proxies : List DbusProxy) (positive : 0 < proxy.pid) :
    (live (proxies ++ [proxy])).Perm (proxy :: live proxies) := by
  have single : live [proxy] = [proxy] := List.filter_cons_of_pos (decide_eq_true positive)
  rw [live, List.filter_append]
  change (live proxies ++ live [proxy]).Perm _
  rw [single]
  exact List.perm_append_singleton _ _

open ProxyWorld in
/-- The started proxy ends up in the table, or is gone. -/
theorem Balanced.track {table : ProxyTable} (wellFormed : TableWellFormed table)
    (balanced : kernel.Balanced (proxy :: live table.proxies)) (realloc : Bool) :
    (kernel.track table proxy realloc).1.Balanced
        (live (kernel.track table proxy realloc).2.proxies) ∧
      TableWellFormed (kernel.track table proxy realloc).2 := by
  have made := balanced.made proxy (balanced.started List.mem_cons_self)
  have running := (balanced.processes proxy.pid).mpr ⟨proxy, List.mem_cons_self, rfl⟩
  have appended : kernel.Balanced (live (table.proxies ++ [proxy])) :=
    balanced.perm (live_append _ made.pidPositive).symm
  have entries : ∀ entry ∈ table.proxies ++ [proxy], 0 ≤ entry.pid := fun entry member => by
    rcases List.mem_append.mp member with old | new
    · exact wellFormed.entries entry old
    · exact List.mem_singleton.mp new ▸ Int.le_of_lt made.pidPositive
  have fits := wellFormed.fits
  unfold Kernel.track
  by_cases full : table.proxies.length ≥ table.capacity
  · rw [if_pos full]
    cases realloc with
    | true =>
        have room :
            table.proxies.length < if table.capacity ≠ 0 then table.capacity * 2 else 4 := by
          split <;> omega
        simp only [if_true, if_pos room]
        refine ⟨appended, ?_, entries⟩
        rw [List.length_append, List.length_singleton]
        exact room
    | false =>
        simp only [Bool.false_eq_true, if_false, if_neg (Nat.not_lt.mpr full)]
        exact ⟨balanced.release (releases_discard made running), wellFormed⟩
  · have room : table.proxies.length < table.capacity := Nat.lt_of_not_le full
    simp only [if_neg full, if_pos room]
    refine ⟨appended, ?_, entries⟩
    rw [List.length_append, List.length_singleton]
    exact room

/-- What a launch owes: the proxies are in the table or gone, and a failure is clean. -/
structure Launched.Sound (launched : Launched) (before : Resources) : Prop where
  balanced : launched.kernel.Balanced (live launched.table.proxies)
  table : ProxyWorld.TableWellFormed launched.table
  clean : launched.app = none ∨ launched.proxyFailed = true →
    LaunchFailure.Clean ⟨before, launched.kernel.toResources, launched.app⟩

section Launch

variable {table : ProxyTable} {outcome : LaunchCalls}

/-- A launch that has no proxy. -/
theorem launchWith_without (wellFormed : ProxyWorld.TableWellFormed table)
    (balanced : after.Balanced (live table.proxies)) (none : proxy.pid ≤ 0) (proxyFailed : Bool)
    (same : after.toResources = before.toResources) :
    (after.launchWith table proxy proxyFailed outcome).Sound before.toResources := by
  have notStarted : ¬ proxy.pid > 0 := Int.not_lt.mpr none
  by_cases succeeds : outcome.argv = true ∧ outcome.fork = true
  · rw [launchWith, if_neg (not_not.mpr succeeds)]
    simp only [if_neg notStarted]
    refine ⟨balanced.forkApp, wellFormed, fun _ => ?_⟩
    rw [← same]
    rfl
  · rw [launchWith, if_pos succeeds, if_neg notStarted]
    exact ⟨balanced, wellFormed, fun _ => same⟩

/-- A launch whose proxy was started keeps it, or releases it again. -/
theorem launchWith_ready (wellFormed : ProxyWorld.TableWellFormed table)
    (balanced : before.Balanced (live table.proxies)) (acquires : Acquires proxy before after) :
    (after.launchWith table proxy false outcome).Sound before.toResources := by
  have positive : proxy.pid > 0 := acquires.made.pidPositive
  have held := balanced.acquire acquires
  by_cases succeeds : outcome.argv = true ∧ outcome.fork = true
  · rw [launchWith, if_neg (not_not.mpr succeeds)]
    simp only [if_pos positive]
    obtain ⟨tracked, stillWellFormed⟩ := held.forkApp.track wellFormed outcome.realloc
    refine ⟨tracked, stillWellFormed, fun failed => ?_⟩
    rcases failed with failed | failed <;> cases failed
  · rw [launchWith, if_pos succeeds, if_pos positive]
    have running := (held.processes proxy.pid).mpr ⟨proxy, List.mem_cons_self, rfl⟩
    have releases := releases_discard acquires.made running
    exact ⟨held.release releases, wellFormed, fun _ => acquires.released balanced releases⟩

/-- A launch that leaves nothing behind is sound. -/
theorem coderDlpLaunchApp_sound (wellFormed : ProxyWorld.TableWellFormed table)
    (balanced : kernel.Balanced (live table.proxies)) (host : Host)
    (sandbox : Option SandboxConfig)
    (admitted : ∀ suffix ∈ outcome.proxy.mkdtemp, suffix.toList.length = 6 ∧
      tempDir suffix ∉ kernel.directories)
    (kept : sandbox.any (·.filterDbus) = true → ¬ outcome.LeavesDirectory host) :
    (kernel.coderDlpLaunchApp table host sandbox outcome).Sound kernel.toResources := by
  unfold coderDlpLaunchApp
  split
  · rename_i filtered
    have start := starts balanced host outcome admitted
    generalize kernel.dlpStartDbusProxy host outcome = result at start
    cases start with
    | notTried none _ => exact launchWith_without wellFormed balanced none _ rfl
    | leaves _ left _ => exact absurd left (kept filtered)
    | timedOut none _ acquires releases =>
        exact launchWith_without wellFormed ((balanced.acquire acquires).release releases) none _
          (acquires.released balanced releases)
    | ready _ acquires => exact launchWith_ready wellFormed balanced acquires
  · exact launchWith_without wellFormed balanced (by decide) _ rfl

/-- A launch that leaves the directory is not clean. -/
theorem coderDlpLaunchApp_leaves (table : ProxyTable) (balanced : kernel.Balanced held)
    {host : Host} {sandbox : Option SandboxConfig}
    (admitted : ∀ suffix ∈ outcome.proxy.mkdtemp, suffix.toList.length = 6 ∧
      tempDir suffix ∉ kernel.directories)
    (filtered : sandbox.any (·.filterDbus) = true) (left : outcome.LeavesDirectory host) :
    let launched := kernel.coderDlpLaunchApp table host sandbox outcome
    launched.proxyFailed = true ∧
      ¬ LaunchFailure.Clean ⟨kernel.toResources, launched.kernel.toResources, launched.app⟩ := by
  simp only [coderDlpLaunchApp, if_pos filtered]
  have start := starts balanced host outcome admitted
  generalize kernel.dlpStartDbusProxy host outcome = result at start
  cases start with
  | notTried _ kept => exact absurd left kept
  | timedOut _ kept _ _ => exact absurd left kept
  | ready kept _ => exact absurd left kept
  | @leaves suffix after proxy none _ directories =>
      have notStarted : ¬ proxy.pid > 0 := Int.not_lt.mpr none
      have more : after.directories ≠ kernel.directories := by
        rw [directories]
        exact List.cons_ne_self _ _
      by_cases succeeds : outcome.argv = true ∧ outcome.fork = true
      · rw [launchWith, if_neg (not_not.mpr succeeds)]
        simp only [if_neg notStarted]
        refine ⟨rfl, fun (clean : after.forkApp.toResources = _) => more ?_⟩
        have same := congrArg Resources.directories clean
        exact same
      · rw [launchWith, if_pos succeeds, if_neg notStarted]
        refine ⟨rfl, fun (clean : after.toResources = _) => more ?_⟩
        exact congrArg Resources.directories clean

end Launch

/-! ## The reaper and the cleanup -/

/-- A running proxy in front is live. -/
theorem live_cons_of_pos {rest : List DbusProxy} (positive : 0 < proxy.pid) :
    live (proxy :: rest) = proxy :: live rest :=
  List.filter_cons_of_pos (decide_eq_true positive)

/-- A proxy in front that does not run is not live. -/
theorem live_cons_of_not_pos {rest : List DbusProxy} (notPositive : ¬ 0 < proxy.pid) :
    live (proxy :: rest) = live rest :=
  List.filter_cons_of_neg (by simpa using notPositive)

/-- The entries the loop has passed are among `others`. -/
theorem Balanced.reap {proxies others : List DbusProxy}
    (balanced : kernel.Balanced (live proxies ++ others)) :
    (kernel.dlpReapDbusProxies proxies).1.Balanced
      (live (kernel.dlpReapDbusProxies proxies).2 ++ others) := by
  induction proxies generalizing kernel others with
  | nil => exact balanced
  | cons proxy rest inductionHypothesis =>
      simp only [dlpReapDbusProxies]
      by_cases positive : 0 < proxy.pid
      · rw [live_cons_of_pos positive, List.cons_append] at balanced
        have made := balanced.made proxy (balanced.started List.mem_cons_self)
        have running := (balanced.processes proxy.pid).mpr ⟨proxy, List.mem_cons_self, rfl⟩
        rcases reapProxy_cases made running with kept | ⟨releases, gone⟩
        · rw [kept, live_cons_of_pos positive, List.cons_append]
          exact (inductionHypothesis (balanced.perm List.perm_middle.symm)).perm List.perm_middle
        · rw [live_cons_of_not_pos (by rw [gone]; decide)]
          exact inductionHypothesis (balanced.release releases)
      · have skipped : kernel.reapProxy proxy = (kernel, proxy) := if_pos (Int.not_lt.mp positive)
        rw [live_cons_of_not_pos positive] at balanced
        rw [skipped, live_cons_of_not_pos positive]
        exact inductionHypothesis balanced

/-- Reaping keeps the number of entries. -/
theorem length_dlpReapDbusProxies (kernel : Kernel) (proxies : List DbusProxy) :
    (kernel.dlpReapDbusProxies proxies).2.length = proxies.length := by
  induction proxies generalizing kernel with
  | nil => rfl
  | cons proxy rest inductionHypothesis =>
      rw [dlpReapDbusProxies, List.length_cons, List.length_cons, inductionHypothesis]

/-- Reaping makes no negative pid. -/
theorem pid_reapProxy (kernel : Kernel) (nonnegative : 0 ≤ proxy.pid) :
    0 ≤ (kernel.reapProxy proxy).2.pid := by
  unfold reapProxy
  split
  · exact nonnegative
  · simp only
    split
    · exact Int.le_refl 0
    · exact nonnegative

/-- Reaping all entries makes no negative pid. -/
theorem pid_dlpReapDbusProxies (kernel : Kernel) {proxies : List DbusProxy}
    (entries : ∀ proxy ∈ proxies, 0 ≤ proxy.pid) :
    ∀ proxy ∈ (kernel.dlpReapDbusProxies proxies).2, 0 ≤ proxy.pid := by
  induction proxies generalizing kernel with
  | nil => exact fun _ none => (List.not_mem_nil none).elim
  | cons proxy rest inductionHypothesis =>
      obtain ⟨first, others⟩ := List.forall_mem_cons.mp entries
      exact List.forall_mem_cons.mpr ⟨pid_reapProxy kernel first, inductionHypothesis _ others⟩

/-- After the cleanup no proxy is held. -/
theorem Balanced.cleanup {proxies : List DbusProxy} (exits : Int → Bool)
    (balanced : kernel.Balanced (live proxies)) (entries : ∀ proxy ∈ proxies, 0 ≤ proxy.pid) :
    (kernel.dlpCleanupDbusProxies exits proxies).Balanced [] := by
  induction proxies generalizing kernel with
  | nil => exact balanced
  | cons proxy rest inductionHypothesis =>
      obtain ⟨nonnegative, others⟩ := List.forall_mem_cons.mp entries
      rw [dlpCleanupDbusProxies]
      by_cases positive : 0 < proxy.pid
      · rw [live_cons_of_pos positive] at balanced
        have made := balanced.made proxy (balanced.started List.mem_cons_self)
        have running := (balanced.processes proxy.pid).mpr ⟨proxy, List.mem_cons_self, rfl⟩
        exact inductionHypothesis (balanced.release (releases_cleanup made running exits)) others
      · have reaped : proxy.pid = 0 := Int.le_antisymm (Int.not_lt.mp positive) nonnegative
        rw [live_cons_of_not_pos positive] at balanced
        rw [cleanupProxy, if_pos reaped]
        exact inductionHypothesis balanced others

end Kernel

/-! ## Runs -/

namespace ProxyWorld

variable {world after : ProxyWorld}

/-- No proxy was started at first. -/
theorem sound_new : new.Sound := by
  refine ⟨⟨by decide, ?_, by decide, by decide, ?_, by decide, by decide, ?_, ?_, ?_, ?_, ?_, ?_⟩,
    ⟨by decide, ?_⟩, fun _ => rfl⟩
  all_goals simp [new, Kernel.new, live]

/-- As long as no launch left anything behind, a step keeps the balance. -/
theorem sound_step {event : ProxyEvent} (sound : world.Sound)
    (taken : world.next event = some after) (allowed : ReleasesDirectory event) :
    after.Sound := by
  cases event with
  | launch host sandbox outcome =>
      obtain ⟨⟨running, admitted⟩, rfl⟩ := of_guarded taken
      have launched := Kernel.coderDlpLaunchApp_sound sound.table sound.balanced host sandbox
        admitted allowed
      refine ⟨launched.balanced, launched.table, fun (destroyed : world.destroyed = true) => ?_⟩
      rw [running] at destroyed
      cases destroyed
  | reap =>
      obtain ⟨running, rfl⟩ := of_guarded taken
      have balanced := sound.balanced
      rw [← List.append_nil (live _)] at balanced
      have reaped := balanced.reap
      rw [List.append_nil] at reaped
      refine ⟨reaped, ⟨?_, Kernel.pid_dlpReapDbusProxies _ sound.table.entries⟩,
        fun (destroyed : world.destroyed = true) => ?_⟩
      · rw [reap, Kernel.length_dlpReapDbusProxies]
        exact sound.table.fits
      · rw [running] at destroyed
        cases destroyed
  | proxyExited pid =>
      obtain ⟨-, rfl⟩ := of_guarded taken
      exact ⟨{ sound.balanced with }, sound.table, sound.empty⟩
  | destroy exits =>
      obtain ⟨running, rfl⟩ := of_guarded taken
      exact ⟨sound.balanced.cleanup exits sound.table.entries,
        ⟨Nat.le_refl 0, fun _ none => (List.not_mem_nil none).elim⟩, fun _ => rfl⟩

/-- A destroyed world has released every proxy. -/
theorem Sound.released (sound : world.Sound) (destroyed : world.destroyed = true) :
    ∀ proxy ∈ world.kernel.started, world.kernel.Released proxy := by
  have balanced := sound.balanced
  rw [sound.empty destroyed] at balanced
  exact fun _ started => balanced.released started

/-- Only a launch can record a failure. -/
theorem next_cases {event : ProxyEvent} (taken : world.next event = some after) :
    (∃ host sandbox outcome, event = .launch host sandbox outcome ∧ world.Admits outcome ∧
      after = world.launch host sandbox outcome) ∨
    (ReleasesDirectory event ∧ after.failures = world.failures) := by
  cases event with
  | launch host sandbox outcome =>
      obtain ⟨⟨-, admitted⟩, taken⟩ := Option.ite_none_right_eq_some.mp taken
      exact .inl ⟨host, sandbox, outcome, rfl, admitted, (Option.some.inj taken).symm⟩
  | reap =>
      obtain ⟨-, rfl⟩ := of_guarded taken
      exact .inr ⟨trivial, rfl⟩
  | proxyExited pid =>
      obtain ⟨-, rfl⟩ := of_guarded taken
      exact .inr ⟨trivial, rfl⟩
  | destroy exits =>
      obtain ⟨-, rfl⟩ := of_guarded taken
      exact .inr ⟨trivial, rfl⟩

/-- The failures recorded are those before, and perhaps the launch's own. -/
theorem failures_subset {event : ProxyEvent} (taken : world.next event = some after) :
    world.failures ⊆ after.failures := by
  rcases next_cases taken with ⟨host, sandbox, outcome, rfl, -, rfl⟩ | ⟨-, same⟩
  · simp only [launch]
    split
    · exact List.subset_append_left _ _
    · exact List.Subset.refl _
  · rw [same]
    exact List.Subset.refl _

/-- What decides whether the failures stay clean. -/
theorem clean_step_iff {event : ProxyEvent} (sound : world.Sound)
    (clean : ∀ failure ∈ world.failures, failure.Clean)
    (taken : world.next event = some after) :
    (∀ failure ∈ after.failures, failure.Clean) ↔ ReleasesDirectory event := by
  rcases next_cases taken with ⟨host, sandbox, outcome, rfl, admitted, rfl⟩ | ⟨allowed, same⟩
  · simp only [launch]
    constructor
    · intro stillClean filtered left
      obtain ⟨failed, unclean⟩ := Kernel.coderDlpLaunchApp_leaves world.table sound.balanced
        admitted filtered left
      rw [if_pos (.inr failed)] at stillClean
      exact unclean (stillClean _ (List.mem_append_right _ (List.mem_singleton.mpr rfl)))
    · intro allowed
      have launched := Kernel.coderDlpLaunchApp_sound sound.table sound.balanced host sandbox
        admitted allowed
      split
      · rename_i failed
        intro failure member
        rcases List.mem_append.mp member with old | new
        · exact clean failure old
        · obtain rfl := List.mem_singleton.mp new
          exact launched.clean failed
      · exact clean
  · rw [same]
    exact iff_of_true clean allowed

/-- Proxies are accounted for in every state of a run exactly when no launch fails
between making a proxy's directory and starting the proxy. -/
theorem accounted_iff_releasesDirectory (events : List ProxyEvent) :
    (∀ world, Visits next new events world → world.Accounted) ↔
      Conforms next (fun _ => ReleasesDirectory) new events := by
  refine visits_iff_conforms
    (fun world => (∀ failure ∈ world.failures, failure.Clean) → world.Sound) Accounted
    ?_ ?_ (fun _ => sound_new) ?_ events
  · intro world event after sound taken clean
    have before : ∀ failure ∈ world.failures, failure.Clean :=
      fun failure member => clean failure (failures_subset taken member)
    exact sound_step (sound before) taken ((clean_step_iff (sound before) before taken).mp clean)
  · intro world event after sound accounted taken
    have before := sound accounted.failures
    rw [← clean_step_iff before accounted.failures taken]
    refine ⟨Accounted.failures, fun clean => ⟨clean, ?_⟩⟩
    exact (sound_step before taken
      ((clean_step_iff before accounted.failures taken).mp clean)).released
  · exact ⟨fun _ none => (List.not_mem_nil none).elim, fun destroyed => by cases destroyed⟩

/-- A session with a bus and a proxy program. -/
def busHost : Host where
  getenv name := if name = "PATH" then some "/usr/bin" else some "unix:path=/run/user/1000/bus"
  exists_ _ := true
  executable _ := true

/-- Everything is isolated, and the bus filtered. -/
def filteredSandbox : SandboxConfig := ⟨none, none, true, true, true, false, none, true⟩

/-- The fork of the proxy fails; the directory made for its socket stays. -/
theorem failed_fork_leaves_directory :
    ¬ ∀ world, Visits next new
        [.launch busHost (some filteredSandbox) ⟨⟨some "a1b2c3", true, false, false⟩, false,
          true, true, true⟩] world → world.Accounted := by
  refine not_visits_of_replay (fun world => world.failures =
    [⟨⟨[], [], [], [], []⟩, ⟨[], [], ["/tmp/coder-dlp-dbus-a1b2c3"], [], [3]⟩, some 3⟩])
    (by decide) ?_
  intro world reached accounted
  have failures := of_decide_eq_true reached
  have clean := accounted.failures _ (failures ▸ List.mem_singleton.mpr rfl)
  exact absurd (congrArg Resources.directories clean) (by decide)

end ProxyWorld

end CoderDesktop.Dlp
