import CoderDesktop.Dlp.DbusProxy
import CoderDesktop.Semantics.Run
import Mathlib.Data.List.Nodup

/-!
# Accounting for D-Bus proxies

A proxy is acquired by one launch and released by that launch, by the reaper or by the
final cleanup. `Balanced` says that what the kernel has is what the live entries of the
table hold; `Acquires` and `Releases` are what the functions do to one proxy, in
whatever order they make their calls.
-/

namespace CoderDesktop.Dlp

open Semantics

namespace DbusProxy

/-- A started proxy: its numbers were given out, its paths are those of its launch. -/
structure Made (proxy : DbusProxy) (fresh : Nat) : Prop where
  pidPositive : 0 < proxy.pid
  pidGiven : proxy.pid < fresh
  fdNonnegative : 0 ≤ proxy.pipeWriteFd
  fdGiven : proxy.pipeWriteFd < fresh
  socket : proxy.socketPath = busSocket proxy.dirPath
  directory : ∃ suffix : String, suffix.toList.length = 6 ∧ proxy.dirPath = tempDir suffix

/-- The call is about the proxy's pipe or process. -/
def Concerns (proxy : DbusProxy) : ProxyCall → Prop
  | .close fd => fd = proxy.pipeWriteFd
  | .kill pid | .wait pid => pid = proxy.pid

instance (proxy : DbusProxy) (call : ProxyCall) : Decidable (proxy.Concerns call) := by
  cases call <;> exact inferInstanceAs (Decidable (_ = _))

/-- The calls that release a proxy, in the orders the source has them. -/
def releases (proxy : DbusProxy) : List (List ProxyCall) :=
  [[.close proxy.pipeWriteFd, .wait proxy.pid],
    [.wait proxy.pid, .close proxy.pipeWriteFd],
    [.close proxy.pipeWriteFd, .kill proxy.pid, .wait proxy.pid],
    [.kill proxy.pid, .wait proxy.pid, .close proxy.pipeWriteFd]]

end DbusProxy

/-- A live entry is one whose process was not collected. -/
def live (proxies : List DbusProxy) : List DbusProxy :=
  proxies.filter (0 < ·.pid)

namespace Kernel

/-- What was done with the proxy's pipe and process. -/
def history (kernel : Kernel) (proxy : DbusProxy) : List ProxyCall :=
  kernel.calls.filter (proxy.Concerns ·)

/-- The proxy was closed and collected once, not signalled afterwards, and its files
are gone. -/
structure Released (kernel : Kernel) (proxy : DbusProxy) : Prop where
  closedOnce : kernel.calls.count (.close proxy.pipeWriteFd) = 1
  waitedOnce : kernel.calls.count (.wait proxy.pid) = 1
  notSignalledAfter : kernel.calls.Pairwise fun earlier later =>
    earlier = .wait proxy.pid → later ≠ .kill proxy.pid
  socket : proxy.socketPath ∉ kernel.sockets
  directory : proxy.dirPath ∉ kernel.directories

/-- The kernel has what the live proxies hold, and nothing else of the proxies there
were. -/
structure Balanced (kernel : Kernel) (live : List DbusProxy) : Prop where
  fresh : 0 < kernel.fresh
  made : ∀ proxy ∈ kernel.started, proxy.Made kernel.fresh
  pids : (kernel.started.map (·.pid)).Nodup
  fds : (kernel.started.map (·.pipeWriteFd)).Nodup
  started : live ⊆ kernel.started
  nodup : live.Nodup
  dirPaths : (live.map (·.dirPath)).Nodup
  processes : ∀ pid, pid ∈ kernel.processes ↔ ∃ proxy ∈ live, proxy.pid = pid
  descriptors : ∀ fd, fd ∈ kernel.descriptors ↔ ∃ proxy ∈ live, proxy.pipeWriteFd = fd
  directories : ∀ dirPath, dirPath ∈ kernel.directories ↔ ∃ proxy ∈ live, proxy.dirPath = dirPath
  sockets : ∀ path ∈ kernel.sockets, ∃ proxy ∈ live, proxy.socketPath = path
  calls : ∀ proxy ∈ kernel.started,
    (proxy ∈ live ∧ kernel.history proxy = []) ∨
      (proxy ∉ live ∧ kernel.history proxy ∈ proxy.releases)
  numbers : ∀ call ∈ kernel.calls, ∀ proxy : DbusProxy, proxy.Concerns call →
    proxy.pid < kernel.fresh ∨ proxy.pipeWriteFd < kernel.fresh

/-- A proxy process was started and is there with its pipe and its directory. -/
structure Acquires (proxy : DbusProxy) (before after : Kernel) : Prop where
  pid : proxy.pid = before.fresh + 2
  fd : proxy.pipeWriteFd = before.fresh + 1
  made : proxy.Made after.fresh
  fresh : after.fresh = before.fresh + 3
  started : after.started = proxy :: before.started
  processes : after.processes = proxy.pid :: before.processes
  descriptors : after.descriptors = proxy.pipeWriteFd :: before.descriptors
  directories : after.directories = proxy.dirPath :: before.directories
  sockets : after.sockets = before.sockets ∨ after.sockets = proxy.socketPath :: before.sockets
  apps : after.apps = before.apps
  calls : after.calls = before.calls ++ [.close before.fresh]
  new : proxy.dirPath ∉ before.directories

/-- A proxy was released, in one of the orders. -/
structure Releases (proxy : DbusProxy) (before after : Kernel) : Prop where
  fresh : after.fresh = before.fresh
  started : after.started = before.started
  processes : after.processes = before.processes.filter (· ≠ proxy.pid)
  descriptors : after.descriptors = before.descriptors.filter (· ≠ proxy.pipeWriteFd)
  directories : after.directories = before.directories.filter (· ≠ proxy.dirPath)
  sockets : after.sockets = before.sockets.filter (· ≠ proxy.socketPath)
  apps : after.apps = before.apps
  calls : ∃ release ∈ proxy.releases, after.calls = before.calls ++ release

end Kernel

/-- Filtering out a new head leaves the rest. -/
theorem filter_ne_cons {α : Type} [DecidableEq α] {x : α} {rest : List α} (new : x ∉ rest) :
    (x :: rest).filter (· ≠ x) = rest := by
  rw [List.filter_cons_of_neg (by simp), List.filter_eq_self]
  exact fun other member => decide_eq_true fun same => new (same ▸ member)

/-! ## Paths -/

/-- A directory with six letters is not cut. -/
theorem tempDir_eq {suffix : String} (six : suffix.toList.length = 6) :
    tempDir suffix = "/tmp/coder-dlp-dbus-" ++ suffix := by
  refine snprintf_eq_self_iff.mpr ?_
  rw [String.toList_append, List.length_append, six]
  decide

/-- The socket of a directory with six letters is not cut. -/
theorem busSocket_tempDir {suffix : String} (six : suffix.toList.length = 6) :
    busSocket (tempDir suffix) = tempDir suffix ++ "/bus" := by
  refine snprintf_eq_self_iff.mpr ?_
  rw [tempDir_eq six, String.toList_append, String.toList_append, List.length_append,
    List.length_append, six]
  decide

namespace DbusProxy.Made

variable {proxy other : DbusProxy} {fresh : Nat}

/-- A proxy that was made has its socket in its directory. -/
theorem socketPath_eq (made : proxy.Made fresh) : proxy.socketPath = proxy.dirPath ++ "/bus" := by
  obtain ⟨suffix, six, directory⟩ := made.directory
  rw [made.socket, directory, busSocket_tempDir six]

/-- The socket of a proxy that was made has a name. -/
theorem socketPath_ne (made : proxy.Made fresh) : proxy.socketPath ≠ "" := by
  rw [made.socketPath_eq]
  intro empty
  have lengths := congrArg String.length empty
  simp at lengths

/-- The directory of a proxy that was made has a name. -/
theorem dirPath_ne (made : proxy.Made fresh) : proxy.dirPath ≠ "" := by
  obtain ⟨suffix, six, directory⟩ := made.directory
  rw [directory, tempDir_eq six]
  intro empty
  have lengths := congrArg String.length empty
  simp at lengths

/-- Sockets tell directories apart. -/
theorem dirPath_eq_of_socketPath_eq (made : proxy.Made fresh) {otherFresh : Nat}
    (otherMade : other.Made otherFresh) (same : proxy.socketPath = other.socketPath) :
    proxy.dirPath = other.dirPath := by
  rw [made.socketPath_eq, otherMade.socketPath_eq] at same
  exact (String.append_left_inj _).mp same

/-- A proxy made before a number was made before a later one. -/
theorem mono (made : proxy.Made fresh) {later : Nat} (le : fresh ≤ later) : proxy.Made later :=
  { made with
    pidGiven := Int.lt_of_lt_of_le made.pidGiven (Int.ofNat_le.mpr le)
    fdGiven := Int.lt_of_lt_of_le made.fdGiven (Int.ofNat_le.mpr le) }

end DbusProxy.Made

/-! ## Balance -/

namespace DbusProxy

variable {proxy other : DbusProxy} {release : List ProxyCall}

/-- A way to release a proxy has only calls about it. -/
theorem concerns_of_mem_releases (member : release ∈ proxy.releases) {call : ProxyCall}
    (called : call ∈ release) : proxy.Concerns call := by
  simp only [releases, List.mem_cons, List.not_mem_nil, or_false] at member
  rcases member with rfl | rfl | rfl | rfl
  all_goals
    simp only [List.mem_cons, List.not_mem_nil, or_false] at called
    rcases called with rfl | rfl | rfl <;> rfl

/-- A call concerns one proxy's process or descriptor. -/
theorem Concerns.same {call : ProxyCall} (first : proxy.Concerns call)
    (second : other.Concerns call) :
    proxy.pid = other.pid ∨ proxy.pipeWriteFd = other.pipeWriteFd := by
  cases call with
  | close fd => exact .inr (first.symm.trans second)
  | kill pid => exact .inl (first.symm.trans second)
  | wait pid => exact .inl (first.symm.trans second)

/-- The pipe is closed once. -/
theorem count_close_of_mem_releases (member : release ∈ proxy.releases) :
    release.count (.close proxy.pipeWriteFd) = 1 := by
  simp only [releases, List.mem_cons, List.not_mem_nil, or_false] at member
  rcases member with rfl | rfl | rfl | rfl <;> simp

/-- The process is waited for once. -/
theorem count_wait_of_mem_releases (member : release ∈ proxy.releases) :
    release.count (.wait proxy.pid) = 1 := by
  simp only [releases, List.mem_cons, List.not_mem_nil, or_false] at member
  rcases member with rfl | rfl | rfl | rfl <;> simp

/-- A proxy's process is not killed after it was waited for. -/
theorem pairwise_of_mem_releases (member : release ∈ proxy.releases) :
    release.Pairwise fun earlier later =>
      earlier = .wait proxy.pid → later ≠ .kill proxy.pid := by
  simp only [releases, List.mem_cons, List.not_mem_nil, or_false] at member
  rcases member with rfl | rfl | rfl | rfl <;> simp

end DbusProxy

namespace Kernel

variable {kernel before after : Kernel} {proxy : DbusProxy} {held : List DbusProxy}

/-- The order of the proxies does not matter. -/
theorem Balanced.perm (balanced : kernel.Balanced held) {other : List DbusProxy}
    (same : held.Perm other) : kernel.Balanced other where
  fresh := balanced.fresh
  made := balanced.made
  pids := balanced.pids
  fds := balanced.fds
  started := fun _ member => balanced.started (same.mem_iff.mpr member)
  nodup := same.nodup_iff.mp balanced.nodup
  dirPaths := (same.map _).nodup_iff.mp balanced.dirPaths
  processes := by simpa only [same.mem_iff] using balanced.processes
  descriptors := by simpa only [same.mem_iff] using balanced.descriptors
  directories := by simpa only [same.mem_iff] using balanced.directories
  sockets := by simpa only [same.mem_iff] using balanced.sockets
  calls := by simpa only [same.mem_iff] using balanced.calls
  numbers := balanced.numbers

/-- Started proxies with a number in common are one. -/
theorem Balanced.eq_of_same (balanced : kernel.Balanced held) {first second : DbusProxy}
    (firstStarted : first ∈ kernel.started) (secondStarted : second ∈ kernel.started)
    (same : first.pid = second.pid ∨ first.pipeWriteFd = second.pipeWriteFd) :
    first = second := by
  rcases same with pid | fd
  · exact List.inj_on_of_nodup_map balanced.pids firstStarted secondStarted pid
  · exact List.inj_on_of_nodup_map balanced.fds firstStarted secondStarted fd

/-- Calls about others leave a proxy's history alone. -/
theorem history_eq {calls : List ProxyCall} (made : after.calls = before.calls ++ calls)
    (apart : ∀ call ∈ calls, ¬ proxy.Concerns call) :
    after.history proxy = before.history proxy := by
  have none : calls.filter (proxy.Concerns ·) = [] :=
    List.filter_eq_nil_iff.mpr fun call called => by simpa using apart call called
  rw [history, made, List.filter_append, none, List.append_nil, history]

/-- A started proxy is new: nothing there is has its numbers. -/
theorem Acquires.apart (acquires : Acquires proxy before after) (balanced : before.Balanced held)
    {other : DbusProxy} (started : other ∈ before.started) :
    proxy.pid ≠ other.pid ∧ proxy.pipeWriteFd ≠ other.pipeWriteFd := by
  have made := balanced.made other started
  have pid := acquires.pid
  have fd := acquires.fd
  have pidGiven := made.pidGiven
  have fdGiven := made.fdGiven
  constructor <;> omega

/-- The launch's own call closes the read end, which is no proxy's write end. -/
theorem Acquires.history_new (acquires : Acquires proxy before after)
    (balanced : before.Balanced held) : after.history proxy = [] := by
  refine List.filter_eq_nil_iff.mpr fun call called concerns => ?_
  have concerns := of_decide_eq_true concerns
  have pid := acquires.pid
  have fd := acquires.fd
  rw [acquires.calls, List.mem_append, List.mem_singleton] at called
  rcases called with called | rfl
  · have given := balanced.numbers call called proxy concerns
    omega
  · have readEnd : (before.fresh : Int) = proxy.pipeWriteFd := concerns
    omega

/-- A new proxy leaves the history of the others alone. -/
theorem Acquires.history_old (acquires : Acquires proxy before after)
    (balanced : before.Balanced held) {other : DbusProxy} (started : other ∈ before.started) :
    after.history other = before.history other := by
  refine history_eq acquires.calls fun call called concerns => ?_
  obtain rfl := List.mem_singleton.mp called
  have readEnd : (before.fresh : Int) = other.pipeWriteFd := concerns
  have given := (balanced.made other started).fdGiven
  omega

/-- A new proxy is held. -/
theorem Balanced.acquire (balanced : before.Balanced held)
    (acquires : Acquires proxy before after) : after.Balanced (proxy :: held) := by
  have notStarted : proxy ∉ before.started := fun started =>
    (acquires.apart balanced started).1 rfl
  have notHeld : proxy ∉ held := fun member => notStarted (balanced.started member)
  have later : before.fresh ≤ after.fresh := by
    have fresh := acquires.fresh
    omega
  refine ⟨Nat.lt_of_lt_of_le balanced.fresh later, ?_, ?_, ?_, ?_, ?_, ?_, ?_, ?_, ?_, ?_, ?_,
    ?_⟩
  · rw [acquires.started]
    exact List.forall_mem_cons.mpr
      ⟨acquires.made, fun other started => (balanced.made other started).mono later⟩
  · rw [acquires.started, List.map_cons, List.nodup_cons]
    refine ⟨fun member => ?_, balanced.pids⟩
    obtain ⟨other, started, same⟩ := List.mem_map.mp member
    exact (acquires.apart balanced started).1 same.symm
  · rw [acquires.started, List.map_cons, List.nodup_cons]
    refine ⟨fun member => ?_, balanced.fds⟩
    obtain ⟨other, started, same⟩ := List.mem_map.mp member
    exact (acquires.apart balanced started).2 same.symm
  · rw [acquires.started]
    exact List.cons_subset_cons _ balanced.started
  · exact List.nodup_cons.mpr ⟨notHeld, balanced.nodup⟩
  · rw [List.map_cons, List.nodup_cons]
    refine ⟨fun member => acquires.new ?_, balanced.dirPaths⟩
    exact (balanced.directories _).mpr (List.mem_map.mp member)
  · intro pid
    rw [acquires.processes, List.mem_cons, balanced.processes]
    simp [eq_comm]
  · intro fd
    rw [acquires.descriptors, List.mem_cons, balanced.descriptors]
    simp [eq_comm]
  · intro dirPath
    rw [acquires.directories, List.mem_cons, balanced.directories]
    simp [eq_comm]
  · intro path bound
    rcases acquires.sockets with same | made
    · rw [same] at bound
      obtain ⟨other, member, path⟩ := balanced.sockets path bound
      exact ⟨other, List.mem_cons_of_mem _ member, path⟩
    · rw [made] at bound
      rcases List.mem_cons.mp bound with rfl | bound
      · exact ⟨proxy, List.mem_cons_self, rfl⟩
      · obtain ⟨other, member, path⟩ := balanced.sockets path bound
        exact ⟨other, List.mem_cons_of_mem _ member, path⟩
  · rw [acquires.started]
    refine List.forall_mem_cons.mpr
      ⟨.inl ⟨List.mem_cons_self, acquires.history_new balanced⟩, fun other started => ?_⟩
    have otherwise : other ≠ proxy := fun eq => notStarted (eq ▸ started)
    rw [acquires.history_old balanced started, List.mem_cons, or_iff_right otherwise]
    exact balanced.calls other started
  · intro call called other concerns
    rw [acquires.calls, List.mem_append, List.mem_singleton] at called
    rcases called with called | rfl
    · have given := balanced.numbers call called other concerns
      omega
    · have readEnd : (before.fresh : Int) = other.pipeWriteFd := concerns
      have fresh := acquires.fresh
      omega

/-- What is left of the held numbers when one proxy's is taken away. -/
theorem exists_held_iff {α : Type} {number : DbusProxy → α} (other : number proxy ∉ held.map number)
    (x : α) : ((∃ entry ∈ proxy :: held, number entry = x) ∧ x ≠ number proxy) ↔
      ∃ entry ∈ held, number entry = x := by
  constructor
  · rintro ⟨⟨entry, member, same⟩, apart⟩
    rcases List.mem_cons.mp member with rfl | member
    · exact absurd same.symm apart
    · exact ⟨entry, member, same⟩
  · rintro ⟨entry, member, rfl⟩
    refine ⟨⟨entry, List.mem_cons_of_mem _ member, rfl⟩, fun same => other ?_⟩
    exact List.mem_map.mpr ⟨entry, member, same⟩

/-- No other live proxy has the numbers of one. -/
theorem Balanced.numbers_notMem (balanced : kernel.Balanced (proxy :: held)) :
    proxy.pid ∉ held.map (·.pid) ∧ proxy.pipeWriteFd ∉ held.map (·.pipeWriteFd) := by
  have started : proxy ∈ kernel.started := balanced.started List.mem_cons_self
  have notHeld : proxy ∉ held := (List.nodup_cons.mp balanced.nodup).1
  constructor
  · intro member
    obtain ⟨other, isHeld, same⟩ := List.mem_map.mp member
    have otherStarted := balanced.started (List.mem_cons_of_mem _ isHeld)
    exact notHeld (balanced.eq_of_same otherStarted started (.inl same) ▸ isHeld)
  · intro member
    obtain ⟨other, isHeld, same⟩ := List.mem_map.mp member
    have otherStarted := balanced.started (List.mem_cons_of_mem _ isHeld)
    exact notHeld (balanced.eq_of_same otherStarted started (.inr same) ▸ isHeld)

/-- The calls of a release are the history of the proxy released. -/
theorem Releases.history_own (releases : Releases proxy before after)
    (fresh : before.history proxy = []) : after.history proxy ∈ proxy.releases := by
  obtain ⟨release, inOrder, calls⟩ := releases.calls
  have own : release.filter (proxy.Concerns ·) = release :=
    List.filter_eq_self.mpr fun call called =>
      decide_eq_true (DbusProxy.concerns_of_mem_releases inOrder called)
  rw [history] at fresh
  rw [history, calls, List.filter_append, own, fresh]
  exact inOrder

/-- A release leaves the history of the others alone. -/
theorem Releases.history_other (releases : Releases proxy before after)
    (balanced : before.Balanced held) (started : proxy ∈ before.started) {other : DbusProxy}
    (otherStarted : other ∈ before.started) (different : other ≠ proxy) :
    after.history other = before.history other := by
  obtain ⟨release, inOrder, calls⟩ := releases.calls
  refine history_eq calls fun call called concerns => different ?_
  exact balanced.eq_of_same otherStarted started
    (concerns.same (DbusProxy.concerns_of_mem_releases inOrder called))

/-- A released proxy is no longer held. -/
theorem Balanced.release (balanced : before.Balanced (proxy :: held))
    (releases : Releases proxy before after) : after.Balanced held := by
  obtain ⟨release, inOrder, calls⟩ := releases.calls
  have started : proxy ∈ before.started := balanced.started List.mem_cons_self
  obtain ⟨notHeld, nodup⟩ := List.nodup_cons.mp balanced.nodup
  have heldStarted : held ⊆ before.started := fun _ member =>
    balanced.started (List.mem_cons_of_mem _ member)
  obtain ⟨otherPid, otherFd⟩ := balanced.numbers_notMem
  obtain ⟨otherDirPath, dirPaths⟩ := List.nodup_cons.mp balanced.dirPaths
  refine ⟨?_, ?_, ?_, ?_, ?_, nodup, dirPaths, ?_, ?_, ?_, ?_, ?_, ?_⟩
  · rw [releases.fresh]
    exact balanced.fresh
  · rw [releases.fresh, releases.started]
    exact balanced.made
  · rw [releases.started]
    exact balanced.pids
  · rw [releases.started]
    exact balanced.fds
  · rw [releases.started]
    exact heldStarted
  · intro pid
    rw [releases.processes, List.mem_filter, balanced.processes, decide_eq_true_eq]
    exact exists_held_iff otherPid pid
  · intro fd
    rw [releases.descriptors, List.mem_filter, balanced.descriptors, decide_eq_true_eq]
    exact exists_held_iff otherFd fd
  · intro dirPath
    rw [releases.directories, List.mem_filter, balanced.directories, decide_eq_true_eq]
    exact exists_held_iff otherDirPath dirPath
  · intro path bound
    rw [releases.sockets, List.mem_filter, decide_eq_true_eq] at bound
    obtain ⟨other, member, same⟩ := balanced.sockets path bound.1
    rcases List.mem_cons.mp member with rfl | member
    · exact absurd same.symm bound.2
    · exact ⟨other, member, same⟩
  · rw [releases.started]
    intro other otherStarted
    by_cases same : other = proxy
    · subst same
      rcases balanced.calls other otherStarted with ⟨-, fresh⟩ | ⟨gone, -⟩
      · exact .inr ⟨notHeld, releases.history_own fresh⟩
      · exact absurd List.mem_cons_self gone
    · have elsewhere := balanced.calls other otherStarted
      rw [List.mem_cons, or_iff_right same] at elsewhere
      rw [releases.history_other balanced started otherStarted same]
      exact elsewhere
  · intro call called other concerns
    rw [releases.fresh]
    rw [calls, List.mem_append] at called
    rcases called with called | called
    · exact balanced.numbers call called other concerns
    · have made := balanced.made proxy started
      have pidGiven := made.pidGiven
      have fdGiven := made.fdGiven
      rcases concerns.same (DbusProxy.concerns_of_mem_releases inOrder called) with pid | fd
      · exact .inl (by omega)
      · exact .inr (by omega)

/-- Without live proxies, every proxy there was has been released. -/
theorem Balanced.released (balanced : kernel.Balanced []) {proxy : DbusProxy}
    (started : proxy ∈ kernel.started) : kernel.Released proxy := by
  rcases balanced.calls proxy started with ⟨held, -⟩ | ⟨-, inOrder⟩
  · cases held
  · refine ⟨?_, ?_, ?_, fun bound => ?_, fun made => ?_⟩
    · have own : proxy.Concerns (.close proxy.pipeWriteFd) := rfl
      have once := DbusProxy.count_close_of_mem_releases inOrder
      rwa [history, List.count_filter (p := (proxy.Concerns ·)) (decide_eq_true own)] at once
    · have own : proxy.Concerns (.wait proxy.pid) := rfl
      have once := DbusProxy.count_wait_of_mem_releases inOrder
      rwa [history, List.count_filter (p := (proxy.Concerns ·)) (decide_eq_true own)] at once
    · have ordered := DbusProxy.pairwise_of_mem_releases inOrder
      rw [history, List.pairwise_filter] at ordered
      refine ordered.imp fun {earlier later} ordered waited killed => ?_
      subst waited killed
      exact ordered (decide_eq_true rfl) (decide_eq_true rfl) rfl rfl
    · obtain ⟨other, held, -⟩ := balanced.sockets _ bound
      cases held
    · obtain ⟨other, held, -⟩ := (balanced.directories _).mp made
      cases held

/-! ## What the functions do to one proxy -/

/-- Once the socket is gone the directory can be removed. -/
theorem unlink_rmdir (socket : proxy.socketPath = busSocket proxy.dirPath) :
    (kernel.unlink proxy.socketPath).rmdir proxy.dirPath =
      { kernel with
        sockets := kernel.sockets.filter (· ≠ proxy.socketPath)
        directories := kernel.directories.filter (· ≠ proxy.dirPath) } := by
  have gone : busSocket proxy.dirPath ∉ (kernel.unlink proxy.socketPath).sockets := by
    simp [unlink, socket]
  rw [rmdir, if_neg gone]
  rfl

/-- Removing the files of a proxy removes its socket and its directory. -/
theorem removeFiles_eq {fresh : Nat} (made : proxy.Made fresh) :
    kernel.removeFiles proxy =
      { kernel with
        sockets := kernel.sockets.filter (· ≠ proxy.socketPath)
        directories := kernel.directories.filter (· ≠ proxy.dirPath) } := by
  simp only [removeFiles, if_pos made.socketPath_ne, if_pos made.dirPath_ne]
  exact unlink_rmdir made.socket

/-- A process that runs can be waited for. -/
theorem waitpid_of_mem {pid : Int} (running : pid ∈ kernel.processes) :
    kernel.waitpid pid = kernel.collect pid :=
  if_pos running

/-- Discarding releases the proxy. -/
theorem releases_discard {fresh : Nat} (made : proxy.Made fresh)
    (running : proxy.pid ∈ before.processes) : Releases proxy before (before.discard proxy) := by
  have waits : ((before.close proxy.pipeWriteFd).kill proxy.pid).waitpid proxy.pid =
      ((before.close proxy.pipeWriteFd).kill proxy.pid).collect proxy.pid :=
    waitpid_of_mem running
  simp only [discard, waits, if_pos made.dirPath_ne, unlink_rmdir made.socket]
  refine ⟨rfl, rfl, rfl, rfl, rfl, rfl, rfl,
    [.close proxy.pipeWriteFd, .kill proxy.pid, .wait proxy.pid], by simp [DbusProxy.releases], ?_⟩
  simp [collect, kill, close]

/-- The proxy whose socket never came. -/
theorem releases_timeout (socket : proxy.socketPath = busSocket proxy.dirPath)
    (running : proxy.pid ∈ before.processes) :
    Releases proxy before
      (((((before.kill proxy.pid).waitpid proxy.pid).close proxy.pipeWriteFd).unlink
        proxy.socketPath).rmdir proxy.dirPath) := by
  have waits : (before.kill proxy.pid).waitpid proxy.pid =
      (before.kill proxy.pid).collect proxy.pid := waitpid_of_mem running
  rw [waits, unlink_rmdir socket]
  refine ⟨rfl, rfl, rfl, rfl, rfl, rfl, rfl,
    [.kill proxy.pid, .wait proxy.pid, .close proxy.pipeWriteFd], by simp [DbusProxy.releases], ?_⟩
  simp [collect, kill, close]

/-- The reaper takes a proxy that exited, and leaves one that runs. -/
theorem reapProxy_cases {fresh : Nat} (made : proxy.Made fresh)
    (running : proxy.pid ∈ before.processes) :
    before.reapProxy proxy = (before, proxy) ∨
      (Releases proxy before (before.reapProxy proxy).1 ∧ (before.reapProxy proxy).2.pid = 0) := by
  have waits : before.waitpidNoHang proxy.pid =
      if proxy.pid ∈ before.exited then (proxy.pid, before.collect proxy.pid) else (0, before) :=
    if_neg (not_not.mpr running)
  have positive := made.pidPositive
  simp only [reapProxy, if_neg (Int.not_le.mpr positive), waits]
  by_cases exited : proxy.pid ∈ before.exited
  · simp only [if_pos exited, gt_iff_lt, if_pos positive, ge_iff_le, if_pos made.fdNonnegative,
      removeFiles_eq made]
    refine .inr ⟨⟨rfl, rfl, rfl, rfl, rfl, rfl, rfl,
      [.wait proxy.pid, .close proxy.pipeWriteFd], by simp [DbusProxy.releases], ?_⟩, trivial⟩
    simp [collect, close]
  · simp only [if_neg exited]
    exact .inl rfl

/-- A proxy is collected after it exited, or after it was told to. -/
theorem stop_cases {pid : Int} (positive : 0 < pid) (running : pid ∈ kernel.processes) :
    (if (kernel.waitpidNoHang pid).1 = 0 then ((kernel.waitpidNoHang pid).2.kill pid).waitpid pid
      else (kernel.waitpidNoHang pid).2) = kernel.collect pid ∨
    (if (kernel.waitpidNoHang pid).1 = 0 then ((kernel.waitpidNoHang pid).2.kill pid).waitpid pid
      else (kernel.waitpidNoHang pid).2) = (kernel.kill pid).collect pid := by
  have waits : kernel.waitpidNoHang pid =
      if pid ∈ kernel.exited then (pid, kernel.collect pid) else (0, kernel) :=
    if_neg (not_not.mpr running)
  by_cases exited : pid ∈ kernel.exited
  · rw [waits, if_pos exited]
    exact .inl (if_neg (Int.ne_of_gt positive))
  · rw [waits, if_neg exited]
    exact .inr (waitpid_of_mem running)

/-- The cleanup releases the proxy. -/
theorem releases_cleanup {fresh : Nat} (made : proxy.Made fresh)
    (running : proxy.pid ∈ before.processes) (exits : Int → Bool) :
    Releases proxy before (before.cleanupProxy exits proxy) := by
  have positive := made.pidPositive
  simp only [cleanupProxy, if_neg (Int.ne_of_gt positive), ge_iff_le, if_pos made.fdNonnegative,
    gt_iff_lt, if_pos positive]
  generalize ends : (if exits proxy.pid = true then
    (before.close proxy.pipeWriteFd).exit proxy.pid else before.close proxy.pipeWriteFd) = ended
  have closed : ended = { before.close proxy.pipeWriteFd with exited := ended.exited } := by
    rw [← ends]
    split <;> rfl
  have stillRunning : proxy.pid ∈ ended.processes := by
    rw [closed]
    exact running
  rw [removeFiles_eq made]
  rcases stop_cases positive stillRunning with gone | gone
  · rw [gone, closed]
    refine ⟨rfl, rfl, rfl, rfl, rfl, rfl, rfl,
      [.close proxy.pipeWriteFd, .wait proxy.pid], by simp [DbusProxy.releases], ?_⟩
    simp [collect, close]
  · rw [gone, closed]
    refine ⟨rfl, rfl, rfl, rfl, rfl, rfl, rfl,
      [.close proxy.pipeWriteFd, .kill proxy.pid, .wait proxy.pid],
      by simp [DbusProxy.releases], ?_⟩
    simp [collect, kill, close]

/-! ## Launches -/

/-- The kernel and the entry after the fork, with the read end closed. -/
def forked (kernel : Kernel) (suffix : String) : Kernel × DbusProxy :=
  let proxy : DbusProxy := ⟨(kernel.fresh + 2 : Nat), kernel.fresh + 1, busSocket (tempDir suffix),
    tempDir suffix⟩
  ((((kernel.mkdtemp (tempDir suffix)).pipe2).forkProxy proxy).close kernel.fresh, proxy)

/-- A forked proxy is acquired. -/
theorem acquires_forked (balanced : kernel.Balanced held) {suffix : String}
    (six : suffix.toList.length = 6) (new : tempDir suffix ∉ kernel.directories) :
    Acquires (kernel.forked suffix).2 kernel (kernel.forked suffix).1 := by
  have readEnd : (kernel.fresh : Int) ∉ kernel.descriptors := by
    intro isOpen
    obtain ⟨proxy, member, same⟩ := (balanced.descriptors _).mp isOpen
    have given := (balanced.made proxy (balanced.started member)).fdGiven
    omega
  have made : (kernel.forked suffix).2.Made (kernel.fresh + 3) := by
    refine ⟨?_, ?_, ?_, ?_, rfl, suffix, six, rfl⟩
    all_goals simp only [forked]
    all_goals omega
  refine ⟨rfl, rfl, made, rfl, rfl, rfl, ?_, rfl, .inl rfl, rfl, rfl, new⟩
  have writeEnd :
      (kernel.fresh : Int) ∉ (kernel.forked suffix).2.pipeWriteFd :: kernel.descriptors := by
    rw [List.mem_cons, not_or]
    refine ⟨?_, readEnd⟩
    simp only [forked]
    omega
  exact filter_ne_cons writeEnd

/-- An acquired proxy may bind its socket later. -/
theorem Acquires.bindSocket (acquires : Acquires proxy before after)
    (unbound : after.sockets = before.sockets) :
    Acquires proxy before (after.bindSocket proxy.socketPath) :=
  { acquires with sockets := .inr (congrArg _ unbound) }

/-- A proxy acquired and released leaves what there was. -/
theorem Acquires.released {final : Kernel} (acquires : Acquires proxy before after)
    (balanced : before.Balanced held) (releases : Releases proxy after final) :
    final.toResources = before.toResources := by
  have given : proxy.pid ∉ before.processes ∧ proxy.pipeWriteFd ∉ before.descriptors := by
    refine ⟨fun running => ?_, fun isOpen => ?_⟩
    · obtain ⟨other, member, same⟩ := (balanced.processes _).mp running
      exact (acquires.apart balanced (balanced.started member)).1 same.symm
    · obtain ⟨other, member, same⟩ := (balanced.descriptors _).mp isOpen
      exact (acquires.apart balanced (balanced.started member)).2 same.symm
  have unbound : proxy.socketPath ∉ before.sockets := fun bound => by
    obtain ⟨other, member, same⟩ := balanced.sockets _ bound
    have otherMade := balanced.made other (balanced.started member)
    have sameDir := otherMade.dirPath_eq_of_socketPath_eq acquires.made same
    exact acquires.new ((balanced.directories _).mpr ⟨other, member, sameDir⟩)
  ext1
  · rw [releases.processes, acquires.processes, filter_ne_cons given.1]
  · rw [releases.descriptors, acquires.descriptors, filter_ne_cons given.2]
  · rw [releases.directories, acquires.directories, filter_ne_cons acquires.new]
  · rw [releases.sockets]
    rcases acquires.sockets with same | bound
    · rw [same, List.filter_eq_self]
      exact fun path old => decide_eq_true fun eq => unbound (eq ▸ old)
    · rw [bound, filter_ne_cons unbound]
  · rw [releases.apps, acquires.apps]

end Kernel

end CoderDesktop.Dlp
