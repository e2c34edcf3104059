import CoderDesktop.Api.PollingController
import CoderDesktop.Collections.RecentKeys
import CoderDesktop.Semantics.Run

/-!
# The notification manager

`NotificationManager`: a notification with the same title and message as one delivered a
short time ago is withheld. The two texts are remembered as one, joined by a line break,
and one call reads the clock twice. A notification counts as delivered when it is handed to
`sendViaTray`, with a tray icon or without, as in the source's own test of the suppression.
-/

namespace CoderDesktop.Notifications

open Api (Notification)
open Collections Semantics

/-- `NotificationManager`, with what the tray icon was asked to show. -/
structure NotificationManager where
  enabled : Bool
  trayIcon : Bool
  suppressMs : Int
  /-- The joined texts, with the time of the last delivery. -/
  recentNotifications : RecentKeys String
  lastCategory : String
  /-- The titles and messages that the tray icon was asked to show. -/
  shown : List (String × String)

/-- How a call of `notify` ends. -/
inductive Outcome where
  | disabled
  | withheld
  | delivered
deriving DecidableEq, Repr

/-- The text a notification is remembered under. -/
def suppressionKey (notification : Notification) : String :=
  notification.title ++ "\n" ++ notification.message

namespace NotificationManager

/-- Notifications are on, and there is no tray icon. -/
def new (suppressMs : Int) : NotificationManager where
  enabled := true
  trayIcon := false
  suppressMs
  recentNotifications := .empty
  lastCategory := ""
  shown := []

variable (manager : NotificationManager)

/-- Texts delivered longer ago than the window are forgotten. -/
def cleanupRecent (now : Int) : NotificationManager :=
  { manager with
    recentNotifications := manager.recentNotifications.expire manager.suppressMs now }

/-- Nothing is shown without a tray icon. -/
def sendViaTray (title message : String) : NotificationManager :=
  if manager.trayIcon then { manager with shown := (title, message) :: manager.shown }
  else manager

/-- The text is remembered, with a time less than the window before. -/
def duplicate (key : String) (now : Int) : Bool :=
  (manager.recentNotifications.notedAt key).any fun last => now - last < manager.suppressMs

/-- `cleanupRecent` reads the clock again, after `notify` itself did. -/
def notify (notification : Notification) (now cleanupNow : Int) : NotificationManager × Outcome :=
  if !manager.enabled then (manager, .disabled)
  else
    let key := suppressionKey notification
    let cleaned := manager.cleanupRecent cleanupNow
    if cleaned.duplicate key now then (cleaned, .withheld)
    else
      let recorded :=
        { cleaned with
          recentNotifications := cleaned.recentNotifications.note key now
          lastCategory := notification.category }
      (recorded.sendViaTray notification.title notification.message, .delivered)

/-- Notifications are switched on or off. -/
def setEnabled (enabled : Bool) : NotificationManager := { manager with enabled }

/-- The tray icon comes or goes. -/
def setTrayIcon (present : Bool) : NotificationManager := { manager with trayIcon := present }

section SendViaTray

variable (title message : String)

/-- Showing a text leaves the flag alone. -/
@[simp]
theorem enabled_sendViaTray : (manager.sendViaTray title message).enabled = manager.enabled := by
  unfold sendViaTray
  split <;> rfl

/-- Showing a text leaves the window alone. -/
@[simp]
theorem suppressMs_sendViaTray :
    (manager.sendViaTray title message).suppressMs = manager.suppressMs := by
  unfold sendViaTray
  split <;> rfl

/-- Showing a text leaves what is remembered alone. -/
@[simp]
theorem recentNotifications_sendViaTray :
    (manager.sendViaTray title message).recentNotifications = manager.recentNotifications := by
  unfold sendViaTray
  split <;> rfl

end SendViaTray

end NotificationManager

/-! ## Calls -/

/-- A call of `notify` that was made while the manager was enabled. -/
structure Call where
  notification : Notification
  time : Int
  withheld : Bool

/-- The earlier call delivered the same title and message within the window. -/
def Call.Repeats (window : Int) (call earlier : Call) : Prop :=
  earlier.withheld = false ∧ earlier.notification.title = call.notification.title ∧
    earlier.notification.message = call.notification.message ∧ call.time - earlier.time < window

/-- The manager with the latest time it read and the calls made, the last one first. -/
structure Notified where
  manager : NotificationManager
  clock : Int
  calls : List Call

/-- The calls on the manager. -/
inductive NotificationEvent where
  /-- `notify`, and the two times it reads. -/
  | notify (notification : Notification) (now cleanupNow : Int)
  | setEnabled (enabled : Bool)
  | setTrayIcon (present : Bool)

namespace Notified

/-- No call was made. -/
def new (suppressMs clock : Int) : Notified := ⟨.new suppressMs, clock, []⟩

variable (world : Notified)

/-- A call is remembered unless notifications are off. -/
def afterNotify (notification : Notification) (now cleanupNow : Int) : Notified :=
  match world.manager.notify notification now cleanupNow with
  | (manager, .disabled) => { world with manager }
  | (manager, .withheld) => ⟨manager, cleanupNow, ⟨notification, now, true⟩ :: world.calls⟩
  | (manager, .delivered) => ⟨manager, cleanupNow, ⟨notification, now, false⟩ :: world.calls⟩

/-- The clock does not go back. -/
def next : NotificationEvent → Option Notified
  | .notify notification now cleanupNow =>
      if world.clock ≤ now ∧ now ≤ cleanupNow then
        some (world.afterNotify notification now cleanupNow)
      else none
  | .setEnabled enabled => some { world with manager := world.manager.setEnabled enabled }
  | .setTrayIcon present => some { world with manager := world.manager.setTrayIcon present }

/-- The calls that delivered their notification. -/
def delivered : List Call := world.calls.filter fun call => !call.withheld

/-- Each call is withheld exactly if it repeats an earlier one, and at the time of the last
call nothing remembered is older than the window. -/
structure Exact : Prop where
  withheld : ∀ call before, call :: before <:+ world.calls →
    (call.withheld = true ↔ ∃ earlier ∈ before, call.Repeats world.manager.suppressMs earlier)
  remembered : ∀ call ∈ world.calls.head?,
    ∀ entry ∈ world.manager.recentNotifications.entries,
      call.time - entry.2 ≤ world.manager.suppressMs

/-- What was delivered within the window under the same joined text has the same title and
message, and the window of what was delivered with the same title and message does not end
between the two times that are read. -/
def Unmistaken (notification : Notification) (now cleanupNow : Int) : Prop :=
  ∀ earlier ∈ world.delivered,
    (suppressionKey earlier.notification = suppressionKey notification →
      cleanupNow - earlier.time < world.manager.suppressMs →
        earlier.notification.title = notification.title ∧
          earlier.notification.message = notification.message) ∧
    (earlier.notification.title = notification.title →
      earlier.notification.message = notification.message →
      now - earlier.time < world.manager.suppressMs →
        cleanupNow - earlier.time < world.manager.suppressMs)

/-- The condition on a call made while the manager is enabled. -/
def Undisturbed : NotificationEvent → Prop
  | .notify notification now cleanupNow => world.manager.enabled = true →
      0 ≤ world.manager.suppressMs ∧ world.Unmistaken notification now cleanupNow
  | _ => True

/-! ## What the manager remembers -/

/-- The table of the manager, compared with the calls that delivered. -/
def Tracks : Prop :=
  Remembers (fun call : Call => suppressionKey call.notification) Call.time
    world.manager.suppressMs world.clock world.manager.recentNotifications world.delivered

/-- The joined text was delivered within the window, as it is when the table is cleaned. -/
def Found (notification : Notification) (cleanupNow : Int) : Prop :=
  ∃ earlier ∈ world.delivered,
    suppressionKey earlier.notification = suppressionKey notification ∧
      cleanupNow - earlier.time < world.manager.suppressMs

variable {world}

/-- Nothing is remembered at first. -/
theorem tracks_new (suppressMs clock : Int) : (Notified.new suppressMs clock).Tracks :=
  .empty

section Notify

variable {notification : Notification} {now cleanupNow : Int}

/-- While notifications are off nothing happens. -/
theorem afterNotify_disabled (disabled : world.manager.enabled = false) :
    world.afterNotify notification now cleanupNow = world := by
  simp [afterNotify, NotificationManager.notify, disabled]

/-- A duplicate is withheld and recorded so. -/
theorem afterNotify_withheld (enabled : world.manager.enabled = true)
    (duplicate : (world.manager.cleanupRecent cleanupNow).duplicate
      (suppressionKey notification) now = true) :
    world.afterNotify notification now cleanupNow =
      ⟨world.manager.cleanupRecent cleanupNow, cleanupNow,
        ⟨notification, now, true⟩ :: world.calls⟩ := by
  simp [afterNotify, NotificationManager.notify, enabled, duplicate]

/-- What a call that delivers leaves of the world. -/
theorem afterNotify_delivered (enabled : world.manager.enabled = true)
    (new : (world.manager.cleanupRecent cleanupNow).duplicate
      (suppressionKey notification) now = false) :
    let after := world.afterNotify notification now cleanupNow
    after.manager.suppressMs = world.manager.suppressMs ∧ after.clock = cleanupNow ∧
      after.manager.recentNotifications =
        (world.manager.cleanupRecent cleanupNow).recentNotifications.note
          (suppressionKey notification) now ∧
      after.calls = ⟨notification, now, false⟩ :: world.calls := by
  have stays : (world.manager.cleanupRecent cleanupNow).suppressMs = world.manager.suppressMs := rfl
  simp [afterNotify, NotificationManager.notify, enabled, new, stays]

/-- A duplicate is one of the same text that was delivered within the window. -/
theorem duplicate_iff (tracks : world.Tracks) (advances : world.clock ≤ now)
    (ordered : now ≤ cleanupNow) :
    (world.manager.cleanupRecent cleanupNow).duplicate (suppressionKey notification) now = true ↔
      world.Found notification cleanupNow := by
  have recalled := tracks.notedAt_expire (Int.le_trans advances ordered)
    (suppressionKey notification)
  unfold NotificationManager.duplicate
  rw [Option.any_eq_true]
  constructor
  · rintro ⟨last, found, -⟩
    obtain ⟨earlier, member, sameKey, rfl, within⟩ := (recalled last).mp found
    exact ⟨earlier, member, sameKey, within⟩
  · rintro ⟨earlier, member, sameKey, within⟩
    refine ⟨earlier.time, (recalled earlier.time).mpr ⟨earlier, member, sameKey, rfl, within⟩, ?_⟩
    apply decide_eq_true
    change now - earlier.time < world.manager.suppressMs
    omega

/-- A call keeps what is remembered with the record. -/
theorem tracks_afterNotify (tracks : world.Tracks) (advances : world.clock ≤ now)
    (ordered : now ≤ cleanupNow) : (world.afterNotify notification now cleanupNow).Tracks := by
  have expired := tracks.expire (Int.le_trans advances ordered)
  cases enabled : world.manager.enabled with
  | false =>
      rw [afterNotify_disabled enabled]
      exact tracks
  | true =>
      cases duplicate : (world.manager.cleanupRecent cleanupNow).duplicate
          (suppressionKey notification) now with
      | true =>
          rw [afterNotify_withheld enabled duplicate]
          exact expired
      | false =>
          obtain ⟨window, clock, recent, calls⟩ := afterNotify_delivered enabled duplicate
          unfold Tracks delivered
          rw [window, clock, recent, calls]
          refine expired.note ⟨notification, now, false⟩ ?_ ordered
          intro former member same
          -- A former delivery within the window would have been found.
          by_contra within
          have found := (duplicate_iff tracks advances ordered).mpr
            ⟨former, member, same, Int.not_le.mp within⟩
          rw [duplicate] at found
          cases found

end Notify

/-- Every event keeps what is remembered with the record. -/
theorem tracks_next {event : NotificationEvent} {after : Notified} (tracks : world.Tracks)
    (taken : world.next event = some after) : after.Tracks := by
  cases event with
  | notify notification now cleanupNow =>
      obtain ⟨⟨advances, ordered⟩, rfl⟩ := of_guarded taken
      exact tracks_afterNotify tracks advances ordered
  | setEnabled enabled =>
      obtain rfl := Option.some.inj taken
      exact tracks
  | setTrayIcon present =>
      obtain rfl := Option.some.inj taken
      exact tracks

/-! ## One more call -/

/-- Delivered calls are those not withheld. -/
theorem mem_delivered {call : Call} :
    call ∈ world.delivered ↔ call ∈ world.calls ∧ call.withheld = false := by
  simp [delivered]

/-- The rule for the calls made, and one more of them. -/
theorem withheld_cons {window : Int} {call : Call} {calls : List Call} :
    (∀ last before, last :: before <:+ call :: calls →
      (last.withheld = true ↔ ∃ earlier ∈ before, last.Repeats window earlier)) ↔
    (call.withheld = true ↔ ∃ earlier ∈ calls, call.Repeats window earlier) ∧
      ∀ last before, last :: before <:+ calls →
        (last.withheld = true ↔ ∃ earlier ∈ before, last.Repeats window earlier) := by
  constructor
  · intro all
    refine ⟨all call calls (List.suffix_refl _), fun last before shorter => ?_⟩
    exact all last before (shorter.trans (List.suffix_cons call calls))
  · rintro ⟨first, rest⟩ last before suffix
    rcases List.suffix_cons_iff.mp suffix with whole | shorter
    · obtain ⟨rfl, rfl⟩ := List.cons.inj whole
      exact first
    · exact rest last before shorter

section Step

variable {notification : Notification} {now cleanupNow : Int}

/-- Two deliveries under one joined text are not both within the window. -/
theorem found_iff_repeats (tracks : world.Tracks) (advances : world.clock ≤ now)
    (ordered : now ≤ cleanupNow) (withheld : Bool) :
    (world.Found notification cleanupNow ↔ ∃ earlier ∈ world.calls,
      (Call.mk notification now withheld).Repeats world.manager.suppressMs earlier) ↔
    world.Unmistaken notification now cleanupNow := by
  have joined {earlier : Call} (sameTitle : earlier.notification.title = notification.title)
      (sameMessage : earlier.notification.message = notification.message) :
      suppressionKey earlier.notification = suppressionKey notification := by
    rw [suppressionKey, suppressionKey, sameTitle, sameMessage]
  constructor
  · rintro same earlier member
    constructor
    · intro sameKey within
      obtain ⟨repeated, inCalls, delivered, sameTitle, sameMessage, recent⟩ :=
        same.mp ⟨earlier, member, sameKey, within⟩
      have unique : earlier = repeated := by
        apply tracks.unique member (mem_delivered.mpr ⟨inCalls, delivered⟩)
        · exact sameKey.trans (joined sameTitle sameMessage).symm
        · omega
        · dsimp only at recent
          omega
      subst unique
      exact ⟨sameTitle, sameMessage⟩
    · intro sameTitle sameMessage recent
      obtain ⟨inCalls, delivered⟩ := mem_delivered.mp member
      obtain ⟨found, inDelivered, sameKey, within⟩ :=
        same.mpr ⟨earlier, inCalls, delivered, sameTitle, sameMessage, recent⟩
      have unique : earlier = found := by
        apply tracks.unique member inDelivered
        · exact (joined sameTitle sameMessage).trans sameKey.symm
        · omega
        · omega
      subst unique
      exact within
  · intro undisturbed
    constructor
    · rintro ⟨earlier, member, sameKey, within⟩
      obtain ⟨inCalls, delivered⟩ := mem_delivered.mp member
      obtain ⟨sameTitle, sameMessage⟩ := (undisturbed earlier member).1 sameKey within
      refine ⟨earlier, inCalls, delivered, sameTitle, sameMessage, ?_⟩
      dsimp only
      omega
    · rintro ⟨earlier, inCalls, delivered, sameTitle, sameMessage, recent⟩
      have member := mem_delivered.mpr ⟨inCalls, delivered⟩
      exact ⟨earlier, member, joined sameTitle sameMessage,
        (undisturbed earlier member).2 sameTitle sameMessage recent⟩

/-- A call that is withheld was found, so its window is positive. -/
theorem window_of_found (tracks : world.Tracks) (advances : world.clock ≤ cleanupNow)
    (found : world.Found notification cleanupNow) : 0 < world.manager.suppressMs := by
  obtain ⟨earlier, member, -, within⟩ := found
  have past := tracks.past earlier member
  omega

/-- What the table is cleaned to is within the window at the time of the call. -/
theorem age_le_of_cleaned (ordered : now ≤ cleanupNow) {entry : String × Int}
    (member : entry ∈ (world.manager.cleanupRecent cleanupNow).recentNotifications.entries) :
    now - entry.2 ≤ world.manager.suppressMs := by
  have within := (RecentKeys.mem_unexpired.mp member).2
  omega

/-- A call that is found keeps the rule exactly if it is not mistaken for another one. -/
theorem exact_of_found (tracks : world.Tracks) (holds : world.Exact)
    (advances : world.clock ≤ now) (ordered : now ≤ cleanupNow)
    (enabled : world.manager.enabled = true) (found : world.Found notification cleanupNow) :
    (world.afterNotify notification now cleanupNow).Exact ↔
      0 ≤ world.manager.suppressMs ∧ world.Unmistaken notification now cleanupNow := by
  have positive := window_of_found tracks (Int.le_trans advances ordered) found
  have repeats := @found_iff_repeats world notification now cleanupNow tracks advances ordered true
  rw [afterNotify_withheld enabled ((duplicate_iff tracks advances ordered).mpr found)]
  constructor
  · intro after
    have last := (withheld_cons.mp after.withheld).1
    exact ⟨by omega, repeats.mp (iff_of_true found (last.mp rfl))⟩
  · rintro ⟨-, unmistaken⟩
    have repeated := (repeats.mpr unmistaken).mp found
    constructor
    · exact withheld_cons.mpr ⟨iff_of_true rfl repeated, holds.withheld⟩
    · rintro call ⟨rfl⟩ entry member
      exact @age_le_of_cleaned world now cleanupNow ordered entry member

/-- A call that is not found delivers, and what it notes is as old as the call. -/
theorem exact_of_not_found (tracks : world.Tracks) (holds : world.Exact)
    (advances : world.clock ≤ now) (ordered : now ≤ cleanupNow)
    (enabled : world.manager.enabled = true) (new : ¬ world.Found notification cleanupNow) :
    (world.afterNotify notification now cleanupNow).Exact ↔
      0 ≤ world.manager.suppressMs ∧ world.Unmistaken notification now cleanupNow := by
  have repeats := @found_iff_repeats world notification now cleanupNow tracks advances ordered false
  have unique := Bool.eq_false_iff.mpr (mt (duplicate_iff tracks advances ordered).mp new)
  obtain ⟨window, -, recent, calls⟩ := afterNotify_delivered enabled unique
  constructor
  · rintro ⟨withheld, remembered⟩
    rw [window, calls] at withheld remembered
    rw [recent] at remembered
    constructor
    · have noted := remembered _ rfl (suppressionKey notification, now)
        (RecentKeys.mem_note.mpr (.inl rfl))
      dsimp only at noted
      omega
    · have last := (withheld_cons.mp withheld).1
      exact repeats.mp (iff_of_false new fun repeated => Bool.false_ne_true (last.mpr repeated))
  · rintro ⟨positive, unmistaken⟩
    have notRepeated := mt (repeats.mpr unmistaken).mpr new
    constructor
    · rw [window, calls]
      exact withheld_cons.mpr ⟨iff_of_false Bool.false_ne_true notRepeated, holds.withheld⟩
    · rw [window, calls, recent]
      rintro call ⟨rfl⟩ entry member
      rcases RecentKeys.mem_note.mp member with rfl | ⟨stays, -⟩
      · dsimp only
        omega
      · exact age_le_of_cleaned ordered stays

/-- A call keeps the rule exactly if it is not disturbed. -/
theorem exact_afterNotify (tracks : world.Tracks) (holds : world.Exact)
    (advances : world.clock ≤ now) (ordered : now ≤ cleanupNow) :
    (world.afterNotify notification now cleanupNow).Exact ↔
      world.Undisturbed (.notify notification now cleanupNow) := by
  cases enabled : world.manager.enabled with
  | false =>
      rw [afterNotify_disabled enabled]
      simp [Undisturbed, enabled, holds]
  | true =>
      have condition : world.Undisturbed (.notify notification now cleanupNow) ↔
          0 ≤ world.manager.suppressMs ∧ world.Unmistaken notification now cleanupNow := by
        simp [Undisturbed, enabled]
      rw [condition]
      by_cases found : world.Found notification cleanupNow
      · exact exact_of_found tracks holds advances ordered enabled found
      · exact exact_of_not_found tracks holds advances ordered enabled found

end Step

/-- A step keeps the suppression exact exactly when it is undisturbed. -/
theorem exact_next {event : NotificationEvent} {after : Notified} (tracks : world.Tracks)
    (holds : world.Exact) (taken : world.next event = some after) :
    after.Exact ↔ world.Undisturbed event := by
  cases event with
  | notify notification now cleanupNow =>
      obtain ⟨⟨advances, ordered⟩, rfl⟩ := of_guarded taken
      exact exact_afterNotify tracks holds advances ordered
  | setEnabled enabled =>
      obtain rfl := Option.some.inj taken
      exact iff_of_true ⟨holds.withheld, holds.remembered⟩ trivial
  | setTrayIcon present =>
      obtain rfl := Option.some.inj taken
      exact iff_of_true ⟨holds.withheld, holds.remembered⟩ trivial

/-- The suppression is exact at first. -/
theorem exact_new (suppressMs clock : Int) : (Notified.new suppressMs clock).Exact where
  withheld call before suffix := by
    have none := List.suffix_nil.mp suffix
    cases none
  remembered call last := by
    cases last

/-- Throughout a run each notification is withheld exactly if its title and message were
delivered within the window, and nothing is remembered for longer, if and only if every
call of the run is undisturbed. -/
theorem suppression_exact_iff (suppressMs clock : Int) (events : List NotificationEvent) :
    (∀ world, Visits next (Notified.new suppressMs clock) events world → world.Exact) ↔
      Conforms next Undisturbed (Notified.new suppressMs clock) events :=
  visits_iff_conforms Tracks Exact (fun _ _ _ tracks taken => tracks_next tracks taken)
    (fun _ _ _ tracks holds taken => exact_next tracks holds taken)
    (tracks_new suppressMs clock) (exact_new suppressMs clock) events

/-- Two different notifications, with a line break in the title of one and in the message
of the other. -/
def brokenLines : List NotificationEvent :=
  [.notify ⟨"a\nb", "c", ""⟩ 0 0, .notify ⟨"a", "b\nc", ""⟩ 1 1]

/-- The second one is withheld, although it was not delivered before. -/
theorem suppression_not_exact :
    ¬ ∀ world, Visits next (Notified.new 5000 0) brokenLines world → world.Exact := by
  apply not_visits_of_replay fun world => world.calls.head?.any fun last =>
    last.withheld && world.calls.tail.all fun earlier =>
      earlier.notification.title != last.notification.title
  · decide
  · intro world mistaken holds
    obtain ⟨last, isLast, mistaken⟩ := (Option.any_eq_true _ _).mp mistaken
    obtain ⟨withheld, different⟩ := Bool.and_eq_true_iff.mp mistaken
    have calls : world.calls = last :: world.calls.tail := List.eq_cons_of_mem_head? isLast
    have repeated := (holds.withheld last world.calls.tail ⟨[], calls.symm⟩).mp withheld
    obtain ⟨earlier, member, -, sameTitle, -⟩ := repeated
    exact bne_iff_ne.mp (List.all_eq_true.mp different earlier member) sameTitle

end Notified

end CoderDesktop.Notifications
