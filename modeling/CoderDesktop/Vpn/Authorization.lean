import CoderDesktop.Semantics.Projection
import CoderDesktop.Vpn.Bridge

/-!
# Who may command the helper

The calls of the helper's D-Bus interface with the polkit check in front of them. Every
call is handled in a goroutine of its own, so calls wait for polkit side by side, and
between polkit's answer and the critical section anything can happen. `GetStatus` is not
checked. The history keeps on whose behalf the helper took a step.
-/

namespace CoderDesktop.Vpn

open Semantics

/-! ## The check -/

/-- A value of a reply as it is decoded. -/
inductive DBusValue where
  | bool (value : Bool)
  | text (value : String)
  | struct (fields : List DBusValue)
  /-- A value of another Go type. -/
  | other (goType : String)

/-- `%T` -/
def DBusValue.goType : DBusValue → String
  | .bool _ => "bool"
  | .text _ => "string"
  | .struct _ => "[]interface {}"
  | .other goType => goType

/-- The finished call to `CheckAuthorization`. -/
structure PolkitReply where
  err : Option String
  body : List DBusValue

/-- The arguments of `CheckAuthorization`: the subject with its name, and the action. -/
structure PolkitQuery where
  subjectKind : String
  name : String
  action : String
  allowUserInteraction : Bool
deriving DecidableEq, Repr

/-- The action the helper asks for. -/
def polkitAction : String := "com.coder.Desktop.Helper.manage-vpn"

/-- The question about a sender and an action. -/
def polkitQuery (sender action : String) : PolkitQuery where
  subjectKind := "system-bus-name"
  name := sender
  action := action
  allowUserInteraction := true

/-- `checkPolkit` once the call has returned; `none` stands for a nil error. -/
def checkPolkit (reply : PolkitReply) (action : String) : Option DBusError :=
  let failed := "com.coder.Desktop.Helper.Error.PolkitFailed"
  match reply.err with
  | some err => some ⟨failed, err⟩
  | none =>
      match reply.body with
      | [] => some ⟨failed, "empty response from PolicyKit"⟩
      | .struct (.bool isAuth :: _) :: _ =>
          if isAuth then none
          else some ⟨"org.freedesktop.DBus.Error.AccessDenied",
            "Polkit authorization denied for action: " ++ action⟩
      | .struct (first :: _) :: _ =>
          some ⟨failed, "unexpected polkit isAuthorized type: " ++ first.goType⟩
      | result :: _ => some ⟨failed, "unexpected polkit result type: " ++ result.goType⟩

/-- Polkit has answered, and its answer is yes. -/
def PolkitReply.Authorizes (reply : PolkitReply) : Prop :=
  reply.err = none ∧ ∃ fields more, reply.body = .struct (.bool true :: fields) :: more

/-- The check fails closed: everything but a well-formed yes is an error. -/
theorem checkPolkit_eq_none_iff {reply : PolkitReply} {action : String} :
    checkPolkit reply action = none ↔ reply.Authorizes := by
  obtain ⟨err, body⟩ := reply
  unfold checkPolkit PolkitReply.Authorizes
  cases err with
  | some err => simp
  | none =>
      rcases body with _ | ⟨_ | _ | ⟨_ | ⟨_ | _ | _ | _, _⟩⟩ | _, _⟩ <;> simp

/-! ## Calls -/

/-- A call in its goroutine: it waits for polkit, or polkit has let it pass. -/
structure PendingCall where
  serial : Nat
  sender : String
  call : HelperCall
  granted : Bool
deriving DecidableEq, Repr

/-- What the goroutine returns. -/
inductive CallResult where
  | returned
  | failed (err : DBusError)
  | status (state : HelperState) (coderURL : String)
deriving DecidableEq, Repr

/-- A step of the helper, and the call it was taken for. -/
structure HelperEffect where
  serial : Option Nat
  event : HelperEvent
deriving DecidableEq, Repr

/-- The helper on the bus. What comes after `pending` is history. -/
structure HelperBus where
  helper : Helper
  pending : List PendingCall
  /-- Every call that was received. -/
  received : List Nat
  queries : List (Nat × PolkitQuery)
  results : List (Nat × CallResult)
  signals : List StateChanged
  effects : List HelperEffect

/-- What the bus, polkit and the helper do. -/
inductive BusEvent where
  | receive (serial : Nat) (sender : String) (call : HelperCall)
  | polkitAnswered (serial : Nat) (reply : PolkitReply)
  /-- The critical section of a call that has passed the check. -/
  | enter (serial : Nat)
  /-- A goroutine of the helper takes a step. -/
  | advance (attempt : AttemptId) (failure : Option String)
  /-- The process is told to end, and calls `Shutdown`. -/
  | terminate

namespace HelperBus

/-- No call was received. -/
def new : HelperBus := ⟨.new, [], [], [], [], [], []⟩

/-- The helper takes a step. -/
def act (bus : HelperBus) (serial : Option Nat) (event : HelperEvent) : Option HelperBus :=
  (bus.helper.step event).map fun result =>
    { bus with
      helper := result.1
      signals := bus.signals ++ result.2
      effects := bus.effects ++ [⟨serial, event⟩] }

/-- The goroutine of a call returns. -/
def finish (bus : HelperBus) (serial : Nat) (result : CallResult) : HelperBus :=
  { bus with
    pending := bus.pending.filter (·.serial ≠ serial)
    results := bus.results ++ [(serial, result)] }

/-- `Start` and `Stop` after the check. -/
def enter (bus : HelperBus) (serial : Nat) : HelperCall → Option HelperBus
  | .start coderURL _ =>
      match bus.helper.svc.start coderURL with
      | .ok _ => (bus.finish serial .returned).act (some serial) (.start coderURL)
      | .error err => (bus.finish serial (.failed err)).act (some serial) (.startRejected coderURL)
  | .stop => (bus.finish serial .returned).act (some serial) .shutdown
  | .getStatus => none

/-- A serial is that of one call. -/
def next (bus : HelperBus) : BusEvent → Option HelperBus
  | .receive serial sender call =>
      if serial ∈ bus.received then none
      else
        let received := { bus with received := bus.received ++ [serial] }
        match call with
        | .getStatus =>
            some { received with
              results := received.results ++
                [(serial, .status bus.helper.svc.state bus.helper.svc.coderURL)] }
        | .start _ _ | .stop =>
            some { received with
              pending := received.pending ++ [⟨serial, sender, call, false⟩]
              queries := received.queries ++ [(serial, polkitQuery sender polkitAction)] }
  | .polkitAnswered serial reply =>
      (bus.pending.find? fun call => call.serial = serial ∧ call.granted = false).map fun _ =>
        match checkPolkit reply polkitAction with
        | some err => bus.finish serial (.failed err)
        | none =>
            { bus with pending := bus.pending.map fun call =>
                if call.serial = serial then { call with granted := true } else call }
  | .enter serial =>
      (bus.pending.find? fun call => call.serial = serial ∧ call.granted = true).bind
        fun call => bus.enter serial call.call
  | .advance attempt failure => bus.act none (.advance attempt failure)
  | .terminate => bus.act none .shutdown

end HelperBus

/-! ## Calls that are never let pass -/

/-- The call an event belongs to. -/
def BusEvent.serial : BusEvent → Option Nat
  | .receive serial _ _ | .polkitAnswered serial _ | .enter serial => some serial
  | .advance _ _ | .terminate => none

/-- The events of other calls, and those of no call. -/
def BusEvent.besides (refused : Nat → Bool) (event : BusEvent) : Option BusEvent :=
  if event.serial.any refused then none else some event

/-- Polkit grants none of the calls. -/
def BusEvent.Refuses (refused : Nat → Bool) : BusEvent → Prop
  | .polkitAnswered serial reply => refused serial = true → ¬ reply.Authorizes
  | .receive _ _ _ | .enter _ | .advance _ _ | .terminate => True

namespace HelperBus

/-- The bus as it is without the calls. -/
def without (refused : Nat → Bool) (bus : HelperBus) : HelperBus :=
  { bus with
    pending := bus.pending.filter fun call => !refused call.serial
    received := bus.received.filter fun serial => !refused serial
    queries := bus.queries.filter fun query => !refused query.1
    results := bus.results.filter fun result => !refused result.1 }

section Without

variable {refused : Nat → Bool} (bus : HelperBus) {serial : Nat}

/-- What a refused call leaves out does not matter to the helper. -/
theorem act_without (cause : Option Nat) (event : HelperEvent) :
    (bus.without refused).act cause event = (bus.act cause event).map (without refused) := by
  unfold act without
  rw [Option.map_map]
  rfl

/-- A result of another call stays. -/
theorem finish_without (kept : refused serial = false) (result : CallResult) :
    (bus.finish serial result).without refused = (bus.without refused).finish serial result := by
  simp [finish, without, kept, List.filter_filter, Bool.and_comm]

/-- The result of a refused call is left out. -/
theorem finish_refused (isRefused : refused serial = true) (result : CallResult) :
    (bus.finish serial result).without refused = bus.without refused := by
  have others : ∀ call ∈ bus.pending,
      (!refused call.serial && decide (call.serial ≠ serial)) = !refused call.serial := by
    intro call _
    by_cases same : call.serial = serial
    · simp [same, isRefused]
    · simp [same]
  simp only [finish, without, List.filter_filter, List.filter_congr others, List.filter_append,
    List.filter_singleton, isRefused]
  simp

/-- Another call is found as before. -/
theorem find?_without (kept : refused serial = false) (granted : Bool) :
    ((bus.without refused).pending.find? fun call =>
        call.serial = serial ∧ call.granted = granted) =
      bus.pending.find? fun call => call.serial = serial ∧ call.granted = granted := by
  rw [without, List.find?_filter]
  congr 1
  funext call
  by_cases same : call.serial = serial
  · simp [same, kept]
  · simp [same]

/-- Another call enters as before. -/
theorem enter_without (kept : refused serial = false) (call : HelperCall) :
    (bus.without refused).enter serial call = (bus.enter serial call).map (without refused) := by
  cases call with
  | start coderURL _ =>
      simp only [enter, without]
      cases bus.helper.svc.start coderURL with
      | ok _ =>
          have finished := finish_without bus kept .returned
          simp only [without] at finished
          simp only [← finished]
          exact act_without (bus.finish serial .returned) _ _
      | error err =>
          have finished := finish_without bus kept (.failed err)
          simp only [without] at finished
          simp only [← finished]
          exact act_without (bus.finish serial (.failed err)) _ _
  | stop =>
      rw [enter, enter, ← finish_without bus kept, act_without]
  | getStatus => rfl

end Without

/-- None of the calls has passed the check. -/
def Unpassed (refused : Nat → Bool) (bus : HelperBus) : Prop :=
  ∀ call ∈ bus.pending, refused call.serial = true → call.granted = false

/-- The helper's own steps leave the calls waiting. -/
theorem pending_act {bus after : HelperBus} {cause : Option Nat} {event : HelperEvent}
    (taken : bus.act cause event = some after) : after.pending = bus.pending := by
  obtain ⟨_, -, rfl⟩ := Option.map_eq_some_iff.mp taken
  rfl

/-- A call that enters no longer waits. -/
theorem pending_enter {bus after : HelperBus} {serial : Nat} {call : HelperCall}
    (taken : bus.enter serial call = some after) : after.pending ⊆ bus.pending := by
  have finished (result : CallResult) : (bus.finish serial result).pending ⊆ bus.pending :=
    List.filter_sublist.subset
  cases call with
  | start coderURL _ =>
      unfold enter at taken
      dsimp only at taken
      split at taken <;> (rw [pending_act taken]; exact finished _)
  | stop =>
      rw [pending_act taken]
      exact finished _
  | getStatus => cases taken

/-- A call that is received waits for polkit. -/
theorem Unpassed.append {refused : Nat → Bool} {bus : HelperBus} {call : PendingCall}
    (unpassed : bus.Unpassed refused) (waits : call.granted = false) :
    ∀ other ∈ bus.pending ++ [call], refused other.serial = true → other.granted = false := by
  intro other member isRefused
  rcases List.mem_append.mp member with old | new
  · exact unpassed other old isRefused
  · rw [List.mem_singleton.mp new]
    exact waits

section Follows

variable {refused : Nat → Bool} {bus after : HelperBus}

/-- Receiving a call is followed, or left out. -/
theorem follows_receive (unpassed : bus.Unpassed refused) {serial : Nat} {sender : String}
    {call : HelperCall} (taken : bus.next (.receive serial sender call) = some after) :
    after.Unpassed refused ∧ Follows next (without refused) (BusEvent.besides refused) bus
      (.receive serial sender call) after := by
  unfold Follows BusEvent.besides
  obtain ⟨fresh, taken⟩ := Option.ite_none_left_eq_some.mp taken
  constructor
  · cases call with
    | getStatus =>
        obtain rfl := Option.some.inj taken
        exact unpassed
    | start | stop =>
        obtain rfl := Option.some.inj taken
        exact unpassed.append rfl
  · cases isRefused : refused serial with
    | true =>
        cases call <;> obtain rfl := Option.some.inj taken <;>
          simp [BusEvent.serial, isRefused, without, List.filter_append]
    | false =>
        cases call <;> obtain rfl := Option.some.inj taken <;>
          simp [BusEvent.serial, isRefused, without, next, fresh, List.filter_append]

/-- The answer of polkit is followed, or left out. -/
theorem follows_polkitAnswered (unpassed : bus.Unpassed refused) {serial : Nat}
    {reply : PolkitReply} (refuses : refused serial = true → ¬ reply.Authorizes)
    (taken : bus.next (.polkitAnswered serial reply) = some after) :
    after.Unpassed refused ∧ Follows next (without refused) (BusEvent.besides refused) bus
      (.polkitAnswered serial reply) after := by
  unfold Follows BusEvent.besides
  obtain ⟨call, found, shape⟩ := Option.map_eq_some_iff.mp taken
  cases verdict : checkPolkit reply polkitAction with
  | some err =>
      simp only [verdict] at shape
      subst shape
      refine ⟨fun other member => unpassed other (List.filter_sublist.subset member), ?_⟩
      cases isRefused : refused serial with
      | true => simpa [BusEvent.serial, isRefused] using finish_refused bus isRefused _
      | false =>
          have asked := (find?_without bus isRefused false).trans found
          simp only [BusEvent.serial, Option.any_some, isRefused, Bool.false_eq_true, if_false,
            next, asked, Option.map_some, verdict, finish_without bus isRefused]
  | none =>
      have kept : refused serial = false := by
        refine Bool.eq_false_iff.mpr fun isRefused => ?_
        exact refuses isRefused (checkPolkit_eq_none_iff.mp verdict)
      simp only [verdict] at shape
      subst shape
      refine ⟨fun other member isRefused => ?_, ?_⟩
      · obtain ⟨old, oldMember, rfl⟩ := List.mem_map.mp member
        split at isRefused
        · rename_i same
          rw [same, kept] at isRefused
          cases isRefused
        · rename_i different
          rw [if_neg different]
          exact unpassed old oldMember isRefused
      · have marked : ∀ call : PendingCall,
            (if call.serial = serial then { call with granted := true } else call).serial =
              call.serial := by
          intro call
          split <;> rfl
        have asked := (find?_without bus kept false).trans found
        simp only [BusEvent.serial, Option.any_some, kept, Bool.false_eq_true, if_false,
          next, asked, Option.map_some, verdict]
        simp only [without, List.filter_map, Function.comp_def, marked]

/-- Only a call that has passed enters. -/
theorem follows_enter (unpassed : bus.Unpassed refused) {serial : Nat}
    (taken : bus.next (.enter serial) = some after) :
    after.Unpassed refused ∧ Follows next (without refused) (BusEvent.besides refused) bus
      (.enter serial) after := by
  unfold Follows BusEvent.besides
  obtain ⟨call, found, entered⟩ := Option.bind_eq_some_iff.mp taken
  have passed := List.find?_some found
  simp only [decide_eq_true_eq] at passed
  have kept : refused serial = false := by
    refine Bool.eq_false_iff.mpr fun isRefused => ?_
    have waiting := unpassed call (List.mem_of_find?_eq_some found) (passed.1 ▸ isRefused)
    rw [passed.2] at waiting
    cases waiting
  refine ⟨fun other member => unpassed other (pending_enter entered member), ?_⟩
  have granted := (find?_without bus kept true).trans found
  simp only [BusEvent.serial, Option.any_some, kept, Bool.false_eq_true, if_false, next,
    granted, Option.bind_some, enter_without bus kept, entered, Option.map_some]

/-- A step beside the refused calls is the same step without them; a step of theirs is none. -/
theorem follows_without {event : BusEvent} (unpassed : bus.Unpassed refused)
    (refuses : event.Refuses refused) (taken : bus.next event = some after) :
    after.Unpassed refused ∧
      Follows next (without refused) (BusEvent.besides refused) bus event after := by
  cases event with
  | receive serial sender call => exact follows_receive unpassed taken
  | polkitAnswered serial reply => exact follows_polkitAnswered unpassed refuses taken
  | enter serial => exact follows_enter unpassed taken
  | advance attempt failure =>
      refine ⟨fun other member => unpassed other (pending_act taken ▸ member), ?_⟩
      simpa [Follows, BusEvent.besides, BusEvent.serial, next, act_without] using
        ⟨after, taken, rfl⟩
  | terminate =>
      refine ⟨fun other member => unpassed other (pending_act taken ▸ member), ?_⟩
      simpa [Follows, BusEvent.besides, BusEvent.serial, next, act_without] using
        ⟨after, taken, rfl⟩

end Follows

end HelperBus

/-- Calls that polkit never grants leave no trace: without them the helper would have taken the
same steps, sent the same signals and answered the other calls alike. -/
theorem refused_calls_inert (refused : Nat → Bool) {events : List BusEvent} {bus : HelperBus}
    (run : Runs HelperBus.next .new events bus)
    (refuses : ∀ event ∈ events, event.Refuses refused) :
    ∃ other, Runs HelperBus.next .new (events.filterMap (BusEvent.besides refused)) other ∧
      other.helper = bus.helper ∧ other.signals = bus.signals ∧ other.effects = bus.effects ∧
      other.results = bus.results.filter fun result => !refused result.1 :=
  ⟨bus.without refused,
    (run.project (fun _ => List.not_mem_nil.elim)
      (fun _ _ _ unpassed isAllowed taken =>
        HelperBus.follows_without unpassed isAllowed taken)
      (conforms_of_forall refuses)).2,
    rfl, rfl, rfl, rfl⟩

/-! ## Every effect has its warrant -/

/-- The step of the helper is what the call asks for. -/
def HelperCall.Performs : HelperCall → HelperEvent → Prop
  | .start url _, event => event = .start url ∨ event = .startRejected url
  | .stop, event => event = .shutdown
  | .getStatus, _ => False

/-- The step was asked for by a call of its sender, and polkit let this call pass. -/
structure Warranted (events : List BusEvent) (bus : HelperBus) (serial : Nat)
    (event : HelperEvent) : Prop where
  call : ∃ sender call, .receive serial sender call ∈ events ∧ call.Performs event ∧
    (serial, polkitQuery sender polkitAction) ∈ bus.queries
  granted : ∃ reply, .polkitAnswered serial reply ∈ events ∧ reply.Authorizes

/-- The helper's own step, or its end. -/
def Internal (events : List BusEvent) (event : HelperEvent) : Prop :=
  (∃ attempt failure, event = .advance attempt failure) ∨
    event = .shutdown ∧ .terminate ∈ events

/-- What is known of a call in its goroutine. -/
structure Waits (events : List BusEvent) (bus : HelperBus) (call : PendingCall) : Prop where
  received : call.serial ∈ bus.received
  called : .receive call.serial call.sender call.call ∈ events
  asked : (call.serial, polkitQuery call.sender polkitAction) ∈ bus.queries
  granted : call.granted = true →
    ∃ reply, .polkitAnswered call.serial reply ∈ events ∧ reply.Authorizes
  idle : some call.serial ∉ bus.effects.map (·.serial)

/-- The books of the bus. -/
structure AccountedFor (events : List BusEvent) (bus : HelperBus) : Prop where
  pending : ∀ call ∈ bus.pending, Waits events bus call
  warranted : ∀ effect ∈ bus.effects, ∀ serial ∈ effect.serial,
    serial ∈ bus.received ∧ Warranted events bus serial effect.event
  internal : ∀ effect ∈ bus.effects, effect.serial = none → Internal events effect.event
  once : (bus.effects.filterMap (·.serial)).Nodup
  helper : Runs Helper.next .new (bus.effects.map (·.event)) bus.helper

/-- A call that waits goes on waiting. -/
theorem Waits.later {events : List BusEvent} {bus after : HelperBus} {call : PendingCall}
    (waits : Waits events bus call) (event : BusEvent) (received : bus.received ⊆ after.received)
    (queries : bus.queries ⊆ after.queries) (effects : after.effects = bus.effects) :
    Waits (events ++ [event]) after call where
  received := received waits.received
  called := List.mem_append_left _ waits.called
  asked := queries waits.asked
  granted granted := by
    obtain ⟨reply, answered, authorizes⟩ := waits.granted granted
    exact ⟨reply, List.mem_append_left _ answered, authorizes⟩
  idle := effects ▸ waits.idle

/-- A step that is no step of the helper. -/
theorem AccountedFor.later {events : List BusEvent} {bus after : HelperBus}
    (accounted : AccountedFor events bus) (event : BusEvent)
    (received : bus.received ⊆ after.received)
    (queries : bus.queries ⊆ after.queries) (effects : after.effects = bus.effects)
    (helper : after.helper = bus.helper)
    (pending : ∀ call ∈ after.pending, Waits (events ++ [event]) after call) :
    AccountedFor (events ++ [event]) after where
  pending := pending
  warranted effect member serial isSerial := by
    obtain ⟨known, ⟨sender, call, called, performs, asked⟩, reply, answered, authorizes⟩ :=
      accounted.warranted effect (effects ▸ member) serial isSerial
    exact ⟨received known, ⟨sender, call, List.mem_append_left _ called, performs, queries asked⟩,
      reply, List.mem_append_left _ answered, authorizes⟩
  internal effect member none :=
    (accounted.internal effect (effects ▸ member) none).imp id
      fun ended => ⟨ended.1, List.mem_append_left _ ended.2⟩
  once := effects ▸ accounted.once
  helper := effects ▸ helper ▸ accounted.helper

/-- An event that leaves the bus as it is. -/
theorem AccountedFor.unchanged {events : List BusEvent} {bus : HelperBus}
    (accounted : AccountedFor events bus) (event : BusEvent) :
    AccountedFor (events ++ [event]) bus :=
  accounted.later event (List.Subset.refl _) (List.Subset.refl _) rfl rfl fun call member =>
    (accounted.pending call member).later event (List.Subset.refl _) (List.Subset.refl _) rfl

/-- A step of the helper, on behalf of a call that is gone or of none. -/
theorem AccountedFor.act {events : List BusEvent} {bus after : HelperBus} {cause : Option Nat}
    {event : HelperEvent} (accounted : AccountedFor events bus)
    (taken : bus.act cause event = some after)
    (warrant : ∀ serial ∈ cause, serial ∈ bus.received ∧ Warranted events bus serial event ∧
      some serial ∉ bus.effects.map (·.serial) ∧ ∀ call ∈ bus.pending, call.serial ≠ serial)
    (internal : cause = none → Internal events event) : AccountedFor events after := by
  obtain ⟨⟨helper, signals⟩, step, rfl⟩ := Option.map_eq_some_iff.mp taken
  refine ⟨fun call member => ?_, fun effect member serial isSerial => ?_,
    fun effect member none => ?_, ?_, ?_⟩
  · obtain ⟨received, called, asked, granted, idle⟩ := accounted.pending call member
    refine ⟨received, called, asked, granted, ?_⟩
    simp only [List.map_append, List.mem_append, List.map_cons, List.map_nil, List.mem_singleton,
      not_or]
    exact ⟨idle, fun same => (warrant _ same.symm).2.2.2 call member rfl⟩
  · rcases List.mem_append.mp member with old | new
    · obtain ⟨known, call, granted⟩ := accounted.warranted effect old serial isSerial
      exact ⟨known, call, granted⟩
    · obtain rfl := List.mem_singleton.mp new
      obtain ⟨known, ⟨call, granted⟩, -⟩ := warrant serial isSerial
      exact ⟨known, call, granted⟩
  · rcases List.mem_append.mp member with old | new
    · exact accounted.internal effect old none
    · obtain rfl := List.mem_singleton.mp new
      exact internal none
  · rw [List.filterMap_append]
    cases cause with
    | none => simpa using accounted.once
    | some serial =>
        refine List.nodup_append.mpr ⟨accounted.once, by simp, ?_⟩
        rintro other member _ isNew rfl
        obtain rfl : other = serial := by simpa using isNew
        obtain ⟨effect, isEffect, isSerial⟩ := List.mem_filterMap.mp member
        exact (warrant other rfl).2.2.1 (List.mem_map.mpr ⟨effect, isEffect, isSerial⟩)
  · rw [List.map_append]
    exact accounted.helper.step (Helper.next_eq_some_iff.mpr
      ⟨signals, Helper.step_eq_some_iff.mp step⟩)

/-- The critical section of a call that polkit let pass. -/
theorem AccountedFor.enter {events : List BusEvent} {bus after : HelperBus} {call : PendingCall}
    (accounted : AccountedFor events bus) (member : call ∈ bus.pending)
    (granted : call.granted = true)
    (taken : bus.enter call.serial call.call = some after) :
    AccountedFor (events ++ [.enter call.serial]) after := by
  obtain ⟨received, called, asked, isGranted, idle⟩ := accounted.pending call member
  have finished (result : CallResult) :
      AccountedFor (events ++ [.enter call.serial]) (bus.finish call.serial result) :=
    accounted.later _ (List.Subset.refl _) (List.Subset.refl _) rfl rfl fun other isOther =>
      (accounted.pending other (List.filter_sublist.subset isOther)).later _
        (List.Subset.refl _) (List.Subset.refl _) rfl
  have warrant (result : CallResult) (event : HelperEvent) (performs : call.call.Performs event) :
      ∀ serial ∈ some call.serial, serial ∈ (bus.finish call.serial result).received ∧
        Warranted (events ++ [.enter call.serial]) (bus.finish call.serial result) serial event ∧
        some serial ∉ (bus.finish call.serial result).effects.map (·.serial) ∧
        ∀ other ∈ (bus.finish call.serial result).pending, other.serial ≠ serial := by
    rintro serial isSerial
    obtain rfl : call.serial = serial := Option.some.inj isSerial
    obtain ⟨reply, answered, authorizes⟩ := isGranted granted
    refine ⟨received, ⟨⟨call.sender, call.call, List.mem_append_left _ called, performs, asked⟩,
      reply, List.mem_append_left _ answered, authorizes⟩, idle, fun other isOther => ?_⟩
    simpa using (List.mem_filter.mp isOther).2
  cases shape : call.call with
  | start coderURL apiToken =>
      rw [shape] at taken warrant
      unfold HelperBus.enter at taken
      dsimp only at taken
      split at taken
      · exact (finished _).act taken (warrant _ _ (.inl rfl)) nofun
      · exact (finished _).act taken (warrant _ _ (.inr rfl)) nofun
  | stop =>
      rw [shape] at taken warrant
      exact (finished _).act taken (warrant _ _ rfl) nofun
  | getStatus =>
      rw [shape] at taken
      cases taken

/-- Every event accounts for the effects it has. -/
theorem AccountedFor.next {events : List BusEvent} {bus after : HelperBus} {event : BusEvent}
    (accounted : AccountedFor events bus) (taken : bus.next event = some after) :
    AccountedFor (events ++ [event]) after := by
  have here : event ∈ events ++ [event] := List.mem_append_right _ (List.mem_singleton_self _)
  cases event with
  | receive serial sender call =>
      obtain ⟨fresh, taken⟩ := Option.ite_none_left_eq_some.mp taken
      have idle : some serial ∉ bus.effects.map (·.serial) := by
        intro member
        obtain ⟨effect, isEffect, isSerial⟩ := List.mem_map.mp member
        exact fresh (accounted.warranted effect isEffect serial isSerial).1
      have received : bus.received ⊆ bus.received ++ [serial] := List.subset_append_left _ _
      have queries : bus.queries ⊆ bus.queries ++ [(serial, polkitQuery sender polkitAction)] :=
        List.subset_append_left _ _
      cases call with
      | getStatus =>
          obtain rfl := Option.some.inj taken
          exact accounted.later _ received (List.Subset.refl _) rfl rfl fun other member =>
            (accounted.pending other member).later _ received (List.Subset.refl _) rfl
      | start _ _ | stop =>
          obtain rfl := Option.some.inj taken
          refine accounted.later _ received queries rfl rfl fun other member => ?_
          rcases List.mem_append.mp member with old | new
          · exact (accounted.pending other old).later _ received queries rfl
          · obtain rfl := List.mem_singleton.mp new
            exact ⟨by simp, here, by simp, nofun, idle⟩
  | polkitAnswered serial reply =>
      obtain ⟨call, -, shape⟩ := Option.map_eq_some_iff.mp taken
      cases verdict : checkPolkit reply polkitAction with
      | some err =>
          simp only [verdict] at shape
          subst shape
          exact accounted.later _ (List.Subset.refl _) (List.Subset.refl _) rfl rfl
            fun other member => (accounted.pending other (List.filter_sublist.subset member)).later
              _ (List.Subset.refl _) (List.Subset.refl _) rfl
      | none =>
          simp only [verdict] at shape
          subst shape
          refine accounted.later _ (List.Subset.refl _) (List.Subset.refl _) rfl rfl
            fun other member => ?_
          obtain ⟨old, oldMember, rfl⟩ := List.mem_map.mp member
          have waits := (accounted.unchanged (.polkitAnswered serial reply)).pending old oldMember
          split
          · rename_i same
            exact ⟨waits.received, waits.called, waits.asked,
              fun _ => ⟨reply, same ▸ here, checkPolkit_eq_none_iff.mp verdict⟩, waits.idle⟩
          · exact ⟨waits.received, waits.called, waits.asked, waits.granted, waits.idle⟩
  | enter serial =>
      obtain ⟨call, found, entered⟩ := Option.bind_eq_some_iff.mp taken
      have passed := List.find?_some found
      simp only [decide_eq_true_eq] at passed
      obtain ⟨rfl, granted⟩ := passed
      exact accounted.enter (List.mem_of_find?_eq_some found) granted entered
  | advance attempt failure =>
      refine (accounted.unchanged (.advance attempt failure)).act taken ?_ ?_
      · exact fun _ none => nomatch none
      · exact fun _ => .inl ⟨attempt, failure, rfl⟩
  | terminate =>
      refine (accounted.unchanged .terminate).act taken ?_ ?_
      · exact fun _ none => nomatch none
      · exact fun _ => .inr ⟨rfl, here⟩

/-- There are no effects at first. -/
theorem AccountedFor.new : AccountedFor [] .new :=
  ⟨fun _ => List.not_mem_nil.elim, fun _ => List.not_mem_nil.elim,
    fun _ => List.not_mem_nil.elim, List.nodup_nil, .refl⟩

/-- Every step of the helper is one of its goroutines, its end, or what some call asked for that
polkit let pass, with the sender of that call as the subject. A grant serves one step, and the
steps are a run of the helper. -/
theorem effects_warranted {events : List BusEvent} {bus : HelperBus}
    (run : Runs HelperBus.next .new events bus) :
    (∀ effect ∈ bus.effects, (∀ serial ∈ effect.serial, Warranted events bus serial effect.event) ∧
        (effect.serial = none → Internal events effect.event)) ∧
      (bus.effects.filterMap (·.serial)).Nodup ∧
      Runs Helper.next .new (bus.effects.map (·.event)) bus.helper := by
  have accounted := run.induct AccountedFor .new
    (fun _ _ _ _ _ accounted _ taken => accounted.next taken) (conforms_true events)
  exact ⟨fun effect member => ⟨fun serial isSerial =>
      (accounted.warranted effect member serial isSerial).2, accounted.internal effect member⟩,
    accounted.once, accounted.helper⟩

/-! ## A run -/

/-- An answer that says yes. -/
def authorized : PolkitReply := ⟨none, [.struct [.bool true, .bool false, .other "map"]]⟩

/-- An answer that says no and asks for a challenge. -/
def denied : PolkitReply := ⟨none, [.struct [.bool false, .bool true, .other "map"]]⟩

/-- One client starts the tunnel, another one may not stop it. -/
def startedNotStopped : List BusEvent :=
  [.receive 1 ":1.20" (.start "https://dev.coder.com" "t1"), .receive 2 ":1.31" .stop,
    .polkitAnswered 1 authorized, .enter 1, .polkitAnswered 2 denied, .advance 0 none,
    .receive 3 ":1.31" .getStatus]

/-- The second call is the one that is refused. -/
def refusesSecond (serial : Nat) : Bool := serial == 2

/-- One client starts, and another's stop is refused. -/
theorem refused_calls_inert_second :
    ∃ bus, Runs HelperBus.next .new startedNotStopped bus ∧
      (bus.results.length = 3 ∧ bus.signals = [⟨.connecting, ""⟩]) ∧
      ∃ other, Runs HelperBus.next .new
          (startedNotStopped.filterMap (BusEvent.besides refusesSecond)) other ∧
        other.helper = bus.helper ∧ other.signals = bus.signals ∧ other.effects = bus.effects ∧
        other.results = bus.results.filter fun result => !refusesSecond result.1 := by
  have reached : (replay HelperBus.next .new startedNotStopped).any (fun bus =>
      bus.results.length = 3 ∧ bus.signals = [⟨.connecting, ""⟩]) = true := by
    decide
  obtain ⟨bus, run, observed⟩ := runs_of_replay _ reached
  refine ⟨bus, run, of_decide_eq_true observed, refused_calls_inert refusesSecond run ?_⟩
  intro event member
  simp only [startedNotStopped, List.mem_cons, List.not_mem_nil, or_false] at member
  rcases member with rfl | rfl | rfl | rfl | rfl | rfl | rfl <;>
    simp [BusEvent.Refuses, refusesSecond, PolkitReply.Authorizes, denied]

/-- The same run has the effects of the start only. -/
theorem effects_warranted_started :
    ∃ bus, Runs HelperBus.next .new startedNotStopped bus ∧
      bus.effects = [⟨some 1, .start "https://dev.coder.com"⟩, ⟨none, .advance 0 none⟩] ∧
      (∀ effect ∈ bus.effects,
        (∀ serial ∈ effect.serial, Warranted startedNotStopped bus serial effect.event) ∧
          (effect.serial = none → Internal startedNotStopped effect.event)) ∧
      (bus.effects.filterMap (·.serial)).Nodup ∧
      Runs Helper.next .new (bus.effects.map (·.event)) bus.helper := by
  have reached : (replay HelperBus.next .new startedNotStopped).any (fun bus =>
      bus.effects =
        [⟨some 1, .start "https://dev.coder.com"⟩, ⟨none, .advance 0 none⟩]) = true := by
    decide
  obtain ⟨bus, run, observed⟩ := runs_of_replay _ reached
  exact ⟨bus, run, of_decide_eq_true observed, effects_warranted run⟩

end CoderDesktop.Vpn
