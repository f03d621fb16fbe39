import VoxRtc.Elixir.Session.Ended
import VoxRtc.Correlation.Registry

/-!
# The subscribers of an Elixir session

The session keeps its subscribers in two maps, from a process to its monitor and back. They
stand for one map of registrations, whatever calls and `:DOWN` messages come, and an event
goes to those who are registered when it is broadcast.
-/
namespace VoxRtc.Elixir

open Wire Responses Transition Correlation

namespace Session

section Maps

variable {κ α : Type} [DecidableEq κ] (map : Map κ α) (key : κ)

theorem get_insert (value : α) :
    Map.get (AList.insert key value map) = Function.update map.get key (some value) := by
  funext other
  by_cases same : other = key
  · subst same
    simp [Map.get]
  · simp [Map.get, same]

theorem get_erase : Map.get (AList.erase key map) = Function.update map.get key none := by
  funext other
  by_cases same : other = key
  · subst same
    simp [Map.get]
  · simp [Map.get, same]

/-- Each key of a map is there once. -/
theorem count_keys : map.keys.count key = if (map.get key).isSome then 1 else 0 := by
  rw [List.Nodup.count map.keys_nodup]
  refine if_congr ?_ rfl rfl
  rw [Map.get, AList.lookup_isSome, AList.mem_keys]

end Maps

variable {lib : Libraries} {s t u : Session}

/-- What a message does to the registrations; a monitor would get the next reference. -/
def signals (s : Session) : Message → List (Signal Nat Nat)
  | .call (.subscribe subscriber) _ _ => [.joins subscriber s.references]
  | .call (.unsubscribe subscriber) _ _ => [.leaves subscriber]
  | .down monitor => [.lapses monitor]
  | _ => []

/-- The subscriber that `init/1` adds, under the second reference of the process. -/
def opening (subscriber : Option Nat) : List (Signal Nat Nat) :=
  subscriber.toList.map (.joins · 1)

/-! ## What leaves the maps alone -/

/-- The maps stay, and whatever is broadcast goes to all who are subscribed. -/
structure Untouched (s t : Session) : Prop where
  subscribers : t.subscribers = s.subscribers
  monitors : t.subscriberMonitors = s.subscriberMonitors
  owner : t.ownerMonitor = s.ownerMonitor
  references : s.references ≤ t.references
  told : ∃ more, t.events = s.events ++ more ∧ ∀ entry ∈ more, entry.2 = s.subscribers.keys

theorem Untouched.trans (first : s.Untouched t) (second : t.Untouched u) : s.Untouched u := by
  obtain ⟨more, events, told⟩ := first.told
  obtain ⟨rest, events', told'⟩ := second.told
  constructor
  · exact second.subscribers.trans first.subscribers
  · exact second.monitors.trans first.monitors
  · exact second.owner.trans first.owner
  · exact Nat.le_trans first.references second.references
  · refine ⟨more ++ rest, by rw [events', events, List.append_assoc], fun entry member => ?_⟩
    rcases List.mem_append.mp member with old | new
    · exact told entry old
    · rw [told' entry new, first.subscribers]

theorem untouched_frame (subscribers : t.subscribers = s.subscribers)
    (monitors : t.subscriberMonitors = s.subscriberMonitors)
    (owner : t.ownerMonitor = s.ownerMonitor) (references : s.references ≤ t.references)
    (events : t.events = s.events) : s.Untouched t :=
  ⟨subscribers, monitors, owner, references, [], by rw [events, List.append_nil], by simp⟩

theorem Untouched.refl (s : Session) : s.Untouched s :=
  untouched_frame rfl rfl rfl (Nat.le_refl _) rfl

theorem untouched_told {e : Event} (subscribers : t.subscribers = s.subscribers)
    (monitors : t.subscriberMonitors = s.subscriberMonitors)
    (owner : t.ownerMonitor = s.ownerMonitor) (references : s.references ≤ t.references)
    (events : t.events = s.events ++ [(e, s.subscribers.keys)]) : s.Untouched t :=
  ⟨subscribers, monitors, owner, references, [(e, s.subscribers.keys)], events, by simp⟩

theorem untouched_emitClosedOnce (s : Session) (reason : String) :
    s.Untouched (s.emitClosedOnce reason) := by
  unfold emitClosedOnce
  split
  · exact .refl s
  · exact untouched_told (e := .closed reason) rfl rfl rfl (Nat.le_refl _) rfl

theorem untouched_ends (s : Session) (reason : Term) : s.Untouched (s.ends reason) := by
  unfold ends
  split <;> exact untouched_frame rfl rfl rfl (Nat.le_refl _) rfl

/-- The end of a handler that the stream has ended for, whatever comes before. -/
theorem untouched_closing (s : Session) (label : String) (reply : Reply) (reason : Term) :
    s.Untouched (((s.emitClosedOnce label).replyAttachWaiters reply).ends reason) := by
  have replied : (s.emitClosedOnce label).Untouched
      ((s.emitClosedOnce label).replyAttachWaiters reply) :=
    untouched_frame rfl rfl rfl (Nat.le_refl _) rfl
  exact ((untouched_emitClosedOnce s label).trans replied).trans (untouched_ends _ reason)

theorem untouched_closeTransport (s : Session) (reason : String) :
    s.Untouched (s.closeTransport reason) :=
  Untouched.trans (t := { s.rejectResponseWaiters _ with closing := true })
    (untouched_frame rfl rfl rfl (Nat.le_refl _) rfl) (untouched_emitClosedOnce _ reason)

theorem untouched_stopForStreamError (s : Session) (reason : Term) :
    s.Untouched (s.stopForStreamError lib reason) := by
  simp only [stopForStreamError]
  refine Untouched.trans ?_ (untouched_closing _ _ _ reason)
  exact untouched_told (e := .failed reason) rfl rfl rfl (Nat.le_refl _) rfl

theorem untouched_handleStreamDone (s : Session) : s.Untouched s.handleStreamDone := by
  simp only [handleStreamDone]
  refine Untouched.trans ?_ (untouched_closing _ _ _ _)
  exact untouched_frame rfl rfl rfl (Nat.le_refl _) rfl

theorem untouched_handleClosed (s : Session) (reason : String) :
    s.Untouched (s.handleClosed reason) := by
  simp only [handleClosed]
  refine Untouched.trans ?_ (untouched_ends _ _)
  exact untouched_told (e := .closed reason) rfl rfl rfl (Nat.le_refl _) rfl

theorem untouched_replyResponseWaiter (s : Session) (generationId : Option String)
    (reply : Reply) : s.Untouched (s.replyResponseWaiter generationId reply) := by
  cases generationId with
  | none => exact .refl s
  | some id =>
    simp only [replyResponseWaiter]
    split
    · exact .refl s
    · split
      · exact .refl s
      · exact untouched_frame rfl rfl rfl (Nat.le_refl _) rfl

theorem untouched_resolveResponseWaiter {event : Event}
    (resolved : s.resolveResponseWaiter lib event = some t) : s.Untouched t := by
  cases event with
  | responseCreated payload =>
    obtain ⟨output, -, rfl⟩ := Option.map_eq_some_iff.mp resolved
    exact untouched_replyResponseWaiter s _ _
  | error error =>
    cases resolved
    exact untouched_replyResponseWaiter s _ _
  | _ =>
    cases resolved
    exact .refl s

theorem untouched_trackResponseCompletion (s : Session) (event : Event) :
    s.Untouched (s.trackResponseCompletion event) := by
  unfold trackResponseCompletion
  split
  · exact untouched_frame rfl rfl rfl (Nat.le_refl _) rfl
  · exact .refl s

theorem untouched_tracked {event : Event} (resolved : s.resolveResponseWaiter lib event = some t) :
    s.Untouched ((t.trackResponseCompletion event).broadcast event) := by
  have tracked := (untouched_resolveResponseWaiter resolved).trans
    (untouched_trackResponseCompletion t event)
  exact tracked.trans (untouched_told (e := event) rfl rfl rfl (Nat.le_refl _) rfl)

theorem untouched_handleEvent {event : Event} (handled : s.handleEvent lib event = some t) :
    s.Untouched t := by
  have recorded : s.Untouched (s.record event) := untouched_frame rfl rfl rfl (Nat.le_refl _) rfl
  cases event with
  | sessionAttached payload =>
    simp only [handleEvent] at handled
    split at handled
    · cases handled
      exact untouched_told (e := .sessionAttached payload) rfl rfl rfl (Nat.le_refl _) rfl
    · cases handled
      exact recorded.trans (untouched_stopForStreamError _ _)
  | closed reason =>
    cases handled
    exact recorded.trans (untouched_handleClosed _ reason)
  | _ =>
    simp only [handleEvent, Option.map_eq_some_iff] at handled
    obtain ⟨resolved, found, rfl⟩ := handled
    exact recorded.trans (untouched_tracked found)

theorem untouched_handleStream {message : Vox.RtcControlServerMessage}
    (handled : s.handleStream lib message = some t) : s.Untouched t := by
  obtain ⟨decoded, -, rest⟩ := Option.bind_eq_some_iff.mp handled
  cases decoded with
  | ok event => exact untouched_handleEvent rest
  | error reason =>
    cases rest
    exact untouched_told (e := .failed reason) rfl rfl rfl (Nat.le_refl _) rfl

theorem untouched_responseCommand (s : Session) (caller : Nat) (command : Command)
    (options : Options) (sent : Bool) (generated : GeneratedId) :
    s.Untouched (s.responseCommand caller command options sent generated) := by
  simp only [responseCommand]
  split
  · exact untouched_frame rfl rfl rfl (Nat.le_refl _) rfl
  · split
    · obtain ⟨slot, frame⟩ := s.buildResponseCommand_frame command options generated
      rw [frame]
      exact untouched_frame rfl rfl rfl (Nat.le_refl _) rfl
    · exact untouched_frame rfl rfl rfl (Nat.le_refl _) rfl

theorem untouched_startResponseAndWait (s : Session) (caller : Nat) (options : Options)
    (sent : Bool) (generated : GeneratedId) :
    s.Untouched (s.startResponseAndWait caller options sent generated) := by
  simp only [startResponseAndWait, ensureGeneration_eq]
  split
  · exact untouched_frame rfl rfl rfl (Nat.le_refl _) rfl
  · split
    · exact untouched_frame rfl rfl rfl (Nat.le_refl _) rfl
    · split
      -- The timer of the start takes a reference.
      · exact untouched_frame rfl rfl rfl (Nat.le_succ _) rfl
      · exact untouched_frame rfl rfl rfl (Nat.le_refl _) rfl

theorem untouched_awaitAttached (s : Session) (caller : Nat) :
    s.Untouched (s.awaitAttached caller) := by
  simp only [awaitAttached]
  split
  · exact untouched_frame rfl rfl rfl (Nat.le_refl _) rfl
  · split <;> exact untouched_frame rfl rfl rfl (Nat.le_refl _) rfl

theorem untouched_answered (s : Session) (caller : Nat) (answer : Reply) :
    s.Untouched (s.reply caller answer).terminate :=
  untouched_frame rfl rfl rfl (Nat.le_refl _) rfl

theorem untouched_close (s : Session) (caller : Nat) (reason : String) (sent : Bool)
    (generated : GeneratedId) : s.Untouched (s.handleCall caller sent generated (.close reason)) := by
  simp only [handleCall]
  split
  · exact untouched_frame rfl rfl rfl (Nat.le_refl _) rfl
  · exact (untouched_closeTransport s reason).trans (untouched_answered _ caller .ok)

theorem untouched_handleTimeout (s : Session) (timer : Timer) :
    s.Untouched (s.handleTimeout timer) := by
  simp only [handleTimeout]
  split <;> exact untouched_frame rfl rfl rfl (Nat.le_refl _) rfl

theorem untouched_handleReceiverExit (s : Session) (reason : Term) :
    s.Untouched (s.handleReceiverExit lib reason) := by
  unfold handleReceiverExit
  split
  · exact .refl s
  · exact untouched_stopForStreamError s _

/-- What concerns neither a subscriber nor a monitor. -/
theorem untouched_handled {message : Message} (handled : Handled lib s message t)
    (other : s.signals message = []) : s.Untouched t := by
  cases handled with
  | call request sent generated =>
    have counted : s.Untouched { s with calls := s.calls + 1 } :=
      untouched_frame rfl rfl rfl (Nat.le_refl _) rfl
    refine counted.trans ?_
    cases request with
    | subscribe subscriber => simp [signals] at other
    | unsubscribe subscriber => simp [signals] at other
    | awaitAttached => exact untouched_awaitAttached _ _
    | responseCommand command options => exact untouched_responseCommand _ _ _ _ _ _
    | startResponseAndWait options => exact untouched_startResponseAndWait _ _ _ _ _
    | close reason => exact untouched_close _ _ _ _ _
    | sessionId | send => exact untouched_frame rfl rfl rfl (Nat.le_refl _) rfl
  | stream handled => exact untouched_handleStream handled
  | streamError reason => exact untouched_stopForStreamError s reason
  | streamDone => exact untouched_handleStreamDone s
  | timeout waits => exact untouched_handleTimeout s _
  | down monitor => simp [signals] at other
  | receiverExit reason => exact untouched_handleReceiverExit s reason
  | raises | exit | fires => exact untouched_frame rfl rfl rfl (Nat.le_refl _) rfl

/-! ## The two maps -/

/-- The maps are each other's inverse, and every reference in them is one that the process
has given to a monitor of a subscriber. -/
structure Bookkeeping (s : Session) : Prop where
  inverse : Inverse s.subscribers.get s.subscriberMonitors.get
  given : ∀ subscriber monitor, s.subscribers.get subscriber = some monitor →
    s.ownerMonitor < monitor ∧ monitor < s.references
  owner : s.ownerMonitor < s.references

theorem Bookkeeping.fresh (kept : s.Bookkeeping) : s.subscriberMonitors.get s.references = none := by
  cases found : s.subscriberMonitors.get s.references with
  | none => rfl
  | some subscriber =>
    have held := (kept.inverse subscriber s.references).mpr found
    have below := (kept.given subscriber s.references held).2
    omega

/-- The owner's monitor is not the monitor of a subscription. -/
theorem Bookkeeping.apart (kept : s.Bookkeeping) :
    s.subscriberMonitors.get s.ownerMonitor = none := by
  cases found : s.subscriberMonitors.get s.ownerMonitor with
  | none => rfl
  | some subscriber =>
    have held := (kept.inverse subscriber s.ownerMonitor).mpr found
    have above := (kept.given subscriber s.ownerMonitor held).1
    omega

theorem Bookkeeping.untouched (kept : s.Bookkeeping) (same : s.Untouched t) : t.Bookkeeping := by
  constructor
  · rw [same.subscribers, same.monitors]
    exact kept.inverse
  · intro subscriber monitor held
    rw [same.subscribers] at held
    have bounds := kept.given subscriber monitor held
    have grows := same.references
    rw [same.owner]
    omega
  · have owner := kept.owner
    have grows := same.references
    rw [same.owner]
    omega

/-- The maps follow the signals, and what is broadcast goes to all who were subscribed. -/
structure Registers (signals : List (Signal Nat Nat)) (s t : Session) : Prop where
  kept : t.Bookkeeping
  registrations : t.subscribers.get = signals.foldl Signal.apply s.subscribers.get
  told : ∃ more, t.events = s.events ++ more ∧ ∀ entry ∈ more, entry.2 = s.subscribers.keys

theorem registers_silent {e : Signal Nat Nat} (kept : t.Bookkeeping)
    (registrations : t.subscribers.get = Signal.apply s.subscribers.get e)
    (events : t.events = s.events) : Registers [e] s t :=
  ⟨kept, registrations, [], by rw [events, List.append_nil], by simp⟩

theorem addSubscriber_registers (kept : s.Bookkeeping) (subscriber : Nat) :
    Registers [.joins subscriber s.references] s (s.addSubscriber subscriber) := by
  unfold addSubscriber
  split
  -- A process that is subscribed keeps the monitor it has.
  next there => exact registers_silent kept (by rw [Signal.apply, if_pos there]) rfl
  -- Its new monitor has the next reference, which no map knows.
  next absent =>
    have out : s.subscribers.get subscriber = none := by simpa using absent
    refine registers_silent ⟨?_, ?_, ?_⟩ ?_ rfl
    · simp only [get_insert]
      exact kept.inverse.join out kept.fresh
    · intro other monitor held
      have owner := kept.owner
      simp only [get_insert] at held
      by_cases same : other = subscriber
      · rw [same, Function.update_self, Option.some.injEq] at held
        simp only [← held]
        omega
      · rw [Function.update_of_ne same] at held
        have bounds := kept.given other monitor held
        simp only
        omega
    · have owner := kept.owner
      simp only
      omega
    · rw [Signal.apply, if_neg absent]
      exact get_insert _ _ _

/-- An entry and the entry that leads back to it go together. -/
theorem Bookkeeping.drop (kept : s.Bookkeeping) {subscriber monitor : Nat}
    (held : s.subscribers.get subscriber = some monitor) :
    Bookkeeping { s with
      subscribers := s.subscribers.erase subscriber
      subscriberMonitors := s.subscriberMonitors.erase monitor } := by
  refine ⟨?_, ?_, kept.owner⟩
  · simp only [get_erase]
    exact kept.inverse.drop held
  · intro other monitor held
    simp only [get_erase] at held
    by_cases same : other = subscriber
    · rw [same, Function.update_self] at held
      cases held
    · rw [Function.update_of_ne same] at held
      exact kept.given other monitor held

theorem removeSubscriber_registers (kept : s.Bookkeeping) (subscriber : Nat) :
    Registers [.leaves subscriber] s (s.removeSubscriber subscriber) := by
  unfold removeSubscriber
  split
  next absent =>
    refine registers_silent kept ?_ rfl
    rw [Signal.apply, ← absent, Function.update_eq_self]
  next monitor held => exact registers_silent (kept.drop held) (get_erase _ _) rfl

/-- The clause for the owner hides no subscription: its monitor is not in the maps. -/
theorem handleDown_registers (kept : s.Bookkeeping) (monitor : Nat) :
    Registers [.lapses monitor] s (s.handleDown monitor) := by
  unfold handleDown
  split
  -- The session closes; the reference is not one of a subscriber.
  next owner =>
    have closed : s.Untouched (s.closeTransport "owner_closed").terminate :=
      (untouched_closeTransport s _).trans (untouched_frame rfl rfl rfl (Nat.le_refl _) rfl)
    refine ⟨kept.untouched closed, ?_, closed.told⟩
    rw [closed.subscribers, owner, List.foldl_cons, List.foldl_nil,
      kept.inverse.lapses_unknown kept.apart]
  next =>
    split
    -- A monitor that was given up before its message came.
    next unknown => exact registers_silent kept (kept.inverse.lapses_unknown unknown).symm rfl
    next subscriber back =>
      have held := (kept.inverse subscriber monitor).mpr back
      refine registers_silent (kept.drop held) ?_ rfl
      rw [kept.inverse.lapses back]
      exact get_erase _ _

theorem Registers.reply {e : List (Signal Nat Nat)} (registers : Registers e s t) (caller : Nat)
    (reply : Reply) : Registers e s (t.reply caller reply) :=
  ⟨registers.kept.untouched (untouched_frame rfl rfl rfl (Nat.le_refl _) rfl),
    registers.registrations, registers.told⟩

/-- One message. -/
theorem step_registers {message : Message} (kept : s.Bookkeeping)
    (taken : s.step lib message = some t) : Registers (s.signals message) s t := by
  obtain ⟨_, handled⟩ := step_handled taken
  -- Only three messages touch the maps.
  by_cases other : s.signals message = []
  · have same := untouched_handled handled other
    rw [other]
    exact ⟨kept.untouched same, by rw [same.subscribers, List.foldl_nil], same.told⟩
  · cases handled with
    | call request sent generated =>
      have counted : Bookkeeping { s with calls := s.calls + 1 } :=
        kept.untouched (untouched_frame rfl rfl rfl (Nat.le_refl _) rfl)
      cases request with
      | subscribe subscriber =>
        obtain ⟨kept', registrations, told⟩ :=
          (addSubscriber_registers counted subscriber).reply s.calls .ok
        exact ⟨kept', registrations, told⟩
      | unsubscribe subscriber =>
        obtain ⟨kept', registrations, told⟩ :=
          (removeSubscriber_registers counted subscriber).reply s.calls .ok
        exact ⟨kept', registrations, told⟩
      | _ => exact absurd rfl other
    | down monitor => exact handleDown_registers kept monitor
    | _ => exact absurd rfl other

theorem bookkeeping_initial (sessionId : String) (subscriber : Option Nat) :
    (initial sessionId subscriber).Bookkeeping ∧
      (initial sessionId subscriber).subscribers.get = registered (opening subscriber) := by
  have empty : Bookkeeping { sessionId := sessionId, ownerMonitor := 0, references := 1 } := by
    constructor
    · intro _ _
      simp [Map.get]
    · intro _ _ held
      simp [Map.get] at held
    · exact Nat.zero_lt_one
  cases subscriber with
  | none => exact ⟨empty, rfl⟩
  | some subscriber =>
    have added := addSubscriber_registers empty subscriber
    exact ⟨added.kept, added.registrations⟩

/-- The maps over a whole run, with the signals it has brought. -/
theorem recorded_registers {sessionId : String} {subscriber : Option Nat}
    {r : Session × List (Signal Nat Nat)}
    (reached : ((session lib sessionId subscriber).recorded signals).Reaches always r) :
    r.1.Bookkeeping ∧ r.1.subscribers.get = registered (opening subscriber ++ r.2) := by
  refine System.Reaches.recorded (P := fun log s => s.Bookkeeping ∧
    s.subscribers.get = registered (opening subscriber ++ log)) (C := always) ?_ ?_ reached
  -- The record begins with what `init/1` has done.
  · rw [List.append_nil]
    exact bookkeeping_initial sessionId subscriber
  · intro log a l b holds _ taken
    obtain ⟨kept, registrations⟩ := holds
    have registers := step_registers kept taken
    refine ⟨registers.kept, ?_⟩
    rw [registers.registrations, registrations, ← List.append_assoc, registered_append _ (a.signals l)]

/-- The subscribers after a record of signals. -/
structure Subscribed (lib : Libraries) (record : List (Signal Nat Nat)) (s : Session) : Prop where
  inverse : ∀ subscriber monitor,
    s.subscribers.get subscriber = some monitor ↔ s.subscriberMonitors.get monitor = some subscriber
  registrations : s.subscribers.get = registered record
  /-- What the next message broadcasts is sent once to each who is registered, and to no one
  who has gone. -/
  once : ∀ message t, s.step lib message = some t →
    ∃ more, t.events = s.events ++ more ∧ ∀ entry ∈ more,
      (∀ process, entry.2.count process = if (registered record process).isSome then 1 else 0) ∧
      ∀ process, Gone record process → process ∉ entry.2
  /-- Nothing is sent after the owner is down. -/
  owner : ∀ t, s.step lib (.down s.ownerMonitor) = some t → ∀ message, t.step lib message = none

/-- In every state that is reached, the two maps are each other's inverse. -/
theorem subscribers_bijective (lib : Libraries) (sessionId : String) (subscriber : Option Nat)
    (r : Session × List (Signal Nat Nat))
    (reached : ((session lib sessionId subscriber).recorded signals).Reaches always r) :
    Subscribed lib (opening subscriber ++ r.2) r.1 := by
  obtain ⟨kept, registrations⟩ := recorded_registers reached
  have counted : ∀ process, r.1.subscribers.keys.count process =
      if (registered (opening subscriber ++ r.2) process).isSome then 1 else 0 := by
    intro process
    rw [count_keys, registrations]
  refine ⟨kept.inverse, registrations, fun message t taken => ?_, fun t taken message => ?_⟩
  · obtain ⟨more, events, told⟩ := (step_registers kept taken).told
    refine ⟨more, events, fun entry member => ?_⟩
    rw [told entry member]
    refine ⟨counted, fun process gone => ?_⟩
    -- Whoever has gone is not registered, so it is counted zero times.
    have none_left := counted process
    rw [gone.registered] at none_left
    exact List.count_eq_zero.mp none_left
  · obtain ⟨_, handled⟩ := step_handled taken
    cases handled
    rw [handleDown, if_pos rfl]
    rfl

/-- A process dies and subscribes again; the monitor it had is down once more. -/
def resubscription : List Message :=
  [.call (.subscribe 5) true ⟨"h", GeneratedId.short_proper⟩, .down 1,
    .call (.subscribe 7) true ⟨"h", GeneratedId.short_proper⟩, .down 1]

theorem subscribers_bijective_run :
    ∃ s, s.subscribers.get 7 = some 3 ∧ s.subscriberMonitors.get 1 = none ∧
      Subscribed .small [.joins 7 1, .joins 5 2, .lapses 1, .joins 7 3, .lapses 1] s := by
  have reached := System.reaches_of_run
    (M := (session .small "s" (some 7)).recorded signals) resubscription rfl
  exact ⟨_, rfl, rfl, subscribers_bijective .small "s" (some 7) _ reached⟩

end Session

end VoxRtc.Elixir
