import Mathlib.Logic.Relation
import VoxRtc.Transition.Log
import VoxRtc.Rust.Gateway.Frames
import VoxRtc.Rust.Gateway.Serve

/-!
# One serve task of the Rust gateway

`serve` and `cleanup` of `rust/rtcserver/src/gateway.rs` for one browser socket: setup,
select loop, cleanup. Hooks return; the task is not cancelled.
-/
namespace VoxRtc.Rust.Gateway

open Transition Wire VoxRtc.Gateway

/-- The hooks that are set; the error callback only reports. -/
structure GatewayOptions where
  onSessionCreated : Bool
  onSessionClosed : Bool

structure CloseFrame where
  code : Nat
  reason : String
  deriving DecidableEq, Repr

/-- What the task does that others see. -/
inductive Effect where
  | created
  | ready
  /-- A browser message, with its type when it parses. -/
  | handled (type : Option String)
  | forwarded (type : String)
  | cleanup
  | closeRtc (reason : String)
  | closed
  | notified (reason : String)
  deriving DecidableEq, Repr

/-- The await the task stands at. The frame of the last ones is sent after the cleanup. -/
inductive Stage where
  | creating
  | checking
  | hook
  | greeting
  | selecting
  | closingRtc (reason : String) (farewell : Option CloseFrame)
  | closing (reason : String) (farewell : Option CloseFrame)
  | notifying (farewell : Option CloseFrame)
  | farewell (frame : CloseFrame)
  | returned
  deriving DecidableEq, Repr

structure ServeTask where
  stage : Stage
  progress : Progress
  /-- Newest first. -/
  log : List Effect
  deriving DecidableEq, Repr

inductive Input where
  | create (ok : Bool)
  | borrow (shutdown : Option String)
  | hook (ok : Bool)
  | ready (written : Bool)
  | changed (shutdown : Option String)
  | frame (raw : Message) (outcome : Outcome) (written : Bool)
  | disconnect
  | event (event : WireEvent SerdeNumber) (written : Bool)
  | eventsEnded
  | closeRtc (ok : Bool)
  | close (ok : Bool)
  | closedHook (ok : Bool)
  | farewell (written : Bool)

def event_reason (event : WireEvent SerdeNumber) : Option String :=
  (event.data.get? "reason").bind Json.str?

namespace ServeTask

def initial : ServeTask := ⟨.creating, .initial, []⟩

/-- The first half of `cleanup`: `close_rtc` unless it was asked for, else `close`. -/
def cleanup (s : ServeTask) (reason : String) (farewell : Option CloseFrame) : ServeTask :=
  if s.progress.rtcCloseRequested then
    { s with stage := .closing reason farewell, log := .closed :: .cleanup :: s.log }
  else
    { s with stage := .closingRtc reason farewell, log := .closeRtc reason :: .cleanup :: s.log }

/-- After the cleanup. -/
def leave (s : ServeTask) : Option CloseFrame → ServeTask
  | some frame => { s with stage := .farewell frame }
  | none => { s with stage := .returned }

/-- The message arm of the select loop. -/
def message (s : ServeTask) (raw : Message) (outcome : Outcome) (written : Bool) : ServeTask :=
  let handled := handleMessage s.progress raw outcome
  let type := (readMessage raw).toOption.map ClientMessage.type
  let next := { s with progress := handled.progress, log := .handled type :: s.log }
  if handled.error.isSome && !written then next.cleanup "browser_disconnected" none else next

/-- The event arm. The flag is set only after the event is written. -/
def forward (s : ServeTask) (event : WireEvent SerdeNumber) (written : Bool) : ServeTask :=
  let progress :=
    if correlates event.type then { s.progress with pendingOfferId := none } else s.progress
  if written then
    let log := .forwarded event.type :: s.log
    if event.type = "rtc.session.closed" then
      -- The close frame of this branch precedes the cleanup; its result is ignored.
      cleanup { s with progress := { progress with rtcCloseRequested := true }, log := log }
        ((event_reason event).getD "session_closed") none
    else { s with progress := progress, log := log }
  else cleanup { s with progress := progress } "browser_disconnected" none

def step (o : GatewayOptions) (s : ServeTask) (l : Input) : Option ServeTask :=
  match l, s.stage with
  | .create true, .creating => some { s with stage := .checking, log := .created :: s.log }
  | .create false, .creating => some { s with stage := .returned }
  | .borrow (some reason), .checking => some (s.cleanup reason (some ⟨1001, reason⟩))
  | .borrow none, .checking =>
    some { s with stage := if o.onSessionCreated then .hook else .greeting }
  | .hook true, .hook => some { s with stage := .greeting }
  | .hook false, .hook =>
    some (s.cleanup "session_created_hook_failed" (some ⟨1011, "RTC gateway setup failed"⟩))
  | .ready true, .greeting => some { s with stage := .selecting, log := .ready :: s.log }
  | .ready false, .greeting => some (s.cleanup "gateway_ready_failed" none)
  | .changed (some reason), .selecting => some (s.cleanup reason none)
  | .changed none, .selecting => some s
  | .frame raw outcome written, .selecting =>
    if outcome = .fatal then none else some (s.message raw outcome written)
  | .disconnect, .selecting => some (s.cleanup "browser_disconnected" none)
  | .event event written, .selecting => some (s.forward event written)
  | .eventsEnded, .selecting => some (s.cleanup "browser_disconnected" none)
  | .closeRtc _, .closingRtc reason farewell =>
    some { s with stage := .closing reason farewell, log := .closed :: s.log }
  | .close _, .closing reason farewell =>
    if o.onSessionClosed then
      some { s with stage := .notifying farewell, log := .notified reason :: s.log }
    else some (s.leave farewell)
  | .closedHook _, .notifying farewell => some (s.leave farewell)
  | .farewell _, .farewell _ => some { s with stage := .returned }
  | _, _ => none

end ServeTask

def serving (o : GatewayOptions) : System ServeTask Input := ⟨.initial, ServeTask.step o⟩

namespace Effect

/-- An exchange of the select loop. -/
def exchanges : Effect → Bool
  | handled _ | forwarded _ => true
  | _ => false

/-- The cleanup leaves `close_rtc` out after these. -/
def requestsClose : Effect → Bool
  | handled type => type == some "rtc.close"
  | forwarded type => type == "rtc.session.closed"
  | _ => false

def isCloseRtc : Effect → Bool
  | closeRtc _ => true
  | _ => false

def isNotified : Effect → Bool
  | notified _ => true
  | _ => false

/-- A part of the cleanup. -/
def cleans : Effect → Bool
  | cleanup | closeRtc _ | closed | notified _ => true
  | _ => false

end Effect

namespace ServeTask

/-- The lifecycle of a serve task, as it shows in the log. -/
structure Disciplined (o : GatewayOptions) (s : ServeTask) : Prop where
  /-- No part of the cleanup happens twice. -/
  never_twice : s.log.count .cleanup ≤ 1 ∧ s.log.countP Effect.isCloseRtc ≤ 1 ∧
    s.log.count .closed ≤ 1 ∧ s.log.countP Effect.isNotified ≤ 1
  /-- A task that returns has cleaned up the session it created. -/
  cleaned : s.stage = .returned → .created ∈ s.log →
    s.log.count .cleanup = 1 ∧ s.log.count .closed = 1 ∧
      s.log.countP Effect.isNotified = if o.onSessionClosed then 1 else 0
  notified_last : Preceded (fun e earlier => e.isNotified → .closed ∈ earlier) s.log
  close_rtc : .cleanup ∈ s.log →
    (s.log.countP Effect.isCloseRtc = 1 ↔
      .handled (some "rtc.close") ∉ s.log ∧ .forwarded "rtc.session.closed" ∉ s.log)
  /-- The loop runs between `gateway.ready` and the cleanup. -/
  between : Preceded (fun e earlier => e.exchanges → .ready ∈ earlier ∧ .cleanup ∉ earlier) s.log

/-- The log of a task whose cleanup has not begun, given its `rtc_close_requested`. -/
structure Body (requested : Bool) (log : List Effect) : Prop where
  created : .created ∈ log
  quiet : ∀ e ∈ log, e.cleans = false
  requests : requested = log.any Effect.requestsClose
  between : Preceded (fun e earlier => e.exchanges → .ready ∈ earlier ∧ .cleanup ∉ earlier) log

/-- The log when `session.close` is called, after the decision about `close_rtc`. -/
inductive Issued : List Effect → Prop
  | asked {body : List Effect} (opened : Body true body) : Issued (.cleanup :: body)
  | issued {body : List Effect} (reason : String) (opened : Body false body) :
      Issued (.closeRtc reason :: .cleanup :: body)

/-- The log when the cleanup is over. -/
inductive Done (o : GatewayOptions) : List Effect → Prop
  | hooked {log : List Effect} (reason : String) (hook : o.onSessionClosed = true)
      (issued : Issued log) : Done o (.notified reason :: .closed :: log)
  | bare {log : List Effect} (none : o.onSessionClosed = false) (issued : Issued log) :
      Done o (.closed :: log)

/-- The invariant: the stage, `rtc_close_requested` and the log fit together. -/
inductive Shape (o : GatewayOptions) : Stage → Bool → List Effect → Prop
  | creating : Shape o .creating false []
  | failed (requested : Bool) : Shape o .returned requested []
  | setup {stage : Stage} {log : List Effect}
      (early : stage = .checking ∨ stage = .hook ∨ stage = .greeting) (opened : Body false log) :
      Shape o stage false log
  | selecting {requested : Bool} {log : List Effect} (opened : Body requested log)
      (ready : .ready ∈ log) : Shape o .selecting requested log
  | closingRtc {body : List Effect} (requested : Bool) (reason : String)
      (farewell : Option CloseFrame) (opened : Body false body) :
      Shape o (.closingRtc reason farewell) requested (.closeRtc reason :: .cleanup :: body)
  | closing {log : List Effect} (requested : Bool) (reason : String)
      (farewell : Option CloseFrame) (issued : Issued log) :
      Shape o (.closing reason farewell) requested (.closed :: log)
  | notifying {log : List Effect} (requested : Bool) (reason : String)
      (farewell : Option CloseFrame) (hook : o.onSessionClosed = true) (issued : Issued log) :
      Shape o (.notifying farewell) requested (.notified reason :: .closed :: log)
  | farewell {log : List Effect} (requested : Bool) (frame : CloseFrame) (done : Done o log) :
      Shape o (.farewell frame) requested log
  | returned {log : List Effect} (requested : Bool) (done : Done o log) :
      Shape o .returned requested log

theorem body_created : Body false [.created] := by
  constructor
  · simp
  · simp [Effect.cleans]
  · simp [Effect.requestsClose]
  · simp [Effect.exchanges]

theorem Body.ready {requested : Bool} {log : List Effect} (opened : Body requested log) :
    Body requested (.ready :: log) := by
  constructor
  · exact List.mem_cons_of_mem _ opened.created
  · exact List.forall_mem_cons.mpr ⟨rfl, opened.quiet⟩
  · exact opened.requests
  · exact ⟨fun asks => (by cases asks), opened.between⟩

theorem Body.exchange {requested : Bool} {log : List Effect} {e : Effect}
    (opened : Body requested log) (ready : .ready ∈ log) (exchanges : e.exchanges = true) :
    Body (e.requestsClose || requested) (e :: log) := by
  have notCleanup : e.cleans = false := by
    cases e <;> first | rfl | cases exchanges
  constructor
  · exact List.mem_cons_of_mem _ opened.created
  · exact List.forall_mem_cons.mpr ⟨notCleanup, opened.quiet⟩
  · rw [List.any_cons, opened.requests]
  · refine ⟨fun _ => ⟨ready, ?_⟩, opened.between⟩
    intro begun
    cases opened.quiet _ begun

variable {o : GatewayOptions} {s t : ServeTask} {l : Input}

/-- The task that owns the session and has its flag right may enter the cleanup. -/
theorem cleanup_shape (reason : String) (farewell : Option CloseFrame)
    (opened : Body s.progress.rtcCloseRequested s.log) :
    Shape o (s.cleanup reason farewell).stage (s.cleanup reason farewell).progress.rtcCloseRequested
      (s.cleanup reason farewell).log := by
  unfold cleanup
  cases flag : s.progress.rtcCloseRequested with
  | true =>
    rw [flag] at opened
    exact .closing _ reason farewell (.asked opened)
  | false =>
    rw [flag] at opened
    exact .closingRtc _ reason farewell opened

theorem leave_shape (farewell : Option CloseFrame) (done : Done o s.log) :
    Shape o (s.leave farewell).stage (s.leave farewell).progress.rtcCloseRequested
      (s.leave farewell).log := by
  cases farewell with
  | none => exact .returned _ done
  | some frame => exact .farewell _ frame done

end ServeTask

@[simp] theorem reject_rtcCloseRequested (p : Progress) (id : Option String) :
    (p.reject id).rtcCloseRequested = p.rtcCloseRequested := by
  unfold Progress.reject
  split <;> rfl

theorem called_rtcCloseRequested (p : Progress) (call : SessionCall Candidate) :
    (p.called call).rtcCloseRequested = p.rtcCloseRequested := by
  cases call <;> rfl

/-- Only `rtc.close` asks the session to close. -/
theorem calling_rtcCloseRequested {p : Progress} {generated : Bool}
    {message : ClientMessage SerdeNumber} {call : SessionCall Candidate}
    (asked : dialect.command generated message = .ok call) :
    (p.calling message.id call).rtcCloseRequested =
      (message.type == "rtc.close" || p.rtcCloseRequested) := by
  cases dialect.asks asked with
  | offer sdp restart g type read => simp [Progress.calling, type]
  | candidate c g type read => simp [Progress.calling, type]
  | close reason type => simp [Progress.calling, type]

/-- A frame leaves the flag alone, unless it is an `rtc.close`, whose handling sets it
whatever comes of the call. -/
theorem handleMessage_rtcCloseRequested (p : Progress) (raw : Message) (outcome : Outcome) :
    (handleMessage p raw outcome).progress.rtcCloseRequested =
      ((readMessage raw).toOption.map ClientMessage.type == some "rtc.close" ||
        p.rtcCloseRequested) := by
  cases read : readMessage raw with
  | error e =>
    simp [handleMessage, VoxRtc.Gateway.handleMessage, dialect, read, Except.toOption]
  | ok message =>
    have handled : handleMessage p raw outcome = handleCommand dialect p message outcome := by
      simp only [handleMessage, VoxRtc.Gateway.handleMessage, dialect, read]
    rw [handled]
    simp only [handleCommand, Except.toOption, Option.map_some]
    by_cases second : message.type = "rtc.offer" ∧ p.pendingOfferId.isSome
    · simp [second]
    · simp only [second, if_false]
      cases asked : dialect.command p.generatedOffer message with
      | error e =>
        -- An `rtc.close` is never refused.
        have other : message.type ≠ "rtc.close" := by
          intro type
          simp only [Dialect.command, type, String.reduceEq, if_false, if_true] at asked
          cases asked
        simp [other]
      | ok call =>
        have flag := calling_rtcCloseRequested (p := p) asked
        cases outcome with
        | done => simp only [called_rtcCloseRequested, flag]; rfl
        | failed text => simp only [reject_rtcCloseRequested, flag]; rfl
        | fatal => simp only [flag]; rfl

namespace ServeTask

variable {o : GatewayOptions} {s t : ServeTask} {l : Input}

theorem message_shape {raw : Message} {outcome : Outcome} {written : Bool}
    (opened : Body s.progress.rtcCloseRequested s.log) (ready : .ready ∈ s.log)
    (stage : s.stage = .selecting) :
    Shape o (s.message raw outcome written).stage
      (s.message raw outcome written).progress.rtcCloseRequested
      (s.message raw outcome written).log := by
  have flag := handleMessage_rtcCloseRequested s.progress raw outcome
  have next := opened.exchange (e := .handled ((readMessage raw).toOption.map ClientMessage.type))
    ready rfl
  have same : (handleMessage s.progress raw outcome).progress.rtcCloseRequested =
      ((Effect.handled ((readMessage raw).toOption.map ClientMessage.type)).requestsClose ||
        s.progress.rtcCloseRequested) := by
    exact flag
  rw [← same] at next
  simp only [message]
  split
  · exact cleanup_shape _ _ next
  · rw [stage]
    exact .selecting next (List.mem_cons_of_mem _ ready)

theorem forward_shape {event : WireEvent SerdeNumber} {written : Bool}
    (opened : Body s.progress.rtcCloseRequested s.log) (ready : .ready ∈ s.log)
    (stage : s.stage = .selecting) :
    Shape o (s.forward event written).stage (s.forward event written).progress.rtcCloseRequested
      (s.forward event written).log := by
  have next := opened.exchange (e := .forwarded event.type) ready rfl
  have kept : (if correlates event.type then { s.progress with pendingOfferId := none }
      else s.progress).rtcCloseRequested = s.progress.rtcCloseRequested := by
    split <;> rfl
  simp only [forward]
  split
  · split
    next closed =>
      refine cleanup_shape _ _ ?_
      simpa [closed, Effect.requestsClose] using next
    next other =>
      rw [stage]
      refine .selecting ?_ (List.mem_cons_of_mem _ ready)
      rw [kept]
      rw [Effect.requestsClose, beq_eq_false_iff_ne.mpr other, Bool.false_or] at next
      exact next
  · refine cleanup_shape _ _ ?_
    rw [kept]
    exact opened

theorem step_shape (shape : Shape o s.stage s.progress.rtcCloseRequested s.log)
    (taken : s.step o l = some t) :
    Shape o t.stage t.progress.rtcCloseRequested t.log := by
  obtain ⟨stage, ⟨pending, generated, requested⟩, log⟩ := s
  dsimp only [step] at shape taken
  split at taken
  -- Setup: the flag is still unset.
  case h_1 =>
    cases taken
    cases shape with
    | creating => exact .setup (.inl rfl) body_created
    | setup early => simp at early
  case h_2 =>
    cases taken
    cases shape with
    | creating => exact .failed false
    | setup early => simp at early
  case h_3 =>
    cases taken
    cases shape with
    | setup early opened => exact cleanup_shape _ _ opened
  case h_4 =>
    cases taken
    cases shape with
    | setup early opened =>
      -- With a hook it is called, without one the gateway is ready to greet.
      refine .setup ?_ opened
      dsimp only
      split
      · exact .inr (.inl rfl)
      · exact .inr (.inr rfl)
  case h_5 =>
    cases taken
    cases shape with
    | setup early opened => exact .setup (.inr (.inr rfl)) opened
  case h_6 =>
    cases taken
    cases shape with
    | setup early opened => exact cleanup_shape _ _ opened
  case h_7 =>
    cases taken
    cases shape with
    | setup early opened => exact .selecting opened.ready List.mem_cons_self
  case h_8 =>
    cases taken
    cases shape with
    | setup early opened => exact cleanup_shape _ _ opened
  -- The select loop.
  case h_9 =>
    cases taken
    cases shape with
    | setup early => simp at early
    | selecting opened ready => exact cleanup_shape _ _ opened
  case h_10 =>
    cases taken
    exact shape
  case h_11 =>
    split at taken
    · cases taken
    · cases taken
      cases shape with
      | setup early => simp at early
      | selecting opened ready => exact message_shape opened ready rfl
  case h_12 =>
    cases taken
    cases shape with
    | setup early => simp at early
    | selecting opened ready => exact cleanup_shape _ _ opened
  case h_13 =>
    cases taken
    cases shape with
    | setup early => simp at early
    | selecting opened ready => exact forward_shape opened ready rfl
  case h_14 =>
    cases taken
    cases shape with
    | setup early => simp at early
    | selecting opened ready => exact cleanup_shape _ _ opened
  -- The cleanup.
  case h_15 =>
    cases taken
    cases shape with
    | setup early => simp at early
    | closingRtc requested reason farewell opened =>
      exact .closing _ _ _ (.issued _ opened)
  case h_16 =>
    cases shape with
    | setup early => simp at early
    | closing requested reason farewell issued =>
      split at taken
      -- The application is told, if it wants to be.
      next hook =>
        cases taken
        exact .notifying _ _ _ hook issued
      next bare =>
        cases taken
        exact leave_shape _ (.bare (by simpa using bare) issued)
  case h_17 =>
    cases taken
    cases shape with
    | setup early => simp at early
    | notifying requested reason farewell hook issued =>
      exact leave_shape _ (.hooked _ hook issued)
  case h_18 =>
    cases taken
    cases shape with
    | setup early => simp at early
    | farewell requested frame done => exact .returned _ done
  case h_19 => cases taken

theorem shape (reached : (serving o).Reaches always s) :
    Shape o s.stage s.progress.rtcCloseRequested s.log :=
  System.Reaches.preserves (P := fun s => Shape o s.stage s.progress.rtcCloseRequested s.log)
    .creating (fun _ _ _ kept _ taken => step_shape kept taken) reached

/-- What the log says of a task, with the number of times the cleanup has begun, closed the
session and called the hook. -/
structure Tallied (log : List Effect) (begun closed notified : Nat) : Prop where
  cleanup : log.count .cleanup = begun
  closed : log.count .closed = closed
  notified : log.countP Effect.isNotified = notified
  issued : log.countP Effect.isCloseRtc ≤ 1
  close_rtc : .cleanup ∈ log →
    (log.countP Effect.isCloseRtc = 1 ↔
      .handled (some "rtc.close") ∉ log ∧ .forwarded "rtc.session.closed" ∉ log)
  notified_last : Preceded (fun e earlier => e.isNotified → .closed ∈ earlier) log
  between : Preceded (fun e earlier => e.exchanges → .ready ∈ earlier ∧ .cleanup ∉ earlier) log

theorem any_requestsClose (log : List Effect) : log.any Effect.requestsClose = true ↔
    .handled (some "rtc.close") ∈ log ∨ .forwarded "rtc.session.closed" ∈ log := by
  induction log with
  | nil => simp
  | cons e earlier ih =>
    rw [List.any_cons, Bool.or_eq_true, ih]
    cases e with
    | handled type => simp [Effect.requestsClose, or_assoc, @eq_comm _ type]
    | forwarded type => simp [Effect.requestsClose, or_left_comm, @eq_comm _ type]
    | _ => simp [Effect.requestsClose]

theorem Body.absent {requested : Bool} {body : List Effect} (opened : Body requested body)
    {e : Effect} (cleans : e.cleans = true) : e ∉ body := by
  intro member
  rw [opened.quiet e member] at cleans
  cases cleans

theorem Body.none_of {requested : Bool} {body : List Effect} (opened : Body requested body)
    {p : Effect → Bool} (parts : ∀ e, p e = true → e.cleans = true) : body.countP p = 0 := by
  rw [List.countP_eq_zero]
  intro e member found
  exact opened.absent (parts e found) member

theorem closeRtc_cleans (e : Effect) (found : e.isCloseRtc = true) : e.cleans = true := by
  cases e <;> first | rfl | cases found

theorem notified_cleans (e : Effect) (found : e.isNotified = true) : e.cleans = true := by
  cases e <;> first | rfl | cases found

theorem Body.tallied {requested : Bool} {body : List Effect} (opened : Body requested body) :
    Tallied body 0 0 0 := by
  constructor
  · exact List.count_eq_zero.mpr (opened.absent rfl)
  · exact List.count_eq_zero.mpr (opened.absent rfl)
  · exact opened.none_of notified_cleans
  · rw [opened.none_of closeRtc_cleans]
    exact Nat.zero_le 1
  · intro begun
    exact absurd begun (opened.absent rfl)
  · refine preceded_of_forall fun e member found => ?_
    exact opened.absent (notified_cleans e found) member
  · exact opened.between

/-- The decision about `close_rtc` is right. -/
theorem Issued.tallied {log : List Effect} (issued : Issued log) : Tallied log 1 0 0 := by
  cases issued with
  | asked opened =>
    have before := opened.tallied
    have asked := (any_requestsClose _).mp opened.requests.symm
    have none_issued := opened.none_of closeRtc_cleans
    constructor
    · simp [before.cleanup]
    · simp [before.closed]
    · simp [before.notified, Effect.isNotified]
    · simp [none_issued, Effect.isCloseRtc]
    · intro _
      simp [none_issued, Effect.isCloseRtc]
      tauto
    · exact ⟨fun found => (by cases found), before.notified_last⟩
    · exact ⟨fun found => (by cases found), before.between⟩
  | issued reason opened =>
    have before := opened.tallied
    have unasked := mt (any_requestsClose _).mpr (ne_true_of_eq_false opened.requests.symm)
    have none_issued := opened.none_of closeRtc_cleans
    constructor
    · simp [before.cleanup]
    · simp [before.closed]
    · simp [before.notified, Effect.isNotified]
    · simp [List.countP_cons, none_issued, Effect.isCloseRtc]
    · intro _
      simp [List.countP_cons, none_issued, Effect.isCloseRtc]
      tauto
    · exact ⟨fun found => (by cases found), fun found => (by cases found), before.notified_last⟩
    · exact ⟨fun found => (by cases found), fun found => (by cases found), before.between⟩

theorem Tallied.close {log : List Effect} {begun notified : Nat}
    (before : Tallied log begun 0 notified) : Tallied (.closed :: log) begun 1 notified := by
  constructor
  · simp [before.cleanup]
  · simp [before.closed]
  · simp [before.notified, Effect.isNotified]
  · simpa [Effect.isCloseRtc] using before.issued
  · simpa [Effect.isCloseRtc] using before.close_rtc
  · exact ⟨fun found => (by cases found), before.notified_last⟩
  · exact ⟨fun found => (by cases found), before.between⟩

theorem Tallied.notify {log : List Effect} {begun : Nat} (reason : String)
    (before : Tallied log begun 1 0) : Tallied (.notified reason :: log) begun 1 1 := by
  have closed : .closed ∈ log := by
    rw [← List.count_pos_iff, before.closed]
    exact Nat.one_pos
  constructor
  · simp [before.cleanup]
  · simp [before.closed]
  · simp [List.countP_cons, before.notified, Effect.isNotified]
  · simpa [Effect.isCloseRtc] using before.issued
  · simpa [Effect.isCloseRtc] using before.close_rtc
  · exact ⟨fun _ => closed, before.notified_last⟩
  · exact ⟨fun found => (by cases found), before.between⟩

theorem Done.tallied {log : List Effect} (done : Done o log) :
    Tallied log 1 1 (if o.onSessionClosed then 1 else 0) := by
  cases done with
  | hooked reason hook issued =>
    rw [if_pos hook]
    exact issued.tallied.close.notify reason
  | bare none issued =>
    simp only [none, Bool.false_eq_true, if_false]
    exact issued.tallied.close

/-- The tallies of a task that has come so far. -/
theorem Shape.tallied {stage : Stage} {requested : Bool} {log : List Effect}
    (shape : Shape o stage requested log) :
    ∃ begun closed notified, Tallied log begun closed notified ∧
      (begun ≤ 1 ∧ closed ≤ 1 ∧ notified ≤ 1) ∧
      (stage = .returned → .created ∈ log →
        begun = 1 ∧ closed = 1 ∧ notified = if o.onSessionClosed then 1 else 0) := by
  cases shape with
  | creating =>
    refine ⟨0, 0, 0, ?_, by simp, by simp⟩
    constructor <;> simp
  | failed requested =>
    refine ⟨0, 0, 0, ?_, by simp, by simp⟩
    constructor <;> simp
  | setup early opened =>
    refine ⟨0, 0, 0, opened.tallied, by simp, ?_⟩
    intro gone
    simp [gone] at early
  | selecting opened ready => exact ⟨0, 0, 0, opened.tallied, by simp, by simp⟩
  | closingRtc requested reason farewell opened =>
    exact ⟨1, 0, 0, (Issued.issued reason opened).tallied, by simp, by simp⟩
  | closing requested reason farewell issued =>
    exact ⟨1, 1, 0, issued.tallied.close, by simp, by simp⟩
  | notifying requested reason farewell hook issued =>
    exact ⟨1, 1, 1, issued.tallied.close.notify reason, by simp, by simp⟩
  | farewell requested frame done => exact ⟨1, 1, _, done.tallied, by split <;> simp, by simp⟩
  | returned requested done => exact ⟨1, 1, _, done.tallied, by split <;> simp, by simp⟩

/-- A serve task cleans up the session it has created, once, with `close_rtc` where nobody
has asked for it, and exchanges messages only between `gateway.ready` and the cleanup. -/
theorem serve_disciplined (reached : (serving o).Reaches always s) : s.Disciplined o := by
  obtain ⟨begun, closed, notified, tallied, once, gone⟩ := (shape reached).tallied
  constructor
  · rw [tallied.cleanup, tallied.closed, tallied.notified]
    exact ⟨once.1, tallied.issued, once.2⟩
  · rw [tallied.cleanup, tallied.closed, tallied.notified]
    exact gone
  · exact tallied.notified_last
  · exact tallied.close_rtc
  · exact tallied.between

section Run

/-- A session whose browser closes it, after Vox has sent one event. -/
def closingRun : List Input :=
  [.create true, .borrow none, .hook true, .ready true, .event ⟨"rtc.answer", []⟩ true,
    .frame (.text (some (browserFrame "a" "rtc.close" []))) .done true, .disconnect,
    .close true, .closedHook true]

theorem serve_disciplined_run :
    ∃ s, (serving ⟨true, true⟩).run (serving ⟨true, true⟩).init closingRun = some s ∧
      s.stage = .returned ∧ s.log.head? = some (.notified "browser_disconnected") ∧
      s.Disciplined ⟨true, true⟩ := by
  refine ⟨_, rfl, rfl, rfl, ?_⟩
  exact serve_disciplined (System.reaches_of_run (M := serving ⟨true, true⟩) closingRun rfl)

end Run

section Refinement

/-- Where the stages stand among the awaits of a `serve` future. -/
inductive Stands : Stage → Serve → Prop
  | creating : Stands .creating .creating
  | checking : Stands .checking .created
  | hook (seen : Nat) : Stands .hook (.hook seen)
  | greeting (seen : Nat) : Stands .greeting (.ready seen)
  | selecting (seen : Nat) : Stands .selecting (.selecting seen)
  | closingRtc (reason text : String) (farewell : Option CloseFrame) :
      Stands (.closingRtc reason farewell) (.cleanup text)
  | closing (reason text : String) (farewell : Option CloseFrame) :
      Stands (.closing reason farewell) (.cleanup text)
  | notifying (text : String) (farewell : Option CloseFrame) :
      Stands (.notifying farewell) (.cleanup text)
  | farewell (text : String) (frame : CloseFrame) : Stands (.farewell frame) (.cleanup text)
  | returned : Stands .returned .leaving

/-- A move of a `serve` future in some state of the gateway. -/
def Goes (p q : Serve) : Prop := ∃ g l, p.next g l = some q

theorem goes {g : GatewayState} (l : ServeStep) {p q : Serve} (moved : p.next g l = some q) :
    Relation.ReflTransGen Goes p q :=
  .single ⟨g, l, moved⟩

/-- The futures of this stage that one in `p` can get to. -/
def Meets (stage : Stage) (p : Serve) : Prop :=
  ∃ q, Stands stage q ∧ Relation.ReflTransGen Goes p q

theorem meets_cleanup {p : Serve} {text : String} (s : ServeTask) (reason : String)
    (farewell : Option CloseFrame) (path : Relation.ReflTransGen Goes p (.cleanup text)) :
    Meets (s.cleanup reason farewell).stage p := by
  refine ⟨_, ?_, path⟩
  unfold cleanup
  split
  · exact .closing _ _ _
  · exact .closingRtc _ _ _

theorem meets_leave (s : ServeTask) (text : String) (farewell : Option CloseFrame) :
    Meets (s.leave farewell).stage (.cleanup text) := by
  cases farewell with
  | none => exact ⟨_, .returned, goes (g := .initial) .cleaned rfl⟩
  | some frame => exact ⟨_, .farewell text frame, .refl⟩

theorem meets_exit (s : ServeTask) (reason : String) (seen : Nat) (farewell : Option CloseFrame) :
    Meets (s.cleanup reason farewell).stage (.selecting seen) :=
  meets_cleanup s reason farewell (goes (g := .initial) (.exit reason) rfl)

/-- Each step is a path of the futures that the shutdown of the gateway is about. -/
theorem step_serve {p : Serve} (stands : Stands s.stage p) (taken : s.step o l = some t) :
    Meets t.stage p := by
  obtain ⟨stage, progress, log⟩ := s
  dsimp only [step] at stands taken
  split at taken
  case h_1 =>
    cases taken
    cases stands
    exact ⟨_, .checking, goes (g := .initial) .createOk rfl⟩
  case h_2 =>
    cases taken
    cases stands
    exact ⟨_, .returned, goes (g := .initial) .createErr rfl⟩
  case h_3 reason =>
    cases taken
    cases stands
    -- The shutdown was there before the task subscribed.
    have told := goes (g := { GatewayState.initial with shutdown := some reason }) .borrow
      (p := .subscribed 0) rfl
    exact meets_cleanup _ _ _ (.trans (goes (g := .initial) .subscribe rfl) told)
  case h_4 =>
    cases taken
    cases stands
    -- It was not, and the task listens to it from now on.
    have untold : Relation.ReflTransGen Goes .created (.hook 0) :=
      .trans (goes (g := .initial) .subscribe rfl) (goes (g := .initial) .borrow rfl)
    dsimp only
    split
    · exact ⟨_, .hook 0, untold⟩
    · exact ⟨_, .greeting 0, untold.trans (goes (g := .initial) .hookOk rfl)⟩
  case h_5 =>
    cases taken
    cases stands
    exact ⟨_, .greeting _, goes (g := .initial) .hookOk rfl⟩
  case h_6 =>
    cases taken
    cases stands
    exact meets_cleanup _ _ _ (goes (g := .initial) .hookErr rfl)
  case h_7 =>
    cases taken
    cases stands
    exact ⟨_, .selecting _, goes (g := .initial) .readyOk rfl⟩
  case h_8 =>
    cases taken
    cases stands
    exact meets_cleanup _ _ _ (goes (g := .initial) .readyErr rfl)
  case h_10 =>
    cases taken
    exact ⟨p, stands, .refl⟩
  case h_11 =>
    split at taken
    · cases taken
    · cases taken
      cases stands
      simp only [message]
      split
      · exact meets_exit _ _ _ _
      · exact ⟨_, .selecting _, .refl⟩
  case h_13 =>
    cases taken
    cases stands
    simp only [forward]
    split
    · split
      · exact meets_exit _ _ _ _
      · exact ⟨_, .selecting _, .refl⟩
    · exact meets_exit _ _ _ _
  case h_15 =>
    cases taken
    cases stands
    exact ⟨_, .closing _ _ _, .refl⟩
  case h_16 =>
    cases stands
    split at taken
    · cases taken
      exact ⟨_, .notifying _ _, .refl⟩
    · cases taken
      exact meets_leave _ _ _
  case h_17 =>
    cases taken
    cases stands
    exact meets_leave _ _ _
  case h_18 =>
    cases taken
    cases stands
    exact ⟨_, .returned, goes (g := .initial) .cleaned rfl⟩
  case h_19 => cases taken
  -- Whatever else ends the loop.
  all_goals
    cases taken
    cases stands
    exact meets_exit _ _ _ _

theorem stands_for_future (reached : (serving o).Reaches always s) : Meets s.stage .creating := by
  refine System.Reaches.preserves (P := fun s => Meets s.stage .creating) ?_ ?_ reached
  · exact ⟨_, .creating, .refl⟩
  · intro a l b met _ taken
    obtain ⟨p, stands, path⟩ := met
    obtain ⟨q, stands', onward⟩ := step_serve stands taken
    exact ⟨q, stands', path.trans onward⟩

end Refinement

end ServeTask

end VoxRtc.Rust.Gateway
