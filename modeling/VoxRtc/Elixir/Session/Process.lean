import VoxRtc.Elixir.Protocol
import VoxRtc.Correlation.Broadcast
import VoxRtc.Correlation.Desk

/-!
# The Elixir session process

`VoxRtcServer.Session`: a process that owns one control stream. A step is one message it
handles; in which order messages come is left open, and a timer's message may wait in the
mailbox. The transport says of each send whether it succeeds.
-/
namespace VoxRtc.Elixir

open Wire Responses Transition

/-- A map of Elixir. -/
abbrev Map (κ α : Type) := AList fun _ : κ => α

/-- `Map.get/2`. -/
def Map.get {κ α : Type} [DecidableEq κ] (map : Map κ α) (key : κ) : Option α := map.lookup key

/-- `VoxRtcServer.ResponseOutput`; the parameters are a map. -/
structure ResponseOutput where
  model : String
  voice : Option String
  language : String
  speed : Finite64
  params : List (Key × Term)

/-- `ResponseOutput.decode/1`; `none` where it raises. -/
def ResponseOutput.decode (lib : Libraries) (output : Option Vox.ConversationResponseOutput) :
    Option (Option ResponseOutput) :=
  match output with
  | some ⟨some model, voice, some language, some (.finite speed), some params⟩ =>
    if model ≠ "" ∧ language ≠ "" ∧ 0 < speed.scaled then
      (lib.toMap params).map fun params => some ⟨model, voice, language, speed, params⟩
    else some none
  | _ => some none

structure StartAck where
  responseId : Option String
  generationId : String
  output : Option ResponseOutput

inductive Reply where
  | ok
  | sessionId (id : String)
  | ack (ack : StartAck)
  /-- `{:error, %ErrorEvent{}}`. -/
  | rejected (error : ErrorEvent)
  | error (reason : Term)

/-- A timer of `start_response_and_wait`; its message has the generation id only. -/
abbrev Timer := Correlation.Alarm String

/-- The caller of `start_response_and_wait`, and its timer. -/
abbrev Waiter := Correlation.Ticket

/-- What the session has sent or received, for the record; the code does not keep it. -/
inductive Entry where
  /-- A response command, with the id its caller gave. -/
  | command (given : Option String) (message : ClientMessage)
  | event (event : Event)

/-- A caller of `start_response_and_wait` whose start has been sent. -/
abbrev Accepted := Correlation.Visit String

structure Session where
  sessionId : String
  ownerMonitor : Nat
  attached : Bool := false
  closing : Bool := false
  closedEmitted : Bool := false
  terminalError : Term := .nil
  attachWaiters : List Nat := []
  responseGenerationId : Option String := none
  responseWaiters : Map String Waiter := ∅
  /-- The monitors of the subscribers, and the subscribers of the monitors. -/
  subscribers : Map Nat Nat := ∅
  subscriberMonitors : Map Nat Nat := ∅
  running : Bool := true
  /-- Timers that have neither fired nor been cancelled, and their messages that wait. -/
  timers : List Timer := []
  mailbox : List Timer := []
  /-- How many calls, and how many references, there have been. -/
  calls : Nat := 0
  references : Nat
  replies : List (Nat × Reply) := []
  /-- Every event that was broadcast, with those who were subscribed. -/
  events : Correlation.Broadcasts Event Nat := []
  log : List Entry := []
  accepted : List Accepted := []
  /-- The callers of `await_attached`. -/
  attachers : List Nat := []

inductive Request where
  | sessionId
  | awaitAttached
  | subscribe (subscriber : Nat)
  | unsubscribe (subscriber : Nat)
  | responseCommand (command : Command) (options : Options)
  | startResponseAndWait (options : Options)
  | send
  | close (reason : String)

inductive Message where
  /-- A call, whether a send succeeds in it, and the id it generates. -/
  | call (request : Request) (sent : Bool) (generated : GeneratedId)
  | stream (message : Vox.RtcControlServerMessage)
  | streamError (reason : Term)
  | streamDone
  | timeout (timer : Timer)
  /-- The process behind a monitor is down. -/
  | down (monitor : Nat)
  | receiverExit (reason : Term)
  /-- The parent of the process exits. -/
  | exit
  /-- A timer fires; this is no message that is handled. -/
  | fires (timer : Timer)

namespace Session

def reply (s : Session) (caller : Nat) (reply : Reply) : Session :=
  { s with replies := s.replies ++ [(caller, reply)] }

def broadcast (s : Session) (event : Event) : Session :=
  { s with events := s.events ++ [(event, s.subscribers.keys)] }

def cancelTimer (s : Session) (timer : Nat) : Session :=
  { s with timers := s.timers.filter (·.ref ≠ timer) }

def sessionFailed (message generationId : String) : ErrorEvent where
  message := message
  code := some "session_failed"
  recoverable := false
  generationId := some generationId

def rejectResponseWaiters (s : Session) (message : String) : Session :=
  { s with
    timers := s.timers.filter fun timer => s.responseWaiters.entries.all (·.2.timer ≠ timer.ref)
    replies := s.replies ++ s.responseWaiters.entries.map fun waiter =>
      (waiter.2.caller, .rejected (sessionFailed message waiter.1))
    responseWaiters := ∅ }

def emitClosedOnce (s : Session) (reason : String) : Session :=
  if s.closedEmitted then s else { s with closedEmitted := true }.broadcast (.closed reason)

def replyAttachWaiters (s : Session) (reply : Reply) : Session :=
  { s with replies := s.replies ++ s.attachWaiters.map fun caller => (caller, reply) }

/-- `terminate/2`. -/
def terminate (s : Session) : Session :=
  { s.rejectResponseWaiters "RTC session terminated before acknowledgement" with running := false }

/-- The end of a handler that the stream has ended for. -/
def ends (s : Session) (reason : Term) : Session :=
  if s.attached then { s with attachWaiters := [] }.terminate
  -- A session that was never attached stays, to tell those who still ask.
  else { s with attachWaiters := [], terminalError := reason }

def closeTransport (s : Session) (reason : String) : Session :=
  { s.rejectResponseWaiters "RTC session closed before acknowledgement" with
    closing := true }.emitClosedOnce reason

def stopForStreamError (s : Session) (lib : Libraries) (reason : Term) : Session :=
  let inspected := lib.inspect reason
  let s := (s.rejectResponseWaiters s!"RTC control stream failed: {inspected}").broadcast
    (.failed reason)
  (({ s with closing := true }.emitClosedOnce "transport_error").replyAttachWaiters
    (.error reason)).ends reason

/-- A monitor is set up. -/
def addSubscriber (s : Session) (subscriber : Nat) : Session :=
  if (s.subscribers.get subscriber).isSome then s
  else { s with
    references := s.references + 1
    subscribers := s.subscribers.insert subscriber s.references
    subscriberMonitors := s.subscriberMonitors.insert s.references subscriber }

def removeSubscriber (s : Session) (subscriber : Nat) : Session :=
  match s.subscribers.get subscriber with
  | none => s
  | some monitor => { s with
    subscribers := s.subscribers.erase subscriber
    subscriberMonitors := s.subscriberMonitors.erase monitor }

/-- The options of a start, and the state after it. -/
def ensureGeneration (s : Session) (options : Options) (generated : GeneratedId) :
    Options × Session :=
  match options.generationId with
  | some id =>
    if id ≠ "" then (options, { s with responseGenerationId := some id })
    -- An empty id counts as none.
    else ({ options with generationId := some generated.text },
      { s with responseGenerationId := some generated.text })
  | none => ({ options with generationId := some generated.text },
      { s with responseGenerationId := some generated.text })

def currentGeneration (s : Session) (options : Options) : Options :=
  match options.generationId with
  | none => { options with generationId := s.responseGenerationId }
  | some _ => options

def buildResponseCommand (s : Session) (command : Command) (options : Options)
    (generated : GeneratedId) : ClientMessage × Session :=
  match command with
  | .start =>
    let (options, s) := s.ensureGeneration options generated
    (Protocol.responseStart options, s)
  | .delta text => (Protocol.responseDelta text (s.currentGeneration options), s)
  | .commit => (Protocol.responseCommit (s.currentGeneration options), s)
  | .cancel =>
    let options := s.currentGeneration options
    (Protocol.responseCancel options,
      -- Only a cancel of the current generation gives it up.
      if options.generationId = none ∨ options.generationId = s.responseGenerationId then
        { s with responseGenerationId := none }
      else s)
  | .replaceText text =>
    (Protocol.responseReplaceText text options, { s with responseGenerationId := none })

def sessionClosed : Reply := .error (.atom "session_closed")

def sendFailed : Reply := .error (.atom "send_failed")

def responseCommand (s : Session) (caller : Nat) (command : Command) (options : Options)
    (sent : Bool) (generated : GeneratedId) : Session :=
  if s.closing then s.reply caller sessionClosed
  else
    let (message, next) := s.buildResponseCommand command options generated
    if sent then
      { next with log := s.log ++ [Entry.command options.generationId message] }.reply caller .ok
    else s.reply caller sendFailed

def alreadyAwaiting (generationId : String) : ErrorEvent where
  message := "A response start is already awaiting this generation"
  code := some "command_invalid"
  recoverable := true
  generationId := some generationId

def startResponseAndWait (s : Session) (caller : Nat) (options : Options) (sent : Bool)
    (generated : GeneratedId) : Session :=
  if s.closing then s.reply caller sessionClosed
  else
    let (started, next) := s.ensureGeneration options generated
    let generationId := started.generationId.getD ""
    if (s.responseWaiters.get generationId).isSome then
      s.reply caller (.rejected (alreadyAwaiting generationId))
    else if sent then
      { next with
        log := s.log ++ [Entry.command options.generationId (Protocol.responseStart started)]
        -- The reference is that of the new timer.
        references := s.references + 1
        timers := s.timers ++ [⟨s.references, generationId⟩]
        responseWaiters := s.responseWaiters.insert generationId ⟨caller, s.references⟩
        accepted := s.accepted ++ [⟨caller, generationId, s.references⟩] }
    else s.reply caller sendFailed

def awaitAttached (s : Session) (caller : Nat) : Session :=
  let s := { s with attachers := s.attachers ++ [caller] }
  if s.attached then s.reply caller .ok
  else if s.terminalError.isNil then { s with attachWaiters := caller :: s.attachWaiters }
  -- The stream has ended before the session was attached.
  else s.reply caller (.error s.terminalError)

def handleCall (s : Session) (caller : Nat) (sent : Bool) (generated : GeneratedId) :
    Request → Session
  | .sessionId => s.reply caller (.sessionId s.sessionId)
  | .awaitAttached => s.awaitAttached caller
  | .subscribe subscriber => (s.addSubscriber subscriber).reply caller .ok
  | .unsubscribe subscriber => (s.removeSubscriber subscriber).reply caller .ok
  | .responseCommand command options => s.responseCommand caller command options sent generated
  | .startResponseAndWait options => s.startResponseAndWait caller options sent generated
  | .send => s.reply caller (if s.closing then sessionClosed else if sent then .ok else sendFailed)
  | .close reason =>
    if s.closing then s.reply caller .ok
    -- The handler returns `:stop`, so that the process terminates.
    else ((s.closeTransport reason).reply caller .ok).terminate

/-- The waiter of a generation is answered, and its timer cancelled. -/
def replyResponseWaiter (s : Session) (generationId : Option String) (reply : Reply) : Session :=
  match generationId with
  | none => s
  | some id =>
    -- Nobody waits under the empty id.
    if id = "" then s
    else match s.responseWaiters.get id with
      | none => s
      | some waiter => ({ s with responseWaiters := s.responseWaiters.erase id }.cancelTimer
          waiter.timer).reply waiter.caller reply

/-- `none` where the output cannot be decoded. -/
def resolveResponseWaiter (s : Session) (lib : Libraries) : Event → Option Session
  | .responseCreated payload => (ResponseOutput.decode lib payload.output).map fun output =>
    s.replyResponseWaiter (some payload.generationId)
      (.ack ⟨Protocol.emptyToNil payload.responseId, payload.generationId, output⟩)
  | .error error => some (s.replyResponseWaiter error.generationId (.rejected error))
  | _ => some s

/-- The generation that an event ends, if it bears one. -/
def finishes : Event → Option String
  | .responseDone payload => some payload.generationId
  | .responseCancelled payload => some payload.generationId
  | .error error => error.generationId
  | _ => none

def trackResponseCompletion (s : Session) (event : Event) : Session :=
  if s.responseGenerationId ≠ none ∧ finishes event = s.responseGenerationId then
    { s with responseGenerationId := none }
  else s

def record (s : Session) (event : Event) : Session := { s with log := s.log ++ [.event event] }

def attach (s : Session) : Session := { s with attached := true, attachWaiters := [] }

def markClosed (s : Session) : Session := { s with closedEmitted := true, closing := true }

/-- The server has closed the session. -/
def handleClosed (s : Session) (reason : String) : Session :=
  let error := Term.tuple [.atom "closed", .text reason]
  let s := (s.rejectResponseWaiters
    "Session closed before Vox acknowledged the response").markClosed.broadcast (.closed reason)
  (s.replyAttachWaiters (.error error)).ends error

/-- `handle_info` for a decoded event; `none` where it raises. -/
def handleEvent (s : Session) (lib : Libraries) (event : Event) : Option Session :=
  let s := s.record event
  match event with
  | .sessionAttached payload =>
    if payload.sessionId = s.sessionId then
      some ((s.replyAttachWaiters .ok).attach.broadcast event)
    else some (s.stopForStreamError lib
      (.tuple [.atom "session_id_mismatch", .text payload.sessionId]))
  | .closed reason => some (s.handleClosed reason)
  | event => (s.resolveResponseWaiter lib event).map fun resolved =>
    (trackResponseCompletion resolved event).broadcast event

def handleStream (s : Session) (lib : Libraries) (message : Vox.RtcControlServerMessage) :
    Option Session :=
  (Protocol.decodeEvent lib message).bind fun decoded => match decoded with
    | .ok event => s.handleEvent lib event
    | .error reason => some (s.broadcast (.failed reason))

def handleStreamDone (s : Session) : Session :=
  let reason := if s.closing then "client_closed" else "transport_closed"
  (((s.rejectResponseWaiters "RTC control stream closed before acknowledgement").emitClosedOnce
    reason).replyAttachWaiters (.error (.atom "stream_closed"))).ends (.atom "stream_closed")

def startAckTimeout (generationId : String) : ErrorEvent where
  message := "Timed out waiting for response.created acknowledgement"
  code := some "start_ack_timeout"
  recoverable := true
  generationId := some generationId

def handleTimeout (s : Session) (timer : Timer) : Session :=
  let s := { s with mailbox := s.mailbox.erase timer }
  match s.responseWaiters.get timer.key with
  -- Whoever waited has been answered meanwhile.
  | none => s
  -- Nothing compares the timer with that of the waiter.
  | some waiter =>
    { s with responseWaiters := s.responseWaiters.erase timer.key }.reply waiter.caller
      (.rejected (startAckTimeout timer.key))

def handleDown (s : Session) (monitor : Nat) : Session :=
  if monitor = s.ownerMonitor then (s.closeTransport "owner_closed").terminate
  else match s.subscriberMonitors.get monitor with
    | none => s
    | some subscriber => { s with
      subscribers := s.subscribers.erase subscriber
      subscriberMonitors := s.subscriberMonitors.erase monitor }

def handleReceiverExit (s : Session) (lib : Libraries) : Term → Session
  | .atom "normal" => s
  | reason => s.stopForStreamError lib (.tuple [.atom "receiver_exit", reason])

/-- The process handles a message; where a handler raises, it terminates. -/
def handle (s : Session) (lib : Libraries) : Message → Option Session
  | .call request sent generated =>
    some ({ s with calls := s.calls + 1 }.handleCall s.calls sent generated request)
  | .stream message => some ((s.handleStream lib message).getD s.terminate)
  | .streamError reason => some (s.stopForStreamError lib reason)
  | .streamDone => some s.handleStreamDone
  | .timeout timer => if timer ∈ s.mailbox then some (s.handleTimeout timer) else none
  | .down monitor => some (s.handleDown monitor)
  | .receiverExit reason => some (s.handleReceiverExit lib reason)
  | .exit => some s.terminate
  | .fires timer =>
    if timer ∈ s.timers then
      some { s with timers := s.timers.erase timer, mailbox := s.mailbox ++ [timer] }
    else none

def step (lib : Libraries) (s : Session) (message : Message) : Option Session :=
  if s.running then s.handle lib message else none

/-- The session after `init/1`: the owner is monitored, and the subscriber added. -/
def initial (sessionId : String) (subscriber : Option Nat) : Session :=
  let s : Session := { sessionId := sessionId, ownerMonitor := 0, references := 1 }
  match subscriber with
  | none => s
  | some subscriber => s.addSubscriber subscriber

/-! ## What a step is -/

variable {lib : Libraries} {s t : Session}

/-- What handling a message makes of a session. -/
inductive Handled (lib : Libraries) (s : Session) : Message → Session → Prop
  | call (request : Request) (sent : Bool) (generated : GeneratedId) :
      Handled lib s (.call request sent generated)
        ({ s with calls := s.calls + 1 }.handleCall s.calls sent generated request)
  | stream {message : Vox.RtcControlServerMessage} {t : Session}
      (handled : s.handleStream lib message = some t) : Handled lib s (.stream message) t
  | raises {message : Vox.RtcControlServerMessage} (failed : s.handleStream lib message = none) :
      Handled lib s (.stream message) s.terminate
  | streamError (reason : Term) :
      Handled lib s (.streamError reason) (s.stopForStreamError lib reason)
  | streamDone : Handled lib s .streamDone s.handleStreamDone
  | timeout {timer : Timer} (waits : timer ∈ s.mailbox) :
      Handled lib s (.timeout timer) (s.handleTimeout timer)
  | down (monitor : Nat) : Handled lib s (.down monitor) (s.handleDown monitor)
  | receiverExit (reason : Term) :
      Handled lib s (.receiverExit reason) (s.handleReceiverExit lib reason)
  | exit : Handled lib s .exit s.terminate
  | fires {timer : Timer} (set : timer ∈ s.timers) : Handled lib s (.fires timer)
      { s with timers := s.timers.erase timer, mailbox := s.mailbox ++ [timer] }

theorem step_handled {message : Message} (taken : s.step lib message = some t) :
    s.running = true ∧ Handled lib s message t := by
  simp only [step, Option.ite_none_right_eq_some] at taken
  obtain ⟨running, taken⟩ := taken
  refine ⟨running, ?_⟩
  cases message with
  -- Only a frame of the stream can make its handler raise.
  | stream message =>
    cases handled : s.handleStream lib message with
    | none =>
      simp only [handle, handled] at taken
      cases taken
      exact .raises handled
    | some after =>
      simp only [handle, handled] at taken
      cases taken
      exact .stream handled
  -- A message can be handled while it is in the mailbox, a timer can fire while it is set.
  | timeout timer =>
    simp only [handle, Option.ite_none_right_eq_some, Option.some.injEq] at taken
    obtain ⟨waits, rfl⟩ := taken
    exact .timeout waits
  | fires timer =>
    simp only [handle, Option.ite_none_right_eq_some, Option.some.injEq] at taken
    obtain ⟨set, rfl⟩ := taken
    exact .fires set
  | _ =>
    cases taken
    constructor

/-- What those who wait and those who subscribe have nothing to do with. -/
def core (s : Session) : (List Entry × Option String) ×
    Correlation.Broadcasts Event Nat × Bool × Bool × Bool × Term :=
  ((s.log, s.responseGenerationId), s.events, s.closedEmitted, s.attached, s.running,
    s.terminalError)

def Aside (s t : Session) : Prop := t.core = s.core

theorem addSubscriber_aside (subscriber : Nat) : s.Aside (s.addSubscriber subscriber) := by
  unfold addSubscriber
  split <;> rfl

theorem removeSubscriber_aside (subscriber : Nat) :
    s.Aside (s.removeSubscriber subscriber) := by
  unfold removeSubscriber
  split <;> rfl

theorem awaitAttached_aside (caller : Nat) : s.Aside (s.awaitAttached caller) := by
  simp only [awaitAttached]
  split
  · rfl
  · split <;> rfl

theorem replyResponseWaiter_aside (generationId : Option String) (reply : Reply) :
    s.Aside (s.replyResponseWaiter generationId reply) ∧
      (s.replyResponseWaiter generationId reply).subscribers = s.subscribers := by
  cases generationId with
  | none => exact ⟨rfl, rfl⟩
  | some id =>
    simp only [replyResponseWaiter]
    split
    · exact ⟨rfl, rfl⟩
    · split <;> exact ⟨rfl, rfl⟩

theorem resolveResponseWaiter_aside {event : Event}
    (resolved : s.resolveResponseWaiter lib event = some t) :
    s.Aside t ∧ t.subscribers = s.subscribers := by
  cases event with
  | responseCreated payload =>
    obtain ⟨output, -, rfl⟩ := Option.map_eq_some_iff.mp resolved
    exact replyResponseWaiter_aside _ _
  | error error =>
    cases resolved
    exact replyResponseWaiter_aside _ _
  | _ =>
    cases resolved
    exact ⟨rfl, rfl⟩

theorem handleTimeout_aside (timer : Timer) : s.Aside (s.handleTimeout timer) := by
  simp only [handleTimeout]
  split <;> rfl

end Session

def session (lib : Libraries) (sessionId : String) (subscriber : Option Nat) :
    System Session Message where
  init := .initial sessionId subscriber
  step := Session.step lib

end VoxRtc.Elixir
