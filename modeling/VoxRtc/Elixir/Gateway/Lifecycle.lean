import VoxRtc.Elixir.Gateway.Offers
import VoxRtc.Elixir.Session.Ended

/-!
# A socket and its session process

One connection of the Elixir gateway: the socket and the session are processes of their
own, and the events of the session wait in the socket's mailbox. A call is one step, taken
when it ends, as the socket does nothing while it waits: the session has replied, or it is
gone, or it has stopped before it came to the call, or the time is up. Of the exits that
follow, `close/2` alone catches two: those of a process that is gone, and of one that stops
normally.
-/
namespace VoxRtc.Elixir.Gateway

open Transition Correlation Wire VoxRtc.Gateway

/-- How a hook ends; `call_hook/2` rescues an exception, but neither a throw nor an exit. -/
inductive HookResult where
  | ok
  | error
  | exits
  deriving DecidableEq

inductive Phase where
  /-- `init/1` waits for `create_controlled_session`. -/
  | creating
  /-- No session has been created. -/
  | unopened
  | serving
  /-- A callback has stopped the socket, or has crashed; `terminate/2` is to come. -/
  | stopping
  /-- `init/1` has exited. -/
  | lost
  | done
  deriving DecidableEq

/-- How a call on the session ends. -/
inductive Ending where
  /-- The session comes to it, and a send of the session succeeds or not; or it is gone. -/
  | handled (sent : Bool)
  /-- The process stops while the call waits. -/
  | stops
  /-- Five seconds have passed; the session may still come to it. -/
  | expires
  deriving DecidableEq

structure Line where
  phase : Phase := .creating
  socket : Socket
  process : Session
  /-- The process was running when the socket last began to wait for a message. -/
  alive : Bool := true
  /-- The process has stopped, and not with `:normal`. -/
  harsh : Bool := false
  /-- How many of the events the socket has handled. -/
  handled : Nat := 0
  created : Bool := false
  /-- A callback has raised or exited. -/
  crashed : Bool := false
  /-- The reasons of the closes that the socket has asked for, and of its closed hooks. -/
  closes : List String := []
  closedHooks : List String := []
  /-- What became of the commands that came when the session had ended. -/
  late : List (Option Result) := []

inductive Act where
  | process (message : Elixir.Message)
  | created (hook : HookResult) (reported : Bool) (ending : Ending)
  | refused
  | frame (incoming : Incoming) (ending : Ending)
  | event
  | other
  | terminate (reason : Term) (hook : HookResult) (reported : Bool) (ending : Ending)

def request : Call → Request
  | .closeRtc reason => .close reason
  | _ => .send

/-- The session after a call that it has come to. -/
def asked (lib : Libraries) (process : Session) (call : Call) : Ending → Session
  | .handled sent => (process.step lib
    (.call (request call) sent ⟨"generation_1", Responses.GeneratedId.first_proper⟩)).getD process
  | .stops | .expires => process

def answerOf : Reply → Answer
  | .ok => some (.ok ())
  | .error reason => some (.error reason)
  | _ => none

/-- What a call makes of the exit of a process that is gone or has stopped normally: only
`close/2` catches it. -/
def caught : Call → Answer
  | .closeRtc _ => some (.ok ())
  | _ => none

/-- What a call returns; `none` where it exits. -/
def reply (lib : Libraries) (process : Session) (harsh : Bool) (ending : Ending) (call : Call) :
    Answer :=
  match ending with
  | .handled _ =>
    if process.running then
      (asked lib process call ending).replies.getLast?.bind fun reply => answerOf reply.2
    else caught call
  | .stops => if harsh then none else caught call
  | .expires => none

/-- A handler raises, or the parent has the process exit. -/
def stopsHarshly (lib : Libraries) (process : Session) : Elixir.Message → Bool
  | .stream message => (process.handleStream lib message).isNone
  | .exit => true
  | _ => false

/-- The subscriber that a socket is. -/
def subscriber : Nat := 0

namespace Line

def crash (line : Line) : Line := { line with phase := .stopping, crashed := true }

/-- A callback has returned. -/
def returned (line : Line) : Option Result → Line
  | none => line.crash
  | some result =>
    { line with
      socket := result.socket
      phase := if result.stops then .stopping else .serving }

/-- The session is asked to close. -/
def close (line : Line) (lib : Libraries) (reason : String) (ending : Ending) : Line :=
  { line with
    process := asked lib line.process (.closeRtc reason) ending
    closes := line.closes ++ [reason] }

/-- The call of `session_module.close/2` exits. -/
def CloseExits (line : Line) : Ending → Prop
  | .handled _ => False
  | .stops => line.harsh = true
  | .expires => True

instance (line : Line) : (ending : Ending) → Decidable (line.CloseExits ending)
  | .handled _ => isFalse id
  | .stops => inferInstanceAs (Decidable (_ = true))
  | .expires => isTrue trivial

/-- The hook has refused the session: it is reported, and the session closed. -/
def hookFailed (line : Line) (lib : Libraries) (ending : Ending) : Line :=
  if line.CloseExits ending then
    { line.close lib "session_created_hook_failed" ending with phase := .lost }
  else
    { line.close lib "session_created_hook_failed" ending with
      phase := .stopping, socket := { line.socket with closed := true } }

def init (line : Line) (lib : Libraries) (hook : HookResult) (reported : Bool) (ending : Ending) :
    Line :=
  let line := { line with created := true }
  match hook with
  | .ok => { line with phase := .serving }
  -- The report of the error is a hook as well, and may exit.
  | .error => if reported then line.hookFailed lib ending else { line with phase := .lost }
  | .exits => { line with phase := .lost }

/-- A call that a frame asks for is made. -/
def call (line : Line) (lib : Libraries) (ending : Ending) : Option (Message × Call) → Line
  | none => line
  | some (_, .closeRtc reason) => line.close lib reason ending
  | some (_, call) => { line with process := asked lib line.process call ending }

/-- What became of a frame, where it has a command that comes too late. -/
def lateResult (line : Line) (lib : Libraries) (incoming : Incoming) (result : Option Result) :
    List (Option Result) :=
  if line.process.ended ∧ (line.socket.asks lib incoming).isSome then [result] else []

def frame (line : Line) (lib : Libraries) (incoming : Incoming) (ending : Ending) : Line :=
  let result := line.socket.handleIn lib (reply lib line.process line.harsh ending) incoming
  { line.call lib ending (line.socket.asks lib incoming) with
    late := line.late ++ line.lateResult lib incoming result }.returned result

/-- The next event in the mailbox. -/
def next? (line : Line) : Option Event := (line.process.events.delivered subscriber)[line.handled]?

def event (line : Line) (lib : Libraries) (event : Event) : Line :=
  { line with handled := line.handled + 1 }.returned
    (line.socket.handleInfo lib (.voxRtc line.socket.session event))

/-- The closed hook, and the report of its error. -/
def closedHook (line : Line) (told : String) (hook : HookResult) (reported : Bool) : Line :=
  { line with
    phase := .done
    closedHooks := line.closedHooks ++ [told]
    crashed := line.crashed || hook == .exits || (hook == .error && !reported) }

def terminate (line : Line) (lib : Libraries) (reason : Term) (hook : HookResult)
    (reported : Bool) (ending : Ending) : Line :=
  match line.socket.terminate lib reason with
  | (none, told) => line.closedHook told hook reported
  | (some closing, told) =>
    let closed := line.close lib closing ending
    if line.CloseExits ending then { closed with phase := .done, crashed := true }
    else closed.closedHook told hook reported

/-- A call may meet the end of a process that was running when it was made, and time out
while the process goes on. -/
def Possible (line : Line) : Ending → Prop
  | .handled _ => True
  | .stops => line.alive = true ∧ line.process.running = false
  | .expires => line.process.running = true

instance (line : Line) : (ending : Ending) → Decidable (line.Possible ending)
  | .handled _ => isTrue trivial
  | .stops => inferInstanceAs (Decidable (_ ∧ _))
  | .expires => inferInstanceAs (Decidable (_ = true))

/-- The socket has handled a message, and waits for the next. -/
def waits (line : Line) : Line := { line with alive := line.process.running }

def step (lib : Libraries) (line : Line) : Act → Option Line
  | .process message => (line.process.step lib message).map fun process =>
      { line with process := process, harsh := line.harsh || stopsHarshly lib line.process message }
  | .created hook reported ending =>
    if line.phase = .creating ∧ line.process.attached ∧ line.Possible ending then
      some (line.init lib hook reported ending).waits
    else none
  | .refused => if line.phase = .creating then some { line with phase := .unopened } else none
  | .frame incoming ending =>
    if line.phase = .serving ∧ line.Possible ending then
      some (line.frame lib incoming ending).waits
    else none
  | .event =>
    if line.phase = .serving then line.next?.map fun event => (line.event lib event).waits
    else none
  | .other =>
    if line.phase = .serving then
      some (line.returned (line.socket.handleInfo lib .other)).waits
    else none
  | .terminate reason hook reported ending =>
    -- `terminate/2` has a session to close, unless none was created.
    if (line.phase = .serving ∨ line.phase = .stopping) ∧ line.Possible ending then
      some (line.terminate lib reason hook reported ending)
    else if line.phase = .unopened then some { line with phase := .done }
    else none

end Line

def gateway (lib : Libraries) (sessionId : String) : System Line Act where
  init := { socket := { session := 0 }, process := .initial sessionId (some subscriber) }
  step := Line.step lib

/-- A frame is ignored, or answered by an error. -/
def Answered (result : Result) : Prop :=
  (∃ s, result = .ok s) ∨
    ∃ frame s, result = .push frame s ∧ frameType frame = some "gateway.error"

/-- What a connection should do. -/
structure Line.Sound (line : Line) : Prop where
  unharmed : line.crashed = false
  /-- Commands that come too late are ignored, or answered by an error. -/
  answered : ∀ result ∈ line.late, ∃ r, result = some r ∧ Answered r
  kept : line.phase ≠ .lost
  closed : line.created = true → line.phase = .done → line.closes ≠ [] ∨ line.process.ended = true
  hooked : line.created = true → line.closedHooks.length = if line.phase = .done then 1 else 0

def SoundLines (lib : Libraries) (sessionId : String) (C : Line → Act → Prop) : Prop :=
  ∀ line, (gateway lib sessionId).Reaches C line → line.Sound

/-- A hook does not throw or exit, and neither does the report of its error. -/
def returns (hook : HookResult) (reported : Bool) : Bool :=
  match hook with
  | .ok => true
  | .error => reported
  | .exits => false

/-- An event of Vox that ends the connection although the session goes on. -/
def Premature (line : Line) : Event → Prop
  | .wireEvent type _ =>
    type = "rtc.session.closed" ∧ line.closes = [] ∧ line.process.ended = false
  | _ => False

/-- A call returns: the session comes to it, or it is a close whose exit is caught. -/
def Line.Returns (line : Line) (ending : Ending) : Call → Prop
  | .closeRtc _ => ¬line.CloseExits ending
  | _ => line.process.running = true ∧ ∃ sent, ending = .handled sent

/-- No command but a close meets a process that has stopped, no close waits for one that stops
harshly, and no call for too long; an event can be delivered and ends the connection only with
its session; and hooks return. -/
def Line.Meets (lib : Libraries) (line : Line) : Act → Prop
  | .frame incoming ending =>
    ∀ asked ∈ line.socket.asks lib incoming, line.Returns ending asked.2
  | .event => ∀ event ∈ line.next?, DeliverableEvent event ∧ ¬Premature line event
  | .created hook reported ending =>
    returns hook reported = true ∧ (hook = .error → ¬line.CloseExits ending)
  | .terminate _ hook reported ending =>
    returns hook reported = true ∧ (line.socket.closed = false → ¬line.CloseExits ending)
  | _ => True

instance decidablePremature (line : Line) : (event : Event) → Decidable (Premature line event)
  | .wireEvent type _ => inferInstanceAs (Decidable
      (type = "rtc.session.closed" ∧ line.closes = [] ∧ line.process.ended = false))
  | .conversation _ | .sessionAttached _ | .answer _ | .iceCandidate _ | .iceCandidatesComplete _
  | .signalingError _ | .transcriptCompleted _ | .responseCreated _ | .responseDone _
  | .responseCancelled _ | .browserEvent .. | .error _ | .closed _ | .failed _ => isFalse id

instance decidableReturns (line : Line) (ending : Ending) : (call : Call) →
    Decidable (line.Returns ending call)
  | .closeRtc _ => inferInstanceAs (Decidable (¬_))
  | .sendOffer .. | .sendIceCandidate .. => match ending with
    | .handled sent => decidable_of_iff (line.process.running = true)
        ⟨fun running => ⟨running, sent, rfl⟩, And.left⟩
    | .stops | .expires => isFalse (by rintro ⟨-, sent, absurd⟩; cases absurd)

instance decidableMeets (lib : Libraries) (line : Line) : (act : Act) →
    Decidable (line.Meets lib act)
  | .frame incoming ending => inferInstanceAs (Decidable
      (∀ asked ∈ line.socket.asks lib incoming, line.Returns ending asked.2))
  | .event => inferInstanceAs (Decidable
      (∀ event ∈ line.next?, DeliverableEvent event ∧ ¬Premature line event))
  | .created hook reported ending => inferInstanceAs (Decidable
      (returns hook reported = true ∧ (hook = .error → ¬line.CloseExits ending)))
  | .terminate _ hook reported ending => inferInstanceAs (Decidable
      (returns hook reported = true ∧ (line.socket.closed = false → ¬line.CloseExits ending)))
  | .process _ | .refused | .other => isTrue trivial

section Calls

variable {lib : Libraries} {line : Line} {p : Session} {s : Socket} {sent : Bool}
  {ending : Ending} {result : Result}

/-- A process that runs answers a send, one way or the other. -/
theorem reply_send {call : Call} (send : request call = .send) (running : p.running = true)
    (harsh : Bool) : reply lib p harsh (.handled sent) call = some (.ok ()) ∨
      ∃ name, reply lib p harsh (.handled sent) call = some (.error (.atom name)) := by
  simp only [reply]
  rw [if_pos running, asked, send, Session.step, if_pos running]
  simp only [Session.handle, Session.handleCall, Option.getD_some, Session.reply,
    List.getLast?_concat, Option.bind_some]
  split
  · exact .inr ⟨_, rfl⟩
  · split
    · exact .inl rfl
    · exact .inr ⟨_, rfl⟩

theorem reply_close_running (running : p.running = true) (reason : String) :
    (asked lib p (.closeRtc reason) (.handled sent)).replies.getLast?.bind
      (fun reply => answerOf reply.2) = some (.ok ()) := by
  rw [asked, request, Session.step, if_pos running]
  simp only [Session.handle, Session.handleCall, Option.getD_some]
  split
  · simp [Session.reply, answerOf]
  · -- The waiters have been answered before, so that the reply to the close is the last.
    have none : (({ p with calls := p.calls + 1 }.closeTransport reason).reply p.calls
        .ok).responseWaiters = ∅ := by
      rw [Session.closeTransport, Session.emitClosedOnce]
      split <;> rfl
    rw [Session.terminate, Session.rejectResponseWaiters]
    simp only [none]
    simp [Session.reply, answerOf]

/-- A close returns unless its exit is not caught. -/
theorem reply_close (reason : String) (returns : ¬line.CloseExits ending) :
    reply lib line.process line.harsh ending (.closeRtc reason) = some (.ok ()) := by
  cases ending with
  | handled sent =>
    simp only [reply]
    split
    next running => exact reply_close_running running reason
    next => rfl
  | stops => exact if_neg returns
  | expires => exact absurd trivial returns

/-- A session that does not come to a call stays as it is. -/
theorem asked_cases (lib : Libraries) (p : Session) (call : Call) (ending : Ending) :
    asked lib p call ending = p ∨
      ∃ message, p.step lib message = some (asked lib p call ending) := by
  cases ending with
  | handled sent =>
    simp only [asked]
    cases taken : p.step lib
        (.call (request call) sent ⟨"generation_1", Responses.GeneratedId.first_proper⟩) with
    | none => exact .inl rfl
    | some q => exact .inr ⟨_, taken⟩
  | stops | expires => exact .inl rfl

theorem onward_asked (call : Call) : p.Onward (asked lib p call ending) := by
  rcases asked_cases lib p call ending with same | ⟨message, taken⟩
  · rw [same]
    exact .refl p
  · exact Session.step_onward taken

theorem ended_asked (call : Call) (gone : p.ended = true) :
    (asked lib p call ending).ended = true := by
  rcases asked_cases lib p call ending with same | ⟨message, taken⟩
  · rw [same]
    exact gone
  · exact Session.step_ended_stays taken gone

theorem refuse_isSome (id : Option String) (message : String) {code : Term}
    (clean : code = .nil ∨ ∃ text, code = .text text) :
    (s.refuse id (.text message, code)).isSome := by
  rw [Socket.refuse, Option.isSome_map, gatewayError, text_eq]
  rcases clean with rfl | ⟨text, rfl⟩ <;>
    simp [compact, Term.isNil, encode, encode.ofMembers]

theorem refusal_isSome (id : Option String) (error : VoxRtc.Gateway.CommandError) :
    (s.refuse id (Socket.refusal error)).isSome := by
  refine refuse_isSome id error.message ?_
  split
  · exact .inr ⟨_, rfl⟩
  · exact .inl rfl

theorem reply_returns {call : Call} (returns : line.Returns ending call) :
    reply lib line.process line.harsh ending call = some (.ok ()) ∨
      ∃ name, reply lib line.process line.harsh ending call = some (.error (.atom name)) := by
  cases call with
  | closeRtc reason => exact .inl (reply_close reason returns)
  | sendOffer | sendIceCandidate =>
    obtain ⟨running, sent, rfl⟩ := returns
    exact reply_send rfl running line.harsh

/-- A frame does not make the socket crash if its call returns. -/
theorem handleIn_isSome {incoming : Incoming}
    (returned : ∀ asked ∈ s.asks lib incoming, line.Returns ending asked.2) :
    (s.handleIn lib (reply lib line.process line.harsh ending) incoming).isSome := by
  cases incoming with
  | binary => exact refusal_isSome none _
  | text payload =>
    rw [Socket.handleIn]
    cases parsed : parseMessage lib payload with
    | error error => exact refusal_isSome none error
    | ok message =>
      simp only [Socket.handleMessage]
      cases asked : s.command message with
      | error error => exact refusal_isSome _ error
      | ok call =>
        have asks : s.asks lib (.text payload) = some (message, call) := by
          simp [Socket.asks, parsed, asked, Except.toOption]
        -- Either reply has a clause in the callback.
        have replied : reply lib line.process line.harsh ending call = some (.ok ()) ∨ ∃ name,
            reply lib line.process line.harsh ending call = some (.error (.atom name)) :=
          reply_returns (returned _ asks)
        rcases replied with ok | ⟨name, error⟩
        · simp [ok]
        · simp only [error]
          exact refuse_isSome _ _ (.inl rfl)

/-- A frame that a callback has handled has been ignored, or answered by an error. -/
theorem handleIn_answered {incoming : Incoming} {answer : Call → Answer}
    (handled : s.handleIn lib answer incoming = some result) : Answered result := by
  rcases handleIn_cases handled with ⟨⟨frame, rfl, error⟩, -⟩ | ⟨message, call, -, -, -, rfl⟩
  · exact .inr ⟨frame, s, rfl, error⟩
  · exact .inl ⟨_, rfl⟩

end Calls

section Runs

variable {lib : Libraries} {line next : Line} {act : Act}

/-- What holds of a connection on the way. -/
structure Line.Steady (line : Line) : Prop where
  sound : line.Sound
  silent : line.process.Silent
  /-- The session of a socket that knows it closed has ended, or has been asked to. -/
  ending : line.socket.closed = true → line.closes ≠ [] ∨ line.process.ended = true
  opened : line.phase = .serving ∨ line.phase = .stopping → line.created = true
  fresh : line.phase = .creating ∨ line.phase = .unopened → line.created = false
  unclosed : line.phase = .creating → line.closedHooks = []

/-- A step of the session process alone. -/
theorem steady_process {p : Session} (steady : line.Steady) (onward : line.process.Onward p)
    (stays : line.process.ended = true → p.ended = true) : { line with process := p }.Steady where
  sound := {
    unharmed := steady.sound.unharmed
    answered := steady.sound.answered
    kept := steady.sound.kept
    closed := fun created done => (steady.sound.closed created done).imp_right stays
    hooked := steady.sound.hooked }
  silent := onward.silent steady.silent
  ending := fun closed => (steady.ending closed).imp_right stays
  opened := steady.opened
  fresh := steady.fresh
  unclosed := steady.unclosed

/-- A callback returns while the socket is served. -/
theorem steady_returned {result : Result} (steady : line.Steady) (serving : line.phase = .serving)
    (closed : result.socket.closed = true → line.closes ≠ [] ∨ line.process.ended = true) :
    (line.returned (some result)).Steady := by
  have created := steady.opened (.inl serving)
  have hooked := steady.sound.hooked created
  rw [serving, if_neg (by decide)] at hooked
  have phase : (line.returned (some result)).phase ≠ .lost ∧
      (line.returned (some result)).phase ≠ .done ∧
      (line.returned (some result)).phase ≠ .creating ∧
      (line.returned (some result)).phase ≠ .unopened := by
    simp only [Line.returned]
    split <;> decide
  exact {
    sound := {
      unharmed := steady.sound.unharmed
      answered := steady.sound.answered
      kept := phase.1
      closed := fun _ done => absurd done phase.2.1
      hooked := fun _ => hooked.trans (if_neg phase.2.1).symm }
    silent := steady.silent
    ending := closed
    opened := fun _ => created
    fresh := fun early => (early.elim phase.2.2.1 phase.2.2.2).elim
    unclosed := fun early => (phase.2.2.1 early).elim }

/-- The session is asked to close. -/
theorem steady_closing (lib : Libraries) (steady : line.Steady) (ending : Ending) (reason : String) :
    (line.close lib reason ending).Steady where
  sound := {
    unharmed := steady.sound.unharmed
    answered := steady.sound.answered
    kept := steady.sound.kept
    closed := fun _ _ => .inl (List.append_ne_nil_of_right_ne_nil _ (List.cons_ne_nil _ _))
    hooked := steady.sound.hooked }
  silent := (onward_asked _).silent steady.silent
  ending := fun _ => .inl (List.append_ne_nil_of_right_ne_nil _ (List.cons_ne_nil _ _))
  opened := steady.opened
  fresh := steady.fresh
  unclosed := steady.unclosed

theorem steady_call (lib : Libraries) (steady : line.Steady) (ending : Ending)
    (asks : Option (Message × Call)) : (line.call lib ending asks).Steady := by
  cases asks with
  | none => exact steady
  | some asks =>
    obtain ⟨message, call⟩ := asks
    cases call with
    | closeRtc reason => exact steady_closing lib steady ending reason
    | _ => exact steady_process steady (onward_asked _) (ended_asked _)

theorem steady_late (steady : line.Steady) {late : List (Option Result)}
    (answered : ∀ result ∈ late, ∃ r, result = some r ∧ Answered r) :
    { line with late := line.late ++ late }.Steady where
  sound := {
    unharmed := steady.sound.unharmed
    answered := by
      intro result member
      rcases List.mem_append.mp member with old | new
      · exact steady.sound.answered result old
      · exact answered result new
    kept := steady.sound.kept
    closed := steady.sound.closed
    hooked := steady.sound.hooked }
  silent := steady.silent
  ending := steady.ending
  opened := steady.opened
  fresh := steady.fresh
  unclosed := steady.unclosed

theorem call_phase (line : Line) (lib : Libraries) (ending : Ending)
    (asks : Option (Message × Call)) : (line.call lib ending asks).phase = line.phase ∧
      (line.call lib ending asks).socket = line.socket ∧
      (line.call lib ending asks).late = line.late := by
  cases asks with
  | none => exact ⟨rfl, rfl, rfl⟩
  | some asks =>
    obtain ⟨message, call⟩ := asks
    cases call <;> exact ⟨rfl, rfl, rfl⟩

/-- A call leaves the socket closed only if it is the close. -/
theorem closed_of_called {message : Message} {call : Call} {s : Socket}
    (closed : (s.called message.id call).closed = true) :
    s.closed = true ∨ ∃ reason, call = .closeRtc reason := by
  cases call with
  | closeRtc reason => exact .inr ⟨reason, rfl⟩
  | _ => exact .inl closed

theorem steady_frame (steady : line.Steady) (serving : line.phase = .serving)
    {incoming : Incoming} {ending : Ending} (meets : line.Meets lib (.frame incoming ending)) :
    (line.frame lib incoming ending).Steady := by
  obtain ⟨result, handled⟩ := Option.isSome_iff_exists.mp (handleIn_isSome meets)
  have called := steady_call lib steady ending (line.socket.asks lib incoming)
  obtain ⟨phase, socket, late⟩ :=
    call_phase line lib ending (line.socket.asks lib incoming)
  have answered : ∀ r ∈ line.lateResult lib incoming (some result), ∃ q, r = some q ∧ Answered q := by
    intro r member
    rw [Line.lateResult] at member
    split at member
    · rw [List.mem_singleton.mp member]
      exact ⟨result, rfl, handleIn_answered handled⟩
    · cases member
  have steady' := steady_late called answered
  rw [late] at steady'
  simp only [Line.frame, handled]
  refine steady_returned steady' (phase.trans serving) ?_
  intro closed
  rcases handleIn_cases handled with ⟨⟨frame, rfl, -⟩, -⟩ | ⟨message, call, asks, -, -, rfl⟩
  · exact steady'.ending ((congrArg Socket.closed socket).trans closed)
  -- A call that is made and closes the socket is the close itself.
  · rcases closed_of_called closed with before | ⟨reason, rfl⟩
    · exact steady'.ending ((congrArg Socket.closed socket).trans before)
    · left
      rw [asks]
      exact List.append_ne_nil_of_right_ne_nil _ (List.cons_ne_nil _ _)

/-- The frames that end a connection. -/
theorem wireEvent_closed {event : Event} {data : Term}
    (wire : wireEvent event = some ("rtc.session.closed", data)) :
    Session.Final event ∨ ∃ content, event = .wireEvent "rtc.session.closed" content := by
  -- Only `:closed` and a wire event of that name are shown under the name.
  cases event with
  | closed reason => exact .inl rfl
  | wireEvent type content =>
    cases content with
    | data value =>
      cases wire
      exact .inr ⟨_, rfl⟩
    | raw payload decodeError => cases wire
  | conversation update =>
    simp only [wireEvent, Option.some.injEq, Prod.mk.injEq] at wire
    exact absurd wire.1 (updateName_ne update)
  | browserEvent name content => cases content <;> simp [wireEvent] at wire
  | _ => simp [wireEvent] at wire

theorem handleEvent_closed {s : Socket} {event : Event} {result : Result}
    (handled : s.handleEvent lib event = some result) (closed : result.socket.closed = true) :
    s.closed = true ∨ ∃ data, wireEvent event = some ("rtc.session.closed", data) := by
  obtain ⟨type, data, frame, wire, -, -, -, pushed⟩ := handleEvent_cases handled
  -- An event of another name leaves the socket as open as it was.
  by_cases closes : type = "rtc.session.closed"
  · subst closes
    exact .inr ⟨data, wire⟩
  · left
    rw [pushed closes] at closed
    have same : (s.answered type).closed = s.closed := by
      unfold Socket.answered
      split <;> rfl
    exact same.symm.trans closed

theorem next_ended {event : Event} (silent : line.process.Silent) (next : line.next? = some event)
    (final : Session.Final event) : line.process.ended = true := by
  have member : event ∈ line.process.events.delivered subscriber := List.mem_of_getElem? next
  obtain ⟨entry, inside, rfl⟩ := List.mem_map.mp member
  -- The event is among those broadcast, so `:closed` has been sent and marked.
  cases emitted : line.process.closedEmitted with
  | false => exact absurd final (silent emitted entry (List.mem_filter.mp inside).1)
  | true => simp [Session.ended, emitted]

theorem steady_waits (steady : line.Steady) : line.waits.Steady :=
  ⟨⟨steady.sound.unharmed, steady.sound.answered, steady.sound.kept, steady.sound.closed,
    steady.sound.hooked⟩, steady.silent, steady.ending, steady.opened, steady.fresh,
    steady.unclosed⟩

theorem steady_harsh (steady : line.Steady) (harsh : Bool) : { line with harsh := harsh }.Steady :=
  ⟨⟨steady.sound.unharmed, steady.sound.answered, steady.sound.kept, steady.sound.closed,
    steady.sound.hooked⟩, steady.silent, steady.ending, steady.opened, steady.fresh,
    steady.unclosed⟩

theorem steady_handled (steady : line.Steady) (n : Nat) : { line with handled := n }.Steady :=
  ⟨⟨steady.sound.unharmed, steady.sound.answered, steady.sound.kept, steady.sound.closed,
    steady.sound.hooked⟩, steady.silent, steady.ending, steady.opened, steady.fresh,
    steady.unclosed⟩

theorem steady_event (steady : line.Steady) (serving : line.phase = .serving) {event : Event}
    (next : line.next? = some event) (meets : line.Meets lib .event) :
    (line.event lib event).Steady := by
  obtain ⟨deliverable, timely⟩ := meets event next
  have survives : line.socket.SurvivesEvent lib event := (survivesEvent_iff event).mpr deliverable
  obtain ⟨result, handled, -, -⟩ := survives
  have gone := next_ended steady.silent next
  rw [Line.event, handled]
  refine steady_returned (steady_handled steady _) serving fun closed => ?_
  rw [Socket.handleInfo, if_pos rfl] at handled
  rcases handleEvent_closed handled closed with before | ⟨data, wire⟩
  · exact steady.ending before
  · rcases wireEvent_closed wire with final | ⟨content, rfl⟩
    · exact .inr (gone final)
    · -- Vox has said that the session is closed, so it has ended or been asked to.
      by_contra neither
      rw [not_or, not_not] at neither
      exact timely ⟨rfl, neither.1, Bool.eq_false_iff.mpr neither.2⟩

theorem steady_init (steady : line.Steady) (creating : line.phase = .creating) {hook : HookResult}
    {reported : Bool} {ending : Ending} (meets : line.Meets lib (.created hook reported ending)) :
    (line.init lib hook reported ending).Steady := by
  obtain ⟨returned, closes⟩ := meets
  have unclosed := steady.unclosed creating
  -- No closed hook has run before the socket was created.
  have hooked (phase : Phase) (early : phase ≠ .done) :
      line.closedHooks.length = if phase = .done then 1 else 0 := by
    rw [unclosed, if_neg early]
    rfl
  cases hook with
  | ok =>
    exact ⟨⟨steady.sound.unharmed, steady.sound.answered, Phase.noConfusion,
      fun _ => Phase.noConfusion, fun _ => hooked .serving Phase.noConfusion⟩, steady.silent,
      steady.ending, fun _ => rfl, fun early => (by rcases early with early | early <;> cases early),
      Phase.noConfusion⟩
  | error =>
    rw [returns] at returned
    subst returned
    have closed := steady_closing lib steady ending "session_created_hook_failed"
    have returns : ¬{ line with created := true }.CloseExits ending := closes rfl
    simp only [Line.init, if_true, Line.hookFailed]
    rw [if_neg returns]
    exact ⟨⟨closed.sound.unharmed, closed.sound.answered, Phase.noConfusion,
      fun _ => Phase.noConfusion, fun _ => hooked .stopping Phase.noConfusion⟩, closed.silent,
      fun _ => .inl (List.append_ne_nil_of_right_ne_nil _ (List.cons_ne_nil _ _)), fun _ => rfl,
      fun early => (by rcases early with early | early <;> cases early), Phase.noConfusion⟩
  | exits => cases returned

/-- The connection ends with one closed hook. -/
theorem steady_closedHook (steady : line.Steady)
    (going : line.phase = .serving ∨ line.phase = .stopping)
    (settled : line.closes ≠ [] ∨ line.process.ended = true) (told : String) {hook : HookResult}
    {reported : Bool} (returned : returns hook reported = true) :
    (line.closedHook told hook reported).Steady := by
  have created := steady.opened going
  have hooked := steady.sound.hooked created
  rw [if_neg (by rcases going with going | going <;> rw [going] <;> decide)] at hooked
  -- A hook that returns leaves nothing behind.
  have harmless : (line.crashed || hook == .exits || (hook == .error && !reported)) = false := by
    rw [steady.sound.unharmed]
    cases hook with
    | ok => rfl
    | error =>
      rw [returns] at returned
      rw [returned]
      rfl
    | exits => cases returned
  exact ⟨⟨harmless, steady.sound.answered, Phase.noConfusion, fun _ _ => settled,
    fun _ => by simp [Line.closedHook, hooked]⟩, steady.silent, steady.ending,
    fun early => (by rcases early with early | early <;> cases early),
    fun early => (by rcases early with early | early <;> cases early), Phase.noConfusion⟩

theorem steady_terminate (steady : line.Steady)
    (going : line.phase = .serving ∨ line.phase = .stopping) {reason : Term} {hook : HookResult}
    {reported : Bool} {ending : Ending}
    (meets : line.Meets lib (.terminate reason hook reported ending)) :
    (line.terminate lib reason hook reported ending).Steady := by
  obtain ⟨returned, closes⟩ := meets
  cases closed : line.socket.closed with
  | true =>
    -- The socket knows that it is closed, and closes no session again.
    simp only [Line.terminate, Socket.terminate, closed, if_true]
    exact steady_closedHook steady going (steady.ending closed) _ returned
  | false =>
    -- `terminate/2` closes the session first.
    simp only [Line.terminate, Socket.terminate, closed, Bool.false_eq_true, if_false]
    rw [if_neg (closes closed)]
    exact steady_closedHook (steady_closing lib steady ending _) going
      (.inl (List.append_ne_nil_of_right_ne_nil _ (List.cons_ne_nil _ _))) _ returned

theorem steady_step {next : Line} (steady : line.Steady) (meets : line.Meets lib act)
    (taken : line.step lib act = some next) : next.Steady := by
  cases act with
  | process message =>
    obtain ⟨p, moved, rfl⟩ := Option.map_eq_some_iff.mp taken
    exact steady_harsh
      (steady_process steady (Session.step_onward moved) (Session.step_ended_stays moved)) _
  | created hook reported ending =>
    simp only [Line.step, Option.ite_none_right_eq_some] at taken
    obtain ⟨⟨creating, -⟩, taken⟩ := taken
    cases taken
    exact steady_waits (steady_init steady creating meets)
  -- No session was created, so there is nothing to close.
  | refused =>
    simp only [Line.step, Option.ite_none_right_eq_some] at taken
    obtain ⟨creating, taken⟩ := taken
    cases taken
    have fresh := steady.fresh (.inl creating)
    exact ⟨⟨steady.sound.unharmed, steady.sound.answered, Phase.noConfusion,
      fun _ => Phase.noConfusion, fun created => absurd (fresh.symm.trans created) (by decide)⟩,
      steady.silent, steady.ending, fun early => (by rcases early with early | early <;> cases early),
      fun _ => fresh, Phase.noConfusion⟩
  | frame incoming ending =>
    simp only [Line.step, Option.ite_none_right_eq_some] at taken
    obtain ⟨⟨serving, -⟩, taken⟩ := taken
    cases taken
    exact steady_waits (steady_frame steady serving meets)
  | event =>
    simp only [Line.step, Option.ite_none_right_eq_some] at taken
    obtain ⟨serving, taken⟩ := taken
    obtain ⟨event, next, rfl⟩ := Option.map_eq_some_iff.mp taken
    exact steady_waits (steady_event steady serving next meets)
  | other =>
    simp only [Line.step, Option.ite_none_right_eq_some] at taken
    obtain ⟨serving, taken⟩ := taken
    cases taken
    exact steady_waits (steady_returned steady serving steady.ending)
  | terminate reason hook reported ending =>
    simp only [Line.step] at taken
    split at taken
    next going =>
      cases taken
      exact steady_terminate steady going.1 meets
    -- The socket ends before it was opened.
    next =>
      obtain ⟨unopened, taken⟩ := Option.ite_none_right_eq_some.mp taken
      cases taken
      have fresh := steady.fresh (.inr unopened)
      exact ⟨⟨steady.sound.unharmed, steady.sound.answered, Phase.noConfusion,
        fun created => absurd (fresh.symm.trans created) (by decide),
        fun created => absurd (fresh.symm.trans created) (by decide)⟩, steady.silent,
        steady.ending, fun early => (by rcases early with early | early <;> cases early),
        fun early => (by rcases early with early | early <;> cases early), Phase.noConfusion⟩

theorem initial_silent (sessionId : String) :
    (Session.initial sessionId (some subscriber)).Silent := by
  rintro - entry member
  cases member

/-- In a run whose steps all meet the condition, every connection does what it should. -/
theorem sound_lines {C : Line → Act → Prop} (lib : Libraries) (sessionId : String)
    (cond : ∀ line act, C line act → line.Meets lib act) : SoundLines lib sessionId C := by
  intro line reached
  have start : ((gateway lib sessionId).init).Steady :=
    ⟨⟨rfl, fun result member => (by cases member), Phase.noConfusion, fun _ => Phase.noConfusion,
      fun _ => rfl⟩, initial_silent sessionId, fun closed => (by cases closed),
      fun early => (by rcases early with early | early <;> cases early), fun _ => rfl, fun _ => rfl⟩
  exact (System.Reaches.preserves start
    (fun _ act _ steady meets taken => steady_step steady (cond _ act meets) taken) reached).sound

end Runs

section Examples

def closeText : String := "\x7b\"id\":\"b\",\"type\":\"rtc.close\",\"data\":\x7b\x7d\x7d"

def candidateText : String :=
  "\x7b\"id\":\"c\",\"type\":\"rtc.ice_candidate\",\"data\":\x7b\"candidate\":null\x7d\x7d"

def commanding : Libraries := Libraries.small.decoding
  [(closeText, browserFrame "b" "rtc.close" []), (candidateText, candidateFrame "c")]

def attachment : Act := .process Session.serverAttached

def opened : Act := .created .ok true (.handled true)

/-- A connection that the browser closes, up to its end. -/
def closedRun : List Act :=
  [attachment, opened, .event, .frame (.text candidateText) (.handled true),
    .frame (.text closeText) (.handled true), .event,
    .terminate (.atom "normal") .ok true (.handled true)]

theorem sound_lines_run :
    ∃ line, (gateway commanding "s").Reaches (Line.Meets commanding) line ∧
      line.created = true ∧ line.phase = .done ∧ line.closedHooks = ["client_closed"] ∧
      line.Sound := by
  have reached := System.leads_of_run (M := gateway commanding "s") (C := Line.Meets commanding)
    (s := (gateway commanding "s").init) closedRun (by decide) rfl
  exact ⟨_, reached, rfl, rfl, rfl, sound_lines commanding "s" (fun _ _ => id) _ reached⟩

/-- A candidate that is queued behind the frame that closes the session. -/
def lateCandidate : List Act :=
  [attachment, opened, .frame (.text closeText) (.handled true),
    .frame (.text candidateText) (.handled true)]

theorem unsound_lines :
    (∃ line, (gateway commanding "s").run (gateway commanding "s").init lateCandidate = some line ∧
      line.crashed = true ∧ line.late = [none]) ∧
    ¬SoundLines commanding "s" always := by
  refine ⟨⟨_, rfl, rfl, rfl⟩, fun sound => ?_⟩
  have reached := System.reaches_of_run (M := gateway commanding "s") lateCandidate rfl
  -- The candidate finds no process, and its call exits in the callback.
  cases (sound _ reached).unharmed

/-- A close that waits for a session whose parent has it exit; no closed hook runs. -/
example : ((gateway commanding "s").run (gateway commanding "s").init
    [attachment, opened, .process .exit,
      .terminate (.atom "remote") .ok true .stops]).map
      (fun line => (line.phase, line.crashed, line.closedHooks)) = some (.done, true, []) := rfl

end Examples

end VoxRtc.Elixir.Gateway
