import VoxRtc.Python.Gateway.Frames
import VoxRtc.Transition.Pool
import VoxRtc.Transition.Runs

/-!
# Coroutines of the Python gateway

`__call__`, `_serve`, `_close_session` and `close` of
`python/vox-rtc-server/src/vox_rtc_server/gateway.py` as one machine. A step is the code
between two `await`s; a call of `close` that goes from session to session without waiting
keeps the event loop to itself.
-/
namespace VoxRtc.Python.Gateway

open Transition Wire
open VoxRtc.Gateway (Progress WireEvent Outcome)

/-- What the control session, the application and the browser see of a session. -/
inductive Event where
  | created
  | ready
  | event (type : String)
  | command
  /-- `_close_session` begins, because of shutdown or not. -/
  | closing (shutdown : Bool)
  | closeRTC (reason : String)
  | sessionClose
  | closed (reason : String)
  | closedFinished
  deriving DecidableEq, Repr

/-- What the gateway no longer does for a session that shutdown closes. -/
def Event.isServed : Event → Bool
  | ready | event _ | command => true
  | _ => false

def Event.isClosed : Event → Bool
  | closed _ => true
  | _ => false

/-- The call in `_close_session` that raises. -/
inductive Raises where
  | unsubscribe
  | closeRTC
  | sessionClose
  deriving DecidableEq, Repr

structure ActiveSession where
  progress : Progress
  closed : Bool
  /-- The session is in `_sessions`. -/
  registered : Bool
  /-- The latest event first. -/
  trace : List Event
  deriving DecidableEq, Repr

namespace ActiveSession

def initial : ActiveSession := ⟨.initial, false, true, [.created]⟩

/-- A session that was created and never registered. -/
def unregistered : ActiveSession := ⟨.initial, false, false, []⟩

def sees (s : ActiveSession) (events : List Event) : ActiveSession :=
  { s with trace := events ++ s.trace }

/-- `_close_session` up to the hook, and whether it waits for it. -/
def close (s : ActiveSession) (reason : String) (shutdown : Bool) (raises : Option Raises) :
    ActiveSession × Bool :=
  if s.closed then (s, false)
  else
    let marked := { s with closed := true, trace := .closing shutdown :: s.trace }
    let asked :=
      if marked.progress.rtcCloseRequested then marked
      else { marked.sees [.closeRTC reason] with
        progress := { marked.progress with rtcCloseRequested := true } }
    match raises with
    | some .unsubscribe => ({ marked with registered := false }, false)
    | some .closeRTC =>
      if s.progress.rtcCloseRequested then
        (asked.sees [.closed reason, .sessionClose], true)
      else ({ asked with registered := false }, false)
    | some .sessionClose => ({ asked.sees [.sessionClose] with registered := false }, false)
    | none => (asked.sees [.closed reason, .sessionClose], true)

/-- The hook finishes, and the session leaves `_sessions`. -/
def finish (s : ActiveSession) : ActiveSession :=
  { s.sees [.closedFinished] with registered := false }

end ActiveSession

/-- The `await` that `_serve` stands at. -/
inductive Serving where
  | receiving
  | accepting
  | creating
  /-- Shutdown has begun during the creation, and the browser is told. -/
  | rejecting
  /-- The subscription raised, and the browser is told. -/
  | dropping
  | createdHook
  | sendingError
  | sendingReady
  | waiting
  | replying
  | forwarding (closed : Option String)
  /-- An exception is passed on to the browser. -/
  | excepting
  /-- In the hook of `_close_session`; the browser may still have to be told. -/
  | closing (tells : Bool)
  | leaving
  | ended
  deriving DecidableEq, Repr

namespace Serving

/-- No session has been created yet. -/
def precedes : Serving → Bool
  | receiving | accepting | creating => true
  | _ => false

/-- A cancellation at this `await` passes on to the `finally` of `_serve`. Elsewhere it is
caught, and does what the failure of the awaited call does. -/
def passes : Serving → Bool
  | sendingError | sendingReady | waiting | replying | forwarding _ => true
  | _ => false

/-- After this `await` the session is served whether or not it has been closed meanwhile. -/
def unguarded : Serving → Bool
  | createdHook | waiting => true
  | _ => false

end Serving

/-- A message of the ASGI server. -/
inductive Message where
  | disconnect
  | receive (raw : Received)
  | other
  /-- `receive` raises. -/
  | fails

structure Connection where
  serving : Serving
  session : Option ActiveSession
  /-- `active.events`. -/
  queue : List (Option (WireEvent PythonNumber × String))
  /-- For the record: `close` has closed the session while an unguarded `await` was pending. -/
  overtaken : Bool := false

/-- Steps of one `_serve`. -/
inductive ConnStep where
  | received (connect : Bool)
  | accepted (ok : Bool)
  | created (subscribes : Bool)
  | createFails
  | createdHook (ok : Bool)
  | errorSent (ok : Bool)
  | readySent (ok : Bool)
  | wakes (message : Option Message) (took : Bool) (outcome : Outcome)
  | replied (ok : Bool)
  | forwarded (ok : Bool)
  | closeSent
  | hookFinishes
  | cancelled

namespace Connection

def initial : Connection := { serving := .receiving, session := none, queue := [] }

/-- `close` comes to the session. -/
def overtake (c : Connection) (s : ActiveSession) : Connection :=
  { c with overtaken := c.overtaken || (!s.closed && c.serving.unguarded) }

/-- `_serve` after `_close_session`. What comes next closes the session once more and
finds it closed. -/
def closed (tells : Bool) : Serving := if tells then .leaving else .ended

/-- `_close_session` on the connection's own coroutine. -/
def close (c : Connection) (s : ActiveSession) (reason : String) (raises : Option Raises)
    (tells : Bool) : Connection :=
  let (s', waits) := s.close reason false raises
  { c with session := some s', serving := if waits then .closing tells else closed tells }

/-- The `finally` of `_serve`. -/
def leave (c : Connection) (s : ActiveSession) (raises : Option Raises) : Connection :=
  c.close s "browser_disconnected" raises false

/-- `while not active.closed`. -/
def again (c : Connection) (s : ActiveSession) (raises : Option Raises) : Connection :=
  if s.closed then c.leave s raises else { c with session := some s, serving := .waiting }

/-- A text or binary message reaches `_handle_message` or its stand-in. -/
def handle (c : Connection) (s : ActiveSession) (raw : Received) (outcome : Outcome)
    (raises : Option Raises) : Connection :=
  let handled := handleMessage s.progress raw outcome
  let s := { s.sees [.command] with progress := handled.progress }
  if handled.call.isSome ∧ outcome = .fatal then
    { c with session := some s, serving := .excepting }
  else if handled.error.isSome then { c with session := some s, serving := .replying }
  else c.again s raises

/-- `_forward_event` up to its `await`. -/
def forward (c : Connection) (s : ActiveSession) (event : WireEvent PythonNumber)
    (reason : String) : Connection :=
  let pendingOfferId := (forwardEvent s.progress event).1.pendingOfferId
  let taken := { s.progress with pendingOfferId := pendingOfferId }
  { c with
    session := some { s.sees [.event event.type] with progress := taken }
    serving := .forwarding (if event.type = "rtc.session.closed" then some reason else none) }

/-- The loop goes on after `asyncio.wait`. An event that was taken along with a message
is lost. -/
def wake (c : Connection) (s : ActiveSession) (message : Option Message) (took : Bool)
    (outcome : Outcome) (raises : Option Raises) : Option Connection :=
  let c' := if took then { c with queue := c.queue.tail } else c
  if took ∧ c.queue = [] then none
  else match message with
    | some .disconnect => some (c'.leave s raises)
    | some .other => some (c'.again s raises)
    | some .fails => some { c' with session := some s, serving := .excepting }
    | some (.receive raw) => some (c'.handle s raw outcome raises)
    | none => if took then match c.queue.head? with
        | some (some (event, reason)) => some (c'.forward s event reason)
        | some none => some (c'.leave s raises)
        | none => none
      else none

def next (c : Connection) (shutdownReason : Option String) (raises : Option Raises) :
    ConnStep → Option Connection
  | .received connect =>
    if c.serving = .receiving then
      some { c with serving := if connect then .accepting else .ended }
    else none
  | .accepted ok =>
    if c.serving = .accepting then some { c with serving := if ok then .creating else .ended }
    else none
  | .created subscribes =>
    if c.serving = .creating then
      match shutdownReason with
      | some reason =>
        let reason := if reason = "" then "gateway_shutdown" else reason
        let dropped := ActiveSession.unregistered.sees [.sessionClose, .closeRTC reason]
        some { c with session := some dropped, serving := .rejecting }
      | none => some <|
        if subscribes then { c with session := some .initial, serving := .createdHook }
        else { c with session := some .unregistered, serving := .dropping }
    else none
  | .createFails => if c.serving = .creating then some { c with serving := .excepting } else none
  | .createdHook ok => do
    let s ← c.session
    if c.serving = .createdHook then
      some (if ok then { c with session := some (s.sees [.ready]), serving := .sendingReady }
        else { c with serving := .sendingError })
    else none
  | .errorSent ok => do
    let s ← c.session
    if c.serving = .sendingError then
      some (if ok then c.close s "session_created_hook_failed" raises true
        else { c with serving := .excepting })
    else none
  | .readySent ok => do
    let s ← c.session
    if c.serving = .sendingReady then
      some (if ok then c.again s raises else { c with serving := .excepting })
    else none
  | .wakes message took outcome => do
    let s ← c.session
    if c.serving = .waiting then c.wake s message took outcome raises else none
  | .replied ok => do
    let s ← c.session
    if c.serving = .replying then
      some (if ok then c.again s raises else { c with serving := .excepting })
    else none
  | .forwarded ok => do
    let s ← c.session
    match c.serving with
    | .forwarding closed => some <|
      if ok then match closed with
        | some reason =>
          let requested := { s.progress with rtcCloseRequested := true }
          c.close { s with progress := requested } reason raises true
        | none => c.again s raises
      else { c with serving := .excepting }
    | _ => none
  | .closeSent => match c.serving, c.session with
    | .excepting, some s => some (c.leave s raises)
    | .excepting, none | .rejecting, _ => some { c with serving := .ended }
    | .leaving, some s => some (c.leave s raises)
    | .dropping, some s =>
      let dropped := s.sees [.sessionClose, .closeRTC "gateway_setup_failed"]
      some { c with session := some dropped, serving := .ended }
    | _, _ => none
  | .hookFinishes => do
    let s ← c.session
    match c.serving with
    | .closing tells => some { c with session := some s.finish, serving := closed tells }
    | _ => none
  | .cancelled =>
    if c.serving.precedes then some { c with serving := .ended }
    else if c.serving.passes then c.session.map fun s => c.leave s raises
    else none

variable {c c' : Connection} {shutdownReason : Option String} {raises : Option Raises}

private theorem close_precedes (d : Connection) (s : ActiveSession) (reason : String)
    (raises : Option Raises) (tells : Bool) :
    (d.close s reason raises tells).serving.precedes = false := by
  unfold close
  generalize s.close reason false raises = result
  obtain ⟨_, waits⟩ := result
  cases waits <;> cases tells <;> rfl

private theorem again_precedes (d : Connection) (s : ActiveSession) (raises : Option Raises) :
    (d.again s raises).serving.precedes = false := by
  unfold again
  split
  · exact close_precedes d s _ raises false
  · rfl

theorem wake_precedes {s : ActiveSession} {message : Option Message} {took : Bool}
    {outcome : Outcome}
    (taken : c.wake s message took outcome raises = some c') : c'.serving.precedes = false := by
  unfold wake at taken
  simp only at taken
  split at taken
  · cases taken
  · split at taken
    · cases taken
      exact close_precedes _ s _ raises false
    · cases taken
      exact again_precedes _ s raises
    · cases taken
      rfl
    · cases taken
      unfold handle
      simp only
      split
      · rfl
      · split
        · rfl
        · exact again_precedes _ _ raises
    · split at taken
      · split at taken
        · cases taken
          rfl
        · cases taken
          exact close_precedes _ s _ raises false
        · cases taken
      · cases taken

/-- What a step makes of a connection. -/
inductive Next (c : Connection) (shutdownReason : Option String) (raises : Option Raises) :
    ConnStep → Connection → Prop
  | received (stands : c.serving = .receiving) (connect : Bool) :
      Next c shutdownReason raises (.received connect)
        { c with serving := if connect then .accepting else .ended }
  | accepted (stands : c.serving = .accepting) (ok : Bool) :
      Next c shutdownReason raises (.accepted ok)
        { c with serving := if ok then .creating else .ended }
  | created (stands : c.serving = .creating) (open_ : shutdownReason = none) :
      Next c shutdownReason raises (.created true)
        { c with session := some .initial, serving := .createdHook }
  | refused {subscribes : Bool} (stands : c.serving = .creating)
      (closing : shutdownReason.isSome = true) (dropped : ActiveSession) : Next c shutdownReason raises (.created subscribes)
        { c with session := some dropped, serving := .rejecting }
  | unsubscribed (open_ : shutdownReason = none) : Next c shutdownReason raises (.created false)
      { c with session := some .unregistered, serving := .dropping }
  | ready {s : ActiveSession} (present : c.session = some s) (stands : c.serving = .createdHook) :
      Next c shutdownReason raises (.createdHook true)
        { c with session := some (s.sees [.ready]), serving := .sendingReady }
  | hookFails (stands : c.serving = .createdHook) :
      Next c shutdownReason raises (.createdHook false) { c with serving := .sendingError }
  | errorSent {s : ActiveSession} (present : c.session = some s)
      (stands : c.serving = .sendingError) : Next c shutdownReason raises (.errorSent true)
        (c.close s "session_created_hook_failed" raises true)
  /-- A message has been sent. -/
  | again {s : ActiveSession} {l : ConnStep} (present : c.session = some s)
      (stands : c.serving = .sendingReady ∨ c.serving = .replying ∨ c.serving = .forwarding none) :
      Next c shutdownReason raises l (c.again s raises)
  | wakes {s : ActiveSession} {message : Option Message} {took : Bool} {outcome : Outcome}
      {c' : Connection} (present : c.session = some s) (stands : c.serving = .waiting)
      (woken : c.wake s message took outcome raises = some c') :
      Next c shutdownReason raises (.wakes message took outcome) c'
  /-- Vox has closed the session. -/
  | ends {s : ActiveSession} {reason : String} (present : c.session = some s)
      (stands : c.serving = .forwarding (some reason)) :
      Next c shutdownReason raises (.forwarded true) (c.close
        { s with progress := { s.progress with rtcCloseRequested := true } } reason raises true)
  | fails {l : ConnStep} (stands : ∀ tells, c.serving ≠ .closing tells) :
      Next c shutdownReason raises l { c with serving := .excepting }
  | leaves {s : ActiveSession} {l : ConnStep} (present : c.session = some s)
      (stands : ∀ tells, c.serving ≠ .closing tells) :
      Next c shutdownReason raises l (c.leave s raises)
  | stops {l : ConnStep} (stands : ∀ tells, c.serving ≠ .closing tells) :
      Next c shutdownReason raises l { c with serving := .ended }
  | drops {s : ActiveSession} (present : c.session = some s) (stands : c.serving = .dropping) :
      Next c shutdownReason raises .closeSent { c with
        session := some (s.sees [.sessionClose, .closeRTC "gateway_setup_failed"])
        serving := .ended }
  | hookFinishes {s : ActiveSession} {tells : Bool} (present : c.session = some s)
      (stands : c.serving = .closing tells) : Next c shutdownReason raises .hookFinishes
        { c with session := some s.finish, serving := closed tells }

theorem next_cases {l : ConnStep} (taken : c.next shutdownReason raises l = some c') :
    Next c shutdownReason raises l c' := by
  cases l with
  | received connect =>
    simp only [next, Option.ite_none_right_eq_some, Option.some.injEq] at taken
    obtain ⟨stands, rfl⟩ := taken
    exact .received stands connect
  | accepted ok =>
    simp only [next, Option.ite_none_right_eq_some, Option.some.injEq] at taken
    obtain ⟨stands, rfl⟩ := taken
    exact .accepted stands ok
  | created subscribes =>
    simp only [next, Option.ite_none_right_eq_some] at taken
    obtain ⟨stands, taken⟩ := taken
    -- A shutdown may have begun while the session was being created.
    cases closing : shutdownReason with
    | some reason =>
      rw [closing] at taken
      cases taken
      exact .refused stands rfl _
    | none =>
      rw [closing] at taken
      cases subscribes with
      | true =>
        cases taken
        exact .created stands rfl
      | false =>
        cases taken
        exact .unsubscribed rfl
  | createFails =>
    simp only [next, Option.ite_none_right_eq_some, Option.some.injEq] at taken
    obtain ⟨stands, rfl⟩ := taken
    exact .fails (by simp [stands])
  | createdHook ok =>
    simp only [next, Option.bind_eq_bind, Option.bind_eq_some_iff,
      Option.ite_none_right_eq_some, Option.some.injEq] at taken
    obtain ⟨s, present, stands, rfl⟩ := taken
    cases ok with
    | true => exact .ready present stands
    | false => exact .hookFails stands
  | errorSent ok =>
    simp only [next, Option.bind_eq_bind, Option.bind_eq_some_iff,
      Option.ite_none_right_eq_some, Option.some.injEq] at taken
    obtain ⟨s, present, stands, rfl⟩ := taken
    cases ok with
    | true => exact .errorSent present stands
    | false => exact .fails (by simp [stands])
  | readySent ok =>
    simp only [next, Option.bind_eq_bind, Option.bind_eq_some_iff,
      Option.ite_none_right_eq_some, Option.some.injEq] at taken
    obtain ⟨s, present, stands, rfl⟩ := taken
    cases ok with
    | true => exact .again present (.inl stands)
    | false => exact .fails (by simp [stands])
  | wakes message took outcome =>
    simp only [next, Option.bind_eq_bind, Option.bind_eq_some_iff,
      Option.ite_none_right_eq_some] at taken
    obtain ⟨s, present, stands, woken⟩ := taken
    exact .wakes present stands woken
  | replied ok =>
    simp only [next, Option.bind_eq_bind, Option.bind_eq_some_iff,
      Option.ite_none_right_eq_some, Option.some.injEq] at taken
    obtain ⟨s, present, stands, rfl⟩ := taken
    cases ok with
    | true => exact .again present (.inr (.inl stands))
    | false => exact .fails (by simp [stands])
  -- A closed event ends the loop when it has been sent.
  | forwarded ok =>
    simp only [next, Option.bind_eq_bind, Option.bind_eq_some_iff] at taken
    obtain ⟨s, present, taken⟩ := taken
    split at taken
    next closed stands =>
      cases taken
      cases ok with
      | false => exact .fails (by simp [stands])
      | true =>
        cases closed with
        | none => exact .again present (.inr (.inr stands))
        | some reason => exact .ends present stands
    · cases taken
  | closeSent =>
    simp only [next] at taken
    split at taken
    -- `closeSent` ends five places, of which one drops the session.
    next s stands present =>
      cases taken
      exact .leaves present (by simp [stands])
    next stands _ =>
      cases taken
      exact .stops (by simp [stands])
    next stands =>
      cases taken
      exact .stops (by simp [stands])
    next s stands present =>
      cases taken
      exact .leaves present (by simp [stands])
    next s stands present =>
      cases taken
      exact .drops present stands
    · cases taken
  | hookFinishes =>
    simp only [next, Option.bind_eq_bind, Option.bind_eq_some_iff] at taken
    obtain ⟨s, present, taken⟩ := taken
    split at taken
    next tells stands =>
      cases taken
      exact .hookFinishes present stands
    · cases taken
  | cancelled =>
    -- A coroutine that waits for the hook is not cancelled.
    have within (early : c.serving.precedes = true ∨ c.serving.passes = true) (tells : Bool) :
        c.serving ≠ .closing tells := by
      intro stands
      simp [stands, Serving.precedes, Serving.passes] at early
    simp only [next] at taken
    split at taken
    next precedes =>
      cases taken
      exact .stops (within (.inl precedes))
    · simp only [Option.ite_none_right_eq_some, Option.map_eq_some_iff] at taken
      obtain ⟨passes, s, present, rfl⟩ := taken
      exact .leaves present (within (.inr passes))

/-- There is no way back to before the creation. -/
theorem next_precedes {l : ConnStep} (taken : c.next shutdownReason raises l = some c')
    (precedes : c'.serving.precedes = true) :
    c.serving.precedes = true ∧ c'.session = c.session ∧ c'.queue = c.queue := by
  have past {P : Prop} (served : c'.serving.precedes = false) : P := by
    rw [served] at precedes
    cases precedes
  cases next_cases taken with
  | received stands connect | accepted stands ok => exact ⟨by rw [stands]; rfl, rfl, rfl⟩
  | errorSent | ends => exact past (close_precedes c _ _ raises true)
  | again => exact past (again_precedes c _ raises)
  | wakes present stands woken => exact past (wake_precedes woken)
  | leaves => exact past (close_precedes c _ _ raises false)
  | @hookFinishes s tells => cases tells <;> exact past rfl
  | _ => exact past rfl

private theorem close_guarded (d : Connection) (s : ActiveSession) (reason : String)
    (raises : Option Raises) (tells : Bool) :
    (d.close s reason raises tells).serving.unguarded = false := by
  unfold close
  generalize s.close reason false raises = result
  obtain ⟨_, waits⟩ := result
  cases waits <;> cases tells <;> rfl

private theorem again_open {d : Connection} {s : ActiveSession}
    (unguarded : (d.again s raises).serving.unguarded = true) :
    ∀ a ∈ (d.again s raises).session, a.closed = false := by
  unfold again at unguarded ⊢
  split at unguarded
  · rw [leave, close_guarded] at unguarded
    cases unguarded
  next still =>
    rw [if_neg still]
    rintro a ⟨⟩
    exact Bool.eq_false_of_not_eq_true still

theorem wake_open {s : ActiveSession} {message : Option Message} {took : Bool} {outcome : Outcome}
    (taken : c.wake s message took outcome raises = some c')
    (unguarded : c'.serving.unguarded = true) : ∀ a ∈ c'.session, a.closed = false := by
  unfold wake at taken
  simp only at taken
  split at taken
  · cases taken
  · split at taken
    · cases taken
      rw [leave, close_guarded] at unguarded
      cases unguarded
    · cases taken
      exact again_open unguarded
    · cases taken
      cases unguarded
    · cases taken
      unfold handle at unguarded ⊢
      simp only at unguarded ⊢
      split at unguarded
      · cases unguarded
      next returns =>
        rw [if_neg returns]
        split at unguarded
        · cases unguarded
        next silent =>
          rw [if_neg silent]
          exact again_open unguarded
    · split at taken
      · split at taken
        · cases taken
          cases unguarded
        · cases taken
          rw [leave, close_guarded] at unguarded
          cases unguarded
        · cases taken
      · cases taken

/-- `while not active.closed`: no unguarded `await` begins on a session that is closed. -/
theorem next_open {l : ConnStep} (taken : c.next shutdownReason raises l = some c')
    (unguarded : c'.serving.unguarded = true) : ∀ a ∈ c'.session, a.closed = false := by
  cases next_cases taken with
  | created stands open_ =>
    rintro a ⟨⟩
    rfl
  | again => exact again_open unguarded
  | wakes present stands woken => exact wake_open woken unguarded
  | errorSent | ends =>
    rw [close_guarded] at unguarded
    cases unguarded
  | leaves =>
    rw [leave, close_guarded] at unguarded
    cases unguarded
  | received stands ok | accepted stands ok => cases ok <;> cases unguarded
  | @hookFinishes s tells => cases tells <;> cases unguarded
  | _ => cases unguarded

end Connection

/-- Where a call of `close` on the gateway stands. -/
inductive CloserStage where
  | closing (sessions : List Nat)
  | hook (i : Nat) (sessions : List Nat)
  | disconnecting
  | awaiting
  | returned
  | raised
  deriving DecidableEq, Repr

structure VoxRtcGateway where
  conns : List Connection
  closers : List CloserStage
  /-- The call of `close` that runs between two `await`s. -/
  running : Option Nat
  /-- `_shutdown_reason`, set along with `_closing`. -/
  shutdownReason : Option String
  disconnected : Bool
  closeEvent : Bool

inductive Label where
  | connect
  | conn (i : Nat) (step : ConnStep) (raises : Option Raises)
  | event (i : Nat) (event : WireEvent PythonNumber) (reason : String)
  | close (reason : String)
  | closer (k pick : Nat) (raises : Option Raises) (ok : Bool)

namespace VoxRtcGateway

def initial : VoxRtcGateway := ⟨[], [], none, none, false, false⟩

def session (g : VoxRtcGateway) (i : Nat) : Option ActiveSession :=
  g.conns[i]?.bind Connection.session

/-- `list(self._sessions.values())`, in some order. -/
def sessions (g : VoxRtcGateway) : List Nat :=
  (List.range g.conns.length).filter fun i => (g.session i).any ActiveSession.registered

/-- `active.events.put_nowait(None)`. -/
def putNone (c : Connection) (s : ActiveSession) : Connection :=
  { c with session := some s, queue := c.queue ++ [none] }

/-- `close` goes on with its snapshot, without an `await` for a session that is closed. -/
def visit (g : VoxRtcGateway) (k pick : Nat) (sessions : List Nat) (raises : Option Raises) :
    Option VoxRtcGateway := do
  let c ← g.conns[pick]?
  let s ← c.session
  let (s', waits) := s.close (g.shutdownReason.getD "") true raises
  return if waits then { g with
      conns := g.conns.set pick { c.overtake s with session := some s' }
      closers := g.closers.set k (.hook pick (sessions.erase pick))
      running := none }
    else { g with
      conns := g.conns.set pick (putNone (c.overtake s) s')
      closers := g.closers.set k (.closing (sessions.erase pick)) }

def stepCloser (g : VoxRtcGateway) (k : Nat) (stage : CloserStage) (pick : Nat)
    (raises : Option Raises) (ok : Bool) : Option VoxRtcGateway :=
  match stage with
  | .closing sessions =>
    if g.running ≠ some k then none
    else if sessions = [] then
      some { g with
        closers := g.closers.set k .disconnecting, running := none, disconnected := true }
    else if pick ∈ sessions then g.visit k pick sessions raises
    else none
  | .hook i sessions => do
    if g.running ≠ none then none
    else
      let c ← g.conns[i]?
      let s ← c.session
      return { g with
        conns := g.conns.set i (putNone c s.finish)
        closers := g.closers.set k (.closing sessions)
        running := some k }
  | .disconnecting =>
    if g.running ≠ none then none
    else if ok then some { g with closers := g.closers.set k .returned, closeEvent := true }
    else some { g with closers := g.closers.set k .raised }
  | .awaiting =>
    if g.running = none ∧ g.closeEvent then some { g with closers := g.closers.set k .returned }
    else none
  | .returned | .raised => none

def step (g : VoxRtcGateway) : Label → Option VoxRtcGateway
  | .connect =>
    if g.running ≠ none then none
    else some (if g.shutdownReason.isSome then g else { g with conns := g.conns ++ [.initial] })
  | .conn i l raises =>
    if g.running ≠ none then none
    else do
      let c ← g.conns[i]?
      let c' ← c.next g.shutdownReason raises l
      return { g with conns := g.conns.set i c' }
  | .event i event reason =>
    if g.running ≠ none then none
    else do
      let c ← g.conns[i]?
      if c.session.isSome then
        some { g with conns := g.conns.set i { c with queue := c.queue ++ [some (event, reason)] } }
      else none
  | .close reason =>
    if g.running ≠ none then none
    else if g.shutdownReason.isSome then some { g with closers := g.closers ++ [.awaiting] }
    else some { g with
      closers := g.closers ++ [.closing g.sessions]
      running := some g.closers.length
      shutdownReason := some reason }
  | .closer k pick raises ok => do
    let stage ← g.closers[k]?
    g.stepCloser k stage pick raises ok

end VoxRtcGateway

def lifecycle : System VoxRtcGateway Label := ⟨.initial, VoxRtcGateway.step⟩

end VoxRtc.Python.Gateway
