import VoxRtc.Transition.Pool
import VoxRtc.TypeScript.Gateway.Frames

/-!
# Lifecycle of the TypeScript gateway

`handleUpgrade`, `#open`, `#requestClose`, `#close` and `close` of
`typescript/vox-rtc-server/src/gateway.ts` as one state machine. A step is the code
between two `await`s, or between two calls of code the application may have supplied:
such a callback runs on the JavaScript stack of the `#close` that calls it and may call
`gateway.close()` before it returns.
-/
namespace VoxRtc.TypeScript.Gateway

open Transition Wire
open VoxRtc.Gateway (Progress WireEvent Outcome)

/-- `readyState` of the browser's WebSocket, once it is open. -/
inductive ReadyState where
  | opened
  | closing
  | closed
  deriving DecidableEq, Repr

/-- Where a body of `#close` stands: in one of its four callbacks, at its `await`, or
settled. -/
inductive Phase where
  | unsubscribe
  | closeRtc
  | sessionClose
  | hook
  | awaiting
  | settled
  deriving DecidableEq, Repr

/-- The body is on the stack. -/
def Phase.running : Phase → Bool
  | awaiting | settled => false
  | _ => true

/-- `session.close()` has been called. -/
def Phase.hasClosed : Phase → Bool
  | unsubscribe | closeRtc => false
  | _ => true

/-- `onSessionClosed` has been invoked. -/
def Phase.hasHooked : Phase → Bool
  | hook | awaiting | settled => true
  | _ => false

structure Body where
  reason : String
  phase : Phase
  deriving DecidableEq, Repr

/-- The `await` that `#open` stands at. -/
inductive Stage where
  | creating
  | hook
  | closing (body : Nat)
  | done
  deriving DecidableEq, Repr

/-- What the application, the browser and the control session see of a connection. -/
inductive Event where
  | created
  | createdSettled (ok : Bool)
  | ready
  | command
  | sessionClose
  | closed
  | closedSettled
  deriving DecidableEq, Repr

/-- One run of `#open`, with the fields of its `ActiveGatewaySession`. -/
structure Connection where
  readyState : ReadyState
  browserClosed : Bool
  stage : Stage
  /-- The session exists and was added to `#active`. -/
  session : Bool
  inActive : Bool
  /-- The promise of `#open` is in `#opening`. -/
  opening : Bool
  subscribed : Bool
  listening : Bool
  setupPending : Bool
  pendingCloseReason : Option String
  progress : Progress
  /-- The bodies that `#close` has started, in order. -/
  bodies : List Body
  closePromise : Option Nat
  /-- The latest event first. -/
  trace : List Event
  deriving DecidableEq, Repr

/-- Steps of one connection, each a turn of the event loop of its own. -/
inductive ConnStep where
  | created (setup : Bool)
  | createFails
  | hookSettled (ok sends : Bool)
  | closeAwaited
  | openingSettled
  | browserCloses
  | browserClosed
  | wireEvent (event : WireEvent Binary64) (reason : String)
  | browserFrame (raw : Option Value) (outcome : Outcome)
  | closedHookSettles (body : Nat)

namespace Connection

def initial : Connection where
  readyState := .opened
  browserClosed := false
  stage := .creating
  session := false
  inActive := false
  opening := true
  subscribed := false
  listening := false
  setupPending := false
  pendingCloseReason := none
  progress := .initial
  bodies := []
  closePromise := none
  trace := []

/-- The promise that `#close` returns. -/
def promised (c : Connection) : Nat := c.closePromise.getD c.bodies.length

/-- `#close` up to the first callback of its body. -/
def close (c : Connection) (reason : String) : Connection :=
  match c.closePromise with
  | some _ => c
  | none => { c with bodies := c.bodies ++ [⟨reason, .unsubscribe⟩] }

def requestClose (c : Connection) (reason : String) : Connection :=
  if c.setupPending then
    { c with pendingCloseReason := some (c.pendingCloseReason.getD reason) }
  else c.close reason

/-- `await this.#close(active, reason)` in `#open`. -/
def awaitClose (c : Connection) (reason : String) : Connection :=
  { c.close reason with stage := .closing c.promised }

/-- The browser is gone or going. -/
def disconnected (c : Connection) : Option String :=
  if c.browserClosed ∨ c.readyState ≠ .opened then some "browser_disconnected" else none

/-- `#open` from the created session to the creation hook. -/
def afterCreated (c : Connection) (shutdownReason : Option String) (setup : Bool) : Connection :=
  let active := { c with session := true, inActive := true }
  match shutdownReason.or c.disconnected with
  | some terminalReason => active.awaitClose terminalReason
  | none =>
    if setup then
      { active with
        subscribed := true, listening := true, setupPending := true, stage := .hook,
        trace := .created :: c.trace }
    else active.awaitClose "gateway_setup_failed"

/-- `#open` from the creation hook on. -/
def afterHook (c : Connection) (shutdownReason : Option String) (ok sends : Bool) : Connection :=
  let active := { c with setupPending := false, trace := .createdSettled ok :: c.trace }
  if ok then
    match shutdownReason.or (c.pendingCloseReason.or c.disconnected) with
    | some deferredCloseReason => active.awaitClose deferredCloseReason
    | none =>
      if sends then { active with stage := .done, trace := .ready :: active.trace }
      else active.awaitClose "gateway_setup_failed"
  else { active with pendingCloseReason := none }.awaitClose
    (if sends then "session_created_hook_failed" else "gateway_setup_failed")

def handleFrame (c : Connection) (raw : Option Value) (outcome : Outcome) : Connection :=
  let handled := handleMessage c.progress raw outcome
  { c with
    progress := handled.progress
    trace := if handled.call.isSome then .command :: c.trace else c.trace }

def handleEvent (c : Connection) (event : WireEvent Binary64) (reason : String) : Connection :=
  let forwarded := { c with progress := (forwardEvent c.progress event).1 }
  if event.type = "rtc.session.closed" then forwarded.requestClose reason else forwarded

/-- A body moves on, and the trace gains what it does. -/
def advance (c : Connection) (body : Nat) (b : Body) (phase : Phase) (events : List Event) :
    Connection :=
  { c with bodies := c.bodies.set body { b with phase := phase }, trace := events ++ c.trace }

/-- The `finally` of a body. -/
def settle (c : Connection) (body : Nat) (b : Body) : Connection :=
  { c.advance body b .settled [.closedSettled] with inActive := false }

/-- The callback a body is in returns or throws; what it throws is reported. -/
def callback (c : Connection) (body : Nat) (b : Body) (throws : Bool) : Option Connection :=
  match b.phase with
  | .unsubscribe =>
    let left := { c with subscribed := c.subscribed && throws }
    some <| if c.progress.rtcCloseRequested then left.advance body b .sessionClose [.sessionClose]
      else
        { left.advance body b .closeRtc [] with
          progress := { c.progress with rtcCloseRequested := true } }
  | .closeRtc => some (c.advance body b .sessionClose [.sessionClose])
  | .sessionClose => some (c.advance body b .hook [.closed])
  | .hook =>
    -- `#close` stores the promise only now that the call of its body has returned.
    let returned := { c with closePromise := some body }
    some (if throws then returned.settle body b else returned.advance body b .awaiting [])
  | .awaiting | .settled => none

def next (c : Connection) (shutdownReason : Option String) : ConnStep → Option Connection
  | .created setup =>
    if c.stage = .creating then some (c.afterCreated shutdownReason setup) else none
  | .createFails => if c.stage = .creating then some { c with stage := .done } else none
  | .hookSettled ok sends =>
    if c.stage = .hook then some (c.afterHook shutdownReason ok sends) else none
  | .closeAwaited => match c.stage with
    | .closing body =>
      if (c.bodies[body]?.map Body.phase) = some .settled then
        some { c with
          stage := .done
          readyState := if c.readyState = .opened then .closing else c.readyState }
      else none
    | _ => none
  | .openingSettled =>
    if c.stage = .done ∧ c.opening then some { c with opening := false } else none
  | .browserCloses =>
    if c.readyState = .opened then some { c with readyState := .closing } else none
  | .browserClosed =>
    if c.readyState = .closed then none
    else
      let gone := { c with readyState := .closed, browserClosed := true }
      some (if c.session then gone.requestClose "browser_disconnected" else gone)
  | .wireEvent event reason => if c.subscribed then some (c.handleEvent event reason) else none
  | .browserFrame raw outcome =>
    if c.listening ∧ c.readyState ≠ .closed ∧ outcome ≠ .fatal then
      some (c.handleFrame raw outcome)
    else none
  | .closedHookSettles body => do
    let b ← c.bodies[body]?
    if b.phase = .awaiting then some (c.settle body b) else none

end Connection

/-- Where a call of `close` on the gateway stands. -/
inductive ClosePhase where
  | sweeping (second : Bool)
  | waiting (second : Bool)
  | openings (snapshot : List Nat)
  | resolved
  | rejected
  deriving DecidableEq, Repr

structure Closer where
  reason : String
  phase : ClosePhase
  /-- `activeSessions`. -/
  sessions : List Nat
  /-- The bodies whose promises it waits for. -/
  waiting : List (Nat × Nat)
  deriving DecidableEq, Repr

/-- A function on the JavaScript stack: a body of `#close` in a callback, or `closeActive`
with the sessions it still has to visit. -/
inductive Frame where
  | body (conn body : Nat)
  | sweep (closer : Nat) (todo : List Nat)
  deriving DecidableEq, Repr

structure VoxRtcGateway where
  conns : List Connection
  closers : List Closer
  stack : List Frame
  shutdownReason : Option String
  closePromise : Option Nat
  deriving DecidableEq, Repr

inductive Label where
  | upgrade
  | conn (i : Nat) (step : ConnStep)
  | gatewayClose (reason : String)
  | callback (throws : Bool)
  | visit (i : Nat)
  | swept
  | closerResumes (closer : Nat) (throws : Bool)

namespace VoxRtcGateway

def initial : VoxRtcGateway := ⟨[], [], [], none, none⟩

/-- The connections with a property. -/
def those (g : VoxRtcGateway) (p : Connection → Bool) : List Nat :=
  (List.range g.conns.length).filter fun i => g.conns[i]?.any p

/-- A body that `#close` has started goes on the stack. -/
def started (i : Nat) (before after : Connection) : List Frame :=
  if before.bodies.length < after.bodies.length then [.body i before.bodies.length] else []

/-- `gateway.close()` may be called by any code of the application: in a turn of its own
or in a callback of `#close`. -/
def callable (g : VoxRtcGateway) : Bool :=
  match g.stack with
  | [] | .body _ _ :: _ => true
  | .sweep _ _ :: _ => false

def settled (g : VoxRtcGateway) (awaited : Nat × Nat) : Bool :=
  (g.conns[awaited.1]?.bind fun c => c.bodies[awaited.2]?).any fun b => b.phase == .settled

def setPhase (g : VoxRtcGateway) (k : Nat) (phase : ClosePhase) : VoxRtcGateway :=
  { g with closers := g.closers.modify k fun closer => { closer with phase := phase } }

/-- The sockets of the swept sessions are closed. -/
def closeSockets (g : VoxRtcGateway) (sessions : List Nat) : VoxRtcGateway :=
  { g with conns := g.conns.mapIdx fun i c =>
      if i ∈ sessions ∧ c.readyState = .opened then { c with readyState := .closing } else c }

/-- A call of `close` goes on after an `await`. -/
def resume (g : VoxRtcGateway) (k : Nat) (closer : Closer) (throws : Bool) : Option VoxRtcGateway :=
  match closer.phase with
  | .waiting second =>
    if closer.waiting.all g.settled then
      -- `ws.close` throws on a reason longer than a close frame can carry.
      if throws then some (g.setPhase k .rejected)
      else
        let closed := g.closeSockets closer.sessions
        some (closed.setPhase k
          (if second then .resolved else .openings (g.those Connection.opening)))
    else none
  | .openings snapshot =>
    if snapshot.all fun i => !(g.conns[i]?.any Connection.opening) then
      let sessions := g.those Connection.inActive
      some { g with
        closers := g.closers.set k { closer with
          phase := .sweeping true, sessions := sessions, waiting := [] }
        stack := [.sweep k sessions] }
    else none
  | _ => none

def step (g : VoxRtcGateway) : Label → Option VoxRtcGateway
  | .upgrade =>
    if g.stack ≠ [] then none
    else some (if g.shutdownReason.isSome then g else { g with conns := g.conns ++ [.initial] })
  | .conn i l =>
    if g.stack ≠ [] then none
    else do
      let c ← g.conns[i]?
      let c' ← c.next g.shutdownReason l
      return { g with conns := g.conns.set i c', stack := started i c c' }
  | .gatewayClose reason =>
    if g.callable then
      if g.closePromise.isSome then some g
      else
        let sessions := g.those Connection.inActive
        some { g with
          shutdownReason := some reason
          closers := g.closers ++ [⟨reason, .sweeping false, sessions, []⟩]
          stack := .sweep g.closers.length sessions :: g.stack }
    else none
  | .callback throws => match g.stack with
    | .body i b :: rest => do
      let c ← g.conns[i]?
      let body ← c.bodies[b]?
      let c' ← c.callback b body throws
      return { g with
        conns := g.conns.set i c', stack := if body.phase = .hook then rest else g.stack }
    | _ => none
  | .visit i => match g.stack with
    | .sweep k todo :: rest =>
      if i ∈ todo then do
        let c ← g.conns[i]?
        let closer ← g.closers[k]?
        let c' := c.requestClose closer.reason
        let awaited := if c.setupPending then [] else [(i, c.promised)]
        return { g with
          conns := g.conns.set i c'
          closers := g.closers.set k { closer with waiting := closer.waiting ++ awaited }
          stack := started i c c' ++ .sweep k (todo.erase i) :: rest }
      else none
    | _ => none
  | .swept => match g.stack with
    | .sweep k [] :: rest => do
      let closer ← g.closers[k]?
      match closer.phase with
      | .sweeping second =>
        return { g.setPhase k (.waiting second) with
          stack := rest
          closePromise := if second then g.closePromise else some k }
      | _ => none
    | _ => none
  | .closerResumes k throws =>
    if g.stack ≠ [] then none
    else do
      let closer ← g.closers[k]?
      g.resume k closer throws

end VoxRtcGateway

def lifecycle : System VoxRtcGateway Label := ⟨.initial, VoxRtcGateway.step⟩

end VoxRtc.TypeScript.Gateway
