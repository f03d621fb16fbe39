import VoxRtc.Go.Gateway.Frames
import VoxRtc.Transition.Pool
import VoxRtc.Transition.Runs

/-!
# Goroutines of the Go gateway

`ServeHTTP`, `serveConnection`, `forwardEvent`, `gatewaySession.close` and
`Gateway.Close` of `go/rtcserver/gateway.go` as one machine. A step is a
mutex-protected section or a call the goroutine waits in. `close` of a session may run on
the connection's goroutine, on one that delivers an event, or within `Gateway.Close`.
-/
namespace VoxRtc.Go.Lifecycle

open Transition Wire
open VoxRtc.Go.Gateway (Value parseMessage trimSpace)

/-- What the control session and the application see of a session. -/
inductive Event where
  | closeRTC (reason : String)
  | sessionClose
  | closed (reason : String)
  | closedReturned
  deriving DecidableEq, Repr

/-- `OnSessionClosed` is invoked. -/
def Event.isClosed : Event → Bool
  | closed _ => true
  | _ => false

/-- Where a call of `close` on a session stands. From `unsubscribe` on, it is the call
that set `closed`. -/
inductive CloseStage where
  | entering
  | unsubscribe (rtcCloseRequested : Bool)
  | closeRTC
  | sessionClose
  | onSessionClosed
  | writeClose
  | delete
  | returned
  deriving DecidableEq, Repr

namespace CloseStage

/-- The stages past the guard. -/
def body : CloseStage → List CloseStage
  | entering | returned => []
  | stage => [stage]

def hasHooked : CloseStage → Bool
  | onSessionClosed | writeClose | delete => true
  | _ => false

def hasReturned : CloseStage → Bool
  | writeClose | delete => true
  | _ => false

end CloseStage

structure CloseCall where
  reason : String
  stage : CloseStage
  deriving DecidableEq, Repr

/-- The fields of `gatewaySession` that closing reads, and whether it is in `active`. -/
structure GatewaySession where
  closed : Bool
  rtcCloseRequested : Bool
  active : Bool
  /-- The latest event first. -/
  trace : List Event
  deriving DecidableEq, Repr

namespace GatewaySession

def initial : GatewaySession := ⟨false, false, false, []⟩

/-- A call of `close` starts. -/
def closeCall (reason : String) : CloseCall :=
  ⟨if trimSpace reason = "" then "session_closed" else reason, .entering⟩

/-- `close` from one stage to the next. -/
def close (s : GatewaySession) (call : CloseCall) : Option (GatewaySession × CloseStage) :=
  match call.stage with
  | .entering => some <|
    -- Whoever finds `closed` set returns, whether or not the body that set it has ended.
    if s.closed then (s, .returned)
    else ({ s with closed := true, rtcCloseRequested := true }, .unsubscribe s.rtcCloseRequested)
  | .unsubscribe rtcCloseRequested =>
    some (s, if rtcCloseRequested then .sessionClose else .closeRTC)
  | .closeRTC => some ({ s with trace := .closeRTC call.reason :: s.trace }, .sessionClose)
  | .sessionClose => some
    ({ s with trace := .closed call.reason :: .sessionClose :: s.trace }, .onSessionClosed)
  | .onSessionClosed => some ({ s with trace := .closedReturned :: s.trace }, .writeClose)
  | .writeClose => some (s, .delete)
  | .delete => some ({ s with active := false }, .returned)
  | .returned => none

end GatewaySession

/-- Where the goroutine of a request stands. -/
inductive Serving where
  | upgrading
  | creating
  | hook
  | registering
  | sending
  | reading
  | closing (call : CloseCall)
  | returning
  | ended
  deriving DecidableEq, Repr

/-- Where a goroutine stands that delivers an event to `forwardEvent`. -/
inductive Delivery where
  | sending (type reason : String)
  | flagging (reason : String)
  | closing (call : CloseCall)
  | returned
  deriving DecidableEq, Repr

def Serving.body : Serving → List CloseStage
  | closing call => call.stage.body
  | _ => []

def Delivery.body : Delivery → List CloseStage
  | closing call => call.stage.body
  | _ => []

/-- A request that `ServeHTTP` has counted. -/
structure Connection where
  serving : Serving
  session : Option GatewaySession
  deliveries : List Delivery
  deriving DecidableEq, Repr

/-- Steps of a connection's own goroutine. -/
inductive ConnStep where
  | upgraded (ok : Bool)
  | created (ok : Bool)
  | hookReturned (ok : Bool)
  | registers
  | readySent (ok : Bool)
  | reads (raw : Option Value)
  | readFails
  | closes
  | done

namespace Connection

def initial : Connection := ⟨.upgrading, none, []⟩

/-- The bodies of `close` on the connection's own goroutines. -/
def body (c : Connection) : List CloseStage :=
  c.serving.body ++ c.deliveries.flatMap Delivery.body

/-- The browser asks for `rtc.close`. -/
def closesRTC (raw : Option Value) : Bool :=
  match parseMessage raw with
  | .ok message => message.type == "rtc.close"
  | .error _ => false

/-- The section that adds a session to `active`. -/
def register (c : Connection) (shutdownReason : String) (s : GatewaySession) : Connection :=
  if s.closed then { c with serving := .returning }
  else if shutdownReason ≠ "" then
    { c with serving := .closing (GatewaySession.closeCall shutdownReason) }
  else { c with session := some { s with active := true }, serving := .sending }

def next (c : Connection) (shutdownReason : String) : ConnStep → Option Connection
  | .upgraded ok =>
    if c.serving = .upgrading then
      some { c with serving := if ok then .creating else .returning }
    else none
  | .created ok =>
    if c.serving = .creating then
      some (if ok then { c with serving := .hook, session := some .initial }
        else { c with serving := .returning })
    else none
  | .hookReturned ok =>
    if c.serving = .hook then
      some { c with serving :=
        if ok then .registering
        else .closing (GatewaySession.closeCall "session_created_hook_failed") }
    else none
  | .registers => do
    let s ← c.session
    if c.serving = .registering then some (c.register shutdownReason s) else none
  | .readySent ok =>
    if c.serving = .sending then
      some { c with serving :=
        if ok then .reading else .closing (GatewaySession.closeCall "gateway_ready_failed") }
    else none
  | .reads raw => do
    let s ← c.session
    if c.serving = .reading then
      some { c with session := some { s with
        rtcCloseRequested := s.rtcCloseRequested || closesRTC raw } }
    else none
  | .readFails =>
    if c.serving = .reading then
      some { c with serving := .closing (GatewaySession.closeCall "browser_disconnected") }
    else none
  | .closes => match c.serving with
    | .closing call => do
      let s ← c.session
      let (s', stage) ← s.close call
      return { c with
        session := some s'
        serving := if stage = .returned then .returning else .closing ⟨call.reason, stage⟩ }
    | _ => none
  | .done => if c.serving = .returning then some { c with serving := .ended } else none

/-- A goroutine that delivers an event goes on. -/
def deliver (c : Connection) (k : Nat) : Option Connection := do
  let s ← c.session
  let d ← c.deliveries[k]?
  match d with
  | .sending type reason =>
    let sent : Delivery := if type = "rtc.session.closed" then .flagging reason else .returned
    return { c with deliveries := c.deliveries.set k sent }
  | .flagging reason => return { c with
      session := some { s with rtcCloseRequested := true }
      deliveries := c.deliveries.set k (.closing (GatewaySession.closeCall reason)) }
  | .closing call =>
    let (s', stage) ← s.close call
    return { c with
      session := some s'
      deliveries := c.deliveries.set k (.closing ⟨call.reason, stage⟩) }
  | .returned => none

end Connection

/-- Where a call of `Gateway.Close` stands. -/
inductive CloserStage where
  | entering
  | snapshotting
  | closing (active : List Nat)
  | session (active : List Nat) (i : Nat) (call : CloseCall)
  | waiting
  | disconnecting
  | closingDone
  | awaiting
  | returned
  deriving DecidableEq, Repr

namespace CloserStage

/-- Within `closeOnce.Do`. -/
def inside : CloserStage → Bool
  | entering | awaiting | returned => false
  | _ => true

/-- The body of `close` on one session. -/
def bodyOn (i : Nat) : CloserStage → List CloseStage
  | session _ j call => if j = i then call.stage.body else []
  | _ => []

end CloserStage

structure Closer where
  reason : String
  stage : CloserStage
  deriving DecidableEq, Repr

structure Gateway where
  conns : List Connection
  closers : List Closer
  shutdownReason : String
  /-- The counter of the `connections` wait group. -/
  connections : Nat
  closeOnce : Bool
  disconnected : Bool
  closeDone : Bool
  deriving DecidableEq, Repr

inductive Label where
  | request
  | conn (i : Nat) (step : ConnStep)
  | event (i : Nat) (type reason : String)
  | deliver (i k : Nat)
  | close (reason : String)
  | closer (k pick : Nat)

namespace Gateway

def initial : Gateway := ⟨[], [], "", 0, false, false, false⟩

def session (g : Gateway) (i : Nat) : Option GatewaySession :=
  g.conns[i]?.bind Connection.session

/-- All bodies of `close` on one session, whoever runs them. -/
def bodies (g : Gateway) (i : Nat) : List CloseStage :=
  (g.conns[i]?.elim [] Connection.body) ++
    g.closers.flatMap fun closer => closer.stage.bodyOn i

def activeSessions (g : Gateway) : List Nat :=
  (List.range g.conns.length).filter fun i => (g.session i).any GatewaySession.active

def setStage (g : Gateway) (k : Nat) (closer : Closer) (stage : CloserStage) : Gateway :=
  { g with closers := g.closers.set k { closer with stage := stage } }

/-- `Close` from one stage to the next. -/
def stepCloser (g : Gateway) (k : Nat) (closer : Closer) (pick : Nat) : Option Gateway :=
  match closer.stage with
  | .entering =>
    if g.closeOnce = false then some { g.setStage k closer .snapshotting with closeOnce := true }
    -- `Do` blocks until the call that came first has returned from its function.
    else if g.closeDone then some (g.setStage k closer .awaiting)
    else none
  | .snapshotting =>
    some { g.setStage k closer (.closing g.activeSessions) with shutdownReason := closer.reason }
  | .closing active =>
    if active = [] then some (g.setStage k closer .waiting)
    else if pick ∈ active then
      some (g.setStage k closer
        (.session (active.erase pick) pick (GatewaySession.closeCall closer.reason)))
    else none
  | .session active i call => do
    let c ← g.conns[i]?
    let s ← c.session
    let (s', stage) ← s.close call
    let after : CloserStage :=
      if stage = .returned then .closing active else .session active i ⟨call.reason, stage⟩
    return { g.setStage k closer after with
      conns := g.conns.set i { c with session := some s' } }
  | .waiting => if g.connections = 0 then some (g.setStage k closer .disconnecting) else none
  | .disconnecting => some { g.setStage k closer .closingDone with disconnected := true }
  | .closingDone => some { g.setStage k closer .awaiting with closeDone := true }
  | .awaiting => if g.closeDone then some (g.setStage k closer .returned) else none
  | .returned => none

def step (g : Gateway) : Label → Option Gateway
  | .request => some <|
    if g.shutdownReason = "" then
      { g with conns := g.conns ++ [.initial], connections := g.connections + 1 }
    else g
  | .conn i l => do
    let c ← g.conns[i]?
    let c' ← c.next g.shutdownReason l
    return { g with
      conns := g.conns.set i c'
      connections := if c'.serving = .ended then g.connections - 1 else g.connections }
  | .event i type reason => do
    let c ← g.conns[i]?
    if c.session.isSome then
      some { g with conns := g.conns.set i { c with
        deliveries := c.deliveries ++ [.sending type reason] } }
    else none
  | .deliver i k => do
    let c ← g.conns[i]?
    let c' ← c.deliver k
    return { g with conns := g.conns.set i c' }
  | .close reason =>
    let reason := if trimSpace reason = "" then "gateway_shutdown" else reason
    some { g with closers := g.closers ++ [⟨reason, .entering⟩] }
  | .closer k pick => do
    let closer ← g.closers[k]?
    g.stepCloser k closer pick

end Gateway

def lifecycle : System Gateway Label := ⟨.initial, Gateway.step⟩

end VoxRtc.Go.Lifecycle
