import VoxRtc.Program.Body
import VoxRtc.Wire.Json

/-!
# Connection attempts of the browser client

`VoxRtcBrowserClient` of `typescript/vox-rtc-client/src/client.ts`: its fields, and the
parts of it that run without an `await`. An attempt is a call of `connect` that passes the
check of its status. The signaling client and the peer connection it creates, at most one
of each, are filed under its number, and so is the place its call has reached. Of the calls
that a listener may make while a step runs, `disconnect` is the one that is modelled there: a
`connect` or a `restartIce` that a listener calls synchronously is left out.
-/
namespace VoxRtc.Browser.Attempts

open Program Wire

inductive Status where
  | idle
  | connecting
  | connected
  | disconnecting
  | closed
  deriving DecidableEq, Repr

/-- `MediaConnectionCancelledError`, or any other error. -/
inductive Thrown where
  | cancelled
  | failed
  deriving DecidableEq, Repr

/-- `RTCPeerConnection.connectionState`. -/
inductive PeerState where
  | new
  | connecting
  | connected
  | disconnected
  | failed
  | closed
  deriving DecidableEq, Repr

def PeerState.dead : PeerState → Bool
  | failed | closed => true
  | _ => false

structure Peer where
  connectionState : PeerState := .new
  remoteDescription : Bool := false
  /-- It has entered `failed` or `closed`; no part of the code keeps this. -/
  died : Bool := false
  deriving DecidableEq, Repr

def Peer.enter (p : Peer) (state : PeerState) : Peer :=
  { p with connectionState := state, died := p.died || state.dead }

/-- The socket of a `GatewaySignalingClient` is there, it closed by itself, or `close` was
called. -/
inductive SignalingState where
  | opened
  | gone
  | closed
  deriving DecidableEq, Repr

/-- Where a call of `connect` is. -/
inductive Stage where
  | unstarted
  /-- It has its number. -/
  | starting
  /-- At `signaling.connect()`. -/
  | signaling
  /-- It has its peer connection. -/
  | opening
  /-- At `getUserMedia`. -/
  | microphone
  /-- At `Promise.all`: whether `#negotiate` and the media wait have resolved. -/
  | joining (negotiated connected : Bool)
  /-- A promise of `Promise.all` has rejected, and the call has not seen it. -/
  | rejecting (error : Thrown)
  | resolved
  | rejected
  deriving DecidableEq, Repr

structure Attempt where
  stage : Stage := .unstarted
  /-- The audio constraints are not `false`. -/
  audio : Bool := false
  signaling : Option SignalingState := none
  peer : Option Peer := none
  deriving DecidableEq, Repr

namespace Attempt

/-- A promise of `Promise.all` rejects. -/
def rejects (error : Thrown) (a : Attempt) : Attempt :=
  match a.stage with
  | .joining _ _ => { a with stage := .rejecting error }
  | _ => a

/-- The media wait resolves. -/
def connects (a : Attempt) : Attempt :=
  match a.stage with
  | .joining negotiated _ => { a with stage := .joining negotiated true }
  | _ => a

/-- `#negotiate` resolves. -/
def negotiates (a : Attempt) : Attempt :=
  match a.stage with
  | .joining _ connected => { a with stage := .joining true connected }
  | _ => a

def closeSignaling (a : Attempt) : Attempt :=
  { a with signaling := a.signaling.map fun _ => .closed }

def closePeer (a : Attempt) : Attempt := { a with peer := a.peer.map (·.enter .closed) }

end Attempt

abbrev Candidate := Json Binary64

/-- What a call of `#negotiate` waits for. The candidates still to add belong to the peer
connection that was current when `#flushServerCandidates` took them. -/
inductive NegotiationStage where
  | creatingOffer
  | settingLocal
  | awaitingAnswer
  | settingRemote (applied : Bool)
  | flushing (rest : List Candidate)
  | resolved
  | rejected
  /-- `restartIce` has dealt with the rejection. -/
  | handled
  deriving Repr

/-- A call of `#negotiate`: the attempt it belongs to, and the one whose peer connection it
works on. -/
structure Negotiation where
  attempt : Nat
  restart : Bool
  peerConnection : Option Nat
  stage : NegotiationStage
  deriving Repr

/-- Where a call of `replaceMicrophone` is. -/
inductive Replacement where
  | acquiring
  | replacing (stream : Nat)
  | settled
  deriving DecidableEq, Repr

structure VoxRtcBrowserClient where
  status : Status
  connectionAttempt : Nat
  /-- The number of the last attempt; the code does not keep it. -/
  started : Nat
  /-- `#signaling`, `#peerConnection`: the attempts that created them. -/
  signaling : Option Nat
  peerConnection : Option Nat
  /-- `#dataChannel` is not null. -/
  dataChannel : Bool
  localStream : Option Nat
  pendingLocalCandidates : List Candidate
  pendingServerCandidates : List Candidate
  bufferLocalCandidates : Bool
  negotiating : Bool
  awaitingRemoteDescription : Bool
  /-- `#mediaConnectionWait`: its attempt, which created its peer connection. -/
  mediaConnectionWait : Option Nat
  attempts : Nat → Attempt
  negotiations : List Negotiation
  replacements : List Replacement
  /-- How many streams `getUserMedia` has handed out, and those of them not stopped. -/
  acquired : Nat
  live : List Nat

namespace VoxRtcBrowserClient

def initial : VoxRtcBrowserClient where
  status := .idle
  connectionAttempt := 0
  started := 0
  signaling := none
  peerConnection := none
  dataChannel := false
  localStream := none
  pendingLocalCandidates := []
  pendingServerCandidates := []
  bufferLocalCandidates := false
  negotiating := false
  awaitingRemoteDescription := false
  mediaConnectionWait := none
  attempts := fun _ => {}
  negotiations := []
  replacements := []
  acquired := 0
  live := []

/-- `connecting` or `connected`. -/
def isOpen (c : VoxRtcBrowserClient) : Bool :=
  c.status == .connecting || c.status == .connected

def alter (c : VoxRtcBrowserClient) (a : Nat) (f : Attempt → Attempt) : VoxRtcBrowserClient :=
  { c with attempts := fun b => if b = a then f (c.attempts b) else c.attempts b }

def setStage (c : VoxRtcBrowserClient) (a : Nat) (stage : Stage) : VoxRtcBrowserClient :=
  c.alter a ({ · with stage := stage })

/-- `connectionState` of the peer connection that the attempt created. -/
def connectionState (c : VoxRtcBrowserClient) (a : Nat) : Option PeerState :=
  (c.attempts a).peer.map (·.connectionState)

def rejectMediaConnectionWait (c : VoxRtcBrowserClient) (error : Thrown) : VoxRtcBrowserClient :=
  match c.mediaConnectionWait with
  | none => c
  | some a => { c with mediaConnectionWait := none }.alter a (·.rejects error)

def resolveMediaConnectionWait (c : VoxRtcBrowserClient) (peer : Nat) : VoxRtcBrowserClient :=
  match c.mediaConnectionWait with
  | none => c
  | some a =>
    -- The wait of an attempt that has ended is left to be rejected.
    if a = peer ∧ a = c.connectionAttempt then
      { c with mediaConnectionWait := none }.alter a (·.connects)
    else c

def isActiveConnectionAttempt (c : VoxRtcBrowserClient) (a : Nat) : Bool :=
  a == c.connectionAttempt && c.status == .connecting

/-- `#connectionAttempt += 1`, and the media wait rejects. -/
def cancel (c : VoxRtcBrowserClient) (error : Thrown) : VoxRtcBrowserClient :=
  { c with connectionAttempt := c.connectionAttempt + 1 }.rejectMediaConnectionWait error

/-- `#signaling?.close`. -/
def closeSignaling (c : VoxRtcBrowserClient) : VoxRtcBrowserClient :=
  match c.signaling with
  | none => c
  | some a => c.alter a (·.closeSignaling)

def closePeer (c : VoxRtcBrowserClient) : VoxRtcBrowserClient :=
  match c.peerConnection with
  | none => c
  | some a => c.alter a (·.closePeer)

def stopStream (c : VoxRtcBrowserClient) (stream : Option Nat) : VoxRtcBrowserClient :=
  { c with live := c.live.filter fun k => some k ≠ stream }

/-- The fields `#cleanup` resets once everything is closed. -/
def clear (c : VoxRtcBrowserClient) : VoxRtcBrowserClient :=
  { c with
    signaling := none
    peerConnection := none
    dataChannel := false
    localStream := none
    pendingLocalCandidates := []
    pendingServerCandidates := []
    bufferLocalCandidates := false
    negotiating := false
    awaitingRemoteDescription := false }

def cleanup (c : VoxRtcBrowserClient) : VoxRtcBrowserClient :=
  let c := (c.rejectMediaConnectionWait .cancelled).closeSignaling.closePeer
  (c.stopStream c.localStream).clear

/-- `#cleanup`, and the status set next. -/
def shut (c : VoxRtcBrowserClient) : VoxRtcBrowserClient := { c.cleanup with status := .closed }

/-- A new attempt takes its number and sets the status. -/
def begins (c : VoxRtcBrowserClient) (audio : Bool) : VoxRtcBrowserClient :=
  { c with
    status := .connecting
    connectionAttempt := c.connectionAttempt + 1
    started := c.connectionAttempt + 1 }.alter (c.connectionAttempt + 1)
      ({ · with audio := audio, stage := .starting })

def openSignaling (c : VoxRtcBrowserClient) (a : Nat) : VoxRtcBrowserClient :=
  { c with signaling := some a }.alter a
    ({ · with signaling := some .opened, stage := .signaling })

def openPeer (c : VoxRtcBrowserClient) (a : Nat) : VoxRtcBrowserClient :=
  { c with peerConnection := some a }.alter a ({ · with peer := some {}, stage := .opening })

/-- `#mediaConnectionWait` is set. -/
def awaitMedia (c : VoxRtcBrowserClient) (a : Nat) : VoxRtcBrowserClient :=
  { c with mediaConnectionWait := some a }.setStage a (.joining false false)

/-- `#negotiate` up to its first `await`, past its checks. -/
def negotiates (c : VoxRtcBrowserClient) (a : Nat) (restart : Bool) : VoxRtcBrowserClient :=
  { c with
    negotiating := true
    awaitingRemoteDescription := true
    bufferLocalCandidates := true
    pendingLocalCandidates := []
    negotiations := c.negotiations ++ [⟨a, restart, c.peerConnection, .creatingOffer⟩] }

/-- `#negotiate` throws in one of its checks: no flag changes. -/
def refuses (c : VoxRtcBrowserClient) (a : Nat) : VoxRtcBrowserClient :=
  { c with negotiations := c.negotiations ++ [⟨a, true, c.peerConnection, .rejected⟩] }

def setNegotiation (c : VoxRtcBrowserClient) (n : Nat) (call : Negotiation)
    (stage : NegotiationStage) : VoxRtcBrowserClient :=
  { c with negotiations := c.negotiations.set n { call with stage := stage } }

/-- The kept candidates are taken from their buffer, which is no longer filled. -/
def takeLocalCandidates (c : VoxRtcBrowserClient) : VoxRtcBrowserClient :=
  { c with bufferLocalCandidates := false, pendingLocalCandidates := [] }

/-- The `finally` of `#negotiate`. -/
def finishes (c : VoxRtcBrowserClient) : VoxRtcBrowserClient :=
  { c with
    bufferLocalCandidates := false
    pendingLocalCandidates := []
    awaitingRemoteDescription := false
    negotiating := false }

/-- `#negotiate` resolves, in `connect` or in `restartIce`. -/
def negotiated (c : VoxRtcBrowserClient) (n : Nat) (call : Negotiation) : VoxRtcBrowserClient :=
  let c := c.finishes.setNegotiation n call .resolved
  if call.restart then c else c.alter call.attempt (·.negotiates)

/-- `#negotiate` rejects. -/
def negotiationFails (c : VoxRtcBrowserClient) (n : Nat) (call : Negotiation) :
    VoxRtcBrowserClient :=
  let c := c.finishes.setNegotiation n call .rejected
  if call.restart then c else c.alter call.attempt (·.rejects .failed)

/-- `getUserMedia` hands out a stream, which gets the number `acquired`. -/
def acquires (c : VoxRtcBrowserClient) : VoxRtcBrowserClient :=
  { c with acquired := c.acquired + 1, live := c.live ++ [c.acquired] }

def setReplacement (c : VoxRtcBrowserClient) (n : Nat) (r : Replacement) : VoxRtcBrowserClient :=
  { c with replacements := c.replacements.set n r }

/-- The end of `replaceMicrophone`, but for the event. -/
def replaces (c : VoxRtcBrowserClient) (stream : Nat) : VoxRtcBrowserClient :=
  { c.stopStream c.localStream with localStream := some stream }

abbrev Body := EStateM Thrown VoxRtcBrowserClient Unit

/-- `disconnect`, given what the listeners do at its two events. -/
def disconnect (disconnecting closed : Body) : Body := do
  modify (·.cancel .cancelled)
  let c ← get
  -- A client that is not open is cleaned up without `disconnecting`.
  if c.status = .closed ∨ c.status = .idle then do
    modify shut
    closed
  else do
    modify ({ · with status := .disconnecting })
    disconnecting
    modify closeSignaling
    modify shut
    closed

end VoxRtcBrowserClient

open VoxRtcBrowserClient

/-- What the listeners do together when an event is emitted. `disconnect` is asynchronous:
a listener that throws at one of its events does not stop the listener that called it. -/
inductive Reaction where
  | returns
  | throws
  | disconnects (disconnecting closed rest : Reaction)
  deriving DecidableEq, Repr

/-- `#emit`. -/
def Reaction.emit : Reaction → Body
  | returns => pure ()
  | throws => throw .failed
  | disconnects disconnecting closed rest => do
    tryCatch (disconnect disconnecting.emit closed.emit) fun _ => pure ()
    rest.emit

/-- What the listeners do at the events of one step. -/
structure Listeners where
  connecting : Reaction := .returns
  session : Reaction := .returns
  /-- The state is emitted when a data channel is bound. -/
  channel : Reaction := .returns
  localStream : Reaction := .returns
  /-- The state is emitted when that of the peer connection is looked at. -/
  peer : Reaction := .returns
  /-- Candidates that could not be sent, all together. -/
  sending : Reaction := .returns
  /-- What `#handleSignalingEvent` emits first, or `localIceCandidate`. -/
  event : Reaction := .returns
  connected : Reaction := .returns
  error : Reaction := .returns
  disconnecting : Reaction := .returns
  closed : Reaction := .returns
  deriving Repr

namespace VoxRtcBrowserClient

def require (p : Prop) [Decidable p] (error : Thrown) : Body :=
  if p then pure () else throw error

def assertActiveConnectionAttempt (a : Nat) : Body := do
  let c ← get
  require (c.isActiveConnectionAttempt a) .cancelled

/-- `#handlePeerConnectionStateChange` after it has emitted the state. -/
def dealWithPeerState (a : Nat) (l : Listeners) : Body := do
  let c ← get
  -- The peer connection is not the one of the client any more.
  if c.peerConnection ≠ some a then pure ()
  else if c.connectionState a = some .connected then modify (·.resolveMediaConnectionWait a)
  else if (c.connectionState a).all (!·.dead) then pure ()
  else if c.status = .connecting then modify (·.rejectMediaConnectionWait .failed)
  else if c.status = .connected then do
    modify fun c => { c with connectionAttempt := c.connectionAttempt + 1 }
    l.error.emit
    modify shut
    l.closed.emit
  else pure ()

def handlePeerConnectionStateChange (a : Nat) (l : Listeners) : Body := do
  l.peer.emit
  dealWithPeerState a l

/-- `#waitForMediaConnection`, for the peer connection that the attempt created. -/
def waitForMediaConnection (a : Nat) (l : Listeners) : Body := do
  let c ← get
  require (c.mediaConnectionWait = none) .failed
  if c.connectionState a = some .connected then modify (·.setStage a (.joining false true))
  else if (c.connectionState a).any (·.dead) then modify (·.setStage a (.rejecting .failed))
  else do
    modify (·.awaitMedia a)
    -- it runs in the executor of a promise, which a throw rejects
    tryCatch (handlePeerConnectionStateChange a l) fun error => modify (·.alter a (·.rejects error))

def negotiate (a : Nat) (restart : Bool) : Body := do
  let c ← get
  require (c.peerConnection ≠ none ∧ c.signaling ≠ none) .failed
  require (¬c.negotiating) .failed
  modify (·.negotiates a restart)

/-- `connect` from the media wait up to `Promise.all`. -/
def join (a : Nat) (l : Listeners) : Body := do
  waitForMediaConnection a l
  tryCatch (negotiate a false) fun error => modify (·.alter a (·.rejects error))

/-- The `catch` of `connect`. -/
def recover (a : Nat) (l : Listeners) (error : Thrown) : Body := do
  let c ← get
  -- A call whose number has been passed leaves the client alone.
  if c.connectionAttempt = a then do
    modify (·.cancel error)
    (if error = .cancelled then pure () else l.error.emit : Body)
    modify shut
    l.closed.emit
  else pure ()

/-- A part of the `try` of `connect`, between two of its `await`s. -/
def attempting (a : Nat) (l : Listeners) (body : Body) : Body :=
  tryCatch body fun error => do
    tryCatch (recover a l error) fun _ => pure ()
    modify (·.setStage a .rejected)

/-- `connect` up to its first `await`: the status is set outside of its `try`. -/
def connect (audio : Bool) (l : Listeners) : Body := do
  let c ← get
  -- A client that is disconnecting may connect as well.
  require (¬c.isOpen) .failed
  modify (·.begins audio)
  tryCatch (do
      l.connecting.emit
      modify (·.openSignaling (c.connectionAttempt + 1)))
    fun _ => modify (·.setStage (c.connectionAttempt + 1) .rejected)

/-- `connect` after `signaling.connect()`. -/
def bootstrap (a : Nat) (factory channel : Bool) (l : Listeners) : Body := do
  assertActiveConnectionAttempt a
  l.session.emit
  require factory .failed
  modify (·.openPeer a)
  require channel .failed
  modify ({ · with dataChannel := true })
  l.channel.emit
  let c ← get
  if (c.attempts a).audio then modify (·.setStage a .microphone) else join a l

/-- `connect` after `getUserMedia`, which handed out `stream`. -/
def useMicrophone (a stream : Nat) (tracks : Bool) (l : Listeners) : Body := do
  let c ← get
  if c.isActiveConnectionAttempt a then do
    modify ({ · with localStream := some stream })
    require tracks .failed
    l.localStream.emit
    join a l
  else do
    -- The attempt is over, and nobody else knows of the stream.
    modify (·.stopStream (some stream))
    throw .cancelled

/-- `connect` after `Promise.all`. -/
def conclude (a : Nat) (l : Listeners) : Body := do
  assertActiveConnectionAttempt a
  modify ({ · with status := .connected })
  l.connected.emit
  modify (·.setStage a .resolved)

/-- `restartIce` up to its first `await`. -/
def restartIce : Body := do
  let c ← get
  require (c.status = .connected ∧ c.peerConnection ≠ none ∧ c.signaling ≠ none) .failed
  tryCatch (negotiate c.connectionAttempt true) fun _ => modify (·.refuses c.connectionAttempt)

/-- The `catch` of `restartIce`. -/
def restartFails (l : Listeners) : Body := do
  l.error.emit
  disconnect l.disconnecting.emit l.closed.emit

/-- `#negotiate` after `setLocalDescription`, up to the answer; `sdp` is what it checks. -/
def localSet (n : Nat) (call : Negotiation) (sdp : Bool) (l : Listeners) : Body :=
  tryCatch (do
      require sdp .failed
      let c ← get
      modify takeLocalCandidates
      (if c.pendingLocalCandidates.isEmpty then pure () else l.sending.emit : Body)
      modify (·.setNegotiation n call .awaitingAnswer))
    fun _ => modify (·.negotiationFails n call)

/-- `#negotiate` after `setRemoteDescription`, up to the candidates. -/
def remoteSet (n : Nat) (call : Negotiation) : Body := do
  modify ({ · with awaitingRemoteDescription := false })
  let c ← get
  -- Without a peer connection the candidates stay in their buffer.
  if c.peerConnection = none then modify (·.setNegotiation n call (.flushing []))
  else do
    modify ({ · with pendingServerCandidates := [] })
    modify (·.setNegotiation n call (.flushing c.pendingServerCandidates))

def handleUnexpectedSignalingClose (l : Listeners) : Body := do
  let c ← get
  if c.isOpen then do
    modify (·.cancel .failed)
    l.error.emit
    modify shut
    l.closed.emit
  else pure ()

/-- `rtc.session.closed`, in `#handleSignalingEvent`. -/
def sessionClosed (l : Listeners) : Body := do
  l.event.emit
  let c ← get
  if c.status = .closed then pure ()
  else do
    modify shut
    l.closed.emit

/-- `rtc.ice_candidate`, in `#handleSignalingEvent`. -/
def serverCandidate (candidate : Candidate) (l : Listeners) : Body := do
  l.event.emit
  modify fun c =>
    let described := c.peerConnection.bind fun a => (c.attempts a).peer.map (·.remoteDescription)
    -- It waits for the remote description, which a restart asks for anew.
    if described ≠ some true ∨ c.awaitingRemoteDescription then
      { c with pendingServerCandidates := c.pendingServerCandidates ++ [candidate] }
    else c

/-- `pc.onicecandidate`. -/
def localCandidate (candidate : Candidate) (l : Listeners) : Body := do
  l.event.emit
  let c ← get
  if c.bufferLocalCandidates then
    modify ({ · with pendingLocalCandidates := c.pendingLocalCandidates ++ [candidate] })
  else l.sending.emit

/-- How `replaceMicrophone` goes on with its stream: the stream has no audio track, there
is a sender whose track is replaced, or the track is added, which may throw. -/
inductive Sender where
  | noTrack
  | sender
  | added (ok : Bool)
  deriving DecidableEq, Repr

/-- `replaceMicrophone` after `getUserMedia`. Without a peer connection it throws. -/
def useReplacement (n stream : Nat) (how : Sender) (l : Listeners) : Body := do
  let c ← get
  match how with
  | .noTrack => modify (·.stopStream (some stream))
  | .sender =>
    if c.peerConnection = none then throw .failed
    else modify (·.setReplacement n (.replacing stream))
  | .added ok => do
    require (c.peerConnection ≠ none ∧ ok) .failed
    modify (·.replaces stream)
    l.localStream.emit

/-- `replaceMicrophone` after `replaceTrack`. -/
def replaced (stream : Nat) (l : Listeners) : Body := do
  modify (·.replaces stream)
  l.localStream.emit

end VoxRtcBrowserClient

end VoxRtc.Browser.Attempts
