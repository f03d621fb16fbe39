import VoxRtc.Browser.Signaling
import VoxRtc.Transition.Runs

/-!
# Negotiations of the browser client

`VoxRtcBrowserClient` of `typescript/vox-rtc-client/src/client.ts` over one peer
connection, from the call of `#negotiate` in `connect` on. A promise of the peer
connection takes effect in one step, and the `await` on it continues in a later one.
The handlers an application registers with `on` may call `restartIce` and `disconnect`.

The number of a negotiation is the generation its offer carries. The peer connection
and the candidates bear such numbers, which the code does not have.
-/
namespace VoxRtc.Browser

open Transition Wire VoxRtc.Gateway

inductive Status where
  | connecting
  | connected
  | closed
  deriving DecidableEq, Repr

/-- A candidate of Vox, and the negotiation it was produced for. -/
structure Produced where
  candidate : Json Binary64
  generation : Nat
  deriving Repr

/-- A candidate of the peer connection, and the negotiation of the local description that
was in force when it was emitted. -/
structure Gathered where
  candidate : Json Binary64
  description : Nat
  deriving Repr

/-- A call of `addIceCandidate`, with the remote description it was made under. -/
structure Added where
  produced : Produced
  remoteDescription : Nat
  deriving Repr

/-- A frame to the gateway, and the candidate it carries. -/
structure Sent where
  frame : Outgoing
  gathered : Option Gathered
  deriving Repr

/-- `RTCPeerConnection`: the negotiations its descriptions belong to, zero for none. -/
structure PeerConnection where
  localDescription : Nat
  remoteDescription : Nat
  added : List Added
  deriving Repr

/-- What `#negotiate` waits for. -/
inductive Negotiation where
  | idle
  | creatingOffer (restart : Bool)
  | settingLocal (restart applied : Bool)
  | awaitingAnswer (generation : Nat) (id : String)
  | settingRemote (generation : Nat) (applied : Bool)
  | flushing (rest : List Produced)
  deriving Repr

namespace Negotiation

def isIdle : Negotiation → Bool
  | idle => true
  | _ => false

/-- The offer has not been sent. -/
def unoffered : Negotiation → Bool
  | creatingOffer _ | settingLocal .. => true
  | _ => false

/-- The answer has not been applied, as far as `#negotiate` knows. -/
def unanswered : Negotiation → Bool
  | creatingOffer _ | settingLocal .. | awaitingAnswer .. | settingRemote .. => true
  | _ => false

/-- The new local description is in force and its offer has not been sent. -/
def described : Negotiation → Bool
  | settingLocal _ applied => applied
  | _ => false

theorem described_of_offered {stage : Negotiation} (offered : stage.unoffered = false) :
    stage.described = false := by
  cases stage <;> first | rfl | cases offered

theorem described_of_idle {stage : Negotiation} (idle : stage.isIdle = true) :
    stage.described = false := by
  cases stage <;> first | rfl | cases idle

end Negotiation

structure BrowserClient where
  /-- `#peerConnection` and `#signaling` are null once it is `closed`. -/
  status : Status
  signaling : SignalingClient
  peerConnection : PeerConnection
  pendingLocalCandidates : List Gathered
  pendingServerCandidates : List Produced
  bufferLocalCandidates : Bool
  negotiating : Bool
  awaitingRemoteDescription : Bool
  negotiation : Negotiation
  sent : List Sent
  deriving Repr

/-- A call by a handler of the application. -/
inductive Call where
  | restartIce
  | disconnect
  deriving DecidableEq, Repr

/-- The calls are those of the handlers that run before the candidate is dealt with. -/
inductive Event where
  /-- The media connection is up, and the promise of `connect` resolves. -/
  | connects
  | mediaFails
  | restartIce
  | disconnect
  | offerCreated
  | localApplied
  | localSet (offer : Json Binary64)
  | answered
  | remoteApplied
  | remoteSet
  | candidateAdded
  /-- The promise of the peer connection that `#negotiate` waits for rejects. -/
  | rejects
  | iceCandidate (candidate : Json Binary64) (calls : List Call)
  /-- A candidate is produced for a negotiation; the number means nothing for others. -/
  | receive (delivered : Delivered) (produced : Nat) (calls : List Call)
  | offerTimeout (id : String)
  | socketCloses
  deriving Repr

namespace BrowserClient

def isOpen (c : BrowserClient) : Bool := c.status != .closed

def send (c : BrowserClient) (result : SignalingClient × Option Outgoing)
    (gathered : Option Gathered) : BrowserClient :=
  { c with
    signaling := result.1, sent := c.sent ++ result.2.toList.map fun frame => ⟨frame, gathered⟩ }

/-- `#cleanup`, and the status its callers set next. -/
def cleanup (c : BrowserClient) (reason : String) : BrowserClient :=
  { c.send (c.signaling.close reason) none with
    status := .closed
    pendingLocalCandidates := []
    pendingServerCandidates := []
    bufferLocalCandidates := false
    negotiating := false
    awaitingRemoteDescription := false }

def disconnect (c : BrowserClient) : BrowserClient := c.cleanup "client_disconnected"

/-- `#negotiate` up to its first `await`, unless it throws. -/
def negotiate (c : BrowserClient) (restart : Bool) : Option BrowserClient :=
  if c.status = .closed ∨ c.negotiating then none
  else some { c with
    negotiating := true
    awaitingRemoteDescription := true
    bufferLocalCandidates := true
    pendingLocalCandidates := []
    negotiation := .creatingOffer restart }

/-- `restartIce` up to its first `await`, and whether its `catch` is going to disconnect
as soon as the running task is over. -/
def restartIce (c : BrowserClient) : BrowserClient × Bool :=
  -- A client that is not connected throws before the `try`.
  if c.status = .connected then
    match c.negotiate true with
    | some c => (c, false)
    | none => (c, true)
  else (c, false)

def call (r : BrowserClient × Bool) : Call → BrowserClient × Bool
  | .restartIce => (r.1.restartIce.1, r.2 || r.1.restartIce.2)
  | .disconnect => (r.1.disconnect, r.2)

/-- `#emit`. -/
def emit (c : BrowserClient) (calls : List Call) : BrowserClient × Bool :=
  calls.foldl call (c, false)

/-- The end of a task. -/
def taskEnds (c : BrowserClient) (refused : Bool) : BrowserClient :=
  if refused then c.disconnect else c

def addIceCandidate (c : BrowserClient) (p : Produced) : BrowserClient :=
  { c with peerConnection := { c.peerConnection with
    added := c.peerConnection.added ++ [⟨p, c.peerConnection.remoteDescription⟩] } }

/-- What `#candidateFromSignaling` returns; `none` when it throws. -/
def candidateFromSignaling (data : Members Binary64) : Option (Json Binary64) :=
  match data.get? "candidate" with
  | none | some .null => some .null
  | some (.obj fields) =>
    match Members.get? fields "candidate" with
    | some (.str text) =>
      let orNull (value : Option (Json Binary64)) (typed : Json Binary64 → Bool) :=
        (value.filter typed).getD .null
      let isString (value : Json Binary64) := value.str?.isSome
      let isNumber (value : Json Binary64) := match value with
        | .num _ => true
        | _ => false
      some (.obj [("candidate", .str text),
        ("sdpMid", orNull (Members.get? fields "sdpMid") isString),
        ("sdpMLineIndex", orNull (Members.get? fields "sdpMLineIndex") isNumber),
        ("usernameFragment", orNull (Members.get? fields "usernameFragment") isString)])
    | _ => none
  | _ => none

/-- A candidate of Vox, in `#handleSignalingEvent`. -/
def serverCandidate (c : BrowserClient) (p : Produced) : BrowserClient :=
  -- The candidate waits for the remote description of the negotiation that is under way.
  if c.status = .closed ∨ c.peerConnection.remoteDescription = 0 ∨ c.awaitingRemoteDescription then
    { c with pendingServerCandidates := c.pendingServerCandidates ++ [p] }
  else c.addIceCandidate p

/-- `#handleSignalingEvent`, after its handlers. A candidate it cannot read throws. -/
def signalingEvent (c : BrowserClient) (frame : Frame Binary64) (produced : Nat) : BrowserClient :=
  if frame.type = "rtc.ice_candidate" then
    match candidateFromSignaling frame.data with
    | some candidate => c.serverCandidate ⟨candidate, produced⟩
    | none => c
  else if frame.type = "rtc.session.closed" ∧ c.status ≠ .closed then c.cleanup "client_cleanup"
  else c

def handleSignalingEvent (c : BrowserClient) (frame : Frame Binary64) (produced : Nat)
    (calls : List Call) : BrowserClient :=
  let (c, refused) := c.emit calls
  (c.signalingEvent frame produced).taskEnds refused

/-- The signaling client takes a frame. -/
def dispatched (c : BrowserClient) (d : Delivered) : BrowserClient :=
  { c with signaling := c.signaling.dispatch d }

def receive (c : BrowserClient) (d : Delivered) (produced : Nat) (calls : List Call) :
    BrowserClient :=
  if c.signaling.passesOn d.frame then
    (c.dispatched d).handleSignalingEvent d.frame produced calls
  else c.dispatched d

def sendLocalCandidate (c : BrowserClient) (g : Gathered) : BrowserClient :=
  if c.status = .closed then c else c.send (c.signaling.sendCandidate g.candidate) (some g)

def flushLocalCandidates (c : BrowserClient) : BrowserClient :=
  c.pendingLocalCandidates.foldl sendLocalCandidate { c with pendingLocalCandidates := [] }

/-- The buffer check of `pc.onicecandidate`. -/
def localCandidate (c : BrowserClient) (g : Gathered) : BrowserClient :=
  if c.bufferLocalCandidates then
    { c with pendingLocalCandidates := c.pendingLocalCandidates ++ [g] }
  else c.sendLocalCandidate g

/-- `pc.onicecandidate`. -/
def onIceCandidate (c : BrowserClient) (candidate : Json Binary64) (calls : List Call) :
    BrowserClient :=
  let gathered := ⟨candidate, c.peerConnection.localDescription⟩
  let (c, refused) := c.emit calls
  (c.localCandidate gathered).taskEnds refused

/-- The `finally` of `#negotiate`. -/
def finishes (c : BrowserClient) : BrowserClient :=
  { c with
    bufferLocalCandidates := false
    pendingLocalCandidates := []
    awaitingRemoteDescription := false
    negotiating := false
    negotiation := .idle }

/-- `#negotiate` rejects; the `catch` of its caller cleans up. -/
def fails (c : BrowserClient) (reason : String) : BrowserClient := c.finishes.cleanup reason

/-- The reason its caller closes with. -/
def failReason (c : BrowserClient) : String :=
  if c.status = .connecting then "client_cleanup" else "client_disconnected"

/-- `#negotiate` after `setLocalDescription`, up to the answer. -/
def localSet (c : BrowserClient) (offer : Json Binary64) (restart : Bool) : BrowserClient :=
  -- The offer goes first, then the candidates that were kept for it.
  let exchange := c.signaling.exchangeOffer offer restart
  { c.send exchange none with
    bufferLocalCandidates := false
    negotiation := .awaitingAnswer exchange.1.negotiationGeneration
      (frameId Command.offer.stem exchange.1.nextId) }.flushLocalCandidates

/-- The loop of `#flushServerCandidates`, up to its next `await`. -/
def flush (c : BrowserClient) : List Produced → BrowserClient
  | [] => c.finishes
  | p :: rest => { c.addIceCandidate p with negotiation := .flushing rest }

/-- `#negotiate` after `setRemoteDescription`. -/
def remoteSet (c : BrowserClient) : BrowserClient :=
  -- The client has been closed during the await; there is nothing left to flush.
  if c.status = .closed then c.finishes
  else { c with
    awaitingRemoteDescription := false, pendingServerCandidates := [] }.flush
      c.pendingServerCandidates

/-- `connect` has called `#negotiate({ restart: false })`. -/
def initial : BrowserClient where
  status := .connecting
  signaling := { SignalingClient.initial with socket := .opened, handshake := .ready }
  peerConnection := ⟨0, 0, []⟩
  pendingLocalCandidates := []
  pendingServerCandidates := []
  bufferLocalCandidates := true
  negotiating := true
  awaitingRemoteDescription := true
  negotiation := .creatingOffer false
  sent := []

/-- The await of `#negotiate` continues, or its promise takes effect. -/
def resume (c : BrowserClient) : Event → Option BrowserClient
  | .offerCreated => match c.negotiation with
    | .creatingOffer restart => some { c with negotiation := .settingLocal restart false }
    | _ => none
  | .localApplied => match c.negotiation with
    | .settingLocal restart false => some { c with
        negotiation := .settingLocal restart true
        peerConnection := { c.peerConnection with
          localDescription := c.signaling.negotiationGeneration + 1 } }
    | _ => none
  | .localSet offer => match c.negotiation with
    | .settingLocal restart true => some (c.localSet offer restart)
    | _ => none
  | .answered => match c.negotiation with
    | .awaitingAnswer generation id => match c.signaling.settlements.lookup id with
      | some (.resolved ..) => some { c with negotiation := .settingRemote generation false }
      -- The answer is an error, or its time is up.
      | some _ => some (c.fails c.failReason)
      | none => none
    | _ => none
  | .remoteApplied => match c.negotiation with
    | .settingRemote generation false => some { c with
        negotiation := .settingRemote generation true
        peerConnection := { c.peerConnection with remoteDescription := generation } }
    | _ => none
  | .remoteSet => match c.negotiation with
    | .settingRemote _ true => some c.remoteSet
    | _ => none
  | .candidateAdded => match c.negotiation with
    | .flushing rest => some (c.flush rest)
    | _ => none
  | .rejects => match c.negotiation with
    | .idle | .awaitingAnswer .. => none
    | _ => some (c.fails c.failReason)
  | _ => none

/-- The peer connection has candidates for a local description only, and Vox produces
candidates for offers only, under the generation of the offer. -/
def step (c : BrowserClient) : Event → Option BrowserClient
  | .connects =>
    -- `Promise.all` waits for the negotiation as well as for the media.
    if c.status = .connecting ∧ c.negotiation.isIdle then some { c with status := .connected }
    else none
  | .mediaFails => if c.isOpen then some (c.cleanup "client_cleanup") else none
  | .restartIce => some (c.restartIce.1.taskEnds c.restartIce.2)
  | .disconnect => some c.disconnect
  | .iceCandidate candidate calls =>
    if c.isOpen ∧ 0 < c.peerConnection.localDescription then some (c.onIceCandidate candidate calls)
    else none
  | .receive d produced calls =>
    if c.isOpen ∧ (d.frame.type = "rtc.ice_candidate" → 0 < produced ∧ SignalingClient.carries d.frame produced) then
      some (c.receive d produced calls)
    else none
  | .offerTimeout id => (c.signaling.timeout id).map fun signaling => { c with signaling := signaling }
  | .socketCloses =>
    if c.isOpen then
      c.signaling.socketClosed.map fun signaling =>
        { c with signaling := signaling }.cleanup "client_cleanup"
    else none
  | e => c.resume e

end BrowserClient

def negotiations : System BrowserClient Event := ⟨.initial, BrowserClient.step⟩

end VoxRtc.Browser
