import VoxRtc.Browser.Attempts
import VoxRtc.Transition.Runs

/-!
# Calls of the browser client

The steps of `VoxRtcBrowserClient`: a call of one of its methods up to the first `await`,
the continuation of a call once the promise it waits for has settled, and the events of
peer connections and signaling clients. In which order promises settle is left open. The
listeners may return, throw or call `disconnect`; other calls are steps of their own.
-/
namespace VoxRtc.Browser.Attempts

open Program Transition

/-- How a call of `connect` goes on. -/
inductive Resumption where
  /-- Whether `peerConnectionFactory` and `createDataChannel` return. -/
  | signalingResolves (factory channel : Bool)
  | signalingRejects
  /-- Whether every `addTrack` returns. -/
  | microphoneResolves (tracks : Bool)
  | microphoneRejects
  | joinResolves
  | joinRejects
  deriving DecidableEq, Repr

/-- How a call of `#negotiate` goes on, up to the `catch` of `restartIce`. -/
inductive NegotiationEvent where
  | offerCreated
  /-- Whether the local description has an SDP. -/
  | localSet (sdp : Bool)
  | answered
  /-- The remote description is in force; the call goes on in a later step. -/
  | remoteApplied
  | remoteSet
  | candidateAdded
  | flushed
  | rejects
  | restartFails
  deriving DecidableEq, Repr

/-- How a call of `replaceMicrophone` goes on. -/
inductive ReplacementEvent where
  | acquired (how : VoxRtcBrowserClient.Sender)
  | refused
  | replaced
  | rejects
  deriving DecidableEq, Repr

inductive Event where
  | connect (audio : Bool) (l : Listeners)
  | disconnect (l : Listeners)
  | restartIce
  | replaceMicrophone
  | resumes (a : Nat) (e : Resumption) (l : Listeners)
  | negotiation (n : Nat) (e : NegotiationEvent) (l : Listeners)
  | replacement (n : Nat) (e : ReplacementEvent) (l : Listeners)
  | peerState (a : Nat) (state : PeerState) (l : Listeners)
  | dataChannel (a : Nat) (l : Listeners)
  | localCandidate (a : Nat) (candidate : Candidate) (l : Listeners)
  | mediaTimeout
  | signalingCloses (a : Nat) (l : Listeners)
  | sessionClosed (a : Nat) (l : Listeners)
  | serverCandidate (a : Nat) (candidate : Candidate) (l : Listeners)
  deriving Repr

namespace VoxRtcBrowserClient

def resume (c : VoxRtcBrowserClient) (a : Nat) (l : Listeners) :
    Resumption → Option VoxRtcBrowserClient
  | .signalingResolves factory channel =>
    if (c.attempts a).stage = .signaling then
      some (after (attempting a l (bootstrap a factory channel l)) c)
    else none
  | .signalingRejects =>
    if (c.attempts a).stage = .signaling then some (after (attempting a l (throw .failed)) c)
    else none
  | .microphoneResolves tracks =>
    if (c.attempts a).stage = .microphone then
      some (after (attempting a l (useMicrophone a c.acquired tracks l)) c.acquires)
    else none
  | .microphoneRejects =>
    if (c.attempts a).stage = .microphone then some (after (attempting a l (throw .failed)) c)
    else none
  | .joinResolves =>
    if (c.attempts a).stage = .joining true true then
      some (after (attempting a l (conclude a l)) c)
    else none
  | .joinRejects => match (c.attempts a).stage with
    | .rejecting error => some (after (attempting a l (throw error)) c)
    | _ => none

/-- The remote description of the peer connection is set. -/
def describe (c : VoxRtcBrowserClient) : Option Nat → VoxRtcBrowserClient
  | none => c
  | some a => c.alter a fun t => { t with peer := t.peer.map ({ · with remoteDescription := true }) }

def continues (c : VoxRtcBrowserClient) (n : Nat) (call : Negotiation) (l : Listeners) :
    NegotiationEvent → Option VoxRtcBrowserClient
  | .offerCreated => match call.stage with
    | .creatingOffer => some (c.setNegotiation n call .settingLocal)
    | _ => none
  | .localSet sdp => match call.stage with
    | .settingLocal => some (after (localSet n call sdp l) c)
    | _ => none
  | .answered => match call.stage with
    | .awaitingAnswer => some (c.setNegotiation n call (.settingRemote false))
    | _ => none
  | .remoteApplied => match call.stage with
    | .settingRemote false =>
      some ((c.describe call.peerConnection).setNegotiation n call (.settingRemote true))
    | _ => none
  | .remoteSet => match call.stage with
    | .settingRemote true => some (after (remoteSet n call) c)
    | _ => none
  | .candidateAdded => match call.stage with
    | .flushing (_ :: rest) => some (c.setNegotiation n call (.flushing rest))
    | _ => none
  | .flushed => match call.stage with
    | .flushing [] => some (c.negotiated n call)
    | _ => none
  | .rejects => match call.stage with
    | .creatingOffer | .settingLocal | .awaitingAnswer | .settingRemote false
    | .flushing (_ :: _) => some (c.negotiationFails n call)
    | _ => none
  | .restartFails => match call.restart, call.stage with
    | true, .rejected => some (after (restartFails l) (c.setNegotiation n call .handled))
    | _, _ => none

def replace (c : VoxRtcBrowserClient) (n : Nat) (l : Listeners) :
    ReplacementEvent → Replacement → Option VoxRtcBrowserClient
  | .acquired how, .acquiring =>
    some (after (useReplacement n c.acquired how l) (c.setReplacement n .settled).acquires)
  | .refused, .acquiring => some (c.setReplacement n .settled)
  | .replaced, .replacing stream => some (after (replaced stream l) (c.setReplacement n .settled))
  | .rejects, .replacing _ => some (c.setReplacement n .settled)
  | _, _ => none

/-- The state of a peer connection changes, unless it is closed. -/
def enter (c : VoxRtcBrowserClient) (a : Nat) (state : PeerState) : Option VoxRtcBrowserClient :=
  match (c.attempts a).peer with
  | some p =>
    if p.connectionState = .closed then none
    else some (c.alter a ({ · with peer := some (p.enter state) }))
  | none => none

/-- The handlers of a peer connection that `#cleanup` has not closed are in place. -/
def hasPeer (c : VoxRtcBrowserClient) (a : Nat) : Bool :=
  (c.attempts a).peer.any (·.connectionState ≠ .closed)

def step (c : VoxRtcBrowserClient) : Event → Option VoxRtcBrowserClient
  | .connect audio l => some (after (connect audio l) c)
  | .disconnect l => some (after (disconnect l.disconnecting.emit l.closed.emit) c)
  | .restartIce => some (after VoxRtcBrowserClient.restartIce c)
  | .replaceMicrophone =>
    if c.peerConnection = none then some c
    else some { c with replacements := c.replacements ++ [.acquiring] }
  | .resumes a e l => c.resume a l e
  | .negotiation n e l => c.negotiations[n]?.bind fun call => c.continues n call l e
  | .replacement n e l => c.replacements[n]?.bind (c.replace n l e)
  | .peerState a state l => (c.enter a state).map (after (handlePeerConnectionStateChange a l))
  | .dataChannel a l =>
    if c.hasPeer a then some (after l.channel.emit { c with dataChannel := true }) else none
  | .localCandidate a candidate l =>
    if c.hasPeer a then some (after (localCandidate candidate l) c) else none
  | .mediaTimeout =>
    if c.mediaConnectionWait = none then none else some (c.rejectMediaConnectionWait .failed)
  | .signalingCloses a l =>
    if (c.attempts a).signaling = some .opened then
      some (after (handleUnexpectedSignalingClose l)
        (c.alter a ({ · with signaling := some .gone })))
    else none
  | .sessionClosed a l =>
    if (c.attempts a).signaling = some .opened then some (after (sessionClosed l) c) else none
  | .serverCandidate a candidate l =>
    if (c.attempts a).signaling = some .opened then some (after (serverCandidate candidate l) c)
    else none

end VoxRtcBrowserClient

def browser : System VoxRtcBrowserClient Event where
  init := .initial
  step := VoxRtcBrowserClient.step

end VoxRtc.Browser.Attempts
