import VoxRtc.Browser.Updates

/-!
# Superseded attempts

What a continuation of `connect` or `#negotiate` does once another attempt is current. A
call of `connect` checks its number; `#negotiate` and the `catch` of `restartIce` do not,
and work on the flags, buffers and status of whichever attempt is current.
-/
namespace VoxRtc.Browser.Attempts

open Program Transition

namespace VoxRtcBrowserClient

/-- The fields an attempt works with. -/
structure View where
  status : Status
  signaling : Option Nat
  peerConnection : Option Nat
  localStream : Option Nat
  negotiating : Bool
  awaitingRemoteDescription : Bool
  bufferLocalCandidates : Bool
  pendingLocalCandidates : List Candidate
  pendingServerCandidates : List Candidate

def view (c : VoxRtcBrowserClient) : View where
  status := c.status
  signaling := c.signaling
  peerConnection := c.peerConnection
  localStream := c.localStream
  negotiating := c.negotiating
  awaitingRemoteDescription := c.awaitingRemoteDescription
  bufferLocalCandidates := c.bufferLocalCandidates
  pendingLocalCandidates := c.pendingLocalCandidates
  pendingServerCandidates := c.pendingServerCandidates

/-- The attempt whose call goes on at this event. -/
def owner (c : VoxRtcBrowserClient) : Event → Option Nat
  | .resumes a _ _ => some a
  | .negotiation n _ _ => c.negotiations[n]?.map (·.attempt)
  | _ => none

/-- What a superseded call of `#negotiate` would overwrite is not in use, and no superseded
call of `restartIce` fails. -/
def harmless (c : VoxRtcBrowserClient) : NegotiationEvent → Bool
  | .localSet true => !c.bufferLocalCandidates
  | .localSet false | .flushed | .rejects => !c.negotiating
  | .remoteSet => !c.awaitingRemoteDescription &&
      (c.peerConnection.isNone || c.pendingServerCandidates.isEmpty)
  | .restartFails => false
  | _ => true

/-- Where another attempt is current, the continuation is harmless to it. -/
def Apart (c : VoxRtcBrowserClient) : Event → Prop
  | .negotiation n e _ => ∀ call ∈ c.negotiations[n]?,
    call.attempt ≠ c.connectionAttempt → c.isOpen = true → c.harmless e = true
  | _ => True

instance (c : VoxRtcBrowserClient) : (e : Event) → Decidable (c.Apart e)
  | .negotiation n e _ => inferInstanceAs (Decidable (∀ call ∈ c.negotiations[n]?,
      call.attempt ≠ c.connectionAttempt → c.isOpen = true → c.harmless e = true))
  | .connect .. | .disconnect .. | .restartIce | .replaceMicrophone | .resumes .. | .replacement ..
  | .peerState .. | .dataChannel .. | .localCandidate .. | .mediaTimeout | .signalingCloses ..
  | .sessionClosed .. | .serverCandidate .. => inferInstanceAs (Decidable True)

variable {c c' : VoxRtcBrowserClient} {a : Nat} {l : Listeners}

end VoxRtcBrowserClient

open VoxRtcBrowserClient

end VoxRtc.Browser.Attempts
