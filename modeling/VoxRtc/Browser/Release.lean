import VoxRtc.Browser.Updates

/-!
# Release of a failed attempt

What is left of an attempt when its call of `connect` rejects. The client closes what an
attempt has created in `#cleanup`, but the listeners run before it and may throw or call
`disconnect` in between.
-/
namespace VoxRtc.Browser.Attempts

open Program Transition

/-- The listeners never return. -/
def Reaction.throwing : Reaction → Bool
  | returns => false
  | throws => true
  | disconnects _ _ rest => rest.throwing

/-- A call of `disconnect` from a listener gets as far as its `#cleanup`. -/
def Reaction.sound : Reaction → Bool
  | returns | throws => true
  | disconnects disconnecting closed rest =>
    disconnecting != .throws && disconnecting.sound && closed.sound && rest.sound

def Listeners.sound (l : Listeners) : Bool :=
  l.disconnecting != .throws && [l.connecting, l.session, l.channel, l.localStream, l.peer,
    l.sending, l.event, l.connected, l.error, l.disconnecting, l.closed].all (·.sound)

/-- The attempt has its peer connection and has not settled. -/
def Stage.busy : Stage → Bool
  | .opening | .microphone | .joining .. | .rejecting _ => true
  | _ => false

namespace VoxRtcBrowserClient

/-- The signaling client of the attempt has not been closed. -/
def hasSignaling (c : VoxRtcBrowserClient) (a : Nat) : Bool :=
  (c.attempts a).signaling.any (· ≠ .closed)

structure Released (c : VoxRtcBrowserClient) (a : Nat) : Prop where
  status : c.status = .closed
  signaling : c.signaling = none
  peerConnection : c.peerConnection = none
  dataChannel : c.dataChannel = false
  localStream : c.localStream = none
  noSignaling : c.hasSignaling a = false
  noPeer : c.hasPeer a = false

/-- No listener throws or disconnects where the client has yet to clean up or goes on to
create something, and no track is replaced for a closed client. -/
def Composed (c : VoxRtcBrowserClient) : Event → Prop
  | .connect _ l => l.sound = true ∧ l.connecting = .returns
  | .resumes _ (.signalingResolves ..) l => l.sound = true ∧ l.error ≠ .throws ∧
    (l.session = .returns ∨ l.session.throwing = true)
  | .resumes _ _ l => l.sound = true ∧ l.error ≠ .throws
  | .signalingCloses _ l => l.sound = true ∧ (c.status = .connecting → l.error ≠ .throws)
  | .replacement _ .replaced l => l.sound = true ∧ c.isOpen = true
  | .disconnect l | .negotiation _ _ l | .replacement _ _ l | .peerState _ _ l | .dataChannel _ l
  | .localCandidate _ _ l | .sessionClosed _ l | .serverCandidate _ _ l => l.sound = true
  | .restartIce | .replaceMicrophone | .mediaTimeout => True

/-- When the call of the last attempt rejects, everything the attempt has created is
closed. -/
def Releases (C : VoxRtcBrowserClient → Event → Prop) : Prop :=
  ∀ c e c' a, browser.Reaches C c → C c e → browser.step c e = some c' →
    (c.attempts a).stage ≠ .rejected → (c'.attempts a).stage = .rejected → c'.started = a →
    c'.Released a

variable {c c' s t u : VoxRtcBrowserClient} {a b : Nat} {l : Listeners} {r : Reaction}

section Owning

/-- What has not been closed is what the fields hold. -/
structure Holding (c : VoxRtcBrowserClient) : Prop where
  peer : ∀ a, c.hasPeer a = true → c.peerConnection = some a
  signaling : ∀ a, c.hasSignaling a = true → c.signaling = some a

/-- The client is closed, or idle, and holds nothing. -/
structure Shut (c : VoxRtcBrowserClient) : Prop where
  holding : Holding c
  status : c.status = .closed ∨ c.status = .idle
  signaling : c.signaling = none
  peerConnection : c.peerConnection = none
  dataChannel : c.dataChannel = false
  localStream : c.localStream = none

theorem Shut.isOpen (shut : Shut c) : c.isOpen = false := by
  rcases shut.status with closed | idle
  · simp [VoxRtcBrowserClient.isOpen, closed]
  · simp [VoxRtcBrowserClient.isOpen, idle]

/-- Calls that are connecting stay so, and other calls stay where they are. -/
def Moved (before after : Stage) : Prop :=
  after = before ∨ before.busy = true ∧ after.busy = true

theorem Moved.trans {x y z : Stage} (first : Moved x y) (second : Moved y z) : Moved x z := by
  rcases first with rfl | first
  · exact second
  · rcases second with rfl | second
    · exact .inr first
    · exact .inr ⟨first.1, second.2⟩

theorem Moved.eq {x y : Stage} (moved : Moved x y) (settled : x.busy = false) : y = x :=
  moved.resolve_right fun busy => by simp [settled] at busy

theorem Moved.busy {x y : Stage} (moved : Moved x y) (busy : x.busy = true) : y.busy = true := by
  rcases moved with rfl | moved
  · exact busy
  · exact moved.2

/-- What matters to the release is the same, and nothing is opened. -/
structure Alike (c c' : VoxRtcBrowserClient) : Prop where
  status : c'.status = c.status
  connectionAttempt : c'.connectionAttempt = c.connectionAttempt
  started : c'.started = c.started
  signaling : c'.signaling = c.signaling
  peerConnection : c'.peerConnection = c.peerConnection
  dataChannel : c'.dataChannel = c.dataChannel
  localStream : c'.localStream = c.localStream
  hasPeer : ∀ a, c'.hasPeer a = true → c.hasPeer a = true
  hasSignaling : ∀ a, c'.hasSignaling a = true → c.hasSignaling a = true
  stage : ∀ a, Moved (c.attempts a).stage (c'.attempts a).stage

theorem Alike.trans (first : Alike s t) (second : Alike t u) : Alike s u where
  status := second.status.trans first.status
  connectionAttempt := second.connectionAttempt.trans first.connectionAttempt
  started := second.started.trans first.started
  signaling := second.signaling.trans first.signaling
  peerConnection := second.peerConnection.trans first.peerConnection
  dataChannel := second.dataChannel.trans first.dataChannel
  localStream := second.localStream.trans first.localStream
  hasPeer a held := first.hasPeer a (second.hasPeer a held)
  hasSignaling a held := first.hasSignaling a (second.hasSignaling a held)
  stage a := (first.stage a).trans (second.stage a)

/-- The fields that do not matter to the release. -/
theorem alike_fields {pendingLocal pendingServer : List Candidate} {buffer negotiating awaiting : Bool}
    {wait : Option Nat} {negotiations : List Negotiation} {replacements : List Replacement}
    {acquired : Nat} {live : List Nat} : Alike c { c with
      pendingLocalCandidates := pendingLocal
      pendingServerCandidates := pendingServer
      bufferLocalCandidates := buffer
      negotiating := negotiating
      awaitingRemoteDescription := awaiting
      mediaConnectionWait := wait
      negotiations := negotiations
      replacements := replacements
      acquired := acquired
      live := live } :=
  ⟨rfl, rfl, rfl, rfl, rfl, rfl, rfl, fun _ => id, fun _ => id, fun _ => .inl rfl⟩

theorem alike_alter {f : Attempt → Attempt} (same : ∀ t, (f t).peer = t.peer)
    (sockets : ∀ t, (f t).signaling = t.signaling)
    (stage : Moved (c.attempts a).stage (f (c.attempts a)).stage) : Alike c (c.alter a f) := by
  refine ⟨rfl, rfl, rfl, rfl, rfl, rfl, rfl, fun b => ?_, fun b => ?_, fun b => ?_⟩
  · unfold hasPeer
    rw [alter_attempts]
    split
    · rw [same]
      exact id
    · exact id
  · unfold hasSignaling
    rw [alter_attempts]
    split
    · rw [sockets]
      exact id
    · exact id
  · rw [alter_attempts]
    split
    -- Only the attempt that is altered can have moved.
    next here => exact here ▸ stage
    next => exact .inl rfl

theorem alike_rejects (error : Thrown) : Alike c (c.alter a (·.rejects error)) := by
  apply alike_alter
  all_goals unfold Attempt.rejects
  · exact fun t => by split <;> rfl
  · exact fun t => by split <;> rfl
  · split
    -- A call that is joining goes on to its rejection; any other takes no notice.
    next joining => exact .inr (by rw [joining]; exact ⟨rfl, rfl⟩)
    next => exact .inl rfl

theorem alike_connects : Alike c (c.alter a (·.connects)) := by
  apply alike_alter
  all_goals unfold Attempt.connects
  · exact fun t => by split <;> rfl
  · exact fun t => by split <;> rfl
  · split
    next joining => exact .inr (by rw [joining]; exact ⟨rfl, rfl⟩)
    next => exact .inl rfl

theorem alike_negotiates : Alike c (c.alter a (·.negotiates)) := by
  apply alike_alter
  all_goals unfold Attempt.negotiates
  · exact fun t => by split <;> rfl
  · exact fun t => by split <;> rfl
  · split
    next joining => exact .inr (by rw [joining]; exact ⟨rfl, rfl⟩)
    next => exact .inl rfl

theorem alike_setStage {stage : Stage} (busy : (c.attempts a).stage.busy = true)
    (later : stage.busy = true) : Alike c (c.setStage a stage) :=
  alike_alter (fun _ => rfl) (fun _ => rfl) (.inr ⟨busy, later⟩)

theorem alike_reject (error : Thrown) : Alike c (c.rejectMediaConnectionWait error) := by
  unfold rejectMediaConnectionWait
  split
  · exact alike_fields
  · exact Alike.trans alike_fields (alike_rejects error)

theorem alike_resolve (peer : Nat) : Alike c (c.resolveMediaConnectionWait peer) := by
  unfold resolveMediaConnectionWait
  split
  · exact alike_fields
  · split
    · exact Alike.trans alike_fields alike_connects
    · exact alike_fields

theorem alike_negotiated (n : Nat) (call : Negotiation) : Alike c (c.negotiated n call) := by
  unfold negotiated
  split
  · exact alike_fields
  · exact Alike.trans alike_fields alike_negotiates

theorem alike_negotiationFails (n : Nat) (call : Negotiation) :
    Alike c (c.negotiationFails n call) := by
  unfold negotiationFails
  split
  · exact alike_fields
  · exact Alike.trans alike_fields (alike_rejects .failed)

theorem alike_describe (peer : Option Nat) : Alike c (c.describe peer) := by
  unfold describe
  split
  · exact alike_fields
  next a =>
    refine ⟨rfl, rfl, rfl, rfl, rfl, rfl, rfl, fun b => ?_, fun b => ?_, fun b => .inl ?_⟩
    · unfold hasPeer
      rw [alter_attempts]
      split
      · cases (c.attempts b).peer <;> exact id
      · exact id
    · unfold hasSignaling
      rw [alter_attempts]
      split <;> exact id
    · rw [alter_attempts]
      split <;> rfl

theorem Alike.holding (alike : Alike c c') (holding : Holding c) : Holding c' := by
  constructor
  · intro a held
    rw [alike.peerConnection]
    exact holding.peer a (alike.hasPeer a held)
  · intro a held
    rw [alike.signaling]
    exact holding.signaling a (alike.hasSignaling a held)

theorem Alike.shut (alike : Alike c c') (shut : Shut c) : Shut c' where
  holding := alike.holding shut.holding
  status := by rw [alike.status]; exact shut.status
  signaling := alike.signaling.trans shut.signaling
  peerConnection := alike.peerConnection.trans shut.peerConnection
  dataChannel := alike.dataChannel.trans shut.dataChannel
  localStream := alike.localStream.trans shut.localStream

private theorem reject_holds (error : Thrown) :
    (c.rejectMediaConnectionWait error).hasPeer a = c.hasPeer a ∧
    (c.rejectMediaConnectionWait error).hasSignaling a = c.hasSignaling a := by
  unfold rejectMediaConnectionWait hasPeer hasSignaling
  split
  · exact ⟨rfl, rfl⟩
  · rw [alter_attempts]
    split
    · unfold Attempt.rejects
      split <;> exact ⟨rfl, rfl⟩
    · exact ⟨rfl, rfl⟩

private theorem closeSignaling_holds : c.closeSignaling.hasPeer a = c.hasPeer a ∧
    c.closeSignaling.hasSignaling a = (c.hasSignaling a && c.signaling != some a) := by
  unfold closeSignaling hasPeer hasSignaling
  split
  next unset => simp [unset]
  next b held =>
    rw [alter_attempts, held]
    -- The attempt in the field loses its socket, the others keep theirs.
    by_cases here : a = b
    · subst here
      cases sockets : (c.attempts a).signaling <;> simp [Attempt.closeSignaling, sockets]
    · rw [if_neg here]
      simp [Ne.symm here]

private theorem closePeer_holds : c.closePeer.hasSignaling a = c.hasSignaling a ∧
    c.closePeer.hasPeer a = (c.hasPeer a && c.peerConnection != some a) := by
  unfold closePeer hasPeer hasSignaling
  split
  next unset => simp [unset]
  next b held =>
    rw [alter_attempts, held]
    -- The attempt in the field loses its peer connection, the others keep theirs.
    by_cases here : a = b
    · subst here
      cases peers : (c.attempts a).peer <;> simp [Attempt.closePeer, Peer.enter, peers]
    · rw [if_neg here]
      simp [Ne.symm here]

private theorem closeSignaling_stage :
    (c.closeSignaling.attempts a).stage = (c.attempts a).stage := by
  unfold closeSignaling
  split
  · rfl
  · rw [alter_attempts]
    split <;> rfl

private theorem closePeer_stage : (c.closePeer.attempts a).stage = (c.attempts a).stage := by
  unfold closePeer
  split
  · rfl
  · rw [alter_attempts]
    split <;> rfl

private theorem shut_moved (a : Nat) : Moved (c.attempts a).stage (c.shut.attempts a).stage := by
  change Moved _ ((c.rejectMediaConnectionWait .cancelled).closeSignaling.closePeer.attempts a).stage
  rw [closePeer_stage, closeSignaling_stage]
  exact (alike_reject .cancelled).stage a

/-- `#cleanup` closes what the fields hold. -/
theorem Holding.shut (holding : Holding c) : Shut c.shut := by
  have peers : ∀ a, c.shut.hasPeer a = false := by
    intro a
    change (c.rejectMediaConnectionWait .cancelled).closeSignaling.closePeer.hasPeer a = false
    rw [closePeer_holds.2, closeSignaling_holds.1, (reject_holds _).1, closeSignaling_eq,
      congrArg peerConnection (c.reject_eq .cancelled)]
    -- A peer connection that is open is the one in the field, which is closed.
    cases held : c.hasPeer a with
    | false => rfl
    | true => simp [holding.peer a held]
  have sockets : ∀ a, c.shut.hasSignaling a = false := by
    intro a
    change (c.rejectMediaConnectionWait .cancelled).closeSignaling.closePeer.hasSignaling a = false
    rw [closePeer_holds.1, closeSignaling_holds.2, (reject_holds _).2,
      congrArg VoxRtcBrowserClient.signaling (c.reject_eq .cancelled)]
    -- So is a socket that is open.
    cases held : c.hasSignaling a with
    | false => rfl
    | true => simp [holding.signaling a held]
  rw [shut_eq] at peers sockets ⊢
  exact ⟨⟨fun a held => absurd held (by simp [peers a]),
    fun a held => absurd held (by simp [sockets a])⟩, .inl rfl, rfl, rfl, rfl, rfl⟩

end Owning

section Listening

/-- The listeners have disconnected. -/
structure Gone (s t : VoxRtcBrowserClient) : Prop where
  shut : Shut t
  closed : t.status = .closed
  attempt : s.connectionAttempt < t.connectionAttempt
  started : t.started = s.started
  stage : ∀ a, Moved (s.attempts a).stage (t.attempts a).stage

def Calmed (s t : VoxRtcBrowserClient) : Prop := t = s ∨ Gone s t

theorem Gone.calmed (gone : Gone s t) (calmed : Calmed t u) : Gone s u := by
  rcases calmed with rfl | later
  · exact gone
  · exact ⟨later.shut, later.closed, Nat.lt_trans gone.attempt later.attempt,
      later.started.trans gone.started, fun a => (gone.stage a).trans (later.stage a)⟩

/-- What listeners do that let `disconnect` clean up. -/
def Calms (body : Body) : Prop :=
  ∀ s, Holding s → Ensures (fun t => t = s) body (fun _ => Calmed s) (fun _ => Calmed s)

private theorem Calms.gone {body : Body} (calms : Calms body) :
    Ensures (Gone s) body (fun _ => Gone s) (fun _ => Gone s) :=
  .each fun t gone => (calms t gone.shut.holding).weaken (fun _ => id) (fun _ _ => gone.calmed)
    (fun _ _ => gone.calmed)

/-- The attempt has been ended, and nothing is given up before `#cleanup`. -/
structure Ended (s t : VoxRtcBrowserClient) : Prop where
  holding : Holding t
  attempt : s.connectionAttempt < t.connectionAttempt
  started : t.started = s.started
  stage : ∀ a, Moved (s.attempts a).stage (t.attempts a).stage

private theorem Ended.gone (ended : Ended s t) (gone : Gone t u) : Gone s u :=
  ⟨gone.shut, gone.closed, Nat.lt_trans ended.attempt gone.attempt,
    gone.started.trans ended.started, fun a => (ended.stage a).trans (gone.stage a)⟩

private theorem Gone.ended (gone : Gone s t) : Ended s t :=
  ⟨gone.shut.holding, gone.attempt, gone.started, gone.stage⟩

private theorem Ended.shut (ended : Ended s t) : Gone s t.shut := by
  refine ⟨ended.holding.shut, rfl, ?_, ?_, fun a => (ended.stage a).trans (shut_moved a)⟩
  · rw [t.shut_eq]
    exact ended.attempt
  · rw [t.shut_eq]
    exact ended.started

private theorem ended_cancel (holding : Holding s) : Ended s (s.cancel .cancelled) := by
  have alike := alike_reject (c := { s with connectionAttempt := s.connectionAttempt + 1 })
    .cancelled
  refine ⟨alike.holding ⟨holding.peer, holding.signaling⟩, ?_, alike.started, alike.stage⟩
  -- The number has been raised before the wait for media is rejected.
  exact Nat.lt_of_lt_of_eq (Nat.lt_succ_self _) alike.connectionAttempt.symm

private theorem Ended.closeSignaling (ended : Ended s t) : Ended s t.closeSignaling := by
  refine ⟨⟨fun a held => ?_, fun a held => ?_⟩, ?_, ?_, fun a => ?_⟩
  · rw [t.closeSignaling_eq]
    exact ended.holding.peer a (closeSignaling_holds.1.symm.trans held)
  · rw [closeSignaling_holds.2, Bool.and_eq_true] at held
    rw [t.closeSignaling_eq]
    exact ended.holding.signaling a held.1
  · rw [t.closeSignaling_eq]
    exact ended.attempt
  · rw [t.closeSignaling_eq]
    exact ended.started
  · exact (ended.stage a).trans (.inl closeSignaling_stage)

/-- `disconnect` closes the client, whatever it holds. -/
private theorem disconnect_gone {disconnecting closed : Body}
    (first : ∀ s, Holding s → Ensures (fun t => t = s) disconnecting (fun _ => Calmed s)
      (fun _ => Gone s)) (last : Calms closed) (holding : Holding s) :
    Ensures (fun t => t = s) (disconnect disconnecting closed) (fun _ => Gone s)
      (fun _ => Gone s) := by
  apply Ensures.bind (Q := fun _ => Ended s)
  · rintro t rfl
    exact ended_cancel holding
  intro _
  refine .read fun t ended => .cond (fun _ => ?_) (fun _ => ?_)
  -- A client that is closed already is cleaned up once more.
  · apply Ensures.bind (Q := fun _ => Gone s)
    · exact .update fun u same => same ▸ ended.shut
    · exact fun _ => last.gone
  · apply Ensures.bind (Q := fun _ => Ended s)
    · exact .update fun u same => same ▸ ⟨⟨ended.holding.peer, ended.holding.signaling⟩,
        ended.attempt, ended.started, ended.stage⟩
    intro _
    -- a listener that throws here has to have disconnected, for nothing else cleans up
    apply Ensures.bind (Q := fun _ => Ended s)
    · refine .each fun u ended => (first u ended.holding).weaken (fun _ => id)
        (fun _ v calmed => ?_) (fun _ v gone => ended.gone gone)
      rcases calmed with rfl | gone
      · exact ended
      · exact (ended.gone gone).ended
    intro _
    apply Ensures.bind (Q := fun _ => Ended s)
    · exact .update fun u ended => ended.closeSignaling
    intro _
    apply Ensures.bind (Q := fun _ => Gone s)
    · exact .update fun u ended => ended.shut
    · exact fun _ => last.gone

/-- Where listeners throw they have disconnected before, unless they throw at once. -/
private theorem emit_reacts (sound : r.sound = true) : Calms r.emit ∧ (r ≠ .throws →
    ∀ s, Holding s → Ensures (fun t => t = s) r.emit (fun _ => Calmed s) (fun _ => Gone s)) := by
  induction r with
  | returns =>
    exact ⟨fun _ _ => .pure fun _ => .inl, fun _ _ _ => .pure fun _ => .inl⟩
  | throws => exact ⟨fun _ _ => .throw fun _ => .inl, fun absurd => (absurd rfl).elim⟩
  | disconnects disconnecting closed rest first second last =>
    simp only [Reaction.sound, Bool.and_eq_true, bne_iff_ne] at sound
    obtain ⟨⟨⟨reacts, first'⟩, second'⟩, last'⟩ := sound
    -- What the first listener leads to is swallowed, and the client is closed by then.
    have gone : ∀ s, Holding s → Ensures (fun t => t = s)
        (Reaction.disconnects disconnecting closed rest).emit (fun _ => Gone s)
        (fun _ => Gone s) := by
      intro s holding
      apply Ensures.bind (Q := fun _ => Gone s)
      · exact .handle (disconnect_gone ((first first').2 reacts) (second second').1 holding)
          fun _ => .pure fun _ => id
      · exact fun _ => (last last').1.gone
    constructor
    · exact fun s holding => (gone s holding).weaken (fun _ => id) (fun _ _ => .inr)
        (fun _ _ => .inr)
    · exact fun _ s holding => (gone s holding).weaken (fun _ => id) (fun _ _ => .inr)
        (fun _ _ => id)

theorem emit_calms (sound : r.sound = true) : Calms r.emit := (emit_reacts sound).1

theorem emit_thrown (sound : r.sound = true) (reacts : r ≠ .throws) (holding : Holding s) :
    Ensures (fun t => t = s) r.emit (fun _ => Calmed s) (fun _ => Gone s) :=
  (emit_reacts sound).2 reacts s holding

theorem emit_throwing (sound : r.sound = true) (throws : r.throwing = true) (holding : Holding s) :
    Ensures (fun t => t = s) r.emit (fun _ _ => False) (fun _ => Calmed s) := by
  induction r generalizing s with
  | returns => cases throws
  | throws => exact .throw fun _ => .inl
  | disconnects disconnecting closed rest _ _ last =>
    simp only [Reaction.sound, Bool.and_eq_true, bne_iff_ne] at sound
    obtain ⟨⟨⟨reacts, first⟩, second⟩, sound⟩ := sound
    -- The client is closed when the rest of the listeners runs, which ends in the throw.
    apply Ensures.bind (Q := fun _ => Gone s)
    · exact .handle (disconnect_gone (fun _ => emit_thrown first reacts) (emit_calms second) holding)
        fun _ => .pure fun _ => id
    · refine fun _ => .each fun t gone => ?_
      exact (last sound throws gone.shut.holding).weaken (fun _ => id) (fun _ _ => id)
        (fun _ _ calmed => .inr (gone.calmed calmed))

end Listening

section Steady

/-- The client between two steps: what it holds, and how far the last attempt has come. -/
structure Steady (c : VoxRtcBrowserClient) : Prop where
  holding : Holding c
  shut : c.isOpen = false → Shut c
  idle : c.status = .idle → ∀ a, (c.attempts a).stage = .unstarted
  connecting : c.status = .connecting → c.connectionAttempt = c.started ∧
    ((c.attempts c.started).stage.busy = true ∨
      (c.attempts c.started).stage = .signaling ∧ c.peerConnection = none)
  connected : c.status = .connected → (c.attempts c.started).stage = .resolved

private theorem Shut.steady (shut : Shut c) (closed : c.status = .closed) : Steady c := by
  refine ⟨shut.holding, fun _ => shut, ?_, ?_, ?_⟩
  all_goals
    intro other
    exact absurd (closed.symm.trans other) (by decide)

private theorem isOpen_eq (same : c'.status = c.status) : c'.isOpen = c.isOpen := by
  unfold isOpen
  rw [same]

private theorem Alike.steady (alike : Alike c c') (steady : Steady c) : Steady c' := by
  refine ⟨alike.holding steady.holding, fun closed => ?_, fun idle a => ?_, fun connecting => ?_,
    fun connected => ?_⟩
  · exact alike.shut (steady.shut ((isOpen_eq alike.status).symm.trans closed))
  -- A call that has not started is not one that moves.
  · rw [alike.status] at idle
    have unstarted := steady.idle idle a
    exact ((alike.stage a).eq (by rw [unstarted]; rfl)).trans unstarted
  -- The last attempt may have moved, but only from one busy stage to another.
  · rw [alike.status] at connecting
    obtain ⟨number, place⟩ := steady.connecting connecting
    rw [alike.connectionAttempt, alike.started, alike.peerConnection]
    refine ⟨number, place.imp (alike.stage _).busy fun waiting => ⟨?_, waiting.2⟩⟩
    exact ((alike.stage _).eq (by rw [waiting.1]; rfl)).trans waiting.1
  · rw [alike.status] at connected
    have resolved := steady.connected connected
    rw [alike.started]
    exact ((alike.stage _).eq (by rw [resolved]; rfl)).trans resolved

private theorem Calmed.steady (calmed : Calmed s t) (steady : Steady s) : Steady t := by
  rcases calmed with rfl | gone
  · exact steady
  · exact gone.shut.steady gone.closed

private theorem keeps_emit (sound : r.sound = true) : Keeps Steady r.emit :=
  .each fun t steady => (emit_calms sound t steady.holding).weaken (fun _ => id)
    (fun _ _ calmed => calmed.steady steady) (fun _ _ calmed => calmed.steady steady)

private theorem keeps_alike {f : VoxRtcBrowserClient → VoxRtcBrowserClient}
    (alike : ∀ t, Alike t (f t)) : Keeps Steady (modify f : Body) :=
  .update fun t steady => (alike t).steady steady

private theorem keeps_require (p : Prop) [Decidable p] (error : Thrown) :
    Keeps Steady (require p error) :=
  .cond (fun _ => .pure fun _ => id) (fun _ => .throw fun _ => id)

/-- The end of every teardown. -/
private theorem shut_closes (sound : l.closed.sound = true) :
    Ensures Holding (do modify VoxRtcBrowserClient.shut; l.closed.emit) (fun _ => Steady)
      (fun _ => Steady) := by
  apply Ensures.bind (Q := fun _ => Steady)
  · exact .update fun t holding => holding.shut.steady rfl
  · exact fun _ => keeps_emit sound

private theorem sound_of (sound : l.sound = true) {r : Reaction}
    (member : r ∈ [l.connecting, l.session, l.channel, l.localStream, l.peer, l.sending, l.event,
      l.connected, l.error, l.disconnecting, l.closed]) : r.sound = true := by
  simp only [Listeners.sound, Bool.and_eq_true] at sound
  exact List.all_eq_true.mp sound.2 r member

/-- The number of a connected client does not matter. -/
private theorem steady_raise (steady : Steady c) (connected : c.status = .connected) :
    Steady { c with connectionAttempt := c.connectionAttempt + 1 } := by
  refine ⟨⟨steady.holding.peer, steady.holding.signaling⟩, fun closed => ?_, steady.idle,
    fun connecting => ?_, steady.connected⟩
  · exact absurd closed (by simp [VoxRtcBrowserClient.isOpen, connected])
  · exact absurd (connected.symm.trans connecting) (by decide)

private theorem keeps_deal (a : Nat) (sound : l.sound = true) :
    Keeps Steady (dealWithPeerState a l) := by
  refine .read fun t steady => .cond (fun _ => .once_pure steady) (fun _ => ?_)
  refine .cond (fun _ => .once_update ((alike_resolve a).steady steady)) (fun _ => ?_)
  refine .cond (fun _ => .once_pure steady) (fun _ => ?_)
  refine .cond (fun _ => .once_update ((alike_reject _).steady steady)) (fun _ => ?_)
  -- Only the failure of a connected client ends in the teardown.
  refine .cond (fun connected => ?_) (fun _ => .once_pure steady)
  apply Ensures.bind (Q := fun _ => Steady)
  · exact .update fun u same => same ▸ steady_raise steady connected
  intro _
  apply Ensures.bind (Q := fun _ => Holding)
  · exact (keeps_emit (sound_of sound (by simp))).weaken (fun _ => id)
      (fun _ _ steady => steady.holding) (fun _ _ => id)
  · exact fun _ => shut_closes (sound_of sound (by simp))

private theorem keeps_handle (a : Nat) (sound : l.sound = true) :
    Keeps Steady (handlePeerConnectionStateChange a l) :=
  Ensures.bind (keeps_emit (sound_of sound (by simp))) fun _ => keeps_deal a sound

private theorem keeps_negotiate (a : Nat) (restart : Bool) : Keeps Steady (negotiate a restart) := by
  refine .read fun t steady => require_then steady fun _ => require_then steady fun _ => ?_
  exact .once_update (alike_fields.steady steady)

private theorem keeps_restartIce : Keeps Steady restartIce := by
  refine .read fun t steady => require_then steady fun _ => ?_
  refine .handle (F := fun _ => Steady) ?_ fun _ => keeps_alike fun _ => alike_fields
  exact (keeps_negotiate _ true).weaken (fun _ same => same ▸ steady) (fun _ _ => id) (fun _ _ => id)

private theorem keeps_disconnect (sound : l.sound = true) :
    Keeps Steady (disconnect l.disconnecting.emit l.closed.emit) := by
  have reacts : l.disconnecting ≠ .throws := by
    simp only [Listeners.sound, Bool.and_eq_true, bne_iff_ne] at sound
    exact sound.1
  refine .each fun t steady => ?_
  exact (disconnect_gone (fun _ => emit_thrown (sound_of sound (by simp)) reacts)
    (emit_calms (sound_of sound (by simp))) steady.holding).weaken (fun _ => id)
      (fun _ _ gone => gone.shut.steady gone.closed) (fun _ _ gone => gone.shut.steady gone.closed)

private theorem keeps_localSet (n : Nat) (call : Negotiation) (sdp : Bool) (sound : l.sound = true) :
    Keeps Steady (localSet n call sdp l) := by
  refine .handle (F := fun _ => Steady) ?_
    fun _ => keeps_alike fun _ => alike_negotiationFails n call
  refine Ensures.bind (keeps_require _ _) fun _ => .read fun t steady => ?_
  apply Ensures.bind (.once_update (alike_fields.steady steady))
  intro _
  apply Ensures.bind (Q := fun _ => Steady)
  · exact .cond (fun _ => .pure fun _ => id) (fun _ => keeps_emit (sound_of sound (by simp)))
  · exact fun _ => keeps_alike fun _ => alike_fields

private theorem keeps_remoteSet (n : Nat) (call : Negotiation) :
    Keeps Steady (remoteSet n call) := by
  refine Ensures.bind (keeps_alike fun _ => alike_fields) fun _ => .read fun t steady => ?_
  refine .cond (fun _ => .once_update (alike_fields.steady steady)) (fun _ => ?_)
  apply Ensures.bind (.once_update (alike_fields.steady steady))
  exact fun _ => keeps_alike fun _ => alike_fields

private theorem keeps_restartFails (sound : l.sound = true) : Keeps Steady (restartFails l) :=
  Ensures.bind (keeps_emit (sound_of sound (by simp))) fun _ => keeps_disconnect sound

private theorem keeps_sessionClosed (sound : l.sound = true) : Keeps Steady (sessionClosed l) := by
  apply Ensures.bind (keeps_emit (sound_of sound (by simp)))
  refine fun _ => .read fun t steady => .cond (fun _ => .once_pure steady) (fun _ => ?_)
  exact (shut_closes (sound_of sound (by simp))).weaken (fun _ same => same ▸ steady.holding)
    (fun _ _ => id) (fun _ _ => id)

private theorem keeps_localCandidate (candidate : Candidate) (sound : l.sound = true) :
    Keeps Steady (localCandidate candidate l) := by
  apply Ensures.bind (keeps_emit (sound_of sound (by simp)))
  refine fun _ => .read fun t steady => .cond (fun _ => ?_) (fun _ => ?_)
  · exact .once_update (alike_fields.steady steady)
  exact (keeps_emit (sound_of sound (by simp))).weaken (fun _ same => same ▸ steady)
    (fun _ _ => id) (fun _ _ => id)

private theorem keeps_serverCandidate (candidate : Candidate) (sound : l.sound = true) :
    Keeps Steady (serverCandidate candidate l) := by
  apply Ensures.bind (keeps_emit (sound_of sound (by simp)))
  refine fun _ => .update fun t steady => ?_
  dsimp only
  split
  · exact alike_fields.steady steady
  · exact steady

/-- A connecting client whose listeners do not throw at the error, or a connected one. -/
private theorem keeps_signalingClose (sound : l.sound = true) (steady : Steady t)
    (reacts : t.status = .connecting → l.error ≠ .throws) :
    Ensures (fun u => u = t) (handleUnexpectedSignalingClose l) (fun _ => Steady)
      (fun _ => Steady) := by
  refine .read fun u same => ?_
  subst same
  refine .cond (fun opened => ?_) (fun _ => .once_pure steady)
  have alike := alike_reject (c := { u with connectionAttempt := u.connectionAttempt + 1 }) .failed
  have cancelled := alike.holding ⟨steady.holding.peer, steady.holding.signaling⟩
  apply Ensures.bind (Q := fun _ t => t = u.cancel .failed)
  · exact .update fun _ same => same ▸ rfl
  intro _
  apply Ensures.bind (Q := fun _ => Holding)
  -- Between the raised number and the cleanup the state is not steady, so that a throw of a
  -- listener has to come after a `disconnect` of its own.
  · by_cases connecting : u.status = .connecting
    · refine (emit_thrown (sound_of sound (by simp)) (reacts connecting) cancelled).weaken
        (fun _ => id) (fun _ t calmed => ?_) (fun _ t gone => gone.shut.steady gone.closed)
      rcases calmed with rfl | gone
      · exact cancelled
      · exact gone.shut.holding
    · have connected : u.status = .connected := by
        simpa [VoxRtcBrowserClient.isOpen, connecting] using opened
      exact (keeps_emit (sound_of sound (by simp))).weaken
        (fun _ same => same ▸ alike.steady (steady_raise steady connected))
        (fun _ _ steady => steady.holding) (fun _ _ => id)
  · exact fun _ => shut_closes (sound_of sound (by simp))

end Steady

section Working

/-- The last attempt is being made, or has been ended by listeners. -/
structure Working (a : Nat) (c : VoxRtcBrowserClient) : Prop where
  holding : Holding c
  started : c.started = a
  busy : (c.attempts a).stage.busy = true
  goes : c.status = .connecting ∧ c.connectionAttempt = a ∨
    Shut c ∧ c.status = .closed ∧ a < c.connectionAttempt

private theorem Working.steady (working : Working a c) : Steady c := by
  rcases working.goes with ⟨connecting, number⟩ | ⟨shut, closed, _⟩
  -- The attempt is going on: the client is neither closed nor idle nor connected.
  · refine ⟨working.holding, fun closed => ?_, fun idle => ?_, fun _ => ⟨?_, .inl ?_⟩,
      fun connected => ?_⟩
    · exact absurd closed (by simp [isOpen, connecting])
    · exact absurd (connecting.symm.trans idle) (by decide)
    · rw [number, working.started]
    · rw [working.started]
      exact working.busy
    · exact absurd (connecting.symm.trans connected) (by decide)
  · exact shut.steady closed

private theorem Alike.working (alike : Alike c c') (working : Working a c) : Working a c' := by
  refine ⟨alike.holding working.holding, alike.started.trans working.started,
    (alike.stage a).busy working.busy, ?_⟩
  rw [alike.status, alike.connectionAttempt]
  exact working.goes.imp_right fun gone => ⟨alike.shut gone.1, gone.2⟩

private theorem Calmed.working (calmed : Calmed s t) (working : Working a s) : Working a t := by
  rcases calmed with rfl | gone
  · exact working
  · refine ⟨gone.shut.holding, gone.started.trans working.started, (gone.stage a).busy working.busy,
      .inr ⟨gone.shut, gone.closed, ?_⟩⟩
    -- The number only grows, so it is above that of the attempt.
    rcases working.goes with ⟨_, number⟩ | ⟨_, _, above⟩
    · exact number ▸ gone.attempt
    · exact Nat.lt_trans above gone.attempt

private theorem works_emit (sound : r.sound = true) : Keeps (Working a) r.emit :=
  .each fun t working => (emit_calms sound t working.holding).weaken (fun _ => id)
    (fun _ _ calmed => calmed.working working) (fun _ _ calmed => calmed.working working)

private theorem works_alike {f : VoxRtcBrowserClient → VoxRtcBrowserClient}
    (alike : ∀ t, Alike t (f t)) : Keeps (Working a) (modify f : Body) :=
  .update fun t working => (alike t).working working

private theorem works_handle (b : Nat) (sound : l.sound = true) :
    Keeps (Working a) (handlePeerConnectionStateChange b l) := by
  apply Ensures.bind (works_emit (sound_of sound (by simp)))
  refine fun _ => .read fun t working => .cond (fun _ => .once_pure working) (fun _ => ?_)
  refine .cond (fun _ => .once_update ((alike_resolve b).working working)) (fun _ => ?_)
  refine .cond (fun _ => .once_pure working) (fun _ => ?_)
  refine .cond (fun _ => .once_update ((alike_reject _).working working)) (fun _ => ?_)
  refine .cond (fun connected => ?_) (fun _ => .once_pure working)
  -- an attempt that is being made is not connected
  rcases working.goes with ⟨connecting, _⟩ | ⟨_, closed, _⟩
  · exact absurd (connecting.symm.trans connected) (by decide)
  · exact absurd (closed.symm.trans connected) (by decide)

private theorem works_negotiate (b : Nat) (restart : Bool) :
    Keeps (Working a) (negotiate b restart) := by
  refine .read fun t working => require_then working fun _ => require_then working fun _ => ?_
  exact .once_update (alike_fields.working working)

private theorem works_join (sound : l.sound = true) : Keeps (Working a) (join a l) := by
  apply Ensures.bind (Q := fun _ => Working a)
  · refine .read fun t working => require_then working fun _ => ?_
    -- Wherever the call of the attempt waits next, it is still being made.
    have placed {stage : Stage} (busy : stage.busy = true) : Working a (t.setStage a stage) :=
      (alike_setStage working.busy busy).working working
    refine .cond (fun _ => .once_update (placed rfl)) (fun _ => ?_)
    refine .cond (fun _ => .once_update (placed rfl)) (fun _ => ?_)
    apply Ensures.bind (Q := fun _ => Working a)
    · refine .once_update (Alike.working ?_ working)
      exact Alike.trans alike_fields (alike_setStage working.busy rfl)
    · exact fun _ => .handle (works_handle a sound) fun error => works_alike fun _ =>
        alike_rejects error
  · exact fun _ => .handle (works_negotiate a false) fun error => works_alike fun _ =>
      alike_rejects error

/-- What the `catch` of the last attempt finds. -/
structure Caught (a : Nat) (c : VoxRtcBrowserClient) : Prop where
  holding : Holding c
  started : c.started = a
  goes : c.connectionAttempt = a ∨ Shut c ∧ c.status = .closed

private theorem Working.caught (working : Working a c) : Caught a c :=
  ⟨working.holding, working.started, working.goes.imp (fun goes => goes.2) fun gone =>
    ⟨gone.1, gone.2.1⟩⟩

/-- The client is closed, and the last attempt is over. -/
def Failed (a : Nat) (c : VoxRtcBrowserClient) : Prop := Shut c ∧ c.status = .closed ∧ c.started = a

private theorem Calmed.failed (calmed : Calmed s t) (failed : Failed a s) : Failed a t := by
  rcases calmed with rfl | gone
  · exact failed
  · exact ⟨gone.shut, gone.closed, gone.started.trans failed.2.2⟩

private theorem recover_fails (sound : l.sound = true) (reacts : l.error ≠ .throws)
    (error : Thrown) :
    Ensures (Caught a) (recover a l error) (fun _ => Failed a) (fun _ => Failed a) := by
  refine .read fun t caught => .cond (fun _ => ?_) (fun other => ?_)
  · have alike := alike_reject (c := { t with connectionAttempt := t.connectionAttempt + 1 }) error
    have cancelled := alike.holding ⟨caught.holding.peer, caught.holding.signaling⟩
    have started : (t.cancel error).started = a := alike.started.trans caught.started
    apply Ensures.bind (Q := fun _ u => u = t.cancel error)
    · exact .update fun _ same => same ▸ rfl
    intro _
    -- The listeners hear of the error before the cleanup, unless it is a cancellation.
    apply Ensures.bind (Q := fun _ u => Holding u ∧ u.started = a)
    · refine .cond (fun _ => .pure fun _ same => same ▸ ⟨cancelled, started⟩) (fun _ => ?_)
      refine (emit_thrown (sound_of sound (by simp)) reacts cancelled).weaken (fun _ => id)
        (fun _ u calmed => ?_) (fun _ u gone => ⟨gone.shut, gone.closed, gone.started.trans started⟩)
      rcases calmed with rfl | gone
      · exact ⟨cancelled, started⟩
      · exact ⟨gone.shut.holding, gone.started.trans started⟩
    intro _
    apply Ensures.bind (Q := fun _ => Failed a)
    · refine .update fun u holds => ⟨holds.1.shut, rfl, ?_⟩
      rw [shut_eq]
      exact holds.2
    · refine fun _ => .each fun u failed => ?_
      exact (emit_calms (sound_of sound (by simp)) u failed.1.holding).weaken (fun _ => id)
        (fun _ _ calmed => calmed.failed failed) (fun _ _ calmed => calmed.failed failed)
  -- Another call has taken over, or has ended the attempt: it has been cleaned up.
  · exact .once_pure ⟨(caught.goes.resolve_left other).1, (caught.goes.resolve_left other).2,
      caught.started⟩

private theorem setStage_holds {stage : Stage} : (c.setStage a stage).hasPeer b = c.hasPeer b ∧
    (c.setStage a stage).hasSignaling b = c.hasSignaling b := by
  unfold setStage hasPeer hasSignaling
  rw [alter_attempts]
  split <;> exact ⟨rfl, rfl⟩

private theorem holding_setStage {stage : Stage} (holding : Holding c) :
    Holding (c.setStage a stage) :=
  ⟨fun b held => holding.peer b (setStage_holds.1.symm.trans held),
    fun b held => holding.signaling b (setStage_holds.2.symm.trans held)⟩

private theorem Shut.setStage {stage : Stage} (shut : Shut c) : Shut (c.setStage a stage) :=
  ⟨holding_setStage shut.holding, shut.status, shut.signaling, shut.peerConnection,
    shut.dataChannel, shut.localStream⟩

/-- The call of the last attempt has caught what its body threw. -/
private theorem attempting_steady {body : Body} (sound : l.sound = true)
    (reacts : l.error ≠ .throws)
    (tried : Ensures (fun u => u = t) body (fun _ => Steady) (fun _ => Caught a)) :
    Steady (after (attempting a l body) t) := by
  refine Ensures.after (P := fun u => u = t) (.handle tried fun error => ?_) rfl
  apply Ensures.bind (Q := fun _ => Failed a)
  · exact .handle (recover_fails sound reacts error) fun _ => .pure fun _ => id
  · exact fun _ => .update fun u failed => failed.1.setStage.steady failed.2.1

/-- Where a call of `connect` waits, its attempt is being made or is over. -/
private theorem Steady.caught (steady : Steady c) (started : c.started = a)
    (begun : c.Begun a) (pending : (c.attempts a).stage ≠ .resolved) : Caught a c := by
  refine ⟨steady.holding, started, ?_⟩
  -- An attempt with another number than the client has been ended.
  by_cases number : c.connectionAttempt = a
  · exact .inl number
  · have closed : c.isOpen = false := by
      cases opened : c.isOpen with
      | false => rfl
      | true =>
        simp only [isOpen, Bool.or_eq_true, beq_iff_eq] at opened
        rcases opened with connecting | connected
        · exact absurd ((steady.connecting connecting).1.trans started) number
        · exact absurd (started ▸ steady.connected connected) pending
    have shut := steady.shut closed
    refine .inr ⟨shut, shut.status.resolve_right fun idle => begun (steady.idle idle a)⟩

/-- A call of an earlier attempt has caught what its body threw. -/
private theorem attempting_lost {body : Body} (lost : a ≠ t.connectionAttempt)
    (other : a ≠ t.started) (begun : t.Begun a) (steady : Steady t)
    (throws : Ensures (fun u => u = t) body (fun _ _ => False) (fun _ => Alike t)) :
    Steady (after (attempting a l body) t) := by
  refine Ensures.after (P := fun u => u = t) (.handle (throws.weaken (fun _ => id)
    (fun _ _ => False.elim) (fun _ _ => id)) fun error => ?_) rfl
  apply Ensures.bind (Q := fun _ => Alike t)
  · refine .handle (F := fun _ => Alike t) ?_ fun _ => .pure fun _ => id
    refine .read fun u alike => .cond (fun number => ?_) fun _ => .once_pure alike
    -- Its `catch` finds another number, and leaves the client alone.
    exact absurd (number.symm.trans alike.connectionAttempt) lost
  · refine fun _ => .update fun u alike => ?_
    have later := alike.steady steady
    have stage : ((u.setStage a .rejected).attempts u.started).stage =
        (u.attempts u.started).stage := by
      rw [setStage_stage, if_neg]
      exact fun same => other (same.symm.trans alike.started)
    refine ⟨holding_setStage later.holding, fun closed => (later.shut closed).setStage,
      fun idle => ?_, fun connecting => ?_,
      fun connected => stage.trans (later.connected connected)⟩
    · exact absurd (steady.idle (alike.status.symm.trans idle) a) begun
    · refine (later.connecting connecting).imp_right fun place => ?_
      change (((u.setStage a .rejected).attempts u.started).stage.busy = true ∨
        ((u.setStage a .rejected).attempts u.started).stage = .signaling ∧ _)
      rwa [stage]

private theorem working_works {body : Body} (works : Keeps (Working a) body) :
    Ensures (Working a) body (fun _ => Steady) (fun _ => Caught a) :=
  works.weaken (fun _ => id) (fun _ _ working => working.steady) (fun _ _ working => working.caught)

private theorem Calmed.caught (calmed : Calmed s t) (caught : Caught a s) : Caught a t := by
  rcases calmed with rfl | gone
  · exact caught
  · exact ⟨gone.shut.holding, gone.started.trans caught.started, .inr ⟨gone.shut, gone.closed⟩⟩

/-- The attempt has its signaling client, and no peer connection is there. -/
private theorem openPeer_working (steady : Steady c) (started : c.started = a)
    (waiting : (c.attempts a).stage = .signaling) (connecting : c.status = .connecting)
    (number : c.connectionAttempt = a) : Working a (c.openPeer a) := by
  have none : c.peerConnection = none := by
    rcases (steady.connecting connecting).2 with busy | unopened
    · rw [started, waiting] at busy
      cases busy
    · exact unopened.2
  refine ⟨⟨fun b held => ?_, fun b held => ?_⟩, started, ?_, .inl ⟨connecting, number⟩⟩
  -- The new peer connection is in the field; no earlier one is open, as the field was empty.
  · by_cases here : b = a
    · exact congrArg some here.symm
    · unfold openPeer hasPeer at held
      rw [alter_attempts, if_neg here] at held
      cases none.symm.trans (steady.holding.peer b held)
  · refine steady.holding.signaling b ?_
    unfold openPeer hasSignaling at held
    rw [alter_attempts] at held
    split at held <;> exact held
  · simp [openPeer, Stage.busy]

private theorem bootstrap_caught {factory channel : Bool} (sound : l.sound = true)
    (reacts : l.session = .returns ∨ l.session.throwing = true) (steady : Steady c)
    (started : c.started = a) (waiting : (c.attempts a).stage = .signaling) :
    Ensures (fun t => t = c) (bootstrap a factory channel l) (fun _ => Steady)
      (fun _ => Caught a) := by
  -- Whatever throws on the way finds the attempt as it was.
  have caught : Caught a c := steady.caught started (fun none => by cases waiting.symm.trans none)
    (fun resolved => by cases waiting.symm.trans resolved)
  apply Ensures.bind (assertActive_once.weaken (fun _ => id) (fun _ _ => id)
    fun _ _ same => same ▸ caught)
  intro _
  -- past the check there is no peer connection yet
  apply Ensures.bind (Q := fun _ t => t = c ∧ c.isActiveConnectionAttempt a = true)
  · rcases reacts with returns | throws
    · rw [returns]
      exact .pure fun _ => id
    · exact (emit_throwing (sound_of sound (by simp)) throws steady.holding).weaken
        (fun _ passed => passed.1) (fun _ _ => False.elim) (fun _ _ calmed => calmed.caught caught)
  intro _
  apply Ensures.bind (Q := fun _ t => t = c ∧ c.isActiveConnectionAttempt a = true)
  · exact .cond (fun _ => .pure fun _ => id) (fun _ => .throw fun _ same => same.1 ▸ caught)
  intro _
  apply Ensures.bind (Q := fun _ t => t = c.openPeer a ∧ Working a (c.openPeer a))
  · rintro t ⟨rfl, active⟩
    simp only [isActiveConnectionAttempt, Bool.and_eq_true, beq_iff_eq] at active
    exact ⟨rfl, openPeer_working steady started waiting active.2 active.1.symm⟩
  intro _
  apply Ensures.bind (Q := fun _ t => t = c.openPeer a ∧ Working a (c.openPeer a))
  · exact .cond (fun _ => .pure fun _ => id) (fun _ => .throw fun _ here => here.1 ▸ here.2.caught)
  intro _
  apply Ensures.bind (Q := fun _ => Working a)
  · rintro t ⟨rfl, working⟩
    refine ⟨⟨working.holding.peer, working.holding.signaling⟩, working.started, working.busy, ?_⟩
    exact .inl (working.goes.resolve_right fun gone => by cases gone.1.peerConnection)
  intro _
  -- From here on the attempt works with its own peer connection.
  apply working_works
  apply Ensures.bind (works_emit (sound_of sound (by simp)))
  refine fun _ => .read fun t working => .cond (fun _ => ?_) (fun _ => ?_)
  · exact .once_update ((alike_setStage working.busy rfl).working working)
  · exact (works_join sound).weaken (fun _ same => same ▸ working) (fun _ _ => id) (fun _ _ => id)

private theorem useMicrophone_caught {tracks : Bool} (sound : l.sound = true) (steady : Steady c)
    (started : c.started = a) (waiting : (c.attempts a).stage = .microphone) (stream : Nat) :
    Ensures (fun t => t = c) (useMicrophone a stream tracks l) (fun _ => Steady)
      (fun _ => Caught a) := by
  have caught : Caught a c := steady.caught started (fun none => by cases waiting.symm.trans none)
    (fun resolved => by cases waiting.symm.trans resolved)
  refine .read fun t same => ?_
  subst same
  refine .cond (fun active => ?_) (fun _ => ?_)
  · simp only [isActiveConnectionAttempt, Bool.and_eq_true, beq_iff_eq] at active
    have working : Working a { t with localStream := some stream } :=
      ⟨⟨steady.holding.peer, steady.holding.signaling⟩, started, by rw [waiting]; rfl,
        .inl ⟨active.2, active.1.symm⟩⟩
    apply Ensures.bind (Q := fun _ => Working a)
    · exact .update fun u same => same ▸ working
    intro _
    apply Ensures.bind (Q := fun _ => Working a)
    · exact .cond (fun _ => .pure fun _ => id) (fun _ => .throw fun _ working => working.caught)
    intro _
    apply working_works
    exact Ensures.bind (works_emit (sound_of sound (by simp))) fun _ => works_join sound
  -- The stream has come too late: its tracks are stopped, and the call throws.
  · apply Ensures.bind (Q := fun _ => Caught a)
    · exact .update fun u same => same ▸ ⟨⟨caught.holding.peer, caught.holding.signaling⟩,
        caught.started, caught.goes.imp_right fun gone => ⟨alike_fields.shut gone.1, gone.2⟩⟩
    · exact fun _ => .throw fun _ => id

private theorem conclude_caught (sound : l.sound = true) (steady : Steady c)
    (started : c.started = a) (joined : (c.attempts a).stage = .joining true true) :
    Ensures (fun t => t = c) (conclude a l) (fun _ => Steady) (fun _ => Caught a) := by
  have caught : Caught a c := steady.caught started (fun none => by cases joined.symm.trans none)
    (fun resolved => by cases joined.symm.trans resolved)
  apply Ensures.bind (assertActive_once.weaken (fun _ => id) (fun _ _ => id)
    fun _ _ same => same ▸ caught)
  intro _
  have connected : Holding { c with status := .connected } :=
    ⟨steady.holding.peer, steady.holding.signaling⟩
  apply Ensures.bind (Q := fun _ t => t = { c with status := .connected } ∧ c.connectionAttempt = a)
  · rintro t ⟨rfl, active⟩
    simp only [isActiveConnectionAttempt, Bool.and_eq_true, beq_iff_eq] at active
    exact ⟨rfl, active.1.symm⟩
  intro _
  apply Ensures.bind (Q := fun _ t => Calmed { c with status := .connected } t)
  · refine .each fun t here => ?_
    obtain ⟨rfl, number⟩ := here
    exact (emit_calms (sound_of sound (by simp)) _ connected).weaken (fun _ => id) (fun _ _ => id)
      (fun _ _ calmed => calmed.caught ⟨connected, started, .inl number⟩)
  -- A listener may have disconnected; the call resolves in either case.
  refine fun _ => .update fun t calmed => ?_
  rcases calmed with rfl | gone
  · refine ⟨holding_setStage connected, fun closed => ?_, fun absurd => ?_, fun absurd => ?_,
      fun _ => ?_⟩
    · cases closed
    · cases absurd
    · cases absurd
    · exact (setStage_stage _).trans (if_pos started)
  · exact gone.shut.setStage.steady gone.closed

end Working

section Steps

/-- The check of an earlier call fails. -/
private theorem check_lost {next : Unit → Body} (lost : a ≠ c.connectionAttempt) :
    Ensures (fun t => t = c) (assertActiveConnectionAttempt a >>= next) (fun _ _ => False)
      (fun _ => Alike c) := by
  apply Ensures.bind (Q := fun _ _ => False)
  · refine assertActive_once.weaken (fun _ => id) (fun _ _ passed => ?_)
      (fun _ _ same => same ▸ alike_fields)
    simp [isActiveConnectionAttempt, lost] at passed
  · exact fun _ _ absurd => absurd.elim

private theorem resume_other {e : Resumption} (lost : a ≠ c.connectionAttempt)
    (other : a ≠ c.started) (begun : c.Begun a) (steady : Steady c)
    (taken : c.resume a l e = some c') : Steady c' := by
  -- The call throws at its check, or with what it has waited for.
  cases e with
  | signalingResolves factory channel =>
    simp only [resume, Option.ite_none_right_eq_some, Option.some.injEq] at taken
    obtain ⟨_, rfl⟩ := taken
    exact attempting_lost lost other begun steady (check_lost lost)
  | signalingRejects | microphoneRejects =>
    simp only [resume, Option.ite_none_right_eq_some, Option.some.injEq] at taken
    obtain ⟨_, rfl⟩ := taken
    exact attempting_lost lost other begun steady (.throw fun _ same => same ▸ alike_fields)
  | microphoneResolves tracks =>
    simp only [resume, Option.ite_none_right_eq_some, Option.some.injEq] at taken
    obtain ⟨_, rfl⟩ := taken
    refine attempting_lost lost other begun (alike_fields.steady steady) (.read fun t same => ?_)
    subst same
    refine .cond (fun active => ?_) (fun _ => ?_)
    · simp [isActiveConnectionAttempt, show a ≠ c.acquires.connectionAttempt from lost] at active
    · apply Ensures.bind (Q := fun _ => Alike c.acquires)
      · exact .update fun _ same => same ▸ alike_fields
      · exact fun _ => .throw fun _ => id
  | joinResolves =>
    simp only [resume, Option.ite_none_right_eq_some, Option.some.injEq] at taken
    obtain ⟨_, rfl⟩ := taken
    exact attempting_lost lost other begun steady (check_lost lost)
  | joinRejects =>
    simp only [resume] at taken
    split at taken
    · cases taken
      exact attempting_lost lost other begun steady (.throw fun _ same => same ▸ alike_fields)
    · cases taken

private theorem resume_last {e : Resumption} (composed : c.Composed (.resumes a e l))
    (started : c.started = a) (steady : Steady c) (taken : c.resume a l e = some c') :
    Steady c' := by
  have caught {stage : Stage} (here : (c.attempts a).stage = stage) (begun : stage ≠ .unstarted)
      (pending : stage ≠ .resolved) : Caught a c :=
    steady.caught started (fun none => begun (here.symm.trans none))
      (fun resolved => pending (here.symm.trans resolved))
  cases e with
  | signalingResolves factory channel =>
    simp only [resume, Option.ite_none_right_eq_some, Option.some.injEq] at taken
    obtain ⟨stage, rfl⟩ := taken
    obtain ⟨sound, reacts, session⟩ := composed
    exact attempting_steady sound reacts (bootstrap_caught sound session steady started stage)
  | signalingRejects | microphoneRejects =>
    simp only [resume, Option.ite_none_right_eq_some, Option.some.injEq] at taken
    obtain ⟨stage, rfl⟩ := taken
    have caught := caught stage (fun absurd => by cases absurd) (fun absurd => by cases absurd)
    exact attempting_steady composed.1 composed.2 (.throw fun _ same => same ▸ caught)
  | microphoneResolves tracks =>
    simp only [resume, Option.ite_none_right_eq_some, Option.some.injEq] at taken
    obtain ⟨stage, rfl⟩ := taken
    exact attempting_steady composed.1 composed.2
      (useMicrophone_caught (c := c.acquires) composed.1 (alike_fields.steady steady) started stage _)
  | joinResolves =>
    simp only [resume, Option.ite_none_right_eq_some, Option.some.injEq] at taken
    obtain ⟨stage, rfl⟩ := taken
    exact attempting_steady composed.1 composed.2 (conclude_caught composed.1 steady started stage)
  | joinRejects =>
    simp only [resume] at taken
    split at taken
    next error stage =>
      cases taken
      have caught := caught stage (fun absurd => by cases absurd) (fun absurd => by cases absurd)
      exact attempting_steady composed.1 composed.2 (.throw fun _ same => same ▸ caught)
    · cases taken

/-- A closed client holds nothing, so that a new attempt holds its signaling client only. -/
private theorem begins_steady (audio : Bool) (shut : Shut c) :
    Steady ((c.begins audio).openSignaling (c.connectionAttempt + 1)) := by
  have stage : (((c.begins audio).openSignaling (c.connectionAttempt + 1)).attempts
      (c.connectionAttempt + 1)).stage = .signaling := by
    simp [openSignaling]
  refine ⟨⟨fun b held => ?_, fun b held => ?_⟩, (fun closed => by cases closed),
    (fun idle => by cases idle), fun _ => ⟨rfl, .inr ⟨stage, shut.peerConnection⟩⟩,
    (fun connected => by cases connected)⟩
  · refine absurd (shut.holding.peer b ?_) (by simp [shut.peerConnection])
    simp only [hasPeer, openSignaling, begins, alter_attempts] at held
    split at held <;> exact held
  -- The only socket that is open is the new one.
  · by_cases here : b = c.connectionAttempt + 1
    · exact congrArg some here.symm
    · refine absurd (shut.holding.signaling b ?_) (by simp [shut.signaling])
      simpa only [hasSignaling, openSignaling, begins, alter_attempts, if_neg here] using held

private theorem connect_steady (audio : Bool) (returns : l.connecting = .returns)
    (steady : Steady c) : Steady (after (connect audio l) c) := by
  refine Ensures.after (P := fun t => t = c) (.read fun t same => ?_) rfl
  subst same
  refine require_then steady fun closed => ?_
  have shut := steady.shut (by simpa using closed)
  apply Ensures.bind (Q := fun _ u => u = t.begins audio)
  · exact .update fun _ same => same ▸ rfl
  intro _
  refine .handle (F := fun _ _ => False) ?_ fun _ _ absurd => absurd.elim
  rw [returns]
  apply Ensures.bind (Q := fun _ u => u = t.begins audio)
  · exact .pure fun _ => id
  refine fun _ => .update fun u same => ?_
  subst same
  exact begins_steady audio shut

private theorem continues_steady {n : Nat} {call : Negotiation} {e : NegotiationEvent}
    (sound : l.sound = true) (steady : Steady c) (taken : c.continues n call l e = some c') :
    Steady c' := by
  cases e with
  | offerCreated | answered | candidateAdded =>
    simp only [continues] at taken
    split at taken <;> cases taken
    exact alike_fields.steady steady
  | localSet sdp =>
    simp only [continues] at taken
    split at taken <;> cases taken
    exact Ensures.after (keeps_localSet n call sdp sound) steady
  | remoteApplied =>
    simp only [continues] at taken
    split at taken <;> cases taken
    exact alike_fields.steady ((alike_describe call.peerConnection).steady steady)
  | remoteSet =>
    simp only [continues] at taken
    split at taken <;> cases taken
    exact Ensures.after (keeps_remoteSet n call) steady
  | flushed =>
    simp only [continues] at taken
    split at taken <;> cases taken
    exact (alike_negotiated n call).steady steady
  | rejects =>
    simp only [continues] at taken
    split at taken <;> cases taken
    all_goals exact (alike_negotiationFails n call).steady steady
  | restartFails =>
    simp only [continues] at taken
    split at taken <;> cases taken
    exact Ensures.after (keeps_restartFails sound) (alike_fields.steady steady)

private theorem steady_replaces (stream : Nat) (opened : c.isOpen = true) (steady : Steady c) :
    Steady (c.replaces stream) := by
  refine ⟨⟨steady.holding.peer, steady.holding.signaling⟩, fun closed => ?_, steady.idle,
    steady.connecting, steady.connected⟩
  cases closed.symm.trans opened

private theorem useReplacement_steady {how : Sender} (n stream : Nat) (sound : l.sound = true)
    (steady : Steady c) : Steady (after (useReplacement n stream how l) c) := by
  refine Ensures.after (P := fun t => t = c) (.read fun t same => ?_) rfl
  subst same
  cases how with
  | noTrack => exact .once_update (alike_fields.steady steady)
  | sender =>
    refine .cond (fun _ => .once_throw steady) (fun _ => ?_)
    exact .once_update (alike_fields.steady steady)
  | added ok =>
    refine require_then steady fun holds => ?_
    -- only an open client has a peer connection
    have opened : t.isOpen = true := by
      refine (Bool.eq_false_or_eq_true _).resolve_right fun closed => ?_
      exact holds.1 (steady.shut closed).peerConnection
    apply Ensures.bind (Q := fun _ => Steady)
    · exact .once_update (steady_replaces stream opened steady)
    · exact fun _ => keeps_emit (sound_of sound (by simp))

private theorem replace_steady {n : Nat} {e : ReplacementEvent} {r : Replacement}
    (composed : c.Composed (.replacement n e l)) (steady : Steady c)
    (taken : c.replace n l e r = some c') : Steady c' := by
  cases e with
  | acquired how =>
    cases r <;> simp only [replace, reduceCtorEq, Option.some.injEq] at taken
    subst taken
    apply useReplacement_steady (c := (c.setReplacement n .settled).acquires) n c.acquired composed
    exact Alike.steady (c := c) alike_fields steady
  | replaced =>
    cases r <;> simp only [replace, reduceCtorEq, Option.some.injEq] at taken
    subst taken
    have settled : Steady (c.setReplacement n .settled) := Alike.steady (c := c) alike_fields steady
    refine Ensures.after (P := fun t => t = c.setReplacement n .settled) ?_ rfl
    apply Ensures.bind (Q := fun _ => Steady)
    · exact .once_update (steady_replaces _ composed.2 settled)
    · exact fun _ => keeps_emit (sound_of composed.1 (by simp))
  | refused | rejects =>
    cases r <;> simp only [replace, reduceCtorEq, Option.some.injEq] at taken
    exact taken ▸ alike_fields.steady steady

private theorem alike_enter {state : PeerState} (entered : c.enter a state = some c') :
    Alike c c' := by
  unfold enter at entered
  split at entered
  next p here =>
    split at entered <;> cases entered
    next opened =>
    refine ⟨rfl, rfl, rfl, rfl, rfl, rfl, rfl, fun b held => ?_, fun b held => ?_, fun b => .inl ?_⟩
    · simp only [hasPeer, alter_attempts] at held ⊢
      split at held
      -- Only a peer connection that has not been closed enters a state.
      next same => simp [same, here, opened]
      next => exact held
    · simp only [hasSignaling, alter_attempts] at held ⊢
      split at held <;> exact held
    · rw [alter_attempts]
      split <;> rfl
  · cases entered

private theorem alike_gone (opened : (c.attempts a).signaling = some .opened) :
    Alike c (c.alter a ({ · with signaling := some .gone })) := by
  refine ⟨rfl, rfl, rfl, rfl, rfl, rfl, rfl, fun b held => ?_, fun b held => ?_, fun b => .inl ?_⟩
  · simp only [hasPeer, alter_attempts] at held ⊢
    split at held <;> exact held
  · simp only [hasSignaling, alter_attempts] at held ⊢
    split at held
    next same => simp [same, opened]
    next => exact held
  · rw [alter_attempts]
    split <;> rfl

/-- The handlers in place are those of the peer connection the client holds. -/
private theorem steady_dataChannel (steady : Steady c) (held : c.hasPeer a = true) :
    Steady { c with dataChannel := true } := by
  have current := steady.holding.peer a held
  refine ⟨⟨steady.holding.peer, steady.holding.signaling⟩, fun closed => ?_, steady.idle,
    steady.connecting, steady.connected⟩
  cases current.symm.trans (steady.shut closed).peerConnection

private theorem resume_begun {e : Resumption} (taken : c.resume a l e = some c') : c.Begun a := by
  intro unstarted
  cases e <;> simp [resume, unstarted] at taken

theorem steady_step {e : Event} (numbered : Numbered c) (composed : c.Composed e)
    (taken : browser.step c e = some c') (steady : Steady c) : Steady c' := by
  change c.step e = some c' at taken
  cases e with
  | connect audio l =>
    cases taken
    exact connect_steady audio composed.2 steady
  | disconnect l =>
    cases taken
    exact Ensures.after (keeps_disconnect composed) steady
  | restartIce =>
    cases taken
    exact Ensures.after keeps_restartIce steady
  | replaceMicrophone =>
    simp only [step] at taken
    split at taken <;> cases taken
    · exact steady
    · exact alike_fields.steady steady
  | resumes a e l =>
    have begun := resume_begun taken
    -- Only the attempt that was started last holds anything.
    by_cases last : c.started = a
    · exact resume_last composed last steady taken
    · have earlier : ¬c.started < a := fun above => begun (numbered.1 a above)
      have above := numbered.2
      exact resume_other (by omega) (by omega) begun steady taken
  | negotiation n e l =>
    obtain ⟨call, _, taken⟩ := Option.bind_eq_some_iff.mp taken
    exact continues_steady composed steady taken
  | replacement n e l =>
    obtain ⟨r, _, taken⟩ := Option.bind_eq_some_iff.mp taken
    exact replace_steady composed steady taken
  | peerState a state l =>
    obtain ⟨d, entered, rfl⟩ := Option.map_eq_some_iff.mp taken
    exact Ensures.after (keeps_handle a composed) ((alike_enter entered).steady steady)
  | dataChannel a l =>
    simp only [step, Option.ite_none_right_eq_some, Option.some.injEq] at taken
    obtain ⟨held, rfl⟩ := taken
    exact Ensures.after (keeps_emit (sound_of composed (by simp))) (steady_dataChannel steady held)
  | localCandidate a candidate l =>
    simp only [step, Option.ite_none_right_eq_some, Option.some.injEq] at taken
    obtain ⟨_, rfl⟩ := taken
    exact Ensures.after (keeps_localCandidate candidate composed) steady
  | mediaTimeout =>
    simp only [step, Option.ite_none_left_eq_some, Option.some.injEq] at taken
    obtain ⟨_, rfl⟩ := taken
    exact (alike_reject _).steady steady
  | signalingCloses a l =>
    simp only [step, Option.ite_none_right_eq_some, Option.some.injEq] at taken
    obtain ⟨opened, rfl⟩ := taken
    exact Ensures.after (keeps_signalingClose composed.1 ((alike_gone opened).steady steady)
      composed.2) rfl
  | sessionClosed a l =>
    simp only [step, Option.ite_none_right_eq_some, Option.some.injEq] at taken
    obtain ⟨_, rfl⟩ := taken
    exact Ensures.after (keeps_sessionClosed composed) steady
  | serverCandidate a candidate l =>
    simp only [step, Option.ite_none_right_eq_some, Option.some.injEq] at taken
    obtain ⟨_, rfl⟩ := taken
    exact Ensures.after (keeps_serverCandidate candidate composed) steady

theorem steady_reaches {C : VoxRtcBrowserClient → Event → Prop}
    (cond : ∀ c e, C c e → c.Composed e) (reached : browser.Reaches C c) :
    Steady c ∧ Numbered c := by
  refine reached.preserves (P := fun c => Steady c ∧ Numbered c) ?_ ?_
  -- At first nothing has been started, and nothing is held.
  · have holding : Holding .initial :=
      ⟨fun _ absurd => (by cases absurd), fun _ absurd => (by cases absurd)⟩
    exact ⟨⟨holding, fun _ => ⟨holding, .inr rfl, rfl, rfl, rfl, rfl⟩, fun _ _ => rfl,
      fun absurd => (by cases absurd), fun absurd => (by cases absurd)⟩, fun _ _ => rfl,
      Nat.le_refl _⟩
  · exact fun _ _ _ kept meets taken =>
      ⟨steady_step kept.2 (cond _ _ meets) taken kept.1, numbered_step taken kept.2⟩

/-- Once its last attempt has failed, a client is closed and holds nothing. -/
theorem Steady.released (steady : Steady c) (failed : (c.attempts c.started).stage = .rejected) :
    c.Released c.started := by
  -- An open client has its last attempt at some other stage.
  have closed : c.isOpen = false := by
    refine (Bool.eq_false_or_eq_true _).resolve_left fun opened => ?_
    simp only [isOpen, Bool.or_eq_true, beq_iff_eq] at opened
    rcases opened with connecting | connected
    · rcases (steady.connecting connecting).2 with busy | waiting
      · rw [failed] at busy
        cases busy
      · cases failed.symm.trans waiting.1
    · cases failed.symm.trans (steady.connected connected)
  have shut := steady.shut closed
  refine ⟨shut.status.resolve_right fun idle => ?_, shut.signaling, shut.peerConnection,
    shut.dataChannel, shut.localStream, ?_, ?_⟩
  · cases failed.symm.trans (steady.idle idle _)
  · refine Bool.eq_false_iff.mpr fun held => ?_
    cases shut.signaling.symm.trans (shut.holding.signaling _ held)
  · refine Bool.eq_false_iff.mpr fun held => ?_
    cases shut.peerConnection.symm.trans (shut.holding.peer _ held)

end Steps

instance decidableComposed (c : VoxRtcBrowserClient) : (e : Event) → Decidable (c.Composed e)
  | .connect _ l => inferInstanceAs (Decidable (l.sound = true ∧ l.connecting = .returns))
  | .resumes _ (.signalingResolves ..) l => inferInstanceAs (Decidable (l.sound = true ∧
    l.error ≠ .throws ∧ (l.session = .returns ∨ l.session.throwing = true)))
  | .resumes _ .signalingRejects l | .resumes _ (.microphoneResolves _) l
  | .resumes _ .microphoneRejects l | .resumes _ .joinResolves l | .resumes _ .joinRejects l =>
    inferInstanceAs (Decidable (l.sound = true ∧ l.error ≠ .throws))
  | .signalingCloses _ l =>
    inferInstanceAs (Decidable (l.sound = true ∧ (c.status = .connecting → l.error ≠ .throws)))
  | .replacement _ .replaced l =>
    inferInstanceAs (Decidable (l.sound = true ∧ c.isOpen = true))
  | .disconnect l | .negotiation _ _ l | .replacement _ (.acquired _) l | .replacement _ .refused l
  | .replacement _ .rejects l | .peerState _ _ l | .dataChannel _ l | .localCandidate _ _ l
  | .sessionClosed _ l | .serverCandidate _ _ l => inferInstanceAs (Decidable (l.sound = true))
  | .restartIce | .replaceMicrophone | .mediaTimeout => inferInstanceAs (Decidable True)

end VoxRtcBrowserClient

open VoxRtcBrowserClient

/-- A failed attempt leaves nothing open, as long as the listeners leave the cleanup to do. -/
theorem failed_attempt_released {C : VoxRtcBrowserClient → Event → Prop}
    (cond : ∀ c e, C c e → c.Composed e) : Releases C := by
  intro c e c' a reached meets taken _ failed last
  obtain ⟨steady, numbered⟩ := steady_reaches cond reached
  subst last
  exact (steady_step numbered (cond c e meets) taken steady).released failed

/-- An attempt with a microphone waits for it. -/
def askingRun : List Event := [.connect true {}, .resumes 1 (.signalingResolves true true) {}]

/-- The microphone is refused, and a listener disconnects and throws. -/
theorem failed_attempt_released_run : ∃ c c', browser.run .initial askingRun = some c ∧
    browser.step c (.resumes 1 .microphoneRejects { error := .disconnects .returns .returns .throws })
      = some c' ∧ c.hasPeer 1 = true ∧ c.hasSignaling 1 = true ∧ c'.Released 1 := by
  refine ⟨_, _, rfl, rfl, rfl, rfl, ?_⟩
  have reached := System.leads_of_run (M := browser) (C := Composed) (s := browser.init) askingRun
    (by decide) rfl
  exact failed_attempt_released (fun _ _ => id) _ (.resumes 1 .microphoneRejects
    { error := .disconnects .returns .returns .throws }) _ 1 reached (by decide) rfl (by decide) rfl
    rfl

/-- The microphone is refused, and a listener throws before the cleanup. -/
theorem failed_attempt_held :
    (∃ c c', browser.run .initial askingRun = some c ∧
      browser.step c (.resumes 1 .microphoneRejects { error := .throws }) = some c' ∧
      (c.attempts 1).stage = .microphone ∧ (c'.attempts 1).stage = .rejected ∧ c'.started = 1 ∧
      c'.status = .connecting ∧ c'.hasPeer 1 = true ∧ c'.hasSignaling 1 = true) ∧
    ¬Releases always := by
  refine ⟨⟨_, _, rfl, rfl, rfl, rfl, rfl, rfl, rfl, rfl⟩, fun releases => ?_⟩
  have reached := System.reaches_of_run (M := browser) askingRun rfl
  -- The attempt is rejected, yet the client still calls itself connecting.
  have released := releases _ (.resumes 1 .microphoneRejects { error := .throws }) _ 1 reached
    trivial rfl (by decide) rfl rfl
  exact absurd released.status (by decide)

end VoxRtc.Browser.Attempts
