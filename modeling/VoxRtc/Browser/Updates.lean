import Mathlib.Logic.Relation
import VoxRtc.Browser.Calls

/-!
# Updates of the browser client

Every step of the client is what comes with its event, a stream or a new state of a peer
connection, and then a chain of updates, each of which changes a few fields and is made
under the checks the code has made by then.
-/
namespace VoxRtc.Browser.Attempts

open Program Transition

namespace VoxRtcBrowserClient

/-- The attempt has its number. -/
def Begun (c : VoxRtcBrowserClient) (a : Nat) : Prop := (c.attempts a).stage ≠ .unstarted

/-- The attempt has its peer connection and has not begun to wait for it, or the client has
been shut meanwhile. -/
def Ready (c : VoxRtcBrowserClient) (a : Nat) : Prop :=
  (c.attempts a).stage = .opening ∨ (c.attempts a).stage = .microphone ∨ c.isOpen = false

inductive Update (c : VoxRtcBrowserClient) : VoxRtcBrowserClient → Prop
  | cancel (error : Thrown) : Update c (c.cancel error)
  | raise : Update c { c with connectionAttempt := c.connectionAttempt + 1 }
  | shut : Update c c.shut
  | disconnecting : Update c { c with status := .disconnecting }
  | closeSignaling : Update c c.closeSignaling
  | begins (audio : Bool) : c.isOpen = false → Update c (c.begins audio)
  | openSignaling (a : Nat) : c.Begun a → Update c (c.openSignaling a)
  | openPeer (a : Nat) : c.Begun a → c.isActiveConnectionAttempt a = true ∨ c.isOpen = false →
      Update c (c.openPeer a)
  | dataChannel : Update c { c with dataChannel := true }
  | microphone (a : Nat) : c.Begun a → c.Ready a → Update c (c.setStage a .microphone)
  | mediaConnected (a : Nat) : c.Begun a → c.Ready a → c.connectionState a = some .connected →
      Update c (c.setStage a (.joining false true))
  | mediaDead (a : Nat) : c.Begun a → Update c (c.setStage a (.rejecting .failed))
  | awaitMedia (a : Nat) : c.Begun a → c.Ready a → c.mediaConnectionWait = none →
      c.connectionState a ≠ some .connected → (c.connectionState a).any (·.dead) = false →
      Update c (c.awaitMedia a)
  | mediaResolves (a : Nat) : c.peerConnection = some a → c.connectionState a = some .connected →
      Update c (c.resolveMediaConnectionWait a)
  | mediaRejects (error : Thrown) : Update c (c.rejectMediaConnectionWait error)
  | rejects (a : Nat) (error : Thrown) : Update c (c.alter a (·.rejects error))
  | connected (a : Nat) : c.isActiveConnectionAttempt a = true →
      (c.attempts a).stage = .joining true true → Update c { c with status := .connected }
  | settles (a : Nat) (stage : Stage) : c.Begun a → stage = .resolved ∨ stage = .rejected →
      Update c (c.setStage a stage)
  | negotiates (a : Nat) (restart : Bool) : Update c (c.negotiates a restart)
  | refuses (a : Nat) : Update c (c.refuses a)
  | setNegotiation (n : Nat) (call : Negotiation) (stage : NegotiationStage) :
      Update c (c.setNegotiation n call stage)
  | takeLocal : Update c c.takeLocalCandidates
  | keepLocal (candidate : Candidate) : c.bufferLocalCandidates = true →
      Update c { c with pendingLocalCandidates := c.pendingLocalCandidates ++ [candidate] }
  | answered : Update c { c with awaitingRemoteDescription := false }
  | takeServer : Update c { c with pendingServerCandidates := [] }
  | keepServer (candidate : Candidate) :
      Update c { c with pendingServerCandidates := c.pendingServerCandidates ++ [candidate] }
  | negotiated (n : Nat) (call : Negotiation) : Update c (c.negotiated n call)
  | negotiationFails (n : Nat) (call : Negotiation) : Update c (c.negotiationFails n call)
  | describe (peer : Option Nat) : Update c (c.describe peer)
  | gone (a : Nat) : Update c (c.alter a ({ · with signaling := some .gone }))
  | replacement : Update c { c with replacements := c.replacements ++ [.acquiring] }

abbrev Updates : VoxRtcBrowserClient → VoxRtcBrowserClient → Prop := Relation.ReflTransGen Update

/-- The stream that a call of `replaceMicrophone` gets, and what the call does with it. -/
def takesReplacement (c : VoxRtcBrowserClient) (n : Nat) : ReplacementEvent → Replacement →
    VoxRtcBrowserClient
  | .acquired how, _ =>
    let d := (c.setReplacement n .settled).acquires
    match how with
    | .noTrack => d.stopStream (some c.acquired)
    | .sender => if d.peerConnection = none then d else d.setReplacement n (.replacing c.acquired)
    | .added ok => if d.peerConnection ≠ none ∧ ok then d.replaces c.acquired else d
  | .replaced, .replacing stream => (c.setReplacement n .settled).replaces stream
  | _, _ => c.setReplacement n .settled

/-- What comes with an event. -/
def takes (c : VoxRtcBrowserClient) : Event → VoxRtcBrowserClient
  | .resumes a (.microphoneResolves _) _ =>
    -- The tracks of a stream that comes too late are stopped at once.
    if c.isActiveConnectionAttempt a then { c.acquires with localStream := some c.acquired }
    else c.acquires.stopStream (some c.acquired)
  | .replacement n e _ => (c.replacements[n]?.map (c.takesReplacement n e)).getD c
  | .peerState a state _ => (c.enter a state).getD c
  | _ => c

section Frames

variable {c c' d : VoxRtcBrowserClient} {a b : Nat}

@[simp] theorem alter_attempts (f : Attempt → Attempt) :
    (c.alter a f).attempts b = if b = a then f (c.attempts b) else c.attempts b := rfl

@[simp] theorem alter_status (f : Attempt → Attempt) : (c.alter a f).status = c.status := rfl

@[simp] theorem alter_connectionAttempt (f : Attempt → Attempt) :
    (c.alter a f).connectionAttempt = c.connectionAttempt := rfl

@[simp] theorem alter_peerConnection (f : Attempt → Attempt) :
    (c.alter a f).peerConnection = c.peerConnection := rfl

@[simp] theorem alter_mediaConnectionWait (f : Attempt → Attempt) :
    (c.alter a f).mediaConnectionWait = c.mediaConnectionWait := rfl

@[simp] theorem setStage_stage (stage : Stage) :
    ((c.setStage a stage).attempts b).stage = if b = a then stage else (c.attempts b).stage := by
  unfold setStage
  rw [alter_attempts]
  split <;> rfl

/-- Where the media wait rejects, one attempt changes. -/
theorem reject_eq (error : Thrown) : c.rejectMediaConnectionWait error = { c with
    mediaConnectionWait := none
    attempts := (c.rejectMediaConnectionWait error).attempts } := by
  unfold rejectMediaConnectionWait
  split
  next unset =>
    rw [← unset]
  next => rfl

theorem closeSignaling_eq :
    c.closeSignaling = { c with attempts := c.closeSignaling.attempts } := by
  unfold closeSignaling
  split <;> rfl

theorem closePeer_eq : c.closePeer = { c with attempts := c.closePeer.attempts } := by
  unfold closePeer
  split <;> rfl

/-- Closing the client resets its fields and changes attempts. -/
theorem shut_eq : c.shut = { c.clear with
    status := .closed
    mediaConnectionWait := none
    attempts := c.shut.attempts
    live := (c.stopStream c.localStream).live } := by
  unfold shut cleanup
  rw [closePeer_eq, closeSignaling_eq, reject_eq]
  rfl

theorem rejects_unstarted {t : Attempt} {error : Thrown} :
    (t.rejects error).stage = .unstarted ↔ t.stage = .unstarted := by
  unfold Attempt.rejects
  cases stage : t.stage <;> simp [stage]

theorem negotiates_unstarted {t : Attempt} :
    t.negotiates.stage = .unstarted ↔ t.stage = .unstarted := by
  unfold Attempt.negotiates
  cases stage : t.stage <;> simp [stage]

theorem connects_unstarted {t : Attempt} :
    t.connects.stage = .unstarted ↔ t.stage = .unstarted := by
  unfold Attempt.connects
  cases stage : t.stage <;> simp [stage]

/-- Whether an attempt has its number is up to `f` alone. -/
theorem begun_alter {f : Attempt → Attempt}
    (same : ∀ t, (f t).stage = .unstarted → t.stage = .unstarted) (begun : c.Begun b) :
    (c.alter a f).Begun b := by
  unfold Begun at begun ⊢
  rw [alter_attempts]
  split
  · exact fun none => begun (same _ none)
  · exact begun

theorem begun_setStage {stage : Stage} (set : stage ≠ .unstarted) (begun : c.Begun b) :
    (c.setStage a stage).Begun b :=
  begun_alter (fun _ none => absurd none set) begun

theorem begun_reject (error : Thrown) (begun : c.Begun b) :
    (c.rejectMediaConnectionWait error).Begun b := by
  unfold rejectMediaConnectionWait
  split
  · exact begun
  · exact begun_alter (fun _ => rejects_unstarted.mp) begun

theorem begun_closeSignaling (begun : c.Begun b) : c.closeSignaling.Begun b := by
  unfold closeSignaling
  split
  · exact begun
  · exact begun_alter (fun _ => id) begun

theorem begun_closePeer (begun : c.Begun b) : c.closePeer.Begun b := by
  unfold closePeer
  split
  · exact begun
  · exact begun_alter (fun _ => id) begun

/-- An attempt keeps its number. -/
theorem Update.begun (update : Update c c') (begun : c.Begun b) : c'.Begun b := by
  cases update with
  | cancel error => exact begun_reject error begun
  | shut => exact begun_closePeer (begun_closeSignaling (begun_reject .cancelled begun))
  | closeSignaling => exact begun_closeSignaling begun
  -- These set another stage than the first one.
  | begins audio | openSignaling a | openPeer a =>
    exact begun_alter (fun _ absurd => by cases absurd) begun
  -- So do these, in the attempt itself.
  | microphone a | mediaConnected a | mediaDead a | awaitMedia a =>
    exact begun_setStage (fun absurd => by cases absurd) begun
  | settles a stage _ settled =>
    refine begun_setStage ?_ begun
    rcases settled with rfl | rfl <;> exact fun absurd => by cases absurd
  | mediaResolves a =>
    unfold resolveMediaConnectionWait
    split
    · exact begun
    · split
      · exact begun_alter (fun _ => connects_unstarted.mp) begun
      · exact begun
  | mediaRejects error => exact begun_reject error begun
  | rejects a error => exact begun_alter (fun _ => rejects_unstarted.mp) begun
  | negotiated n call =>
    unfold VoxRtcBrowserClient.negotiated
    split
    · exact begun
    · exact begun_alter (fun _ => negotiates_unstarted.mp) begun
  | negotiationFails n call =>
    unfold VoxRtcBrowserClient.negotiationFails
    split
    · exact begun
    · exact begun_alter (fun _ => rejects_unstarted.mp) begun
  | describe peer =>
    unfold VoxRtcBrowserClient.describe
    split
    · exact begun
    · exact begun_alter (fun _ => id) begun
  | gone a => exact begun_alter (fun _ => id) begun
  | _ => exact begun

theorem Updates.begun (updates : Updates c c') (begun : c.Begun b) : c'.Begun b := by
  induction updates with
  | refl => exact begun
  | tail _ update ih => exact update.begun ih

/-- The last attempt has the greatest number. -/
def Numbered (c : VoxRtcBrowserClient) : Prop :=
  (∀ a, c.started < a → (c.attempts a).stage = .unstarted) ∧ c.started ≤ c.connectionAttempt

theorem Numbered.unstarted (numbered : Numbered c) (above : c.connectionAttempt < a) :
    (c.attempts a).stage = .unstarted :=
  numbered.1 a (Nat.lt_of_le_of_lt numbered.2 above)

theorem numbered_alter {f : Attempt → Attempt}
    (same : ∀ t, t.stage = .unstarted → (f t).stage = .unstarted) (numbered : Numbered c) :
    Numbered (c.alter a f) := by
  refine ⟨fun b above => ?_, numbered.2⟩
  rw [alter_attempts]
  split
  · exact same _ (numbered.1 b above)
  · exact numbered.1 b above

theorem numbered_begun {f : Attempt → Attempt} (begun : c.Begun a) (numbered : Numbered c) :
    Numbered (c.alter a f) := by
  refine ⟨fun b above => ?_, numbered.2⟩
  -- An attempt that has begun is not one above the last.
  rw [alter_attempts, if_neg]
  · exact numbered.1 b above
  · rintro rfl
    exact begun (numbered.1 b above)

theorem numbered_reject (error : Thrown) (numbered : Numbered c) :
    Numbered (c.rejectMediaConnectionWait error) := by
  unfold rejectMediaConnectionWait
  split
  · exact numbered
  · exact numbered_alter (fun _ => rejects_unstarted.mpr) numbered

theorem numbered_closeSignaling (numbered : Numbered c) : Numbered c.closeSignaling := by
  unfold closeSignaling
  split
  · exact numbered
  · exact numbered_alter (fun _ => id) numbered

theorem numbered_closePeer (numbered : Numbered c) : Numbered c.closePeer := by
  unfold closePeer
  split
  · exact numbered
  · exact numbered_alter (fun _ => id) numbered

theorem numbered_raise (numbered : Numbered c) :
    Numbered { c with connectionAttempt := c.connectionAttempt + 1 } :=
  ⟨numbered.1, Nat.le_succ_of_le numbered.2⟩

theorem numbered_update (update : Update c c') (numbered : Numbered c) : Numbered c' := by
  cases update with
  | cancel error => exact numbered_reject error (numbered_raise numbered)
  | raise => exact numbered_raise numbered
  | shut =>
    exact numbered_closePeer (numbered_closeSignaling (numbered_reject .cancelled numbered))
  | closeSignaling => exact numbered_closeSignaling numbered
  -- Here a number is given away; the numbers above it stay unused.
  | begins audio =>
    refine ⟨fun b above => ?_, Nat.le_refl _⟩
    have above : c.connectionAttempt + 1 < b := above
    refine (congrArg Attempt.stage (if_neg ?_)).trans (numbered.unstarted (by omega))
    omega
  -- Only attempts that have begun are changed.
  | openSignaling a begun | openPeer a begun | microphone a begun | mediaConnected a begun
  | mediaDead a begun | settles a stage begun =>
    exact numbered_begun begun numbered
  | awaitMedia a begun =>
    have waiting : Numbered { c with mediaConnectionWait := some a } := numbered
    unfold VoxRtcBrowserClient.awaitMedia setStage
    exact numbered_begun begun waiting
  | mediaResolves a =>
    unfold resolveMediaConnectionWait
    split
    · exact numbered
    · split
      · exact numbered_alter (fun _ => connects_unstarted.mpr) numbered
      · exact numbered
  | mediaRejects error => exact numbered_reject error numbered
  | rejects a error => exact numbered_alter (fun _ => rejects_unstarted.mpr) numbered
  | negotiated n call =>
    unfold VoxRtcBrowserClient.negotiated
    split
    · exact numbered
    · exact numbered_alter (fun _ => negotiates_unstarted.mpr) numbered
  | negotiationFails n call =>
    unfold VoxRtcBrowserClient.negotiationFails
    split
    · exact numbered
    · exact numbered_alter (fun _ => rejects_unstarted.mpr) numbered
  | describe peer =>
    unfold VoxRtcBrowserClient.describe
    split
    · exact numbered
    · exact numbered_alter (fun _ => id) numbered
  | gone a => exact numbered_alter (fun _ => id) numbered
  | _ => exact numbered

theorem numbered_updates (updates : Updates c c') (numbered : Numbered c) : Numbered c' := by
  induction updates with
  | refl => exact numbered
  | tail _ update ih => exact numbered_update update ih

end Frames

section Listening

variable {s t u : VoxRtcBrowserClient} {a : Nat} {l : Listeners}

/-- The client has been shut, or left in the middle of `disconnect`. -/
def Left (s t : VoxRtcBrowserClient) : Prop := Updates s t ∧ t.isOpen = false

/-- What the listeners of an event leave. -/
def Heard (s t : VoxRtcBrowserClient) : Prop := t = s ∨ Left s t

theorem Heard.updates (heard : Heard s t) : Updates s t := by
  rcases heard with rfl | left
  · exact .refl
  · exact left.1

theorem Left.heard (left : Left s t) (heard : Heard t u) : Left s u := by
  rcases heard with rfl | later
  · exact left
  · exact ⟨left.1.trans later.1, later.2⟩

theorem closeSignaling_isOpen : t.closeSignaling.isOpen = t.isOpen := by
  unfold closeSignaling
  split <;> rfl

/-- What listeners do, whatever they do. -/
def Listens (body : Body) : Prop :=
  ∀ s, Ensures (fun t => t = s) body (fun _ => Heard s) (fun _ => Heard s)

theorem Listens.left {body : Body} (listens : Listens body) :
    Ensures (Left s) body (fun _ => Left s) (fun _ => Left s) :=
  .each fun t left => (listens t).weaken (fun _ => id) (fun _ _ => left.heard)
    (fun _ _ => left.heard)

theorem disconnect_left {disconnecting closed : Body} (first : Listens disconnecting)
    (last : Listens closed) : Ensures (Updates s) (disconnect disconnecting closed)
      (fun _ => Left s) (fun _ => Left s) := by
  apply Ensures.bind (Q := fun _ => Updates s)
  · exact .update fun t reached => reached.tail (.cancel _)
  intro _
  refine .read fun t reached => .cond (fun _ => ?_) (fun _ => ?_)
  -- Closed or idle: the cleanup comes at once.
  · apply Ensures.bind (Q := fun _ => Left s)
    · exact .update fun u same => same ▸ ⟨reached.tail .shut, rfl⟩
    · exact fun _ => last.left
  · apply Ensures.bind (Q := fun _ => Left s)
    -- From here on the status is no open one, whatever the listeners do.
    · exact .update fun u same => same ▸ ⟨reached.tail .disconnecting, rfl⟩
    intro _
    apply Ensures.bind first.left
    intro _
    apply Ensures.bind (Q := fun _ => Left s)
    · exact .update fun u left =>
        ⟨left.1.tail .closeSignaling, closeSignaling_isOpen.trans left.2⟩
    intro _
    apply Ensures.bind (Q := fun _ => Left s)
    · exact .update fun u left => ⟨left.1.tail .shut, rfl⟩
    · exact fun _ => last.left

theorem emit_listens (r : Reaction) : Listens r.emit := by
  intro s
  -- A listener that disconnects leaves the client shut, and the rest goes on from there.
  induction r generalizing s with
  | returns => exact .pure fun _ => .inl
  | throws => exact .throw fun _ => .inl
  | disconnects disconnecting closed rest first last ih =>
    apply Ensures.bind (Q := fun _ => Left s)
    · refine .handle (F := fun _ => Left s) ?_ fun _ => .pure fun _ => id
      exact (disconnect_left first last).weaken (fun t same => same ▸ .refl) (fun _ _ => id)
        (fun _ _ => id)
    · exact fun _ => (Listens.left ih).weaken (fun _ => id) (fun _ _ => .inr) (fun _ _ => .inr)

/-- Listeners that throw have called `disconnect` before, unless they throw at once. -/
theorem emit_throws {r : Reaction} (reacts : r ≠ .throws) :
    Ensures (fun t => t = s) r.emit (fun _ => Heard s) (fun _ => Left s) := by
  cases r with
  | returns => exact .pure fun _ => .inl
  | throws => exact absurd rfl reacts
  | disconnects disconnecting closed rest =>
    apply Ensures.bind (Q := fun _ => Left s)
    · refine .handle (F := fun _ => Left s) ?_ fun _ => .pure fun _ => id
      exact (disconnect_left (emit_listens _) (emit_listens _)).weaken
        (fun t same => same ▸ .refl) (fun _ _ => id) (fun _ _ => id)
    · exact fun _ => (emit_listens rest).left.weaken (fun _ => id) (fun _ _ => .inr) (fun _ _ => id)

/-- The body makes updates. -/
def Follows (s : VoxRtcBrowserClient) (body : Body) : Prop :=
  Ensures (Updates s) body (fun _ => Updates s) (fun _ => Updates s)

theorem emit_follows (r : Reaction) : Follows s r.emit :=
  .each fun t reached => (emit_listens r t).weaken (fun _ => id)
    (fun _ _ heard => reached.trans heard.updates) (fun _ _ heard => reached.trans heard.updates)

theorem Follows.after {body : Body} (follows : Follows s body) (reached : Updates s t) :
    Updates s (after body t) :=
  Ensures.after follows reached

theorem update_follows {f : VoxRtcBrowserClient → VoxRtcBrowserClient}
    (update : ∀ t, Updates s t → Update t (f t)) : Follows s (modify f) :=
  .update fun t reached => reached.tail (update t reached)

theorem require_follows (p : Prop) [Decidable p] (error : Thrown) : Follows s (require p error) :=
  .cond (fun _ => .pure fun _ => id) (fun _ => .throw fun _ => id)

theorem Follows.bind {body : Body} {next : Unit → Body} (first : Follows s body)
    (rest : ∀ x, Follows s (next x)) : Follows s (body >>= next) :=
  Ensures.bind first rest

theorem Follows.handle {body : Body} {handler : Thrown → Body} (first : Follows s body)
    (rest : ∀ e, Follows s (handler e)) : Follows s (tryCatch body handler) :=
  Ensures.handle first rest

theorem require_once (p : Prop) [Decidable p] (error : Thrown) :
    Ensures (fun u => u = t) (require p error) (fun _ u => u = t ∧ p) (fun _ u => u = t) :=
  .cond (fun holds => .pure fun _ same => ⟨same, holds⟩) (fun _ => .throw fun _ => id)

theorem assertActive_once :
    Ensures (fun u => u = t) (assertActiveConnectionAttempt a)
      (fun _ u => u = t ∧ t.isActiveConnectionAttempt a = true) (fun _ u => u = t) :=
  .read fun _ same => same ▸ require_once _ _

/-- The body goes on once the check has passed, and throws where it has not. -/
theorem require_then {R : VoxRtcBrowserClient → Prop} {p : Prop} [Decidable p] {error : Thrown}
    {body : Body} (holds : R t)
    (passes : p → Ensures (fun u => u = t) body (fun _ => R) (fun _ => R)) :
    Ensures (fun u => u = t) (require p error >>= fun _ => body) (fun _ => R) (fun _ => R) := by
  apply Ensures.bind (Q := fun _ u => u = t ∧ p)
  · exact (require_once p error).weaken (fun _ => id) (fun _ _ => id) (fun _ _ same => same ▸ holds)
  · exact fun _ u passed => passes passed.2 u passed.1

theorem dealWithPeerState_follows (a : Nat) (l : Listeners) :
    Follows s (dealWithPeerState a l) := by
  refine .read fun t reached => .cond (fun _ => .once_pure reached) (fun current => ?_)
  refine .cond (fun connected => ?_) (fun _ => .cond (fun _ => .once_pure reached) (fun _ => ?_))
  · exact .once_update (reached.tail (.mediaResolves a (not_not.mp current) connected))
  refine .cond (fun _ => .once_update (reached.tail (.mediaRejects _))) (fun _ => .cond (fun _ => ?_)
    (fun _ => .once_pure reached))
  apply Ensures.bind (.once_update (reached.tail .raise))
  intro _
  apply (emit_follows l.error).bind
  intro _
  exact (update_follows fun _ _ => .shut).bind fun _ => emit_follows l.closed

theorem handlePeerConnectionStateChange_follows (a : Nat) (l : Listeners) :
    Follows s (handlePeerConnectionStateChange a l) :=
  (emit_follows l.peer).bind fun _ => dealWithPeerState_follows a l

theorem waitForMediaConnection_follows (reached : Updates s t) (begun : t.Begun a)
    (ready : t.Ready a) : Ensures (fun u => u = t) (waitForMediaConnection a l)
      (fun _ => Updates s) (fun _ => Updates s) := by
  refine .read fun u same => ?_
  subst same
  refine require_then reached fun unset => ?_
  -- The peer connection may be up already, or have failed, before anybody waits for it.
  refine .cond (fun connected => ?_) (fun fresh => .cond (fun _ => ?_) (fun alive => ?_))
  · exact .once_update (reached.tail (.mediaConnected a begun ready connected))
  · exact .once_update (reached.tail (.mediaDead a begun))
  · apply Ensures.bind
      (.once_update (reached.tail (.awaitMedia a begun ready unset fresh (by simpa using alive))))
    intro _
    exact (handlePeerConnectionStateChange_follows a l).handle
      fun error => update_follows fun _ _ => .rejects a error

theorem negotiate_follows (a : Nat) (restart : Bool) : Follows s (negotiate a restart) := by
  refine .read fun t reached => require_then reached fun _ => require_then reached fun _ => ?_
  exact .once_update (reached.tail (.negotiates a restart))

theorem join_follows (reached : Updates s t) (begun : t.Begun a) (ready : t.Ready a) :
    Ensures (fun u => u = t) (join a l) (fun _ => Updates s) (fun _ => Updates s) := by
  apply Ensures.bind (waitForMediaConnection_follows reached begun ready)
  intro _
  exact (negotiate_follows a false).handle fun error => update_follows fun _ _ => .rejects a error

theorem recover_follows (a : Nat) (l : Listeners) (error : Thrown) :
    Follows s (recover a l error) := by
  refine .read fun t reached => .cond (fun _ => ?_) (fun _ => .once_pure reached)
  apply Ensures.bind (.once_update (reached.tail (.cancel error)))
  intro _
  apply Follows.bind
  · exact .cond (fun _ => .pure fun _ => id) (fun _ => emit_follows l.error)
  intro _
  exact (update_follows fun _ _ => .shut).bind fun _ => emit_follows l.closed

theorem attempting_follows {body : Body} (begun : s.Begun a)
    (tried : Ensures (fun u => u = t) body (fun _ => Updates s) (fun _ => Updates s)) :
    Updates s (after (attempting a l body) t) := by
  refine Ensures.after (P := fun u => u = t) (.handle tried fun error => ?_) rfl
  apply Follows.bind
  · exact (recover_follows a l error).handle fun _ => .pure fun _ => id
  · exact fun _ => update_follows fun _ reached => .settles a _ (reached.begun begun) (.inr rfl)

/-- The attempt is still the active one, or the client has been shut. -/
theorem Heard.ready (heard : Heard s t) (opening : (s.attempts a).stage = .opening) :
    t.Ready a := by
  rcases heard with rfl | left
  · exact .inl opening
  · exact .inr (.inr left.2)

theorem bootstrap_follows (begun : s.Begun a) (factory channel : Bool) :
    Ensures (fun t => t = s) (bootstrap a factory channel l)
      (fun _ => Updates s) (fun _ => Updates s) := by
  apply Ensures.bind (assertActive_once.weaken (fun _ => id) (fun _ _ => id)
    fun _ _ same => same ▸ .refl)
  intro _
  apply Ensures.bind (Q := fun _ t => Heard s t ∧ s.isActiveConnectionAttempt a = true)
  · rintro t ⟨rfl, active⟩
    exact (emit_listens l.session t).weaken (fun _ => id) (fun _ _ heard => ⟨heard, active⟩)
      (fun _ _ heard => heard.updates) t rfl
  intro _
  apply Ensures.bind (Q := fun _ t => Heard s t ∧ s.isActiveConnectionAttempt a = true)
  · exact .cond (fun _ => .pure fun _ => id) (fun _ => .throw fun _ heard => heard.1.updates)
  intro _
  apply Ensures.bind (Q := fun _ t => Updates s t ∧ (t.attempts a).stage = .opening)
  · refine .update fun t heard => ⟨heard.1.updates.tail ?_, by simp [openPeer]⟩
    apply Update.openPeer a (heard.1.updates.begun begun)
    rcases heard with ⟨rfl | left, active⟩
    · exact .inl active
    · exact .inr left.2
  intro _
  apply Ensures.bind (Q := fun _ t => Updates s t ∧ (t.attempts a).stage = .opening)
  · exact .cond (fun _ => .pure fun _ => id) (fun _ => .throw fun _ holds => holds.1)
  intro _
  apply Ensures.bind (Q := fun _ t => Updates s t ∧ (t.attempts a).stage = .opening)
  · exact .update fun t holds => ⟨holds.1.tail .dataChannel, holds.2⟩
  intro _
  apply Ensures.bind (Q := fun _ t => Updates s t ∧ t.Ready a)
  · refine .each fun t holds => (emit_listens l.channel t).weaken (fun _ => id)
      (fun _ _ heard => ⟨holds.1.trans heard.updates, heard.ready holds.2⟩)
      (fun _ _ heard => holds.1.trans heard.updates)
  intro _
  refine .read fun t holds => .cond (fun _ => ?_) (fun _ => ?_)
  · exact .once_update (holds.1.tail (.microphone a (holds.1.begun begun) holds.2))
  · exact join_follows holds.1 (holds.1.begun begun) holds.2

theorem useMicrophone_follows (at_microphone : (t.attempts a).stage = .microphone)
    (stream : Nat) (tracks : Bool) (same : s = if t.isActiveConnectionAttempt a then
      { t with localStream := some stream } else t.stopStream (some stream)) :
    Ensures (fun u => u = t) (useMicrophone a stream tracks l)
      (fun _ => Updates s) (fun _ => Updates s) := by
  have stage : (s.attempts a).stage = .microphone := by
    rw [same]
    split <;> exact at_microphone
  refine .read fun u here => ?_
  subst here
  refine .cond (fun active => ?_) (fun lost => ?_)
  · rw [if_pos active] at same
    apply Ensures.bind (Q := fun _ u => u = s)
    · exact .update fun u here => by rw [here, same]
    intro _
    refine require_then .refl fun _ => ?_
    apply Ensures.bind (Q := fun _ => Heard s)
    · exact (emit_listens l.localStream s).weaken (fun _ => id) (fun _ _ => id)
        (fun _ _ heard => heard.updates)
    intro _
    refine .each fun u heard => join_follows heard.updates ?_ ?_
    · exact heard.updates.begun fun none => by cases stage.symm.trans none
    · rcases heard with rfl | left
      · exact .inr (.inl stage)
      · exact .inr (.inr left.2)
  · rw [if_neg lost] at same
    apply Ensures.bind (Q := fun _ u => u = s)
    · exact .update fun u here => by rw [here, same]
    · exact fun _ => .throw fun u here => here ▸ .refl

theorem conclude_follows (joined : (s.attempts a).stage = .joining true true) :
    Ensures (fun t => t = s) (conclude a l) (fun _ => Updates s) (fun _ => Updates s) := by
  have begun : s.Begun a := fun none => by cases joined.symm.trans none
  apply Ensures.bind (assertActive_once.weaken (fun _ => id) (fun _ _ => id)
    fun _ _ same => same ▸ .refl)
  intro _
  apply Ensures.bind (Q := fun _ => Updates s)
  · rintro t ⟨rfl, active⟩
    exact Relation.ReflTransGen.single (.connected a active joined)
  intro _
  apply (emit_follows l.connected).bind
  exact fun _ => update_follows fun _ reached => .settles a _ (reached.begun begun) (.inl rfl)

theorem connect_follows (audio : Bool) (l : Listeners) :
    Ensures (fun t => t = s) (connect audio l) (fun _ => Updates s) (fun _ => Updates s) := by
  refine .read fun t same => ?_
  subst same
  refine require_then .refl fun shut => ?_
  apply Ensures.bind (Q := fun _ u => Updates t u ∧ u.Begun (t.connectionAttempt + 1))
  · rintro u rfl
    refine ⟨.single (.begins audio (by simpa using shut)), fun none => ?_⟩
    simp [begins] at none
  intro _
  -- the number outlives whatever the listeners do
  have listening : ∀ r : Reaction,
      Ensures (fun u => Updates t u ∧ u.Begun (t.connectionAttempt + 1)) r.emit
        (fun _ u => Updates t u ∧ u.Begun (t.connectionAttempt + 1))
        (fun _ u => Updates t u ∧ u.Begun (t.connectionAttempt + 1)) := fun r =>
    .each fun u holds => (emit_listens r u).weaken (fun _ => id)
      (fun _ _ heard => ⟨holds.1.trans heard.updates, heard.updates.begun holds.2⟩)
      (fun _ _ heard => ⟨holds.1.trans heard.updates, heard.updates.begun holds.2⟩)
  apply Ensures.handle (F := fun _ u => Updates t u ∧ u.Begun (t.connectionAttempt + 1))
  · apply Ensures.bind (listening l.connecting)
    exact fun _ => .update fun u holds => holds.1.tail (.openSignaling _ holds.2)
  · exact fun _ => .update fun u holds => holds.1.tail (.settles _ _ holds.2 (.inr rfl))

theorem restartIce_follows : Follows s restartIce := by
  refine .read fun t reached => require_then reached fun _ => ?_
  refine Ensures.handle (F := fun _ => Updates s) ?_
    fun _ => update_follows fun _ _ => .refuses _
  exact (negotiate_follows _ true).weaken (fun _ same => same ▸ reached) (fun _ _ => id)
    (fun _ _ => id)

theorem disconnect_follows (l : Listeners) :
    Follows s (disconnect l.disconnecting.emit l.closed.emit) :=
  (disconnect_left (emit_listens _) (emit_listens _)).weaken (fun _ => id) (fun _ _ left => left.1)
    (fun _ _ left => left.1)

theorem localSet_follows (n : Nat) (call : Negotiation) (sdp : Bool) :
    Follows s (localSet n call sdp l) := by
  refine Follows.handle ?_ fun _ => update_follows fun _ _ => .negotiationFails n call
  refine (require_follows _ _).bind fun _ => .read fun t reached => ?_
  apply Ensures.bind (.once_update (reached.tail .takeLocal))
  intro _
  apply Follows.bind
  · exact .cond (fun _ => .pure fun _ => id) (fun _ => emit_follows l.sending)
  · exact fun _ => update_follows fun _ _ => .setNegotiation n call _

theorem remoteSet_follows (n : Nat) (call : Negotiation) : Follows s (remoteSet n call) := by
  refine (update_follows fun _ _ => .answered).bind fun _ => .read fun t reached => ?_
  refine .cond (fun _ => .once_update (reached.tail (.setNegotiation n call _))) (fun _ => ?_)
  apply Ensures.bind (.once_update (reached.tail .takeServer))
  exact fun _ => update_follows fun _ _ => .setNegotiation n call _

theorem handleUnexpectedSignalingClose_follows : Follows s (handleUnexpectedSignalingClose l) := by
  refine .read fun t reached => .cond (fun _ => ?_) (fun _ => .once_pure reached)
  apply Ensures.bind (.once_update (reached.tail (.cancel _)))
  intro _
  apply (emit_follows l.error).bind
  exact fun _ => (update_follows fun _ _ => .shut).bind fun _ => emit_follows l.closed

theorem sessionClosed_follows : Follows s (sessionClosed l) := by
  apply (emit_follows l.event).bind
  refine fun _ => .read fun t reached => .cond (fun _ => .once_pure reached) (fun _ => ?_)
  exact Ensures.bind (.once_update (reached.tail .shut)) fun _ => emit_follows l.closed

theorem localCandidate_follows (candidate : Candidate) : Follows s (localCandidate candidate l) := by
  apply (emit_follows l.event).bind
  intro _
  refine .read fun t reached => .cond (fun buffered => ?_) (fun _ => ?_)
  · exact .once_update (reached.tail (.keepLocal candidate buffered))
  · exact (emit_follows l.sending).weaken (fun _ same => same ▸ reached) (fun _ _ => id)
      (fun _ _ => id)

theorem serverCandidate_follows (candidate : Candidate) :
    Follows s (serverCandidate candidate l) := by
  apply (emit_follows l.event).bind
  refine fun _ => .update fun t reached => ?_
  dsimp only
  split
  · exact reached.tail (.keepServer candidate)
  · exact reached

end Listening

section Steps

variable {c c' : VoxRtcBrowserClient} {l : Listeners}

private theorem resume_updates {a : Nat} {e : Resumption} (taken : c.resume a l e = some c') :
    Updates (c.takes (.resumes a e l)) c' := by
  have begun {stage : Stage} (here : (c.attempts a).stage = stage) (started : stage ≠ .unstarted) :
      c.Begun a := fun none => started (here.symm.trans none)
  cases e with
  | signalingResolves factory channel =>
    simp only [resume, Option.ite_none_right_eq_some, Option.some.injEq] at taken
    obtain ⟨stage, rfl⟩ := taken
    have begun := begun stage (fun absurd => by cases absurd)
    exact attempting_follows begun (bootstrap_follows begun factory channel)
  | signalingRejects | microphoneRejects =>
    simp only [resume, Option.ite_none_right_eq_some, Option.some.injEq] at taken
    obtain ⟨stage, rfl⟩ := taken
    exact attempting_follows (begun stage (fun absurd => by cases absurd))
      (.throw fun _ same => same ▸ .refl)
  | microphoneResolves tracks =>
    simp only [resume, Option.ite_none_right_eq_some, Option.some.injEq] at taken
    obtain ⟨stage, rfl⟩ := taken
    refine attempting_follows ?_ (useMicrophone_follows (t := c.acquires) stage c.acquired tracks rfl)
    unfold takes
    dsimp only
    split <;> exact begun stage (fun absurd => by cases absurd)
  | joinResolves =>
    simp only [resume, Option.ite_none_right_eq_some, Option.some.injEq] at taken
    obtain ⟨stage, rfl⟩ := taken
    exact attempting_follows (begun stage (fun absurd => by cases absurd)) (conclude_follows stage)
  | joinRejects =>
    simp only [resume] at taken
    split at taken
    case h_1 error stage =>
      cases taken
      exact attempting_follows (begun stage (fun absurd => by cases absurd))
        (.throw fun _ same => same ▸ .refl)
    case h_2 => cases taken

private theorem continues_updates {n : Nat} {call : Negotiation} {e : NegotiationEvent}
    (taken : c.continues n call l e = some c') : Updates c c' := by
  cases e with
  | offerCreated | answered | candidateAdded =>
    simp only [continues] at taken
    split at taken <;> cases taken
    exact .single (.setNegotiation n call _)
  | localSet sdp =>
    simp only [continues] at taken
    split at taken <;> cases taken
    exact (localSet_follows n call sdp).after .refl
  | remoteApplied =>
    simp only [continues] at taken
    split at taken <;> cases taken
    exact (Relation.ReflTransGen.single (.describe _)).tail (.setNegotiation n call _)
  | remoteSet =>
    simp only [continues] at taken
    split at taken <;> cases taken
    exact (remoteSet_follows n call).after .refl
  | flushed =>
    simp only [continues] at taken
    split at taken <;> cases taken
    exact .single (.negotiated n call)
  | rejects =>
    simp only [continues] at taken
    split at taken <;> cases taken
    all_goals exact .single (.negotiationFails n call)
  | restartFails =>
    simp only [continues] at taken
    split at taken <;> cases taken
    refine Follows.after ?_ (Relation.ReflTransGen.single (.setNegotiation n call _))
    exact (emit_follows l.error).bind fun _ => disconnect_follows l

private theorem replace_updates {n : Nat} {e : ReplacementEvent} {r : Replacement}
    (taken : c.replace n l e r = some c') : Updates (c.takesReplacement n e r) c' := by
  cases e with
  | acquired how =>
    cases r <;> simp only [replace, reduceCtorEq, Option.some.injEq] at taken
    subst taken
    refine Ensures.after (P := fun t => t = (c.setReplacement n .settled).acquires)
      (.read fun t same => ?_) rfl
    -- The track goes to the sender there is, to a new one, or nowhere.
    cases how with
    | noTrack => exact .update fun u here => here ▸ same ▸ .refl
    | sender =>
      refine .cond (fun lost => .throw fun u here => ?_) (fun current => .update fun u here => ?_)
      · rw [same] at lost
        rw [here, same, takesReplacement, if_pos lost]
      · rw [same] at current
        rw [here, same, takesReplacement, if_neg current]
    | added ok =>
      apply Ensures.bind (Q := fun _ u => u = t ∧ t.peerConnection ≠ none ∧ ok)
      · refine .cond (fun holds => .pure fun u here => ⟨here, holds⟩) (fun lost => .throw ?_)
        rintro u rfl
        rw [same] at lost ⊢
        rw [takesReplacement, if_neg lost]
      · intro _
        refine Ensures.bind (.update fun u passed => ?_) fun _ => emit_follows l.localStream
        obtain ⟨here, holds⟩ := passed
        rw [takesReplacement, if_pos (same ▸ holds), here, same]
  | replaced =>
    cases r <;> simp only [replace, reduceCtorEq, Option.some.injEq] at taken
    subst taken
    refine Ensures.after (P := fun t => t = c.setReplacement n .settled) ?_ rfl
    refine Ensures.bind (.update fun t here => ?_) fun _ => emit_follows l.localStream
    rw [here]
    exact Relation.ReflTransGen.refl
  | refused | rejects =>
    cases r <;> simp only [replace, reduceCtorEq, Option.some.injEq] at taken
    exact taken ▸ .refl

/-- A step is what comes with its event, and updates. -/
theorem step_updates {e : Event} (taken : browser.step c e = some c') :
    Updates (c.takes e) c' := by
  change c.step e = some c' at taken
  -- Each handler follows its own body, which was shown to consist of updates.
  cases e with
  | connect audio l =>
    cases taken
    exact Ensures.after (connect_follows audio l) rfl
  | disconnect l =>
    cases taken
    exact (disconnect_follows l).after .refl
  | restartIce =>
    cases taken
    exact restartIce_follows.after .refl
  | replaceMicrophone =>
    simp only [step] at taken
    split at taken <;> cases taken
    · exact .refl
    · exact .single .replacement
  | resumes a e l => exact resume_updates taken
  | negotiation n e l =>
    obtain ⟨call, _, taken⟩ := Option.bind_eq_some_iff.mp taken
    exact continues_updates taken
  | replacement n e l =>
    obtain ⟨r, here, taken⟩ := Option.bind_eq_some_iff.mp taken
    rw [takes, here]
    exact replace_updates taken
  | peerState a state l =>
    obtain ⟨d, entered, rfl⟩ := Option.map_eq_some_iff.mp taken
    rw [takes, entered]
    exact (handlePeerConnectionStateChange_follows a l).after .refl
  | dataChannel a l =>
    simp only [step, Option.ite_none_right_eq_some, Option.some.injEq] at taken
    obtain ⟨_, rfl⟩ := taken
    exact (emit_follows l.channel).after (Relation.ReflTransGen.single .dataChannel)
  | localCandidate a candidate l =>
    simp only [step, Option.ite_none_right_eq_some, Option.some.injEq] at taken
    obtain ⟨_, rfl⟩ := taken
    exact (localCandidate_follows candidate).after .refl
  | mediaTimeout =>
    simp only [step, Option.ite_none_left_eq_some, Option.some.injEq] at taken
    obtain ⟨_, rfl⟩ := taken
    exact .single (.mediaRejects _)
  | signalingCloses a l =>
    simp only [step, Option.ite_none_right_eq_some, Option.some.injEq] at taken
    obtain ⟨_, rfl⟩ := taken
    exact handleUnexpectedSignalingClose_follows.after (Relation.ReflTransGen.single (.gone a))
  | sessionClosed a l =>
    simp only [step, Option.ite_none_right_eq_some, Option.some.injEq] at taken
    obtain ⟨_, rfl⟩ := taken
    exact sessionClosed_follows.after .refl
  | serverCandidate a candidate l =>
    simp only [step, Option.ite_none_right_eq_some, Option.some.injEq] at taken
    obtain ⟨_, rfl⟩ := taken
    exact (serverCandidate_follows candidate).after .refl

private theorem takesReplacement_frame (n : Nat) (e : ReplacementEvent) (r : Replacement) :
    ∃ localStream replacements acquired live, c.takesReplacement n e r = { c with
      localStream := localStream
      replacements := replacements
      acquired := acquired
      live := live } := by
  cases e with
  | acquired how =>
    unfold takesReplacement
    dsimp only
    split
    · exact ⟨_, _, _, _, rfl⟩
    all_goals split <;> exact ⟨_, _, _, _, rfl⟩
  | refused | rejects => exact ⟨_, _, _, _, rfl⟩
  | replaced => cases r <;> exact ⟨_, _, _, _, rfl⟩

/-- What comes with an event is a stream or the state of a peer connection. -/
theorem takes_frame (e : Event) : ∃ attempts localStream replacements acquired live,
    c.takes e = { c with
      attempts := attempts
      localStream := localStream
      replacements := replacements
      acquired := acquired
      live := live } ∧
    ((∀ a state l, e ≠ .peerState a state l) → attempts = c.attempts) ∧
    ∀ a, (attempts a).stage = (c.attempts a).stage := by
  cases e with
  | resumes a e l =>
    cases e with
    | microphoneResolves tracks =>
      unfold takes
      dsimp only
      split <;> exact ⟨c.attempts, _, _, _, _, rfl, fun _ => rfl, fun _ => rfl⟩
    | _ => exact ⟨c.attempts, _, _, _, _, rfl, fun _ => rfl, fun _ => rfl⟩
  | replacement n e l =>
    simp only [takes]
    cases c.replacements[n]? with
    | none => exact ⟨c.attempts, _, _, _, _, rfl, fun _ => rfl, fun _ => rfl⟩
    | some r =>
      obtain ⟨_, _, _, _, same⟩ := c.takesReplacement_frame n e r
      exact ⟨c.attempts, _, _, _, _, same, fun _ => rfl, fun _ => rfl⟩
  -- The one event that touches an attempt leaves its stage alone.
  | peerState a state l =>
    cases entered : c.enter a state with
    | none =>
      simp only [takes, entered, Option.getD_none]
      exact ⟨c.attempts, _, _, _, _, rfl, fun _ => rfl, fun _ => rfl⟩
    | some d =>
      simp only [takes, entered, Option.getD_some]
      unfold enter at entered
      split at entered
      · split at entered <;> cases entered
        refine ⟨_, _, _, _, _, rfl, fun other => absurd rfl (other a state l), fun b => ?_⟩
        dsimp only
        split <;> rfl
      · cases entered
  | _ => exact ⟨c.attempts, _, _, _, _, rfl, fun _ => rfl, fun _ => rfl⟩

/-- What comes with events and what updates preserve, steps preserve. -/
theorem step_preserves {P : VoxRtcBrowserClient → Prop} {e : Event}
    (kept : ∀ c c', P c → Update c c' → P c') (taken : browser.step c e = some c')
    (holds : P (c.takes e)) : P c' := by
  have updates := step_updates taken
  clear taken
  induction updates with
  | refl => exact holds
  | tail _ update ih => exact kept _ _ ih update

theorem numbered_step {e : Event} (taken : browser.step c e = some c') (numbered : Numbered c) :
    Numbered c' := by
  refine step_preserves (fun _ _ numbered update => numbered_update update numbered) taken ?_
  obtain ⟨attempts, _, _, _, _, same, _, stages⟩ := takes_frame (c := c) e
  rw [same]
  exact ⟨fun a above => (stages a).trans (numbered.1 a above), numbered.2⟩

end Steps

end VoxRtcBrowserClient

end VoxRtc.Browser.Attempts
