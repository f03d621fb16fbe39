import VoxRtc.Browser.Updates

/-!
# Peer connections that have failed

Whether the peer connection of a connected client is alive. The media wait watches the peer
connection of an attempt until it has resolved, and the status does once it is `connected`;
in between, while `#negotiate` still runs, nobody does.
-/
namespace VoxRtc.Browser.Attempts

open Program Transition

/-- The attempt has no peer connection yet, or its call is over. -/
def Stage.idle : Stage → Bool
  | .opening | .microphone | .joining _ _ => false
  | _ => true

namespace VoxRtcBrowserClient

/-- The peer connection of the attempt has entered `failed` or `closed`. -/
def died (c : VoxRtcBrowserClient) (a : Nat) : Bool := (c.attempts a).peer.any (·.died)

/-- The peer connection of the attempt is `failed` or `closed`. -/
def dead (c : VoxRtcBrowserClient) (a : Nat) : Bool := (c.connectionState a).any (·.dead)

/-- The attempt whose connection is being made is at this place. -/
def stage (c : VoxRtcBrowserClient) : Stage := (c.attempts c.connectionAttempt).stage

/-- A peer connection that dies is still being watched, and the listeners let the client deal
with it; one that has died stays dead until the media wait looks at it. -/
def notices (c : VoxRtcBrowserClient) (a : Nat) (state : PeerState) (l : Listeners) : Bool :=
  match c.status, c.stage, state.dead with
  | .connecting, .joining _ connected, true => !connected && l.peer != .throws
  | .connecting, .opening, false | .connecting, .microphone, false => !c.died a
  | .connected, _, true => l.peer != .throws && l.error != .throws
  | _, _, _ => true

/-- The current peer connection does not die unnoticed, and no listener that is told of the
status `connected` calls `disconnect`. -/
def Watched (c : VoxRtcBrowserClient) : Event → Prop
  | .peerState a state l => c.peerConnection = some a → c.notices a state l = true
  | .resumes _ .joinResolves l => l.connected = .returns ∨ l.connected = .throws
  | _ => True

instance (c : VoxRtcBrowserClient) : (e : Event) → Decidable (c.Watched e)
  | .peerState a state l =>
    inferInstanceAs (Decidable (c.peerConnection = some a → c.notices a state l = true))
  | .resumes _ .joinResolves l =>
    inferInstanceAs (Decidable (l.connected = .returns ∨ l.connected = .throws))
  | .resumes _ (.signalingResolves ..) _ | .resumes _ .signalingRejects _
  | .resumes _ (.microphoneResolves _) _ | .resumes _ .microphoneRejects _
  | .resumes _ .joinRejects _ | .connect .. | .disconnect .. | .restartIce | .replaceMicrophone
  | .negotiation .. | .replacement .. | .dataChannel .. | .localCandidate .. | .mediaTimeout
  | .signalingCloses .. | .sessionClosed .. | .serverCandidate .. => inferInstanceAs (Decidable True)

/-- A call of `connect` resolves, and a client is connected, only with a peer connection that
has never been `failed` or `closed`. -/
structure MediaAlive (C : VoxRtcBrowserClient → Event → Prop) : Prop where
  connected : ∀ c, browser.Reaches C c → c.status = .connected →
    ∀ a, c.peerConnection = some a → c.died a = false
  resolves : ∀ c a l c', browser.Reaches C c → C c (.resumes a .joinResolves l) →
    browser.step c (.resumes a .joinResolves l) = some c' →
    (c'.attempts a).stage = .resolved → c'.died a = false

variable {c c' : VoxRtcBrowserClient} {a b : Nat} {l : Listeners}

section Healthy

/-- What is known of the peer connection of an attempt, from the place its call is at. -/
def Sound (c : VoxRtcBrowserClient) (a : Nat) : Prop :=
  match (c.attempts a).stage with
  | .opening | .microphone => c.peerConnection = some a ∧ (c.died a = true → c.dead a = true)
  | .joining _ connected => c.peerConnection = some a ∧ c.died a = false ∧
    (connected = false → c.mediaConnectionWait = some a)
  | _ => True

structure Healthy (c : VoxRtcBrowserClient) : Prop where
  numbered : Numbered c
  connected : c.status = .connected → ∀ a, c.peerConnection = some a → c.died a = false
  connecting : c.status = .connecting → c.Sound c.connectionAttempt

private theorem Sound.of_idle (idle : (c.attempts a).stage.idle = true) : c.Sound a := by
  unfold Sound
  split
  case h_4 => trivial
  all_goals simp_all [Stage.idle]

/-- The place of the call is the same, or nothing is known of it any more. -/
private theorem Sound.transfer (sound : c.Sound a)
    (stage : (c'.attempts a).stage = (c.attempts a).stage ∨ (c'.attempts a).stage.idle = true)
    (health : c'.died a = c.died a ∧ c'.dead a = c.dead a)
    (current : c'.peerConnection = c.peerConnection)
    (wait : ∀ negotiated, (c'.attempts a).stage = .joining negotiated false →
      c.mediaConnectionWait = some a → c'.mediaConnectionWait = some a) : c'.Sound a := by
  rcases stage with same | idle
  · unfold Sound at sound ⊢
    rw [health.1, health.2, current, same]
    split at sound
    case h_3 negotiated connected joining =>
      refine ⟨sound.1, sound.2.1, fun waits => ?_⟩
      subst waits
      exact wait negotiated (same.trans joining) (sound.2.2 rfl)
    all_goals exact sound
  · exact .of_idle idle

private theorem health_of_peer (same : (c'.attempts a).peer = (c.attempts a).peer) :
    c'.died a = c.died a ∧ c'.dead a = c.dead a := by
  unfold died dead connectionState
  rw [same]
  exact ⟨rfl, rfl⟩

private theorem rejects_peer {t : Attempt} {error : Thrown} : (t.rejects error).peer = t.peer := by
  unfold Attempt.rejects
  split <;> rfl

private theorem rejects_stage {t : Attempt} {error : Thrown} :
    (t.rejects error).stage = t.stage ∨ (t.rejects error).stage.idle = true := by
  unfold Attempt.rejects
  split
  · exact .inr rfl
  · exact .inl rfl

private theorem rejects_joining {t : Attempt} {error : Thrown} {negotiated connected : Bool} :
    (t.rejects error).stage ≠ .joining negotiated connected := by
  unfold Attempt.rejects
  split
  · exact fun absurd => by cases absurd
  next other => exact other _ _

private theorem reject_peer (error : Thrown) :
    ((c.rejectMediaConnectionWait error).attempts a).peer = (c.attempts a).peer := by
  unfold rejectMediaConnectionWait
  split
  · rfl
  · rw [alter_attempts]
    split
    · exact rejects_peer
    · rfl

private theorem sound_reject (error : Thrown) (sound : c.Sound a) :
    (c.rejectMediaConnectionWait error).Sound a := by
  cases wait : c.mediaConnectionWait with
  | none => rwa [rejectMediaConnectionWait, wait]
  | some b =>
    refine sound.transfer ?_ (health_of_peer (reject_peer error))
      (by rw [c.reject_eq error]) fun negotiated joining waits => ?_
    all_goals rw [rejectMediaConnectionWait, wait]
    · rw [alter_attempts]
      split
      · exact rejects_stage
      · exact .inl rfl
    · cases wait.symm.trans waits
      rw [rejectMediaConnectionWait, wait, alter_attempts, if_pos rfl] at joining
      exact absurd joining rejects_joining

private theorem healthy_raise (healthy : Healthy c) :
    Healthy { c with connectionAttempt := c.connectionAttempt + 1 } := by
  refine ⟨numbered_raise healthy.numbered, healthy.connected, fun _ => .of_idle ?_⟩
  rw [show _ = _ from healthy.numbered.unstarted (Nat.lt_succ_self _)]
  rfl

private theorem healthy_reject (error : Thrown) (healthy : Healthy c) :
    Healthy (c.rejectMediaConnectionWait error) := by
  have same := c.reject_eq error
  refine ⟨numbered_reject error healthy.numbered, fun connected a current => ?_, fun connecting => ?_⟩
  · rw [same] at connected current
    exact (health_of_peer (reject_peer error)).1.trans (healthy.connected connected a current)
  · have number := congrArg connectionAttempt same
    rw [same] at connecting
    rw [number]
    exact sound_reject error (healthy.connecting connecting)

/-- Another place of one call, of which nothing needs to be known. -/
private theorem healthy_alter {f : Attempt → Attempt} (numbered : Numbered (c.alter b f))
    (peer : ∀ t, (f t).peer = t.peer)
    (stage : ∀ t, (f t).stage = t.stage ∨ (f t).stage.idle = true) (healthy : Healthy c) :
    Healthy (c.alter b f) := by
  have health : ∀ a, (c.alter b f).died a = c.died a ∧ (c.alter b f).dead a = c.dead a := by
    refine fun a => health_of_peer ?_
    rw [alter_attempts]
    split
    · exact peer _
    · rfl
  refine ⟨numbered, fun connected a current => ?_, fun connecting => ?_⟩
  · exact (health a).1.trans (healthy.connected connected a current)
  · refine (healthy.connecting connecting).transfer ?_ (health _) rfl fun _ _ => id
    rw [alter_attempts]
    split
    · exact stage _
    · exact .inl rfl

/-- The call of an attempt gets to a place at which `sound` holds. -/
private theorem healthy_place {stage : Stage} (numbered : Numbered (c.setStage a stage))
    (sound : c.status = .connecting → a = c.connectionAttempt → (c.setStage a stage).Sound a)
    (healthy : Healthy c) : Healthy (c.setStage a stage) := by
  have health : ∀ b, (c.setStage a stage).died b = c.died b ∧ (c.setStage a stage).dead b = c.dead b := by
    refine fun b => health_of_peer ?_
    rw [setStage, alter_attempts]
    split <;> rfl
  refine ⟨numbered, fun connected b current => ?_, fun connecting => ?_⟩
  · exact (health b).1.trans (healthy.connected connected b current)
  · by_cases here : a = c.connectionAttempt
    · exact here ▸ sound connecting here
    · refine (healthy.connecting connecting).transfer (.inl ?_) (health _) rfl fun _ _ => id
      exact (setStage_stage stage).trans (if_neg fun same => here same.symm)

private theorem Sound.of_ready (healthy : Healthy c) (connecting : c.status = .connecting)
    (ready : c.Ready c.connectionAttempt) : c.peerConnection = some c.connectionAttempt ∧
      (c.died c.connectionAttempt = true → c.dead c.connectionAttempt = true) := by
  have sound := healthy.connecting connecting
  unfold Sound at sound
  rcases ready with opening | microphone | shut
  · rwa [opening] at sound
  · rwa [microphone] at sound
  · simp [isOpen, connecting] at shut

/-- A peer connection that is not dead and would still be if it had died. -/
private theorem alive_of_dead (kept : c.died a = true → c.dead a = true) (alive : c.dead a = false) :
    c.died a = false := by
  cases died : c.died a with
  | false => rfl
  | true => exact (kept died).symm.trans alive

private theorem negotiates_peer {t : Attempt} : t.negotiates.peer = t.peer := by
  unfold Attempt.negotiates
  split <;> rfl

private theorem connects_peer {t : Attempt} : t.connects.peer = t.peer := by
  unfold Attempt.connects
  split <;> rfl

/-- One of the promises of `Promise.all` resolves. -/
private theorem healthy_joining {f : Attempt → Attempt} (wait : Option Nat)
    (numbered : Numbered (c.alter b f)) (peer : ∀ t, (f t).peer = t.peer)
    (stage : ∀ t, (∀ n m, t.stage ≠ .joining n m) → (f t).stage = t.stage)
    (joining : ∀ t n m, t.stage = .joining n m → ∃ n' m', (f t).stage = .joining n' m' ∧
      (m' = false → m = false ∧ wait = c.mediaConnectionWait))
    (others : c.connectionAttempt ≠ b → wait = c.mediaConnectionWait) (healthy : Healthy c) :
    Healthy ({ c with mediaConnectionWait := wait }.alter b f) := by
  have health : ∀ a, ({ c with mediaConnectionWait := wait }.alter b f).died a = c.died a ∧
      ({ c with mediaConnectionWait := wait }.alter b f).dead a = c.dead a := by
    refine fun a => health_of_peer ?_
    rw [alter_attempts]
    split
    · exact peer _
    · rfl
  refine ⟨numbered, fun connected a current => ?_, fun connecting => ?_⟩
  · exact (health a).1.trans (healthy.connected connected a current)
  · have sound := healthy.connecting connecting
    rw [alter_connectionAttempt]
    -- Only the stage of the current attempt counts.
    by_cases here : c.connectionAttempt = b
    · unfold Sound at sound ⊢
      rw [(health _).1, (health _).2, alter_attempts, if_pos here]
      cases place : (c.attempts c.connectionAttempt).stage with
      | joining n m =>
        obtain ⟨n', m', same, waits⟩ := joining _ n m place
        rw [place] at sound
        rw [same]
        exact ⟨sound.1, sound.2.1, fun unmet =>
          (waits unmet).2.trans (sound.2.2 (waits unmet).1)⟩
      | _ =>
        rw [stage _ (by rw [place]; exact fun _ _ absurd => (by cases absurd)), place]
        rwa [place] at sound
    · refine sound.transfer (.inl ?_) (health _) rfl fun _ _ waits => (others here).trans waits
      rw [alter_attempts, if_neg here]

private theorem healthy_update (update : Update c c') (healthy : Healthy c) : Healthy c' := by
  have numbered := numbered_update update healthy.numbered
  cases update with
  | cancel error => exact healthy_reject error (healthy_raise healthy)
  | raise => exact healthy_raise healthy
  | shut =>
    refine ⟨numbered, fun absurd => ?_, fun absurd => ?_⟩ <;> rw [c.shut_eq] at absurd <;> cases absurd
  | disconnecting => exact ⟨numbered, fun absurd => (by cases absurd), fun absurd => (by cases absurd)⟩
  | closeSignaling =>
    unfold closeSignaling at numbered ⊢
    split
    · exact healthy
    next a here =>
      rw [here] at numbered
      exact healthy_alter numbered (fun _ => rfl) (fun _ => .inl rfl) healthy
  | begins audio =>
    refine ⟨numbered, fun absurd => (by cases absurd), fun _ => .of_idle ?_⟩
    exact (congrArg (fun t : Attempt => t.stage.idle) (if_pos rfl)).trans rfl
  | openSignaling a =>
    exact healthy_alter (c := { c with signaling := some a }) numbered (fun _ => rfl)
      (fun _ => .inr rfl) ⟨healthy.numbered, healthy.connected, healthy.connecting⟩
  -- The attempt that opens a peer connection is the current one, and that peer is new.
  | openPeer a _ active =>
    refine ⟨numbered, fun connected => ?_, fun connecting => ?_⟩
    · have connected : c.status = .connected := connected
      simp [isActiveConnectionAttempt, isOpen, connected] at active
    · have connecting : c.status = .connecting := connecting
      have here : a = c.connectionAttempt := by
        simpa [isActiveConnectionAttempt, isOpen, connecting] using active
      subst here
      simp [Sound, openPeer, died]
  -- From here on, an attempt moves from one stage to the next with its peer alive.
  | microphone a _ ready =>
    refine healthy_place numbered (fun connecting here => ?_) healthy
    subst here
    have sound := Sound.of_ready healthy connecting ready
    simpa [Sound, setStage, died, dead, connectionState] using sound
  | mediaConnected a _ ready connected =>
    refine healthy_place numbered (fun connecting here => ?_) healthy
    subst here
    have sound := Sound.of_ready healthy connecting ready
    have alive := alive_of_dead sound.2 (by simp [dead, connected, PeerState.dead])
    simpa [Sound, setStage, died] using And.intro sound.1 alive
  | mediaDead a =>
    exact healthy_place numbered (fun _ _ => .of_idle (by simp [Stage.idle])) healthy
  | settles a stage _ settled =>
    refine healthy_place numbered (fun _ _ => .of_idle ?_) healthy
    rcases settled with rfl | rfl <;> simp [Stage.idle]
  -- The wait is set before the stage: nobody else waits at that moment.
  | awaitMedia a _ ready unset _ alive =>
    have waiting : Healthy { c with mediaConnectionWait := some a } := by
      refine ⟨healthy.numbered, healthy.connected, fun connecting => ?_⟩
      refine (healthy.connecting connecting).transfer (.inl rfl) ⟨rfl, rfl⟩ rfl fun _ _ waits => ?_
      cases unset.symm.trans waits
    refine healthy_place (c := { c with mediaConnectionWait := some a }) numbered
      (fun connecting here => ?_) waiting
    have here : a = c.connectionAttempt := here
    subst here
    have sound := Sound.of_ready healthy connecting ready
    have alive := alive_of_dead sound.2 alive
    simpa [Sound, setStage, died] using And.intro sound.1 alive
  | mediaResolves a current connected =>
    unfold resolveMediaConnectionWait
    split
    · exact healthy
    next b waits =>
      split
      -- The wait belongs to the attempt, and its half of `Promise.all` is done.
      next here =>
        refine healthy_joining none ?_ (fun _ => connects_peer) ?_ ?_ ?_ healthy
        · exact numbered_alter (fun _ => connects_unstarted.mpr) healthy.numbered
        · intro t other
          unfold Attempt.connects
          split
          next joining => exact absurd joining (other _ _)
          · rfl
        · intro t n m joining
          refine ⟨n, true, ?_, fun absurd => by cases absurd⟩
          unfold Attempt.connects
          rw [joining]
        · exact fun other => absurd here.2.symm other
      · exact healthy
  | mediaRejects error => exact healthy_reject error healthy
  | rejects a error => exact healthy_alter numbered (fun _ => rejects_peer) (fun _ => rejects_stage) healthy
  -- Both halves are done, so the peer is alive and stays so while connected.
  | connected a active joined =>
    simp only [isActiveConnectionAttempt, Bool.and_eq_true, beq_iff_eq] at active
    obtain ⟨rfl, connecting⟩ := active
    have sound := healthy.connecting connecting
    unfold Sound at sound
    rw [joined] at sound
    refine ⟨numbered, fun _ a current => ?_, fun absurd => by cases absurd⟩
    cases sound.1.symm.trans current
    exact sound.2.1
  | negotiated n call =>
    unfold negotiated at numbered ⊢
    split
    · exact ⟨healthy.numbered, healthy.connected, healthy.connecting⟩
    next connecting =>
      rw [if_neg connecting] at numbered
      refine healthy_joining (c := c.finishes.setNegotiation n call .resolved) _ numbered
        (fun _ => negotiates_peer) ?_ ?_ (fun _ => rfl)
        ⟨healthy.numbered, healthy.connected, healthy.connecting⟩
      · intro t other
        unfold Attempt.negotiates
        split
        next joining => exact absurd joining (other _ _)
        · rfl
      · intro t n m joining
        refine ⟨true, m, ?_, fun unmet => ⟨unmet, rfl⟩⟩
        unfold Attempt.negotiates
        rw [joining]
  | negotiationFails n call =>
    unfold negotiationFails at numbered ⊢
    split
    · exact ⟨healthy.numbered, healthy.connected, healthy.connecting⟩
    next connecting =>
      rw [if_neg connecting] at numbered
      exact healthy_alter numbered (fun _ => rejects_peer) (fun _ => rejects_stage)
        ⟨healthy.numbered, healthy.connected, healthy.connecting⟩
  -- A description changes what the peer has seen, and not its health.
  | describe peer =>
    unfold describe at numbered ⊢
    split
    · exact healthy
    next a =>
      have health : ∀ b, (c.describe (some a)).died b = c.died b ∧
          (c.describe (some a)).dead b = c.dead b := by
        intro b
        unfold died dead connectionState describe
        rw [alter_attempts]
        split
        · cases (c.attempts b).peer <;> exact ⟨rfl, rfl⟩
        · exact ⟨rfl, rfl⟩
      refine ⟨numbered, fun connected b current => ?_, fun connecting => ?_⟩
      · exact (health b).1.trans (healthy.connected connected b current)
      · refine (healthy.connecting connecting).transfer (.inl ?_) (health _) rfl fun _ _ => id
        rw [alter_attempts]
        split <;> rfl
  | gone a => exact healthy_alter numbered (fun _ => rfl) (fun _ => .inl rfl) healthy
  | _ => exact ⟨numbered, healthy.connected, healthy.connecting⟩

private theorem healthy_updates (updates : Updates c c') (healthy : Healthy c) : Healthy c' := by
  induction updates with
  | refl => exact healthy
  | tail _ update ih => exact healthy_update update ih

/-- Nothing is asked of the peer connection of a client that is not open. -/
private theorem healthy_closed (numbered : Numbered c) (closed : c.isOpen = false) : Healthy c := by
  refine ⟨numbered, fun connected => ?_, fun connecting => ?_⟩
  · simp [isOpen, connected] at closed
  · simp [isOpen, connecting] at closed

private theorem healthy_takes {e : Event} (other : ∀ a state l, e ≠ .peerState a state l)
    (healthy : Healthy c) : Healthy (c.takes e) := by
  obtain ⟨attempts, _, _, _, _, same, frame, _⟩ := takes_frame (c := c) e
  rw [same, frame other]
  exact ⟨healthy.numbered, healthy.connected, healthy.connecting⟩

end Healthy

section States

variable {d : VoxRtcBrowserClient} {state : PeerState}

private theorem enter_eq (entered : c.enter a state = some d) : ∃ p, (c.attempts a).peer = some p ∧
    d = c.alter a ({ · with peer := some (p.enter state) }) := by
  unfold enter at entered
  split at entered
  next p here =>
    simp only [Option.ite_none_left_eq_some, Option.some.injEq] at entered
    exact ⟨p, here, entered.2.symm⟩
  · cases entered

private theorem enter_stage (entered : c.enter a state = some d) :
    (d.attempts b).stage = (c.attempts b).stage := by
  obtain ⟨p, _, rfl⟩ := enter_eq entered
  rw [alter_attempts]
  split <;> rfl

private theorem enter_health (entered : c.enter a state = some d) :
    d.died a = (c.died a || state.dead) ∧ d.dead a = state.dead := by
  obtain ⟨p, here, rfl⟩ := enter_eq entered
  simp [died, dead, connectionState, here, Peer.enter]

private theorem enter_other (entered : c.enter a state = some d) (other : b ≠ a) :
    d.died b = c.died b ∧ d.dead b = c.dead b := by
  obtain ⟨p, here, rfl⟩ := enter_eq entered
  refine health_of_peer ?_
  rw [alter_attempts, if_neg other]

private theorem enter_numbered (entered : c.enter a state = some d) (numbered : Numbered c) : Numbered d := by
  obtain ⟨p, here, rfl⟩ := enter_eq entered
  exact numbered_alter (fun _ => id) numbered

/-- The peer connection stays alive, or nobody has looked at it yet. -/
private theorem healthy_enter (entered : c.enter a state = some d) (healthy : Healthy c)
    (connected : c.peerConnection = some a → c.status = .connected → state.dead = false)
    (joining : c.peerConnection = some a → c.status = .connecting →
      ∀ n m, c.stage = .joining n m → state.dead = false)
    (opening : c.peerConnection = some a → c.status = .connecting →
      c.stage = .opening ∨ c.stage = .microphone → state.dead = false → c.died a = false) :
    Healthy d := by
  have numbered := enter_numbered entered healthy.numbered
  have health := enter_health entered
  have others {b : Nat} (other : b ≠ a) := enter_other entered other
  have place := enter_stage entered (b := c.connectionAttempt)
  obtain ⟨p, _, rfl⟩ := enter_eq entered
  refine ⟨numbered, fun holds b current => ?_, fun holds => ?_⟩
  · have alive := healthy.connected holds b current
    by_cases here : b = a
    · subst here
      rw [health.1, alive, connected current holds]
      rfl
    · exact (others here).1.trans alive
  · have sound := healthy.connecting holds
    rw [alter_connectionAttempt]
    by_cases here : c.connectionAttempt = a
    · subst here
      unfold Sound at sound ⊢
      rw [place, health.1, health.2]
      cases stage : (c.attempts c.connectionAttempt).stage with
      -- Nobody has looked at the state yet, so the peer may have died unnoticed.
      | opening | microphone =>
        rw [stage] at sound
        refine ⟨sound.1, fun died => ?_⟩
        cases dead : state.dead with
        | true => rfl
        | false =>
          have alive := opening sound.1 holds (by simp [VoxRtcBrowserClient.stage, stage]) dead
          rw [alive, dead] at died
          cases died
      | joining n m =>
        rw [stage] at sound
        refine ⟨sound.1, ?_, sound.2.2⟩
        rw [sound.2.1, joining sound.1 holds n m stage]
        rfl
      | _ => trivial
    · exact sound.transfer (.inl place) (others here) rfl fun _ _ => id

private theorem not_connected (dead : d.dead a = true) : d.connectionState a ≠ some .connected := by
  intro connected
  simp [VoxRtcBrowserClient.dead, connected, PeerState.dead] at dead

private theorem not_all (dead : d.dead a = true) :
    ¬(d.connectionState a).all (!·.dead) = true := by
  unfold VoxRtcBrowserClient.dead at dead
  cases here : d.connectionState a with
  | none => simp [here] at dead
  | some p => simpa [here] using dead

private theorem healthy_left (numbered : Numbered c) (left : Left c d) : Healthy d :=
  healthy_closed (numbered_updates left.1 numbered) left.2

/-- The listeners let the client look at its peer connection, or have closed the client. -/
private theorem healthy_deals (numbered : Numbered d) (reacts : l.peer ≠ .throws)
    (deals : Ensures (fun t => t = d) (dealWithPeerState a l) (fun _ => Healthy)
      (fun _ => Healthy)) : Healthy (after (handlePeerConnectionStateChange a l) d) := by
  refine Ensures.after (P := fun t => t = d) ?_ rfl
  apply Ensures.bind (Q := fun _ => Heard d)
  · exact (emit_throws reacts).weaken (fun _ => id) (fun _ _ => id)
      (fun _ _ => healthy_left numbered)
  refine fun _ => .each fun t heard => ?_
  rcases heard with rfl | left
  · exact deals
  · have healthy := healthy_left numbered left
    exact (dealWithPeerState_follows a l).weaken (fun _ same => same ▸ .refl)
      (fun _ _ updates => healthy_updates updates healthy)
      (fun _ _ updates => healthy_updates updates healthy)

/-- The media wait is there and rejects. -/
private theorem healthy_waiting {negotiated : Bool} (numbered : Numbered d) (dies : d.dead a = true)
    (current : d.peerConnection = some a) (connecting : d.status = .connecting)
    (joining : d.stage = .joining negotiated false)
    (waits : d.mediaConnectionWait = some d.connectionAttempt) :
    Ensures (fun t => t = d) (dealWithPeerState a l) (fun _ => Healthy) (fun _ => Healthy) := by
  refine .read fun t same => ?_
  subst same
  refine .cond (fun lost => absurd current lost) (fun _ => ?_)
  refine .cond (fun absent => absurd absent (not_connected dies)) (fun _ => ?_)
  refine .cond (fun alive => absurd alive (not_all dies)) (fun _ => ?_)
  refine .cond (fun _ => .update fun u same => ?_) (fun other => absurd connecting other)
  subst same
  refine ⟨numbered_reject _ numbered, fun connected => ?_, fun _ => .of_idle ?_⟩
  · rw [reject_eq] at connected
    exact absurd (connecting.symm.trans connected) (by decide)
  · rw [congrArg connectionAttempt (reject_eq _), rejectMediaConnectionWait, waits]
    dsimp only
    rw [alter_attempts, if_pos rfl, Attempt.rejects,
      show (u.attempts u.connectionAttempt).stage = _ from joining]
    rfl

/-- The connected client closes. -/
private theorem healthy_failing (numbered : Numbered d) (dies : d.dead a = true)
    (current : d.peerConnection = some a) (connected : d.status = .connected)
    (reacts : l.error ≠ .throws) :
    Ensures (fun t => t = d) (dealWithPeerState a l) (fun _ => Healthy) (fun _ => Healthy) := by
  refine .read fun t same => ?_
  subst same
  refine .cond (fun lost => absurd current lost) (fun _ => ?_)
  refine .cond (fun absent => absurd absent (not_connected dies)) (fun _ => ?_)
  refine .cond (fun alive => absurd alive (not_all dies)) (fun _ => ?_)
  refine .cond (fun other => absurd (connected.symm.trans other) (by decide)) (fun _ => ?_)
  refine .cond (fun _ => ?_) (fun other => absurd connected other)
  apply Ensures.bind (Q := fun _ u => u = { t with connectionAttempt := t.connectionAttempt + 1 })
  · exact .update fun u same => same ▸ rfl
  intro _
  apply Ensures.bind (Q := fun _ => Numbered)
  · exact (emit_throws reacts).weaken (fun _ => id)
      (fun _ _ heard => numbered_updates heard.updates (numbered_raise numbered))
      (fun _ _ => healthy_left (numbered_raise numbered))
  intro _
  apply Ensures.bind (Q := fun _ => Healthy)
  · exact .update fun u numbered => healthy_closed (numbered_update .shut numbered) rfl
  · exact fun _ => .each fun u healthy => (emit_listens l.closed u).weaken (fun _ => id)
      (fun _ _ heard => healthy_updates heard.updates healthy)
      (fun _ _ heard => healthy_updates heard.updates healthy)

private theorem healthy_peerState (entered : c.enter a state = some d) (healthy : Healthy c)
    (noticed : c.peerConnection = some a → c.notices a state l = true) :
    Healthy (after (handlePeerConnectionStateChange a l) d) := by
  have follows {d : VoxRtcBrowserClient} (healthy : Healthy d) :
      Healthy (after (handlePeerConnectionStateChange a l) d) :=
    healthy_updates ((handlePeerConnectionStateChange_follows a l).after .refl) healthy
  -- A peer connection that was replaced changes nothing.
  by_cases current : c.peerConnection = some a
  · have noticed := noticed current
    have numbered := enter_numbered entered healthy.numbered
    have dies := (enter_health entered).2
    have place := enter_stage entered (b := c.connectionAttempt)
    have frame : d = { c with attempts := d.attempts } := by
      obtain ⟨p, _, rfl⟩ := enter_eq entered
      rfl
    unfold notices at noticed
    split at noticed
    -- The dead state rejects the promise that the attempt waits for.
    case h_1 negotiated connected connecting joining dead =>
      simp only [Bool.and_eq_true, Bool.not_eq_true', bne_iff_ne] at noticed
      obtain ⟨rfl, reacts⟩ := noticed
      have sound := healthy.connecting connecting
      unfold Sound at sound
      rw [show (c.attempts c.connectionAttempt).stage = _ from joining] at sound
      rw [frame] at dies ⊢
      refine healthy_deals (frame ▸ numbered) reacts (healthy_waiting (frame ▸ numbered)
        (dies.trans dead) current connecting (place.trans joining) (sound.2.2 rfl))
    -- A connection that was established fails.
    case h_4 connected dead =>
      simp only [Bool.and_eq_true, bne_iff_ne] at noticed
      rw [frame] at dies ⊢
      exact healthy_deals (frame ▸ numbered) noticed.1
        (healthy_failing (frame ▸ numbered) (dies.trans dead) current connected noticed.2)
    -- The handler sees nothing to do: the state is not a dead one.
    case h_5 failing waiting opening microphone =>
      refine follows (healthy_enter entered healthy (fun _ connected => ?_)
        (fun _ connecting n m joining => ?_) (fun _ connecting place alive => ?_))
      · cases dead : state.dead with
        | false => rfl
        | true => exact (failing connected dead).elim
      · cases dead : state.dead with
        | false => rfl
        | true => exact (waiting n m connecting joining dead).elim
      · rcases place with place | place
        · exact (opening connecting place alive).elim
        · exact (microphone connecting place alive).elim
    -- it has not been looked at, and stays as it was
    all_goals
      rename_i connecting place alive
      refine follows (healthy_enter entered healthy (fun _ connected => ?_)
        (fun _ _ _ _ _ => alive) (fun _ _ _ _ => by simpa using noticed))
      exact alive
  · refine follows (healthy_enter entered healthy ?_ ?_ ?_) <;>
      exact fun absurd => (current absurd).elim

end States

theorem healthy_step {e : Event} (watched : c.Watched e) (taken : browser.step c e = some c')
    (healthy : Healthy c) : Healthy c' := by
  cases e with
  | peerState a state l =>
    obtain ⟨d, entered, rfl⟩ := Option.map_eq_some_iff.mp taken
    exact healthy_peerState entered healthy watched
  | _ =>
    refine step_preserves (fun _ _ healthy update => healthy_update update healthy) taken ?_
    exact healthy_takes (fun _ _ _ absurd => by cases absurd) healthy

private theorem healthy_initial : Healthy initial :=
  ⟨⟨fun _ _ => rfl, Nat.le_refl 0⟩, fun absurd => (by cases absurd),
    fun absurd => (by cases absurd)⟩

/-- The call resolves at once, or not at all. -/
private theorem conclude_alive (reacts : l.connected = .returns ∨ l.connected = .throws)
    (joined : (c.attempts a).stage = .joining true true) (healthy : Healthy c) :
    Ensures (fun t => t = c) (attempting a l (conclude a l))
      (fun _ t => (t.attempts a).stage = .resolved → t.died a = false)
      (fun _ t => (t.attempts a).stage = .resolved → t.died a = false) := by
  apply Ensures.handle (F := fun _ _ => True)
  · apply Ensures.bind (assertActive_once.weaken (fun _ => id) (fun _ _ => id) fun _ _ _ => trivial)
    intro _
    apply Ensures.bind (Q := fun _ t => t.died a = false)
    · rintro t ⟨rfl, active⟩
      simp only [isActiveConnectionAttempt, Bool.and_eq_true, beq_iff_eq] at active
      obtain ⟨rfl, connecting⟩ := active
      have sound := healthy.connecting connecting
      unfold Sound at sound
      rw [joined] at sound
      exact sound.2.1
    intro _
    apply Ensures.bind (Q := fun _ t => t.died a = false)
    · rcases reacts with reacts | reacts <;> rw [reacts]
      · exact .pure fun _ => id
      · exact .throw fun _ _ => trivial
    · refine fun _ => .update fun t alive _ => ?_
      simpa [died, setStage] using alive
  · intro error
    apply Ensures.bind (Q := fun _ _ => True)
    · exact .handle .anything fun _ => .pure fun _ => id
    refine fun _ => .update fun t _ resolved => ?_
    simp at resolved

end VoxRtcBrowserClient

open VoxRtcBrowserClient

/-- The peer connection of a connected client is alive, as long as none dies unnoticed. -/
theorem connected_media_alive {C : VoxRtcBrowserClient → Event → Prop}
    (cond : ∀ c e, C c e → c.Watched e) : MediaAlive C := by
  have healthy {c : VoxRtcBrowserClient} (reached : browser.Reaches C c) : Healthy c :=
    reached.preserves healthy_initial
      fun _ _ _ healthy meets taken => healthy_step (cond _ _ meets) taken healthy
  constructor
  case connected => exact fun c reached => (healthy reached).connected
  case resolves =>
    intro c a l c' reached meets taken resolved
    have reacts := cond _ _ meets
    change c.resume a l .joinResolves = some c' at taken
    simp only [resume, Option.ite_none_right_eq_some, Option.some.injEq] at taken
    obtain ⟨joined, rfl⟩ := taken
    exact Ensures.after (conclude_alive reacts joined (healthy reached)) rfl resolved

/-- An attempt up to its answer. -/
def answeredRun : List Event := [
  .connect false {}, .resumes 1 (.signalingResolves true true) {},
  .negotiation 0 .offerCreated {}, .negotiation 0 (.localSet true) {},
  .negotiation 0 .answered {}, .negotiation 0 .remoteApplied {}]

/-- What is left of it. -/
def connectedRun : List Event := [
  .negotiation 0 .remoteSet {}, .negotiation 0 .flushed {}, .resumes 1 .joinResolves {}]

theorem connected_media_alive_run : ∃ c, browser.run .initial
    (answeredRun ++ [.peerState 1 .connected {}] ++ connectedRun) = some c ∧
    c.status = .connected ∧ c.peerConnection = some 1 ∧ c.died 1 = false := by
  refine ⟨_, rfl, rfl, rfl, ?_⟩
  have reached := System.leads_of_run (M := browser) (C := Watched) (s := browser.init)
    (answeredRun ++ [.peerState 1 .connected {}] ++ connectedRun) (by decide) rfl
  exact (connected_media_alive fun _ _ => id).connected _ reached rfl 1 rfl

/-- The peer connection fails between the media wait and the end of the negotiation. -/
theorem failed_media_connects :
    (∃ c, browser.run .initial (answeredRun ++ [.peerState 1 .connected {}, .peerState 1 .failed {}] ++
        connectedRun) = some c ∧
      c.status = .connected ∧ (c.attempts 1).stage = .resolved ∧ c.peerConnection = some 1 ∧
      c.connectionState 1 = some .failed) ∧
    ¬MediaAlive always := by
  refine ⟨⟨_, rfl, rfl, rfl, rfl, rfl⟩, fun alive => ?_⟩
  have reached := System.reaches_of_run (M := browser) (answeredRun ++
    [.peerState 1 .connected {}, .peerState 1 .failed {}] ++ connectedRun) rfl
  exact absurd (alive.connected _ reached rfl 1 rfl) (by decide)

end VoxRtc.Browser.Attempts
