import VoxRtc.Browser.Updates
import VoxRtc.Transition.Pool

/-!
# Streams of the microphone

Who can still stop a stream that `getUserMedia` has handed out: the client, as long as it is
the local stream, or the call of `replaceMicrophone` that is about to use it.
-/
namespace VoxRtc.Browser.Attempts

open Program Transition

def Stage.past : Stage → Bool
  | .unstarted | .resolved | .rejected => true
  | _ => false

def NegotiationStage.past : NegotiationStage → Bool
  | .resolved | .rejected | .handled => true
  | _ => false

namespace VoxRtcBrowserClient

/-- No call waits for anything. -/
def Quiet (c : VoxRtcBrowserClient) : Prop :=
  (∀ a ≤ c.connectionAttempt, (c.attempts a).stage.past = true) ∧
  (∀ call ∈ c.negotiations, call.stage.past = true) ∧ ∀ r ∈ c.replacements, r = .settled

instance (c : VoxRtcBrowserClient) : Decidable c.Quiet :=
  inferInstanceAs (Decidable (_ ∧ _ ∧ _))

/-- A stream that is handed out gets an owner, and no owner loses its stream: there is no
local stream yet when `connect` gets its own, a call of `replaceMicrophone` finds a peer
connection for its stream and can use it, and the client is not closed by then. -/
def Held (c : VoxRtcBrowserClient) : Event → Prop
  | .resumes a (.microphoneResolves _) _ => c.isActiveConnectionAttempt a = true → c.localStream = none
  | .replacement _ (.acquired .sender) _ => c.peerConnection ≠ none
  | .replacement _ (.acquired (.added ok)) _ =>
    c.peerConnection ≠ none ∧ ok = true ∧ c.status ≠ .closed
  | .replacement _ .replaced _ => c.status ≠ .closed
  | .replacement _ .rejects _ => False
  | _ => True

instance (c : VoxRtcBrowserClient) : (e : Event) → Decidable (c.Held e)
  | .resumes a (.microphoneResolves _) _ =>
    inferInstanceAs (Decidable (c.isActiveConnectionAttempt a = true → c.localStream = none))
  | .replacement _ (.acquired .sender) _ => inferInstanceAs (Decidable (c.peerConnection ≠ none))
  | .replacement _ (.acquired (.added ok)) _ =>
    inferInstanceAs (Decidable (c.peerConnection ≠ none ∧ ok = true ∧ c.status ≠ .closed))
  | .replacement _ .replaced _ => inferInstanceAs (Decidable (c.status ≠ .closed))
  | .replacement _ .rejects _ => inferInstanceAs (Decidable False)
  | .replacement _ (.acquired .noTrack) _ | .replacement _ .refused _
  | .resumes _ (.signalingResolves ..) _ | .resumes _ .signalingRejects _
  | .resumes _ .microphoneRejects _ | .resumes _ .joinResolves _ | .resumes _ .joinRejects _
  | .connect .. | .disconnect .. | .restartIce | .replaceMicrophone | .negotiation ..
  | .peerState .. | .dataChannel .. | .localCandidate .. | .mediaTimeout | .signalingCloses ..
  | .sessionClosed .. | .serverCandidate .. => inferInstanceAs (Decidable True)

/-- Where no call waits, a stream is the local one or has been stopped, and every stream has
been once the client is closed. -/
structure MicrophoneOwned (C : VoxRtcBrowserClient → Event → Prop) : Prop where
  owned : ∀ c, browser.Reaches C c → c.Quiet → ∀ k < c.acquired, k ∈ c.live →
    c.localStream = some k
  closed : ∀ c, browser.Reaches C c → c.Quiet → c.status = .closed → c.live = []

variable {c c' d : VoxRtcBrowserClient} {l : Listeners} {n : Nat}

structure Owned (c : VoxRtcBrowserClient) : Prop where
  /-- A stream that has not been stopped has somebody who can stop it. -/
  held : ∀ k ∈ c.live, c.localStream = some k ∨ .replacing k ∈ c.replacements
  closed : c.status = .closed → c.localStream = none

private theorem mem_stop {k : Nat} {stream : Option Nat} :
    k ∈ (c.stopStream stream).live ↔ k ∈ c.live ∧ some k ≠ stream := by
  unfold stopStream
  rw [List.mem_filter, decide_eq_true_iff]

private theorem owned_reject (error : Thrown) (owned : Owned c) :
    Owned (c.rejectMediaConnectionWait error) := by
  rw [reject_eq]
  exact ⟨owned.held, owned.closed⟩

private theorem owned_update (update : Update c c') (owned : Owned c) : Owned c' := by
  cases update with
  | cancel error => exact owned_reject error ⟨owned.held, owned.closed⟩
  | mediaRejects error => exact owned_reject error owned
  | shut =>
    rw [shut_eq]
    refine ⟨fun k live => .inr ?_, fun _ => rfl⟩
    obtain ⟨old, other⟩ := mem_stop.mp live
    exact (owned.held k old).resolve_left fun same => other same.symm
  | disconnecting | connected a => exact ⟨owned.held, fun absurd => by cases absurd⟩
  | begins audio => exact ⟨owned.held, fun absurd => by cases absurd⟩
  | closeSignaling =>
    rw [closeSignaling_eq]
    exact ⟨owned.held, owned.closed⟩
  | mediaResolves a =>
    unfold resolveMediaConnectionWait
    split
    · exact owned
    · split <;> exact ⟨owned.held, owned.closed⟩
  | negotiated m call =>
    unfold negotiated
    split <;> exact ⟨owned.held, owned.closed⟩
  | negotiationFails m call =>
    unfold negotiationFails
    split <;> exact ⟨owned.held, owned.closed⟩
  | describe peer =>
    unfold describe
    split <;> exact ⟨owned.held, owned.closed⟩
  | replacement =>
    refine ⟨fun k live => ?_, owned.closed⟩
    exact (owned.held k live).imp_right fun held => List.mem_append_left _ held
  | _ => exact ⟨owned.held, owned.closed⟩

/-- The owners of the old streams keep them when a call that has none goes on. -/
private theorem held_set {r r' : Replacement} {k : Nat} (here : c.replacements[n]? = some r)
    (idle : r ≠ .replacing k) (held : .replacing k ∈ c.replacements) :
    .replacing k ∈ c.replacements.set n r' :=
  Pool.mem_set_of_ne here held (fun same => idle same.symm)

private theorem owned_microphone {a : Nat} {tracks : Bool}
    (held : c.Held (.resumes a (.microphoneResolves tracks) l)) (owned : Owned c) :
    Owned (c.takes (.resumes a (.microphoneResolves tracks) l)) := by
  simp only [takes]
  split
  next active =>
    have none := held active
    refine ⟨fun k live => ?_, fun closed => ?_⟩
    · rcases List.mem_append.mp live with old | new
      · refine .inr ((owned.held k old).resolve_left fun same => ?_)
        rw [none] at same
        cases same
      · exact .inl (congrArg some (List.mem_singleton.mp new).symm)
    · have closed : c.status = .closed := closed
      simp [isActiveConnectionAttempt, closed] at active
  next =>
    refine ⟨fun k live => ?_, owned.closed⟩
    obtain ⟨old, other⟩ := mem_stop.mp live
    rcases List.mem_append.mp old with old | new
    · exact owned.held k old
    · exact absurd (congrArg some (List.mem_singleton.mp new)) other

private theorem owned_replacement {e : ReplacementEvent} {r : Replacement}
    (held : c.Held (.replacement n e l)) (here : c.replacements[n]? = some r)
    (taken : c.replace n l e r = some c') (owned : Owned c) :
    Owned (c.takesReplacement n e r) := by
  cases e with
  | acquired how =>
    cases r <;> simp only [replace, reduceCtorEq] at taken
    have kept {k : Nat} {r' : Replacement} (held : .replacing k ∈ c.replacements) :
        .replacing k ∈ c.replacements.set n r' := held_set here (fun same => by cases same) held
    cases how with
    -- A stream without a track is stopped again.
    | noTrack =>
      refine ⟨fun k live => ?_, owned.closed⟩
      obtain ⟨old, other⟩ := mem_stop.mp live
      rcases List.mem_append.mp old with old | new
      · exact (owned.held k old).imp_right kept
      · exact absurd (congrArg some (List.mem_singleton.mp new)) other
    -- The stream waits for its sender to take the track.
    | sender =>
      simp only [takesReplacement]
      split
      next lost => exact absurd lost held
      refine ⟨fun k live => ?_, owned.closed⟩
      simp only [setReplacement, acquires, List.set_set]
      rcases List.mem_append.mp live with old | new
      · exact (owned.held k old).imp_right kept
      · rw [List.mem_singleton.mp new]
        exact .inr (Pool.mem_set_self here)
    -- The track is added, and the stream that it replaces is stopped.
    | added ok =>
      simp only [takesReplacement]
      split
      case isFalse lost => exact absurd ⟨held.1, held.2.1⟩ lost
      refine ⟨fun k live => ?_, fun closed => absurd closed held.2.2⟩
      obtain ⟨old, other⟩ := mem_stop.mp live
      rcases List.mem_append.mp old with old | new
      · exact .inr (kept ((owned.held k old).resolve_left fun same => other same.symm))
      · exact .inl (congrArg some (List.mem_singleton.mp new).symm)
  | refused =>
    cases r <;> simp only [replace, reduceCtorEq] at taken
    refine ⟨fun k live => (owned.held k live).imp_right (held_set here ?_), owned.closed⟩
    exact fun same => by cases same
  | replaced =>
    cases r <;> simp only [replace, reduceCtorEq] at taken
    -- The sender has taken the track: the client holds the stream from now on.
    case replacing stream =>
      refine ⟨fun k live => ?_, fun closed => absurd closed held⟩
      obtain ⟨old, other⟩ := mem_stop.mp live
      have waits := (owned.held k old).resolve_left fun same => other same.symm
      by_cases same : stream = k
      · exact .inl (congrArg some same)
      · exact .inr (held_set here (fun equal => same (Replacement.replacing.inj equal)) waits)
  | rejects => exact held.elim

theorem owned_step {e : Event} (held : c.Held e) (taken : browser.step c e = some c')
    (owned : Owned c) : Owned c' := by
  refine step_preserves (fun _ _ owned update => owned_update update owned) taken ?_
  cases e with
  | resumes a e l =>
    cases e with
    | microphoneResolves tracks => exact owned_microphone held owned
    | _ => exact owned
  | replacement n e l =>
    obtain ⟨r, here, taken⟩ := Option.bind_eq_some_iff.mp taken
    simp only [takes, here]
    exact owned_replacement held here taken owned
  | peerState a state l =>
    obtain ⟨d, entered, _⟩ := Option.map_eq_some_iff.mp taken
    simp only [takes, entered]
    unfold enter at entered
    split at entered
    · split at entered <;> cases entered
      exact ⟨owned.held, owned.closed⟩
    · cases entered
  | _ => exact owned

theorem owned_reaches {C : VoxRtcBrowserClient → Event → Prop} (cond : ∀ c e, C c e → c.Held e)
    (reached : browser.Reaches C c) : Owned c :=
  reached.preserves ⟨fun _ absurd => (by cases absurd), fun _ => rfl⟩
    fun _ _ _ owned meets taken => owned_step (cond _ _ meets) taken owned

end VoxRtcBrowserClient

open VoxRtcBrowserClient

/-- The microphone is stopped unless it is the local stream, as long as every stream finds an
owner that is still there. -/
theorem microphone_owned {C : VoxRtcBrowserClient → Event → Prop}
    (cond : ∀ c e, C c e → c.Held e) : MicrophoneOwned C := by
  have held {c : VoxRtcBrowserClient} {k : Nat} (reached : browser.Reaches C c) (quiet : c.Quiet)
      (live : k ∈ c.live) : c.localStream = some k := by
    refine ((owned_reaches cond reached).held k live).resolve_right fun waits => ?_
    cases quiet.2.2 _ waits
  constructor
  case owned => exact fun c reached quiet k _ live => held reached quiet live
  case closed =>
    intro c reached quiet closed
    refine List.eq_nil_iff_forall_not_mem.mpr fun k live => ?_
    have none := (owned_reaches cond reached).closed closed
    cases none.symm.trans (held reached quiet live)

/-- An attempt connects with a microphone, and the application asks for another one. -/
def replacingRun : List Event := [
  .connect true {}, .resumes 1 (.signalingResolves true true) {},
  .resumes 1 (.microphoneResolves true) {}, .negotiation 0 .offerCreated {},
  .negotiation 0 (.localSet true) {}, .negotiation 0 .answered {},
  .negotiation 0 .remoteApplied {}, .negotiation 0 .remoteSet {}, .negotiation 0 .flushed {},
  .peerState 1 .connected {}, .resumes 1 .joinResolves {}, .replaceMicrophone]

theorem microphone_owned_run : ∃ c, browser.run .initial (replacingRun ++
    [.replacement 0 (.acquired .sender) {}, .replacement 0 .replaced {}, .disconnect {}]) = some c ∧
    c.Quiet ∧ c.status = .closed ∧ c.acquired = 2 ∧ c.live = [] := by
  obtain ⟨c, ran, quiet, closed, acquired⟩ := System.run_ends (M := browser) (s := browser.init)
    (P := fun c => c.Quiet ∧ c.status = .closed ∧ c.acquired = 2) (replacingRun ++
      [.replacement 0 (.acquired .sender) {}, .replacement 0 .replaced {}, .disconnect {}])
    (by decide +kernel)
  have reached := System.leads_of_run (M := browser) (C := Held) _ (by decide +kernel) ran
  have released := (microphone_owned fun _ _ => id).closed c reached quiet closed
  exact ⟨c, ran, quiet, closed, acquired, released⟩

/-- The client disconnects before the new microphone is there, and nobody stops it. -/
theorem microphone_leaks :
    (∃ c, browser.run .initial (replacingRun ++
        [.disconnect {}, .replacement 0 (.acquired .sender) {}]) = some c ∧
      c.Quiet ∧ c.status = .closed ∧ c.localStream = none ∧ c.live = [1]) ∧
    ¬MicrophoneOwned always := by
  obtain ⟨c, ran, quiet, closed, stream, live⟩ := System.run_ends (M := browser)
    (s := browser.init)
    (P := fun c => c.Quiet ∧ c.status = .closed ∧ c.localStream = none ∧ c.live = [1])
    (replacingRun ++ [.disconnect {}, .replacement 0 (.acquired .sender) {}]) (by decide +kernel)
  refine ⟨⟨c, ran, quiet, closed, stream, live⟩, fun owned => ?_⟩
  have released := owned.closed c (System.reaches_of_run _ ran) quiet closed
  rw [live] at released
  cases released

end VoxRtc.Browser.Attempts
