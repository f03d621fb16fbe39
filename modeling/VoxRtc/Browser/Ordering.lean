import VoxRtc.Browser.Candidates

/-!
# Order of the server candidates

The candidates that come in before the answer are kept and added after it, one promise at
a time. Those that come in meanwhile are added at once, and overtake the ones that are
still kept. Otherwise `addIceCandidate` is called in the order of arrival.
-/
namespace VoxRtc.Browser

open Transition Wire VoxRtc.Gateway

def Event.calls : Event → List Call
  | .receive _ _ calls | .iceCandidate _ calls => calls
  | _ => []

namespace BrowserClient

variable {c c' : BrowserClient} {log : List Produced} {p : Produced}

/-- The server candidate that an event brings to `#handleSignalingEvent`. -/
def arrival (c : BrowserClient) : Event → List Produced
  | .receive d produced _ =>
    if c.signaling.passesOn d.frame = true ∧ d.frame.type = "rtc.ice_candidate" then
      (candidateFromSignaling d.frame.data).toList.map (⟨·, produced⟩)
    else []
  | _ => []

/-- `addIceCandidate` is still to be called with these. -/
def waiting (c : BrowserClient) : List Produced :=
  match c.negotiation with
  | .flushing rest => rest ++ c.pendingServerCandidates
  | _ => c.pendingServerCandidates

/-- `#flushServerCandidates` has kept candidates to add after the one it waits for. -/
def draining (c : BrowserClient) : Bool :=
  match c.negotiation with
  | .flushing (_ :: _) => c.isOpen
  | _ => false

/-- No server candidate comes in while kept ones are still to be added. -/
def Settled (c : BrowserClient) (e : Event) : Prop :=
  c.draining = true → c.arrival e = [] ∨ .disconnect ∈ e.calls

instance (c : BrowserClient) (e : Event) : Decidable (c.Settled e) :=
  decidable_of_iff (c.draining = true → (c.arrival e).length = 0 ∨ .disconnect ∈ e.calls) <| by
    rw [Settled, List.length_eq_zero_iff]

/-- What the check of a candidate rests on, at each stage of an open client. -/
def Staged (remote : Nat) (pending : List Produced) : Negotiation → Prop
  | .creatingOffer _ | .settingLocal _ _ => True
  | .awaitingAnswer generation _ | .settingRemote generation false => 0 < generation
  | .settingRemote _ true => 0 < remote
  | .idle | .flushing _ => 0 < remote ∧ pending = []

structure Ordered (log : List Produced) (c : BrowserClient) : Prop where
  phased : Phased c
  staged : c.isOpen = true →
    Staged c.peerConnection.remoteDescription c.pendingServerCandidates c.negotiation
  accounted : c.isOpen = true → log = c.peerConnection.added.map Added.produced ++ c.waiting

theorem Ordered.shut (closed : c.isOpen = false) : Ordered log c :=
  ⟨.shut closed, fun opened => absurd opened (by simp [closed]),
    fun opened => absurd opened (by simp [closed])⟩

theorem ordered_initial : Ordered [] .initial :=
  ⟨phased_initial, fun _ => trivial, fun _ => rfl⟩

theorem Staged.applied {remote : Nat} {pending : List Produced} {stage : Negotiation}
    (staged : Staged remote pending stage) (answered : stage.unanswered = false) :
    0 < remote ∧ pending = [] := by
  cases stage with
  | idle | flushing => exact staged
  | _ => cases answered

/-- A candidate that comes in later is kept or added last. -/
theorem ordered_serverCandidate (ordered : Ordered log c) (calm : c.draining = false) :
    Ordered (log ++ [p]) (c.serverCandidate p) := by
  have phased := phased_preserved.serverCandidate c p ordered.phased trivial
  by_cases opened : c.isOpen = true
  · have staged := ordered.staged opened
    have accounted := ordered.accounted opened
    have awaiting := ordered.phased.awaiting opened
    unfold serverCandidate at phased ⊢
    split at phased
    -- No answer is set yet, so the candidate joins those that wait.
    case isTrue kept =>
      rw [if_pos kept]
      have unanswered : c.negotiation.unanswered = true := by
        by_contra answered
        rw [Bool.not_eq_true] at answered
        have applied := (staged.applied answered).1
        rcases kept with closed | none | waits
        · simp [isOpen, closed] at opened
        · omega
        · simp [waits, answered] at awaiting
      refine ⟨phased, fun _ => ?_, fun _ => ?_⟩
      · cases stage : c.negotiation with
        | idle | flushing => rw [stage] at unanswered; cases unanswered
        | creatingOffer | settingLocal => trivial
        | awaitingAnswer => rw [stage] at staged; exact staged
        | settingRemote _ applied =>
          rw [stage] at staged
          cases applied <;> exact staged
      · rw [accounted, List.append_assoc]
        cases stage : c.negotiation with
        | idle | flushing => rw [stage] at unanswered; cases unanswered
        | _ => simp [waiting, stage]
    -- The answer is set, and nobody waits: the candidate is added at once.
    case isFalse direct =>
      rw [if_neg direct]
      simp only [not_or, Bool.not_eq_true] at direct
      have answered : c.negotiation.unanswered = false := awaiting.symm.trans direct.2.2
      have empty := (staged.applied answered).2
      have nothing : c.waiting = [] := by
        cases stage : c.negotiation with
        | idle => simp [waiting, stage, empty]
        | flushing rest =>
          cases rest with
          | nil => simp [waiting, stage, empty]
          | cons q rest => simp [draining, stage, opened] at calm
        | _ => rw [stage] at answered; cases answered
      refine ⟨phased, fun _ => staged, fun _ => ?_⟩
      show log ++ [p] = (c.peerConnection.added ++ [_]).map Added.produced ++ c.waiting
      rw [accounted, nothing, List.map_append, List.append_nil, List.append_nil]
      rfl
  · have closed : c.status = .closed := by simpa [isOpen] using opened
    rw [serverCandidate, if_pos (.inl closed)]
    exact .shut (Bool.eq_false_iff.mpr opened)

/-- The loop goes on with the first of the kept candidates. -/
private theorem ordered_flush (rest : List Produced) (phased : Phased (c.flush rest))
    (applied : c.isOpen = true → 0 < c.peerConnection.remoteDescription ∧
      c.pendingServerCandidates = [] ∧ log = c.peerConnection.added.map Added.produced ++ rest) :
    Ordered log (c.flush rest) := by
  cases rest with
  | nil =>
    refine ⟨phased, fun opened => ?_, fun opened => ?_⟩
    · exact ⟨(applied opened).1, (applied opened).2.1⟩
    · obtain ⟨-, empty, accounted⟩ := applied opened
      simpa [flush, finishes, waiting, empty] using accounted
  | cons p rest =>
    refine ⟨phased, fun opened => ?_, fun opened => ?_⟩
    · exact ⟨(applied opened).1, (applied opened).2.1⟩
    · obtain ⟨-, empty, accounted⟩ := applied opened
      simpa [flush, addIceCandidate, waiting, empty] using accounted

/-- A step of `#negotiate` that moves no candidate. -/
private theorem Ordered.move (ordered : Ordered log c) (phased : Phased c')
    (opened : c'.isOpen = c.isOpen)
    (staged : Staged c.peerConnection.remoteDescription c.pendingServerCandidates c.negotiation →
      Staged c'.peerConnection.remoteDescription c'.pendingServerCandidates c'.negotiation)
    (added : c'.peerConnection.added = c.peerConnection.added)
    (waiting : c'.waiting = c.waiting) : Ordered log c' := by
  refine ⟨phased, fun open' => staged (ordered.staged (opened ▸ open')), fun open' => ?_⟩
  rw [added, waiting]
  exact ordered.accounted (opened ▸ open')

private theorem ordered_resumes (ordered : Ordered log c) (resumes : c.Resumes c') :
    Ordered log c' := by
  have phased := phased_preserved.resumes c c' ordered.phased resumes
  cases resumes with
  | offerCreated stage | localApplied stage =>
    exact ordered.move phased rfl (fun _ => trivial) rfl (by simp [waiting, stage])
  | localSet offer stage =>
    obtain ⟨signaling, id, sent, set, _⟩ := c.localSet_eq offer _
    rw [set] at phased ⊢
    exact ordered.move phased rfl (fun _ => Nat.succ_pos _) rfl (by simp [waiting, stage])
  | answered stage =>
    refine ordered.move phased rfl (fun staged => ?_) rfl (by simp [waiting, stage])
    rw [stage] at staged
    exact staged
  | remoteApplied stage =>
    refine ordered.move phased rfl (fun staged => ?_) rfl (by simp [waiting, stage])
    rw [stage] at staged
    exact staged
  | remoteSet stage =>
    unfold remoteSet at phased ⊢
    split at phased
    case isTrue closed =>
      rw [if_pos closed]
      exact .shut (by simp [finishes, isOpen, closed])
    -- The flush adds those that wait in their order.
    case isFalse still =>
      rw [if_neg still]
      refine ordered_flush _ phased fun opened => ?_
      have staged := ordered.staged opened
      have accounted := ordered.accounted opened
      rw [stage] at staged
      exact ⟨staged, rfl, by simpa [waiting, stage] using accounted⟩
  | candidateAdded stage =>
    refine ordered_flush _ phased fun opened => ?_
    have staged := ordered.staged opened
    have accounted := ordered.accounted opened
    rw [stage] at staged
    exact ⟨staged.1, staged.2, by simpa [waiting, stage, staged.2] using accounted⟩
  | failed => exact .shut rfl

theorem ordered_preserved : Preserved (Ordered log) (fun _ _ => False) (fun _ _ => True) := by
  constructor
  case toKept =>
    refine ⟨fun c reason _ => .shut rfl, fun c restart c' ordered started => ?_⟩
    have phased := phased_preserved.negotiate c restart c' ordered.phased started
    simp only [negotiate, Option.ite_none_left_eq_some, Option.some.injEq, not_or] at started
    obtain ⟨⟨still, resting⟩, rfl⟩ := started
    have opened : c.isOpen = true := by simpa [isOpen] using still
    have idle : c.negotiation.isIdle = true := by
      simpa [resting] using ordered.phased.negotiating opened
    refine ordered.move phased rfl (fun _ => trivial) rfl ?_
    cases stage : c.negotiation with
    | idle => simp [waiting, stage]
    | _ => rw [stage] at idle; cases idle
  case signaling =>
    intro c signaling ordered same
    exact ordered.move (phased_preserved.signaling c signaling ordered.phased same) rfl id rfl rfl
  case connects =>
    exact fun c ordered opened =>
      ordered.move (phased_preserved.connects c ordered.phased opened) opened.symm id rfl rfl
  case resumes => exact fun c c' ordered resumes => ordered_resumes ordered resumes
  case serverCandidate => exact fun c p _ none' => none'.elim
  case localCandidate =>
    intro c g ordered _
    have phased := phased_preserved.localCandidate c g ordered.phased trivial
    unfold localCandidate at phased ⊢
    split at phased
    case isTrue buffered =>
      rw [if_pos buffered]
      exact ordered.move phased rfl id rfl rfl
    case isFalse unbuffered =>
      rw [if_neg unbuffered]
      obtain ⟨signaling, sent, same, _⟩ := c.sendLocalCandidate_eq g
      rw [same] at phased ⊢
      exact ordered.move phased rfl id rfl rfl

/-- Handlers do not start a flush. -/
theorem emit_draining (calls : List Call) (after : (c.emit calls).1.draining = true) :
    c.draining = true := by
  refine Kept.emit (P := fun b => b.draining = true → c.draining = true)
    ⟨fun b reason _ drains => ?_, fun b restart b' _ started drains => ?_⟩ calls id after
  · unfold draining at drains
    split at drains <;> cases drains
  · simp only [negotiate, Option.ite_none_left_eq_some, Option.some.injEq] at started
    obtain ⟨_, rfl⟩ := started
    cases drains

theorem kept_closed : Kept (fun b => b.isOpen = false) := by
  refine ⟨fun b reason _ => rfl, fun b restart b' closed started => ?_⟩
  simp only [negotiate, Option.ite_none_left_eq_some, not_or] at started
  exact absurd closed (by simp [isOpen, started.1.1])

theorem emit_disconnect (calls : List Call) (called : .disconnect ∈ calls) :
    (c.emit calls).1.isOpen = false := by
  obtain ⟨before, after, rfl⟩ := List.append_of_mem called
  unfold emit
  rw [List.foldl_append, List.foldl_cons]
  -- The client is closed from this call on.
  generalize List.foldl call (c, false) before = r
  have closed : (call r .disconnect).1.isOpen = false := rfl
  generalize call r .disconnect = r' at closed
  induction after generalizing r' with
  | nil => exact closed
  | cons made after ih =>
    refine ih (by simp) _ ?_
    cases made with
    | restartIce => exact kept_closed.restartIce closed
    | disconnect => rfl

theorem ordered_signalingEvent {frame : Frame Binary64} {produced : Nat}
    (type : frame.type = "rtc.ice_candidate") (ordered : Ordered log c)
    (calm : candidateFromSignaling frame.data ≠ none → c.draining = false ∨ c.isOpen = false) :
    Ordered (log ++ (candidateFromSignaling frame.data).toList.map (⟨·, produced⟩))
      (c.signalingEvent frame produced) := by
  unfold signalingEvent
  rw [if_pos type]
  cases read : candidateFromSignaling frame.data with
  | none => simpa using ordered
  | some candidate =>
    rcases calm (by simp [read]) with calm | closed
    · exact ordered_serverCandidate ordered calm
    · have shut : c.status = .closed := by simpa [isOpen] using closed
      simp only [serverCandidate, shut, true_or, if_true]
      exact .shut (by simp [isOpen])

theorem ordered_step {e : Event} (ordered : Ordered log c) (settled : c.Settled e)
    (taken : negotiations.step c e = some c') : Ordered (log ++ c.arrival e) c' := by
  -- Events without a candidate leave the record, and the general rule applies.
  have quiet (supplies : Supplies (fun _ _ => False) (fun _ _ => True) c e)
      (none' : c.arrival e = []) : Ordered (log ++ c.arrival e) c' := by
    rw [none', List.append_nil]
    exact ordered_preserved.step supplies ordered taken
  cases e with
  | receive d produced calls =>
    by_cases comes : c.signaling.passesOn d.frame = true ∧ d.frame.type = "rtc.ice_candidate"
    · obtain ⟨passed, type⟩ := comes
      have stepped : c.step (.receive d produced calls) = some c' := taken
      simp only [step, Option.ite_none_right_eq_some, Option.some.injEq] at stepped
      obtain ⟨-, rfl⟩ := stepped
      have brings : c.arrival (.receive d produced calls) =
          (candidateFromSignaling d.frame.data).toList.map (⟨·, produced⟩) := if_pos ⟨passed, type⟩
      have dispatched : Ordered log (c.dispatched d) := ordered_preserved.signaling c _ ordered
        (SignalingClient.dispatch_generation d)
      rw [receive, if_pos passed, brings]
      refine ordered_preserved.toKept.taskEnds _ ?_
      refine ordered_signalingEvent type (ordered_preserved.toKept.emit calls dispatched) ?_
      intro read
      by_cases drains : ((c.dispatched d).emit calls).1.draining = true
      · refine .inr (emit_disconnect calls ?_)
        refine (settled (emit_draining (c := c.dispatched d) calls drains)).resolve_left fun nothing => read ?_
        rw [brings] at nothing
        simpa using nothing
      · exact .inl (Bool.eq_false_iff.mpr drains)
    · exact quiet (fun type _ _ passed => absurd ⟨passed, type⟩ comes) (if_neg comes)
  | iceCandidate => exact quiet (fun _ => trivial) rfl
  | _ => exact quiet trivial rfl

end BrowserClient

/-- The client with a record of the server candidates in the order of arrival. -/
def arrivals : System (BrowserClient × List Produced) Event :=
  negotiations.recorded BrowserClient.arrival

/-- Of every negotiation, the candidates added to the peer connection are the first of those
that have arrived, and the others wait in this order; between negotiations none waits. -/
def CandidatesInOrder (C : BrowserClient → Event → Prop) : Prop :=
  ∀ c log, arrivals.Reaches (fun s => C s.1) (c, log) → c.isOpen = true → ∀ generation,
    log.filter (·.generation = generation) =
      (c.peerConnection.added.map Added.produced).filter (·.generation = generation) ++
        c.waiting.filter (·.generation = generation) ∧
    (c.negotiation.isIdle = true → c.waiting = [])

theorem server_candidates_in_order {C : BrowserClient → Event → Prop}
    (settled : ∀ c e, C c e → c.Settled e) : CandidatesInOrder C := by
  intro c log reached opened generation
  have ordered : BrowserClient.Ordered log c := System.Reaches.recorded (P := BrowserClient.Ordered)
    BrowserClient.ordered_initial
    (fun log a e b ordered meets taken =>
      BrowserClient.ordered_step ordered (settled a e meets) taken) reached
  refine ⟨?_, fun idle => ?_⟩
  · rw [ordered.accounted opened, List.filter_append]
  · have staged := ordered.staged opened
    cases stage : c.negotiation with
    | idle =>
      rw [stage] at staged
      simp [BrowserClient.waiting, stage, staged.2]
    | _ => rw [stage] at idle; cases idle

/-- A candidate with a name. -/
def candidateNamed (name : String) : Event :=
  .receive ⟨⟨none, "rtc.ice_candidate", [("candidate", .obj [("candidate", .str name)]),
    ("generation", .num (.ofCount 1))]⟩, .none⟩ 1 []

def namedCandidate (name : String) : Produced :=
  ⟨.obj [("candidate", .str name), ("sdpMid", .null), ("sdpMLineIndex", .null),
    ("usernameFragment", .null)], 1⟩

/-- Two candidates come before the answer, and the end of them after both are added. -/
def arrivingRun : List Event :=
  offering ++ [candidateNamed "one", candidateNamed "two"] ++ answering 1 ++
    [.candidateAdded, candidateFor 1 [], .candidateAdded]

theorem server_candidates_in_order_run : ∃ c log,
    arrivals.Reaches (fun s => s.1.Settled) (c, log) ∧ c.isOpen = true ∧
    log = [namedCandidate "one", namedCandidate "two", ⟨.null, 1⟩] ∧
    log.filter (·.generation = 1) =
      (c.peerConnection.added.map Added.produced).filter (·.generation = 1) ++
        c.waiting.filter (·.generation = 1) := by
  have reached := System.leads_of_run (M := arrivals)
    (C := fun s => s.1.Settled) (s := arrivals.init) arrivingRun (by decide) rfl
  exact ⟨_, _, reached, rfl, rfl,
    (server_candidates_in_order (C := BrowserClient.Settled) (fun _ _ => id) _ _ reached rfl 1).1⟩

/-- The end of the candidates overtakes one that waits for the promise before it. -/
def overtakingRun : List Event :=
  offering ++ [candidateNamed "one", candidateNamed "two"] ++ answering 1 ++
    [candidateFor 1 [], .candidateAdded, .candidateAdded]

theorem server_candidate_overtakes :
    (∃ c log, arrivals.Reaches always (c, log) ∧ c.isOpen = true ∧
      log = [namedCandidate "one", namedCandidate "two", ⟨.null, 1⟩] ∧
      c.peerConnection.added.map Added.produced =
        [namedCandidate "one", ⟨.null, 1⟩, namedCandidate "two"]) ∧
    ¬CandidatesInOrder always := by
  have reached := System.reaches_of_run (M := arrivals) overtakingRun rfl
  refine ⟨⟨_, _, reached, rfl, rfl, rfl⟩, fun ordered => ?_⟩
  have same := (ordered _ _ reached rfl 1).1
  cases same

end VoxRtc.Browser
