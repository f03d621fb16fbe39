import VoxRtc.Browser.Calls
import VoxRtc.Browser.Ordering

/-!
# The browser client in one attempt

`BrowserClient` is `VoxRtcBrowserClient` in one call of `connect`, from its `#negotiate` on: it
has the descriptions and the candidates of one peer connection where the other has the calls
and the peer connections of every attempt. Whatever the first does the second does as well. A
call of a listener within a step of the first is a step of its own in the second.
-/
namespace VoxRtc.Browser

open Transition Program Wire VoxRtc.Gateway

namespace Attempts.VoxRtcBrowserClient

/-! ## Steps that no listener interferes with -/

variable {t : VoxRtcBrowserClient} {a n : Nat} {call : Negotiation} {p : Peer}

theorem leads {u : VoxRtcBrowserClient} {e : Event} (taken : t.step e = some u) :
    browser.Leads always t u := .one e taken

/-- The client has been cleaned up. -/
def CleanedUp (t : VoxRtcBrowserClient) : Prop :=
  t.status = .closed ∧ t.signaling = none ∧ t.peerConnection = none

@[simp] theorem outcome_returns : outcome Reaction.returns.emit t = .ok ⟨⟩ t := rfl

@[simp] theorem outcome_require {p : Prop} [Decidable p] {error : Thrown} :
    outcome (require p error) t = if p then .ok ⟨⟩ t else .error error t := by
  unfold require
  split <;> rfl

theorem alter_self (f : Attempt → Attempt) : (t.alter a f).attempts a = f (t.attempts a) :=
  if_pos rfl

theorem step_joinResolves (joined : (t.attempts a).stage = .joining true true)
    (current : t.isActiveConnectionAttempt a = true) :
    t.step (.resumes a .joinResolves {}) =
      some ({ t with status := .connected }.setStage a .resolved) := by
  simp [step, resume, joined, after_outcome, attempting, conclude,
    assertActiveConnectionAttempt, current]

theorem step_connected (here : t.peerConnection = some a) (peer : (t.attempts a).peer = some p)
    (alive : p.connectionState ≠ .closed) :
    t.step (.peerState a .connected {}) = some ((t.alter a
      ({ · with peer := some (p.enter .connected) })).resolveMediaConnectionWait a) := by
  simp [step, enter, peer, alive, after_outcome, handlePeerConnectionStateChange, dealWithPeerState,
    alter, here, connectionState, Peer.enter]

theorem shut_cleanedUp : t.shut.CleanedUp := ⟨rfl, rfl, rfl⟩

theorem outcome_disconnect : ∃ u, u.CleanedUp ∧
    outcome (disconnect Reaction.returns.emit Reaction.returns.emit) t = .ok ⟨⟩ u := by
  by_cases resting : (t.cancel .cancelled).status = .closed ∨ (t.cancel .cancelled).status = .idle
  · refine ⟨(t.cancel .cancelled).shut, shut_cleanedUp, ?_⟩
    simp [disconnect, resting]
  · let leaving := { t.cancel .cancelled with status := .disconnecting }
    refine ⟨leaving.closeSignaling.shut, shut_cleanedUp, ?_⟩
    simp only [disconnect, outcome_bind, outcome_modify, outcome_get, if_neg resting,
      outcome_returns]
    rfl

theorem step_disconnect : ∃ u, t.step (.disconnect {}) = some u ∧ u.CleanedUp := by
  obtain ⟨u, shut, ended⟩ := t.outcome_disconnect
  refine ⟨u, ?_, shut⟩
  rw [step, after_outcome, ended]

/-- The call sees that a promise has rejected. -/
theorem step_joinRejects {error : Thrown} (rejecting : (t.attempts a).stage = .rejecting error)
    (current : t.connectionAttempt = a) :
    ∃ u, t.step (.resumes a .joinRejects {}) = some u ∧ u.CleanedUp := by
  refine ⟨(t.cancel error).shut.setStage a .rejected, ?_, (t.cancel error).shut_cleanedUp⟩
  simp [step, resume, rejecting, after_outcome, attempting, recover, current]

/-- The peer connection fails while the call waits for it. -/
theorem step_failed_connecting (here : t.peerConnection = some a)
    (peer : (t.attempts a).peer = some p) (alive : p.connectionState ≠ .closed)
    (connecting : t.status = .connecting) :
    t.step (.peerState a .failed {}) = some ((t.alter a
      ({ · with peer := some (p.enter .failed) })).rejectMediaConnectionWait .failed) := by
  simp [step, enter, peer, alive, after_outcome, handlePeerConnectionStateChange, dealWithPeerState,
    alter, here, connectionState, Peer.enter, PeerState.dead, connecting]

theorem step_failed_connected (here : t.peerConnection = some a)
    (peer : (t.attempts a).peer = some p) (alive : p.connectionState ≠ .closed)
    (connected : t.status = .connected) :
    ∃ u, t.step (.peerState a .failed {}) = some u ∧ u.CleanedUp := by
  let failed := t.alter a ({ · with peer := some (p.enter .failed) })
  refine ⟨{ failed with connectionAttempt := t.connectionAttempt + 1 }.shut, ?_, shut_cleanedUp⟩
  simp [failed, step, enter, peer, alive, after_outcome, handlePeerConnectionStateChange,
    dealWithPeerState, alter, here, connectionState, Peer.enter, PeerState.dead, connected]

theorem step_signalingCloses (socket : (t.attempts a).signaling = some .opened)
    (opened : t.isOpen = true) : ∃ u, t.step (.signalingCloses a {}) = some u ∧ u.CleanedUp := by
  let gone := t.alter a ({ · with signaling := some .gone })
  refine ⟨(gone.cancel .failed).shut, ?_, shut_cleanedUp⟩
  have opened : gone.isOpen = true := opened
  simp [gone, step, socket, after_outcome, handleUnexpectedSignalingClose, opened]

theorem step_sessionClosed (socket : (t.attempts a).signaling = some .opened)
    (opened : t.status ≠ .closed) : ∃ u, t.step (.sessionClosed a {}) = some u ∧ u.CleanedUp := by
  refine ⟨t.shut, ?_, shut_cleanedUp⟩
  simp [step, socket, after_outcome, sessionClosed, opened]

theorem step_serverCandidate (candidate : Candidate)
    (socket : (t.attempts a).signaling = some .opened) (here : t.peerConnection = some a)
    (peer : (t.attempts a).peer = some p) :
    t.step (.serverCandidate a candidate {}) =
      some (if p.remoteDescription = false ∨ t.awaitingRemoteDescription = true then
        { t with pendingServerCandidates := t.pendingServerCandidates ++ [candidate] }
      else t) := by
  simp [step, socket, after_outcome, serverCandidate, here, peer]

theorem step_localCandidate (candidate : Candidate) (peer : (t.attempts a).peer = some p)
    (alive : p.connectionState ≠ .closed) :
    t.step (.localCandidate a candidate {}) =
      some (if t.bufferLocalCandidates = true then
        { t with pendingLocalCandidates := t.pendingLocalCandidates ++ [candidate] }
      else t) := by
  simp only [step, hasPeer, peer, Option.any_some, decide_eq_true alive, if_true, after_outcome,
    localCandidate]
  by_cases buffering : t.bufferLocalCandidates = true
  · simp [buffering]
  · simp [buffering]

theorem step_restartIce (connected : t.status = .connected) (peer : t.peerConnection ≠ none)
    (signaling : t.signaling ≠ none) (resting : t.negotiating = false) :
    t.step .restartIce = some (t.negotiates t.connectionAttempt true) := by
  simp [step, after_outcome, VoxRtcBrowserClient.restartIce, negotiate, connected, peer, signaling,
    resting]

/-- A negotiation is under way, which `#negotiate` does not allow. -/
theorem step_restartIce_refused (connected : t.status = .connected) (peer : t.peerConnection ≠ none)
    (signaling : t.signaling ≠ none) (busy : t.negotiating = true) :
    t.step .restartIce = some (t.refuses t.connectionAttempt) := by
  simp [step, after_outcome, VoxRtcBrowserClient.restartIce, negotiate, connected, peer, signaling,
    busy]

theorem step_restartFails (found : t.negotiations[n]? = some call) (restart : call.restart = true)
    (rejected : call.stage = .rejected) :
    ∃ u, t.step (.negotiation n .restartFails {}) = some u ∧ u.CleanedUp := by
  obtain ⟨u, shut, ended⟩ := (t.setNegotiation n call .handled).outcome_disconnect
  refine ⟨u, ?_, shut⟩
  simp [step, found, continues, restart, rejected, after_outcome, restartFails, ended]

theorem step_localSet (found : t.negotiations[n]? = some call)
    (stage : call.stage = .settingLocal) :
    t.step (.negotiation n (.localSet true) {}) =
      some (t.takeLocalCandidates.setNegotiation n call .awaitingAnswer) := by
  simp [step, found, continues, stage, after_outcome, localSet]

theorem step_remoteSet (found : t.negotiations[n]? = some call)
    (stage : call.stage = .settingRemote true) (peer : t.peerConnection ≠ none) :
    t.step (.negotiation n .remoteSet {}) =
      some ({ t with
        awaitingRemoteDescription := false
        pendingServerCandidates := [] }.setNegotiation n call
          (.flushing t.pendingServerCandidates)) := by
  simp [step, found, continues, stage, after_outcome, remoteSet, peer]

end Attempts.VoxRtcBrowserClient

open Attempts (VoxRtcBrowserClient browser)

/-! ## The two models of the client -/

/-- The status under its name in the other model. -/
def Status.named : Status → Attempts.Status
  | connecting => .connecting
  | connected => .connected
  | closed => .closed

/-- What `#negotiate` waits for, in the two models. A candidate that is being added has left
the list of the one only. -/
inductive Negotiation.Stands : Negotiation → Attempts.NegotiationStage → Prop
  | creatingOffer {restart : Bool} : Stands (.creatingOffer restart) .creatingOffer
  | settingLocal {restart applied : Bool} : Stands (.settingLocal restart applied) .settingLocal
  | awaitingAnswer {generation : Nat} {id : String} (counted : generation ≠ 0) :
      Stands (.awaitingAnswer generation id) .awaitingAnswer
  | settingRemote {generation : Nat} {applied : Bool} (counted : generation ≠ 0) :
      Stands (.settingRemote generation applied) (.settingRemote applied)
  | flushing {candidate : Attempts.Candidate} {rest : List Produced} :
      Stands (.flushing rest) (.flushing (candidate :: rest.map Produced.candidate))

/-- The call of `#negotiate` that is under way. -/
structure Underway (stage : Negotiation) (restart : Bool) (a : Nat)
    (negotiations : List Attempts.Negotiation) (n : Nat) (call : Attempts.Negotiation) : Prop where
  found : negotiations[n]? = some call
  attempt : call.attempt = a
  peerConnection : call.peerConnection = some a
  restart : call.restart = restart
  stands : stage.Stands call.stage

/-- The client in an attempt that is under way, in the two models. -/
structure Alike (c : BrowserClient) (t : VoxRtcBrowserClient) (p : Attempts.Peer) : Prop where
  status : t.status = c.status.named
  signaling : t.signaling = some t.connectionAttempt
  peerConnection : t.peerConnection = some t.connectionAttempt
  socket : (t.attempts t.connectionAttempt).signaling = some .opened
  peer : (t.attempts t.connectionAttempt).peer = some p
  alive : p.connectionState ≠ .closed
  described : p.remoteDescription = decide (c.peerConnection.remoteDescription ≠ 0)
  pendingLocalCandidates :
    t.pendingLocalCandidates = c.pendingLocalCandidates.map Gathered.candidate
  pendingServerCandidates :
    t.pendingServerCandidates = c.pendingServerCandidates.map Produced.candidate
  bufferLocalCandidates : t.bufferLocalCandidates = c.bufferLocalCandidates
  negotiating : t.negotiating = c.negotiating
  awaitingRemoteDescription : t.awaitingRemoteDescription = c.awaitingRemoteDescription
  /-- Until the media connection is up, `Promise.all` waits for it. -/
  mediaConnectionWait : c.status = .connecting →
    t.mediaConnectionWait = some t.connectionAttempt
  joining : c.status = .connecting →
    (t.attempts t.connectionAttempt).stage = .joining c.negotiation.isIdle false

/-- What the client is in the one model, it is in the other. -/
inductive BrowserClient.Views (c : BrowserClient) (t : VoxRtcBrowserClient) : Prop
  | underway (p : Attempts.Peer) (opened : c.isOpen = true) (alike : Alike c t p)
      (negotiates : c.negotiation.isIdle = false → ∃ n call, Underway c.negotiation
        (c.status == .connected) t.connectionAttempt t.negotiations n call)
  | ended (closed : c.isOpen = false) (shut : t.CleanedUp)

/-- A promise of the peer connection that has taken effect does not reject. -/
def BrowserClient.Keeps (c : BrowserClient) : Event → Prop
  | .rejects => ∀ generation, c.negotiation ≠ .settingRemote generation true
  | _ => True

section Matching

variable {c c' : BrowserClient} {t u : VoxRtcBrowserClient} {p : Attempts.Peer} {n : Nat}
  {call : Attempts.Negotiation} {stage : Negotiation} {next : Attempts.NegotiationStage}
  {restart : Bool} {a : Nat}

theorem Underway.proceeds (underway : Underway stage restart a t.negotiations n call)
    {later : Negotiation} (stands : later.Stands next) :
    Underway later restart a (t.setNegotiation n call next).negotiations n
      { call with stage := next } where
  found := List.getElem?_set_self (List.getElem?_eq_some_iff.mp underway.found).1
  attempt := underway.attempt
  peerConnection := underway.peerConnection
  restart := underway.restart
  stands := stands

/-- The promise that the call waits for rejects. -/
theorem Underway.rejects (underway : Underway stage restart a t.negotiations n call)
    (busy : stage.isIdle = false)
    (kept : ∀ generation, stage ≠ .settingRemote generation true) :
    t.step (.negotiation n .rejects {}) = some (t.negotiationFails n call) := by
  rw [VoxRtcBrowserClient.step, underway.found]
  obtain ⟨attempt, restarts, peerConnection, next⟩ := call
  cases underway.stands with
  | @settingRemote generation applied counted =>
    cases applied with
    | false => rfl
    | true => exact absurd rfl (kept generation)
  | _ => rfl

theorem BrowserClient.resume_busy {e : Event} (taken : c.resume e = some c') :
    c.negotiation.isIdle = false := by
  cases stage : c.negotiation with
  | idle => cases e <;> simp [resume, stage] at taken
  | _ => rfl

namespace Alike

theorem isOpen (alike : Alike c t p) (opened : c.isOpen = true) : t.isOpen = true := by
  cases status : c.status with
  | closed => simp [BrowserClient.isOpen, status] at opened
  | _ => simp [VoxRtcBrowserClient.isOpen, alike.status, status, Status.named]

theorem present (alike : Alike c t p) (opened : c.isOpen = true) : t.status ≠ .closed := by
  cases status : c.status with
  | closed => simp [BrowserClient.isOpen, status] at opened
  | _ => simp [alike.status, status, Status.named]

/-- The call goes on to another stage, and nothing else happens. -/
theorem proceeds (alike : Alike c t p) (opened : c.isOpen = true)
    (underway : Underway c.negotiation (c.status == .connected) t.connectionAttempt
      t.negotiations n call)
    (stands : stage.Stands next) (busy : c.negotiation.isIdle = stage.isIdle) :
    { c with negotiation := stage }.Views (t.setNegotiation n call next) := by
  refine .underway p opened { alike with joining := ?_ } fun _ =>
    ⟨n, { call with stage := next }, underway.proceeds stands⟩
  rw [← busy]
  exact alike.joining

/-- `#negotiate` resolves. -/
theorem finishes (alike : Alike c t p) (opened : c.isOpen = true)
    (attempt : call.attempt = t.connectionAttempt)
    (restart : call.restart = (c.status == .connected)) :
    c.finishes.Views (t.negotiated n call) := by
  refine .underway p opened ?_ fun active => by cases active
  let resting := t.finishes.setNegotiation n call .resolved
  cases status : c.status with
  | closed => simp [BrowserClient.isOpen, status] at opened
  | connecting =>
    have joining := alike.joining status
    have negotiated : t.negotiated n call = resting.alter t.connectionAttempt (·.negotiates) := by
      rw [VoxRtcBrowserClient.negotiated, restart, status, attempt]
      rfl
    have joined : (resting.alter t.connectionAttempt (·.negotiates)).attempts t.connectionAttempt =
        { t.attempts t.connectionAttempt with stage := .joining true false } := by
      rw [VoxRtcBrowserClient.alter_self]
      change (t.attempts t.connectionAttempt).negotiates = _
      rw [Attempts.Attempt.negotiates, joining]
    rw [negotiated]
    exact { alike with
      socket := (congrArg Attempts.Attempt.signaling joined).trans alike.socket
      peer := (congrArg Attempts.Attempt.peer joined).trans alike.peer
      pendingLocalCandidates := rfl
      bufferLocalCandidates := rfl
      negotiating := rfl
      awaitingRemoteDescription := rfl
      joining := fun _ => congrArg Attempts.Attempt.stage joined }
  | connected =>
    have restarts : call.restart = true := by
      rw [restart, status]
      rfl
    rw [VoxRtcBrowserClient.negotiated, if_pos restarts]
    exact { alike with
      pendingLocalCandidates := rfl
      bufferLocalCandidates := rfl
      negotiating := rfl
      awaitingRemoteDescription := rfl
      joining := fun connecting => by cases status.symm.trans connecting }

/-- The rest of the candidates is added, or `#negotiate` resolves. -/
theorem flush (alike : Alike c t p) (opened : c.isOpen = true)
    (underway : Underway c.negotiation (c.status == .connected) t.connectionAttempt
      t.negotiations n call)
    (busy : c.negotiation.isIdle = false) (rest : List Produced) :
    ∃ u, browser.Leads always
      (t.setNegotiation n call (.flushing (rest.map Produced.candidate))) u ∧
      (c.flush rest).Views u := by
  cases rest with
  | nil =>
    let flushing : Attempts.Negotiation := { call with stage := .flushing [] }
    let waits := t.setNegotiation n call (.flushing [])
    have found : waits.negotiations[n]? = some flushing :=
      List.getElem?_set_self (List.getElem?_eq_some_iff.mp underway.found).1
    have flushed : waits.step (.negotiation n .flushed {}) =
        some (waits.negotiated n flushing) := by
      rw [VoxRtcBrowserClient.step, found]
      rfl
    have alike : Alike c waits p := { alike with }
    exact ⟨_, waits.leads flushed, alike.finishes opened underway.attempt underway.restart⟩
  | cons k rest =>
    refine ⟨_, .here, .underway p opened { alike with joining := ?_ }
      fun _ => ⟨n, _, underway.proceeds .flushing⟩⟩
    exact fun connecting =>
      (alike.joining connecting).trans (congrArg (Attempts.Stage.joining · false) busy)

/-- `#negotiate` rejects, and its caller cleans up. -/
theorem fails (alike : Alike c t p) (opened : c.isOpen = true)
    (underway : Underway c.negotiation (c.status == .connected) t.connectionAttempt
      t.negotiations n call)
    (rejects : t.step (.negotiation n .rejects {}) = some (t.negotiationFails n call)) :
    ∃ u, browser.Leads always t u ∧ (c.fails c.failReason).Views u := by
  let failed := t.finishes.setNegotiation n call .rejected
  have bound := (List.getElem?_eq_some_iff.mp underway.found).1
  cases status : c.status with
  | closed => simp [BrowserClient.isOpen, status] at opened
  | connecting =>
    have fails : t.negotiationFails n call =
        failed.alter t.connectionAttempt (·.rejects .failed) := by
      rw [VoxRtcBrowserClient.negotiationFails, underway.restart, status, underway.attempt]
      rfl
    have rejecting : ((t.negotiationFails n call).attempts t.connectionAttempt).stage =
        .rejecting .failed := by
      rw [fails, VoxRtcBrowserClient.alter_self]
      change ((t.attempts t.connectionAttempt).rejects .failed).stage = _
      rw [Attempts.Attempt.rejects, alike.joining status]
    have current : (t.negotiationFails n call).connectionAttempt = t.connectionAttempt := by
      rw [fails]
      rfl
    obtain ⟨u, ends, shut⟩ := VoxRtcBrowserClient.step_joinRejects rejecting current
    exact ⟨u, .trans (t.leads rejects) (VoxRtcBrowserClient.leads ends), .ended rfl shut⟩
  | connected =>
    have restarts : call.restart = true := by
      rw [underway.restart, status]
      rfl
    have found : (t.negotiationFails n call).negotiations[n]? =
        some { call with stage := .rejected } := by
      rw [VoxRtcBrowserClient.negotiationFails, if_pos restarts]
      exact List.getElem?_set_self bound
    obtain ⟨u, ends, shut⟩ := VoxRtcBrowserClient.step_restartFails found restarts rfl
    exact ⟨u, .trans (t.leads rejects) (VoxRtcBrowserClient.leads ends), .ended rfl shut⟩

/-- The offer is sent, and the local candidates that waited for it. -/
theorem localSet (alike : Alike c t p) (opened : c.isOpen = true)
    (underway : Underway c.negotiation (c.status == .connected) t.connectionAttempt
      t.negotiations n call)
    (settling : c.negotiation = .settingLocal restart true) (offer : Json Binary64) :
    ∃ u, browser.Leads always t u ∧ (c.localSet offer restart).Views u := by
  have stands := underway.stands
  rw [settling] at stands
  obtain ⟨signaling, id, sent, set, _⟩ := c.localSet_eq offer restart
  rw [set]
  have applied : call.stage = .settingLocal := by
    generalize call.stage = next at stands ⊢
    cases stands
    rfl
  refine ⟨_, t.leads (VoxRtcBrowserClient.step_localSet underway.found applied), ?_⟩
  refine .underway p opened { alike with
    pendingLocalCandidates := rfl, bufferLocalCandidates := rfl, joining := ?_ } fun _ => ?_
  · exact fun connecting => (alike.joining connecting).trans (by rw [settling]; rfl)
  · exact ⟨n, _, underway.proceeds (.awaitingAnswer (Nat.succ_ne_zero _))⟩

/-- The peer connection has the remote description. -/
theorem remoteApplied {generation : Nat} (alike : Alike c t p) (opened : c.isOpen = true)
    (underway : Underway c.negotiation (c.status == .connected) t.connectionAttempt
      t.negotiations n call)
    (settling : c.negotiation = .settingRemote generation false) :
    ∃ u, browser.Leads always t u ∧ BrowserClient.Views { c with
      negotiation := .settingRemote generation true
      peerConnection := { c.peerConnection with remoteDescription := generation } } u := by
  have continues : t.step (.negotiation n .remoteApplied {}) =
      t.continues n call {} .remoteApplied := by
    rw [VoxRtcBrowserClient.step, underway.found]
    rfl
  obtain ⟨attempt, restarts, peerConnection, next⟩ := call
  have stands : c.negotiation.Stands next := underway.stands
  have current : peerConnection = some t.connectionAttempt := underway.peerConnection
  rw [settling] at stands
  cases stands with
  | settingRemote counted =>
    subst current
    have described := t.alter_self (a := t.connectionAttempt)
      fun b => { b with peer := b.peer.map ({ · with remoteDescription := true }) }
    refine ⟨_, t.leads continues,
      .underway { p with remoteDescription := true } opened { alike with
        socket := (congrArg Attempts.Attempt.signaling described).trans alike.socket
        peer := ?_
        described := (decide_eq_true counted).symm
        joining := fun connecting => ?_ } fun _ => ?_⟩
    · exact (congrArg Attempts.Attempt.peer described).trans (by rw [alike.peer]; rfl)
    · exact ((congrArg Attempts.Attempt.stage described).trans (alike.joining connecting)).trans
        (by rw [settling]; rfl)
    · exact ⟨n, _, underway.proceeds (.settingRemote counted)⟩

/-- The candidates that waited for the remote description are added from here on. -/
theorem remoteSet {generation : Nat} (alike : Alike c t p) (opened : c.isOpen = true)
    (underway : Underway c.negotiation (c.status == .connected) t.connectionAttempt
      t.negotiations n call)
    (settling : c.negotiation = .settingRemote generation true) :
    ∃ u, browser.Leads always t u ∧ c.remoteSet.Views u := by
  have present : c.status ≠ .closed := by simpa [BrowserClient.isOpen] using opened
  have busy : c.negotiation.isIdle = false := by
    rw [settling]
    rfl
  have stands := underway.stands
  rw [settling] at stands
  have applied : call.stage = .settingRemote true := by
    generalize call.stage = next at stands ⊢
    cases stands
    rfl
  rw [BrowserClient.remoteSet, if_neg present]
  have set := VoxRtcBrowserClient.step_remoteSet underway.found applied
    (by rw [alike.peerConnection]; exact Option.some_ne_none _)
  let answered : VoxRtcBrowserClient :=
    { t with awaitingRemoteDescription := false, pendingServerCandidates := [] }
  have alike' : Alike
      { c with awaitingRemoteDescription := false, pendingServerCandidates := [] } answered p :=
    { alike with awaitingRemoteDescription := rfl, pendingServerCandidates := rfl }
  obtain ⟨u, flushes, views⟩ := alike'.flush opened underway busy c.pendingServerCandidates
  rw [alike.pendingServerCandidates] at set
  exact ⟨u, .trans (t.leads set) flushes, views⟩

/-- `#negotiate` goes on. -/
theorem resume (alike : Alike c t p) (opened : c.isOpen = true) {e : Event}
    (underway : Underway c.negotiation (c.status == .connected) t.connectionAttempt
      t.negotiations n call) (kept : c.Keeps e) (taken : c.resume e = some c') :
    ∃ u, browser.Leads always t u ∧ c'.Views u := by
  have busy := BrowserClient.resume_busy taken
  have continues (d : Attempts.NegotiationEvent) :
      t.step (.negotiation n d {}) = t.continues n call {} d := by
    rw [VoxRtcBrowserClient.step, underway.found]
    rfl
  obtain ⟨attempt, restarts, peerConnection, next⟩ := call
  have stands : c.negotiation.Stands next := underway.stands
  have current : peerConnection = some t.connectionAttempt := underway.peerConnection
  cases e with
  | offerCreated =>
    simp only [BrowserClient.resume] at taken
    split at taken <;> cases taken
    next restart stage =>
      rw [stage] at stands
      cases stands
      exact ⟨_, t.leads (continues .offerCreated),
        alike.proceeds opened underway .settingLocal (by rw [stage]; rfl)⟩
  | localApplied =>
    simp only [BrowserClient.resume] at taken
    split at taken <;> cases taken
    next restart stage =>
      refine ⟨t, .here, .underway p opened { alike with joining := ?_ } fun _ => ?_⟩
      · exact fun connecting => (alike.joining connecting).trans (by rw [stage]; rfl)
      · rw [stage] at stands
        cases stands
        exact ⟨n, _, { underway with stands := .settingLocal }⟩
  | localSet offer =>
    simp only [BrowserClient.resume] at taken
    split at taken <;> cases taken
    next restart stage => exact alike.localSet opened underway stage offer
  | answered =>
    simp only [BrowserClient.resume] at taken
    split at taken
    next generation id stage =>
      split at taken <;> cases taken
      · rw [stage] at stands
        cases stands with
        | awaitingAnswer counted =>
          exact ⟨_, t.leads (continues .answered),
            alike.proceeds opened underway (.settingRemote counted) busy⟩
      · -- The answer is an error, or its time is up.
        exact alike.fails opened underway (underway.rejects busy fun other same => by
          cases stage.symm.trans same)
    · cases taken
  | remoteApplied =>
    simp only [BrowserClient.resume] at taken
    split at taken <;> cases taken
    next generation stage => exact alike.remoteApplied opened underway stage
  | remoteSet =>
    simp only [BrowserClient.resume] at taken
    split at taken <;> cases taken
    next generation stage => exact alike.remoteSet opened underway stage
  | candidateAdded =>
    simp only [BrowserClient.resume] at taken
    split at taken <;> cases taken
    next rest stage =>
      rw [stage] at stands
      cases stands
      obtain ⟨u, flushes, views⟩ := alike.flush opened underway busy rest
      exact ⟨u, .trans (t.leads (continues .candidateAdded)) flushes, views⟩
  | rejects =>
    simp only [BrowserClient.resume] at taken
    split at taken <;> cases taken
    exact alike.fails opened underway (underway.rejects busy kept)
  | _ => cases taken

end Alike

end Matching

namespace BrowserClient

variable {c c' : BrowserClient}

/-- A client that has been closed stays so. -/
theorem closed_preserved :
    Preserved (fun c => c.isOpen = false) (fun _ _ => True) (fun _ _ => True) := by
  constructor
  case toKept => exact kept_closed
  case signaling => exact fun _ _ closed _ => closed
  case connects => exact fun c closed opened => absurd (closed.symm.trans opened) (by decide)
  case resumes =>
    intro c c' closed resumes
    cases resumes with
    | offerCreated | localApplied | answered | remoteApplied => exact closed
    | localSet offer =>
      obtain ⟨signaling, id, sent, set, _⟩ := c.localSet_eq offer _
      rw [set]
      exact closed
    | remoteSet =>
      have closed' : c.status = .closed := by simpa [isOpen] using closed
      rw [remoteSet, if_pos closed']
      exact closed
    | @candidateAdded rest => cases rest <;> exact closed
    | failed => rfl
  case serverCandidate =>
    intro c p closed _
    unfold serverCandidate
    split <;> exact closed
  case localCandidate =>
    intro c g closed _
    have closed' : c.status = .closed := by simpa [isOpen] using closed
    unfold localCandidate
    split
    · exact closed
    · rw [sendLocalCandidate, if_pos closed']
      exact closed

theorem closed_step {e : Event} (closed : c.isOpen = false)
    (taken : negotiations.step c e = some c') : c'.isOpen = false := by
  refine closed_preserved.step ?_ closed taken
  cases e <;> simp [Supplies]

end BrowserClient

section Tasks

variable {c c' : BrowserClient} {r : BrowserClient × Bool} {t : VoxRtcBrowserClient}

/-- A call of `restartIce` has been refused, and its `catch` is going to disconnect. -/
def Refused (t : VoxRtcBrowserClient) : Prop :=
  ∃ (n : Nat) (call : Attempts.Negotiation),
    t.negotiations[n]? = some call ∧ call.restart = true ∧ call.stage = .rejected

/-- The client within a task, and whether a call of a listener has been refused. -/
structure InTask (r : BrowserClient × Bool) (t : VoxRtcBrowserClient) : Prop where
  views : r.1.Views t
  refused : r.2 = true → r.1.isOpen = true → Refused t

theorem found_append {calls : List Attempts.Negotiation} {n : Nat} {call new : Attempts.Negotiation}
    (found : calls[n]? = some call) : (calls ++ [new])[n]? = some call :=
  (List.getElem?_append_left (List.getElem?_eq_some_iff.mp found).1).trans found

namespace InTask

/-- Once the client is closed, nothing is left to compare. -/
theorem ended (closed : r.1.isOpen = false) (shut : t.CleanedUp) : InTask r t :=
  ⟨.ended closed shut, fun _ opened => by cases closed.symm.trans opened⟩

theorem restartIce (task : InTask r t) : ∃ u, browser.Leads always t u ∧
    InTask (r.1.restartIce.1, r.2 || r.1.restartIce.2) u := by
  obtain ⟨c, refused⟩ := r
  obtain ⟨⟨p, opened, alike, negotiates⟩ | ⟨closed, shut⟩, refuses⟩ := task
  · by_cases connected : c.status = .connected
    · have status : t.status = .connected := by
        rw [alike.status, connected]
        rfl
      have peer : t.peerConnection ≠ none := alike.peerConnection ▸ Option.some_ne_none _
      have signaling : t.signaling ≠ none := alike.signaling ▸ Option.some_ne_none _
      cases negotiating : c.negotiating with
      | true =>
        have same : c.restartIce = (c, true) := by
          simp [BrowserClient.restartIce, BrowserClient.negotiate, connected, negotiating]
        have taken := VoxRtcBrowserClient.step_restartIce_refused status peer signaling
          (alike.negotiating.trans negotiating)
        rw [same, Bool.or_true]
        refine ⟨_, t.leads taken, .underway p opened { alike with } fun active => ?_, fun _ _ => ?_⟩
        · obtain ⟨n, call, underway⟩ := negotiates active
          exact ⟨n, call, { underway with found := found_append underway.found }⟩
        · exact ⟨t.negotiations.length, _, List.getElem?_concat_length, rfl, rfl⟩
      | false =>
        let started : BrowserClient := { c with
          negotiating := true
          awaitingRemoteDescription := true
          bufferLocalCandidates := true
          pendingLocalCandidates := []
          negotiation := .creatingOffer true }
        have same : c.restartIce = (started, false) := by
          simp [started, BrowserClient.restartIce, BrowserClient.negotiate, connected, negotiating]
        have taken := VoxRtcBrowserClient.step_restartIce status peer signaling
          (alike.negotiating.trans negotiating)
        rw [same, Bool.or_false]
        refine ⟨_, t.leads taken, .underway p opened { alike with
          pendingLocalCandidates := rfl
          bufferLocalCandidates := rfl
          negotiating := rfl
          awaitingRemoteDescription := rfl
          joining := fun connecting => by cases connected.symm.trans connecting } fun _ => ?_,
          fun was opened => ?_⟩
        · refine ⟨t.negotiations.length, _, List.getElem?_concat_length, rfl, alike.peerConnection,
            ?_, .creatingOffer⟩
          exact (decide_eq_true connected).symm
        · obtain ⟨n, call, found, rest⟩ := refuses was opened
          exact ⟨n, call, found_append found, rest⟩
    · have same : c.restartIce = (c, false) := if_neg connected
      rw [same, Bool.or_false]
      exact ⟨t, .here, .underway p opened alike negotiates, refuses⟩
  · have still : c.restartIce.1.isOpen = false := BrowserClient.kept_closed.restartIce closed
    exact ⟨t, .here, .ended still shut⟩

theorem call (task : InTask r t) (made : Call) :
    ∃ u, browser.Leads always t u ∧ InTask (BrowserClient.call r made) u := by
  cases made with
  | restartIce => exact task.restartIce
  | disconnect =>
    obtain ⟨u, taken, shut⟩ := t.step_disconnect
    exact ⟨u, t.leads taken, .ended rfl shut⟩

/-- The listeners call one after the other. -/
theorem emit (views : c.Views t) (calls : List Call) :
    ∃ u, browser.Leads always t u ∧ InTask (c.emit calls) u := by
  have start : InTask (c, false) t := ⟨views, fun refused => by cases refused⟩
  unfold BrowserClient.emit
  generalize (c, false) = r at start
  clear views
  induction calls generalizing r t with
  | nil => exact ⟨t, .here, start⟩
  | cons made calls ih =>
    obtain ⟨u, called, task⟩ := start.call made
    obtain ⟨v, rest, ends⟩ := ih _ task
    exact ⟨v, .trans called rest, ends⟩

/-- The handler of an event changes neither what waits to be dealt with nor what was refused. -/
theorem serverCandidate (task : InTask r t) (k : Produced) :
    ∃ u, browser.Leads always t u ∧ InTask (r.1.serverCandidate k, r.2) u := by
  obtain ⟨c, refused⟩ := r
  obtain ⟨⟨p, opened, alike, negotiates⟩ | ⟨closed, shut⟩, refuses⟩ := task
  · have present : c.status ≠ .closed := by simpa [BrowserClient.isOpen] using opened
    have taken := VoxRtcBrowserClient.step_serverCandidate k.candidate alike.socket
      alike.peerConnection alike.peer
    have same : (c.status = .closed ∨ c.peerConnection.remoteDescription = 0 ∨
        c.awaitingRemoteDescription = true) ↔
        (p.remoteDescription = false ∨ t.awaitingRemoteDescription = true) := by
      rw [alike.described, alike.awaitingRemoteDescription]
      simp [present]
    refine ⟨_, t.leads taken, ?_⟩
    unfold BrowserClient.serverCandidate
    by_cases waits : p.remoteDescription = false ∨ t.awaitingRemoteDescription = true
    · rw [if_pos waits, if_pos (same.mpr waits)]
      refine ⟨.underway p opened { alike with pendingServerCandidates := ?_ } negotiates, refuses⟩
      rw [List.map_append, ← alike.pendingServerCandidates]
      rfl
    · rw [if_neg waits, if_neg (waits ∘ same.mp)]
      exact ⟨.underway p opened { alike with } negotiates, refuses⟩
  · have still : (c.serverCandidate k).isOpen = false :=
      BrowserClient.closed_preserved.serverCandidate c k closed trivial
    exact ⟨t, .here, .ended still shut⟩

theorem localCandidate (task : InTask r t) (g : Gathered) :
    ∃ u, browser.Leads always t u ∧ InTask (r.1.localCandidate g, r.2) u := by
  obtain ⟨c, refused⟩ := r
  obtain ⟨⟨p, opened, alike, negotiates⟩ | ⟨closed, shut⟩, refuses⟩ := task
  · have taken := VoxRtcBrowserClient.step_localCandidate g.candidate alike.peer alike.alive
    refine ⟨_, t.leads taken, ?_⟩
    unfold BrowserClient.localCandidate
    by_cases buffering : c.bufferLocalCandidates = true
    · rw [if_pos buffering, if_pos (alike.bufferLocalCandidates.trans buffering)]
      refine ⟨.underway p opened { alike with pendingLocalCandidates := ?_ } negotiates, refuses⟩
      rw [List.map_append, ← alike.pendingLocalCandidates]
      rfl
    · have sends : ¬t.bufferLocalCandidates = true := alike.bufferLocalCandidates ▸ buffering
      rw [if_neg buffering, if_neg sends]
      obtain ⟨signaling, sent, same, _⟩ := c.sendLocalCandidate_eq g
      rw [same]
      exact ⟨.underway p opened { alike with } negotiates, refuses⟩
  · have still : (c.localCandidate g).isOpen = false :=
      BrowserClient.closed_preserved.localCandidate c g closed trivial
    exact ⟨t, .here, .ended still shut⟩

theorem signalingEvent (task : InTask r t) (frame : Frame Binary64) (produced : Nat) :
    ∃ u, browser.Leads always t u ∧ InTask (r.1.signalingEvent frame produced, r.2) u := by
  unfold BrowserClient.signalingEvent
  split
  · split
    next candidate read => exact task.serverCandidate _
    · exact ⟨t, .here, task⟩
  · split
    next closes =>
      obtain ⟨c, refused⟩ := r
      obtain ⟨⟨p, opened, alike, negotiates⟩ | ⟨closed, shut⟩, refuses⟩ := task
      · obtain ⟨u, taken, shut⟩ := VoxRtcBrowserClient.step_sessionClosed alike.socket
          (alike.present opened)
        exact ⟨u, t.leads taken, .ended rfl shut⟩
      · exact ⟨t, .here, .ended rfl shut⟩
    · exact ⟨t, .here, task⟩

/-- A refused `restartIce` disconnects at the end of the task. -/
theorem ends (task : InTask r t) : ∃ u, browser.Leads always t u ∧ (r.1.taskEnds r.2).Views u := by
  obtain ⟨c, refused⟩ := r
  cases refused with
  | false => exact ⟨t, .here, task.views⟩
  | true =>
    cases opened : c.isOpen with
    | true =>
      obtain ⟨n, call, found, restart, rejected⟩ := task.refused rfl opened
      obtain ⟨u, fails, shut⟩ := VoxRtcBrowserClient.step_restartFails found restart rejected
      exact ⟨u, t.leads fails, .ended rfl shut⟩
    | false =>
      obtain ⟨u, taken, shut⟩ := t.step_disconnect
      exact ⟨u, t.leads taken, .ended rfl shut⟩

end InTask

/-- The media connection is up, and `connect` returns. -/
theorem Alike.connects {p : Attempts.Peer} (alike : Alike c t p)
    (connecting : c.status = .connecting) (idle : c.negotiation.isIdle = true) :
    ∃ u, browser.Leads always t u ∧ { c with status := .connected }.Views u := by
  let up := t.alter t.connectionAttempt ({ · with peer := some (p.enter .connected) })
  let joined := { up with mediaConnectionWait := none }.alter t.connectionAttempt (·.connects)
  have resolves : up.resolveMediaConnectionWait t.connectionAttempt = joined := by
    have waits : up.mediaConnectionWait = some t.connectionAttempt :=
      alike.mediaConnectionWait connecting
    unfold VoxRtcBrowserClient.resolveMediaConnectionWait
    rw [waits]
    exact if_pos ⟨rfl, rfl⟩
  have taken := VoxRtcBrowserClient.step_connected alike.peerConnection alike.peer alike.alive
  have both : joined.attempts t.connectionAttempt =
      { t.attempts t.connectionAttempt with
        peer := some (p.enter .connected), stage := .joining true true } := by
    rw [VoxRtcBrowserClient.alter_self]
    change Attempts.Attempt.connects (up.attempts t.connectionAttempt) = _
    rw [VoxRtcBrowserClient.alter_self, Attempts.Attempt.connects, alike.joining connecting, idle]
  have status : joined.status = .connecting := by
    change t.status = _
    rw [alike.status, connecting]
    rfl
  have current : joined.connectionAttempt = t.connectionAttempt := rfl
  have returns := VoxRtcBrowserClient.step_joinResolves (t := joined) (a := t.connectionAttempt)
    (by rw [both]) (by simp [VoxRtcBrowserClient.isActiveConnectionAttempt, current, status])
  rw [resolves] at taken
  refine ⟨_, .trans (t.leads taken) (joined.leads returns), ?_⟩
  have resolved : ({ joined with status := .connected }.setStage t.connectionAttempt
      .resolved).attempts t.connectionAttempt = { t.attempts t.connectionAttempt with
        peer := some (p.enter .connected), stage := .resolved } := by
    rw [VoxRtcBrowserClient.setStage, VoxRtcBrowserClient.alter_self]
    change { joined.attempts t.connectionAttempt with stage := Attempts.Stage.resolved } = _
    rw [both]
  refine .underway (p.enter .connected) rfl { alike with
    status := rfl
    socket := (congrArg Attempts.Attempt.signaling resolved).trans alike.socket
    peer := congrArg Attempts.Attempt.peer resolved
    alive := fun closed => by cases closed
    mediaConnectionWait := fun still => by cases still
    joining := fun still => by cases still } fun active => ?_
  cases idle.symm.trans active

/-- The peer connection fails, before or after `connect` has returned. -/
theorem Alike.mediaFails {p : Attempts.Peer} (alike : Alike c t p) (opened : c.isOpen = true) :
    ∃ u, browser.Leads always t u ∧ u.CleanedUp := by
  cases status : c.status with
  | closed => simp [BrowserClient.isOpen, status] at opened
  | connecting =>
    have failing := VoxRtcBrowserClient.step_failed_connecting alike.peerConnection alike.peer
      alike.alive (by rw [alike.status, status]; rfl)
    let failed := t.alter t.connectionAttempt ({ · with peer := some (p.enter .failed) })
    let rejected := { failed with mediaConnectionWait := none }.alter t.connectionAttempt
      (·.rejects .failed)
    have rejects : failed.rejectMediaConnectionWait .failed = rejected := by
      have waits : failed.mediaConnectionWait = some t.connectionAttempt :=
        alike.mediaConnectionWait status
      unfold VoxRtcBrowserClient.rejectMediaConnectionWait
      rw [waits]
    have rejecting : (rejected.attempts t.connectionAttempt).stage = .rejecting .failed := by
      rw [VoxRtcBrowserClient.alter_self]
      change ((failed.attempts t.connectionAttempt).rejects .failed).stage = _
      rw [VoxRtcBrowserClient.alter_self, Attempts.Attempt.rejects, alike.joining status]
    rw [rejects] at failing
    obtain ⟨u, ends, shut⟩ := VoxRtcBrowserClient.step_joinRejects rejecting rfl
    exact ⟨u, .trans (t.leads failing) (rejected.leads ends), shut⟩
  | connected =>
    obtain ⟨u, fails, shut⟩ := VoxRtcBrowserClient.step_failed_connected alike.peerConnection
      alike.peer alike.alive (by rw [alike.status, status]; rfl)
    exact ⟨u, t.leads fails, shut⟩

/-- What one model of the client does, the other does as well. -/
theorem BrowserClient.Views.matched {e : Event} (views : c.Views t) (kept : c.Keeps e)
    (taken : negotiations.step c e = some c') : ∃ u, browser.Leads always t u ∧ c'.Views u := by
  obtain ⟨p, opened, alike, negotiates⟩ | ⟨closed, shut⟩ := views
  · have views : c.Views t := .underway p opened alike negotiates
    change c.step e = some c' at taken
    cases e with
    | connects =>
      simp only [BrowserClient.step, Option.ite_none_right_eq_some, Option.some.injEq] at taken
      obtain ⟨⟨connecting, idle⟩, rfl⟩ := taken
      exact alike.connects connecting idle
    | mediaFails =>
      simp only [BrowserClient.step, Option.ite_none_right_eq_some, Option.some.injEq] at taken
      obtain ⟨-, rfl⟩ := taken
      obtain ⟨u, leads, shut⟩ := alike.mediaFails opened
      exact ⟨u, leads, .ended rfl shut⟩
    | restartIce =>
      cases taken
      have start : InTask (c, false) t := ⟨views, fun refused => by cases refused⟩
      obtain ⟨u, called, task⟩ := start.restartIce
      obtain ⟨v, ends, views⟩ := task.ends
      exact ⟨v, .trans called ends, views⟩
    | disconnect =>
      cases taken
      obtain ⟨u, taken, shut⟩ := t.step_disconnect
      exact ⟨u, t.leads taken, .ended rfl shut⟩
    | iceCandidate candidate calls =>
      simp only [BrowserClient.step, Option.ite_none_right_eq_some, Option.some.injEq] at taken
      obtain ⟨-, rfl⟩ := taken
      obtain ⟨u, called, task⟩ := InTask.emit views calls
      obtain ⟨v, handled, task⟩ :=
        task.localCandidate ⟨candidate, c.peerConnection.localDescription⟩
      obtain ⟨w, ends, views⟩ := task.ends
      exact ⟨w, .trans (.trans called handled) ends, views⟩
    | receive d produced calls =>
      simp only [BrowserClient.step, Option.ite_none_right_eq_some, Option.some.injEq] at taken
      obtain ⟨-, rfl⟩ := taken
      have dispatched : (c.dispatched d).Views t := .underway p opened { alike with } negotiates
      unfold BrowserClient.receive
      split
      · obtain ⟨u, called, task⟩ := InTask.emit dispatched calls
        obtain ⟨v, handled, task⟩ := task.signalingEvent d.frame produced
        obtain ⟨w, ends, views⟩ := task.ends
        exact ⟨w, .trans (.trans called handled) ends, views⟩
      · exact ⟨t, .here, dispatched⟩
    | offerTimeout id =>
      obtain ⟨signaling, fired, rfl⟩ := Option.map_eq_some_iff.mp taken
      exact ⟨t, .here, .underway p opened { alike with } negotiates⟩
    | socketCloses =>
      simp only [BrowserClient.step, Option.ite_none_right_eq_some] at taken
      obtain ⟨signaling, gone, rfl⟩ := Option.map_eq_some_iff.mp taken.2
      obtain ⟨u, taken, shut⟩ := VoxRtcBrowserClient.step_signalingCloses alike.socket
        (alike.isOpen opened)
      exact ⟨u, t.leads taken, .ended rfl shut⟩
    | _ =>
      simp only [BrowserClient.step] at taken
      obtain ⟨n, call, underway⟩ := negotiates (BrowserClient.resume_busy taken)
      exact alike.resume opened underway kept taken
  · exact ⟨t, .here, .ended (BrowserClient.closed_step closed taken) shut⟩

end Tasks

/-- The attempt of a `connect` that has got as far as its `#negotiate`. -/
theorem views_initial : ∃ t, browser.Reaches always t ∧ BrowserClient.initial.Views t := by
  refine ⟨_, System.reaches_of_run (M := browser)
    [.connect false {}, .resumes 1 (.signalingResolves true true) {}] rfl, ?_⟩
  refine .underway {} rfl ?_ fun _ => ⟨0, _, rfl, rfl, rfl, rfl, .creatingOffer⟩
  constructor <;> first | rfl | exact fun _ => rfl | exact fun closed => by cases closed

/-- Whatever the client can become in the one model, it can in the other. -/
theorem one_attempt {C : BrowserClient → Event → Prop} {c : BrowserClient}
    (kept : ∀ c e, C c e → c.Keeps e) (reached : negotiations.Reaches C c) :
    ∃ t, browser.Reaches always t ∧ c.Views t :=
  reached.simulates_from BrowserClient.Views views_initial
    fun c e _ _ before meets taken => before.matched (kept c e meets) taken

end VoxRtc.Browser
