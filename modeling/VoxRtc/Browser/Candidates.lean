import VoxRtc.Browser.Continuation

/-!
# Candidates across a restart

A server candidate reaches the peer connection under the remote description of its own
negotiation, and a local candidate reaches the gateway under the generation of the local
description it was gathered for. Both break in one window of a restart: a candidate that
belongs to the last negotiation and comes in before the new offer is kept for the flush
of the new negotiation.
-/
namespace VoxRtc.Browser

open Transition Wire VoxRtc.Gateway

/-- A candidate goes out under the negotiation of its description. -/
def Sent.Labelled (s : Sent) : Prop :=
  s.frame.command = .candidate → ∃ g, s.Carries g g.description

namespace BrowserClient

variable {c c' : BrowserClient}

section Server

/-- A server candidate at its check that is not kept for a later negotiation. -/
structure Timely (c : BrowserClient) (p : Produced) : Prop where
  current : p.generation = c.signaling.negotiationGeneration
  unbuffered : c.bufferLocalCandidates = false

/-- The remote description and the candidates kept for it, at each stage. -/
inductive Current (generation remote : Nat) (pending : List Produced) : Negotiation → Prop
  | idle : remote = generation → 0 < generation → pending = [] → Current generation remote pending
      .idle
  | creatingOffer (restart : Bool) : remote = generation → pending = [] →
      Current generation remote pending (.creatingOffer restart)
  | settingLocal (restart applied : Bool) : remote = generation → pending = [] →
      Current generation remote pending (.settingLocal restart applied)
  | awaitingAnswer (id : String) : remote < generation → (∀ p ∈ pending, p.generation = generation) →
      Current generation remote pending (.awaitingAnswer generation id)
  | settingRemote : remote < generation → (∀ p ∈ pending, p.generation = generation) →
      Current generation remote pending (.settingRemote generation false)
  | remoteSet : remote = generation → 0 < generation → (∀ p ∈ pending, p.generation = generation) →
      Current generation remote pending (.settingRemote generation true)
  | flushing (rest : List Produced) : remote = generation → 0 < generation → pending = [] →
      (∀ p ∈ rest, p.generation = generation) → Current generation remote pending (.flushing rest)

namespace Current

variable {generation remote : Nat} {pending : List Produced} {stage : Negotiation}

/-- Nothing is left of the last negotiation when the next one begins. -/
theorem begins (restart : Bool) (current : Current generation remote pending stage)
    (idle : stage.isIdle = true) : Current generation remote pending (.creatingOffer restart) := by
  cases current with
  | idle same _ empty => exact .creatingOffer restart same empty
  | _ => cases idle

/-- A candidate is kept for the answer to the offer it belongs to. -/
theorem keeps {p : Produced} (current : Current generation remote pending stage)
    (unanswered : stage.unanswered = true) (offered : stage.unoffered = false)
    (own : p.generation = generation) : Current generation remote (pending ++ [p]) stage := by
  have all (kept : ∀ q ∈ pending, q.generation = generation) :
      ∀ q ∈ pending ++ [p], q.generation = generation := by
    intro q member
    rcases List.mem_append.mp member with old | new
    · exact kept q old
    · cases List.mem_singleton.mp new
      exact own
  cases current with
  | idle | flushing => cases unanswered
  | creatingOffer | settingLocal => cases offered
  | awaitingAnswer id behind kept => exact .awaitingAnswer id behind (all kept)
  | settingRemote behind kept => exact .settingRemote behind (all kept)
  | remoteSet same positive kept => exact .remoteSet same positive (all kept)

theorem applied (current : Current generation remote pending stage)
    (answered : stage.unanswered = false) : remote = generation ∧ 0 < generation := by
  cases current with
  | idle same positive | flushing _ same positive => exact ⟨same, positive⟩
  | _ => cases answered

end Current

structure ServerInv (c : BrowserClient) : Prop where
  phased : Phased c
  current : c.isOpen = true → Current c.signaling.negotiationGeneration
    c.peerConnection.remoteDescription c.pendingServerCandidates c.negotiation
  /-- The loop goes on with the peer connection it has, also when the client is closed. -/
  flushing : ∀ rest, c.negotiation = .flushing rest →
    ∀ p ∈ rest, c.peerConnection.remoteDescription ≤ p.generation
  added : ∀ a ∈ c.peerConnection.added, a.remoteDescription ≤ a.produced.generation

theorem ServerInv.shut (closed : c.isOpen = false)
    (flushing : ∀ rest, c.negotiation = .flushing rest →
      ∀ p ∈ rest, c.peerConnection.remoteDescription ≤ p.generation)
    (added : ∀ a ∈ c.peerConnection.added, a.remoteDescription ≤ a.produced.generation) :
    ServerInv c :=
  ⟨.shut closed, fun opened => absurd opened (by simp [closed]), flushing, added⟩

private theorem added_addIceCandidate {p : Produced}
    (added : ∀ a ∈ c.peerConnection.added, a.remoteDescription ≤ a.produced.generation)
    (reached : c.peerConnection.remoteDescription ≤ p.generation) :
    ∀ a ∈ (c.addIceCandidate p).peerConnection.added,
      a.remoteDescription ≤ a.produced.generation := by
  intro a member
  rcases List.mem_append.mp member with old | new
  · exact added a old
  · cases List.mem_singleton.mp new
    exact reached

private theorem serverInv_negotiate (restart : Bool) (inv : ServerInv c)
    (started : c.negotiate restart = some c') : ServerInv c' := by
  have phased := phased_preserved.negotiate c restart c' inv.phased started
  simp only [negotiate, Option.ite_none_left_eq_some, Option.some.injEq, not_or] at started
  obtain ⟨⟨still, resting⟩, rfl⟩ := started
  have opened : c.isOpen = true := by simpa [isOpen] using still
  have idle : c.negotiation.isIdle = true := by
    simpa [resting] using inv.phased.negotiating opened
  exact ⟨phased, fun _ => (inv.current opened).begins restart idle, (fun _ absurd => by cases absurd), inv.added⟩

private theorem serverInv_serverCandidate {p : Produced} (inv : ServerInv c) (timely : Timely c p) :
    ServerInv (c.serverCandidate p) := by
  have phased := phased_preserved.serverCandidate c p inv.phased trivial
  by_cases opened : c.isOpen = true
  · have current := inv.current opened
    have offered := inv.phased.buffering opened
    rw [timely.unbuffered] at offered
    have awaiting := inv.phased.awaiting opened
    unfold serverCandidate at phased ⊢
    split at phased
    case isTrue kept =>
      rw [if_pos kept]
      refine ⟨phased, fun _ => current.keeps ?_ offered.symm timely.current, inv.flushing, inv.added⟩
      -- An open client that is not waiting for an answer has a remote description.
      by_contra answered
      have answered : c.negotiation.unanswered = false := by simpa using answered
      obtain ⟨same, positive⟩ := current.applied answered
      rcases kept with closed | none | waits
      · simp [isOpen, closed] at opened
      · omega
      · simp [waits, answered] at awaiting
    case isFalse direct =>
      rw [if_neg direct]
      simp only [not_or, Bool.not_eq_true] at direct
      have answered : c.negotiation.unanswered = false := awaiting.symm.trans direct.2.2
      refine ⟨phased, fun _ => current, inv.flushing, added_addIceCandidate inv.added ?_⟩
      rw [timely.current, (current.applied answered).1]
  · have closed : c.status = .closed := by simpa [isOpen] using opened
    rw [serverCandidate, if_pos (.inl closed)]
    exact .shut (Bool.eq_false_iff.mpr opened) inv.flushing inv.added

/-- The loop over candidates that are not behind the remote description. -/
private theorem serverInv_flush (rest : List Produced) (phased : Phased (c.flush rest))
    (applied : c.isOpen = true → c.peerConnection.remoteDescription =
      c.signaling.negotiationGeneration ∧ 0 < c.signaling.negotiationGeneration ∧
      c.pendingServerCandidates = [] ∧ ∀ p ∈ rest, p.generation = c.signaling.negotiationGeneration)
    (reached : ∀ p ∈ rest, c.peerConnection.remoteDescription ≤ p.generation)
    (added : ∀ a ∈ c.peerConnection.added, a.remoteDescription ≤ a.produced.generation) :
    ServerInv (c.flush rest) := by
  cases rest with
  | nil =>
    refine ⟨phased, fun opened => ?_, nofun, added⟩
    obtain ⟨same, positive, empty, _⟩ := applied opened
    exact .idle same positive empty
  | cons p rest =>
    refine ⟨phased, fun opened => ?_, fun later found q member => ?_, ?_⟩
    · obtain ⟨same, positive, empty, own⟩ := applied opened
      exact .flushing rest same positive empty fun q member => own q (.tail _ member)
    · cases found
      exact reached q (.tail _ member)
    · exact added_addIceCandidate added (reached p (.head _))

private theorem serverInv_resumes (inv : ServerInv c) (resumes : c.Resumes c') : ServerInv c' := by
  have phased := phased_preserved.resumes c c' inv.phased resumes
  cases resumes with
  | offerCreated stage =>
    refine ⟨phased, fun opened => ?_, (fun _ absurd => by cases absurd), inv.added⟩
    have current := inv.current opened
    rw [stage] at current
    cases current with
    | creatingOffer _ same empty => exact .settingLocal _ _ same empty
  | localApplied stage =>
    refine ⟨phased, fun opened => ?_, (fun _ absurd => by cases absurd), inv.added⟩
    have current := inv.current opened
    rw [stage] at current
    cases current with
    | settingLocal _ _ same empty => exact .settingLocal _ _ same empty
  -- The description is set and the offer is sent, which raises the generation.
  | localSet offer stage =>
    obtain ⟨signaling, id, sent, set, raised, _⟩ := c.localSet_eq offer _
    rw [set] at phased ⊢
    refine ⟨phased, fun opened => ?_, (fun _ absurd => by cases absurd), inv.added⟩
    have current := inv.current opened
    rw [stage] at current
    cases current with
    | settingLocal _ _ same empty =>
      rw [raised]
      exact .awaitingAnswer id (Nat.lt_succ_of_le same.le) (by simp [empty])
  | answered stage =>
    refine ⟨phased, fun opened => ?_, (fun _ absurd => by cases absurd), inv.added⟩
    have current := inv.current opened
    rw [stage] at current
    generalize c.signaling.negotiationGeneration = generation at current
    cases current with
    | awaitingAnswer _ behind kept => exact .settingRemote behind kept
  | remoteApplied stage =>
    refine ⟨phased, fun opened => ?_, (fun _ absurd => by cases absurd), inv.added⟩
    have current := inv.current opened
    rw [stage] at current
    generalize c.signaling.negotiationGeneration = generation at current
    cases current with
    | settingRemote behind kept => exact .remoteSet rfl (by omega) kept
  | remoteSet stage =>
    unfold remoteSet at phased ⊢
    split at phased
    -- The client was closed while the answer was being set.
    case isTrue closed =>
      rw [if_pos closed]
      exact .shut (by simp [finishes, isOpen, closed]) (fun _ absurd => by cases absurd) inv.added
    -- The answer is set: what was kept belongs to its generation, and is flushed.
    case isFalse still =>
      rw [if_neg still]
      have opened : c.isOpen = true := by simpa [isOpen] using still
      have current := inv.current opened
      rw [stage] at current
      have kept : c.peerConnection.remoteDescription = c.signaling.negotiationGeneration ∧
          0 < c.signaling.negotiationGeneration ∧
          ∀ p ∈ c.pendingServerCandidates, p.generation = c.signaling.negotiationGeneration := by
        generalize c.signaling.negotiationGeneration = generation at current
        cases current with
        | remoteSet same positive kept => exact ⟨same, positive, kept⟩
      obtain ⟨same, positive, own⟩ := kept
      refine serverInv_flush _ phased (fun _ => ⟨same, positive, rfl, own⟩) (fun p member => ?_)
        inv.added
      exact same.trans_le (own p member).ge
  | candidateAdded stage =>
    refine serverInv_flush _ phased (fun opened => ?_) (inv.flushing _ stage) inv.added
    have current := inv.current opened
    rw [stage] at current
    cases current with
    | flushing _ same positive empty own => exact ⟨same, positive, empty, own⟩
  | failed => exact .shut rfl (fun _ absurd => by cases absurd) inv.added

theorem server_preserved : Preserved ServerInv Timely (fun _ _ => True) := by
  constructor
  case toKept =>
    exact ⟨fun c reason inv => .shut rfl inv.flushing inv.added,
      fun c restart c' inv started => serverInv_negotiate restart inv started⟩
  case signaling =>
    intro c signaling inv same
    refine ⟨phased_preserved.signaling c signaling inv.phased same, fun opened => ?_, inv.flushing,
      inv.added⟩
    rw [same]
    exact inv.current opened
  case connects =>
    exact fun c inv opened => ⟨phased_preserved.connects c inv.phased opened,
      fun _ => inv.current opened, inv.flushing, inv.added⟩
  case resumes => exact fun c c' inv resumes => serverInv_resumes inv resumes
  case serverCandidate => exact fun c p inv timely => serverInv_serverCandidate inv timely
  case localCandidate =>
    intro c g inv _
    have phased := phased_preserved.localCandidate c g inv.phased trivial
    unfold localCandidate at phased ⊢
    split at phased
    case isTrue buffered =>
      rw [if_pos buffered]
      exact ⟨phased, inv.current, inv.flushing, inv.added⟩
    case isFalse unbuffered =>
      rw [if_neg unbuffered]
      obtain ⟨signaling, sent, same, raised, _⟩ := c.sendLocalCandidate_eq g
      rw [same] at phased ⊢
      refine ⟨phased, fun opened => ?_, inv.flushing, inv.added⟩
      rw [raised]
      exact inv.current opened

theorem serverInv_initial : ServerInv .initial :=
  ⟨phased_initial, fun _ => .creatingOffer false rfl rfl, nofun, nofun⟩

end Server

section Local

/-- A local candidate at its check that is not kept for a later description. -/
structure Fitting (c : BrowserClient) (g : Gathered) : Prop where
  emitted : g.description = c.peerConnection.localDescription
  kept : c.bufferLocalCandidates = true → g.description = c.signaling.negotiationGeneration + 1

structure LocalInv (c : BrowserClient) : Prop where
  phased : Phased c
  described : c.isOpen = true → c.peerConnection.localDescription =
    c.signaling.negotiationGeneration + c.negotiation.described.toNat
  kept : c.negotiation.unoffered = true →
    ∀ g ∈ c.pendingLocalCandidates, g.description = c.signaling.negotiationGeneration + 1
  labelled : ∀ s ∈ c.sent, s.Labelled

private theorem labelled_append {sent : List Sent} (labelled : ∀ s ∈ c.sent, s.Labelled)
    (new : ∀ s ∈ sent, s.Labelled) : ∀ s ∈ c.sent ++ sent, s.Labelled := by
  intro s member
  rcases List.mem_append.mp member with old | added
  · exact labelled s old
  · exact new s added

private theorem localInv_cleanup (reason : String) (labelled : ∀ s ∈ c.sent, s.Labelled) :
    LocalInv (c.cleanup reason) := by
  refine ⟨.shut rfl, nofun, fun _ => nofun, labelled_append labelled fun s member => ?_⟩
  obtain ⟨f, sent, rfl⟩ := List.mem_map.mp member
  intro candidate
  have close := SignalingClient.close_command (Option.mem_toList.mp sent)
  exact absurd (close.symm.trans candidate) (by decide)

private theorem localInv_negotiate (restart : Bool) (inv : LocalInv c)
    (started : c.negotiate restart = some c') : LocalInv c' := by
  have phased := phased_preserved.negotiate c restart c' inv.phased started
  simp only [negotiate, Option.ite_none_left_eq_some, Option.some.injEq, not_or] at started
  obtain ⟨⟨still, resting⟩, rfl⟩ := started
  have opened : c.isOpen = true := by simpa [isOpen] using still
  have idle : c.negotiation.isIdle = true := by
    simpa [resting] using inv.phased.negotiating opened
  refine ⟨phased, fun _ => ?_, fun _ _ absurd => (by cases absurd), inv.labelled⟩
  have described := inv.described opened
  rwa [Negotiation.described_of_idle idle] at described

private theorem localInv_localCandidate {g : Gathered} (inv : LocalInv c) (fitting : Fitting c g) :
    LocalInv (c.localCandidate g) := by
  have phased := phased_preserved.localCandidate c g inv.phased trivial
  unfold localCandidate at phased ⊢
  split at phased
  case isTrue buffered =>
    rw [if_pos buffered]
    refine ⟨phased, inv.described, fun unoffered g' member => ?_, inv.labelled⟩
    rcases List.mem_append.mp member with old | new
    · exact inv.kept unoffered g' old
    · cases List.mem_singleton.mp new
      exact fitting.kept buffered
  case isFalse unbuffered =>
    rw [if_neg unbuffered]
    by_cases still : c.status = .closed
    · rw [sendLocalCandidate, if_pos still]
      exact inv
    · have opened : c.isOpen = true := by simpa [isOpen] using still
      have offered : c.negotiation.unoffered = false :=
        (inv.phased.buffering opened).symm.trans (by simpa using unbuffered)
      have described := inv.described opened
      rw [Negotiation.described_of_offered offered] at described
      obtain ⟨signaling, sent, same, raised, carries⟩ := c.sendLocalCandidate_eq g
      rw [same] at phased ⊢
      refine ⟨phased, fun opened => ?_, fun unoffered => ?_,
        labelled_append inv.labelled fun s member _ => ⟨g, ?_⟩⟩
      · rw [raised]
        exact inv.described opened
      · rw [raised]
        exact inv.kept unoffered
      · rw [fitting.emitted, described]
        exact carries s member

private theorem localInv_flush (rest : List Produced) (phased : Phased (c.flush rest))
    (described : c.isOpen = true →
      c.peerConnection.localDescription = c.signaling.negotiationGeneration)
    (labelled : ∀ s ∈ c.sent, s.Labelled) : LocalInv (c.flush rest) := by
  cases rest with
  | nil => exact ⟨phased, described, nofun, labelled⟩
  | cons p rest => exact ⟨phased, described, nofun, labelled⟩

private theorem localInv_resumes (inv : LocalInv c) (resumes : c.Resumes c') : LocalInv c' := by
  have phased := phased_preserved.resumes c c' inv.phased resumes
  cases resumes with
  | offerCreated stage =>
    refine ⟨phased, fun opened => ?_, fun _ => inv.kept (by rw [stage]; rfl), inv.labelled⟩
    have described := inv.described opened
    rwa [stage] at described
  | localApplied stage =>
    exact ⟨phased, fun _ => rfl, fun _ => inv.kept (by rw [stage]; rfl), inv.labelled⟩
  -- The candidates that waited for the description are sent with its generation.
  | localSet offer stage =>
    obtain ⟨signaling, id, sent, set, raised, carries⟩ := c.localSet_eq offer _
    rw [set] at phased ⊢
    refine ⟨phased, fun opened => ?_, nofun, labelled_append inv.labelled fun s member => ?_⟩
    · have described := inv.described opened
      rw [stage] at described
      exact described.trans raised.symm
    · rcases carries s member with offered | ⟨g, kept, carried⟩
      · exact fun candidate => absurd (offered.symm.trans candidate) (by decide)
      · have own := inv.kept (by rw [stage]; rfl) g kept
        exact fun _ => ⟨g, own ▸ carried⟩
  | answered stage | remoteApplied stage =>
    refine ⟨phased, fun opened => ?_, nofun, inv.labelled⟩
    have described := inv.described opened
    rwa [stage] at described
  | remoteSet stage =>
    have described (opened : c.isOpen = true) : c.peerConnection.localDescription =
        c.signaling.negotiationGeneration := by
      have described := inv.described opened
      rwa [stage] at described
    unfold remoteSet at phased ⊢
    split at phased
    -- A client that is closed sends nothing more.
    case isTrue closed =>
      rw [if_pos closed]
      exact ⟨phased, described, nofun, inv.labelled⟩
    case isFalse still =>
      rw [if_neg still]
      exact localInv_flush _ phased described inv.labelled
  | candidateAdded stage =>
    refine localInv_flush _ phased (fun opened => ?_) inv.labelled
    have described := inv.described opened
    rwa [stage] at described
  | failed => exact localInv_cleanup _ inv.labelled

theorem local_preserved : Preserved LocalInv (fun _ _ => True) Fitting := by
  constructor
  case toKept =>
    exact ⟨fun c reason inv => localInv_cleanup reason inv.labelled,
      fun c restart c' inv started => localInv_negotiate restart inv started⟩
  case signaling =>
    intro c signaling inv same
    refine ⟨phased_preserved.signaling c signaling inv.phased same, fun opened => ?_,
      fun unoffered => ?_, inv.labelled⟩
    · rw [same]
      exact inv.described opened
    · rw [same]
      exact inv.kept unoffered
  case connects =>
    exact fun c inv opened => ⟨phased_preserved.connects c inv.phased opened,
      fun _ => inv.described opened, inv.kept, inv.labelled⟩
  case resumes => exact fun c c' inv resumes => localInv_resumes inv resumes
  case serverCandidate =>
    intro c p inv _
    have phased := phased_preserved.serverCandidate c p inv.phased trivial
    unfold serverCandidate at phased ⊢
    split at phased
    case isTrue kept =>
      rw [if_pos kept]
      exact ⟨phased, inv.described, inv.kept, inv.labelled⟩
    case isFalse direct =>
      rw [if_neg direct]
      exact ⟨phased, inv.described, inv.kept, inv.labelled⟩
  case localCandidate => exact fun c g inv fitting => localInv_localCandidate inv fitting

theorem localInv_initial : LocalInv .initial :=
  ⟨phased_initial, fun _ => rfl, fun _ => nofun, nofun⟩

end Local

/-- A server candidate that passes the filter finds no restart before its offer. -/
def OfferMade (c : BrowserClient) : Event → Prop
  | .receive d _ calls => d.frame.type = "rtc.ice_candidate" → c.signaling.passesOn d.frame = true →
    c.signaling.negotiationGeneration < 2 ^ 53 ∧
    ((c.dispatched d).emit calls).1.bufferLocalCandidates = false
  | _ => True

/-- A local candidate that is kept was gathered for the description to be offered. -/
def DescriptionSet (c : BrowserClient) : Event → Prop
  | .iceCandidate _ calls => (c.emit calls).1.bufferLocalCandidates = true →
    c.peerConnection.localDescription = c.signaling.negotiationGeneration + 1
  | _ => True

instance (c : BrowserClient) (e : Event) : Decidable (c.OfferMade e) :=
  match e with
  | .receive _ _ _ => inferInstanceAs (Decidable (_ → _ → _ ∧ _))
  | .connects | .mediaFails | .restartIce | .disconnect | .offerCreated | .localApplied
  | .localSet _ | .answered | .remoteApplied | .remoteSet | .candidateAdded | .rejects
  | .iceCandidate _ _ | .offerTimeout _ | .socketCloses => inferInstanceAs (Decidable True)

instance (c : BrowserClient) (e : Event) : Decidable (c.DescriptionSet e) :=
  match e with
  | .iceCandidate _ _ => inferInstanceAs (Decidable (_ → _))
  | .connects | .mediaFails | .restartIce | .disconnect | .offerCreated | .localApplied
  | .localSet _ | .answered | .remoteApplied | .remoteSet | .candidateAdded | .rejects
  | .receive _ _ _ | .offerTimeout _ | .socketCloses => inferInstanceAs (Decidable True)

theorem OfferMade.supplies {e : Event} (made : c.OfferMade e) :
    Supplies Timely (fun _ _ => True) c e := by
  cases e with
  | receive d produced calls =>
    intro type _ carried passed candidate
    obtain ⟨bounded, unbuffered⟩ := made type passed
    have fresh : c.signaling.stale d.frame = false := by
      simp only [SignalingClient.passesOn, Bool.and_eq_true, Bool.not_eq_true'] at passed
      exact passed.1
    refine ⟨?_, unbuffered⟩
    rw [((c.dispatched d).emit_frame calls).2]
    exact (SignalingClient.generation_of_fresh bounded type carried fresh).trans
      (SignalingClient.dispatch_generation d).symm
  | iceCandidate => exact fun _ => trivial
  | _ => trivial

theorem DescriptionSet.supplies {e : Event} (set : c.DescriptionSet e) :
    Supplies (fun _ _ => True) Fitting c e := by
  cases e with
  | receive => exact fun _ _ _ _ _ => trivial
  | iceCandidate candidate calls =>
    obtain ⟨peer, generation⟩ := c.emit_frame calls
    refine fun _ => ⟨?_, fun buffered => ?_⟩
    · rw [peer]
    · rw [generation]
      exact set buffered
  | _ => trivial

end BrowserClient

/-- No candidate is added after the remote description of a later negotiation. -/
def ServerCandidatesCurrent (C : BrowserClient → Event → Prop) : Prop :=
  ∀ c, negotiations.Reaches C c →
    ∀ a ∈ c.peerConnection.added, a.remoteDescription ≤ a.produced.generation

/-- Every candidate is sent under the negotiation whose local description was in force when
it was emitted. -/
def LocalCandidatesLabelled (C : BrowserClient → Event → Prop) : Prop :=
  ∀ c, negotiations.Reaches C c → ∀ s ∈ c.sent, s.frame.command = .candidate →
    ∃ g, s.gathered = some g ∧
      s.frame.data.get? "generation" = some (.num (Binary64.ofCount g.description))

theorem server_candidates_current {C : BrowserClient → Event → Prop}
    (made : ∀ c e, C c e → c.OfferMade e) : ServerCandidatesCurrent C := by
  intro c reached
  have inv := System.Reaches.preserves (M := negotiations) BrowserClient.serverInv_initial
    (fun _ _ _ inv meets taken =>
      BrowserClient.server_preserved.step (made _ _ meets).supplies inv taken) reached
  exact inv.added

/-- The answer of Vox to the offer with a number. -/
def answerTo (n : Nat) : Event :=
  .receive ⟨⟨some (frameId "offer" n), "rtc.answer",
    [("answer", .obj [("type", .str "answer"), ("sdp", .str "v=0")])]⟩,
    .reply (frameId "offer" n)⟩ 0 []

/-- The end of the candidates of a generation. -/
def candidateFor (generation : Nat) (calls : List Call) : Event :=
  .receive ⟨⟨none, "rtc.ice_candidate",
    [("candidate", .null), ("generation", .num (.ofCount generation))]⟩, .none⟩ generation calls

def offering : List Event := [.offerCreated, .localApplied, .localSet .null]

def answering (n : Nat) : List Event := [answerTo n, .answered, .remoteApplied, .remoteSet]

def connecting : List Event := offering ++ answering 1 ++ [.connects]

/-- Candidates come in while the answer is awaited, and after it. -/
def candidatesRun : List Event :=
  offering ++ [candidateFor 1 []] ++ answering 1 ++
    [.candidateAdded, .connects, candidateFor 1 [], .restartIce] ++ offering ++
    [candidateFor 1 [], candidateFor 2 []] ++ answering 2

theorem server_candidates_current_run : ∃ c, negotiations.run .initial candidatesRun = some c ∧
    c.peerConnection.added = [⟨⟨.null, 1⟩, 1⟩, ⟨⟨.null, 1⟩, 1⟩, ⟨⟨.null, 2⟩, 2⟩] ∧
    ∀ a ∈ c.peerConnection.added, a.remoteDescription ≤ a.produced.generation := by
  refine ⟨_, rfl, rfl, ?_⟩
  have reached := System.leads_of_run (M := negotiations) (C := BrowserClient.OfferMade)
    (s := negotiations.init) candidatesRun (by decide) rfl
  exact server_candidates_current (fun _ _ => id) _ reached

/-- A candidate comes in while the offer of a restart is being created. -/
def crossingRun : List Event :=
  connecting ++ [.restartIce, candidateFor 1 []] ++ offering ++ answering 2

/-- A handler restarts when it is told of the candidate. -/
def restartingHandlerRun : List Event :=
  connecting ++ [candidateFor 1 [.restartIce]] ++ offering ++ answering 2

theorem server_candidate_crosses :
    (∃ c, negotiations.run .initial crossingRun = some c ∧
      c.peerConnection.added = [⟨⟨.null, 1⟩, 2⟩]) ∧
    (∃ c, negotiations.run .initial restartingHandlerRun = some c ∧
      c.peerConnection.added = [⟨⟨.null, 1⟩, 2⟩]) ∧
    ¬ServerCandidatesCurrent always := by
  refine ⟨⟨_, rfl, rfl⟩, ⟨_, rfl, rfl⟩, fun current => ?_⟩
  have reached := System.reaches_of_run (M := negotiations) crossingRun rfl
  exact absurd (current _ reached _ (.head _)) (by decide)

theorem local_candidates_labelled {C : BrowserClient → Event → Prop}
    (set : ∀ c e, C c e → c.DescriptionSet e) : LocalCandidatesLabelled C := by
  intro c reached
  have inv := System.Reaches.preserves (M := negotiations) BrowserClient.localInv_initial
    (fun _ _ _ inv meets taken =>
      BrowserClient.local_preserved.step (set _ _ meets).supplies inv taken) reached
  exact inv.labelled

/-- Candidates are emitted before the offer goes out, after it, and after a restart's
description is set. -/
def gatheringRun : List Event :=
  [.offerCreated, .localApplied, .iceCandidate .null [], .localSet .null,
    .iceCandidate .null []] ++ answering 1 ++
    [.connects, .restartIce, .offerCreated, .localApplied, .iceCandidate .null [], .localSet .null]

theorem local_candidates_labelled_run : ∃ c, negotiations.run .initial gatheringRun = some c ∧
    c.sent.map (fun s => s.gathered.map Gathered.description) =
      [none, some 1, some 1, none, some 2] ∧
    ∀ s ∈ c.sent, s.frame.command = .candidate → ∃ g, s.gathered = some g ∧
      s.frame.data.get? "generation" = some (.num (Binary64.ofCount g.description)) := by
  refine ⟨_, rfl, rfl, ?_⟩
  have reached := System.leads_of_run (M := negotiations) (C := BrowserClient.DescriptionSet)
    (s := negotiations.init) gatheringRun (by decide) rfl
  exact local_candidates_labelled (fun _ _ => id) _ reached

/-- A candidate of the first description is emitted while the offer of a restart is being
created. -/
def relabellingRun : List Event :=
  connecting ++ [.restartIce, .iceCandidate .null []] ++ offering

theorem local_candidate_relabelled :
    (∃ c s, negotiations.run .initial relabellingRun = some c ∧ s ∈ c.sent ∧
      s.gathered = some ⟨.null, 1⟩ ∧
      s.frame.data.get? "generation" = some (.num (Binary64.ofCount 2))) ∧
    ¬LocalCandidatesLabelled always := by
  have reached := System.reaches_of_run (M := negotiations) relabellingRun rfl
  refine ⟨⟨_, _, rfl, .tail _ (.tail _ (.head _)), rfl, rfl⟩, fun labelled => ?_⟩
  obtain ⟨g, gathered, generation⟩ := labelled _ reached _ (.tail _ (.tail _ (.head _))) rfl
  cases gathered
  have same : some (Json.num (Binary64.ofCount 2)) = some (.num (.ofCount 1)) := generation
  exact absurd (Json.num.inj (Option.some.inj same)) (by decide)

end VoxRtc.Browser
