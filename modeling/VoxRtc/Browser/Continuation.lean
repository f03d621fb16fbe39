import VoxRtc.Browser.Negotiation

/-!
# Steps of the browser client

What each step can do, and the rule by which an invariant of the client is proved: it is
kept by what the handlers may call, by each continuation of `#negotiate`, and by the two
checks that buffer a candidate.
-/
namespace VoxRtc.Browser

open Transition Wire VoxRtc.Gateway

namespace SignalingClient

variable {c : SignalingClient}

@[simp] theorem rejectPending_generation :
    c.rejectPending.negotiationGeneration = c.negotiationGeneration := rfl

@[simp] theorem settle_generation (id : String) (settlement : Settlement) :
    (c.settle id settlement).negotiationGeneration = c.negotiationGeneration := rfl

@[simp] theorem exchangeOffer_generation (offer : Json Binary64) (restart : Bool) :
    (c.exchangeOffer offer restart).1.negotiationGeneration = c.negotiationGeneration + 1 := by
  unfold exchangeOffer
  split <;> rfl

@[simp] theorem sendCandidate_generation (candidate : Json Binary64) :
    (c.sendCandidate candidate).1.negotiationGeneration = c.negotiationGeneration := by
  unfold sendCandidate
  split <;> rfl

@[simp] theorem close_generation (reason : String) :
    (c.close reason).1.negotiationGeneration = c.negotiationGeneration := by
  unfold close
  split
  · rfl
  · split <;> rfl

@[simp] theorem dispatch_generation (d : Delivered) :
    (c.dispatch d).negotiationGeneration = c.negotiationGeneration := by
  unfold dispatch
  split
  · split <;> rfl
  · rfl

theorem timeout_generation {c' : SignalingClient} {id : String} (fired : c.timeout id = some c') :
    c'.negotiationGeneration = c.negotiationGeneration := by
  simp only [timeout, Option.ite_none_right_eq_some, Option.some.injEq] at fired
  obtain ⟨_, rfl⟩ := fired
  rfl

theorem socketClosed_generation {c' : SignalingClient} (gone : c.socketClosed = some c') :
    c'.negotiationGeneration = c.negotiationGeneration := by
  simp only [socketClosed, Option.ite_none_left_eq_some, Option.some.injEq] at gone
  obtain ⟨_, rfl⟩ := gone
  rfl

/-- A candidate sent carries the generation of the offer that was sent last. -/
theorem sendCandidate_frame {candidate : Json Binary64} {f : Outgoing}
    (sent : (c.sendCandidate candidate).2 = some f) :
    f.data.get? "generation" = some (.num (.ofCount c.negotiationGeneration)) := by
  unfold sendCandidate at sent
  split at sent
  · cases sent
  · simp only [Option.ite_none_right_eq_some, Option.some.injEq] at sent
    obtain ⟨_, rfl⟩ := sent
    rfl

theorem exchangeOffer_command {offer : Json Binary64} {restart : Bool} {f : Outgoing}
    (sent : (c.exchangeOffer offer restart).2 = some f) : f.command = .offer := by
  unfold exchangeOffer at sent
  split at sent
  · cases sent
    rfl
  · cases sent

theorem close_command {reason : String} {f : Outgoing} (sent : (c.close reason).2 = some f) :
    f.command = .close := by
  unfold close at sent
  split at sent
  · cases sent
  · split at sent
    · cases sent
      rfl
    · cases sent

theorem carries_unique {frame : Frame Binary64} {m n : Nat} (bounded : n < 2 ^ 53)
    (first : carries frame m = true) (second : carries frame n = true) : m = n := by
  unfold carries at first second
  cases found : frame.data.get? "generation" with
  | none =>
    rw [found] at first
    cases first
  | some value =>
    rw [found] at first second
    cases value with
    | num generation => exact Binary64.ofCount_unique bounded first second
    | _ => cases first

/-- A candidate that is not dropped was produced for the last offer. -/
theorem generation_of_fresh {frame : Frame Binary64} {n : Nat}
    (bounded : c.negotiationGeneration < 2 ^ 53) (type : frame.type = "rtc.ice_candidate")
    (carried : carries frame n = true) (fresh : c.stale frame = false) :
    n = c.negotiationGeneration := by
  simp only [stale, type, beq_self_eq_true, Bool.true_and, Bool.not_eq_false'] at fresh
  exact carries_unique bounded carried fresh

end SignalingClient

/-- The frame of the candidate, under the generation. -/
def Sent.Carries (s : Sent) (g : Gathered) (generation : Nat) : Prop :=
  s.gathered = some g ∧ s.frame.data.get? "generation" = some (.num (.ofCount generation))

namespace BrowserClient

variable {c c' : BrowserClient}

/-- What `#negotiate` can do next. -/
inductive Resumes (c : BrowserClient) : BrowserClient → Prop
  | offerCreated {restart : Bool} : c.negotiation = .creatingOffer restart →
      Resumes c { c with negotiation := .settingLocal restart false }
  | localApplied {restart : Bool} : c.negotiation = .settingLocal restart false →
      Resumes c { c with
        negotiation := .settingLocal restart true
        peerConnection := { c.peerConnection with
          localDescription := c.signaling.negotiationGeneration + 1 } }
  | localSet {restart : Bool} (offer : Json Binary64) : c.negotiation = .settingLocal restart true →
      Resumes c (c.localSet offer restart)
  | answered {generation : Nat} {id : String} : c.negotiation = .awaitingAnswer generation id →
      Resumes c { c with negotiation := .settingRemote generation false }
  | remoteApplied {generation : Nat} : c.negotiation = .settingRemote generation false →
      Resumes c { c with
        negotiation := .settingRemote generation true
        peerConnection := { c.peerConnection with remoteDescription := generation } }
  | remoteSet {generation : Nat} : c.negotiation = .settingRemote generation true →
      Resumes c c.remoteSet
  | candidateAdded {rest : List Produced} : c.negotiation = .flushing rest →
      Resumes c (c.flush rest)
  | failed : Resumes c (c.fails c.failReason)

theorem resume_resumes {e : Event} (taken : c.resume e = some c') : c.Resumes c' := by
  cases stage : c.negotiation with
  | idle => cases e <;> simp [resume, stage] at taken
  | creatingOffer restart =>
    cases e <;> simp only [resume, stage, reduceCtorEq, Option.some.injEq] at taken
    · exact taken ▸ .offerCreated stage
    · exact taken ▸ .failed
  | settingLocal restart applied =>
    cases applied <;> cases e <;>
      simp only [resume, stage, reduceCtorEq, Option.some.injEq] at taken
    · exact taken ▸ .localApplied stage
    · exact taken ▸ .failed
    · exact taken ▸ .localSet _ stage
    · exact taken ▸ .failed
  | awaitingAnswer generation id =>
    cases e <;> simp only [resume, stage, reduceCtorEq] at taken
    split at taken
    · cases taken
      exact .answered stage
    · cases taken
      exact .failed
    · cases taken
  | settingRemote generation applied =>
    cases applied <;> cases e <;>
      simp only [resume, stage, reduceCtorEq, Option.some.injEq] at taken
    · exact taken ▸ .remoteApplied stage
    · exact taken ▸ .failed
    · exact taken ▸ .remoteSet stage
    · exact taken ▸ .failed
  | flushing rest =>
    cases e <;> simp only [resume, stage, reduceCtorEq, Option.some.injEq] at taken
    · exact taken ▸ .candidateAdded stage
    · exact taken ▸ .failed

section Sending

theorem sendLocalCandidate_eq (g : Gathered) : ∃ signaling sent,
    c.sendLocalCandidate g = { c with signaling := signaling, sent := c.sent ++ sent } ∧
    signaling.negotiationGeneration = c.signaling.negotiationGeneration ∧
    ∀ s ∈ sent, s.Carries g c.signaling.negotiationGeneration := by
  unfold sendLocalCandidate
  split
  · exact ⟨c.signaling, [], by simp, rfl, nofun⟩
  · refine ⟨_, _, rfl, SignalingClient.sendCandidate_generation _, fun s member => ?_⟩
    obtain ⟨f, sent, rfl⟩ := List.mem_map.mp member
    exact ⟨rfl, SignalingClient.sendCandidate_frame (Option.mem_toList.mp sent)⟩

private theorem sendAll_eq (pending : List Gathered) (c : BrowserClient) : ∃ signaling sent,
    pending.foldl sendLocalCandidate c = { c with signaling := signaling, sent := c.sent ++ sent } ∧
    signaling.negotiationGeneration = c.signaling.negotiationGeneration ∧
    ∀ s ∈ sent, ∃ g ∈ pending, s.Carries g c.signaling.negotiationGeneration := by
  induction pending generalizing c with
  | nil => exact ⟨c.signaling, [], by simp, rfl, nofun⟩
  | cons g pending ih =>
    obtain ⟨signaling, first, sent, same, carries⟩ := c.sendLocalCandidate_eq g
    rw [List.foldl_cons, sent]
    obtain ⟨signaling', rest, sent', same', carries'⟩ :=
      ih { c with signaling := signaling, sent := c.sent ++ first }
    refine ⟨signaling', first ++ rest, ?_, same'.trans same, fun s member => ?_⟩
    · rw [sent', List.append_assoc]
    · rcases List.mem_append.mp member with early | late
      · exact ⟨g, .head _, carries s early⟩
      · obtain ⟨g', member', carried⟩ := carries' s late
        exact ⟨g', .tail _ member', same ▸ carried⟩

/-- The offer goes out, and after it the candidates kept for it. -/
theorem localSet_eq (offer : Json Binary64) (restart : Bool) : ∃ signaling id sent,
    c.localSet offer restart = { c with
      bufferLocalCandidates := false
      pendingLocalCandidates := []
      negotiation := .awaitingAnswer (c.signaling.negotiationGeneration + 1) id
      signaling := signaling
      sent := c.sent ++ sent } ∧
    signaling.negotiationGeneration = c.signaling.negotiationGeneration + 1 ∧
    ∀ s ∈ sent, s.frame.command = .offer ∨
      ∃ g ∈ c.pendingLocalCandidates, s.Carries g (c.signaling.negotiationGeneration + 1) := by
  have raised := SignalingClient.exchangeOffer_generation (c := c.signaling) offer restart
  have command := @SignalingClient.exchangeOffer_command c.signaling offer restart
  simp only [localSet]
  generalize c.signaling.exchangeOffer offer restart = exchange at raised command ⊢
  obtain ⟨signaling, sent, flushed, same, carries⟩ := sendAll_eq c.pendingLocalCandidates
    { c.send exchange none with
      bufferLocalCandidates := false
      pendingLocalCandidates := []
      negotiation := .awaitingAnswer exchange.1.negotiationGeneration
        (frameId Command.offer.stem exchange.1.nextId) }
  refine ⟨signaling, frameId Command.offer.stem exchange.1.nextId,
    exchange.2.toList.map (⟨·, none⟩) ++ sent, ?_, same.trans raised, fun s member => ?_⟩
  · rw [← raised, ← List.append_assoc]
    exact flushed
  · rcases List.mem_append.mp member with offered | kept
    · obtain ⟨f, sent, rfl⟩ := List.mem_map.mp offered
      exact .inl (command (Option.mem_toList.mp sent))
    · obtain ⟨g, member', carried⟩ := carries s kept
      exact .inr ⟨g, member', raised ▸ carried⟩

end Sending

/-- What the calls of a handler keep. -/
structure Kept (P : BrowserClient → Prop) : Prop where
  cleanup : ∀ c reason, P c → P (c.cleanup reason)
  negotiate : ∀ c restart c', P c → c.negotiate restart = some c' → P c'

namespace Kept

variable {P : BrowserClient → Prop} (kept : Kept P)

include kept

theorem restartIce (holds : P c) : P c.restartIce.1 := by
  unfold BrowserClient.restartIce
  split
  · cases started : c.negotiate true with
    | some c' => exact kept.negotiate c true c' holds started
    | none => exact holds
  · exact holds

theorem emit (calls : List Call) (holds : P c) : P (c.emit calls).1 := by
  unfold BrowserClient.emit
  generalize false = refused
  induction calls generalizing c refused with
  | nil => exact holds
  | cons made calls ih =>
    rw [List.foldl_cons]
    cases made with
    | restartIce => exact ih (kept.restartIce holds) _
    | disconnect => exact ih (kept.cleanup c _ holds) _

theorem taskEnds (refused : Bool) (holds : P c) : P (c.taskEnds refused) := by
  cases refused
  · exact holds
  · exact kept.cleanup c _ holds

end Kept

/-- Handlers raise no generation and apply no description. -/
theorem emit_frame (c : BrowserClient) (calls : List Call) :
    (c.emit calls).1.peerConnection = c.peerConnection ∧
    (c.emit calls).1.signaling.negotiationGeneration = c.signaling.negotiationGeneration := by
  refine Kept.emit (P := fun b => b.peerConnection = c.peerConnection ∧
    b.signaling.negotiationGeneration = c.signaling.negotiationGeneration)
    ⟨fun b reason same => ?_, fun b restart b' same started => ?_⟩ calls ⟨rfl, rfl⟩
  · exact ⟨same.1, (SignalingClient.close_generation reason).trans same.2⟩
  · simp only [negotiate, Option.ite_none_left_eq_some, Option.some.injEq] at started
    obtain ⟨_, rfl⟩ := started
    exact same

/-- An invariant of the client, given what is known of a candidate at its check. -/
structure Preserved (P : BrowserClient → Prop) (server : BrowserClient → Produced → Prop)
    (gathered : BrowserClient → Gathered → Prop) : Prop extends Kept P where
  signaling : ∀ c signaling, P c →
    signaling.negotiationGeneration = c.signaling.negotiationGeneration →
    P { c with signaling := signaling }
  connects : ∀ c, P c → c.isOpen = true → P { c with status := .connected }
  resumes : ∀ c c', P c → c.Resumes c' → P c'
  serverCandidate : ∀ c p, P c → server c p → P (c.serverCandidate p)
  localCandidate : ∀ c g, P c → gathered c g → P (c.localCandidate g)

/-- What is known of a candidate at its check, from the event that brings it. -/
def Supplies (server : BrowserClient → Produced → Prop)
    (gathered : BrowserClient → Gathered → Prop) (c : BrowserClient) : Event → Prop
  | .iceCandidate candidate calls => 0 < c.peerConnection.localDescription →
    gathered (c.emit calls).1 ⟨candidate, c.peerConnection.localDescription⟩
  | .receive d produced calls => d.frame.type = "rtc.ice_candidate" → 0 < produced →
    SignalingClient.carries d.frame produced = true → c.signaling.passesOn d.frame = true →
    ∀ candidate, server ((c.dispatched d).emit calls).1 ⟨candidate, produced⟩
  | _ => True

theorem Preserved.step {P : BrowserClient → Prop} {server : BrowserClient → Produced → Prop}
    {gathered : BrowserClient → Gathered → Prop} (kept : Preserved P server gathered) {e : Event}
    (supplied : Supplies server gathered c e) (holds : P c)
    (taken : negotiations.step c e = some c') : P c' := by
  change c.step e = some c' at taken
  cases e with
  | connects =>
    simp only [BrowserClient.step, Option.ite_none_right_eq_some, Option.some.injEq] at taken
    obtain ⟨⟨connecting, _⟩, rfl⟩ := taken
    exact kept.connects c holds (by simp [isOpen, connecting])
  | mediaFails =>
    simp only [BrowserClient.step, Option.ite_none_right_eq_some, Option.some.injEq] at taken
    obtain ⟨_, rfl⟩ := taken
    exact kept.cleanup c _ holds
  | restartIce =>
    cases taken
    exact kept.taskEnds _ (kept.restartIce holds)
  | disconnect =>
    cases taken
    exact kept.cleanup c _ holds
  | iceCandidate candidate calls =>
    simp only [BrowserClient.step, Option.ite_none_right_eq_some, Option.some.injEq] at taken
    obtain ⟨⟨_, described⟩, rfl⟩ := taken
    exact kept.taskEnds _ (kept.localCandidate _ _ (kept.emit calls holds) (supplied described))
  | receive d produced calls =>
    simp only [BrowserClient.step, Option.ite_none_right_eq_some, Option.some.injEq] at taken
    obtain ⟨⟨_, origin⟩, rfl⟩ := taken
    have holds := kept.signaling c (c.signaling.dispatch d) holds
      (SignalingClient.dispatch_generation d)
    unfold receive
    split
    -- A frame that is not for this client.
    case isFalse => exact holds
    -- The listeners are called, then the event is handled, and its task ends.
    case isTrue passed =>
      have holds := kept.emit calls holds
      refine kept.taskEnds _ ?_
      unfold signalingEvent
      split
      case isTrue type =>
        split
        · exact kept.serverCandidate _ _ holds
            (supplied type (origin type).1 (origin type).2 passed _)
        · exact holds
      case isFalse =>
        split
        · exact kept.cleanup _ _ holds
        · exact holds
  | offerTimeout id =>
    obtain ⟨signaling, fired, rfl⟩ := Option.map_eq_some_iff.mp taken
    exact kept.signaling c signaling holds (SignalingClient.timeout_generation fired)
  | socketCloses =>
    simp only [BrowserClient.step, Option.ite_none_right_eq_some] at taken
    obtain ⟨signaling, gone, rfl⟩ := Option.map_eq_some_iff.mp taken.2
    exact kept.cleanup _ _
      (kept.signaling c signaling holds (SignalingClient.socketClosed_generation gone))
  | _ =>
    simp only [BrowserClient.step] at taken
    exact kept.resumes c c' holds (resume_resumes taken)

/-- What the flags of an open client say about its negotiation. -/
structure Phased (c : BrowserClient) : Prop where
  negotiating : c.isOpen = true → c.negotiating = !c.negotiation.isIdle
  awaiting : c.isOpen = true → c.awaitingRemoteDescription = c.negotiation.unanswered
  buffering : c.isOpen = true → c.bufferLocalCandidates = c.negotiation.unoffered

theorem Phased.shut (shut : c.isOpen = false) : Phased c := by
  constructor <;> exact fun opened => absurd opened (by simp [shut])

theorem Phased.finishes : Phased c.finishes := ⟨fun _ => rfl, fun _ => rfl, fun _ => rfl⟩

/-- The flags after a step that leaves them, to a stage of the same phase. -/
theorem Phased.move (phased : Phased c) (opened : c'.isOpen = c.isOpen)
    (flags : c'.negotiating = c.negotiating ∧
      c'.awaitingRemoteDescription = c.awaitingRemoteDescription ∧
      c'.bufferLocalCandidates = c.bufferLocalCandidates)
    (stage : c'.negotiation.isIdle = c.negotiation.isIdle ∧
      c'.negotiation.unanswered = c.negotiation.unanswered ∧
      c'.negotiation.unoffered = c.negotiation.unoffered) : Phased c' := by
  obtain ⟨negotiating, awaiting, buffering⟩ := phased
  constructor
  · rw [opened, flags.1, stage.1]
    exact negotiating
  · rw [opened, flags.2.1, stage.2.1]
    exact awaiting
  · rw [opened, flags.2.2, stage.2.2]
    exact buffering

private theorem phased_flush (rest : List Produced) (negotiating : c.negotiating = true)
    (awaiting : c.awaitingRemoteDescription = false) (buffering : c.bufferLocalCandidates = false) :
    Phased (c.flush rest) := by
  cases rest with
  | nil => exact .finishes
  | cons p rest => exact ⟨fun _ => negotiating, fun _ => awaiting, fun _ => buffering⟩

private theorem phased_resumes (phased : Phased c) (resumes : c.Resumes c') : Phased c' := by
  cases resumes with
  | offerCreated stage | localApplied stage | answered stage | remoteApplied stage =>
    exact phased.move rfl ⟨rfl, rfl, rfl⟩ (by rw [stage]; exact ⟨rfl, rfl, rfl⟩)
  | localSet offer stage =>
    obtain ⟨signaling, id, sent, set, _⟩ := c.localSet_eq offer _
    rw [set]
    refine ⟨fun opened => ?_, fun opened => ?_, fun _ => rfl⟩
    · exact (phased.negotiating opened).trans (by rw [stage]; rfl)
    · exact (phased.awaiting opened).trans (by rw [stage]; rfl)
  | remoteSet stage =>
    unfold remoteSet
    split
    case isTrue => exact .finishes
    case isFalse opened =>
      have opened : c.isOpen = true := by simpa [isOpen] using opened
      apply phased_flush _ _ rfl
      · exact (phased.buffering opened).trans (by rw [stage]; rfl)
      · exact (phased.negotiating opened).trans (by rw [stage]; rfl)
  | @candidateAdded rest stage =>
    by_cases opened : c.isOpen = true
    · apply phased_flush
      · exact (phased.negotiating opened).trans (by rw [stage]; rfl)
      · exact (phased.awaiting opened).trans (by rw [stage]; rfl)
      · exact (phased.buffering opened).trans (by rw [stage]; rfl)
    · apply Phased.shut
      cases rest <;> exact Bool.eq_false_iff.mpr opened
  | failed => exact .shut rfl

theorem phased_preserved : Preserved Phased (fun _ _ => True) (fun _ _ => True) := by
  constructor
  case toKept =>
    refine ⟨fun c reason _ => .shut rfl, fun c restart c' _ started => ?_⟩
    simp only [negotiate, Option.ite_none_left_eq_some, Option.some.injEq] at started
    obtain ⟨_, rfl⟩ := started
    exact ⟨fun _ => rfl, fun _ => rfl, fun _ => rfl⟩
  case signaling => exact fun c signaling phased _ => phased.move rfl ⟨rfl, rfl, rfl⟩ ⟨rfl, rfl, rfl⟩
  case connects =>
    exact fun c phased opened => phased.move opened.symm ⟨rfl, rfl, rfl⟩ ⟨rfl, rfl, rfl⟩
  case resumes => exact fun c c' phased resumes => phased_resumes phased resumes
  case serverCandidate =>
    intro c p phased _
    unfold serverCandidate
    split <;> exact phased.move rfl ⟨rfl, rfl, rfl⟩ ⟨rfl, rfl, rfl⟩
  case localCandidate =>
    intro c g phased _
    unfold localCandidate
    split
    · exact phased.move rfl ⟨rfl, rfl, rfl⟩ ⟨rfl, rfl, rfl⟩
    · obtain ⟨signaling, sent, same, _⟩ := c.sendLocalCandidate_eq g
      rw [same]
      exact phased.move rfl ⟨rfl, rfl, rfl⟩ ⟨rfl, rfl, rfl⟩

theorem phased_initial : Phased .initial := ⟨fun _ => rfl, fun _ => rfl, fun _ => rfl⟩

end BrowserClient

end VoxRtc.Browser
