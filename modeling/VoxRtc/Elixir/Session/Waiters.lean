import VoxRtc.Elixir.Session.Generation
import VoxRtc.Transition.Fairness

/-!
# Those who wait for an acknowledgement

The callers of `start_response_and_wait` wait at a desk, under the id of their generation.
Each of them is answered once, and for its own reason, if no start is accepted while the
message of an old timer for its id is still in the mailbox.
-/
namespace VoxRtc.Elixir

open Wire Responses Transition Correlation

namespace Session

variable {lib : Libraries} {s t u : Session}

/-- Where the callers of `start_response_and_wait` wait. -/
def desk (s : Session) : Desk String Reply where
  waiting := s.responseWaiters
  set := s.timers
  rung := s.mailbox
  visits := s.accepted
  replies := s.replies
  calls := s.calls
  references := s.references

theorem desk_rejectResponseWaiters (message : String) :
    (s.rejectResponseWaiters message).desk =
      s.desk.answerAll fun id => .rejected (sessionFailed message id) := rfl

theorem desk_replyResponseWaiter {id : String} (proper : id ≠ "") (reply : Reply) :
    (s.replyResponseWaiter (some id) reply).desk = s.desk.answer id reply := by
  simp only [replyResponseWaiter, if_neg proper, Desk.answer]
  have looked : s.desk.waiting.lookup id = s.responseWaiters.get id := rfl
  -- Both sides look the same waiter up, and agree on what becomes of it.
  cases found : s.responseWaiters.get id with
  | none => simp only [looked, found]
  | some waiter => simp only [looked, found]; rfl

theorem desk_handleTimeout (timer : Timer) :
    (s.handleTimeout timer).desk =
      s.desk.expire timer (.rejected (startAckTimeout timer.key)) := by
  simp only [handleTimeout, Desk.expire]
  have looked : s.desk.waiting.lookup timer.key = s.responseWaiters.get timer.key := rfl
  cases found : s.responseWaiters.get timer.key with
  | none => simp only [looked, found]; rfl
  | some waiter => simp only [looked, found]; rfl

/-- The desk is in order, and nobody who waits to be attached waits there as well. -/
structure Sound (s : Session) : Prop where
  good : s.desk.Good
  punctual : s.desk.Punctual
  attach : ∀ caller ∈ s.attachWaiters, caller < s.calls ∧ ∀ a ∈ s.accepted, a.caller ≠ caller
  stopped : s.running = false → s.responseWaiters = ∅

/-- A part of a handler that lets nobody in, and answers for the reason `P` only. -/
structure Stage (P : Accepted → Reply → Prop) (s t : Session) : Prop where
  sound : t.Sound
  gives : Desk.Gives P s.desk t.desk
  timers : ∀ timer ∈ t.timers, timer ∈ s.timers
  calls : s.calls ≤ t.calls

variable {P : Accepted → Reply → Prop}

theorem Stage.and (first : Stage P s t) (second : t.Sound → Stage P t u) : Stage P s u where
  sound := (second first.sound).sound
  gives := first.gives.trans (second first.sound).gives
  timers timer member := first.timers timer ((second first.sound).timers timer member)
  calls := Nat.le_trans first.calls (second first.sound).calls

/-- What is not at the desk may change. -/
theorem Stage.frame (stage : Stage P s t) (desk : u.desk = t.desk)
    (attach : u.attachWaiters ⊆ t.attachWaiters)
    (stopped : u.running = false → u.responseWaiters = ∅) : Stage P s u where
  sound := by
    refine ⟨by rw [desk]; exact stage.sound.good, by rw [desk]; exact stage.sound.punctual, ?_,
      stopped⟩
    -- The visits and the calls are fields of the desk, which is the same.
    rw [show u.accepted = t.accepted from congrArg Desk.visits desk,
      show u.calls = t.calls from congrArg Desk.calls desk]
    exact fun caller member => stage.sound.attach caller (attach member)
  gives := by
    rw [desk]
    exact stage.gives
  timers := by
    rw [show u.timers = t.timers from congrArg Desk.set desk]
    exact stage.timers
  calls := by
    rw [show u.calls = t.calls from congrArg Desk.calls desk]
    exact stage.calls

/-- A caller who does not wait for an acknowledgement. -/
structure Outside (s : Session) (caller : Nat) : Prop where
  past : caller < s.calls
  apart : ∀ a ∈ s.accepted, a.caller ≠ caller

theorem Stage.outside {caller : Nat} (stage : Stage P s t) (outside : s.Outside caller) :
    t.Outside caller where
  past := Nat.lt_of_lt_of_le outside.past stage.calls
  apart := by
    rw [show t.accepted = s.accepted from stage.gives.1]
    exact outside.apart

section Parts

variable (sound : s.Sound)

include sound

theorem stage_refl : Stage P s s := ⟨sound, .refl, fun _ member => member, Nat.le_refl _⟩

/-- What is not at the desk may change, while the desk keeps its order. -/
theorem stage_of_desk {d : Desk String Reply} (desk : t.desk = d) (good : d.Good)
    (punctual : d.Punctual) (gives : Desk.Gives P s.desk d) (timers : ∀ timer ∈ d.set, timer ∈ s.timers)
    (calls : d.calls = s.calls) (attach : t.attachWaiters ⊆ s.attachWaiters)
    (stopped : t.running = false → t.responseWaiters = ∅) : Stage P s t := by
  subst desk
  refine ⟨⟨good, punctual, ?_, stopped⟩, gives, timers, Nat.le_of_eq calls.symm⟩
  rw [show t.accepted = s.accepted from gives.1, show t.calls = s.calls from calls]
  exact fun caller member => sound.attach caller (attach member)

theorem stage_reply {caller : Nat} {reply : Reply} (outside : s.Outside caller) :
    Stage P s (s.reply caller reply) := by
  -- The caller has not entered the desk, so that no visit is answered here.
  have others : ∀ a ∈ s.desk.visits, ∀ r ∈ [(caller, reply)], r.1 ≠ a.caller := by
    intro a visit r member
    rw [List.mem_singleton.mp member]
    exact (outside.apart a visit).symm
  refine ⟨⟨sound.good.tell ?_ others, sound.punctual.tell, sound.attach, sound.stopped⟩,
    .tell others, fun _ member => member, Nat.le_refl _⟩
  intro r member
  rw [List.mem_singleton.mp member]
  exact outside.past

theorem stage_replyAttachWaiters (reply : Reply) : Stage P s (s.replyAttachWaiters reply) := by
  -- Who waits to be attached does not wait at the desk.
  have others : ∀ a ∈ s.desk.visits, ∀ r ∈ s.attachWaiters.map fun caller => (caller, reply),
      r.1 ≠ a.caller := by
    intro a visit r member
    obtain ⟨caller, waits, rfl⟩ := List.mem_map.mp member
    exact ((sound.attach caller waits).2 a visit).symm
  refine ⟨⟨sound.good.tell ?_ others, sound.punctual.tell, sound.attach, sound.stopped⟩,
    .tell others, fun _ member => member, Nat.le_refl _⟩
  intro r member
  obtain ⟨caller, waits, rfl⟩ := List.mem_map.mp member
  exact (sound.attach caller waits).1

theorem stage_emitClosedOnce (reason : String) : Stage P s (s.emitClosedOnce reason) := by
  unfold emitClosedOnce
  split
  · exact stage_refl sound
  · exact (stage_refl sound).frame rfl (List.Subset.refl _) sound.stopped

theorem running_of_waits {id : String} {waiter : Waiter}
    (found : s.responseWaiters.get id = some waiter) : s.running = true := by
  cases running : s.running with
  | true => rfl
  | false =>
    rw [sound.stopped running] at found
    cases found

/-- The waiter of a generation is answered for its own reason. -/
theorem stage_replyResponseWaiter {generationId : Option String} {reply : Reply}
    (reason : ∀ a : Accepted, generationId = some a.key → P a reply) :
    Stage P s (s.replyResponseWaiter generationId reply) := by
  cases generationId with
  | none => exact stage_refl sound
  | some id =>
    by_cases empty : id = ""
    -- Nobody is looked up under the empty id.
    · rw [replyResponseWaiter, if_pos empty]
      exact stage_refl sound
    · have still : (s.replyResponseWaiter (some id) reply).attachWaiters = s.attachWaiters ∧
          ((s.replyResponseWaiter (some id) reply).running = false →
            (s.replyResponseWaiter (some id) reply).responseWaiters = ∅) := by
        simp only [replyResponseWaiter, if_neg empty]
        split
        · exact ⟨rfl, sound.stopped⟩
        next waiter found =>
          refine ⟨rfl, fun stopped => ?_⟩
          -- A process that has ended has no waiters left.
          exact absurd ((running_of_waits sound found).symm.trans stopped) (by decide)
      refine stage_of_desk sound (desk_replyResponseWaiter empty reply) sound.good.answer
        sound.punctual.answer ((Desk.Gives.answer sound.good).mono ?_) Desk.answer_frame.2
        Desk.answer_frame.1 (by rw [still.1]; exact List.Subset.refl _) still.2
      rintro a r ⟨rfl, rfl⟩
      exact reason a rfl

theorem stage_handleTimeout {timer : Timer} (waits : timer ∈ s.mailbox)
    (reason : ∀ a : Accepted, a.alarm = timer → P a (.rejected (startAckTimeout a.key))) :
    Stage P s (s.handleTimeout timer) := by
  have still : (s.handleTimeout timer).attachWaiters = s.attachWaiters ∧
      ((s.handleTimeout timer).running = false →
        (s.handleTimeout timer).responseWaiters = ∅) := by
    simp only [handleTimeout]
    split
    · exact ⟨rfl, sound.stopped⟩
    next waiter found =>
      refine ⟨rfl, fun stopped => ?_⟩
      exact absurd ((running_of_waits sound found).symm.trans stopped) (by decide)
  refine stage_of_desk sound (desk_handleTimeout timer) sound.good.expire
    (sound.punctual.expire waits) ((Desk.Gives.expire sound.good sound.punctual waits).mono ?_)
    (by rw [Desk.expire_frame.2]; exact fun _ member => member) Desk.expire_frame.1
    (by rw [still.1]; exact List.Subset.refl _) still.2
  rintro a r ⟨rfl, rfl⟩
  exact reason a rfl

theorem stage_fires {timer : Timer} (set : timer ∈ s.timers) :
    Stage P s { s with timers := s.timers.erase timer, mailbox := s.mailbox ++ [timer] } :=
  stage_of_desk sound rfl (sound.good.ring timer) (sound.punctual.ring sound.good set)
    ⟨rfl, [], by simp [desk], by simp⟩ (fun _ member => List.mem_of_mem_erase member)
    rfl (List.Subset.refl _) sound.stopped

variable (failed : ∀ text a, P a (.rejected (sessionFailed text a.key)))

include failed

theorem stage_rejectResponseWaiters (message : String) :
    Stage P s (s.rejectResponseWaiters message) := by
  refine stage_of_desk sound (desk_rejectResponseWaiters message) (sound.good.answerAll _)
    (sound.punctual.answerAll _) ((Desk.Gives.answerAll sound.good _).mono ?_) ?_ rfl
    (List.Subset.refl _) fun _ => rfl
  · rintro a r rfl
    exact failed message a
  · exact fun _ member => List.mem_of_mem_filter member

theorem stage_terminate : Stage P s s.terminate :=
  (stage_rejectResponseWaiters sound failed _).frame rfl (List.Subset.refl _) fun _ => rfl

theorem stage_ends (reason : Term) : Stage P s (s.ends reason) := by
  have cleared : Stage P s { s with attachWaiters := [] } :=
    (stage_refl sound).frame rfl (List.nil_subset _) sound.stopped
  unfold ends
  split
  · exact cleared.and fun sound => stage_terminate sound failed
  · exact cleared.frame rfl (List.Subset.refl _) sound.stopped

theorem stage_closeTransport (reason : String) : Stage P s (s.closeTransport reason) := by
  unfold closeTransport
  -- The stages come in the order of the handler, the last one first.
  refine Stage.and ?_ fun sound => stage_emitClosedOnce sound reason
  exact (stage_rejectResponseWaiters sound failed _).frame rfl (List.Subset.refl _) fun _ => rfl

theorem stage_stopForStreamError (reason : Term) :
    Stage P s (s.stopForStreamError lib reason) := by
  unfold stopForStreamError
  refine Stage.and ?_ fun sound => stage_ends sound failed reason
  refine Stage.and ?_ fun sound => stage_replyAttachWaiters sound _
  refine Stage.and ?_ fun sound => stage_emitClosedOnce sound _
  exact (stage_rejectResponseWaiters sound failed _).frame rfl (List.Subset.refl _) fun _ => rfl

theorem stage_handleStreamDone : Stage P s s.handleStreamDone := by
  unfold handleStreamDone
  refine Stage.and ?_ fun sound => stage_ends sound failed _
  refine Stage.and ?_ fun sound => stage_replyAttachWaiters sound _
  refine Stage.and ?_ fun sound => stage_emitClosedOnce sound _
  exact stage_rejectResponseWaiters sound failed _

end Parts

theorem closing_emitClosedOnce (reason : String) :
    (s.emitClosedOnce reason).closing = s.closing := by
  unfold emitClosedOnce
  split <;> rfl

theorem closing_ends (reason : Term) : (s.ends reason).closing = s.closing := by
  unfold ends
  split <;> rfl

theorem closing_stopForStreamError (reason : Term) :
    (s.stopForStreamError lib reason).closing = true := by
  unfold stopForStreamError
  rw [closing_ends]
  exact closing_emitClosedOnce _

theorem stage_handleDown {monitor : Nat} (sound : s.Sound)
    (failed : (s.handleDown monitor).running = false →
      ∀ text a, P a (.rejected (sessionFailed text a.key))) : Stage P s (s.handleDown monitor) := by
  simp only [handleDown] at failed ⊢
  split
  next owner =>
    rw [if_pos owner] at failed
    have failed := failed rfl
    -- The owner is gone, and the session goes with it.
    exact (stage_closeTransport sound failed _).and fun sound => stage_terminate sound failed
  · split
    · exact stage_refl sound
    -- A subscriber is gone, which the desk does not see.
    · exact (stage_refl sound).frame rfl (List.Subset.refl _) sound.stopped

theorem stage_handleReceiverExit {reason : Term} (sound : s.Sound)
    (failed : (s.handleReceiverExit lib reason).closing = true →
      ∀ text a, P a (.rejected (sessionFailed text a.key))) :
    Stage P s (s.handleReceiverExit lib reason) := by
  revert failed
  unfold handleReceiverExit
  split
  · exact fun _ => stage_refl sound
  · exact fun failed => stage_stopForStreamError sound (failed (closing_stopForStreamError _)) _

theorem stage_resolveResponseWaiter {event : Event} (sound : s.Sound)
    (resolved : s.resolveResponseWaiter lib event = some t)
    (created : ∀ payload output, event = .responseCreated payload →
      ∀ a : Accepted, payload.generationId = a.key →
        P a (.ack ⟨Protocol.emptyToNil payload.responseId, payload.generationId, output⟩))
    (rejected : ∀ error, event = .error error →
      ∀ a : Accepted, error.generationId = some a.key → P a (.rejected error)) : Stage P s t := by
  cases event with
  | responseCreated payload =>
    obtain ⟨output, -, rfl⟩ := Option.map_eq_some_iff.mp resolved
    exact stage_replyResponseWaiter sound fun a same =>
      created payload output rfl a (Option.some.inj same)
  | error error =>
    cases resolved
    exact stage_replyResponseWaiter sound (rejected error rfl)
  | _ =>
    cases resolved
    exact stage_refl sound

theorem stage_trackResponseCompletion {event : Event} (stage : Stage P s t) :
    Stage P s ((t.trackResponseCompletion event).broadcast event) := by
  unfold trackResponseCompletion
  split
  · exact stage.frame rfl (List.Subset.refl _) stage.sound.stopped
  · exact stage.frame rfl (List.Subset.refl _) stage.sound.stopped

theorem stage_handleEvent {event : Event} (sound : s.Sound)
    (handled : s.handleEvent lib event = some t)
    (created : ∀ payload output, event = .responseCreated payload →
      ∀ a : Accepted, payload.generationId = a.key →
        P a (.ack ⟨Protocol.emptyToNil payload.responseId, payload.generationId, output⟩))
    (rejected : ∀ error, event = .error error →
      ∀ a : Accepted, error.generationId = some a.key → P a (.rejected error))
    (failed : t.closing = true → ∀ text a, P a (.rejected (sessionFailed text a.key))) :
    Stage P s t := by
  have logged : Stage P s { s with log := s.log ++ [.event event] } :=
    (stage_refl sound).frame rfl (List.Subset.refl _) sound.stopped
  cases event with
  | sessionAttached payload =>
    simp only [handleEvent] at handled
    split at handled
    · cases handled
      -- The id is that of the session, and those who wait to be attached are told.
      have replied := logged.and fun sound => stage_replyAttachWaiters sound .ok
      exact replied.frame rfl (List.nil_subset _) replied.sound.stopped
    · cases handled
      -- Another id counts as an error of the stream.
      exact logged.and fun sound =>
        stage_stopForStreamError sound (failed (closing_stopForStreamError _)) _
  | closed reason =>
    cases handled
    have failed := failed (closing_ends _)
    refine logged.and fun sound => ?_
    refine Stage.and ?_ fun sound => stage_ends sound failed _
    refine Stage.and ?_ fun sound => stage_replyAttachWaiters sound _
    exact (stage_rejectResponseWaiters sound failed _).frame rfl (List.Subset.refl _) fun _ => rfl
  | _ =>
    simp only [handleEvent, Option.map_eq_some_iff] at handled
    obtain ⟨resolved, found, rfl⟩ := handled
    exact stage_trackResponseCompletion (logged.and fun sound =>
      stage_resolveResponseWaiter sound found created rejected)

/-- What a message may be the reason for: an event that bears the generation of a caller,
its own timer, or the end of the session. -/
inductive Due (lib : Libraries) (t : Session) (a : Accepted) : Message → Reply → Prop where
  | created {message payload output}
      (decoded : Protocol.decodeEvent lib message = some (.ok (.responseCreated payload)))
      (bears : payload.generationId = a.key) :
      Due lib t a (.stream message)
        (.ack ⟨Protocol.emptyToNil payload.responseId, payload.generationId, output⟩)
  | rejected {message error}
      (decoded : Protocol.decodeEvent lib message = some (.ok (.error error)))
      (bears : error.generationId = some a.key) :
      Due lib t a (.stream message) (.rejected error)
  | timeout : Due lib t a (.timeout a.alarm) (.rejected (startAckTimeout a.key))
  | ended {message text}
      (gone : t.closing = true ∨ t.running = false ∨ message = .streamDone) :
      Due lib t a message (.rejected (sessionFailed text a.key))

theorem stage_handleStream {message : Vox.RtcControlServerMessage} (sound : s.Sound)
    (handled : s.handleStream lib message = some t) :
    Stage (fun a => Due lib t a (.stream message)) s t := by
  obtain ⟨decoded, found, rest⟩ := Option.bind_eq_some_iff.mp handled
  cases decoded with
  | ok event =>
    refine stage_handleEvent sound rest ?_ ?_ ?_
    · rintro payload output rfl a bears
      exact .created found bears
    · rintro error rfl a bears
      exact .rejected found bears
    · exact fun closing text a => .ended (.inl closing)
  | error reason =>
    cases rest
    exact (stage_refl sound).frame rfl (List.Subset.refl _) sound.stopped

theorem stage_addSubscriber (sound : s.Sound) (subscriber : Nat) :
    Stage P s (s.addSubscriber subscriber) := by
  unfold addSubscriber
  split
  · exact stage_refl sound
  -- The monitor takes a reference, of which the desk keeps count.
  · exact stage_of_desk sound rfl sound.good.refer sound.punctual.refer
      ⟨rfl, [], by simp [desk], by simp⟩ (fun _ member => member) rfl
      (List.Subset.refl _) sound.stopped

theorem stage_removeSubscriber (sound : s.Sound) (subscriber : Nat) :
    Stage P s (s.removeSubscriber subscriber) := by
  unfold removeSubscriber
  split
  · exact stage_refl sound
  · exact (stage_refl sound).frame rfl (List.Subset.refl _) sound.stopped

theorem stage_call (sound : s.Sound) : Stage P s { s with calls := s.calls + 1 } where
  sound := by
    refine ⟨sound.good.call, sound.punctual.call, fun caller member => ?_, sound.stopped⟩
    exact ⟨Nat.lt_succ_of_lt (sound.attach caller member).1, (sound.attach caller member).2⟩
  gives := ⟨rfl, [], by simp [desk], by simp⟩
  timers _ member := member
  calls := Nat.le_succ _

/-- A caller who has just called. -/
structure New (s : Session) (caller : Nat) : Prop extends s.Outside caller where
  unanswered : ∀ r ∈ s.replies, r.1 ≠ caller
  absent : caller ∉ s.attachWaiters

theorem new_call (sound : s.Sound) : New { s with calls := s.calls + 1 } s.calls where
  past := Nat.lt_succ_self _
  -- Everyone at the desk has called before, so that the number is new to it.
  apart a member := Nat.ne_of_lt (sound.good.early a member).1
  unanswered r member := Nat.ne_of_lt (sound.good.replied r member)
  absent member := Nat.lt_irrefl _ (sound.attach _ member).1

section Calls

variable {caller : Nat} (sound : s.Sound) (outside : s.Outside caller)

include sound outside

theorem stage_responseCommand (command : Command) (options : Options) (sent : Bool)
    (generated : GeneratedId) :
    Stage P s (s.responseCommand caller command options sent generated) := by
  simp only [responseCommand]
  split
  · exact stage_reply sound outside
  · split
    · obtain ⟨slot, frame⟩ := s.buildResponseCommand_frame command options generated
      rw [frame]
      refine Stage.and ?_ fun sound => stage_reply sound ⟨outside.past, outside.apart⟩
      exact (stage_refl sound).frame rfl (List.Subset.refl _) sound.stopped
    · exact stage_reply sound outside

theorem stage_awaitAttached : Stage P s (s.awaitAttached caller) := by
  have recorded : Stage P s { s with attachers := s.attachers ++ [caller] } :=
    (stage_refl sound).frame rfl (List.Subset.refl _) sound.stopped
  simp only [awaitAttached]
  split
  · exact recorded.and fun sound => stage_reply sound (recorded.outside outside)
  · split
    · refine ⟨⟨sound.good, sound.punctual, fun other member => ?_, sound.stopped⟩, .refl,
        fun _ member => member, Nat.le_refl _⟩
      -- The caller waits to be attached from now on, and is not at the desk.
      rcases List.mem_cons.mp member with rfl | old
      · exact ⟨outside.past, outside.apart⟩
      · exact sound.attach other old
    · exact recorded.and fun sound => stage_reply sound (recorded.outside outside)

theorem stage_close {reason : String}
    (failed : ∀ text a, P a (.rejected (sessionFailed text a.key))) :
    Stage P s (((s.closeTransport reason).reply caller .ok).terminate) := by
  have closed := stage_closeTransport sound failed reason
  refine Stage.and ?_ fun sound => stage_terminate sound failed
  exact closed.and fun sound => stage_reply sound (closed.outside outside)

end Calls

/-- A caller is let in at the desk. -/
def Entered (caller : Nat) (s t : Session) : Prop :=
  t.Sound ∧ ∃ id, t.desk = s.desk.enter id caller

/-- A start that meets no message of an old timer for its id, where it is accepted. -/
def Fresh (s : Session) (options : Options) (sent : Bool) (generated : GeneratedId) : Prop :=
  s.closing = false → ¬s.Awaits options generated → sent = true →
    ∀ timer ∈ s.mailbox, timer.key ≠ startId options generated

/-- The caller is let in, or it is answered at once. -/
theorem stage_startResponseAndWait {caller : Nat} {options : Options} {sent : Bool}
    {generated : GeneratedId} (sound : s.Sound) (new : s.New caller) (running : s.running = true)
    (fresh : s.Fresh options sent generated) :
    Stage P s (s.startResponseAndWait caller options sent generated) ∨
      Entered caller s (s.startResponseAndWait caller options sent generated) := by
  simp only [startResponseAndWait, ensureGeneration_eq]
  split
  · exact .inl (stage_reply sound new.toOutside)
  next closing =>
    split
    · exact .inl (stage_reply sound new.toOutside)
    next free =>
      split
      next sent =>
        have empty : s.desk.waiting.lookup (startId options generated) = none :=
          Option.not_isSome_iff_eq_none.mp free
        have early := fresh (Bool.eq_false_iff.mpr closing) free sent
        -- The send has succeeded: the caller enters the desk.
        refine .inr ⟨⟨?_, ?_, ?_, ?_⟩, startId options generated, rfl⟩
        · exact sound.good.enter empty new.past new.apart new.unanswered
        · exact sound.punctual.enter sound.good empty early
        · intro other member
          refine ⟨(sound.attach other member).1, fun a visit => ?_⟩
          rcases List.mem_append.mp visit with old | last
          · exact (sound.attach other member).2 a old
          · rw [List.mem_singleton.mp last]
            rintro rfl
            exact new.absent member
        · intro stopped
          exact absurd (running.symm.trans stopped) (by decide)
      · exact .inl (stage_reply sound new.toOutside)

theorem stage_handleCall {caller : Nat} {sent : Bool} {generated : GeneratedId}
    {request : Request} (sound : s.Sound) (new : s.New caller) (running : s.running = true)
    (fresh : ∀ options, request = .startResponseAndWait options → s.Fresh options sent generated)
    (failed : (s.handleCall caller sent generated request).running = false →
      ∀ text a, P a (.rejected (sessionFailed text a.key))) :
    Stage P s (s.handleCall caller sent generated request) ∨
      Entered caller s (s.handleCall caller sent generated request) := by
  cases request with
  | startResponseAndWait options =>
    exact stage_startResponseAndWait sound new running (fresh options rfl)
  | responseCommand command options =>
    exact .inl (stage_responseCommand sound new.toOutside command options sent generated)
  | awaitAttached => exact .inl (stage_awaitAttached sound new.toOutside)
  | subscribe subscriber =>
    have added := stage_addSubscriber (P := P) sound subscriber
    exact .inl (added.and fun sound => stage_reply sound (added.outside new.toOutside))
  | unsubscribe subscriber =>
    have removed := stage_removeSubscriber (P := P) sound subscriber
    exact .inl (removed.and fun sound => stage_reply sound (removed.outside new.toOutside))
  | close reason =>
    simp only [handleCall] at failed ⊢
    split
    · exact .inl (stage_reply sound new.toOutside)
    next closing =>
      rw [if_neg closing] at failed
      exact .inl (stage_close sound new.toOutside (failed rfl))
  | sessionId | send => exact .inl (stage_reply sound new.toOutside)

theorem stage_called {sent : Bool} {generated : GeneratedId} {request : Request} (sound : s.Sound)
    (running : s.running = true)
    (fresh : ∀ options, request = .startResponseAndWait options → s.Fresh options sent generated)
    (failed : ({ s with calls := s.calls + 1 }.handleCall s.calls sent generated request).running =
      false → ∀ text a, P a (.rejected (sessionFailed text a.key))) :
    Stage P s ({ s with calls := s.calls + 1 }.handleCall s.calls sent generated request) ∨
      Entered s.calls { s with calls := s.calls + 1 }
        ({ s with calls := s.calls + 1 }.handleCall s.calls sent generated request) := by
  have called : Stage P s { s with calls := s.calls + 1 } := stage_call sound
  rcases stage_handleCall called.sound (new_call sound) running fresh failed with stage | entered
  · exact .inl (called.and fun _ => stage)
  · exact .inr entered

/-- A start is accepted only when no message of an old timer for its id is in the mailbox. -/
def Timely (s : Session) : Message → Prop
  | .call (.startResponseAndWait options) sent generated => s.Fresh options sent generated
  | _ => True

/-- What one message does to those who wait. -/
theorem step_stage {message : Message} (sound : s.Sound) (timely : s.Timely message)
    (taken : s.step lib message = some t) :
    Stage (fun a => Due lib t a message) s t ∨
      Entered s.calls { s with calls := s.calls + 1 } t := by
  obtain ⟨running, handled⟩ := step_handled taken
  cases handled with
  | call request sent generated =>
    refine stage_called sound running ?_ fun stopped text a => .ended (.inr (.inl stopped))
    rintro options rfl
    exact timely
  | stream handled => exact .inl (stage_handleStream sound handled)
  | streamError reason =>
    exact .inl (stage_stopForStreamError sound
      (fun text a => .ended (.inl (closing_stopForStreamError _))) reason)
  | streamDone =>
    exact .inl (stage_handleStreamDone sound fun text a => .ended (.inr (.inr rfl)))
  | timeout waits =>
    refine .inl (stage_handleTimeout sound waits ?_)
    -- The timer whose message is handled is that of the visit, as the desk is punctual.
    rintro a rfl
    exact .timeout
  | down monitor =>
    exact .inl (stage_handleDown sound fun stopped text a => .ended (.inr (.inl stopped)))
  | receiverExit reason =>
    exact .inl (stage_handleReceiverExit sound fun closing text a => .ended (.inl closing))
  | raises | exit =>
    exact .inl (stage_terminate sound fun text a => .ended (.inr (.inl rfl)))
  | fires set => exact .inl (stage_fires sound set)

theorem sound_initial (sessionId : String) (subscriber : Option Nat) :
    (initial sessionId subscriber).Sound := by
  have empty : (initial sessionId none).Sound := by
    refine ⟨?_, ?_, ?_, fun _ => rfl⟩
    · constructor <;> simp [desk, initial, Desk.Waits]
    · constructor <;> simp [desk, initial]
    · simp [initial]
  cases subscriber with
  | none => exact empty
  | some subscriber => exact (stage_addSubscriber (P := fun _ _ => True) empty subscriber).sound

section Runs

variable {sessionId : String} {subscriber : Option Nat} {C : Session → Message → Prop}

theorem reachable_sound (cond : ∀ s message, C s message → s.Timely message)
    (reached : (session lib sessionId subscriber).Reaches C s) : s.Sound := by
  induction reached with
  | here => exact sound_initial sessionId subscriber
  | step message _ meets taken ih =>
    rcases step_stage ih (cond _ _ meets) taken with stage | entered
    · exact stage.sound
    · exact entered.1

/-- How many replies a caller has had. -/
def repliesTo (s : Session) (caller : Nat) : Nat := (s.replies.map Prod.fst).count caller

/-- A caller waits, and its own timer will answer it if nothing else does. -/
structure Waiting (s : Session) (a : Accepted) : Prop where
  running : s.running = true
  waiter : s.responseWaiters.get a.key = some ⟨a.caller, a.timer⟩
  timer : a.alarm ∈ s.timers ∨ a.alarm ∈ s.mailbox

theorem Sound.waiting (sound : s.Sound) {a : Accepted} (visit : a ∈ s.accepted) :
    s.repliesTo a.caller = 0 ∧ s.Waiting a ∨ s.repliesTo a.caller = 1 := by
  rcases sound.good.once a visit with ⟨waits, unanswered⟩ | ⟨-, answered⟩
  · exact .inl ⟨unanswered, running_of_waits sound waits, waits, sound.good.alarmed a waits⟩
  · exact .inr answered

/-- That a start timed out is for its own timer to say. -/
theorem own_timer {a : Accepted} {timer : Timer} {id : String}
    (due : Due lib t a (.timeout timer) (.rejected (startAckTimeout id))) : timer = a.alarm := by
  generalize same : Reply.rejected (startAckTimeout id) = reply at due
  cases due with
  | timeout => rfl
  | ended gone => simp [startAckTimeout, sessionFailed] at same

/-- Every accepted caller is answered once, sooner or later, and for its own reason. -/
structure SettlesOwn (lib : Libraries) (sessionId : String) (subscriber : Option Nat)
    (C : Session → Message → Prop) : Prop where
  once : ∀ s, (session lib sessionId subscriber).Reaches C s → ∀ a ∈ s.accepted,
    s.repliesTo a.caller = 0 ∧ s.Waiting a ∨ s.repliesTo a.caller = 1
  own : ∀ s message t, (session lib sessionId subscriber).Reaches C s → C s message →
    (session lib sessionId subscriber).step s message = some t →
    ∃ new, t.replies = s.replies ++ new ∧ ∀ a ∈ t.accepted, ∀ reply,
      (a.caller, reply) ∈ new → a ∈ s.accepted ∧ Due lib t a message reply
  eventually : ∀ (e : (session lib sessionId subscriber).Execution C) (n : Nat),
    ∀ a ∈ (e.state n).accepted,
      e.WeaklyFair (fun message => message = .fires a.alarm ∨ message = .timeout a.alarm) →
      ∃ m, n ≤ m ∧ (e.state m).repliesTo a.caller = 1

theorem step_own {message : Message} (sound : s.Sound) (timely : s.Timely message)
    (taken : s.step lib message = some t) :
    ∃ new, t.replies = s.replies ++ new ∧ ∀ a ∈ t.accepted, ∀ reply,
      (a.caller, reply) ∈ new → a ∈ s.accepted ∧ Due lib t a message reply := by
  rcases step_stage sound timely taken with stage | ⟨-, id, entered⟩
  · obtain ⟨visits, new, split, reasons⟩ := stage.gives
    refine ⟨new, split, fun a visit reply member => ?_⟩
    have old : a ∈ s.accepted := by
      rw [← show t.accepted = s.accepted from visits]
      exact visit
    exact ⟨old, reasons a old reply member⟩
  -- Who enters is not answered in the same step.
  · refine ⟨[], ?_, by simp⟩
    rw [List.append_nil]
    exact congrArg Desk.replies entered

/-- A step keeps those who were accepted, and sets no old timer again. -/
theorem step_keeps {message : Message} (sound : s.Sound) (timely : s.Timely message)
    (taken : s.step lib message = some t) {a : Accepted} (visit : a ∈ s.accepted) :
    a ∈ t.accepted ∧ (a.alarm ∈ t.timers → a.alarm ∈ s.timers) := by
  rcases step_stage sound timely taken with stage | ⟨-, id, entered⟩
  · refine ⟨?_, stage.timers a.alarm⟩
    rw [show t.accepted = s.accepted from stage.gives.1]
    exact visit
  · rw [show t.accepted = _ from congrArg Desk.visits entered,
      show t.timers = _ from congrArg Desk.set entered]
    refine ⟨List.mem_append_left _ visit, fun member => ?_⟩
    rcases List.mem_append.mp member with old | last
    · exact old
    -- The new timer has a reference that no earlier visit has.
    · have same : a.timer = s.references := congrArg Alarm.ref (List.mem_singleton.mp last)
      exact absurd (sound.good.early a visit).2 (same ▸ Nat.lt_irrefl _)

/-- The timer of one who waits fires, or its message is handled. -/
theorem serves_enabled {a : Accepted} (waits : s.Waiting a) :
    (session lib sessionId subscriber).Enabled
      (fun message => message = .fires a.alarm ∨ message = .timeout a.alarm) s := by
  rcases waits.timer with set | rung
  · exact ⟨.fires a.alarm, .inl rfl, by simp [session, step, waits.running, handle, set]⟩
  · exact ⟨.timeout a.alarm, .inr rfl, by simp [session, step, waits.running, handle, rung]⟩

/-- The message of the timer answers, and the timer that fires is gone. -/
theorem served {a : Accepted} {message : Message} (sound : s.Sound) (after : t.Sound)
    (visit : a ∈ t.accepted) (serves : message = .fires a.alarm ∨ message = .timeout a.alarm)
    (taken : s.step lib message = some t) :
    t.repliesTo a.caller = 1 ∨ a.alarm ∈ s.timers ∧ a.alarm ∉ t.timers := by
  rcases serves with rfl | rfl
  · simp only [step, handle, Option.ite_none_right_eq_some] at taken
    obtain ⟨-, set, taken⟩ := taken
    cases taken
    -- It was set once only, and is in the mailbox now.
    exact .inr ⟨set, fun still => (sound.punctual.distinct.mem_erase_iff.mp still).1 rfl⟩
  · simp only [step, handle, Option.ite_none_right_eq_some] at taken
    obtain ⟨-, rung, taken⟩ := taken
    cases taken
    -- Whoever waits under the key is answered, so the caller waits no longer.
    rcases after.good.once a visit with ⟨waits, -⟩ | ⟨-, answered⟩
    · rw [desk_handleTimeout] at waits
      exact absurd waits (Desk.not_waits_expire rfl)
    · exact .inl answered

theorem eventually_answered (cond : ∀ s message, C s message → s.Timely message)
    (e : (session lib sessionId subscriber).Execution C) (n : Nat) {a : Accepted}
    (visit : a ∈ (e.state n).accepted)
    (fair : e.WeaklyFair fun message => message = .fires a.alarm ∨ message = .timeout a.alarm) :
    ∃ m, n ≤ m ∧ (e.state m).repliesTo a.caller = 1 := by
  have sound {s} (reached : (session lib sessionId subscriber).Reaches C s) : s.Sound :=
    reachable_sound cond reached
  rcases (sound (e.reaches n)).waiting visit with ⟨-, waits⟩ | answered
  · -- The rank: a timer that is set has one step more to go.
    refine e.eventually_of_rank (P := fun s => a ∈ s.accepted ∧ s.Waiting a)
      (Q := fun s => s.repliesTo a.caller = 1) (fun s => if a.alarm ∈ s.timers then 1 else 0) fair ?_ ?_ ?_ n ⟨visit, waits⟩
    · exact fun s _ holds => serves_enabled holds.2
    · intro s message t reached holds meets taken
      have kept := step_keeps (sound reached) (cond _ _ meets) taken holds.1
      rcases (sound (.step _ reached meets taken)).waiting kept.1 with ⟨-, waits⟩ | answered
      · refine .inr ⟨⟨kept.1, waits⟩, ?_⟩
        by_cases set : a.alarm ∈ t.timers
        · simp [set, kept.2 set]
        · simp [set]
      · exact .inl answered
    · intro s message t reached holds serves meets taken
      have kept := step_keeps (sound reached) (cond _ _ meets) taken holds.1
      have after := sound (.step _ reached meets taken)
      rcases after.waiting kept.1 with ⟨-, waits⟩ | answered
      · rcases served (sound reached) after kept.1 serves taken with answered | ⟨set, gone⟩
        · exact .inl answered
        · exact .inr ⟨⟨kept.1, waits⟩, by simp [set, gone]⟩
      · exact .inl answered
  · exact ⟨n, Nat.le_refl n, answered⟩

instance decidableAwaits (s : Session) (options : Options) (generated : GeneratedId) :
    Decidable (s.Awaits options generated) :=
  inferInstanceAs (Decidable (_ = true))

instance decidableTimely (s : Session) : (message : Message) → Decidable (s.Timely message)
  | .call (.startResponseAndWait options) sent generated =>
    inferInstanceAs (Decidable (s.closing = false → ¬s.Awaits options generated → sent = true →
      ∀ timer ∈ s.mailbox, timer.key ≠ startId options generated))
  | .call .sessionId _ _ | .call .awaitAttached _ _ | .call (.subscribe _) _ _
  | .call (.unsubscribe _) _ _ | .call (.responseCommand ..) _ _ | .call .send _ _
  | .call (.close _) _ _ | .stream _ | .streamError _ | .streamDone | .timeout _ | .down _
  | .receiverExit _ | .exit | .fires _ => inferInstanceAs (Decidable True)

/-- In a run in which no start is accepted while the message of an old timer for its id is
in the mailbox, every caller is answered once and for its own reason. -/
theorem waiters_settled (cond : ∀ s message, C s message → s.Timely message) :
    SettlesOwn lib sessionId subscriber C where
  once _ reached _ visit := (reachable_sound cond reached).waiting visit
  own _ _ _ reached meets taken :=
    step_own (reachable_sound cond reached) (cond _ _ meets) taken
  eventually e n _ visit fair := eventually_answered cond e n visit fair

end Runs

section Examples

def startAndWait : Message :=
  .call (.startResponseAndWait { generationId := some "g" }) true ⟨"h", GeneratedId.short_proper⟩

def acknowledge : Message :=
  .stream (some (.conversation (some (.responseCreated ⟨"r", "g", none, ""⟩))))

theorem waiters_settled_run :
    ∃ s, (session .small "s" none).Reaches Timely s ∧ s.accepted.length = 2 ∧
      ∀ a ∈ s.accepted,
        s.repliesTo a.caller = 0 ∧ s.Waiting a ∨ s.repliesTo a.caller = 1 := by
  have reached := System.leads_of_run (M := session .small "s" none) (C := Timely)
    (s := (session .small "s" none).init) [startAndWait, acknowledge, startAndWait] (by decide) rfl
  exact ⟨_, reached, rfl, (waiters_settled fun _ _ => id).once _ reached⟩

/-- The timer of the first start fires just before its acknowledgement is handled. Its message
answers the second one, whose own timer, the second, has not fired. -/
theorem waiters_cross :
    (∃ s t, (session .small "s" none).run (session .small "s" none).init
        [startAndWait, .fires ⟨1, "g"⟩, acknowledge, startAndWait] = some s ∧
      s.timers = [⟨2, "g"⟩] ∧ ⟨1, "g", 2⟩ ∈ s.accepted ∧
      (session .small "s" none).step s (.timeout ⟨1, "g"⟩) = some t ∧
      (1, .rejected (startAckTimeout "g")) ∈ t.replies) ∧
    ¬SettlesOwn .small "s" none always := by
  constructor
  · exact ⟨_, _, rfl, rfl, .tail _ (.head _), rfl, .tail _ (.head _)⟩
  · intro settles
    have reached := System.reaches_of_run (M := session .small "s" none)
      [startAndWait, .fires ⟨1, "g"⟩, acknowledge, startAndWait] rfl
    -- The reply to the second caller would have to be due to its own timer.
    obtain ⟨new, split, reasons⟩ := settles.own _ (.timeout ⟨1, "g"⟩) _ reached trivial rfl
    obtain rfl := (List.cons.inj split).2
    obtain ⟨-, due⟩ := reasons ⟨1, "g", 2⟩ (.tail _ (.head _)) _ (.head _)
    exact absurd (own_timer due) (by decide)

end Examples

end Session

end VoxRtc.Elixir
