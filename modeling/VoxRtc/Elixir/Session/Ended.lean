import VoxRtc.Elixir.Session.Terminal

/-!
# Sessions that have ended

A session that has sent `:closed` or has stopped stays so, whatever it handles, and nobody
gets `:closed` before it is marked as sent.
-/
namespace VoxRtc.Elixir.Session

open Wire Responses Transition Correlation

variable {lib : Libraries} {s t u : Session}

def Silent (s : Session) : Prop := s.closedEmitted = false → ∀ entry ∈ s.events, ¬Final entry.1

/-- What becomes of a session. -/
structure Onward (s t : Session) : Prop where
  emitted : s.closedEmitted = true → t.closedEmitted = true
  silent : s.Silent → t.Silent

/-- The session has sent `:closed`, or its process has stopped. -/
def ended (s : Session) : Bool := s.closedEmitted || !s.running

theorem Onward.refl (s : Session) : s.Onward s := ⟨id, id⟩

theorem Onward.trans (first : s.Onward t) (second : t.Onward u) : s.Onward u :=
  ⟨fun emitted => second.emitted (first.emitted emitted),
    fun silent => second.silent (first.silent silent)⟩

theorem onward_frame (events : t.events = s.events) (emitted : t.closedEmitted = s.closedEmitted) :
    s.Onward t := by
  constructor
  · rw [emitted]
    exact id
  · intro silent
    rw [Silent, emitted, events]
    exact silent

theorem onward_ending (same : t.ending = s.ending) : s.Onward t :=
  onward_frame (congrArg Prod.fst same) (congrArg (·.2.1) same)

theorem onward_broadcast {e : Event} (other : ¬Final e) : s.Onward (s.broadcast e) := by
  refine ⟨id, fun silent going entry member => ?_⟩
  rcases List.mem_append.mp member with old | new
  · exact silent going entry old
  · rw [List.mem_singleton.mp new]
    exact other

/-- Once `:closed` is marked as sent there is nothing to keep. -/
theorem onward_marked (emitted : t.closedEmitted = true) : s.Onward t :=
  ⟨fun _ => emitted, fun _ going => absurd (going.symm.trans emitted) (by decide)⟩

theorem emitClosedOnce_emitted (s : Session) (reason : String) :
    (s.emitClosedOnce reason).closedEmitted = true := by
  unfold emitClosedOnce
  split
  next emitted => exact emitted
  next => rfl

theorem ends_emitted_flag (s : Session) (reason : Term) :
    (s.ends reason).closedEmitted = s.closedEmitted := by
  unfold ends
  split <;> rfl

theorem closeTransport_emitted (s : Session) (reason : String) :
    (s.closeTransport reason).closedEmitted = true := by
  rw [closeTransport]
  exact emitClosedOnce_emitted _ reason

theorem stopForStreamError_emitted (s : Session) (reason : Term) :
    (s.stopForStreamError lib reason).closedEmitted = true := by
  simp only [stopForStreamError, ends_emitted_flag]
  exact emitClosedOnce_emitted _ "transport_error"

theorem handleStreamDone_emitted (s : Session) : s.handleStreamDone.closedEmitted = true := by
  simp only [handleStreamDone, ends_emitted_flag]
  exact emitClosedOnce_emitted _ _

theorem handleClosed_emitted (s : Session) (reason : String) :
    (s.handleClosed reason).closedEmitted = true := by
  simp only [handleClosed, ends_emitted_flag]
  rfl

theorem onward_handleCall {caller : Nat} {sent : Bool} {generated : GeneratedId}
    (request : Request) : s.Onward (s.handleCall caller sent generated request) := by
  cases request with
  | responseCommand command options =>
    exact onward_ending (ending_responseCommand caller command options sent generated)
  | startResponseAndWait options =>
    exact onward_ending (ending_startResponseAndWait caller options sent generated)
  | awaitAttached => exact onward_ending (awaitAttached_aside caller).ending
  | subscribe subscriber => exact onward_ending (addSubscriber_aside subscriber).ending
  | unsubscribe subscriber => exact onward_ending (removeSubscriber_aside subscriber).ending
  | close reason =>
    simp only [handleCall]
    split
    · exact onward_frame rfl rfl
    · exact onward_marked (closeTransport_emitted s reason)
  | sessionId | send => exact onward_frame rfl rfl

theorem onward_tracked {event : Event} (going : ¬Final event)
    (resolved : s.resolveResponseWaiter lib event = some t) :
    s.Onward ((t.trackResponseCompletion event).broadcast event) := by
  have first := onward_ending (resolveResponseWaiter_aside resolved).1.ending
  have second := onward_ending (t.ending_trackResponseCompletion event).1
  exact (first.trans second).trans (onward_broadcast going)

theorem onward_handleEvent {event : Event} (handled : s.handleEvent lib event = some t) :
    s.Onward t := by
  have recorded : s.Onward (s.record event) := onward_frame rfl rfl
  cases event with
  | sessionAttached payload =>
    simp only [handleEvent] at handled
    split at handled
    · cases handled
      refine Onward.trans (t := ((s.record _).replyAttachWaiters .ok).attach) ?_
        (onward_broadcast Bool.false_ne_true)
      exact onward_frame rfl rfl
    · cases handled
      exact onward_marked (stopForStreamError_emitted _ _)
  | closed reason =>
    cases handled
    exact onward_marked (handleClosed_emitted _ reason)
  | _ =>
    simp only [handleEvent, Option.map_eq_some_iff] at handled
    obtain ⟨resolved, found, rfl⟩ := handled
    exact recorded.trans (onward_tracked Bool.false_ne_true found)

theorem onward_handleStream {message : Vox.RtcControlServerMessage}
    (handled : s.handleStream lib message = some t) : s.Onward t := by
  obtain ⟨decoded, -, rest⟩ := Option.bind_eq_some_iff.mp handled
  cases decoded with
  | ok event => exact onward_handleEvent rest
  | error reason =>
    cases rest
    exact onward_broadcast Bool.false_ne_true

theorem onward_handleDown (monitor : Nat) : s.Onward (s.handleDown monitor) := by
  unfold handleDown
  split
  · exact onward_marked (closeTransport_emitted s "owner_closed")
  · split
    · exact .refl s
    · exact onward_frame rfl rfl

theorem step_onward {message : Message} (taken : s.step lib message = some t) : s.Onward t := by
  obtain ⟨_, handled⟩ := step_handled taken
  cases handled with
  | call request sent generated =>
    exact Onward.trans (t := { s with calls := s.calls + 1 }) (onward_frame rfl rfl)
      (onward_handleCall request)
  | stream handled => exact onward_handleStream handled
  | streamError reason => exact onward_marked (stopForStreamError_emitted s reason)
  | streamDone => exact onward_marked (handleStreamDone_emitted s)
  | timeout waits => exact onward_ending (handleTimeout_aside _).ending
  | down monitor => exact onward_handleDown monitor
  | receiverExit reason =>
    unfold handleReceiverExit
    split
    · exact .refl s
    · exact onward_marked (stopForStreamError_emitted s _)
  | raises | exit | fires => exact onward_frame rfl rfl

/-- A session that has ended does not begin again. -/
theorem step_ended_stays {message : Message} (taken : s.step lib message = some t)
    (gone : s.ended = true) : t.ended = true := by
  obtain ⟨running, _⟩ := step_handled taken
  simp only [ended, running, Bool.not_true, Bool.or_false] at gone
  simp [ended, (step_onward taken).emitted gone]

end VoxRtc.Elixir.Session
