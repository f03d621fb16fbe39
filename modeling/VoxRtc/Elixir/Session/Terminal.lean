import VoxRtc.Elixir.Session.Generation

/-!
# The end of an Elixir session

After `:closed` no event reaches a subscriber who has had it, and no caller learns that the
session is attached, as long as nothing comes from the stream that would be broadcast to
such a subscriber or attach the session.
-/
namespace VoxRtc.Elixir

open Wire Responses Transition Correlation

namespace Session

variable {lib : Libraries} {s t u : Session}

def Final (event : Event) : Prop := event.isClosed = true

instance decidableFinal (event : Event) : Decidable (Final event) :=
  inferInstanceAs (Decidable (event.isClosed = true))

/-- Nobody who is subscribed has had `:closed`. -/
def Clear (s : Session) : Prop := ∀ subscriber ∈ s.subscribers.keys, ¬s.events.Told Final subscriber

instance decidableClear (s : Session) : Decidable s.Clear :=
  inferInstanceAs (Decidable (∀ subscriber ∈ s.subscribers.keys, ¬s.events.Told Final subscriber))

/-- `:closed` is the last event of all who have had it, and marked where it has been sent. -/
structure Heard (s : Session) : Prop where
  closed : s.events.Closed Final
  silent : s.closedEmitted = false → ∀ entry ∈ s.events, ¬Final entry.1

theorem Heard.frame (heard : s.Heard) (events : t.events = s.events)
    (emitted : t.closedEmitted = s.closedEmitted) : t.Heard := by
  constructor
  · rw [events]
    exact heard.closed
  · rw [emitted, events]
    exact heard.silent

theorem Heard.clear (heard : s.Heard) (going : s.closedEmitted = false) : s.Clear :=
  fun subscriber _ => Broadcasts.not_told_of_silent (heard.silent going) subscriber

/-- An event goes to all who are subscribed, none of whom has had `:closed`. -/
theorem Heard.broadcast (heard : s.Heard) (clear : s.Clear) {e : Event}
    (events : t.events = s.events ++ [(e, s.subscribers.keys)])
    (marked : t.closedEmitted = true ∨ ¬Final e ∧ t.closedEmitted = s.closedEmitted) :
    t.Heard := by
  constructor
  · rw [events]
    exact heard.closed.append clear
  · intro going entry member
    -- The event is `:closed` and the mark is set, or it is another one.
    rcases marked with ended | ⟨other, same⟩
    · cases ended.symm.trans going
    · rw [events] at member
      rcases List.mem_append.mp member with old | new
      · exact heard.silent (same.symm.trans going) entry old
      · rw [List.mem_singleton.mp new]
        exact other

/-- The flags that say whether a session has ended. -/
def ending (s : Session) : Broadcasts Event Nat × Bool × Bool × Bool × Term :=
  (s.events, s.closedEmitted, s.attached, s.running, s.terminalError)

theorem Aside.ending (aside : s.Aside t) : t.ending = s.ending := congrArg Prod.snd aside

theorem ending_responseCommand (caller : Nat) (command : Command) (options : Options)
    (sent : Bool) (generated : GeneratedId) :
    (s.responseCommand caller command options sent generated).ending = s.ending := by
  simp only [responseCommand]
  split
  · rfl
  · split
    · obtain ⟨slot, frame⟩ := s.buildResponseCommand_frame command options generated
      rw [frame]
      rfl
    · rfl

theorem ending_startResponseAndWait (caller : Nat) (options : Options) (sent : Bool)
    (generated : GeneratedId) :
    (s.startResponseAndWait caller options sent generated).ending = s.ending := by
  simp only [startResponseAndWait, ensureGeneration_eq]
  split
  · rfl
  · split
    · rfl
    · split <;> rfl

theorem ending_trackResponseCompletion (event : Event) :
    (s.trackResponseCompletion event).ending = s.ending ∧
      (s.trackResponseCompletion event).subscribers = s.subscribers := by
  unfold trackResponseCompletion
  split <;> exact ⟨rfl, rfl⟩

theorem Clear.frame (clear : s.Clear) (ending : t.ending = s.ending)
    (subscribers : t.subscribers = s.subscribers) : t.Clear := by
  have events : t.events = s.events := congrArg Prod.fst ending
  rw [Clear, events, subscribers]
  exact clear

/-- A handler that raises broadcasts nothing. -/
def raises (lib : Libraries) (message : Vox.RtcControlServerMessage) : Bool :=
  match Protocol.decodeEvent lib message with
  | none => true
  | some (.ok (.responseCreated payload)) => (ResponseOutput.decode lib payload.output).isNone
  | some _ => false

/-- The session is attached by a message. -/
def attaches (s : Session) (lib : Libraries) (message : Vox.RtcControlServerMessage) : Bool :=
  match Protocol.decodeEvent lib message with
  | some (.ok (.sessionAttached payload)) => payload.sessionId = s.sessionId
  | _ => false

def isNormal : Term → Bool
  | .atom "normal" => true
  | _ => false

/-- Nothing comes that would be broadcast to one who has had `:closed`, and the session is
not attached after that. -/
def Orderly (lib : Libraries) (s : Session) : Message → Prop
  | .stream message => raises lib message = false →
    s.Clear ∧ (s.closedEmitted = true → s.attaches lib message = false)
  | .streamError _ => s.Clear
  | .receiverExit reason => isNormal reason = false → s.Clear
  | _ => True

instance decidableOrderly (lib : Libraries) (s : Session) :
    (message : Message) → Decidable (Orderly lib s message)
  | .stream message => inferInstanceAs (Decidable (raises lib message = false →
    s.Clear ∧ (s.closedEmitted = true → s.attaches lib message = false)))
  | .streamError _ => inferInstanceAs (Decidable s.Clear)
  | .receiverExit reason => inferInstanceAs (Decidable (isNormal reason = false → s.Clear))
  | .call .. | .streamDone | .timeout _ | .down _ | .exit | .fires _ =>
    inferInstanceAs (Decidable True)

def isOk : Reply → Bool
  | .ok => true
  | _ => false

/-- The callers who have been told `:ok`. -/
def oks (s : Session) : List Nat := (s.replies.filter fun r => isOk r.2).map Prod.fst

/-- Who has called, `await_attached` or anything, and who has been told `:ok`. -/
def told (s : Session) : List Nat × Nat × List Nat := (s.attachers, s.calls, s.oks)

theorem oks_append {l : List (Nat × Reply)} (replies : t.replies = s.replies ++ l)
    (silent : ∀ r ∈ l, isOk r.2 = false) : t.oks = s.oks := by
  have none : l.filter (fun r => isOk r.2) = [] := by
    rw [List.filter_eq_nil_iff]
    intro r member
    simp [silent r member]
  rw [oks, replies, List.filter_append, none, List.append_nil]
  rfl

theorem told_append {l : List (Nat × Reply)} (attachers : t.attachers = s.attachers)
    (calls : t.calls = s.calls) (replies : t.replies = s.replies ++ l)
    (silent : ∀ r ∈ l, isOk r.2 = false) : t.told = s.told := by
  rw [told, attachers, calls, oks_append replies silent]
  rfl

theorem told_rejectResponseWaiters (message : String) :
    (s.rejectResponseWaiters message).told = s.told := by
  refine told_append (s := s) rfl rfl rfl fun r member => ?_
  obtain ⟨waiter, -, rfl⟩ := List.mem_map.mp member
  rfl

theorem told_replyAttachWaiters (reason : Term) :
    (s.replyAttachWaiters (.error reason)).told = s.told := by
  refine told_append (s := s) rfl rfl rfl fun r member => ?_
  obtain ⟨caller, -, rfl⟩ := List.mem_map.mp member
  rfl

theorem told_emitClosedOnce (reason : String) : (s.emitClosedOnce reason).told = s.told := by
  unfold emitClosedOnce
  split <;> rfl

theorem told_terminate : s.terminate.told = s.told :=
  told_rejectResponseWaiters (s := s) "RTC session terminated before acknowledgement"

theorem told_ends (reason : Term) : (s.ends reason).told = s.told := by
  unfold ends
  split
  · exact told_terminate
  · rfl

theorem told_closeTransport (reason : String) : (s.closeTransport reason).told = s.told := by
  rw [closeTransport, told_emitClosedOnce]
  exact told_rejectResponseWaiters (s := s) "RTC session closed before acknowledgement"

theorem told_stopForStreamError (reason : Term) :
    (s.stopForStreamError lib reason).told = s.told := by
  rw [stopForStreamError, told_ends, told_replyAttachWaiters, told_emitClosedOnce]
  exact told_rejectResponseWaiters (s := s) s!"RTC control stream failed: {lib.inspect reason}"

theorem told_handleStreamDone : s.handleStreamDone.told = s.told := by
  simp only [handleStreamDone]
  rw [told_ends, told_replyAttachWaiters, told_emitClosedOnce, told_rejectResponseWaiters]

theorem told_handleClosed (reason : String) : (s.handleClosed reason).told = s.told := by
  simp only [handleClosed]
  rw [told_ends, told_replyAttachWaiters]
  exact told_rejectResponseWaiters (s := s) "Session closed before Vox acknowledged the response"

theorem told_handleDown (monitor : Nat) : (s.handleDown monitor).told = s.told := by
  unfold handleDown
  split
  · rw [told_terminate, told_closeTransport]
  · split <;> rfl

theorem told_handleReceiverExit (reason : Term) :
    (s.handleReceiverExit lib reason).told = s.told := by
  unfold handleReceiverExit
  split
  · rfl
  · exact told_stopForStreamError _

theorem told_replyResponseWaiter (generationId : Option String) {reply : Reply}
    (other : isOk reply = false) : (s.replyResponseWaiter generationId reply).told = s.told := by
  cases generationId with
  | none => rfl
  | some id =>
    simp only [replyResponseWaiter]
    split
    · rfl
    · split
      · rfl
      next waiter _ =>
        -- The reply is not `:ok`, so it tells nobody that the session is attached.
        exact told_append (l := [(waiter.caller, reply)]) rfl rfl rfl (by simpa using other)

theorem told_resolveResponseWaiter {event : Event}
    (resolved : s.resolveResponseWaiter lib event = some t) : t.told = s.told := by
  cases event with
  | responseCreated payload =>
    obtain ⟨output, -, rfl⟩ := Option.map_eq_some_iff.mp resolved
    exact told_replyResponseWaiter _ rfl
  | error error =>
    cases resolved
    exact told_replyResponseWaiter _ rfl
  | _ =>
    cases resolved
    rfl

theorem told_handleTimeout (timer : Timer) : (s.handleTimeout timer).told = s.told := by
  simp only [handleTimeout]
  split
  · rfl
  next waiter _ =>
    exact told_append (l := [(waiter.caller, .rejected (startAckTimeout timer.key))]) rfl rfl
      rfl (by simp [isOk])

theorem told_handleEvent {event : Event}
    (apart : ∀ payload, event = .sessionAttached payload → payload.sessionId ≠ s.sessionId)
    (handled : s.handleEvent lib event = some t) : t.told = s.told := by
  cases event with
  | sessionAttached payload =>
    simp only [handleEvent] at handled
    split at handled
    next same => exact absurd same (apart payload rfl)
    · cases handled
      exact told_stopForStreamError _
  | closed reason =>
    cases handled
    exact told_handleClosed reason
  | _ =>
    simp only [handleEvent, Option.map_eq_some_iff] at handled
    obtain ⟨resolved, found, rfl⟩ := handled
    have tracked (event : Event) : (resolved.trackResponseCompletion event).told = resolved.told := by
      unfold trackResponseCompletion
      split <;> rfl
    have kept := told_resolveResponseWaiter found
    exact (tracked _).trans kept

theorem oks_reply (caller : Nat) (reply : Reply) :
    (s.reply caller reply).oks = s.oks ++ if isOk reply then [caller] else [] := by
  rw [oks, Session.reply, List.filter_append, List.map_append]
  cases ok : isOk reply <;> simp [oks, ok]

/-- Those who call for something else are told `:ok` at most themselves. -/
theorem told_handleCall (caller : Nat) (sent : Bool) (generated : GeneratedId)
    {request : Request} (other : request ≠ .awaitAttached) :
    (s.handleCall caller sent generated request).attachers = s.attachers ∧
      (s.handleCall caller sent generated request).calls = s.calls ∧
      ((s.handleCall caller sent generated request).oks = s.oks ∨
        (s.handleCall caller sent generated request).oks = s.oks ++ [caller]) := by
  -- A call is answered once, and `:ok` is one of the answers.
  have answered {u : Session} {reply : Reply} (kept : u.told = s.told) :
      (u.reply caller reply).attachers = s.attachers ∧ (u.reply caller reply).calls = s.calls ∧
        ((u.reply caller reply).oks = s.oks ∨ (u.reply caller reply).oks = s.oks ++ [caller]) := by
    simp only [told, Prod.mk.injEq] at kept
    refine ⟨kept.1, kept.2.1, ?_⟩
    rw [oks_reply, kept.2.2]
    cases isOk reply
    · exact .inl (List.append_nil _)
    · exact .inr rfl
  cases request with
  | awaitAttached => exact absurd rfl other
  | sessionId | send => exact answered rfl
  | subscribe subscriber =>
    refine answered ?_
    unfold addSubscriber
    split <;> rfl
  | unsubscribe subscriber =>
    refine answered ?_
    unfold removeSubscriber
    split <;> rfl
  | responseCommand command options =>
    simp only [handleCall, responseCommand]
    split
    · exact answered rfl
    · split
      · obtain ⟨slot, frame⟩ := s.buildResponseCommand_frame command options generated
        rw [frame]
        exact answered rfl
      · exact answered rfl
  | startResponseAndWait options =>
    simp only [handleCall, startResponseAndWait, ensureGeneration_eq]
    split
    · exact answered rfl
    · split
      · exact answered rfl
      · split
        -- The caller waits for the acknowledgement.
        · exact ⟨rfl, rfl, .inl rfl⟩
        · exact answered rfl
  | close reason =>
    simp only [handleCall]
    split
    · exact answered rfl
    · have kept := told_terminate (s := (s.closeTransport reason).reply caller .ok)
      simp only [told, Prod.mk.injEq] at kept
      rw [kept.1, kept.2.1, kept.2.2]
      exact answered (told_closeTransport reason)

/-- What comes after the end makes nobody's session attached. -/
structure Quiet (s t : Session) : Prop where
  early : ∀ caller ∈ t.attachers, caller < t.calls
  silent : s.closedEmitted = true → ∀ caller ∈ t.attachers, t.oks.count caller = s.oks.count caller

section Runs

variable {sessionId : String} {subscriber : Option Nat} {C : Session → Message → Prop}

end Runs

section Examples

def serverAttached : Message := .stream (some (.attached ⟨"s", "vox"⟩))

end Examples

end Session

end VoxRtc.Elixir
