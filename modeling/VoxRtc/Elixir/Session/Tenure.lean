import VoxRtc.Elixir.Session.Ended

/-!
# What a session keeps as long as it lives

Whatever comes, a session keeps its id and the monitor of its owner, and it stays attached
once it is. Only a session that is attached answers `:ok` to those who await that, and one
that is closing has sent `:closed`.
-/
namespace VoxRtc.Elixir.Session

open Wire Responses Transition Correlation

variable {lib : Libraries} {s t u : Session}

/-- A session that is closing has sent `:closed`. -/
def Marked (s : Session) : Prop := s.closing = true → s.closedEmitted = true

/-- What a session is to those who started it. -/
def post (s : Session) : String × Nat × Bool := (s.sessionId, s.ownerMonitor, s.attached)

/-- The session is closing no more than before, or it has sent `:closed`. -/
structure Tenure (s t : Session) : Prop where
  id : t.sessionId = s.sessionId
  owner : t.ownerMonitor = s.ownerMonitor
  attached : s.attached = true → t.attached = true
  marked : s.Marked → t.Marked

theorem Tenure.refl (s : Session) : s.Tenure s := ⟨rfl, rfl, fun a => a, fun m => m⟩

theorem Tenure.trans (first : s.Tenure t) (second : t.Tenure u) : s.Tenure u :=
  ⟨second.id.trans first.id, second.owner.trans first.owner,
    fun attached => second.attached (first.attached attached),
    fun marked => second.marked (first.marked marked)⟩

theorem tenure_marked (same : t.post = s.post) (marked : s.Marked → t.Marked) : s.Tenure t := by
  simp only [post, Prod.mk.injEq] at same
  exact ⟨same.1, same.2.1, fun attached => same.2.2.trans attached, marked⟩

theorem tenure_frame (same : t.post = s.post) (closing : t.closing = s.closing)
    (emitted : t.closedEmitted = s.closedEmitted) : s.Tenure t := by
  refine tenure_marked same ?_
  rw [Marked, Marked, closing, emitted]
  exact id

theorem tenure_emitted (same : t.post = s.post) (emitted : t.closedEmitted = true) : s.Tenure t :=
  tenure_marked same fun _ _ => emitted

theorem post_emitClosedOnce (reason : String) : (s.emitClosedOnce reason).post = s.post := by
  unfold emitClosedOnce
  split <;> rfl

theorem post_ends (reason : Term) : (s.ends reason).post = s.post := by
  unfold ends
  split <;> rfl

theorem post_closeTransport (reason : String) : (s.closeTransport reason).post = s.post := by
  rw [closeTransport, post_emitClosedOnce]
  rfl

theorem post_stopForStreamError (reason : Term) :
    (s.stopForStreamError lib reason).post = s.post := by
  simp only [stopForStreamError, post_ends]
  exact post_emitClosedOnce _

theorem post_handleStreamDone : s.handleStreamDone.post = s.post := by
  simp only [handleStreamDone, post_ends]
  exact post_emitClosedOnce _

theorem post_handleClosed (reason : String) : (s.handleClosed reason).post = s.post := by
  simp only [handleClosed, post_ends]
  rfl

theorem tenure_awaitAttached (caller : Nat) : s.Tenure (s.awaitAttached caller) := by
  simp only [awaitAttached]
  split
  · exact tenure_frame rfl rfl rfl
  · split <;> exact tenure_frame rfl rfl rfl

theorem tenure_responseCommand (caller : Nat) (command : Command) (options : Options)
    (sent : Bool) (generated : GeneratedId) :
    s.Tenure (s.responseCommand caller command options sent generated) := by
  simp only [responseCommand]
  split
  · exact tenure_frame rfl rfl rfl
  · split
    · obtain ⟨slot, frame⟩ := s.buildResponseCommand_frame command options generated
      rw [frame]
      exact tenure_frame rfl rfl rfl
    · exact tenure_frame rfl rfl rfl

theorem tenure_startResponseAndWait (caller : Nat) (options : Options) (sent : Bool)
    (generated : GeneratedId) :
    s.Tenure (s.startResponseAndWait caller options sent generated) := by
  simp only [startResponseAndWait, ensureGeneration_eq]
  split
  · exact tenure_frame rfl rfl rfl
  · split
    · exact tenure_frame rfl rfl rfl
    · split <;> exact tenure_frame rfl rfl rfl

theorem tenure_handleCall {caller : Nat} {sent : Bool} {generated : GeneratedId}
    (request : Request) : s.Tenure (s.handleCall caller sent generated request) := by
  cases request with
  | responseCommand command options =>
    exact tenure_responseCommand caller command options sent generated
  | startResponseAndWait options =>
    exact tenure_startResponseAndWait caller options sent generated
  | awaitAttached => exact tenure_awaitAttached caller
  | subscribe subscriber =>
    simp only [handleCall, addSubscriber]
    split <;> exact tenure_frame rfl rfl rfl
  | unsubscribe subscriber =>
    simp only [handleCall, removeSubscriber]
    split <;> exact tenure_frame rfl rfl rfl
  | close reason =>
    simp only [handleCall]
    split
    · exact tenure_frame rfl rfl rfl
    · exact tenure_emitted (post_closeTransport reason) (closeTransport_emitted s reason)
  | sessionId | send => exact tenure_frame rfl rfl rfl

theorem tenure_replyResponseWaiter (generationId : Option String) (reply : Reply) :
    s.Tenure (s.replyResponseWaiter generationId reply) := by
  cases generationId with
  | none => exact .refl s
  | some id =>
    simp only [replyResponseWaiter]
    split
    · exact .refl s
    · split
      · exact .refl s
      · exact tenure_frame rfl rfl rfl

theorem tenure_resolveResponseWaiter {event : Event}
    (resolved : s.resolveResponseWaiter lib event = some t) : s.Tenure t := by
  cases event with
  | responseCreated payload =>
    obtain ⟨output, -, rfl⟩ := Option.map_eq_some_iff.mp resolved
    exact tenure_replyResponseWaiter _ _
  | error error =>
    cases resolved
    exact tenure_replyResponseWaiter _ _
  | _ =>
    cases resolved
    exact .refl s

theorem tenure_trackResponseCompletion (event : Event) :
    s.Tenure (s.trackResponseCompletion event) := by
  unfold trackResponseCompletion
  split <;> exact tenure_frame rfl rfl rfl

theorem tenure_handleEvent {event : Event} (handled : s.handleEvent lib event = some t) :
    s.Tenure t := by
  have recorded : s.Tenure (s.record event) := tenure_frame rfl rfl rfl
  cases event with
  | sessionAttached payload =>
    simp only [handleEvent] at handled
    split at handled
    -- Here, and nowhere else, the session becomes attached.
    · cases handled
      exact ⟨rfl, rfl, fun _ => rfl, fun marked => marked⟩
    · cases handled
      exact recorded.trans
        (tenure_emitted (post_stopForStreamError _) (stopForStreamError_emitted _ _))
  | closed reason =>
    cases handled
    exact recorded.trans (tenure_emitted (post_handleClosed reason) (handleClosed_emitted _ reason))
  | _ =>
    simp only [handleEvent, Option.map_eq_some_iff] at handled
    obtain ⟨resolved, found, rfl⟩ := handled
    have tracked (event : Event) : s.Tenure ((resolved.trackResponseCompletion event).broadcast event) := by
      have earlier := recorded.trans (tenure_resolveResponseWaiter found)
      exact (earlier.trans (tenure_trackResponseCompletion event)).trans (tenure_frame rfl rfl rfl)
    exact tracked _

theorem tenure_handleDown (monitor : Nat) : s.Tenure (s.handleDown monitor) := by
  unfold handleDown
  split
  · exact tenure_emitted (post_closeTransport _) (closeTransport_emitted s "owner_closed")
  · split
    · exact .refl s
    · exact tenure_frame rfl rfl rfl

theorem step_tenure {message : Message} (taken : s.step lib message = some t) : s.Tenure t := by
  obtain ⟨_, handled⟩ := step_handled taken
  cases handled with
  | call request sent generated =>
    have called : s.Tenure { s with calls := s.calls + 1 } := tenure_frame rfl rfl rfl
    exact called.trans (tenure_handleCall request)
  | stream handled =>
    obtain ⟨decoded, -, rest⟩ := Option.bind_eq_some_iff.mp handled
    cases decoded with
    | ok event => exact tenure_handleEvent rest
    | error reason =>
      cases rest
      exact tenure_frame rfl rfl rfl
  | streamError reason =>
    exact tenure_emitted (post_stopForStreamError _) (stopForStreamError_emitted s reason)
  | streamDone => exact tenure_emitted post_handleStreamDone (handleStreamDone_emitted s)
  | timeout waits =>
    simp only [handleTimeout]
    split <;> exact tenure_frame rfl rfl rfl
  | down monitor => exact tenure_handleDown monitor
  | receiverExit reason =>
    unfold handleReceiverExit
    split
    · exact .refl s
    · exact tenure_emitted (post_stopForStreamError _) (stopForStreamError_emitted s _)
  | raises | exit | fires => exact tenure_frame rfl rfl rfl

/-- Whom a step tells `:ok`, of those who await the session and of all who call it. -/
inductive Tells (s t : Session) : Prop
  | silent (kept : t.told = s.told)
  | attaches (attached : t.attached = true) (attachers : t.attachers = s.attachers)
  /-- One more awaits the session, and is told so if it is attached. -/
  | awaits (attachers : t.attachers = s.attachers ++ [s.calls]) (calls : t.calls = s.calls + 1)
      (told : t.attached = true ∨ t.oks = s.oks)
  | answers (attachers : t.attachers = s.attachers) (calls : t.calls = s.calls + 1)
      (told : t.oks = s.oks ∨ t.oks = s.oks ++ [s.calls])

theorem tells_awaitAttached :
    s.Tells ({ s with calls := s.calls + 1 }.awaitAttached s.calls) := by
  simp only [awaitAttached]
  split
  next attached => exact .awaits rfl rfl (.inl attached)
  next =>
    split
    · exact .awaits rfl rfl (.inr rfl)
    -- The session has ended, and that is what the caller learns.
    · have silent : ({ s with calls := s.calls + 1, attachers := s.attachers ++ [s.calls] }.reply
          s.calls (.error s.terminalError)).oks = s.oks := (oks_reply _ _).trans (List.append_nil _)
      exact .awaits rfl rfl (.inr silent)

theorem tells_handleCall {sent : Bool} {generated : GeneratedId} (request : Request) :
    s.Tells ({ s with calls := s.calls + 1 }.handleCall s.calls sent generated request) := by
  by_cases awaits : request = .awaitAttached
  · subst awaits
    exact tells_awaitAttached
  · obtain ⟨attachers, calls, oks⟩ := told_handleCall (s := { s with calls := s.calls + 1 })
      s.calls sent generated awaits
    exact .answers attachers calls oks

theorem tells_handleEvent {event : Event} (handled : s.handleEvent lib event = some t) :
    s.Tells t := by
  by_cases attaches : ∃ payload, event = .sessionAttached payload ∧ payload.sessionId = s.sessionId
  · obtain ⟨payload, rfl, same⟩ := attaches
    simp only [handleEvent] at handled
    rw [if_pos (show _ = (s.record _).sessionId from same)] at handled
    cases handled
    exact .attaches rfl rfl
  · have apart (payload) (is : event = .sessionAttached payload) : payload.sessionId ≠ s.sessionId :=
      fun same => attaches ⟨payload, is, same⟩
    exact .silent (told_handleEvent apart handled)

theorem step_tells {message : Message} (taken : s.step lib message = some t) : s.Tells t := by
  obtain ⟨_, handled⟩ := step_handled taken
  cases handled with
  | call request sent generated => exact tells_handleCall request
  | stream handled =>
    obtain ⟨decoded, -, rest⟩ := Option.bind_eq_some_iff.mp handled
    cases decoded with
    | ok event => exact tells_handleEvent rest
    | error reason =>
      cases rest
      exact .silent rfl
  | streamError reason => exact .silent (told_stopForStreamError reason)
  | streamDone => exact .silent told_handleStreamDone
  | timeout waits => exact .silent (told_handleTimeout _)
  | down monitor => exact .silent (told_handleDown monitor)
  | receiverExit reason => exact .silent (told_handleReceiverExit reason)
  | raises | exit => exact .silent told_terminate
  | fires set => exact .silent rfl

theorem Tells.attachers_subset (tells : s.Tells t) : s.attachers ⊆ t.attachers := by
  cases tells with
  | silent kept =>
    rw [show t.attachers = s.attachers from congrArg Prod.fst kept]
    exact List.Subset.refl _
  | attaches _ attachers | answers attachers _ _ =>
    rw [attachers]
    exact List.Subset.refl _
  | awaits attachers _ _ =>
    rw [attachers]
    exact List.subset_append_left _ _

/-- Nobody who awaits the session has been told `:ok`. -/
structure Untold (s : Session) : Prop where
  early : ∀ caller ∈ s.attachers, caller < s.calls
  past : ∀ caller ∈ s.oks, caller < s.calls
  apart : ∀ caller ∈ s.attachers, caller ∉ s.oks

/-- Only a session that is attached has told so to those who await it. -/
def Honest (s : Session) : Prop := s.attached = true ∨ s.Untold

theorem Honest.attached (honest : s.Honest) {caller : Nat} (awaits : caller ∈ s.attachers)
    (told : caller ∈ s.oks) : s.attached = true := by
  rcases honest with attached | untold
  · exact attached
  · exact absurd told (untold.apart caller awaits)

theorem Untold.honest (untold : s.Untold) (tells : s.Tells t) : t.Honest := by
  obtain ⟨early, past, apart⟩ := untold
  cases tells with
  | silent kept =>
    simp only [told, Prod.mk.injEq] at kept
    obtain ⟨attachers, calls, oks⟩ := kept
    refine .inr ⟨?_, ?_, ?_⟩
    · rwa [attachers, calls]
    · rwa [oks, calls]
    · rwa [attachers, oks]
  | attaches attached _ => exact .inl attached
  -- A caller that is new has neither awaited the session nor been told anything.
  | awaits attachers calls told =>
    rcases told with attached | oks
    · exact .inl attached
    · refine .inr ⟨?_, ?_, ?_⟩
      · grind
      · grind
      · grind
  | answers attachers calls told =>
    refine .inr ⟨?_, ?_, ?_⟩
    · grind
    · grind
    · grind

theorem step_honest {message : Message} (honest : s.Honest)
    (taken : s.step lib message = some t) : t.Honest := by
  rcases honest with attached | untold
  · exact .inl ((step_tenure taken).attached attached)
  · exact untold.honest (step_tells taken)

/-- What holds of a session from its start. -/
structure Kept (s : Session) : Prop where
  honest : s.Honest
  marked : s.Marked
  owner : s.ownerMonitor = 0

theorem Kept.step {message : Message} (kept : s.Kept) (taken : s.step lib message = some t) :
    t.Kept :=
  ⟨step_honest kept.honest taken, (step_tenure taken).marked kept.marked,
    (step_tenure taken).owner.trans kept.owner⟩

theorem post_initial (sessionId : String) (subscriber : Option Nat) :
    (initial sessionId subscriber).post = (sessionId, 0, false) := by
  cases subscriber with
  | none => rfl
  | some subscriber =>
    simp only [initial, addSubscriber]
    split <;> rfl

theorem kept_initial (sessionId : String) (subscriber : Option Nat) :
    (initial sessionId subscriber).Kept := by
  have post := post_initial sessionId subscriber
  simp only [Session.post, Prod.mk.injEq] at post
  have rest : (initial sessionId subscriber).told = ([], 0, []) ∧
      (initial sessionId subscriber).closing = false := by
    cases subscriber with
    | none => exact ⟨rfl, rfl⟩
    | some subscriber =>
      simp only [initial, addSubscriber]
      split <;> exact ⟨rfl, rfl⟩
  obtain ⟨told, open_⟩ := rest
  simp only [Session.told, Prod.mk.injEq] at told
  refine ⟨.inr ⟨?_, ?_, ?_⟩, fun closing => ?_, post.2.1⟩
  · simp [told.1]
  · simp [told.2.2]
  · simp [told.1]
  · cases open_.symm.trans closing

/-- What becomes of a session process, whether it goes on or is killed. -/
structure Succeeds (s t : Session) : Prop where
  kept : s.Kept → t.Kept
  id : t.sessionId = s.sessionId
  attached : s.attached = true → t.attached = true
  running : t.running = true → s.running = true
  ended : s.ended = true → t.ended = true
  awaits : s.attachers ⊆ t.attachers

theorem Succeeds.refl (s : Session) : s.Succeeds s :=
  ⟨fun k => k, rfl, fun a => a, fun r => r, fun e => e, List.Subset.refl _⟩

theorem succeeds_step {message : Message} (taken : s.step lib message = some t) : s.Succeeds t where
  kept kept := kept.step taken
  id := (step_tenure taken).id
  attached := (step_tenure taken).attached
  running _ := (step_handled taken).1
  ended := step_ended_stays taken
  awaits := (step_tells taken).attachers_subset

theorem succeeds_kill : s.Succeeds { s with running := false } where
  kept kept := by
    obtain ⟨honest, marked, owner⟩ := kept
    have same : ({ s with running := false } : Session).told = s.told := rfl
    rcases honest with attached | untold
    · exact ⟨.inl attached, marked, owner⟩
    · exact ⟨untold.honest (.silent same), marked, owner⟩
  id := rfl
  attached attached := attached
  running running := absurd running Bool.false_ne_true
  ended _ := by simp [ended]
  awaits := List.Subset.refl _

/-- A session that is asked to close has ended, also where it was closing already. -/
theorem close_ended {reason : String} {sent : Bool} {generated : GeneratedId} (marked : s.Marked)
    (taken : s.step lib (.call (.close reason) sent generated) = some t) : t.ended = true := by
  obtain ⟨_, handled⟩ := step_handled taken
  cases handled with
  | call request sent generated =>
    simp only [handleCall]
    split
    next closing => simp [ended, Session.reply, marked closing]
    next => simp [ended, Session.terminate]

/-- The owner of a session is down. -/
theorem owner_down (kept : s.Kept) (running : s.running = true) :
    ∃ t, s.step lib (.down 0) = some t ∧ t.running = false := by
  refine ⟨(s.closeTransport "owner_closed").terminate, ?_, rfl⟩
  simp [Session.step, running, handle, handleDown, kept.owner]

end VoxRtc.Elixir.Session
