import VoxRtc.TypeScript.Gateway.Stack

/-!
# The command window

The message listener is installed before the creation hook is awaited and stays until
the socket is gone, so a browser frame may reach the control session too early or too
late. Where the frames that ask for a session call arrive between the two, the calls
fall between `gateway.ready` and `session.close()`.
-/
namespace VoxRtc.TypeScript.Gateway

open Transition
open VoxRtc.Gateway (Progress Outcome)

/-- The frame passes the checks that come before a session call. -/
def asks (p : Progress) (raw : Option Value) : Bool :=
  match parseClientMessage raw with
  | .error _ => false
  | .ok message =>
    !(message.type == "rtc.offer" && p.pendingOfferId.isSome) &&
      (dialect.command p.generatedOffer message).isOk

theorem handleMessage_call (p : Progress) (raw : Option Value) (outcome : Outcome) :
    (handleMessage p raw outcome).call.isSome = asks p raw := by
  have parse : dialect.parse raw = parseClientMessage raw := rfl
  simp only [handleMessage, VoxRtc.Gateway.handleMessage, asks, parse]
  cases parseClientMessage raw with
  | error error => rfl
  | ok message =>
    by_cases second : message.type = "rtc.offer" ∧ p.pendingOfferId.isSome
    · simp [VoxRtc.Gateway.handleCommand, second]
    · simp only [VoxRtc.Gateway.handleCommand, second, if_false]
      have first : (message.type == "rtc.offer" && p.pendingOfferId.isSome) = false := by
        simpa using second
      rw [first]
      cases dialect.command p.generatedOffer message with
      | error error => rfl
      | ok call => cases outcome <;> rfl

/-- `gateway.ready` has been sent after the hook succeeded, and the session is open. -/
def Window (earlier : List Event) : Prop :=
  .createdSettled true ∈ earlier ∧ .ready ∈ earlier ∧ .sessionClose ∉ earlier

/-- Every browser frame that reaches the control session does so within the window. -/
def CommandsInWindow (C : VoxRtcGateway → Label → Prop) : Prop :=
  ∀ g, lifecycle.Reaches C g → ∀ c ∈ g.conns, Each .command Window c.trace

namespace VoxRtcGateway

/-- A frame that asks for a session call finds the setup over and no close begun. -/
def Timely (g : VoxRtcGateway) : Label → Prop
  | .conn i (.browserFrame raw _) => ∀ c ∈ g.conns[i]?,
      asks c.progress raw = true → c.setupPending = false ∧ c.closePromise = none
  | _ => True

instance (g : VoxRtcGateway) : (l : Label) → Decidable (g.Timely l)
  | .conn i l => match l with
    | .browserFrame _ _ => inferInstanceAs (Decidable (∀ c ∈ g.conns[i]?, _))
    | .created _ | .createFails | .hookSettled _ _ | .closeAwaited | .openingSettled
    | .browserCloses | .browserClosed | .wireEvent _ _ | .closedHookSettles _ =>
      inferInstanceAs (Decidable True)
  | .upgrade | .gatewayClose _ | .callback _ | .visit _ | .swept | .closerResumes _ _ =>
    inferInstanceAs (Decidable True)

end VoxRtcGateway

theorem each_append {e : Event} {P : List Event → Prop} {events trace : List Event}
    (absent : e ∉ events) (each : Each e P trace) : Each e P (events ++ trace) := by
  induction events with
  | nil => exact each
  | cons x events ih =>
    rw [List.mem_cons, not_or] at absent
    exact ⟨fun same => absurd same.symm absent.1, ih absent.2⟩

namespace Connection

variable {c c' : Connection}

/-- The step adds nothing to the commands of the trace. -/
def Silent (c c' : Connection) : Prop :=
  ∃ events, c'.trace = events ++ c.trace ∧ .command ∉ events

theorem Silent.of_eq (same : c'.trace = c.trace) : Silent c c' := ⟨[], same, nofun⟩

theorem requestClose_silent (reason : String) : Silent c (c.requestClose reason) := by
  unfold requestClose
  split
  · exact .of_eq rfl
  · exact .of_eq (close_trace reason)

theorem awaitClose_trace (reason : String) : (c.awaitClose reason).trace = c.trace :=
  close_trace reason

theorem callback_silent {i : Nat} {b : Body} {throws : Bool}
    (taken : c.callback i b throws = some c') : Silent c c' := by
  unfold callback at taken
  split at taken
  · cases taken
    split
    · exact ⟨[.sessionClose], rfl, by decide⟩
    · exact .of_eq rfl
  · cases taken
    exact ⟨[.sessionClose], rfl, by decide⟩
  · cases taken
    exact ⟨[.closed], rfl, by decide⟩
  · cases taken
    split
    · exact ⟨[.closedSettled], rfl, by decide⟩
    · exact .of_eq rfl
  · cases taken
  · cases taken

theorem afterHook_silent (shutdownReason : Option String) (ok sends : Bool) :
    Silent c (c.afterHook shutdownReason ok sends) := by
  unfold afterHook
  split
  · simp only
    split
    · exact ⟨[.createdSettled ok], awaitClose_trace _, by simp⟩
    · split
      · exact ⟨[.ready, .createdSettled ok], rfl, by simp⟩
      · exact ⟨[.createdSettled ok], awaitClose_trace _, by simp⟩
  · exact ⟨[.createdSettled ok], awaitClose_trace _, by simp⟩

/-- Only a browser frame adds a command, and only one that asks for a session call. -/
theorem next_silent {shutdownReason : Option String} {l : ConnStep}
    (taken : c.next shutdownReason l = some c') : Silent c c' ∨ ∃ raw outcome,
      l = .browserFrame raw outcome ∧ asks c.progress raw = true ∧ c'.trace = .command :: c.trace := by
  cases next_cases taken with
  | created creating setup =>
    left
    unfold afterCreated
    split
    · exact .of_eq (awaitClose_trace _)
    · split
      · exact ⟨[.created], rfl, by decide⟩
      · exact .of_eq (awaitClose_trace _)
  | hookSettled hook ok sends => exact .inl (afterHook_silent shutdownReason ok sends)
  | disconnects session =>
    left
    exact requestClose_silent (c := { c with readyState := .closed, browserClosed := true }) _
  | ends subscribed event reason =>
    left
    exact requestClose_silent
      (c := { c with progress := (forwardEvent c.progress event).1 }) reason
  | frame listening raw outcome =>
    by_cases called : (handleMessage c.progress raw outcome).call.isSome
    · refine .inr ⟨raw, outcome, rfl, ?_, by simp [handleFrame, called]⟩
      rw [← handleMessage_call]
      exact called
    · exact .inl (.of_eq (by simp [handleFrame, called]))
  | hookSettles found awaiting => exact .inl ⟨[.closedSettled], rfl, by decide⟩
  | createFails | closeAwaited | openingSettled | browserCloses | leaves | forwards =>
    exact .inl (.of_eq rfl)

end Connection

namespace VoxRtcGateway

variable {g h : VoxRtcGateway}

/-- A timely command comes after `gateway.ready` and before any body of `#close`. -/
theorem window_of_timely {i : Nat} {c : Connection} (inv : Inv g) (idle : g.stack = [])
    (found : g.conns[i]? = some c) (listening : c.listening = true)
    (done : c.setupPending = false) (absent : c.closePromise = none) : Window c.trace := by
  have local_inv := inv.conns i c found
  have empty : c.bodies = [] := bodies_nil inv (fun b => by simp [idle]) found absent
  obtain ⟨ready, succeeded⟩ := local_inv.ready (local_inv.listening listening) done empty
  refine ⟨succeeded, ready, ?_⟩
  rw [← List.count_eq_zero, local_inv.closes, empty]
  rfl

private theorem commands_step {l : Label} (inv : Inv g)
    (each : ∀ c ∈ g.conns, Each .command Window c.trace) (timely : g.Timely l)
    (taken : g.step l = some h) : ∀ c ∈ h.conns, Each .command Window c.trace := by
  -- A step that adds no command keeps what held of those before.
  have silent {c c' : Connection} (member : c ∈ g.conns) (quiet : c.Silent c') :
      Each .command Window c'.trace := by
    obtain ⟨events, trace, absent⟩ := quiet
    exact trace ▸ each_append absent (each c member)
  cases l with
  | upgrade =>
    obtain ⟨_, ⟨_, rfl⟩ | ⟨_, rfl⟩⟩ := step_upgrade taken
    · exact each
    · exact Pool.forall_append each trivial
  | conn i l =>
    obtain ⟨c, c', idle, found, moved, rfl⟩ := step_conn taken
    refine Pool.forall_set each ?_
    have member := Pool.mem_of_read found
    rcases Connection.next_silent moved with quiet | ⟨raw, outcome, rfl, asked, trace⟩
    · exact silent member quiet
    -- The one step that hands a command to the session, inside its window.
    · obtain ⟨done, absent⟩ := timely c found asked
      simp only [Connection.next, Option.ite_none_right_eq_some] at moved
      rw [trace]
      exact ⟨fun _ => window_of_timely inv idle found moved.1.1 done absent, each c member⟩
  | gatewayClose reason =>
    rcases step_gatewayClose taken with ⟨_, rfl⟩ | ⟨_, rfl⟩
    · exact each
    · exact each
  | callback throws =>
    obtain ⟨_, _, _, _, _, _, _, found, _, ends, rfl⟩ := step_callback taken
    exact Pool.forall_set each (silent (Pool.mem_of_read found) (Connection.callback_silent ends))
  | visit i =>
    obtain ⟨_, _, _, _, closer, _, _, found, _, rfl⟩ := step_visit taken
    exact Pool.forall_set each
      (silent (Pool.mem_of_read found) (Connection.requestClose_silent closer.reason))
  | swept =>
    obtain ⟨_, _, _, _, _, _, _, rfl⟩ := step_swept taken
    exact each
  | closerResumes k throws =>
    obtain ⟨closer, _, _, resumed⟩ := step_closerResumes taken
    rcases resume_cases resumed with ⟨_, _, _, rfl | rfl⟩ | ⟨_, _, _, rfl⟩
    · exact each
    -- Sockets are closed, and nothing else is touched.
    · intro c member
      obtain ⟨i, found⟩ := List.mem_iff_getElem?.mp member
      obtain ⟨d, old, rfl | rfl⟩ := closeSockets_read found
      · exact each c (Pool.mem_of_read old)
      · exact each d (Pool.mem_of_read old)
    · exact each

end VoxRtcGateway

theorem commands_in_window {C : VoxRtcGateway → Label → Prop}
    (timely : ∀ g l, C g l → g.Timely l) : CommandsInWindow C := by
  intro g reached
  have both : VoxRtcGateway.Inv g ∧ ∀ c ∈ g.conns, Each .command Window c.trace := by
    refine System.Reaches.preserves
      (P := fun g => VoxRtcGateway.Inv g ∧ ∀ c ∈ g.conns, Each .command Window c.trace)
      ⟨VoxRtcGateway.inv_initial, fun c member => by cases member⟩
      (fun a l _ held meets taken => ?_) reached
    exact ⟨VoxRtcGateway.inv_step held.1 taken,
      VoxRtcGateway.commands_step held.1 held.2 (timely a l meets) taken⟩
  exact both.2

/-- A session is set up, takes an offer, and is torn down when the browser leaves. -/
def timelyRun : List Label :=
  [.upgrade, .conn 0 (.created true), .conn 0 (.hookSettled true true),
    .conn 0 (.browserFrame (some (VoxRtc.Gateway.offerFrame "a")) .done), .conn 0 .browserClosed,
    .callback false, .callback false, .callback false, .callback false,
    .conn 0 (.closedHookSettles 0)]

theorem commands_in_window_run : ∃ g, lifecycle.run .initial timelyRun = some g ∧
    g.conns.map Connection.trace = [[.closedSettled, .closed, .sessionClose, .command, .ready,
      .createdSettled true, .created]] ∧ ∀ c ∈ g.conns, Each .command Window c.trace :=
  ⟨_, rfl, rfl, commands_in_window (C := VoxRtcGateway.Timely) (fun _ _ => id) _
    (System.leads_of_run timelyRun (by decide) rfl)⟩

/-- The browser sends its offer while the hook is still deciding. -/
def earlyCommand : List Label :=
  [.upgrade, .conn 0 (.created true),
    .conn 0 (.browserFrame (some (VoxRtc.Gateway.offerFrame "a")) .done)]

/-- Vox closes the session, and a candidate that was under way arrives. -/
def lateCommand : List Label :=
  [.upgrade, .conn 0 (.created true), .conn 0 (.hookSettled true true),
    .conn 0 (.wireEvent ⟨"rtc.session.closed", []⟩ "bye"), .callback false, .callback false,
    .callback false, .conn 0 (.browserFrame (some (VoxRtc.Gateway.candidateFrame "b")) .done)]

theorem commands_out_of_window :
    (∃ g, lifecycle.run .initial earlyCommand = some g ∧
      g.conns.map Connection.trace = [[.command, .created]]) ∧
    (∃ g, lifecycle.run .initial lateCommand = some g ∧
      g.conns.map Connection.trace = [[.command, .closed, .sessionClose, .ready,
        .createdSettled true, .created]]) ∧
    ¬CommandsInWindow always := by
  refine ⟨⟨_, rfl, rfl⟩, ⟨_, rfl, rfl⟩, fun timely => ?_⟩
  have reached := System.reaches_of_run (M := lifecycle) earlyCommand rfl
  have window := (timely _ reached _ (.head _)).1 rfl
  exact absurd window.1 (by decide)

end VoxRtc.TypeScript.Gateway
