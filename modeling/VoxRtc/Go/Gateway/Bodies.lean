import VoxRtc.Go.Gateway.Lifecycle

/-!
# Who closes a session

The flag `closed` lets one goroutine into the body of `close` and sends every other one
back at once, whether or not that body has ended. So the bodies that run on a session are
none, one, and none again once it has settled; and the goroutine of a connection returns
from a closed session only.
-/
namespace VoxRtc.Go.Lifecycle

open Transition
open VoxRtc.Go.Gateway (trimSpace)

namespace GatewaySession

variable {s s' : GatewaySession}

/-- `OnSessionClosed` was invoked as often as it returned, once, and `active` is left. -/
structure Settled (s : GatewaySession) : Prop where
  hooks : s.trace.countP Event.isClosed = 1
  returned : s.trace.count .closedReturned = 1
  active : s.active = false

/-- What the trace says of the stage that the body has come to. -/
structure At (s : GatewaySession) (stage : CloseStage) : Prop where
  hooks : s.trace.countP Event.isClosed = if stage.hasHooked then 1 else 0
  returned : s.trace.count .closedReturned = if stage.hasReturned then 1 else 0

/-- The bodies of `close` that run on a session: none before `closed` is set, then one,
and none again once the session has settled. -/
inductive Accounts (s : GatewaySession) : List CloseStage → Prop
  | fresh (still : s.closed = false) (silent : s.trace = []) : Accounts s []
  | inside (stage : CloseStage) (closed : s.closed = true) (at_ : s.At stage) : Accounts s [stage]
  | settled (closed : s.closed = true) (settled : s.Settled) : Accounts s []

theorem Accounts.move {bodies : List CloseStage} (accounts : s.Accounts bodies)
    (closed : s'.closed = s.closed) (trace : s'.trace = s.trace)
    (active : s.closed = true → s'.active = s.active) : s'.Accounts bodies := by
  cases accounts with
  | fresh still silent => exact .fresh (closed.trans still) (trace.trans silent)
  | inside stage set at_ =>
    exact .inside stage (closed.trans set) ⟨trace ▸ at_.hooks, trace ▸ at_.returned⟩
  | settled set settled =>
    exact .settled (closed.trans set)
      ⟨trace ▸ settled.hooks, trace ▸ settled.returned, (active set).trans settled.active⟩

/-- A call past the guard is the only one. -/
private theorem Accounts.only {stage : CloseStage} {before after : List CloseStage}
    (accounts : s.Accounts (before ++ stage :: after)) :
    before = [] ∧ after = [] ∧ s.closed = true ∧ s.At stage := by
  generalize bodies : before ++ stage :: after = all at accounts
  cases accounts with
  | fresh => simp at bodies
  | inside other closed at_ =>
    cases before with
    | nil =>
      cases bodies
      exact ⟨rfl, rfl, closed, at_⟩
    | cons _ _ => simp at bodies
  | settled => simp at bodies

/-- One step of one call of `close`, with the bodies that other goroutines run beside it. -/
theorem accounts_close {call : CloseCall} {stage : CloseStage} {before after : List CloseStage}
    (accounts : s.Accounts (before ++ call.stage.body ++ after))
    (taken : s.close call = some (s', stage)) : s'.Accounts (before ++ stage.body ++ after) := by
  obtain ⟨reason, start⟩ := call
  cases start with
  | entering =>
    simp only [close, Option.some.injEq] at taken
    split at taken
    · cases taken
      exact accounts
    next still =>
      cases taken
      -- Nobody else is in a body, since `closed` was not set.
      generalize bodies : before ++ CloseStage.entering.body ++ after = all at accounts
      cases accounts with
      | fresh _ silent =>
        simp only [CloseStage.body, List.append_nil, List.append_eq_nil_iff] at bodies
        rw [bodies.1, bodies.2]
        exact .inside _ rfl ⟨by simp [silent, CloseStage.hasHooked],
          by simp [silent, CloseStage.hasReturned]⟩
      | inside _ closed | settled closed => exact absurd closed still
  | returned => cases taken
  -- From here on the body is the only one, for `closed` lets no other in.
  | delete =>
    cases taken
    rw [List.append_assoc] at accounts
    obtain ⟨rfl, rfl, closed, at_⟩ := accounts.only
    exact .settled closed ⟨at_.hooks, at_.returned, rfl⟩
  | unsubscribe requested =>
    cases taken
    rw [List.append_assoc] at accounts
    obtain ⟨rfl, rfl, closed, at_⟩ := accounts.only
    cases requested
    · exact .inside _ closed ⟨at_.hooks, at_.returned⟩
    · exact .inside _ closed ⟨at_.hooks, at_.returned⟩
  | closeRTC | sessionClose | onSessionClosed | writeClose =>
    cases taken
    rw [List.append_assoc] at accounts
    obtain ⟨rfl, rfl, closed, hooks, returned⟩ := accounts.only
    refine .inside _ closed ⟨?_, ?_⟩
    · simp only [CloseStage.hasHooked] at hooks ⊢
      simp [List.countP_cons, Event.isClosed, hooks]
    · simp only [CloseStage.hasReturned] at returned ⊢
      simp [returned]

/-- Once set, `closed` stays. -/
theorem close_closed {call : CloseCall} {stage : CloseStage}
    (taken : s.close call = some (s', stage)) (closed : s.closed = true) : s'.closed = true := by
  unfold close at taken
  split at taken
  · rw [if_pos closed] at taken
    cases taken
    exact closed
  all_goals cases taken
  all_goals exact closed

/-- A call of `close` on a closed session that is not in its body comes back. -/
theorem body_close {call : CloseCall} {stage : CloseStage}
    (closed : s.closed = true) (out : call.stage.body = []) (taken : s.close call = some (s', stage)) :
    stage.body = [] := by
  obtain ⟨reason, start⟩ := call
  cases start with
  | entering =>
    simp only [close, closed, if_true, Option.some.injEq] at taken
    cases taken
    rfl
  | returned => cases taken
  | unsubscribe | closeRTC | sessionClose | onSessionClosed | writeClose | delete => cases out

/-- A call of `close` comes back from a closed session only. -/
theorem close_returned {call : CloseCall} {bodies : List CloseStage}
    (accounts : s.Accounts bodies) (within : ∀ stage ∈ call.stage.body, stage ∈ bodies)
    (taken : s.close call = some (s', .returned)) : s'.closed = true := by
  obtain ⟨reason, start⟩ := call
  cases start with
  | entering =>
    simp only [close, Option.some.injEq] at taken
    split at taken
    next closed =>
      cases taken
      exact closed
    · cases taken
  | delete =>
    cases taken
    have member := within .delete (.head _)
    cases accounts with
    | fresh | settled => cases member
    | inside _ closed => exact closed
  | unsubscribe requested =>
    cases requested <;> cases taken
  | closeRTC | sessionClose | onSessionClosed | writeClose | returned => cases taken

end GatewaySession

/-- What one step does to a session and to the bodies of `close` that run on it. -/
inductive Moves : Option GatewaySession → List CloseStage →
    Option GatewaySession → List CloseStage → Prop
  | same (s : Option GatewaySession) (bodies : List CloseStage) : Moves s bodies s bodies
  | created (bodies : List CloseStage) : Moves none bodies (some .initial) bodies
  | touched {s s' : GatewaySession} (bodies : List CloseStage) (closed : s'.closed = s.closed)
      (trace : s'.trace = s.trace) (active : s.closed = true → s'.active = s.active) :
      Moves (some s) bodies (some s') bodies
  | closing {s s' : GatewaySession} {call : CloseCall} {stage : CloseStage}
      (before after : List CloseStage) (taken : s.close call = some (s', stage)) :
      Moves (some s) (before ++ call.stage.body ++ after) (some s') (before ++ stage.body ++ after)

/-- No body runs before there is a session. -/
def Tracked : Option GatewaySession → List CloseStage → Prop
  | none, bodies => bodies = []
  | some s, bodies => s.Accounts bodies

section Moves

variable {s s' : Option GatewaySession} {bodies bodies' : List CloseStage}

theorem Moves.tracked (moves : Moves s bodies s' bodies') (tracked : Tracked s bodies) :
    Tracked s' bodies' := by
  cases moves with
  | same => exact tracked
  | created =>
    cases tracked
    exact .fresh rfl rfl
  | touched _ closed trace active => exact GatewaySession.Accounts.move tracked closed trace active
  | closing before after taken => exact GatewaySession.accounts_close tracked taken

theorem Moves.closed (moves : Moves s bodies s' bodies')
    (closed : s.any GatewaySession.closed = true) : s'.any GatewaySession.closed = true := by
  cases moves with
  | same => exact closed
  | created => cases closed
  | touched _ same => exact same.trans closed
  | closing _ _ taken => exact GatewaySession.close_closed taken closed

/-- Nobody enters the body of a `close` once the session is closed. -/
theorem Moves.still (moves : Moves s bodies s' bodies') (closed : ∀ a ∈ s, a.closed = true)
    (out : bodies = []) : bodies' = [] := by
  cases moves with
  | same | created | touched => exact out
  | closing before after taken =>
    simp only [List.append_eq_nil_iff] at out ⊢
    exact ⟨⟨out.1.1, GatewaySession.body_close (closed _ rfl) out.1.2 taken⟩, out.2⟩

end Moves

namespace Connection

variable {c c' : Connection}

/-- The session is there from its creation on, and closed when the goroutine returns. -/
structure Inv (c : Connection) : Prop where
  early : c.serving = .upgrading ∨ c.serving = .creating → c.session = none
  left : c.serving = .returning ∨ c.serving = .ended → ∀ s ∈ c.session, s.closed = true

theorem inv_initial : initial.Inv := ⟨fun _ => rfl, nofun⟩

/-! ## What the goroutines do -/

theorem next_registers {shutdownReason : String} (taken : c.next shutdownReason .registers = some c') :
    ∃ s, c.session = some s ∧ c.serving = .registering ∧ c' = c.register shutdownReason s := by
  simp only [next, Option.bind_eq_bind, Option.bind_eq_some_iff,
    Option.ite_none_right_eq_some, Option.some.injEq] at taken
  obtain ⟨s, present, stands, rfl⟩ := taken
  exact ⟨s, present, stands, rfl⟩

theorem next_reads {shutdownReason : String} {raw : Option Gateway.Value}
    (taken : c.next shutdownReason (.reads raw) = some c') :
    ∃ s, c.session = some s ∧ c.serving = .reading ∧ c' = { c with session := some { s with
      rtcCloseRequested := s.rtcCloseRequested || closesRTC raw } } := by
  simp only [next, Option.bind_eq_bind, Option.bind_eq_some_iff,
    Option.ite_none_right_eq_some, Option.some.injEq] at taken
  obtain ⟨s, present, stands, rfl⟩ := taken
  exact ⟨s, present, stands, rfl⟩

theorem next_closes {shutdownReason : String} (taken : c.next shutdownReason .closes = some c') :
    ∃ call s s' stage, c.serving = .closing call ∧ c.session = some s ∧
      s.close call = some (s', stage) ∧ c' = { c with
        session := some s'
        serving := if stage = .returned then .returning else .closing ⟨call.reason, stage⟩ } := by
  simp only [next] at taken
  split at taken
  next call stands =>
    simp only [Option.bind_eq_bind, Option.bind_eq_some_iff, Option.pure_def,
      Option.some.injEq] at taken
    obtain ⟨s, present, ⟨s', stage⟩, closes, rfl⟩ := taken
    exact ⟨call, s, s', stage, stands, present, closes, rfl⟩
  next => cases taken

/-- A delivery that is not in the body of `close` marks the session at most. -/
theorem deliver_cases {k : Nat} (taken : c.deliver k = some c') :
    ∃ s d, c.session = some s ∧ c.deliveries[k]? = some d ∧
      ((∃ sent, d.body = [] ∧ sent.body = [] ∧
          c' = { c with deliveries := c.deliveries.set k sent }) ∨
        (∃ flagged, d.body = [] ∧ flagged.body = [] ∧ c' = { c with
          session := some { s with rtcCloseRequested := true }
          deliveries := c.deliveries.set k flagged }) ∨
        ∃ call s' stage, d = .closing call ∧ s.close call = some (s', stage) ∧ c' = { c with
          session := some s'
          deliveries := c.deliveries.set k (.closing ⟨call.reason, stage⟩) }) := by
  simp only [deliver, Option.bind_eq_bind, Option.bind_eq_some_iff, Option.pure_def] at taken
  obtain ⟨s, present, d, found, taken⟩ := taken
  refine ⟨s, d, present, found, ?_⟩
  split at taken
  next type reason =>
    cases taken
    refine .inl ⟨_, rfl, ?_, rfl⟩
    split <;> rfl
  next reason =>
    cases taken
    exact .inr (.inl ⟨_, rfl, rfl, rfl⟩)
  next call =>
    simp only [Option.bind_eq_some_iff, Option.some.injEq] at taken
    obtain ⟨⟨s', stage⟩, closes, rfl⟩ := taken
    exact .inr (.inr ⟨call, s', stage, rfl, closes, rfl⟩)
  next => cases taken

@[simp] theorem body_closeCall (reason : String) :
    (GatewaySession.closeCall reason).stage.body = [] := rfl

/-- The goroutine moves on and no body of `close` starts or ends. -/
private theorem moves_serving (rest : List CloseStage) (session : c'.session = c.session)
    (deliveries : c'.deliveries = c.deliveries) (before : c.serving.body = [])
    (after : c'.serving.body = []) :
    Moves c.session (c.body ++ rest) c'.session (c'.body ++ rest) := by
  unfold body
  rw [session, deliveries, before, after]
  exact .same _ _

theorem next_moves (inv : c.Inv) {shutdownReason : String} {l : ConnStep} (rest : List CloseStage)
    (taken : c.next shutdownReason l = some c') :
    Moves c.session (c.body ++ rest) c'.session (c'.body ++ rest) := by
  cases l with
  | upgraded ok | readySent ok | hookReturned ok =>
    simp only [next, Option.ite_none_right_eq_some, Option.some.injEq] at taken
    obtain ⟨stands, rfl⟩ := taken
    refine moves_serving rest rfl rfl (by rw [stands]; rfl) ?_
    cases ok <;> rfl
  | readFails | done =>
    simp only [next, Option.ite_none_right_eq_some, Option.some.injEq] at taken
    obtain ⟨stands, rfl⟩ := taken
    exact moves_serving rest rfl rfl (by rw [stands]; rfl) rfl
  | created ok =>
    simp only [next, Option.ite_none_right_eq_some, Option.some.injEq] at taken
    obtain ⟨stands, rfl⟩ := taken
    have absent := inv.early (.inr stands)
    cases ok with
    | false => exact moves_serving rest rfl rfl (by rw [stands]; rfl) rfl
    | true =>
      have same : c.body = { c with serving := .hook, session := some .initial }.body := by
        unfold body
        rw [stands]
        rfl
      rw [absent, same]
      exact .created _
  -- Registering looks at `closed` before it writes to the session.
  | registers =>
    obtain ⟨s, present, stands, rfl⟩ := next_registers taken
    have before : c.serving.body = [] := by rw [stands]; rfl
    unfold register
    split
    · exact moves_serving rest rfl rfl before rfl
    next still =>
      split
      · exact moves_serving rest rfl rfl before rfl
      · have same : c.body =
            { c with session := some { s with active := true }, serving := .sending }.body := by
          unfold body
          rw [before]
          rfl
        rw [present, same]
        exact .touched _ rfl rfl fun closed => absurd closed still
  | reads raw =>
    obtain ⟨s, present, _, rfl⟩ := next_reads taken
    rw [present]
    exact .touched _ rfl rfl fun _ => rfl
  | closes =>
    obtain ⟨call, s, s', stage, stands, present, closes, rfl⟩ := next_closes taken
    have after : (if stage = .returned then Serving.returning
        else .closing ⟨call.reason, stage⟩).body = stage.body := by
      split
      next back => rw [back]; rfl
      · rfl
    unfold body
    rw [present, stands, after]
    simpa [Serving.body] using
      Moves.closing [] (c.deliveries.flatMap Delivery.body ++ rest) closes

theorem deliver_moves {k : Nat} (rest : List CloseStage) (taken : c.deliver k = some c') :
    Moves c.session (c.body ++ rest) c'.session (c'.body ++ rest) := by
  obtain ⟨s, d, present, found, deliveries⟩ := deliver_cases taken
  have unmoved (d' : Delivery) (same : d'.body = d.body) : c.body =
      { c with deliveries := c.deliveries.set k d' }.body := by
    unfold body
    rw [Pool.flatMap_set_same _ found same]
  rcases deliveries with ⟨sent, out, still, rfl⟩ | ⟨flagged, out, still, rfl⟩ |
    ⟨call, s', stage, rfl, closes, rfl⟩
  · rw [unmoved sent (still.trans out.symm)]
    exact .same _ _
  · rw [present, unmoved flagged (still.trans out.symm)]
    exact .touched _ rfl rfl fun _ => rfl
  · obtain ⟨before, after, split, set⟩ := Pool.split_at found
    unfold body
    rw [present, set, split]
    simpa [Delivery.body] using
      Moves.closing (c.serving.body ++ before.flatMap Delivery.body)
        (after.flatMap Delivery.body ++ rest) closes

/-- The goroutine is past the creation and has not returned. -/
private theorem inv_between (early : c.serving ≠ .upgrading ∧ c.serving ≠ .creating)
    (left : c.serving ≠ .returning ∧ c.serving ≠ .ended) : c.Inv :=
  ⟨fun stands => absurd stands (not_or.mpr early), fun stands => absurd stands (not_or.mpr left)⟩

theorem inv_next (inv : c.Inv) {rest : List CloseStage} (tracked : Tracked c.session (c.body ++ rest))
    {shutdownReason : String} {l : ConnStep} (taken : c.next shutdownReason l = some c') :
    c'.Inv := by
  cases l with
  | upgraded ok =>
    simp only [next, Option.ite_none_right_eq_some, Option.some.injEq] at taken
    obtain ⟨stands, rfl⟩ := taken
    have absent := inv.early (.inl stands)
    exact ⟨fun _ => absent, fun _ => by simp [absent]⟩
  | created ok =>
    simp only [next, Option.ite_none_right_eq_some, Option.some.injEq] at taken
    obtain ⟨stands, rfl⟩ := taken
    have absent := inv.early (.inr stands)
    cases ok with
    | false => exact ⟨fun _ => absent, fun _ => by simp [absent]⟩
    | true => exact inv_between ⟨nofun, nofun⟩ ⟨nofun, nofun⟩
  | hookReturned ok | readySent ok =>
    simp only [next, Option.ite_none_right_eq_some, Option.some.injEq] at taken
    obtain ⟨stands, rfl⟩ := taken
    cases ok <;> exact inv_between ⟨nofun, nofun⟩ ⟨nofun, nofun⟩
  | registers =>
    obtain ⟨s, present, stands, rfl⟩ := next_registers taken
    unfold register
    split
    next closed =>
      refine ⟨fun other => by cases other <;> contradiction, fun _ s' here => ?_⟩
      cases present.symm.trans here
      exact closed
    · split <;> exact inv_between ⟨nofun, nofun⟩ ⟨nofun, nofun⟩
  | reads raw =>
    obtain ⟨s, present, stands, rfl⟩ := next_reads taken
    exact inv_between (by simp [stands]) (by simp [stands])
  | readFails =>
    simp only [next, Option.ite_none_right_eq_some, Option.some.injEq] at taken
    obtain ⟨stands, rfl⟩ := taken
    exact inv_between ⟨nofun, nofun⟩ ⟨nofun, nofun⟩
  | closes =>
    obtain ⟨call, s, s', stage, stands, present, closes, rfl⟩ := next_closes taken
    by_cases back : stage = .returned
    -- The call has returned, so the session is closed.
    · subst back
      rw [present] at tracked
      refine ⟨fun other => by cases other <;> contradiction, fun _ t here => ?_⟩
      cases here
      refine GatewaySession.close_returned tracked (fun stage member => ?_) closes
      simp [body, stands, Serving.body, member]
    · refine inv_between ?_ ?_ <;> simp [back]
  | done =>
    simp only [next, Option.ite_none_right_eq_some, Option.some.injEq] at taken
    obtain ⟨stands, rfl⟩ := taken
    exact ⟨fun other => by cases other <;> contradiction, fun _ => inv.left (.inl stands)⟩

/-- Another goroutine closes the session or adds to the deliveries. -/
theorem Inv.move (inv : c.Inv) (serving : c'.serving = c.serving)
    (session : c.session = none → c'.session = none)
    (closed : (∀ s ∈ c.session, s.closed = true) → ∀ s ∈ c'.session, s.closed = true) : c'.Inv :=
  ⟨fun stands => session (inv.early (serving ▸ stands)),
    fun stands => closed (inv.left (serving ▸ stands))⟩

theorem inv_deliver {k : Nat} (inv : c.Inv) (taken : c.deliver k = some c') : c'.Inv := by
  obtain ⟨s, d, present, found, ⟨sent, _, _, rfl⟩ | ⟨flagged, _, _, rfl⟩ |
    ⟨call, s', stage, rfl, closes, rfl⟩⟩ := deliver_cases taken
  · exact inv.move rfl id id
  · refine inv.move rfl (by simp [present]) fun closed t here => ?_
    cases here
    exact closed s present
  · refine inv.move rfl (by simp [present]) fun closed t here => ?_
    cases here
    exact GatewaySession.close_closed closes (closed s present)

/-- Once the goroutine is gone, no other one runs a body of `close`. -/
def Quiet (c : Connection) : Prop :=
  c.serving = .ended → ∀ d ∈ c.deliveries, d.body = []

theorem quiet_next {shutdownReason : String} {l : ConnStep}
    (counted : l = .done → ∀ d ∈ c.deliveries, d.body = [])
    (taken : c.next shutdownReason l = some c') : c'.Quiet := by
  intro ended
  cases l with
  | upgraded ok | hookReturned ok | readySent ok | created ok =>
    simp only [next, Option.ite_none_right_eq_some, Option.some.injEq] at taken
    obtain ⟨_, rfl⟩ := taken
    cases ok <;> cases ended
  | readFails =>
    simp only [next, Option.ite_none_right_eq_some, Option.some.injEq] at taken
    obtain ⟨_, rfl⟩ := taken
    cases ended
  | registers =>
    obtain ⟨s, present, _, rfl⟩ := next_registers taken
    unfold register at ended
    split at ended
    · cases ended
    · split at ended <;> cases ended
  | reads raw =>
    obtain ⟨s, present, stands, rfl⟩ := next_reads taken
    cases stands.symm.trans ended
  | closes =>
    obtain ⟨_, _, _, _, _, _, _, rfl⟩ := next_closes taken
    simp only at ended
    split at ended <;> cases ended
  | done =>
    simp only [next, Option.ite_none_right_eq_some, Option.some.injEq] at taken
    obtain ⟨_, rfl⟩ := taken
    exact counted rfl

theorem quiet_deliver {k : Nat} (inv : c.Inv) (quiet : c.Quiet) (taken : c.deliver k = some c') :
    c'.Quiet := by
  intro ended
  obtain ⟨s, d, present, found, ⟨sent, _, still, rfl⟩ | ⟨flagged, _, still, rfl⟩ |
    ⟨call, s', stage, rfl, closes, rfl⟩⟩ := deliver_cases taken
  · exact Pool.forall_set (quiet ended) still
  · exact Pool.forall_set (quiet ended) still
  · have closed := inv.left (.inr ended) s present
    have out := quiet ended _ (Pool.mem_of_read found)
    exact Pool.forall_set (quiet ended) (GatewaySession.body_close closed out closes)

end Connection

end VoxRtc.Go.Lifecycle
