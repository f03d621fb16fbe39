import VoxRtc.Go.Gateway.Shutdown

/-!
# The registry of the Go gateway

A session enters `active` in a section that holds both mutexes and looks at `closed`, and
leaves it at the end of the body of `close`. So a closed session is in `active` only while
that body runs.
-/
namespace VoxRtc.Go.Lifecycle

open Transition

namespace GatewaySession

variable {s s' : GatewaySession}

/-- `Session.Close` and `OnSessionClosed` are called in pairs. -/
def Paired (s : GatewaySession) : Prop :=
  s.trace.count .sessionClose = s.trace.countP Event.isClosed

theorem close_paired {call : CloseCall} {stage : CloseStage} (paired : s.Paired)
    (taken : s.close call = some (s', stage)) : s'.Paired := by
  unfold close at taken
  unfold Paired at paired ⊢
  split at taken
  · split at taken <;> cases taken <;> exact paired
  all_goals cases taken
  all_goals simp [List.countP_cons, Event.isClosed, paired]

/-- `close` adds nothing to the registry. -/
theorem close_active {call : CloseCall} {stage : CloseStage}
    (out : s.active = false) (taken : s.close call = some (s', stage)) : s'.active = false := by
  unfold close at taken
  split at taken
  · split at taken <;> cases taken <;> exact out
  all_goals cases taken
  all_goals first | exact out | rfl

end GatewaySession

section Moves

variable {s s' : Option GatewaySession} {bodies bodies' : List CloseStage}

theorem Moves.paired (moves : Moves s bodies s' bodies') (paired : ∀ a ∈ s, a.Paired) :
    ∀ a ∈ s', a.Paired := by
  intro a here
  cases moves with
  | same => exact paired a here
  | created =>
    cases here
    rfl
  | @touched t _ _ _ trace _ =>
    cases here
    have before := paired t rfl
    unfold GatewaySession.Paired at before ⊢
    rwa [trace]
  | closing _ _ taken =>
    cases here
    exact GatewaySession.close_paired (paired _ rfl) taken

/-- A closed session that is not registered is not registered any more. -/
theorem Moves.unregistered (moves : Moves s bodies s' bodies') {a : GatewaySession}
    (here : s = some a) (closed : a.closed = true) (out : a.active = false) :
    ∃ b, s' = some b ∧ b.closed = true ∧ b.active = false := by
  cases moves with
  | same => exact ⟨a, here, closed, out⟩
  | created => cases here
  | touched _ flag _ active =>
    cases here
    exact ⟨_, rfl, flag.trans closed, (active closed).trans out⟩
  | closing _ _ taken =>
    cases here
    exact ⟨_, rfl, GatewaySession.close_closed taken closed, GatewaySession.close_active out taken⟩

end Moves

namespace Connection

variable {c c' : Connection}

/-- The section that registers the session lies ahead. -/
def unregistered (c : Connection) : Bool :=
  match c.serving with
  | .upgrading | .creating | .hook | .registering => true
  | _ => false

def Early (c : Connection) : Prop := c.unregistered = true → ∀ s ∈ c.session, s.active = false

theorem early_next {shutdownReason : String} {l : ConnStep} (early : c.Early)
    (taken : c.next shutdownReason l = some c') : c'.Early := by
  intro ahead s here
  cases l with
  | upgraded ok =>
    simp only [next, Option.ite_none_right_eq_some, Option.some.injEq] at taken
    obtain ⟨stands, rfl⟩ := taken
    exact early (by simp [unregistered, stands]) s here
  -- The session that has been made is open.
  | created ok =>
    simp only [next, Option.ite_none_right_eq_some, Option.some.injEq] at taken
    obtain ⟨stands, rfl⟩ := taken
    cases ok with
    | false => cases ahead
    | true =>
      cases here
      rfl
  | hookReturned ok =>
    simp only [next, Option.ite_none_right_eq_some, Option.some.injEq] at taken
    obtain ⟨stands, rfl⟩ := taken
    exact early (by simp [unregistered, stands]) s here
  | registers =>
    obtain ⟨t, present, _, rfl⟩ := next_registers taken
    -- Whatever the section decides, it is over.
    unfold register at ahead
    split at ahead
    · cases ahead
    · split at ahead <;> cases ahead
  | readySent ok =>
    simp only [next, Option.ite_none_right_eq_some, Option.some.injEq] at taken
    obtain ⟨_, rfl⟩ := taken
    cases ok <;> cases ahead
  | reads raw =>
    obtain ⟨t, present, stands, rfl⟩ := next_reads taken
    simp [unregistered, stands] at ahead
  | readFails =>
    simp only [next, Option.ite_none_right_eq_some, Option.some.injEq] at taken
    obtain ⟨_, rfl⟩ := taken
    cases ahead
  | closes =>
    obtain ⟨_, _, _, stage, _, _, _, rfl⟩ := next_closes taken
    by_cases back : stage = .returned <;> simp [unregistered, back] at ahead
  | done =>
    simp only [next, Option.ite_none_right_eq_some, Option.some.injEq] at taken
    obtain ⟨_, rfl⟩ := taken
    cases ahead

/-- Another goroutine moves the session, or none does. -/
theorem Early.move (early : c.Early) (serving : c'.serving = c.serving)
    (active : (∀ s ∈ c.session, s.active = false) → ∀ s ∈ c'.session, s.active = false) :
    c'.Early := by
  intro ahead
  refine active (early ?_)
  unfold unregistered at ahead ⊢
  rwa [serving] at ahead

theorem early_deliver {k : Nat} (early : c.Early) (taken : c.deliver k = some c') :
    c'.Early := by
  obtain ⟨s, d, present, found, ⟨sent, _, _, rfl⟩ | ⟨flagged, _, _, rfl⟩ |
    ⟨call, s', stage, rfl, closes, rfl⟩⟩ := deliver_cases taken
  · exact early.move rfl id
  · refine early.move rfl fun out t here => ?_
    cases here
    exact out s present
  · refine early.move rfl fun out t here => ?_
    cases here
    exact GatewaySession.close_active (out s present) closes

end Connection

namespace Gateway

variable {g h : Gateway}

theorem early_step {l : Label} (early : ∀ c ∈ g.conns, c.Early) (taken : g.step l = some h) :
    ∀ c ∈ h.conns, c.Early := by
  cases l with
  | request =>
    rcases step_request taken with ⟨_, rfl⟩ | ⟨_, rfl⟩
    · exact Pool.forall_append early fun _ s here => (by cases here)
    · exact early
  | conn i l =>
    obtain ⟨c, c', found, moved, rfl⟩ := step_conn taken
    exact Pool.forall_set early (Connection.early_next (early c (Pool.mem_of_read found)) moved)
  | event i type reason =>
    obtain ⟨c, found, rfl⟩ := step_event taken
    exact Pool.forall_set early ((early c (Pool.mem_of_read found)).move rfl id)
  | deliver i k =>
    obtain ⟨c, c', found, moved, rfl⟩ := step_deliver taken
    exact Pool.forall_set early
      (Connection.early_deliver (early c (Pool.mem_of_read found)) moved)
  | close reason =>
    obtain ⟨_, _, rfl⟩ := step_close taken
    exact early
  | closer k pick =>
    obtain ⟨closer, stage, found, steps⟩ := step_closer taken
    rcases steps.conns with ⟨conns, _⟩ | ⟨i, c, s, s', call, after, here, present, closes, conns, _⟩
    · exact conns ▸ early
    · rw [conns]
      refine Pool.forall_set early ((early c (Pool.mem_of_read here)).move rfl fun out t same => ?_)
      cases same
      exact GatewaySession.close_active (out s present) closes

theorem early_reaches {C : Gateway → Label → Prop} (reached : lifecycle.Reaches C g) :
    ∀ c ∈ g.conns, c.Early := by
  refine System.Reaches.preserves (P := fun g => ∀ c ∈ g.conns, c.Early) ?_ ?_ reached
  · intro c member
    cases member
  · exact fun _ _ _ early _ taken => early_step early taken

theorem invariant {C : Gateway → Label → Prop} (reached : lifecycle.Reaches C g) : Inv g :=
  System.Reaches.preserves inv_initial (fun _ _ _ inv _ taken => inv_step inv taken) reached

theorem paired {C : Gateway → Label → Prop} (reached : lifecycle.Reaches C g) (i : Nat) :
    ∀ s ∈ g.session i, s.Paired := by
  induction reached with
  | here =>
    intro s here
    cases here
  | step l earlier _ taken ih =>
    exact (step_moves (invariant earlier).conns taken i).paired ih

/-- A session that is closed and not registered stays so. -/
theorem stays_unregistered {s : GatewaySession} {i : Nat} (inv : Inv g)
    (present : g.session i = some s) (closed : s.closed = true) (out : s.active = false)
    (onward : lifecycle.Leads always g h) :
    ∃ t, h.session i = some t ∧ t.closed = true ∧ t.active = false := by
  have kept : Inv h ∧ ∃ t, h.session i = some t ∧ t.closed = true ∧ t.active = false := by
    induction onward with
    | here => exact ⟨inv, s, present, closed, out⟩
    | step l _ _ taken ih =>
      obtain ⟨inv', t, here, closed', out'⟩ := ih
      exact ⟨inv_step inv' taken, (step_moves inv'.conns taken i).unregistered here closed' out'⟩
  exact kept.2

/-- What holds of the sessions and of the registry. -/
structure Registry (g : Gateway) : Prop where
  /-- The body of `close` runs once at most, and so do the calls in it. -/
  once : ∀ i, ∀ s ∈ g.session i, (g.bodies i).length ≤ 1 ∧ s.trace.count .sessionClose ≤ 1 ∧
    s.trace.countP Event.isClosed ≤ 1
  /-- It has run when a closed session is in nobody's body of `close`. -/
  ran : ∀ i, ∀ s ∈ g.session i, s.closed = true → g.bodies i = [] →
    s.trace.count .sessionClose = 1 ∧ s.trace.countP Event.isClosed = 1
  /-- A session is closed when its connection's goroutine returns. -/
  closed : ∀ c ∈ g.conns, c.serving = .returning ∨ c.serving = .ended →
    ∀ s ∈ c.session, s.closed = true
  /-- Once closed before its registration, a session is never registered. -/
  skipped : ∀ i, ∀ c ∈ g.conns[i]?, c.unregistered = true → ∀ s ∈ c.session, s.closed = true →
    ∀ h, lifecycle.Leads always g h → ∀ t ∈ h.session i, t.active = false
  /-- The registry holds no closed session while nobody closes it. -/
  clean : ∀ i, g.bodies i = [] → ∀ s ∈ g.session i, s.active = true → s.closed = false

end Gateway

/-- The registry under every interleaving. -/
theorem registry_kept {g : Gateway} (reached : lifecycle.Reaches always g) : g.Registry := by
  have inv := Gateway.invariant reached
  have pairs := Gateway.paired reached
  have accounts (i : Nat) (s : GatewaySession) (here : g.session i = some s) :
      s.Accounts (g.bodies i) := by
    have tracked := inv.tracked i
    rwa [here] at tracked
  constructor
  · intro i s here
    have pair := pairs i s here
    have account := accounts i s here
    unfold GatewaySession.Paired at pair
    rw [pair]
    generalize g.bodies i = bodies at account
    -- As many hooks as bodies have got that far, and at most one body at a time.
    cases account with
    | fresh still silent => simp [silent]
    | inside stage closed at_ =>
      have hooks := at_.hooks
      refine ⟨Nat.le_refl 1, ?_, ?_⟩ <;> split at hooks <;> omega
    | settled closed settled => simp [settled.hooks]
  · intro i s here closed out
    have pair := pairs i s here
    have account := accounts i s here
    unfold GatewaySession.Paired at pair
    rw [pair, and_self]
    rw [out] at account
    cases account with
    | fresh still => exact absurd closed (ne_true_of_eq_false still)
    | settled _ settled => exact settled.hooks
  · intro c member
    exact (inv.conns c member).left
  · intro i c found ahead s present closed h onward t there
    have here : g.session i = some s := by
      rw [Gateway.session, Option.mem_def.mp found]
      exact present
    -- A connection that stands before its registration has not been registered.
    have out := Gateway.early_reaches reached c (Pool.mem_of_read found) ahead s present
    obtain ⟨t', same, _, out'⟩ := Gateway.stays_unregistered inv here closed out onward
    cases same.symm.trans there
    exact out'
  · intro i out s here active
    have account := accounts i s here
    rw [out] at account
    cases account with
    | fresh still => exact still
    | settled _ settled => exact absurd active (ne_true_of_eq_false settled.active)

/-- Vox ends the session while `OnSessionCreated` runs. -/
def hookClosedRun : List Label :=
  [.request, .conn 0 (.upgraded true), .conn 0 (.created true),
    .event 0 "rtc.session.closed" "peer_gone", .deliver 0 0, .deliver 0 0, .deliver 0 0,
    .deliver 0 0, .deliver 0 0, .deliver 0 0, .deliver 0 0, .conn 0 (.hookReturned true),
    .conn 0 .registers, .deliver 0 0]

theorem registry_kept_run : ∃ g, lifecycle.run .initial hookClosedRun = some g ∧
    g.conns.map Connection.serving = [.returning] ∧ g.activeSessions = [] ∧ g.Registry := by
  refine ⟨_, rfl, rfl, rfl, ?_⟩
  exact registry_kept (System.reaches_of_run (M := lifecycle) hookClosedRun rfl)

end VoxRtc.Go.Lifecycle
