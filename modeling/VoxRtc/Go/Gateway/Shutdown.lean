import VoxRtc.Go.Gateway.Bodies

/-!
# Shutdown of the Go gateway

The wait group counts the goroutines of the connections and no others, so `Close` waits
for the body of a `close` as long as it runs on one of these. A body that an event started
is waited for only while the connection's own goroutine is there as well.
-/
namespace VoxRtc.Go.Lifecycle

open Transition
open VoxRtc.Go.Gateway (trimSpace)

namespace Gateway

variable {g h : Gateway}

/-- One connection moves; the calls of `Close` stand where they stood. -/
private theorem moves_set {i : Nat} {c c' : Connection} (found : g.conns[i]? = some c)
    (moves : ∀ rest, Moves c.session (c.body ++ rest) c'.session (c'.body ++ rest))
    (conns : h.conns = g.conns.set i c') (closers : h.closers = g.closers) (j : Nat) :
    Moves (g.session j) (g.bodies j) (h.session j) (h.bodies j) := by
  unfold session bodies
  rw [conns, closers]
  by_cases same : j = i
  · rw [same, Pool.read_set_self found, found]
    exact moves _
  · rw [Pool.read_set_other same]
    exact .same _ _

/-- What a call of `Close` has seen on its way to where it stands. -/
def Holds (g : Gateway) (closer : Closer) : Prop :=
  closer.reason ≠ "" ∧ match closer.stage with
    | .closing _ | .session _ _ _ | .waiting | .disconnecting => g.shutdownReason ≠ ""
    | .closingDone => g.disconnected = true
    | .awaiting | .returned => g.closeDone = true
    | .entering | .snapshotting => True

/-- The call goes on with `close` on one session. -/
structure ClosesOne (g : Gateway) (closer : Closer) (h : Gateway) (stage : CloserStage) : Prop where
  moves : ∃ i c s s' call after, g.conns[i]? = some c ∧ c.session = some s ∧
    GatewaySession.close s call = some (s', after) ∧
    h.conns = g.conns.set i { c with session := some s' } ∧
    (∀ j, closer.stage.bodyOn j = if i = j then call.stage.body else []) ∧
    ∀ j, stage.bodyOn j = if i = j then after.body else []

/-- What a call of `Close` can do in one step. -/
structure Steps (g : Gateway) (k : Nat) (closer : Closer) (h : Gateway) (stage : CloserStage) :
    Prop where
  closers : h.closers = g.closers.set k { closer with stage := stage }
  connections : h.connections = g.connections
  conns : h.conns = g.conns ∧ (∀ i, stage.bodyOn i = closer.stage.bodyOn i) ∨
    g.ClosesOne closer h stage
  reason : h.shutdownReason = g.shutdownReason ∨ h.shutdownReason = closer.reason
  closeDone : h.closeDone = g.closeDone ∨ closer.stage = .closingDone ∧ h.closeDone = true
  disconnected : h.disconnected = g.disconnected ∨
    closer.stage = .disconnecting ∧ h.disconnected = true
  once : h.closeOnce = g.closeOnce ∧ (stage.inside = true → closer.stage.inside = true) ∨
    g.closeOnce = false ∧ h.closeOnce = true
  holds : g.Holds closer → h.Holds { closer with stage := stage }
  /-- `Wait` returns when nothing is counted any more. -/
  waits : stage = .disconnecting → closer.stage = .waiting ∧ g.connections = 0

theorem steps_of_stepCloser {k pick : Nat} {closer : Closer}
    (taken : g.stepCloser k closer pick = some h) : ∃ stage, Steps g k closer h stage := by
  obtain ⟨reason, stands⟩ := closer
  cases stands with
  | entering =>
    simp only [stepCloser] at taken
    split at taken
    -- Only the first call gets into `closeOnce`; the others wait for `closeDone`.
    next first =>
      cases taken
      exact ⟨.snapshotting, rfl, rfl, .inl ⟨rfl, fun _ => rfl⟩, .inl rfl, .inl rfl, .inl rfl,
        .inr ⟨first, rfl⟩, id, nofun⟩
    · simp only [Option.ite_none_right_eq_some, Option.some.injEq] at taken
      obtain ⟨done, rfl⟩ := taken
      exact ⟨.awaiting, rfl, rfl, .inl ⟨rfl, fun _ => rfl⟩, .inl rfl, .inl rfl, .inl rfl,
        .inl ⟨rfl, nofun⟩, fun holds => ⟨holds.1, done⟩, nofun⟩
  | snapshotting =>
    cases taken
    exact ⟨.closing g.activeSessions, rfl, rfl, .inl ⟨rfl, fun _ => rfl⟩, .inr rfl, .inl rfl,
      .inl rfl, .inl ⟨rfl, fun _ => rfl⟩, fun holds => ⟨holds.1, holds.1⟩, nofun⟩
  | closing active =>
    simp only [stepCloser] at taken
    split at taken
    · cases taken
      exact ⟨.waiting, rfl, rfl, .inl ⟨rfl, fun _ => rfl⟩, .inl rfl, .inl rfl, .inl rfl,
        .inl ⟨rfl, fun _ => rfl⟩, id, nofun⟩
    · simp only [Option.ite_none_right_eq_some, Option.some.injEq] at taken
      obtain ⟨_, rfl⟩ := taken
      exact ⟨.session (active.erase pick) pick (GatewaySession.closeCall reason), rfl, rfl,
        .inl ⟨rfl, fun i => by simp [CloserStage.bodyOn]⟩, .inl rfl, .inl rfl, .inl rfl,
        .inl ⟨rfl, fun _ => rfl⟩, id, nofun⟩
  | waiting =>
    simp only [stepCloser, Option.ite_none_right_eq_some, Option.some.injEq] at taken
    obtain ⟨uncounted, rfl⟩ := taken
    exact ⟨.disconnecting, rfl, rfl, .inl ⟨rfl, fun _ => rfl⟩, .inl rfl, .inl rfl, .inl rfl,
      .inl ⟨rfl, fun _ => rfl⟩, id, fun _ => ⟨rfl, uncounted⟩⟩
  | disconnecting =>
    cases taken
    exact ⟨.closingDone, rfl, rfl, .inl ⟨rfl, fun _ => rfl⟩, .inl rfl, .inl rfl,
      .inr ⟨rfl, rfl⟩, .inl ⟨rfl, fun _ => rfl⟩, fun holds => ⟨holds.1, rfl⟩, nofun⟩
  | closingDone =>
    cases taken
    exact ⟨.awaiting, rfl, rfl, .inl ⟨rfl, fun _ => rfl⟩, .inl rfl, .inr ⟨rfl, rfl⟩, .inl rfl,
      .inl ⟨rfl, nofun⟩, fun holds => ⟨holds.1, rfl⟩, nofun⟩
  | awaiting =>
    simp only [stepCloser, Option.ite_none_right_eq_some, Option.some.injEq] at taken
    obtain ⟨done, rfl⟩ := taken
    exact ⟨.returned, rfl, rfl, .inl ⟨rfl, fun _ => rfl⟩, .inl rfl, .inl rfl, .inl rfl,
      .inl ⟨rfl, nofun⟩, fun holds => ⟨holds.1, done⟩, nofun⟩
  | returned => cases taken
  -- Inside the call of `close` for one session, until that returns.
  | session active i call =>
    simp only [stepCloser, Option.bind_eq_bind, Option.bind_eq_some_iff, Option.pure_def,
      Option.some.injEq] at taken
    obtain ⟨c, here, s, present, ⟨s', after⟩, closes, rfl⟩ := taken
    by_cases back : after = .returned
    · subst back
      refine ⟨.closing active, rfl, rfl, .inr ⟨i, c, s, s', call, .returned, here, present, closes,
        rfl, fun _ => rfl, fun j => ?_⟩, .inl rfl, .inl rfl, .inl rfl, .inl ⟨rfl, fun _ => rfl⟩,
        id, nofun⟩
      split <;> rfl
    · rw [if_neg back]
      exact ⟨.session active i ⟨call.reason, after⟩, rfl, rfl, .inr ⟨i, c, s, s', call, after, here,
        present, closes, rfl, fun _ => rfl, fun _ => rfl⟩, .inl rfl, .inl rfl, .inl rfl,
        .inl ⟨rfl, fun _ => rfl⟩, id, nofun⟩

section Steps

variable {k : Nat} {closer : Closer} {stage : CloserStage}

private theorem Steps.moves (steps : Steps g k closer h stage)
    (found : g.closers[k]? = some closer) (j : Nat) :
    Moves (g.session j) (g.bodies j) (h.session j) (h.bodies j) := by
  unfold session bodies
  rcases steps.conns with ⟨conns, same⟩ | ⟨i, c, s, s', call, after, here, present, closes, conns,
    before, later⟩
  · rw [conns, steps.closers, Pool.flatMap_set_same _ found (same j)]
    exact .same _ _
  · rw [conns, steps.closers]
    by_cases same : j = i
    · obtain ⟨earlier, others, split, set⟩ := Pool.split_at found
      subst same
      have moves := Moves.closing
        (c.body ++ earlier.flatMap fun closer => closer.stage.bodyOn j)
        (others.flatMap fun closer => closer.stage.bodyOn j) closes
      rw [Pool.read_set_self here, here, set, split]
      simp only [List.flatMap_append, List.flatMap_cons, before, later, if_true,
        List.append_assoc, Option.elim_some, Option.bind_some, present] at moves ⊢
      exact moves
    · have apart : i ≠ j := fun equal => same equal.symm
      have unmoved : stage.bodyOn j = closer.stage.bodyOn j := by
        rw [before, later, if_neg apart, if_neg apart]
      rw [Pool.read_set_other same, Pool.flatMap_set_same _ found unmoved]
      exact .same _ _

/-- `Close` changes sessions, not the goroutines of their connections. -/
private theorem Steps.read (steps : Steps g k closer h stage) {i : Nat} {d : Connection}
    (here : h.conns[i]? = some d) :
    ∃ c, g.conns[i]? = some c ∧ d.serving = c.serving ∧ d.deliveries = c.deliveries := by
  rcases steps.conns with ⟨conns, _⟩ | ⟨j, c, s, s', call, after, found, _, _, conns, _⟩
  · exact ⟨d, conns ▸ here, rfl, rfl⟩
  · rw [conns] at here
    rcases Pool.read_set here with ⟨rfl, rfl⟩ | ⟨_, old⟩
    · exact ⟨c, found, rfl, rfl⟩
    · exact ⟨d, old, rfl, rfl⟩

end Steps

section Step

variable {i k : Nat}

theorem step_request (taken : g.step .request = some h) :
    g.shutdownReason = "" ∧
        h = { g with conns := g.conns ++ [.initial], connections := g.connections + 1 } ∨
      g.shutdownReason ≠ "" ∧ h = g := by
  simp only [step, Option.some.injEq] at taken
  split at taken
  next open_ => exact .inl ⟨open_, taken.symm⟩
  next ended => exact .inr ⟨ended, taken.symm⟩

theorem step_conn {l : ConnStep} (taken : g.step (.conn i l) = some h) :
    ∃ c c', g.conns[i]? = some c ∧ c.next g.shutdownReason l = some c' ∧
      h = { g with
        conns := g.conns.set i c'
        connections := if c'.serving = .ended then g.connections - 1 else g.connections } := by
  simp only [step, Option.bind_eq_bind, Option.bind_eq_some_iff, Option.pure_def,
    Option.some.injEq] at taken
  obtain ⟨c, found, c', moved, rfl⟩ := taken
  exact ⟨c, c', found, moved, rfl⟩

theorem step_event {type reason : String} (taken : g.step (.event i type reason) = some h) :
    ∃ c, g.conns[i]? = some c ∧ h = { g with
      conns := g.conns.set i { c with deliveries := c.deliveries ++ [.sending type reason] } } := by
  simp only [step, Option.bind_eq_bind, Option.bind_eq_some_iff,
    Option.ite_none_right_eq_some, Option.some.injEq] at taken
  obtain ⟨c, found, _, rfl⟩ := taken
  exact ⟨c, found, rfl⟩

theorem step_deliver (taken : g.step (.deliver i k) = some h) :
    ∃ c c', g.conns[i]? = some c ∧ c.deliver k = some c' ∧
      h = { g with conns := g.conns.set i c' } := by
  simp only [step, Option.bind_eq_bind, Option.bind_eq_some_iff, Option.pure_def,
    Option.some.injEq] at taken
  obtain ⟨c, found, c', moved, rfl⟩ := taken
  exact ⟨c, c', found, moved, rfl⟩

/-- The reason of a call is not empty. -/
theorem step_close {reason : String} (taken : g.step (.close reason) = some h) :
    ∃ reason, reason ≠ "" ∧ h = { g with closers := g.closers ++ [⟨reason, .entering⟩] } := by
  simp only [step, Option.some.injEq] at taken
  refine ⟨_, ?_, taken.symm⟩
  split
  · decide
  next proper =>
    intro empty
    rw [empty] at proper
    exact proper rfl

theorem step_closer {pick : Nat} (taken : g.step (.closer k pick) = some h) :
    ∃ closer stage, g.closers[k]? = some closer ∧ Steps g k closer h stage := by
  simp only [step, Option.bind_eq_bind, Option.bind_eq_some_iff] at taken
  obtain ⟨closer, found, taken⟩ := taken
  obtain ⟨stage, steps⟩ := steps_of_stepCloser taken
  exact ⟨closer, stage, found, steps⟩

end Step

theorem step_moves (conns : ∀ c ∈ g.conns, c.Inv) {l : Label} (taken : g.step l = some h) (j : Nat) :
    Moves (g.session j) (g.bodies j) (h.session j) (h.bodies j) := by
  cases l with
  | request =>
    rcases step_request taken with ⟨_, rfl⟩ | ⟨_, rfl⟩
    · unfold session bodies
      simp only [List.getElem?_append]
      split
      · exact .same _ _
      next outside =>
        rw [List.getElem?_eq_none (by omega)]
        cases j - g.conns.length <;> exact .same _ _
    · exact .same _ _
  | conn i l =>
    obtain ⟨c, c', found, moved, rfl⟩ := step_conn taken
    have inv := conns c (Pool.mem_of_read found)
    exact moves_set found (fun rest => Connection.next_moves inv rest moved) (by rfl) (by rfl) j
  | event i type reason =>
    obtain ⟨c, found, rfl⟩ := step_event taken
    refine moves_set found (fun rest => ?_) (by rfl) (by rfl) j
    have same : c.body =
        { c with deliveries := c.deliveries ++ [Delivery.sending type reason] }.body := by
      simp [Connection.body, Delivery.body]
    rw [same]
    exact .same _ _
  | deliver i k =>
    obtain ⟨c, c', found, moved, rfl⟩ := step_deliver taken
    exact moves_set found (fun rest => Connection.deliver_moves rest moved) (by rfl) (by rfl) j
  | close reason =>
    obtain ⟨_, _, rfl⟩ := step_close taken
    unfold session bodies
    simp only [List.flatMap_append, List.flatMap_singleton, CloserStage.bodyOn, List.append_nil]
    exact .same _ _
  | closer k pick =>
    obtain ⟨closer, stage, found, steps⟩ := step_closer taken
    exact steps.moves found j

structure Inv (g : Gateway) : Prop where
  tracked : ∀ i, Tracked (g.session i) (g.bodies i)
  conns : ∀ c ∈ g.conns, c.Inv
  /-- The wait group counts the goroutines that have not ended. -/
  counter : g.connections = g.conns.countP fun c => c.serving ≠ .ended
  closers : ∀ closer ∈ g.closers, g.Holds closer
  once : (g.closers.countP fun closer => closer.stage.inside) ≤ if g.closeOnce then 1 else 0
  done : g.closeDone = true → g.disconnected = true

theorem inv_initial : Inv initial :=
  ⟨fun _ => rfl, nofun, rfl, nofun, Nat.le_refl 0, nofun⟩

theorem Holds.move {closer : Closer} (holds : g.Holds closer)
    (shutdown : g.shutdownReason ≠ "" → h.shutdownReason ≠ "")
    (disconnected : g.disconnected = true → h.disconnected = true)
    (done : g.closeDone = true → h.closeDone = true) : h.Holds closer := by
  unfold Holds at holds ⊢
  refine ⟨holds.1, ?_⟩
  split
  next stands => exact shutdown (by simpa only [stands] using holds.2)
  next stands => exact shutdown (by simpa only [stands] using holds.2)
  next stands => exact shutdown (by simpa only [stands] using holds.2)
  next stands => exact shutdown (by simpa only [stands] using holds.2)
  next stands => exact disconnected (by simpa only [stands] using holds.2)
  next stands => exact done (by simpa only [stands] using holds.2)
  next stands => exact done (by simpa only [stands] using holds.2)
  · trivial
  · trivial

private theorem inv_conns {i : Nat} {c c' : Connection} (inv : Inv g)
    (found : g.conns[i]? = some c) (tracked : ∀ j, Tracked (h.session j) (h.bodies j))
    (kept : c'.Inv) (conns : h.conns = g.conns.set i c')
    (counter : h.connections + (if c.serving ≠ .ended then 1 else 0) =
      g.connections + (if c'.serving ≠ .ended then 1 else 0))
    (closers : h.closers = g.closers) (reason : h.shutdownReason = g.shutdownReason)
    (flags : h.closeOnce = g.closeOnce ∧ h.disconnected = g.disconnected ∧
      h.closeDone = g.closeDone) : Inv h := by
  obtain ⟨closeOnce, disconnected, closeDone⟩ := flags
  refine ⟨tracked, ?_, ?_, fun closer member => ?_, ?_, ?_⟩
  · rw [conns]
    exact Pool.forall_set inv.conns kept
  · have total := Pool.countP_set_add (b := c') (fun c => decide (c.serving ≠ .ended)) found
    rw [conns]
    simp only [decide_eq_true_eq] at total
    have := inv.counter
    omega
  · rw [closers] at member
    exact (inv.closers closer member).move (reason ▸ id) (disconnected ▸ id) (closeDone ▸ id)
  · rw [closers, closeOnce]
    exact inv.once
  · rw [closeDone, disconnected]
    exact inv.done

/-- No goroutine of a connection goes on after its end. -/
private theorem next_unended {c c' : Connection} {shutdownReason : String} {l : ConnStep}
    (taken : c.next shutdownReason l = some c') : c.serving ≠ .ended := by
  intro ended
  cases l with
  | upgraded | created | hookReturned | readySent | readFails | done =>
    simp [Connection.next, ended] at taken
  | registers | reads => simp [Connection.next, ended] at taken
  | closes => simp [Connection.next, ended] at taken

private theorem deliver_serving {c c' : Connection} {k : Nat} (taken : c.deliver k = some c') :
    c'.serving = c.serving := by
  obtain ⟨_, _, _, _, ⟨_, _, _, rfl⟩ | ⟨_, _, _, rfl⟩ | ⟨_, _, _, _, _, rfl⟩⟩ :=
    Connection.deliver_cases taken
  · rfl
  · rfl
  · rfl

private theorem inv_closer {k : Nat} {closer : Closer} {stage : CloserStage} (inv : Inv g)
    (found : g.closers[k]? = some closer) (steps : Steps g k closer h stage)
    (tracked : ∀ j, Tracked (h.session j) (h.bodies j)) : Inv h := by
  have holds := inv.closers closer (Pool.mem_of_read found)
  -- The flags that a closer relies on are never taken back.
  have shutdown (set : g.shutdownReason ≠ "") : h.shutdownReason ≠ "" := by
    rcases steps.reason with same | same
    · exact same ▸ set
    · exact same ▸ holds.1
  have disconnected (set : g.disconnected = true) : h.disconnected = true := by
    rcases steps.disconnected with same | ⟨_, set⟩
    · rwa [same]
    · exact set
  have done (set : g.closeDone = true) : h.closeDone = true := by
    rcases steps.closeDone with same | ⟨_, set⟩
    · rwa [same]
    · exact set
  refine ⟨tracked, ?_, ?_, ?_, ?_, fun set => disconnected ?_⟩
  · rcases steps.conns with ⟨conns, _⟩ | ⟨i, c, s, s', call, after, here, present, closes, conns, _⟩
    · exact conns ▸ inv.conns
    · rw [conns]
      refine Pool.forall_set inv.conns ((inv.conns c (Pool.mem_of_read here)).move rfl ?_ ?_)
      · simp [present]
      · intro closed t same
        cases same
        exact GatewaySession.close_closed closes (closed s present)
  -- A closer replaces sessions, and ends no connection.
  · rw [steps.connections, inv.counter]
    rcases steps.conns with ⟨conns, _⟩ | ⟨i, c, s, s', call, after, here, _, _, conns, _⟩
    · rw [conns]
    · rw [conns]
      exact (Pool.countP_set_same (b := { c with session := some s' })
        (fun c => decide (c.serving ≠ .ended)) here rfl).symm
  · rw [steps.closers]
    refine Pool.forall_set (fun other member => ?_) (steps.holds holds)
    exact (inv.closers other member).move shutdown disconnected done
  -- At most one is inside: who enters finds nobody there.
  · have total := Pool.countP_set_add (b := { closer with stage := stage })
      (fun closer => closer.stage.inside) found
    have bound := inv.once
    rw [steps.closers]
    rcases steps.once with ⟨same, entered⟩ | ⟨before, after⟩
    · rw [same]
      split at total
      next inside => split at total <;> omega
      next outside =>
        rw [if_neg fun inside => outside (entered inside)] at total
        omega
    · rw [before, if_neg nofun] at bound
      rw [after, if_pos rfl]
      split at total <;> split at total <;> omega
  · rcases steps.closeDone with same | ⟨stands, _⟩
    · exact inv.done (same ▸ set)
    · have before := holds.2
      simpa only [stands] using before

theorem inv_step {l : Label} (inv : Inv g) (taken : g.step l = some h) : Inv h := by
  have tracked (j : Nat) : Tracked (h.session j) (h.bodies j) :=
    (step_moves inv.conns taken j).tracked (inv.tracked j)
  cases l with
  | request =>
    rcases step_request taken with ⟨_, rfl⟩ | ⟨_, rfl⟩
    · refine ⟨tracked, Pool.forall_append inv.conns Connection.inv_initial, ?_, inv.closers,
        inv.once, inv.done⟩
      rw [Pool.countP_append_one, ← inv.counter]
      rfl
    · exact inv
  | conn i l =>
    obtain ⟨c, c', found, moved, rfl⟩ := step_conn taken
    have member := Pool.mem_of_read found
    have present : Tracked c.session (c.body ++ g.closers.flatMap fun closer =>
        closer.stage.bodyOn i) := by
      simpa [session, bodies, found] using inv.tracked i
    have before := next_unended moved
    refine inv_conns inv found tracked (Connection.inv_next (inv.conns c member) present moved)
      rfl ?_ rfl rfl ⟨rfl, rfl, rfl⟩
    -- A connection that moves has not ended, so it is among those counted.
    have positive : 0 < g.connections := by
      rw [inv.counter]
      exact List.countP_pos_iff.mpr ⟨c, member, by simpa using before⟩
    rw [if_pos before]
    by_cases ended : c'.serving = .ended
    · simp only [ended, if_true]
      simp only [ne_eq, not_true, if_false]
      omega
    · simp only [ended, if_false, ne_eq, not_false_iff, if_true]
  | event i type reason =>
    obtain ⟨c, found, rfl⟩ := step_event taken
    have kept : Connection.Inv
        { c with deliveries := c.deliveries ++ [Delivery.sending type reason] } :=
      (inv.conns c (Pool.mem_of_read found)).move rfl id id
    exact inv_conns inv found tracked kept rfl rfl rfl rfl ⟨rfl, rfl, rfl⟩
  | deliver i k =>
    obtain ⟨c, c', found, moved, rfl⟩ := step_deliver taken
    have kept := Connection.inv_deliver (inv.conns c (Pool.mem_of_read found)) moved
    refine inv_conns inv found tracked kept rfl ?_ rfl rfl ⟨rfl, rfl, rfl⟩
    rw [deliver_serving moved]
  | close reason =>
    obtain ⟨_, proper, rfl⟩ := step_close taken
    refine ⟨tracked, inv.conns, inv.counter, Pool.forall_append inv.closers ⟨proper, trivial⟩, ?_,
      inv.done⟩
    rw [Pool.countP_append_one]
    exact inv.once
  | closer k pick =>
    obtain ⟨closer, stage, found, steps⟩ := step_closer taken
    exact inv_closer inv found steps tracked

/-- A connection's goroutine does not end while an event's goroutine is still in the body
of `close` on its session. -/
def Counted (g : Gateway) : Label → Prop
  | .conn i .done => ∀ c ∈ g.conns[i]?, ∀ d ∈ c.deliveries, d.body = []
  | _ => True

instance (g : Gateway) : (l : Label) → Decidable (g.Counted l)
  | .conn i .done => inferInstanceAs (Decidable (∀ c ∈ g.conns[i]?, ∀ d ∈ c.deliveries, d.body = []))
  | .conn _ (.upgraded _) | .conn _ (.created _) | .conn _ (.hookReturned _) | .conn _ .registers
  | .conn _ (.readySent _) | .conn _ (.reads _) | .conn _ .readFails | .conn _ .closes
  | .request | .event _ _ _ | .deliver _ _ | .close _ | .closer _ _ =>
    inferInstanceAs (Decidable True)

private theorem quiet_step {l : Label} (inv : Inv g) (quiet : ∀ c ∈ g.conns, c.Quiet)
    (counted : g.Counted l) (taken : g.step l = some h) : ∀ c ∈ h.conns, c.Quiet := by
  cases l with
  | request =>
    rcases step_request taken with ⟨_, rfl⟩ | ⟨_, rfl⟩
    · exact Pool.forall_append quiet nofun
    · exact quiet
  | conn i l =>
    obtain ⟨c, c', found, moved, rfl⟩ := step_conn taken
    refine Pool.forall_set quiet (Connection.quiet_next (fun done => ?_) moved)
    subst done
    exact counted c found
  | event i type reason =>
    obtain ⟨c, found, rfl⟩ := step_event taken
    exact Pool.forall_set quiet fun ended =>
      Pool.forall_append (quiet c (Pool.mem_of_read found) ended) rfl
  | deliver i k =>
    obtain ⟨c, c', found, moved, rfl⟩ := step_deliver taken
    have member := Pool.mem_of_read found
    exact Pool.forall_set quiet
      (Connection.quiet_deliver (inv.conns c member) (quiet c member) moved)
  | close reason =>
    obtain ⟨_, _, rfl⟩ := step_close taken
    exact quiet
  | closer k pick =>
    obtain ⟨closer, stage, found, steps⟩ := step_closer taken
    intro d member
    obtain ⟨i, here⟩ := List.mem_iff_getElem?.mp member
    obtain ⟨c, old, serving, deliveries⟩ := steps.read here
    intro ended
    rw [deliveries]
    exact quiet c (Pool.mem_of_read old) (serving.symm.trans ended)

/-- Every goroutine of a connection has ended, nobody is in the body of a `close`, and no
request is accepted any more. -/
structure Over (g : Gateway) : Prop where
  shutdown : g.shutdownReason ≠ ""
  ended : ∀ c ∈ g.conns, c.serving = .ended
  out : ∀ i, g.bodies i = []

private theorem over_step {l : Label} (inv : Inv g) (past : Over g) (taken : g.step l = some h) :
    Over h := by
  have out (j : Nat) : h.bodies j = [] := by
    refine (step_moves inv.conns taken j).still (fun s present => ?_) (past.out j)
    obtain ⟨c, found, here⟩ := Option.bind_eq_some_iff.mp present
    have member := Pool.mem_of_read found
    exact (inv.conns c member).left (.inr (past.ended c member)) s here
  cases l with
  | request =>
    rcases step_request taken with ⟨open_, _⟩ | ⟨_, rfl⟩
    · exact absurd open_ past.shutdown
    · exact past
  | conn i l =>
    obtain ⟨c, c', found, moved, _⟩ := step_conn taken
    exact absurd (past.ended c (Pool.mem_of_read found)) (next_unended moved)
  | event i type reason =>
    obtain ⟨c, found, rfl⟩ := step_event taken
    exact ⟨past.shutdown, Pool.forall_set past.ended (past.ended c (Pool.mem_of_read found)), out⟩
  | deliver i k =>
    obtain ⟨c, c', found, moved, rfl⟩ := step_deliver taken
    have ended := (deliver_serving moved).trans (past.ended c (Pool.mem_of_read found))
    exact ⟨past.shutdown, Pool.forall_set past.ended ended, out⟩
  | close reason =>
    obtain ⟨_, _, rfl⟩ := step_close taken
    exact ⟨past.shutdown, past.ended, out⟩
  | closer k pick =>
    obtain ⟨closer, stage, found, steps⟩ := step_closer taken
    refine ⟨?_, fun d member => ?_, out⟩
    · rcases steps.reason with same | same
      · rw [same]
        exact past.shutdown
      · rw [same]
        exact (inv.closers closer (Pool.mem_of_read found)).1
    · obtain ⟨i, here⟩ := List.mem_iff_getElem?.mp member
      obtain ⟨c, old, serving, _⟩ := steps.read here
      exact serving.trans (past.ended c (Pool.mem_of_read old))

/-- `connections.Wait` has returned. -/
def Waited (g : Gateway) : Prop :=
  g.disconnected = true ∨ ∃ closer ∈ g.closers, closer.stage = .disconnecting

private theorem Steps.waited {k : Nat} {closer : Closer} {stage : CloserStage}
    (steps : Steps g k closer h stage) (found : g.closers[k]? = some closer) (waited : Waited h) :
    Waited g ∨ closer.stage = .waiting ∧ g.connections = 0 := by
  rcases waited with set | ⟨other, member, stands⟩
  · rcases steps.disconnected with same | ⟨stands, _⟩
    · exact .inl (.inl (same ▸ set))
    · exact .inl (.inr ⟨closer, Pool.mem_of_read found, stands⟩)
  · rw [steps.closers] at member
    rcases List.mem_or_eq_of_mem_set member with old | rfl
    · exact .inl (.inr ⟨other, old, stands⟩)
    · exact .inr (steps.waits stands)

/-- With nothing counted, the only bodies left are those of events, and there are none. -/
private theorem over_of_waiting {k : Nat} {closer : Closer} (inv : Inv g)
    (quiet : ∀ c ∈ g.conns, c.Quiet) (found : g.closers[k]? = some closer)
    (stands : closer.stage = .waiting) (none_counted : g.connections = 0) : Over g := by
  have ended (c : Connection) (member : c ∈ g.conns) : c.serving = .ended := by
    have none := Pool.none_of_countP_zero (inv.counter.symm.trans none_counted) member
    simpa using none
  have holds := (inv.closers closer (Pool.mem_of_read found)).2
  simp only [stands] at holds
  refine ⟨holds, ended, fun i => List.append_eq_nil_iff.mpr ⟨?_, ?_⟩⟩
  · cases here : g.conns[i]? with
    | none => rfl
    | some c =>
      have member := Pool.mem_of_read here
      have out := quiet c member (ended c member)
      show c.serving.body ++ c.deliveries.flatMap Delivery.body = []
      rw [ended c member]
      exact List.flatMap_eq_nil_iff.mpr out
  · rw [List.flatMap_eq_nil_iff]
    intro other member
    by_cases inside : other.stage.inside = true
    · -- The only call inside `closeOnce` is the one that waits.
      have single : other = closer := by
        by_contra different
        have pair := Pool.countP_set_add (b := { closer with stage := .returned })
          (fun closer => closer.stage.inside) found
        have rest := Pool.mem_set_of_ne (b := { closer with stage := .returned }) found member different
        have positive := List.countP_pos_iff (p := fun closer => closer.stage.inside).mpr
          ⟨other, rest, inside⟩
        have bound := inv.once
        have leaves : closer.stage.inside = true := by rw [stands]; rfl
        rw [if_pos leaves, if_neg nofun] at pair
        split at bound <;> omega
      rw [single, stands]
      rfl
    · match stage : other.stage with
      | .session active j call => simp [stage, CloserStage.inside] at inside
      | .entering | .snapshotting | .closing _ | .waiting | .disconnecting | .closingDone
      | .awaiting | .returned => rfl

private theorem waited_step {l : Label} (inv : Inv g) (quiet : ∀ c ∈ g.conns, c.Quiet)
    (past : Waited g → Over g) (taken : g.step l = some h) (waited : Waited h) : Over h := by
  refine over_step inv ?_ taken
  cases l with
  | closer k pick =>
    obtain ⟨closer, stage, found, steps⟩ := step_closer taken
    rcases steps.waited found waited with before | ⟨stands, none_counted⟩
    · exact past before
    · exact over_of_waiting inv quiet found stands none_counted
  | request =>
    rcases step_request taken with ⟨_, rfl⟩ | ⟨_, rfl⟩
    · exact past waited
    · exact past waited
  | close reason =>
    obtain ⟨_, _, rfl⟩ := step_close taken
    refine past (waited.imp_right fun ⟨closer, member, stands⟩ => ?_)
    rcases List.mem_append.mp member with old | new
    · exact ⟨closer, old, stands⟩
    · rw [List.mem_singleton.mp new] at stands
      cases stands
  | conn i l =>
    obtain ⟨_, _, _, _, rfl⟩ := step_conn taken
    exact past waited
  | event i type reason =>
    obtain ⟨_, _, rfl⟩ := step_event taken
    exact past waited
  | deliver i k =>
    obtain ⟨_, _, _, _, rfl⟩ := step_deliver taken
    exact past waited

theorem inv_reaches (reached : lifecycle.Reaches Counted g) : Inv g ∧ (Waited g → Over g) := by
  have all : Inv g ∧ (∀ c ∈ g.conns, c.Quiet) ∧ (Waited g → Over g) := by
    refine System.Reaches.preserves
      (P := fun g => Inv g ∧ (∀ c ∈ g.conns, c.Quiet) ∧ (Waited g → Over g))
      ⟨inv_initial, by simp [lifecycle, initial], fun waited => ?_⟩ (fun _ _ _ held counted taken => ?_) reached
    · rcases waited with set | ⟨_, member, _⟩
      · cases set
      · cases member
    · obtain ⟨inv, quiet, past⟩ := held
      exact ⟨inv_step inv taken, quiet_step inv quiet counted taken,
        waited_step inv quiet past taken⟩
  exact ⟨all.1, all.2.2⟩

/-- Every session has been torn down, and its hook has returned. -/
def Settled (g : Gateway) : Prop := ∀ c ∈ g.conns, ∀ s ∈ c.session, s.Settled

theorem Over.settled (inv : Inv g) (past : Over g) : g.Settled := by
  intro c member s present
  obtain ⟨i, found⟩ := List.mem_iff_getElem?.mp member
  have here : g.session i = some s := by
    unfold session
    rw [found]
    exact present
  have accounts := inv.tracked i
  rw [here, past.out i] at accounts
  have closed := (inv.conns c member).left (.inr (past.ended c member)) s present
  -- With no body left, a closed session has been through its only one.
  cases accounts with
  | fresh still => exact absurd closed (by simp [still])
  | settled _ settled => exact settled

end Gateway

/-- What the application can rely on when a call of `Close` returns. -/
structure ShutdownWaits (C : Gateway → Label → Prop) : Prop where
  returned : ∀ g, lifecycle.Reaches C g → (∃ closer ∈ g.closers, closer.stage = .returned) →
    g.disconnected = true ∧ g.Settled
  /-- Also by the time the client has disconnected. -/
  disconnected : ∀ g, lifecycle.Reaches C g → g.disconnected = true → g.Settled

theorem shutdown_waits {C : Gateway → Label → Prop} (counted : ∀ g l, C g l → g.Counted l) :
    ShutdownWaits C := by
  have disconnected (g : Gateway) (reached : lifecycle.Reaches C g)
      (set : g.disconnected = true) : g.Settled := by
    obtain ⟨inv, past⟩ := Gateway.inv_reaches (reached.mono counted)
    exact (past (.inl set)).settled inv
  refine ⟨fun g reached ⟨closer, member, stands⟩ => ?_, disconnected⟩
  obtain ⟨inv, _⟩ := Gateway.inv_reaches (reached.mono counted)
  have done := (inv.closers closer member).2
  simp only [stands] at done
  exact ⟨inv.done done, disconnected g reached (inv.done done)⟩

/-- Vox ends a session and `Close` is called; the browser leaves once the hook has returned. -/
def waitedRun : List Label :=
  [.request, .conn 0 (.upgraded true), .conn 0 (.created true), .conn 0 (.hookReturned true),
    .conn 0 .registers, .conn 0 (.readySent true), .event 0 "rtc.session.closed" "ended",
    .deliver 0 0, .deliver 0 0, .deliver 0 0, .deliver 0 0, .deliver 0 0, .close "", .closer 0 0,
    .closer 0 0, .closer 0 0, .closer 0 0, .closer 0 0, .deliver 0 0, .deliver 0 0, .deliver 0 0,
    .conn 0 .readFails, .conn 0 .closes, .conn 0 .done, .closer 0 0, .closer 0 0, .closer 0 0,
    .closer 0 0]

theorem shutdown_waits_run : ∃ g, lifecycle.run .initial waitedRun = some g ∧
    g.conns.map (fun c => c.session.isSome) = [true] ∧ g.disconnected = true ∧ g.Settled := by
  refine ⟨_, rfl, rfl, ?_⟩
  have reached := System.leads_of_run (M := lifecycle) (C := Gateway.Counted)
    (s := lifecycle.init) waitedRun (by decide) rfl
  exact (shutdown_waits fun _ _ => id).returned _ reached ⟨_, .head _, rfl⟩

/-- The same, but the browser leaves while the hook that the event started still runs. -/
def overtakenRun : List Label :=
  [.request, .conn 0 (.upgraded true), .conn 0 (.created true), .conn 0 (.hookReturned true),
    .conn 0 .registers, .conn 0 (.readySent true), .event 0 "rtc.session.closed" "ended",
    .deliver 0 0, .deliver 0 0, .deliver 0 0, .deliver 0 0, .deliver 0 0, .conn 0 .readFails,
    .conn 0 .closes, .conn 0 .done, .close "", .closer 0 0, .closer 0 0, .closer 0 0, .closer 0 0,
    .closer 0 0, .closer 0 0, .closer 0 0, .closer 0 0, .closer 0 0]

theorem shutdown_overtakes :
    (∃ g, lifecycle.run .initial overtakenRun = some g ∧
      g.closers.map Closer.stage = [.returned] ∧ g.disconnected = true ∧
      g.conns.map Connection.body = [[.onSessionClosed]]) ∧
    ¬ShutdownWaits always := by
  refine ⟨⟨_, rfl, rfl, rfl, rfl⟩, fun waits => ?_⟩
  have reached := System.reaches_of_run (M := lifecycle) overtakenRun rfl
  have settled := (waits.returned _ reached ⟨_, .head _, rfl⟩).2 _ (.head _) _ rfl
  exact absurd settled.returned (by decide)

end VoxRtc.Go.Lifecycle
