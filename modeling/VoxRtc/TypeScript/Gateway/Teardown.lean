import VoxRtc.TypeScript.Gateway.Stack

/-!
# Teardown of the TypeScript gateway

`#close` stores its promise only after the callbacks of its body have run, and `close`
on the gateway does the same. A `gateway.close()` from within such a callback, made before
the first one has stored its promise, therefore finds nothing stored and starts a second body
for the same session. In the runs without such a call every session is torn down exactly once.
-/
namespace VoxRtc.TypeScript.Gateway

open Transition

namespace Connection

/-- The browser is gone and everything the application was asked to do has settled. -/
def Over (c : Connection) : Prop :=
  c.browserClosed = true ∧ c.stage ≠ .creating ∧ c.stage ≠ .hook ∧
    ∀ b ∈ c.bodies, b.phase = .settled

instance (c : Connection) : Decidable c.Over := inferInstanceAs (Decidable (_ ∧ _ ∧ _ ∧ _))

/-- At most one teardown, after the creation hook; and exactly one once all is over. -/
structure TornDown (c : Connection) : Prop where
  closes : c.trace.count .sessionClose ≤ 1
  hooks : c.trace.count .closed ≤ 1
  ordered : Each .closed HookSettled c.trace
  past : c.Over → c.trace.count .sessionClose = 1 ∧ c.trace.count .closed = 1 ∧ c.inActive = false

/-- A session whose browser has left is being closed, unless the hook is still pending. -/
def Leaving (c : Connection) : Prop :=
  c.browserClosed = true → c.session = true → c.setupPending = false → c.bodies ≠ []

variable {c c' : Connection}

@[simp] theorem close_browserClosed (reason : String) :
    (c.close reason).browserClosed = c.browserClosed := by
  unfold close
  split <;> rfl

theorem requestClose_leaving (inv : c.Inv) (reason : String) :
    Leaving (c.requestClose reason) := by
  intro _ _ done
  unfold requestClose at done ⊢
  split
  next held =>
    rw [if_pos held] at done
    change c.setupPending = false at done
    rw [held] at done
    cases done
  · exact close_ne_nil inv.toBodies reason

theorem afterCreated_leaving (inv : c.Inv) (creating : c.stage = .creating)
    (shutdownReason : Option String) (setup : Bool) :
    Leaving (c.afterCreated shutdownReason setup) := by
  have empty := (inv.fresh (inv.creating creating)).1
  have bodies : Bodies { c with session := true, inActive := true } :=
    ⟨inv.promised, inv.returned, by simp [empty], inv.closes, inv.hooks, inv.settled, inv.ordered⟩
  intro _ _ done
  unfold afterCreated at done ⊢
  split
  · exact close_ne_nil bodies _
  next alive =>
    split
    next setup =>
      simp only [alive, setup, if_true] at done
      cases done
    · exact close_ne_nil bodies _

theorem afterHook_leaving (inv : c.Inv) (shutdownReason : Option String) (ok sends : Bool) :
    Leaving (c.afterHook shutdownReason ok sends) := by
  have bodies := bodies_hookSettled inv ok
  intro gone _ _
  unfold afterHook at gone ⊢
  split
  next succeeded =>
    subst succeeded
    simp only at gone ⊢
    split
    · exact close_ne_nil bodies _
    next kept =>
      split
      next sends =>
        -- With the browser gone the hook's success leads to a close, not to ready.
        simp only [if_true, kept, sends] at gone
        change c.browserClosed = true at gone
        simp [disconnected, gone] at kept
      · exact close_ne_nil bodies _
  · have failed : Bodies { c with
        setupPending := false, trace := .createdSettled ok :: c.trace, pendingCloseReason := none } :=
      ⟨bodies.promised, bodies.returned, bodies.active, bodies.closes, bodies.hooks,
        bodies.settled, bodies.ordered⟩
    exact close_ne_nil failed _

theorem next_leaving (inv : c.Inv) (leaving : c.Leaving) {shutdownReason : Option String}
    {l : ConnStep} (taken : c.next shutdownReason l = some c') : c'.Leaving := by
  cases next_cases taken with
  | created creating setup => exact afterCreated_leaving inv creating shutdownReason setup
  | hookSettled hook ok sends => exact afterHook_leaving inv shutdownReason ok sends
  | disconnects session =>
    have gone : Inv { c with readyState := .closed, browserClosed := true } :=
      inv.move rfl rfl rfl rfl id rfl rfl rfl rfl rfl
    exact requestClose_leaving gone _
  | leaves absent =>
    intro _ session
    cases absent.symm.trans session
  | ends subscribed event reason =>
    have forwarded : Inv { c with progress := (forwardEvent c.progress event).1 } :=
      inv.move rfl rfl rfl rfl id rfl rfl rfl rfl rfl
    exact requestClose_leaving forwarded reason
  | hookSettles found awaiting =>
    intro gone session done
    simpa [settle, advance] using leaving gone session done
  | createFails | closeAwaited | openingSettled | browserCloses | forwards | frame => exact leaving

theorem callback_leaving {i : Nat} {b : Body} {throws : Bool} (found : c.bodies[i]? = some b)
    (taken : c.callback i b throws = some c') : c'.Leaving := by
  have started : c.bodies ≠ [] := List.ne_nil_of_mem (Pool.mem_of_read found)
  intro _ _ _
  unfold callback at taken
  split at taken
  · cases taken
    split <;> simpa [advance] using started
  · cases taken
    simpa [advance] using started
  · cases taken
    simpa [advance] using started
  · cases taken
    split <;> simpa [settle, advance] using started
  · cases taken
  · cases taken

/-- With one body at most, the counts of the trace are those of that body. -/
theorem tornDown_of_single (inv : c.Inv) (leaving : c.Leaving) (session : c.session = true)
    (single : c.bodies.length ≤ 1) : c.TornDown := by
  have bounded (p : Body → Bool) : c.bodies.countP p ≤ 1 :=
    Nat.le_trans List.countP_le_length single
  refine ⟨inv.closes ▸ bounded _, inv.hooks ▸ bounded _, inv.ordered, ?_⟩
  rintro ⟨gone, _, hookless, settled⟩
  have done : c.setupPending = false := by
    by_contra held
    exact hookless (inv.pending.mp (by simpa using held))
  have started := leaving gone session done
  obtain ⟨b, only⟩ : ∃ b, c.bodies = [b] := by
    apply List.length_eq_one_iff.mp
    have := List.length_pos_iff.mpr started
    omega
  have phase : b.phase = .settled := settled b (by rw [only]; exact .head _)
  rw [inv.closes, inv.hooks, inv.active, only]
  simp [phase, Phase.hasClosed, Phase.hasHooked]

end Connection

/-- Every session is torn down exactly once. -/
def TornDownOnce (C : VoxRtcGateway → Label → Prop) : Prop :=
  ∀ g, lifecycle.Reaches C g → ∀ c ∈ g.conns, c.session = true → c.TornDown

namespace VoxRtcGateway

/-- The application does not call `close` from within a callback that `#close` makes, before
the first `close` has stored its promise. -/
def Flat (g : VoxRtcGateway) : Label → Prop
  | .gatewayClose _ => g.stack ≠ [] → g.closePromise.isSome = true
  | _ => True

instance (g : VoxRtcGateway) : (l : Label) → Decidable (g.Flat l)
  | .gatewayClose _ => inferInstanceAs (Decidable (_ → _))
  | .upgrade | .conn _ _ | .callback _ | .visit _ | .swept | .closerResumes _ _ =>
    inferInstanceAs (Decidable True)

/-- At most one body of `#close` on the stack, above at most one `closeActive`. -/
inductive Shape : List Frame → Prop
  | empty : Shape []
  | sweep (k : Nat) (todo : List Nat) : Shape [.sweep k todo]
  | body (i b : Nat) : Shape [.body i b]
  | both (i b k : Nat) (todo : List Nat) : Shape [.body i b, .sweep k todo]

structure Single (g : VoxRtcGateway) : Prop where
  shape : Shape g.stack
  single : ∀ c ∈ g.conns, c.bodies.length ≤ 1
  leaving : ∀ c ∈ g.conns, c.Leaving

variable {g h : VoxRtcGateway}

theorem single_initial : Single initial := ⟨.empty, by simp [initial], by simp [initial]⟩

/-- A body starts only for a connection that has none. -/
private theorem change_single {i : Nat} {c c' : Connection} (inv : Inv g)
    (idle : ∀ b, .body i b ∉ g.stack) (found : g.conns[i]? = some c) (change : c.Change c')
    (single : c.bodies.length ≤ 1) : c'.bodies.length ≤ 1 := by
  cases change with
  | same bodies => rwa [bodies]
  | opened absent reason bodies =>
    rw [bodies, bodies_nil inv idle found absent]
    exact Nat.le_refl 1
  | settled j b _ bodies => simpa [bodies] using single

private theorem shape_started (i : Nat) (c c' : Connection) : Shape (started i c c') := by
  unfold started
  split
  · exact .body i _
  · exact .empty

private theorem shape_visited (i k : Nat) (todo : List Nat) (c c' : Connection) :
    Shape (started i c c' ++ [.sweep k todo]) := by
  unfold started
  split
  · exact .both i _ k todo
  · exact .sweep k todo

private theorem shape_below {f : Frame} {rest : List Frame} (shape : Shape (f :: rest)) :
    Shape rest := by
  cases shape with
  | sweep | body => exact .empty
  | both i b k todo => exact .sweep k todo

theorem single_step {l : Label} (inv : Inv g) (single : Single g) (flat : g.Flat l)
    (taken : g.step l = some h) : Single h := by
  cases l with
  | upgrade =>
    obtain ⟨_, ⟨_, rfl⟩ | ⟨_, rfl⟩⟩ := step_upgrade taken
    · exact single
    · exact ⟨single.shape, Pool.forall_append single.single (Nat.zero_le 1),
        Pool.forall_append single.leaving (fun absurd => by cases absurd)⟩
  | conn i l =>
    obtain ⟨c, c', idle, found, moved, rfl⟩ := step_conn taken
    have member := Pool.mem_of_read found
    refine ⟨shape_started i c c', Pool.forall_set single.single ?_,
      Pool.forall_set single.leaving ?_⟩
    · exact change_single inv (fun b => by simp [idle]) found (Connection.next_change moved)
        (single.single c member)
    · exact Connection.next_leaving (inv.conns i c found) (single.leaving c member) moved
  | gatewayClose reason =>
    rcases step_gatewayClose taken with ⟨_, rfl⟩ | ⟨first, rfl⟩
    · exact single
    -- A close from outside finds the stack empty.
    · have idle : g.stack = [] := by
        by_contra busy
        cases first.symm.trans (flat busy)
      refine ⟨?_, single.single, single.leaving⟩
      rw [idle]
      exact .sweep _ _
  | callback throws =>
    obtain ⟨i, b, rest, c, body, c', top, found, within, ends, rfl⟩ := step_callback taken
    have member := Pool.mem_of_read found
    refine ⟨?_, Pool.forall_set single.single ?_,
      Pool.forall_set single.leaving (Connection.callback_leaving within ends)⟩
    · show Shape (if _ then rest else g.stack)
      split
      · exact shape_below (top ▸ single.shape)
      · exact single.shape
    · obtain ⟨phase, bodies, _⟩ := Connection.callback_bodies ends
      rw [bodies, List.length_set]
      exact single.single c member
  -- What a visit starts goes on top of the sweep.
  | visit i =>
    obtain ⟨k, todo, rest, c, closer, top, _, found, _, rfl⟩ := step_visit taken
    have shape := single.shape
    rw [top] at shape
    cases shape
    have member := Pool.mem_of_read found
    refine ⟨shape_visited i k _ c _, Pool.forall_set single.single ?_,
      Pool.forall_set single.leaving (Connection.requestClose_leaving (inv.conns i c found) _)⟩
    exact change_single inv (fun b => by simp [top]) found (Connection.requestClose_change _)
      (single.single c member)
  | swept =>
    obtain ⟨_, _, _, _, top, _, _, rfl⟩ := step_swept taken
    exact ⟨shape_below (top ▸ single.shape), single.single, single.leaving⟩
  | closerResumes k throws =>
    obtain ⟨closer, _, _, resumed⟩ := step_closerResumes taken
    rcases resume_cases resumed with ⟨_, _, _, rfl | rfl⟩ | ⟨_, _, _, rfl⟩
    · exact ⟨single.shape, single.single, single.leaving⟩
    · refine ⟨single.shape, fun c member => ?_, fun c member => ?_⟩
      all_goals
        obtain ⟨i, found⟩ := List.mem_iff_getElem?.mp member
        obtain ⟨d, old, rfl | rfl⟩ := closeSockets_read found
      · exact single.single c (Pool.mem_of_read old)
      · exact single.single d (Pool.mem_of_read old)
      · exact single.leaving c (Pool.mem_of_read old)
      · exact single.leaving d (Pool.mem_of_read old)
    · exact ⟨.sweep _ _, single.single, single.leaving⟩

theorem single_reaches (reached : lifecycle.Reaches Flat g) : Single g := by
  have both : Inv g ∧ Single g := by
    refine System.Reaches.preserves (P := fun g => Inv g ∧ Single g)
      ⟨inv_initial, single_initial⟩
      (fun _ _ _ held flat taken => ?_) reached
    exact ⟨inv_step held.1 taken, single_step held.1 held.2 flat taken⟩
  exact both.2

end VoxRtcGateway

theorem torn_down_once {C : VoxRtcGateway → Label → Prop}
    (flat : ∀ g l, C g l → g.Flat l) : TornDownOnce C := by
  intro g reached c member session
  have reached := reached.mono flat
  obtain ⟨i, found⟩ := List.mem_iff_getElem?.mp member
  have single := VoxRtcGateway.single_reaches reached
  exact Connection.tornDown_of_single ((VoxRtcGateway.inv_reaches reached).conns i c found)
    (single.leaving c member) session (single.single c member)

/-- The browser leaves, and the gateway is closed while the session's hook is pending. -/
def flatRun : List Label :=
  [.upgrade, .conn 0 (.created true), .conn 0 (.hookSettled true true), .conn 0 .browserClosed,
    .callback false, .callback true, .callback true, .callback false, .gatewayClose "shutdown",
    .visit 0, .swept, .conn 0 (.closedHookSettles 0)]

theorem torn_down_once_run : ∃ g c, lifecycle.run .initial flatRun = some g ∧ g.conns = [c] ∧
    c.Over ∧ c.trace.count .sessionClose = 1 ∧ c.trace.count .closed = 1 ∧ c.inActive = false := by
  refine ⟨_, _, rfl, rfl, by decide, ?_⟩
  have reached := System.leads_of_run (M := lifecycle) (C := VoxRtcGateway.Flat)
    (s := lifecycle.init) flatRun (by decide) rfl
  exact (torn_down_once (fun _ _ => id) _ reached _ (.head _) rfl).past (by decide)

/-- The browser leaves, and `onSessionClosed` calls `gateway.close()` without awaiting it. -/
def nestedRun : List Label :=
  [.upgrade, .conn 0 (.created true), .conn 0 (.hookSettled true true), .conn 0 .browserClosed,
    .callback false, .callback false, .callback false, .gatewayClose "shutdown", .visit 0,
    .callback false, .callback false, .callback false, .swept, .callback false,
    .conn 0 (.closedHookSettles 0), .conn 0 (.closedHookSettles 1)]

theorem torn_down_twice :
    (∃ g, lifecycle.run .initial nestedRun = some g ∧
      g.conns.map Connection.trace = [[.closedSettled, .closedSettled, .closed, .sessionClose,
        .closed, .sessionClose, .ready, .createdSettled true, .created]]) ∧
    ¬TornDownOnce always := by
  refine ⟨⟨_, rfl, rfl⟩, fun once => ?_⟩
  have reached := System.reaches_of_run (M := lifecycle) nestedRun rfl
  have torn := (once _ reached _ (.head _) rfl).closes
  exact absurd torn (by decide)

end VoxRtc.TypeScript.Gateway
