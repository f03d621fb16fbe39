import VoxRtc.Rust.Gateway.Serve

/-!
# The close waiter of the Rust gateway

`ActiveGuard` and the loop of `VoxRtcGateway::close` on their own: any tasks may take
and drop a guard, and any calls may wait for the counter to reach zero. Every atomic
step interleaves with every other. The whole gateway of `Serve` runs inside this
system.
-/
namespace VoxRtc.Rust.Gateway

open Transition

/-- The `ActiveGuard` of a task. `notifying` lies between `fetch_sub` and
`notify_waiters` of the last drop. -/
inductive Guard where
  | absent
  | held
  | notifying
  | dropped
  deriving DecidableEq, Repr

/-- A turn of the loop of `close`. The flag of a `Notified` says whether
`notify_waiters` has completed it. -/
inductive Waiter where
  | looping
  | enabled (notified : Bool)
  | parked (notified : Bool)
  | left
  deriving DecidableEq, Repr

namespace Waiter

/-- `notify_waiters` stores no permit: it completes the enabled `Notified`s only. -/
def notify : Waiter → Waiter
  | enabled _ => enabled true
  | parked _ => parked true
  | other => other

theorem notify_ne (w : Waiter) : w.notify ≠ parked false := by
  cases w <;> simp [notify]

end Waiter

structure Drain where
  active : Nat
  guards : List Guard
  waiters : List Waiter
  deriving DecidableEq, Repr

inductive DrainStep where
  | task
  | create (guard : Nat)
  | fetchSub (guard : Nat)
  | notifyWaiters (guard : Nat)
  | close
  | enable (waiter : Nat)
  | load (waiter : Nat)
  | wake (waiter : Nat)
  deriving DecidableEq, Repr

namespace Drain

def step (d : Drain) : DrainStep → Option Drain
  | .task => some { d with guards := d.guards ++ [.absent] }
  | .create i =>
    if d.guards[i]? = some .absent then
      some { d with active := d.active + 1, guards := d.guards.set i .held }
    else none
  | .fetchSub i =>
    if d.guards[i]? = some .held then
      -- `fetch_sub` returns the value before the subtraction.
      let after := if d.active = 1 then Guard.notifying else .dropped
      some { d with active := d.active - 1, guards := d.guards.set i after }
    else none
  | .notifyWaiters i =>
    if d.guards[i]? = some .notifying then
      some { d with
        guards := d.guards.set i .dropped
        waiters := d.waiters.map Waiter.notify }
    else none
  | .close => some { d with waiters := d.waiters ++ [.looping] }
  | .enable k =>
    if d.waiters[k]? = some .looping then
      some { d with waiters := d.waiters.set k (.enabled false) }
    else none
  | .load k =>
    match d.waiters[k]? with
    | some (.enabled notified) =>
      some { d with waiters := d.waiters.set k (if d.active = 0 then .left else .parked notified) }
    | _ => none
  | .wake k =>
    if d.waiters[k]? = some (.parked true) then
      some { d with waiters := d.waiters.set k .looping }
    else none

theorem step_load {d : Drain} {k : Nat} {notified : Bool}
    (found : d.waiters[k]? = some (.enabled notified)) :
    d.step (.load k) = some { d with
      waiters := d.waiters.set k (if d.active = 0 then .left else .parked notified) } := by
  simp only [step, found]

/-- No guard is held and no drop of a guard is under way, but a waiter sleeps. -/
def Missed (d : Drain) : Prop :=
  d.active = 0 ∧ .notifying ∉ d.guards ∧ .parked false ∈ d.waiters

/-- What keeps a wakeup from being lost: a sleeping waiter is owed a `notify_waiters`,
by a drop that is under way or by a guard that will be the last one. -/
structure Inv (d : Drain) : Prop where
  counted : d.active = d.guards.countP (· == .held)
  owed : .parked false ∈ d.waiters → 0 < d.active ∨ .notifying ∈ d.guards

theorem inv_initial : Inv ⟨0, [], []⟩ := ⟨rfl, fun sleeping => by cases sleeping⟩

variable {d e : Drain} {i k : Nat}

private theorem inv_guards {n : Nat} {guards : List Guard} (inv : Inv d)
    (counted : n = guards.countP (· == .held))
    (owes : 0 < d.active ∨ .notifying ∈ d.guards → 0 < n ∨ .notifying ∈ guards) :
    Inv { d with active := n, guards := guards } :=
  ⟨counted, fun sleeping => owes (inv.owed sleeping)⟩

/-- A waiter that does not fall asleep here leaves the others as they were. -/
private theorem inv_waiter {w : Waiter} (inv : Inv d)
    (awake : w = .parked false → 0 < d.active ∨ .notifying ∈ d.guards) :
    Inv { d with waiters := d.waiters.set k w } := by
  refine ⟨inv.counted, fun sleeping => ?_⟩
  rcases List.mem_or_eq_of_mem_set sleeping with old | new
  · exact inv.owed old
  · exact awake new.symm

private theorem inv_fetchSub (inv : Inv d) (found : d.guards[i]? = some .held) :
    Inv { d with
      active := d.active - 1
      guards := d.guards.set i (if d.active = 1 then .notifying else .dropped) } := by
  have positive : 0 < d.guards.countP (· == .held) :=
    List.countP_pos_iff.mpr ⟨.held, Pool.mem_of_read found, rfl⟩
  have counted := inv.counted
  have moved (new : Guard) := Pool.countP_set_add (b := new) (· == Guard.held) found
  by_cases last : d.active = 1
  · -- The last drop owes the notification itself.
    rw [if_pos last]
    refine inv_guards inv ?_ fun _ => .inr (Pool.mem_set_self found)
    have := moved .notifying
    simp at this
    omega
  · -- Another guard is still held.
    rw [if_neg last]
    refine inv_guards inv ?_ fun _ => .inl (by omega)
    have := moved .dropped
    simp at this
    omega

theorem inv_step {l : DrainStep} (inv : Inv d) (taken : d.step l = some e) : Inv e := by
  cases l with
  | task =>
    cases taken
    refine inv_guards inv ?_ fun owed => owed.imp_right (List.mem_append_left _)
    rw [Pool.countP_append_one]
    simpa using inv.counted
  -- A guard that is taken makes the counter positive, so whoever sleeps is owed a wakeup.
  | create i =>
    simp only [step, Option.ite_none_right_eq_some, Option.some.injEq] at taken
    obtain ⟨found, rfl⟩ := taken
    have moved := Pool.countP_set_add (b := Guard.held) (· == .held) found
    have counted := inv.counted
    refine inv_guards inv ?_ fun _ => .inl (by omega)
    simp at moved
    omega
  | fetchSub i =>
    simp only [step, Option.ite_none_right_eq_some, Option.some.injEq] at taken
    obtain ⟨found, rfl⟩ := taken
    exact inv_fetchSub inv found
  | notifyWaiters i =>
    simp only [step, Option.ite_none_right_eq_some, Option.some.injEq] at taken
    obtain ⟨found, rfl⟩ := taken
    refine ⟨?_, fun sleeping => ?_⟩
    · have same : (d.guards.set i .dropped).countP (· == .held) = d.guards.countP (· == .held) :=
        Pool.countP_set_same _ found rfl
      exact inv.counted.trans same.symm
    · -- Every waiter has been notified.
      obtain ⟨w, -, same⟩ := List.mem_map.mp sleeping
      exact absurd same w.notify_ne
  | close =>
    cases taken
    refine ⟨inv.counted, fun sleeping => ?_⟩
    rcases List.mem_append.mp sleeping with old | new
    · exact inv.owed old
    · simp at new
  -- A waiter is enabled before it reads the counter.
  | enable k =>
    simp only [step, Option.ite_none_right_eq_some, Option.some.injEq] at taken
    obtain ⟨-, rfl⟩ := taken
    exact inv_waiter inv (fun asleep => by cases asleep)
  | load k =>
    simp only [step] at taken
    split at taken
    next notified found =>
      cases taken
      refine inv_waiter inv fun asleep => .inl ?_
      -- It falls asleep only after it has read a counter above zero.
      by_contra zero
      rw [if_pos (by omega)] at asleep
      cases asleep
    · cases taken
  | wake k =>
    simp only [step, Option.ite_none_right_eq_some, Option.some.injEq] at taken
    obtain ⟨-, rfl⟩ := taken
    exact inv_waiter inv (fun asleep => by cases asleep)

end Drain

def drain : System Drain DrainStep := ⟨⟨0, [], []⟩, Drain.step⟩

theorem drain_inv {d : Drain} (reached : drain.Reaches always d) : d.Inv :=
  System.Reaches.preserves Drain.inv_initial (fun _ _ _ inv _ taken => Drain.inv_step inv taken)
    reached

theorem close_misses_no_wakeup {d : Drain} (reached : drain.Reaches always d) : ¬d.Missed :=
  fun ⟨zero, quiet, sleeping⟩ => ((drain_inv reached).owed sleeping).elim (by omega) quiet

/-- The call falls asleep between the creation of the guard and its drop, and another
guard comes and goes before the notification. -/
theorem close_misses_no_wakeup_run : ∃ d, drain.Reaches always d ∧
    d.active = 0 ∧ .notifying ∉ d.guards ∧ .parked true ∈ d.waiters ∧ ¬d.Missed := by
  have reached := System.reaches_of_run (M := drain)
    [.task, .create 0, .close, .enable 0, .load 0, .fetchSub 0, .task, .create 1, .fetchSub 1,
      .notifyWaiters 1, .notifyWaiters 0] rfl
  exact ⟨_, reached, rfl, by decide, by decide, close_misses_no_wakeup reached⟩

/-! ## The gateway's own tasks and calls -/

namespace GatewayState

def guard : Serve → Guard
  | .deferred => .absent
  | .notifying => .notifying
  | .finished => .dropped
  | _ => .held

def waiter : Close → Waiter
  | .called _ | .sending _ | .looping => .looping
  | .enabled notified => .enabled notified
  | .parked notified => .parked notified
  | .disconnecting | .returned => .left

def drain (g : GatewayState) : Drain := ⟨g.active, g.serves.map guard, g.closes.map waiter⟩

variable {g h : GatewayState} {i k : Nat}

theorem waiter_notify (c : Close) : waiter c.notify = (waiter c).notify := by cases c <;> rfl

private theorem guard_read {p : Serve} (found : g.serves[i]? = some p) :
    g.drain.guards[i]? = some (guard p) := by
  rw [drain, List.getElem?_map, found, Option.map_some]

private theorem waiter_read {c : Close} (found : g.closes[k]? = some c) :
    g.drain.waiters[k]? = some (waiter c) := by
  rw [drain, List.getElem?_map, found, Option.map_some]

/-- The task keeps its guard. -/
private theorem leads_same_guard {p q : Serve} (found : g.serves[i]? = some p)
    (same : guard q = guard p) :
    Rust.Gateway.drain.Leads always g.drain
      ⟨g.active, (g.serves.set i q).map guard, g.closes.map waiter⟩ := by
  rw [Pool.map_set_same guard found same]
  exact .here

/-- The call stays before its next `enable`, or after the loop. -/
private theorem leads_same_waiter {c d : Close} (found : g.closes[k]? = some c)
    (same : waiter d = waiter c) :
    Rust.Gateway.drain.Leads always g.drain
      ⟨g.active, g.serves.map guard, (g.closes.set k d).map waiter⟩ := by
  rw [Pool.map_set_same waiter found same]
  exact .here

theorem drains_serve {l : ServeStep} (taken : g.step (.serve i l) = some h) :
    Rust.Gateway.drain.Leads always g.drain h.drain := by
  obtain ⟨p, q, found, moved, rfl⟩ := step_serve taken
  have read := guard_read found
  cases Serve.moves_of_next moved with
  | start =>
    refine .one (.create i) ((if_pos read).trans ?_)
    simp [drain, serveEffect, List.map_set, guard]
  | last one =>
    refine .one (.fetchSub i) ((if_pos read).trans ?_)
    simp [drain, serveEffect, List.map_set, guard, one]
  | notLast more =>
    refine .one (.fetchSub i) ((if_pos read).trans ?_)
    simp [drain, serveEffect, List.map_set, guard, more]
  | notifyWaiters =>
    refine .one (.notifyWaiters i) ((if_pos read).trans ?_)
    simp [drain, serveEffect, List.map_set, guard, Function.comp_def, waiter_notify]
  | _ =>
    apply leads_same_guard found
    rfl

theorem drains_closing {l : CloseStep} (taken : g.step (.closing k l) = some h) :
    Rust.Gateway.drain.Leads always g.drain h.drain := by
  obtain ⟨c, d, found, moved, rfl⟩ := step_closing taken
  have read := waiter_read found
  simp only [drain, closeEffect_closes, closeEffect_active, closeEffect_serves]
  cases Close.moves_of_next moved with
  | enable =>
    refine .one (.enable k) ((if_pos read).trans ?_)
    simp [List.map_set, waiter]
  | zero notified none_active =>
    refine .one (.load k) ((Drain.step_load read).trans ?_)
    simp [drain, List.map_set, waiter, none_active]
  | park notified some_active =>
    refine .one (.load k) ((Drain.step_load read).trans ?_)
    simp [drain, List.map_set, waiter, some_active]
  | wake =>
    refine .one (.wake k) ((if_pos read).trans ?_)
    simp [List.map_set, waiter]
  | _ =>
    apply leads_same_waiter found
    rfl

theorem drains_step {l : Label} (taken : g.step l = some h) :
    Rust.Gateway.drain.Leads always g.drain h.drain := by
  cases l with
  | upgrade =>
    cases taken
    split
    · exact .here
    · refine .one .task ?_
      simp [Rust.Gateway.drain, Drain.step, drain, guard]
  | serve i l => exact drains_serve taken
  | close reason =>
    cases taken
    refine .one .close ?_
    simp [Rust.Gateway.drain, Drain.step, drain, waiter]
  | closing k l => exact drains_closing taken

end GatewayState

/-- The gateway's tasks and calls are guards and waiters. -/
theorem gateway_drains {g : GatewayState} (reached : system.Reaches always g) :
    drain.Reaches always g.drain := by
  induction reached with
  | here => exact .here
  | step l _ _ taken ih => exact .trans ih (GatewayState.drains_step taken)

theorem gateway_close_wakes {g : GatewayState} (reached : system.Reaches always g)
    (zero : g.active = 0) (quiet : .notifying ∉ g.serves) : .parked false ∉ g.closes := by
  intro sleeping
  rcases (drain_inv (gateway_drains reached)).owed (List.mem_map.mpr ⟨_, sleeping, rfl⟩)
    with positive | notifying
  · exact absurd zero (Nat.pos_iff_ne_zero.mp positive)
  · obtain ⟨p, member, same⟩ := List.mem_map.mp notifying
    cases p with
    | notifying => exact quiet member
    | _ => cases same

end VoxRtc.Rust.Gateway
