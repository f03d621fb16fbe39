import VoxRtc.Transition.Runs
import VoxRtc.Transition.Pool

/-!
# Serve tasks and shutdown of the Rust gateway

`GatewayState` of `rust/rtcserver/src/gateway.rs` with its upgrade handlers, the
`serve` futures they leave behind and the `VoxRtcGateway::close` calls. Each step is
one atomic operation or one await of the source. What a `serve` task exchanges with
the browser and with Vox while it stays in its select loop does not change the
state modelled here.
-/
namespace VoxRtc.Rust.Gateway

open Transition

/-- Where a `serve` future stands. `seen` is the version its `watch::Receiver` has seen. -/
inductive Serve where
  | deferred
  | creating
  | created
  | subscribed (seen : Nat)
  | hook (seen : Nat)
  | ready (seen : Nat)
  | selecting (seen : Nat)
  | cleanup (reason : String)
  | leaving
  | notifying
  | finished
  deriving DecidableEq, Repr

/-- Where a call of `VoxRtcGateway::close` stands. The flag of a `Notified` future says
whether `notify_waiters` has completed it. -/
inductive Close where
  | called (reason : String)
  | sending (reason : String)
  | looping
  | enabled (notified : Bool)
  | parked (notified : Bool)
  | disconnecting
  | returned
  deriving DecidableEq, Repr

structure GatewayState where
  shuttingDown : Bool
  shutdown : Option String
  version : Nat
  active : Nat
  serves : List Serve
  closes : List Close
  /-- Vox sessions created so far. -/
  sessions : Nat
  deriving DecidableEq, Repr

inductive ServeStep where
  | start
  | createOk
  | createErr
  | subscribe
  | borrow
  | hookOk
  | hookErr
  | readyOk
  | readyErr
  | changed
  | stay
  | exit (reason : String)
  | cleaned
  | fetchSub
  | notifyWaiters
  deriving DecidableEq, Repr

inductive CloseStep where
  | swap
  | send
  | enable
  | load
  | wake
  | disconnected
  deriving DecidableEq, Repr

inductive Label where
  | upgrade
  | serve (task : Nat) (step : ServeStep)
  | close (reason : String)
  | closing (call : Nat) (step : CloseStep)
  deriving DecidableEq, Repr

namespace Serve

/-- The task holds an `ActiveGuard` it has not dropped. -/
def running : Serve → Bool
  | creating | created | subscribed _ | hook _ | ready _ | selecting _ | cleanup _ | leaving => true
  | deferred | notifying | finished => false

/-- The task's `watch::Receiver` is alive. -/
def receives : Serve → Bool
  | subscribed _ | hook _ | ready _ | selecting _ | cleanup _ => true
  | _ => false

/-- A Vox session exists and its cleanup has not begun. -/
def owes : Serve → Bool
  | created | subscribed _ | hook _ | ready _ | selecting _ => true
  | _ => false

/-- The body of `serve`, with the `await`s and the shared accesses as steps. -/
def next (g : GatewayState) : ServeStep → Serve → Option Serve
  | .start, deferred => some creating
  | .createOk, creating => some created
  | .createErr, creating => some leaving
  | .subscribe, created => some (subscribed g.version)
  -- The value is looked at once before the loop, for it may have been sent before `subscribe`.
  | .borrow, subscribed seen => some <| match g.shutdown with
    | some reason => cleanup reason
    | none => hook seen
  | .hookOk, hook seen => some (ready seen)
  | .hookErr, hook _ => some (cleanup "session_created_hook_failed")
  | .readyOk, ready seen => some (selecting seen)
  | .readyErr, ready _ => some (cleanup "gateway_ready_failed")
  -- The receiver has seen the newest version from here on, whatever its value.
  | .changed, selecting seen =>
    if seen < g.version then
      some <| match g.shutdown with
        | some reason => cleanup reason
        | none => selecting g.version
    else none
  | .stay, selecting seen => some (selecting seen)
  | .exit reason, selecting _ => some (cleanup reason)
  | .cleaned, cleanup _ => some leaving
  -- The guard is dropped: the last task out wakes those who wait for it.
  | .fetchSub, leaving => some (if g.active = 1 then notifying else finished)
  | .notifyWaiters, notifying => some finished
  | _, _ => none

/-- Every move a task can make, with the branch it takes. -/
inductive Moves (g : GatewayState) : ServeStep → Serve → Serve → Prop
  | start : Moves g .start deferred creating
  | createOk : Moves g .createOk creating created
  | createErr : Moves g .createErr creating leaving
  | subscribe : Moves g .subscribe created (subscribed g.version)
  | told (seen : Nat) (reason : String) (value : g.shutdown = some reason) :
      Moves g .borrow (subscribed seen) (cleanup reason)
  | untold (seen : Nat) (value : g.shutdown = none) : Moves g .borrow (subscribed seen) (hook seen)
  | hookOk (seen : Nat) : Moves g .hookOk (hook seen) (ready seen)
  | hookErr (seen : Nat) : Moves g .hookErr (hook seen) (cleanup "session_created_hook_failed")
  | readyOk (seen : Nat) : Moves g .readyOk (ready seen) (selecting seen)
  | readyErr (seen : Nat) : Moves g .readyErr (ready seen) (cleanup "gateway_ready_failed")
  | changed (seen : Nat) (reason : String) (fresh : seen < g.version)
      (value : g.shutdown = some reason) : Moves g .changed (selecting seen) (cleanup reason)
  | blank (seen : Nat) (fresh : seen < g.version) (value : g.shutdown = none) :
      Moves g .changed (selecting seen) (selecting g.version)
  | stay (seen : Nat) : Moves g .stay (selecting seen) (selecting seen)
  | exit (seen : Nat) (reason : String) : Moves g (.exit reason) (selecting seen) (cleanup reason)
  | cleaned (reason : String) : Moves g .cleaned (cleanup reason) leaving
  | last (one : g.active = 1) : Moves g .fetchSub leaving notifying
  | notLast (more : g.active ≠ 1) : Moves g .fetchSub leaving finished
  | notifyWaiters : Moves g .notifyWaiters notifying finished

theorem moves_of_next {g : GatewayState} {l : ServeStep} {p q : Serve}
    (moved : p.next g l = some q) : Moves g l p q := by
  unfold next at moved
  split at moved
  -- The reason may have been sent before the task subscribed.
  case h_5 seen =>
    cases value : g.shutdown with
    | some reason =>
      simp only [value, Option.some.injEq] at moved
      exact moved ▸ .told seen reason value
    | none =>
      simp only [value, Option.some.injEq] at moved
      exact moved ▸ .untold seen value
  -- The version has moved on, with a reason or without one.
  case h_10 seen =>
    split at moved
    next fresh =>
      cases value : g.shutdown with
      | some reason =>
        simp only [value, Option.some.injEq] at moved
        exact moved ▸ .changed seen reason fresh value
      | none =>
        simp only [value, Option.some.injEq] at moved
        exact moved ▸ .blank seen fresh value
    · cases moved
  case h_14 =>
    split at moved
    next one => cases moved; exact .last one
    next more => cases moved; exact .notLast more
  case h_16 => cases moved
  all_goals cases moved; constructor

end Serve

namespace Close

/-- `close` has read `active == 0` and left its loop. -/
def drained : Close → Bool
  | disconnecting | returned => true
  | _ => false

def isSending : Close → Bool
  | sending _ => true
  | _ => false

/-- `notify_waiters` completes every enabled `Notified`. -/
def notify : Close → Close
  | enabled _ => enabled true
  | parked _ => parked true
  | other => other

def next (g : GatewayState) : CloseStep → Close → Option Close
  -- Only the first call sends its reason.
  | .swap, called reason => some (if g.shuttingDown then looping else sending reason)
  | .send, sending _ => some looping
  | .enable, looping => some (enabled false)
  -- The waiter is enabled before the count is read, so that no wake-up gets lost.
  | .load, enabled notified => some (if g.active = 0 then disconnecting else parked notified)
  | .wake, parked true => some looping
  | .disconnected, disconnecting => some returned
  | _, _ => none

inductive Moves (g : GatewayState) : CloseStep → Close → Close → Prop
  | first (reason : String) (flag : g.shuttingDown = false) :
      Moves g .swap (called reason) (sending reason)
  | later (reason : String) (flag : g.shuttingDown = true) : Moves g .swap (called reason) looping
  | send (reason : String) : Moves g .send (sending reason) looping
  | enable : Moves g .enable looping (enabled false)
  | zero (notified : Bool) (none_active : g.active = 0) :
      Moves g .load (enabled notified) disconnecting
  | park (notified : Bool) (some_active : g.active ≠ 0) :
      Moves g .load (enabled notified) (parked notified)
  | wake : Moves g .wake (parked true) looping
  | disconnected : Moves g .disconnected disconnecting returned

theorem moves_of_next {g : GatewayState} {l : CloseStep} {c d : Close}
    (moved : c.next g l = some d) : Moves g l c d := by
  unfold next at moved
  split at moved
  case h_1 reason =>
    cases flag : g.shuttingDown <;> simp only [flag, if_true, Bool.false_eq_true, if_false,
      Option.some.injEq] at moved
    · exact moved ▸ .first reason flag
    · exact moved ▸ .later reason flag
  case h_4 notified =>
    split at moved
    next zero => cases moved; exact .zero notified zero
    next more => cases moved; exact .park notified more
  case h_7 => cases moved
  all_goals cases moved; constructor

end Close

namespace GatewayState

def initial : GatewayState := ⟨false, none, 0, 0, [], [], 0⟩

/-- `receiver_count` of the watch channel. -/
def receivers (g : GatewayState) : Nat := g.serves.countP Serve.receives

/-- `watch::Sender::send` stores nothing when no receiver is left. -/
def send (g : GatewayState) (reason : String) : GatewayState :=
  if g.receivers = 0 then g
  else { g with shutdown := some reason, version := g.version + 1 }

/-- What a step of a `serve` task does beyond the task itself. -/
def serveEffect (g : GatewayState) : ServeStep → GatewayState
  | .start => { g with active := g.active + 1 }
  | .createOk => { g with sessions := g.sessions + 1 }
  | .fetchSub => { g with active := g.active - 1 }
  | .notifyWaiters => { g with closes := g.closes.map Close.notify }
  | _ => g

def closeEffect (g : GatewayState) : CloseStep → Close → GatewayState
  | .swap, _ => { g with shuttingDown := true }
  | .send, .sending reason => g.send reason
  | _, _ => g

def step (g : GatewayState) : Label → Option GatewayState
  | .upgrade =>
    -- After the flag is set an upgrade is refused; a `serve` future of before may start later.
    some (if g.shuttingDown then g else { g with serves := g.serves ++ [.deferred] })
  | .serve i l => do
    let p ← g.serves[i]?
    let q ← p.next g l
    return { g.serveEffect l with serves := g.serves.set i q }
  | .close reason => some { g with closes := g.closes ++ [.called reason] }
  | .closing k l => do
    let c ← g.closes[k]?
    let d ← c.next g l
    let h := g.closeEffect l c
    return { h with closes := h.closes.set k d }

variable {g h : GatewayState} {i k : Nat}

theorem step_serve {l : ServeStep} (taken : g.step (.serve i l) = some h) :
    ∃ p q, g.serves[i]? = some p ∧ p.next g l = some q ∧
      h = { g.serveEffect l with serves := g.serves.set i q } := by
  simp only [step, Option.bind_eq_bind, Option.bind_eq_some_iff, Option.pure_def,
    Option.some.injEq] at taken
  obtain ⟨p, found, q, moved, rfl⟩ := taken
  exact ⟨p, q, found, moved, rfl⟩

theorem step_closing {l : CloseStep} (taken : g.step (.closing k l) = some h) :
    ∃ c d, g.closes[k]? = some c ∧ c.next g l = some d ∧
      h = { g.closeEffect l c with closes := (g.closeEffect l c).closes.set k d } := by
  simp only [step, Option.bind_eq_bind, Option.bind_eq_some_iff, Option.pure_def,
    Option.some.injEq] at taken
  obtain ⟨c, found, d, moved, rfl⟩ := taken
  exact ⟨c, d, found, moved, rfl⟩

@[simp] theorem serveEffect_shuttingDown (l : ServeStep) :
    (g.serveEffect l).shuttingDown = g.shuttingDown := by cases l <;> rfl

@[simp] theorem serveEffect_shutdown (l : ServeStep) :
    (g.serveEffect l).shutdown = g.shutdown := by cases l <;> rfl

@[simp] theorem serveEffect_version (l : ServeStep) :
    (g.serveEffect l).version = g.version := by cases l <;> rfl

@[simp] theorem send_serves (reason : String) : (g.send reason).serves = g.serves := by
  unfold send
  split <;> rfl

@[simp] theorem send_closes (reason : String) : (g.send reason).closes = g.closes := by
  unfold send
  split <;> rfl

@[simp] theorem send_active (reason : String) : (g.send reason).active = g.active := by
  unfold send
  split <;> rfl

@[simp] theorem closeEffect_serves (l : CloseStep) (c : Close) :
    (g.closeEffect l c).serves = g.serves := by
  cases l <;> cases c <;> simp [closeEffect]

@[simp] theorem closeEffect_closes (l : CloseStep) (c : Close) :
    (g.closeEffect l c).closes = g.closes := by
  cases l <;> cases c <;> simp [closeEffect]

@[simp] theorem closeEffect_active (l : CloseStep) (c : Close) :
    (g.closeEffect l c).active = g.active := by
  cases l <;> cases c <;> simp [closeEffect]

@[simp] theorem notify_drained (c : Close) : c.notify.drained = c.drained := by cases c <;> rfl

@[simp] theorem notify_isSending (c : Close) : c.notify.isSending = c.isSending := by
  cases c <;> rfl

end GatewayState

def system : System GatewayState Label := ⟨.initial, GatewayState.step⟩

end VoxRtc.Rust.Gateway
