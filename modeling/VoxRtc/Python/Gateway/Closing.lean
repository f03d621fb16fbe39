import VoxRtc.Python.Gateway.Teardown

/-!
# Who closes a session of the Python gateway

Either the session's own coroutine or a call of `close` sets `closed`, and that one waits
for the hook; every other `_close_session` returns at once. The moves of a session here are
those of runs in which the hook is not skipped.
-/
namespace VoxRtc.Python.Gateway

open Transition
open VoxRtc.Gateway (Progress)

/-- Nothing of a session was served once shutdown had begun to close it. -/
def Untouched : List Event → Prop
  | [] => True
  | e :: earlier => (e.isServed = true → .closing true ∉ earlier) ∧ Untouched earlier

theorem untouched_append {events trace : List Event} (untouched : Untouched trace)
    (silent : ∀ e ∈ events, e.isServed = false) : Untouched (events ++ trace) := by
  induction events with
  | nil => exact untouched
  | cons e events ih =>
    refine ⟨fun served => ?_, ih fun e member => silent e (.tail _ member)⟩
    rw [silent e (.head _)] at served
    cases served

namespace ActiveSession

variable {s s' : ActiveSession}

/-- `on_session_closed` was invoked once, and has finished. -/
structure Settled (s : ActiveSession) : Prop where
  closed : s.closed = true
  hooks : s.trace.countP Event.isClosed = 1
  finished : s.trace.count .closedFinished = 1

/-- How many coroutines wait for the session's hook. -/
inductive Accounts (s : ActiveSession) : Nat → Prop
  | fresh (still : s.closed = false) (registered : s.registered = true)
      (hooks : s.trace.countP Event.isClosed = 0)
      (finished : s.trace.count .closedFinished = 0) : Accounts s 0
  | hooked (closed : s.closed = true) (registered : s.registered = true)
      (hooks : s.trace.countP Event.isClosed = 1)
      (finished : s.trace.count .closedFinished = 0) : Accounts s 1
  | settled (settled : s.Settled) : Accounts s 0

structure Tidy (s : ActiveSession) : Prop where
  untouched : Untouched s.trace
  closing : .closing true ∈ s.trace → s.closed = true

/-- An event that is not about closing, and serves only a session that shutdown has not closed. -/
def Plain (s : ActiveSession) (e : Event) : Prop :=
  e.isClosed = false ∧ e ≠ .closedFinished ∧ e ≠ .closing true ∧
    (e.isServed = true → .closing true ∉ s.trace)

theorem plain_of_served {e : Event} (served : e.isServed = true)
    (spared : .closing true ∉ s.trace) : s.Plain e := by
  cases e <;> simp_all [Plain, Event.isServed, Event.isClosed]

theorem sessionClose_plain : s.Plain .sessionClose := by
  simp [Plain, Event.isServed, Event.isClosed]

theorem closeRTC_plain (reason : String) : s.Plain (.closeRTC reason) := by
  simp [Plain, Event.isServed, Event.isClosed]

/-- The session is as it was, but for its progress and plain events. -/
structure Touched (s s' : ActiveSession) (events : List Event) : Prop where
  closed : s'.closed = s.closed
  registered : s'.registered = s.registered
  trace : s'.trace = events ++ s.trace
  plain : ∀ e ∈ events, s.Plain e

theorem Touched.counts {events : List Event} (touched : Touched s s' events) :
    s'.trace.countP Event.isClosed = s.trace.countP Event.isClosed ∧
      s'.trace.count .closedFinished = s.trace.count .closedFinished := by
  have hooks : events.countP Event.isClosed = 0 :=
    List.countP_eq_zero.mpr fun e member => by simp [(touched.plain e member).1]
  have finished : events.count .closedFinished = 0 :=
    List.count_eq_zero.mpr fun member => (touched.plain _ member).2.1 rfl
  rw [touched.trace, List.countP_append, List.count_append, hooks, finished]
  exact ⟨Nat.zero_add _, Nat.zero_add _⟩

theorem Touched.accounts {events : List Event} {n : Nat} (touched : Touched s s' events)
    (accounts : s.Accounts n) : s'.Accounts n := by
  obtain ⟨hooks, finished⟩ := touched.counts
  cases accounts with
  | fresh still registered invoked ended =>
    exact .fresh (touched.closed.trans still) (touched.registered.trans registered)
      (hooks.trans invoked) (finished.trans ended)
  | hooked closed registered invoked ended =>
    exact .hooked (touched.closed.trans closed) (touched.registered.trans registered)
      (hooks.trans invoked) (finished.trans ended)
  | settled settled =>
    exact .settled ⟨touched.closed.trans settled.closed, hooks.trans settled.hooks,
      finished.trans settled.finished⟩

theorem Touched.tidy {events : List Event} (touched : Touched s s' events) (tidy : s.Tidy) :
    s'.Tidy := by
  obtain ⟨closed, _, trace, plain⟩ := touched
  constructor
  · rw [trace]
    clear trace
    induction events with
    | nil => exact tidy.untouched
    | cons e events ih =>
      have rest (x : Event) (member : x ∈ events) := plain x (.tail _ member)
      refine ⟨fun served member => ?_, ih rest⟩
      -- Whatever is served finds a session that shutdown has not reached.
      have spared := (plain e (.head _)).2.2.2 served
      rcases List.mem_append.mp member with new | old
      · exact (rest _ new).2.2.1 rfl
      · exact spared old
  · rw [trace, closed]
    intro member
    rcases List.mem_append.mp member with new | old
    · exact absurd rfl (plain _ new).2.2.1
    · exact tidy.closing old

/-- `_close_session` on an open session, when nothing raises. -/
theorem close_none (still : s.closed = false) (reason : String) (shutdown : Bool) :
    ∃ events, (s.close reason shutdown none).2 = true ∧
      (s.close reason shutdown none).1.closed = true ∧
      (s.close reason shutdown none).1.registered = s.registered ∧
      (s.close reason shutdown none).1.trace = events ++ s.trace ∧
      events.countP Event.isClosed = 1 ∧ events.count .closedFinished = 0 ∧
      ∀ e ∈ events, e.isServed = false := by
  unfold close
  rw [if_neg (by simp [still])]
  cases asked : s.progress.rtcCloseRequested with
  | true =>
    refine ⟨[.closed reason, .sessionClose, .closing shutdown], rfl, ?_, ?_, ?_, rfl, rfl, ?_⟩
    · simp [sees, asked]
    · simp [sees, asked]
    · simp [sees, asked]
    · simp [Event.isServed]
  | false =>
    refine ⟨[.closed reason, .sessionClose, .closeRTC reason, .closing shutdown], rfl, ?_, ?_, ?_,
      rfl, rfl, ?_⟩
    · simp [sees, asked]
    · simp [sees, asked]
    · simp [sees, asked]
    · simp [Event.isServed]

theorem close_closed (closed : s.closed = true) (reason : String) (shutdown : Bool)
    (raises : Option Raises) : s.close reason shutdown raises = (s, false) := if_pos closed

/-- `close` waits for the hook unless it is closed. -/
theorem close_waits (reason : String) (shutdown : Bool) :
    (s.close reason shutdown none).2 = !s.closed := by
  cases shut : s.closed with
  | true =>
    rw [close_closed shut]
    rfl
  | false =>
    have passes : Teardown.Passes (Teardown.only none) s.progress.rtcCloseRequested := by
      simp [Teardown.Passes, Teardown.only]
    exact (Teardown.close_awaits_iff shut reason shutdown none).mpr passes

end ActiveSession

/-- What one step does to a session and to the number of coroutines in its hook. -/
inductive Moves (shutdownReason : Option String) :
    Option ActiveSession → Nat → Option ActiveSession → Nat → Prop
  | none (n : Nat) : Moves shutdownReason none n none n
  | created (n : Nat) (open_ : shutdownReason = none) :
      Moves shutdownReason none n (some .initial) n
  | touched {s s' : ActiveSession} (events : List Event) (n : Nat)
      (touched : s.Touched s' events) : Moves shutdownReason (some s) n (some s') n
  | begins {s : ActiveSession} (progress : Progress) (reason : String) (shutdown : Bool) (n : Nat)
      (still : s.closed = false) : Moves shutdownReason (some s) n
        (some (ActiveSession.close { s with progress := progress } reason shutdown none).1) (n + 1)
  | finishes {s : ActiveSession} (n : Nat) :
      Moves shutdownReason (some s) (n + 1) (some s.finish) n

/-- Nobody waits for the hook of a session before there is one. -/
def Tracked : Option ActiveSession → Nat → Prop
  | none, n => n = 0
  | some s, n => s.Accounts n

section Moves

variable {shutdownReason : Option String} {s s' : Option ActiveSession} {n n' : Nat}

theorem Moves.same (s : Option ActiveSession) (n : Nat) : Moves shutdownReason s n s n := by
  cases s with
  | none => exact .none n
  | some s => exact .touched [] n ⟨rfl, rfl, rfl, nofun⟩

theorem Moves.tracked (moves : Moves shutdownReason s n s' n') (tracked : Tracked s n) :
    Tracked s' n' := by
  cases moves with
  | none => exact tracked
  | created =>
    cases tracked
    exact .fresh rfl rfl rfl rfl
  | touched _ _ touched => exact touched.accounts tracked
  | @begins s progress reason shutdown _ still =>
    obtain ⟨events, _, closed, registered, trace, hooks, finished, _⟩ :=
      ActiveSession.close_none (s := { s with progress := progress }) still reason shutdown
    cases tracked with
    | fresh _ present invoked ended =>
      refine .hooked closed (registered.trans present) ?_ ?_
      · rw [trace, List.countP_append, hooks, invoked]
      · rw [trace, List.count_append, finished, ended]
    | hooked set | settled settled => simp_all [ActiveSession.Settled.closed]
  | @finishes s _ =>
    generalize waits : n' + 1 = total at tracked
    cases tracked with
    | fresh | settled => cases waits
    | hooked closed _ hooks finished =>
      cases waits
      refine .settled ⟨closed, ?_, ?_⟩
      · simpa [ActiveSession.finish, ActiveSession.sees, List.countP_cons, Event.isClosed] using hooks
      · simpa [ActiveSession.finish, ActiveSession.sees] using finished

theorem Moves.tidy (moves : Moves shutdownReason s n s' n') (tidy : ∀ a ∈ s, a.Tidy) :
    ∀ a ∈ s', a.Tidy := by
  cases moves with
  | none => exact tidy
  | created =>
    intro a same
    cases same
    exact ⟨⟨nofun, trivial⟩, by simp [ActiveSession.initial]⟩
  | touched _ _ touched =>
    intro a same
    cases same
    exact touched.tidy (tidy _ rfl)
  | @begins s progress reason shutdown _ still =>
    intro a same
    cases same
    obtain ⟨events, _, closed, _, trace, _, _, silent⟩ :=
      ActiveSession.close_none (s := { s with progress := progress }) still reason shutdown
    refine ⟨?_, fun _ => closed⟩
    rw [trace]
    exact untouched_append (tidy s rfl).untouched silent
  | @finishes s _ =>
    intro a same
    cases same
    exact ⟨⟨nofun, (tidy s rfl).untouched⟩, fun member => (tidy s rfl).closing (by
      simpa [ActiveSession.finish, ActiveSession.sees] using member)⟩

/-- A settled session stays settled. -/
theorem Moves.settled (moves : Moves shutdownReason s n s' n') (tracked : Tracked s n)
    (settled : ∀ a ∈ s, a.Settled) (closing : shutdownReason.isSome = true) :
    ∀ a ∈ s', a.Settled := by
  cases moves with
  | none => exact settled
  | created _ open_ =>
    rw [open_] at closing
    cases closing
  | touched _ _ touched =>
    intro a same
    cases same
    obtain ⟨hooks, finished⟩ := touched.counts
    have before := settled _ rfl
    exact ⟨touched.closed.trans before.closed, hooks.trans before.hooks,
      finished.trans before.finished⟩
  | begins _ _ _ _ still =>
    rw [(settled _ rfl).closed] at still
    cases still
  | finishes =>
    generalize waits : n' + 1 = total at tracked
    cases tracked with
    | fresh | settled => cases waits
    | hooked _ _ _ finished =>
      rw [(settled _ rfl).finished] at finished
      cases finished

/-- What is settled or otherwise accounted for stays so. -/
theorem Moves.covered {P : Prop} (moves : Moves shutdownReason s n s' n') (tracked : Tracked s n)
    (closing : shutdownReason.isSome = true) (covered : ∀ a ∈ s, a.Settled ∨ P) :
    ∀ a ∈ s', a.Settled ∨ P := by
  by_cases rest : P
  · exact fun _ _ => .inr rest
  · have settled : ∀ a ∈ s, a.Settled := fun a member => (covered a member).resolve_right rest
    exact fun a member => .inl (moves.settled tracked settled closing a member)

/-- No session is created once shutdown has begun. -/
theorem Moves.present (moves : Moves shutdownReason s n s' n')
    (closing : shutdownReason.isSome = true) : s'.isSome = s.isSome := by
  cases moves with
  | created _ open_ =>
    rw [open_] at closing
    cases closing
  | none | touched | begins | finishes => rfl

end Moves

/-- A closed session that nobody waits for has settled. -/
theorem ActiveSession.Accounts.settled_of_closed {s : ActiveSession} (accounts : s.Accounts 0)
    (closed : s.closed = true) : s.Settled := by
  cases accounts with
  | fresh still => cases still.symm.trans closed
  | settled settled => exact settled

/-- A hook that has finished is not waited for. -/
theorem ActiveSession.Accounts.settled_of_finished {s : ActiveSession} {n : Nat}
    (accounts : s.Accounts n) (finished : .closedFinished ∈ s.trace) : s.Settled := by
  have positive := List.count_pos_iff.mpr finished
  cases accounts with
  | fresh _ _ _ absent | hooked _ _ _ absent =>
    rw [absent] at positive
    cases positive
  | settled settled => exact settled

end VoxRtc.Python.Gateway
