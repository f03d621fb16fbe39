import VoxRtc.Python.Gateway.Closing

/-!
# Shutdown of the Python gateway

`close` takes one snapshot of `_sessions` and closes what it finds. A connection that comes
later is refused, a coroutine looks at `closed` before it waits again, and one call of `close`
does all the work. That leaves three overlaps open: connections that are past the check and
have no session yet, sessions that their own coroutine is closing, and `await`s that are
pending when `close` comes to their session. In runs without them shutdown is complete and
final.
-/
namespace VoxRtc.Python.Gateway

open Transition
open VoxRtc.Gateway (Progress WireEvent Outcome)

namespace Connection

variable {c c' : Connection} {shutdownReason : Option String}

/-- The coroutine waits for the hook of its session. -/
def waits (c : Connection) : Nat :=
  match c.serving with
  | .closing _ => 1
  | _ => 0

/-- There is no session before its creation. -/
def Early (c : Connection) : Prop := c.serving.precedes = true → c.session = none

/-- The subscription does not raise, and an `await` that was pending when `close` came to the
session does not end with something to serve. -/
def Orderly (c : Connection) : ConnStep → Prop
  | .created subscribes => subscribes = true
  | .createdHook true | .wakes (some (.receive _)) _ _ => c.overtaken = false
  | .wakes none _ _ => c.queue.head?.any Option.isSome = true → c.overtaken = false
  | _ => True

instance (c : Connection) : (l : ConnStep) → Decidable (c.Orderly l)
  | .created _ | .createdHook true | .wakes (some (.receive _)) _ _ =>
    inferInstanceAs (Decidable (_ = _))
  | .wakes none _ _ => inferInstanceAs (Decidable (_ → _))
  | .wakes (some .disconnect) _ _ | .wakes (some .other) _ _ | .wakes (some .fails) _ _
  | .received _ | .accepted _ | .createFails | .createdHook false | .errorSent _ | .readySent _
  | .replied _ | .forwarded _ | .closeSent | .hookFinishes | .cancelled =>
    inferInstanceAs (Decidable True)

/-- Where `close` has come to the session, an unguarded `await` has been overtaken. -/
def Guarded (c : Connection) : Prop :=
  ∀ s ∈ c.session, .closing true ∈ s.trace → c.serving.unguarded = true → c.overtaken = true

theorem Guarded.spared {s : ActiveSession} (guarded : c.Guarded) (present : c.session = some s)
    (unguarded : c.serving.unguarded = true) (alone : c.overtaken = false) :
    .closing true ∉ s.trace := by
  intro reached
  rw [guarded s present reached unguarded] at alone
  cases alone

/-- A step of the coroutine itself: the loop guard has been asked. -/
theorem next_guarded {l : ConnStep} {raises : Option Raises}
    (taken : c.next shutdownReason raises l = some c') (tidy : ∀ s ∈ c'.session, s.Tidy) :
    c'.Guarded := by
  intro s present reached unguarded
  have still := next_open taken unguarded s present
  rw [(tidy s present).closing reached] at still
  cases still

/-- `_close_session` by the coroutine itself: it begins, or finds the session closed. -/
private theorem close_moves (d : Connection) (s : ActiveSession) (progress : Progress)
    (reason : String) (tells : Bool) (rest : Nat) :
    Moves shutdownReason (some s) (0 + rest)
      (d.close { s with progress := progress } reason none tells).session
      ((d.close { s with progress := progress } reason none tells).waits + rest) := by
  unfold close
  by_cases shut : s.closed = true
  · rw [ActiveSession.close_closed (s := { s with progress := progress }) shut]
    cases tells <;> exact .touched [] _ ⟨rfl, rfl, rfl, by simp⟩
  · rw [Bool.not_eq_true] at shut
    obtain ⟨_, waits, _⟩ :=
      ActiveSession.close_none (s := { s with progress := progress }) shut reason false
    have moves := @Moves.begins shutdownReason s progress reason false rest shut
    simp only [waits, if_true, Connection.waits]
    rw [Nat.zero_add, Nat.add_comm 1 rest]
    exact moves

private theorem leave_moves (d : Connection) (s : ActiveSession) (rest : Nat) :
    Moves shutdownReason (some s) (0 + rest) (d.leave s none).session
      ((d.leave s none).waits + rest) :=
  close_moves d s s.progress "browser_disconnected" false rest

/-- The loop goes on, or `_close_session` finds the session closed. -/
private theorem again_stays (d : Connection) (s : ActiveSession) :
    (d.again s none).session = some s ∧ (d.again s none).waits = 0 := by
  unfold again
  split
  next shut =>
    rw [leave, close, ActiveSession.close_closed shut]
    exact ⟨rfl, rfl⟩
  · exact ⟨rfl, rfl⟩

private theorem again_moves (d : Connection) (s : ActiveSession) (rest : Nat) :
    Moves shutdownReason (some s) (0 + rest) (d.again s none).session
      ((d.again s none).waits + rest) := by
  obtain ⟨session, waits⟩ := again_stays d s
  rw [session, waits]
  exact .same _ _

/-- The coroutine goes on and its session stays as it is. -/
private theorem moves_serving (rest : Nat) (session : c'.session = c.session)
    (before : c.waits = 0) (after : c'.waits = 0) :
    Moves shutdownReason c.session (c.waits + rest) c'.session (c'.waits + rest) := by
  rw [session, before, after]
  exact .same _ _

private theorem handle_moves (d : Connection) (s : ActiveSession) (raw : Received)
    (outcome : Outcome) (spared : .closing true ∉ s.trace) (rest : Nat) :
    Moves shutdownReason (some s) (0 + rest) (d.handle s raw outcome none).session
      ((d.handle s raw outcome none).waits + rest) := by
  have touched (progress : Progress) :
      s.Touched { s.sees [.command] with progress := progress } [.command] := by
    refine ⟨rfl, rfl, rfl, fun e member => ?_⟩
    rw [List.mem_singleton.mp member]
    exact ActiveSession.plain_of_served rfl spared
  unfold handle
  simp only
  split
  · exact .touched [.command] _ (touched _)
  · split
    · exact .touched [.command] _ (touched _)
    · obtain ⟨session, waits⟩ :=
        again_stays d { s.sees [.command] with progress := (handleMessage s.progress raw outcome).progress }
      rw [session, waits]
      exact .touched [.command] _ (touched _)

private theorem forward_moves (d : Connection) (s : ActiveSession)
    (event : WireEvent Wire.PythonNumber) (reason : String) (spared : .closing true ∉ s.trace)
    (rest : Nat) : Moves shutdownReason (some s) (0 + rest) (d.forward s event reason).session
      ((d.forward s event reason).waits + rest) := by
  refine .touched [.event event.type] _ ⟨rfl, rfl, rfl, fun e member => ?_⟩
  rw [List.mem_singleton.mp member]
  exact ActiveSession.plain_of_served rfl spared

private theorem wake_moves {s : ActiveSession} {message : Option Message} {took : Bool}
    {outcome : Outcome} (spared : c.overtaken = false → .closing true ∉ s.trace)
    (orderly : c.Orderly (.wakes message took outcome))
    (taken : c.wake s message took outcome none = some c') (rest : Nat) :
    Moves shutdownReason (some s) (0 + rest) c'.session (c'.waits + rest) := by
  unfold wake at taken
  simp only at taken
  split at taken
  · cases taken
  · split at taken
    · cases taken
      exact leave_moves _ s rest
    · cases taken
      exact again_moves _ s rest
    · cases taken
      exact .same _ _
    · cases taken
      exact handle_moves _ s _ outcome (spared orderly) rest
    · split at taken
      · split at taken
        next head =>
          cases taken
          exact forward_moves _ s _ _ (spared (orderly (by rw [head]; rfl))) rest
        · cases taken
          exact leave_moves _ s rest
        · cases taken
      · cases taken

theorem next_moves {l : ConnStep} (early : c.Early) (guarded : c.Guarded)
    (entered : shutdownReason.isSome = true → c.serving.precedes = false) (orderly : c.Orderly l)
    (taken : c.next shutdownReason none l = some c') (rest : Nat) :
    Moves shutdownReason c.session (c.waits + rest) c'.session (c'.waits + rest) := by
  -- Only a coroutine that waits for the hook counts as waiting.
  have idle (stands : ∀ tells, c.serving ≠ .closing tells) : c.waits = 0 := by
    unfold waits
    split
    next tells closing => exact absurd closing (stands tells)
    next => rfl
  cases next_cases taken with
  | received stands connect | accepted stands connect =>
    refine moves_serving rest rfl (idle (by simp [stands])) ?_
    cases connect <;> rfl
  | created stands open_ =>
    rw [early (by rw [stands]; rfl), idle (by simp [stands])]
    exact .created _ open_
  -- Under a shutdown no connection is left that has no session.
  | refused stands closing dropped =>
    have before := entered closing
    rw [stands] at before
    cases before
  | unsubscribed open_ => cases orderly
  | ready present stands =>
    rw [present, idle (by simp [stands])]
    refine .touched [.ready] _ ⟨rfl, rfl, rfl, fun e member => ?_⟩
    rw [List.mem_singleton.mp member]
    exact ActiveSession.plain_of_served rfl
      (guarded.spared present (by rw [stands]; rfl) orderly)
  | hookFails stands => exact moves_serving rest rfl (idle (by simp [stands])) rfl
  | @errorSent s present stands =>
    rw [present, idle (by simp [stands])]
    exact close_moves c s s.progress "session_created_hook_failed" true rest
  | @again s l present stands =>
    have free : c.waits = 0 := by rcases stands with at_ | at_ | at_ <;> exact idle (by simp [at_])
    rw [present, free]
    exact again_moves c s rest
  | wakes present stands woken =>
    rw [present, idle (by simp [stands])]
    exact wake_moves (guarded.spared present (by rw [stands]; rfl)) orderly woken rest
  | @ends s reason present stands =>
    rw [present, idle (by simp [stands])]
    exact close_moves c s _ reason true rest
  | fails stands | stops stands => exact moves_serving rest rfl (idle stands) rfl
  | @leaves s l present stands =>
    rw [present, idle stands]
    exact leave_moves c s rest
  | drops present stands =>
    rw [present, idle (by simp [stands])]
    refine .touched [.sessionClose, .closeRTC "gateway_setup_failed"] _
      ⟨rfl, rfl, rfl, fun e member => ?_⟩
    rcases List.mem_cons.mp member with rfl | last
    · exact ActiveSession.sessionClose_plain
    · rw [List.mem_singleton.mp last]
      exact ActiveSession.closeRTC_plain _
  | @hookFinishes s tells present stands =>
    -- The hook has finished, and its waiter goes on.
    have before : c.waits = 1 := by simp [waits, stands]
    rw [present, before, Nat.add_comm 1 rest]
    cases tells with
    | true => simpa [waits, closed] using @Moves.finishes shutdownReason _ rest
    | false => simpa [waits, closed] using @Moves.finishes shutdownReason _ rest

theorem next_early {l : ConnStep} {raises : Option Raises} (early : c.Early)
    (taken : c.next shutdownReason raises l = some c') : c'.Early := by
  intro precedes
  obtain ⟨before, session, -⟩ := next_precedes taken precedes
  rw [session]
  exact early before

end Connection

namespace CloserStage

/-- The call waits for the hook of a session. -/
def onHook (i : Nat) : CloserStage → Bool
  | hook j _ => j == i
  | _ => false

/-- The call may come to a session next. -/
def visits (i : Nat) : CloserStage → Bool
  | closing sessions => i ∈ sessions
  | _ => false

/-- The call goes from session to session. -/
def acts : CloserStage → Bool
  | closing _ | hook _ _ => true
  | _ => false

end CloserStage

namespace VoxRtcGateway

variable {g h : VoxRtcGateway}

/-- The coroutines that wait for the hook of a session. -/
def awaits (g : VoxRtcGateway) (i : Nat) : Nat :=
  (g.conns[i]?.elim 0 Connection.waits) + g.closers.countP (CloserStage.onHook i)

/-- No session's teardown raises before its hook; when `close` is first called no connection is
past the check without a session; `close` comes to no session that its own coroutine is closing;
and connections are orderly. -/
def Orderly (g : VoxRtcGateway) : Label → Prop
  | .close _ => g.shutdownReason = none → ∀ c ∈ g.conns, c.serving.precedes = false
  | .conn i l raises => raises = none ∧ ∀ c ∈ g.conns[i]?, c.Orderly l
  | .closer k pick raises _ => raises = none ∧
      (g.closers[k]?.any (CloserStage.visits pick) = true → ∀ c ∈ g.conns[pick]?, c.waits = 0)
  | .connect | .event _ _ _ => True

instance (g : VoxRtcGateway) : (l : Label) → Decidable (g.Orderly l)
  | .close _ => inferInstanceAs (Decidable (_ → _))
  | .conn _ _ _ => inferInstanceAs (Decidable (_ ∧ _))
  | .closer _ pick _ _ => inferInstanceAs (Decidable (_ ∧ (_ → ∀ c ∈ g.conns[pick]?, c.waits = 0)))
  | .connect | .event _ _ _ => inferInstanceAs (Decidable True)

/-- One connection moves; the calls of `close` stand where they stood. -/
private theorem moves_set {i : Nat} {c : Connection} (c' : Connection) (found : g.conns[i]? = some c)
    (moves : ∀ rest, Moves g.shutdownReason c.session (c.waits + rest) c'.session (c'.waits + rest))
    (conns : h.conns = g.conns.set i c') (closers : h.closers = g.closers) (j : Nat) :
    Moves g.shutdownReason (g.session j) (g.awaits j) (h.session j) (h.awaits j) := by
  unfold session awaits
  rw [conns, closers]
  by_cases same : j = i
  · rw [same, Pool.read_set_self found, found]
    exact moves _
  · rw [Pool.read_set_other same]
    exact .same _ _

/-- A call of `close` moves between `await`s on no session's hook. -/
private theorem moves_closer {k : Nat} {stage : CloserStage} (stage' : CloserStage)
    (at_k : g.closers[k]? = some stage) (conns : h.conns = g.conns)
    (closers : h.closers = g.closers.set k stage')
    (out : ∀ i, stage'.onHook i = stage.onHook i) (j : Nat) :
    Moves g.shutdownReason (g.session j) (g.awaits j) (h.session j) (h.awaits j) := by
  unfold session awaits
  rw [conns, closers, Pool.countP_set_same _ at_k (out j)]
  exact .same _ _

/-- A call of `close` moves along with one session. -/
private theorem moves_one {k i : Nat} {c : Connection} {stage : CloserStage} (c' : Connection)
    (stage' : CloserStage) (at_k : g.closers[k]? = some stage) (found : g.conns[i]? = some c)
    (conns : h.conns = g.conns.set i c') (closers : h.closers = g.closers.set k stage')
    (waits : c'.waits = c.waits) (elsewhere : ∀ j, j ≠ i → stage'.onHook j = stage.onHook j)
    (moves : ∀ n m, m + (if stage.onHook i then 1 else 0) = n + (if stage'.onHook i then 1 else 0) →
      Moves g.shutdownReason c.session n c'.session m) (j : Nat) :
    Moves g.shutdownReason (g.session j) (g.awaits j) (h.session j) (h.awaits j) := by
  unfold session awaits
  rw [conns, closers]
  by_cases same : j = i
  · rw [same, Pool.read_set_self found, found]
    apply moves
    have total := Pool.countP_set_add (b := stage') (CloserStage.onHook i) at_k
    simp only [Option.elim_some, waits]
    omega
  · rw [Pool.read_set_other same, Pool.countP_set_same _ at_k (elsewhere j same)]
    exact .same _ _

section Step

variable {i k pick : Nat} {todo : List Nat} {raises : Option Raises} {ok : Bool}

theorem visit_cases (taken : g.visit k pick todo raises = some h) :
    ∃ c s, g.conns[pick]? = some c ∧ c.session = some s ∧
      ((s.close (g.shutdownReason.getD "") true raises).2 = true ∧ h = { g with
          conns := g.conns.set pick { c.overtake s with
            session := some (s.close (g.shutdownReason.getD "") true raises).1 }
          closers := g.closers.set k (.hook pick (todo.erase pick))
          running := none } ∨
        (s.close (g.shutdownReason.getD "") true raises).2 = false ∧ h = { g with
          conns := g.conns.set pick (putNone (c.overtake s)
            (s.close (g.shutdownReason.getD "") true raises).1)
          closers := g.closers.set k (.closing (todo.erase pick)) }) := by
  simp only [visit, Option.bind_eq_bind, Option.bind_eq_some_iff, Option.pure_def,
    Option.some.injEq] at taken
  obtain ⟨c, found, s, present, taken⟩ := taken
  refine ⟨c, s, found, present, ?_⟩
  split at taken
  next waits => exact .inl ⟨waits, taken.symm⟩
  next passes => exact .inr ⟨Bool.eq_false_of_not_eq_true passes, taken.symm⟩

theorem stepCloser_closing (taken : g.stepCloser k (.closing todo) pick raises ok = some h) :
    todo = [] ∧ h = { g with
        closers := g.closers.set k .disconnecting, running := none, disconnected := true } ∨
      pick ∈ todo ∧ g.visit k pick todo raises = some h := by
  simp only [stepCloser, Option.ite_none_left_eq_some] at taken
  obtain ⟨_, taken⟩ := taken
  split at taken
  next empty => exact .inl ⟨empty, (Option.some.inj taken).symm⟩
  next => exact .inr (Option.ite_none_right_eq_some.mp taken)

theorem stepCloser_hook (taken : g.stepCloser k (.hook i todo) pick raises ok = some h) :
    ∃ c s, g.conns[i]? = some c ∧ c.session = some s ∧ h = { g with
      conns := g.conns.set i (putNone c s.finish)
      closers := g.closers.set k (.closing todo)
      running := some k } := by
  simp only [stepCloser, Option.ite_none_left_eq_some, Option.bind_eq_bind,
    Option.bind_eq_some_iff, Option.pure_def, Option.some.injEq] at taken
  obtain ⟨_, c, found, s, present, rfl⟩ := taken
  exact ⟨c, s, found, present, rfl⟩

theorem stepCloser_disconnecting
    (taken : g.stepCloser k .disconnecting pick raises ok = some h) :
    h = { g with closers := g.closers.set k .returned, closeEvent := true } ∨
      h = { g with closers := g.closers.set k .raised } := by
  simp only [stepCloser, Option.ite_none_left_eq_some] at taken
  obtain ⟨_, taken⟩ := taken
  split at taken
  · exact .inl (Option.some.inj taken).symm
  · exact .inr (Option.some.inj taken).symm

theorem stepCloser_awaiting (taken : g.stepCloser k .awaiting pick raises ok = some h) :
    g.closeEvent = true ∧ h = { g with closers := g.closers.set k .returned } := by
  simp only [stepCloser, Option.ite_none_right_eq_some, Option.some.injEq] at taken
  obtain ⟨⟨_, done⟩, rfl⟩ := taken
  exact ⟨done, rfl⟩

theorem step_connect (taken : g.step .connect = some h) :
    g.shutdownReason.isSome = true ∧ h = g ∨
      g.shutdownReason.isSome = false ∧ h = { g with conns := g.conns ++ [.initial] } := by
  simp only [step, Option.ite_none_left_eq_some, Option.some.injEq] at taken
  obtain ⟨_, taken⟩ := taken
  split at taken
  next closing => exact .inl ⟨closing, taken.symm⟩
  next open_ => exact .inr ⟨Bool.eq_false_of_not_eq_true open_, taken.symm⟩

theorem step_conn {l : ConnStep} (taken : g.step (.conn i l raises) = some h) :
    ∃ c c', g.conns[i]? = some c ∧ c.next g.shutdownReason raises l = some c' ∧
      h = { g with conns := g.conns.set i c' } := by
  simp only [step, Option.ite_none_left_eq_some, Option.bind_eq_bind, Option.bind_eq_some_iff,
    Option.pure_def, Option.some.injEq] at taken
  obtain ⟨_, c, found, c', moved, rfl⟩ := taken
  exact ⟨c, c', found, moved, rfl⟩

theorem step_event {event : WireEvent Wire.PythonNumber} {reason : String}
    (taken : g.step (.event i event reason) = some h) :
    ∃ c, g.conns[i]? = some c ∧
      h = { g with conns := g.conns.set i { c with queue := c.queue ++ [some (event, reason)] } } := by
  simp only [step, Option.ite_none_left_eq_some, Option.bind_eq_bind, Option.bind_eq_some_iff,
    Option.ite_none_right_eq_some, Option.some.injEq] at taken
  obtain ⟨_, c, found, _, rfl⟩ := taken
  exact ⟨c, found, rfl⟩

theorem step_close {reason : String} (taken : g.step (.close reason) = some h) :
    g.shutdownReason.isSome = true ∧ h = { g with closers := g.closers ++ [.awaiting] } ∨
      g.shutdownReason.isSome = false ∧ h = { g with
        closers := g.closers ++ [.closing g.sessions]
        running := some g.closers.length
        shutdownReason := some reason } := by
  simp only [step, Option.ite_none_left_eq_some] at taken
  obtain ⟨_, taken⟩ := taken
  split at taken
  next closing => exact .inl ⟨closing, (Option.some.inj taken).symm⟩
  next open_ => exact .inr ⟨Bool.eq_false_of_not_eq_true open_, (Option.some.inj taken).symm⟩

theorem step_closer (taken : g.step (.closer k pick raises ok) = some h) :
    ∃ stage, g.closers[k]? = some stage ∧ g.stepCloser k stage pick raises ok = some h := by
  simpa only [step, Option.bind_eq_bind, Option.bind_eq_some_iff] using taken

end Step

private theorem visit_moves {k pick : Nat} {todo : List Nat}
    (at_k : g.closers[k]? = some (.closing todo))
    (taken : g.visit k pick todo none = some h) (j : Nat) :
    Moves g.shutdownReason (g.session j) (g.awaits j) (h.session j) (h.awaits j) := by
  obtain ⟨c, s, found, present, ⟨waits, rfl⟩ | ⟨passes, rfl⟩⟩ := visit_cases taken
  · rw [ActiveSession.close_waits, Bool.not_eq_true'] at waits
    let closing := { c.overtake s with
      session := some (s.close (g.shutdownReason.getD "") true none).1 }
    refine moves_one closing (.hook pick (todo.erase pick)) at_k found (by rfl) (by rfl) rfl
      ?_ ?_ j
    · intro j apart
      simpa [CloserStage.onHook] using fun equal => apart (Eq.symm equal)
    · intro n m total
      simp only [CloserStage.onHook, beq_self_eq_true, if_true] at total
      cases total
      rw [present]
      exact .begins s.progress _ true n waits
  · rw [ActiveSession.close_waits, Bool.not_eq_false'] at passes
    rw [ActiveSession.close_closed passes]
    refine moves_one (putNone (c.overtake s) s) (.closing (todo.erase pick)) at_k found (by rfl) (by rfl) rfl
      (fun _ _ => rfl) (fun n m total => ?_) j
    cases total
    rw [present]
    exact .same _ _

private theorem stepCloser_moves {k pick : Nat} {stage : CloserStage} {ok : Bool}
    (at_k : g.closers[k]? = some stage) (taken : g.stepCloser k stage pick none ok = some h)
    (j : Nat) : Moves g.shutdownReason (g.session j) (g.awaits j) (h.session j) (h.awaits j) := by
  cases stage with
  | closing todo =>
    rcases stepCloser_closing taken with ⟨_, rfl⟩ | ⟨_, visits⟩
    · exact moves_closer .disconnecting at_k (by rfl) (by rfl) (fun _ => rfl) j
    · exact visit_moves at_k visits j
  | hook i todo =>
    obtain ⟨c, s, found, present, rfl⟩ := stepCloser_hook taken
    refine moves_one (putNone c s.finish) (.closing todo) at_k found (by rfl) (by rfl) rfl ?_ ?_ j
    · intro j apart
      simpa [CloserStage.onHook] using fun equal => apart (Eq.symm equal)
    · intro n m total
      simp only [CloserStage.onHook, beq_self_eq_true, if_true] at total
      cases total
      rw [present]
      exact .finishes m
  | disconnecting =>
    rcases stepCloser_disconnecting taken with rfl | rfl
    · exact moves_closer .returned at_k (by rfl) (by rfl) (fun _ => rfl) j
    · exact moves_closer .raised at_k (by rfl) (by rfl) (fun _ => rfl) j
  | awaiting =>
    obtain ⟨_, rfl⟩ := stepCloser_awaiting taken
    exact moves_closer .returned at_k (by rfl) (by rfl) (fun _ => rfl) j
  | returned | raised => cases taken

theorem step_moves {l : Label} (early : ∀ c ∈ g.conns, c.Early)
    (guarded : ∀ c ∈ g.conns, c.Guarded)
    (entered : g.shutdownReason.isSome = true → ∀ c ∈ g.conns, c.serving.precedes = false)
    (orderly : g.Orderly l) (taken : g.step l = some h) (j : Nat) :
    Moves g.shutdownReason (g.session j) (g.awaits j) (h.session j) (h.awaits j) := by
  cases l with
  | connect =>
    rcases step_connect taken with ⟨_, rfl⟩ | ⟨_, rfl⟩
    · exact .same _ _
    · unfold session awaits
      simp only [List.getElem?_append]
      split
      · exact .same _ _
      next outside =>
        rw [List.getElem?_eq_none (by omega)]
        cases j - g.conns.length <;> exact .same _ _
  | conn i l raises =>
    obtain ⟨rfl, orderly⟩ := orderly
    obtain ⟨c, c', found, moved, rfl⟩ := step_conn taken
    have member := Pool.mem_of_read found
    exact moves_set c' found (Connection.next_moves (early c member) (guarded c member)
      (fun closing => entered closing c member) (orderly c found) moved) (by rfl) (by rfl) j
  | event i event reason =>
    obtain ⟨c, found, rfl⟩ := step_event taken
    let queued := { c with queue := c.queue ++ [some (event, reason)] }
    exact moves_set queued found (fun rest => .same _ _) (by rfl) (by rfl) j
  | close reason =>
    rcases step_close taken with ⟨_, rfl⟩ | ⟨_, rfl⟩
    · unfold session awaits
      rw [Pool.countP_append_one]
      exact .same _ _
    · unfold session awaits
      rw [Pool.countP_append_one]
      exact .same _ _
  | closer k pick raises ok =>
    obtain ⟨rfl, _⟩ := orderly
    obtain ⟨stage, at_k, taken⟩ := step_closer taken
    exact stepCloser_moves at_k taken j

/-- Every session has settled, and there will be no other. -/
structure Over (g : VoxRtcGateway) : Prop where
  closing : g.shutdownReason.isSome = true
  settled : ∀ i, ∀ s ∈ g.session i, s.Settled

/-- What a call of `close` has left to do covers every session that has not settled. -/
def Covers (g : VoxRtcGateway) : CloserStage → Prop
  | .closing todo => g.shutdownReason.isSome = true ∧ ∀ i, ∀ s ∈ g.session i, s.Settled ∨ i ∈ todo
  | .hook j todo => g.shutdownReason.isSome = true ∧
      ∀ i, ∀ s ∈ g.session i, s.Settled ∨ i = j ∨ i ∈ todo
  | .disconnecting | .returned => g.Over
  | .awaiting | .raised => True

structure Inv (g : VoxRtcGateway) : Prop where
  early : ∀ c ∈ g.conns, c.Early
  /-- Once `close` has been called every connection has its session. -/
  entered : g.shutdownReason.isSome = true → ∀ c ∈ g.conns, c.serving.precedes = false
  guarded : ∀ c ∈ g.conns, c.Guarded
  /-- One call of `close` goes from session to session. -/
  alone : g.closers.countP CloserStage.acts ≤ 1
  tracked : ∀ i, Tracked (g.session i) (g.awaits i)
  tidy : ∀ i, ∀ s ∈ g.session i, s.Tidy
  covers : ∀ stage ∈ g.closers, g.Covers stage
  past : g.disconnected = true ∨ g.closeEvent = true → g.Over

theorem inv_initial : Inv initial :=
  ⟨by simp [initial], nofun, by simp [initial], by simp [initial], fun _ => rfl, nofun, nofun,
    by simp [initial]⟩

section Keeps

variable (inv : Inv g)
  (moves : ∀ j, Moves g.shutdownReason (g.session j) (g.awaits j) (h.session j) (h.awaits j))
  (shutdown : g.shutdownReason.isSome = true → h.shutdownReason.isSome = true)
include inv moves shutdown

private theorem Over.keep (past : g.Over) : h.Over :=
  ⟨shutdown past.closing, fun i => (moves i).settled (inv.tracked i) (past.settled i) past.closing⟩

private theorem Covers.keep {stage : CloserStage} (covers : g.Covers stage) : h.Covers stage := by
  cases stage with
  | closing todo => exact ⟨shutdown covers.1, fun i =>
      (moves i).covered (inv.tracked i) covers.1 (covers.2 i)⟩
  | hook j todo => exact ⟨shutdown covers.1, fun i =>
      (moves i).covered (inv.tracked i) covers.1 (covers.2 i)⟩
  | disconnecting | returned => exact Over.keep inv moves shutdown covers
  | awaiting | raised => trivial

end Keeps

private theorem stepCloser_reason {k pick : Nat} {stage : CloserStage} {raises : Option Raises}
    {ok : Bool} (taken : g.stepCloser k stage pick raises ok = some h) :
    h.shutdownReason = g.shutdownReason := by
  cases stage with
  | closing todo =>
    rcases stepCloser_closing taken with ⟨_, rfl⟩ | ⟨_, visits⟩
    · rfl
    · obtain ⟨_, _, _, _, ⟨_, rfl⟩ | ⟨_, rfl⟩⟩ := visit_cases visits
      · rfl
      · rfl
  | hook i todo =>
    obtain ⟨_, _, _, _, rfl⟩ := stepCloser_hook taken
    rfl
  | disconnecting =>
    rcases stepCloser_disconnecting taken with rfl | rfl
    · rfl
    · rfl
  | awaiting =>
    obtain ⟨_, rfl⟩ := stepCloser_awaiting taken
    rfl
  | returned | raised => cases taken

private theorem step_closing {l : Label} (taken : g.step l = some h)
    (closing : g.shutdownReason.isSome = true) : h.shutdownReason.isSome = true := by
  cases l with
  | connect =>
    rcases step_connect taken with ⟨_, rfl⟩ | ⟨open_, _⟩
    · exact closing
    · cases closing.symm.trans open_
  | conn i l raises =>
    obtain ⟨_, _, _, _, rfl⟩ := step_conn taken
    exact closing
  | event i event reason =>
    obtain ⟨_, _, rfl⟩ := step_event taken
    exact closing
  | close reason =>
    rcases step_close taken with ⟨_, rfl⟩ | ⟨open_, _⟩
    · exact closing
    · cases closing.symm.trans open_
  | closer k pick raises ok =>
    obtain ⟨stage, _, taken⟩ := step_closer taken
    rw [stepCloser_reason taken]
    exact closing

/-- What happens to one connection in a step. -/
inductive Turn (shutdownReason : Option String) (c : Connection) : Connection → Prop
  | next {c' : Connection} {l : ConnStep} {raises : Option Raises}
      (moved : c.next shutdownReason raises l = some c') : Turn shutdownReason c c'
  | queued (queue : List (Option (WireEvent Wire.PythonNumber × String))) :
      Turn shutdownReason c { c with queue := queue }
  | visited {s : ActiveSession} (present : c.session = some s) (reason : String)
      (raises : Option Raises) (queue : List (Option (WireEvent Wire.PythonNumber × String))) :
      Turn shutdownReason c
        { c.overtake s with session := some (s.close reason true raises).1, queue := queue }
  | finished {s : ActiveSession} (present : c.session = some s)
      (queue : List (Option (WireEvent Wire.PythonNumber × String))) :
      Turn shutdownReason c { c with session := some s.finish, queue := queue }

/-- A step concerns one connection at most, or a new one that is not refused. -/
private theorem step_conns {l : Label} (taken : g.step l = some h) :
    h.conns = g.conns ∨ g.shutdownReason.isSome = false ∧ h.conns = g.conns ++ [.initial] ∨
      ∃ i c c', g.conns[i]? = some c ∧ h.conns = g.conns.set i c' ∧
        Turn g.shutdownReason c c' := by
  cases l with
  | connect =>
    rcases step_connect taken with ⟨_, rfl⟩ | ⟨open_, rfl⟩
    · exact .inl rfl
    · exact .inr (.inl ⟨open_, rfl⟩)
  | conn i l raises =>
    obtain ⟨c, c', found, moved, rfl⟩ := step_conn taken
    exact .inr (.inr ⟨i, c, c', found, rfl, .next moved⟩)
  | event i event reason =>
    obtain ⟨c, found, rfl⟩ := step_event taken
    exact .inr (.inr ⟨i, c, _, found, rfl, .queued _⟩)
  | close reason => rcases step_close taken with ⟨_, rfl⟩ | ⟨_, rfl⟩ <;> exact .inl rfl
  | closer k pick raises ok =>
    obtain ⟨stage, _, taken⟩ := step_closer taken
    cases stage with
    | closing todo =>
      rcases stepCloser_closing taken with ⟨_, rfl⟩ | ⟨_, visits⟩
      · exact .inl rfl
      · obtain ⟨c, s, found, present, ⟨_, rfl⟩ | ⟨_, rfl⟩⟩ := visit_cases visits
        · exact .inr (.inr ⟨pick, c, _, found, rfl, .visited present _ _ c.queue⟩)
        · exact .inr (.inr ⟨pick, c, _, found, rfl, .visited present _ _ _⟩)
    | hook i todo =>
      obtain ⟨c, s, found, present, rfl⟩ := stepCloser_hook taken
      exact .inr (.inr ⟨i, c, _, found, rfl, .finished present _⟩)
    | disconnecting => rcases stepCloser_disconnecting taken with rfl | rfl <;> exact .inl rfl
    | awaiting =>
      obtain ⟨_, rfl⟩ := stepCloser_awaiting taken
      exact .inl rfl
    | returned | raised => cases taken

/-- What every turn keeps, all connections keep. -/
private theorem forall_conns {P : Connection → Prop} {l : Label} (taken : g.step l = some h)
    (all : ∀ c ∈ g.conns, P c) (new : g.shutdownReason.isSome = false → P .initial)
    (turns : ∀ i c c', h.session i = c'.session → Turn g.shutdownReason c c' → P c → P c') :
    ∀ c ∈ h.conns, P c := by
  rcases step_conns taken with same | ⟨open_, more⟩ | ⟨i, c, c', found, moved, turn⟩
  · rw [same]
    exact all
  · rw [more]
    exact Pool.forall_append all (new open_)
  · rw [moved]
    refine Pool.forall_set all (turns i c c' ?_ turn (all c (Pool.mem_of_read found)))
    rw [session, moved, Pool.read_set_self found]
    rfl

private theorem early_step {l : Label} (early : ∀ c ∈ g.conns, c.Early)
    (taken : g.step l = some h) : ∀ c ∈ h.conns, c.Early := by
  refine forall_conns taken early (fun _ _ => rfl) fun i c c' _ turn before => ?_
  cases turn with
  | next moved => exact Connection.next_early before moved
  | queued queue => exact before
  -- A connection has a session only from its creation on.
  | visited present | finished present => exact fun precedes => by simp [before precedes] at present

/-- Only the first call of `close` begins a shutdown. -/
private theorem step_opens {l : Label} (taken : g.step l = some h)
    (open_ : g.shutdownReason = none) (closing : h.shutdownReason.isSome = true) :
    ∃ reason, l = .close reason ∧ h.conns = g.conns := by
  have stayed (same : h.shutdownReason = g.shutdownReason) : False := by
    rw [same, open_] at closing
    cases closing
  cases l with
  | connect => rcases step_connect taken with ⟨_, rfl⟩ | ⟨_, rfl⟩ <;> exact (stayed rfl).elim
  | conn i l raises =>
    obtain ⟨_, _, _, _, rfl⟩ := step_conn taken
    exact (stayed rfl).elim
  | event i event reason =>
    obtain ⟨_, _, rfl⟩ := step_event taken
    exact (stayed rfl).elim
  | close reason => rcases step_close taken with ⟨_, rfl⟩ | ⟨_, rfl⟩ <;> exact ⟨reason, rfl, rfl⟩
  | closer k pick raises ok =>
    obtain ⟨_, _, taken⟩ := step_closer taken
    exact (stayed (stepCloser_reason taken)).elim

/-- A connection that comes under a shutdown is refused, and none goes back to before its
creation. -/
private theorem entered_step {l : Label}
    (entered : g.shutdownReason.isSome = true → ∀ c ∈ g.conns, c.serving.precedes = false)
    (orderly : g.Orderly l) (taken : g.step l = some h)
    (closing : h.shutdownReason.isSome = true) : ∀ c ∈ h.conns, c.serving.precedes = false := by
  cases before : g.shutdownReason with
  | none =>
    obtain ⟨reason, rfl, same⟩ := step_opens taken before closing
    rw [same]
    exact orderly before
  | some reason =>
    refine forall_conns taken (entered (by rw [before]; rfl)) (fun open_ => ?_)
      fun i c c' _ turn past => ?_
    · rw [before] at open_
      cases open_
    · cases turn with
      | next moved =>
        by_contra precedes
        have back := (Connection.next_precedes moved (Bool.eq_true_of_not_eq_false precedes)).1
        exact Bool.false_ne_true (past.symm.trans back)
      | queued | visited | finished => exact past

private theorem guarded_step {l : Label} (guarded : ∀ c ∈ g.conns, c.Guarded)
    (tidy : ∀ i, ∀ s ∈ h.session i, s.Tidy) (taken : g.step l = some h) :
    ∀ c ∈ h.conns, c.Guarded := by
  refine forall_conns taken guarded (fun _ => nofun) fun i c c' here turn before => ?_
  cases turn with
  | next moved => exact Connection.next_guarded moved (here ▸ tidy i)
  | queued queue => exact before
  | @visited s present reason raises queue =>
    rintro a ⟨⟩ reached unguarded
    change (c.overtaken || (!s.closed && c.serving.unguarded)) = true
    cases shut : s.closed with
    | false => simpa using .inr unguarded
    | true =>
      rw [ActiveSession.close_closed shut] at reached
      simp [before s present reached unguarded]
  | @finished s present queue =>
    rintro a ⟨⟩ reached unguarded
    exact before s present (by simpa [ActiveSession.finish, ActiveSession.sees] using reached) unguarded

/-- A call of `close` goes on, or a new one waits, unless it is the first. -/
private theorem step_closers {l : Label} (taken : g.step l = some h) :
    h.closers = g.closers ∨ h.closers = g.closers ++ [.awaiting] ∨
      g.shutdownReason.isSome = false ∧ h.closers = g.closers ++ [.closing g.sessions] ∨
      ∃ k a b, g.closers[k]? = some a ∧ h.closers = g.closers.set k b ∧
        (b.acts = true → a.acts = true) := by
  cases l with
  | connect => rcases step_connect taken with ⟨_, rfl⟩ | ⟨_, rfl⟩ <;> exact .inl rfl
  | conn i l raises =>
    obtain ⟨_, _, _, _, rfl⟩ := step_conn taken
    exact .inl rfl
  | event i event reason =>
    obtain ⟨_, _, rfl⟩ := step_event taken
    exact .inl rfl
  | close reason =>
    rcases step_close taken with ⟨_, rfl⟩ | ⟨open_, rfl⟩
    · exact .inr (.inl rfl)
    · exact .inr (.inr (.inl ⟨open_, rfl⟩))
  | closer k pick raises ok =>
    obtain ⟨stage, at_k, taken⟩ := step_closer taken
    refine .inr (.inr (.inr ⟨k, stage, ?_⟩))
    cases stage with
    | closing todo =>
      rcases stepCloser_closing taken with ⟨_, rfl⟩ | ⟨_, visits⟩
      · exact ⟨_, at_k, rfl, fun _ => rfl⟩
      · obtain ⟨_, _, _, _, ⟨_, rfl⟩ | ⟨_, rfl⟩⟩ := visit_cases visits
        · exact ⟨_, at_k, rfl, fun _ => rfl⟩
        · exact ⟨_, at_k, rfl, fun _ => rfl⟩
    | hook i todo =>
      obtain ⟨_, _, _, _, rfl⟩ := stepCloser_hook taken
      exact ⟨_, at_k, rfl, fun _ => rfl⟩
    | disconnecting =>
      rcases stepCloser_disconnecting taken with rfl | rfl <;> exact ⟨_, at_k, rfl, id⟩
    | awaiting =>
      obtain ⟨_, rfl⟩ := stepCloser_awaiting taken
      exact ⟨_, at_k, rfl, id⟩
    | returned | raised => cases taken

/-- `if self._closing`: there is no second call that goes from session to session. -/
private theorem alone_step {l : Label} (inv : Inv g) (taken : g.step l = some h) :
    h.closers.countP CloserStage.acts ≤ 1 := by
  rcases step_closers taken with same | waits | ⟨open_, first⟩ | ⟨k, a, b, at_k, moved, acts⟩
  · rw [same]
    exact inv.alone
  · rw [waits, Pool.countP_append_one]
    exact inv.alone
  · have none : g.closers.countP CloserStage.acts = 0 := by
      refine List.countP_eq_zero.mpr fun stage member acting => ?_
      have covers := inv.covers stage member
      cases stage with
      | closing | hook => exact Bool.false_ne_true (open_.symm.trans covers.1)
      | disconnecting | awaiting | returned | raised => cases acting
    rw [first, Pool.countP_append_one, none]
    exact Nat.le_refl 1
  · have total := Pool.countP_set_add (b := b) CloserStage.acts at_k
    have before := inv.alone
    rw [moved]
    split at total
    next => split at total <;> omega
    next idle =>
      rw [if_neg fun acting => idle (acts acting)] at total
      omega

/-- While a call goes from session to session none waits for a hook. -/
private theorem unhooked {k : Nat} {todo : List Nat} (alone : g.closers.countP CloserStage.acts ≤ 1)
    (at_k : g.closers[k]? = some (.closing todo)) (i : Nat) :
    g.closers.countP (CloserStage.onHook i) = 0 := by
  obtain ⟨before, after, split, _⟩ := Pool.split_at at_k
  rw [split, List.countP_append, List.countP_cons_of_pos rfl] at alone
  have idle {stages : List CloserStage} (none : stages.countP CloserStage.acts = 0) :
      stages.countP (CloserStage.onHook i) = 0 := by
    refine List.countP_eq_zero.mpr fun stage member hooked => ?_
    have rests := Pool.none_of_countP_zero none member
    cases stage with
    | hook => cases rests
    | closing | disconnecting | awaiting | returned | raised => cases hooked
  rw [split, List.countP_append, List.countP_cons_of_neg Bool.false_ne_true, idle (by omega),
    idle (by omega)]

private theorem inv_visit {k pick : Nat} {todo : List Nat} {raises : Option Raises} {ok : Bool}
    (inv : Inv g)
    (moves : ∀ j, Moves g.shutdownReason (g.session j) (g.awaits j) (h.session j) (h.awaits j))
    (orderly : g.Orderly (.closer k pick raises ok)) (member : pick ∈ todo)
    (at_k : g.closers[k]? = some (.closing todo)) (taken : g.visit k pick todo raises = some h) :
    (∀ stage ∈ h.closers, h.Covers stage) ∧
      (h.disconnected = true ∨ h.closeEvent = true → h.Over) := by
  obtain ⟨rfl, waited⟩ := orderly
  obtain ⟨c, s, found, present, taken⟩ := visit_cases taken
  have here : g.session pick = some s := by simp [session, found, present]
  have covers := inv.covers _ (Pool.mem_of_read at_k)
  obtain ⟨shutdown, flags⟩ : h.shutdownReason = g.shutdownReason ∧
      h.disconnected = g.disconnected ∧ h.closeEvent = g.closeEvent := by
    rcases taken with ⟨_, rfl⟩ | ⟨_, rfl⟩
    · exact ⟨rfl, rfl, rfl⟩
    · exact ⟨rfl, rfl, rfl⟩
  have others (stage : CloserStage) (old : stage ∈ g.closers) : h.Covers stage :=
    Covers.keep inv moves (shutdown ▸ id) (inv.covers stage old)
  have kept (i : Nat) := (moves i).covered (inv.tracked i) covers.1 (covers.2 i)
  have closing : h.shutdownReason.isSome = true := by
    rw [shutdown]
    exact covers.1
  refine ⟨?_, fun done => ?_⟩
  · rcases taken with ⟨waits, rfl⟩ | ⟨passes, rfl⟩
    · refine Pool.forall_set others ⟨closing, fun i a there => ?_⟩
      refine (kept i a there).imp_right fun member => ?_
      by_cases equal : i = pick
      · exact .inl equal
      · exact .inr ((List.mem_erase_of_ne equal).mpr member)
    · -- Neither its coroutine nor another call waits for the hook of a closed session.
      rw [ActiveSession.close_waits, Bool.not_eq_false'] at passes
      have idle : c.waits = 0 := waited (by simp [at_k, CloserStage.visits, member]) c found
      have tracked := inv.tracked pick
      rw [here, awaits, found, Option.elim_some, idle, unhooked inv.alone at_k pick] at tracked
      have past : s.Settled := ActiveSession.Accounts.settled_of_closed tracked passes
      have after := (moves pick).settled (inv.tracked pick) (by
        rw [here]
        intro a same
        cases same
        exact past) covers.1
      refine Pool.forall_set others ⟨closing, fun i a there => ?_⟩
      by_cases equal : i = pick
      · exact .inl (after a (equal ▸ there))
      · exact (kept i a there).imp_right fun member => (List.mem_erase_of_ne equal).mpr member
  · rw [flags.1, flags.2] at done
    exact Over.keep inv moves (shutdown ▸ id) (inv.past done)

private theorem inv_closer {k pick : Nat} {raises : Option Raises} {ok : Bool}
    {stage : CloserStage} (inv : Inv g)
    (moves : ∀ j, Moves g.shutdownReason (g.session j) (g.awaits j) (h.session j) (h.awaits j))
    (orderly : g.Orderly (.closer k pick raises ok)) (at_k : g.closers[k]? = some stage)
    (taken : g.stepCloser k stage pick raises ok = some h) :
    (∀ stage ∈ h.closers, h.Covers stage) ∧
      (h.disconnected = true ∨ h.closeEvent = true → h.Over) := by
  have covers := inv.covers stage (Pool.mem_of_read at_k)
  have others (shutdown : h.shutdownReason = g.shutdownReason) (stage : CloserStage)
      (old : stage ∈ g.closers) : h.Covers stage :=
    Covers.keep inv moves (shutdown ▸ id) (inv.covers stage old)
  have past (shutdown : h.shutdownReason = g.shutdownReason) (before : g.Over) : h.Over :=
    Over.keep inv moves (shutdown ▸ id) before
  cases stage with
  | closing todo =>
    rcases stepCloser_closing taken with ⟨empty, rfl⟩ | ⟨member, visits⟩
    · -- Nothing is left of the snapshot.
      have settled : g.Over := by
        refine ⟨covers.1, fun i s present => (covers.2 i s present).resolve_right ?_⟩
        rw [empty]
        exact nofun
      exact ⟨Pool.forall_set (others rfl) (past rfl settled), fun _ => past rfl settled⟩
    · exact inv_visit inv moves orderly member at_k visits
  | hook i todo =>
    obtain ⟨c, s, found, present, rfl⟩ := stepCloser_hook taken
    refine ⟨Pool.forall_set (others rfl) ⟨covers.1, fun j a there => ?_⟩,
      fun done => past rfl (inv.past done)⟩
    -- The session whose hook has finished has settled; the others wait as before.
    by_cases equal : j = i
    · subst equal
      left
      have tracked := (moves j).tracked (inv.tracked j)
      rw [there] at tracked
      apply tracked.settled_of_finished
      simp only [session, Pool.read_set_self found, Option.bind_some] at there
      cases there
      exact .head _
    · have kept := (moves j).covered (inv.tracked j) covers.1 (covers.2 j) a there
      exact kept.imp_right fun rest => rest.resolve_left equal
  -- All sessions have settled, whether or not the client can be disconnected.
  | disconnecting =>
    rcases stepCloser_disconnecting taken with rfl | rfl
    · exact ⟨Pool.forall_set (others rfl) (past rfl covers), fun _ => past rfl covers⟩
    · exact ⟨Pool.forall_set (others rfl) trivial, fun _ => past rfl covers⟩
  | awaiting =>
    obtain ⟨done, rfl⟩ := stepCloser_awaiting taken
    have settled := past rfl (inv.past (.inr done))
    exact ⟨Pool.forall_set (others rfl) settled, fun _ => settled⟩
  | returned | raised => cases taken

theorem inv_step {l : Label} (inv : Inv g) (orderly : g.Orderly l) (taken : g.step l = some h) :
    Inv h := by
  have moves := step_moves inv.early inv.guarded inv.entered orderly taken
  have tidy (i : Nat) : ∀ s ∈ h.session i, s.Tidy := (moves i).tidy (inv.tidy i)
  have rest (covers : ∀ stage ∈ h.closers, h.Covers stage)
      (past : h.disconnected = true ∨ h.closeEvent = true → h.Over) : Inv h :=
    ⟨early_step inv.early taken, entered_step inv.entered orderly taken,
      guarded_step inv.guarded tidy taken, alone_step inv taken,
      fun i => (moves i).tracked (inv.tracked i), tidy, covers, past⟩
  -- What no closer has to do with.
  have unmoved (closers : h.closers = g.closers) (shutdown : h.shutdownReason = g.shutdownReason)
      (flags : h.disconnected = g.disconnected ∧ h.closeEvent = g.closeEvent) : Inv h := by
    refine rest (fun stage member => ?_) fun done => ?_
    · rw [closers] at member
      exact Covers.keep inv moves (shutdown ▸ id) (inv.covers stage member)
    · rw [flags.1, flags.2] at done
      exact Over.keep inv moves (shutdown ▸ id) (inv.past done)
  cases l with
  | connect =>
    rcases step_connect taken with ⟨_, rfl⟩ | ⟨_, rfl⟩
    · exact inv
    · exact unmoved rfl rfl ⟨rfl, rfl⟩
  | conn i l raises =>
    obtain ⟨c, c', found, moved, rfl⟩ := step_conn taken
    exact unmoved rfl rfl ⟨rfl, rfl⟩
  | event i event reason =>
    obtain ⟨c, found, rfl⟩ := step_event taken
    exact unmoved rfl rfl ⟨rfl, rfl⟩
  | close reason =>
    rcases step_close taken with ⟨_, rfl⟩ | ⟨_, rfl⟩
    · refine rest (Pool.forall_append (fun stage member => ?_) trivial) fun done => ?_
      · exact Covers.keep inv moves id (inv.covers stage member)
      · exact Over.keep inv moves id (inv.past done)
    · refine rest (Pool.forall_append (fun stage member => ?_) ⟨rfl, fun i s present => ?_⟩)
        fun done => ?_
      · exact Covers.keep inv moves (fun _ => rfl) (inv.covers stage member)
      · -- A session that has not settled is in the snapshot.
        change g.session i = some s at present
        have tracked := inv.tracked i
        rw [present] at tracked
        have bound : i < g.conns.length := by
          obtain ⟨c, found, _⟩ := Option.bind_eq_some_iff.mp present
          exact (List.getElem?_eq_some_iff.mp found).1
        have listed (registered : s.registered = true) : i ∈ g.sessions := by
          simp [sessions, bound, present, registered]
        generalize g.awaits i = n at tracked
        cases tracked with
        | fresh _ registered => exact .inr (listed registered)
        | hooked _ registered => exact .inr (listed registered)
        | settled settled => exact .inl settled
      · exact Over.keep inv moves (fun _ => rfl) (inv.past done)
  | closer k pick raises ok =>
    obtain ⟨stage, at_k, taken⟩ := step_closer taken
    obtain ⟨covers, past⟩ := inv_closer inv moves orderly at_k taken
    exact rest covers past

theorem inv_reaches (reached : lifecycle.Reaches Orderly g) : Inv g :=
  System.Reaches.preserves inv_initial (fun _ _ _ inv orderly taken => inv_step inv orderly taken)
    reached

/-- A session that is there after a run in shutdown was there before it. -/
private theorem present_leads (inv : Inv g) (closing : g.shutdownReason.isSome = true)
    (later : lifecycle.Leads Orderly g h) (i : Nat) : (h.session i).isSome = (g.session i).isSome := by
  have kept : Inv h ∧ h.shutdownReason.isSome = true ∧
      (h.session i).isSome = (g.session i).isSome := by
    refine System.Leads.preserves (P := fun h => Inv h ∧ h.shutdownReason.isSome = true ∧
      (h.session i).isSome = (g.session i).isSome) (fun a l b held orderly taken => ?_) later
      ⟨inv, closing, rfl⟩
    obtain ⟨inv, closing, same⟩ := held
    have moves := step_moves inv.early inv.guarded inv.entered orderly taken i
    exact ⟨inv_step inv orderly taken, step_closing taken closing, (moves.present closing).trans same⟩
  exact kept.2.2

end VoxRtcGateway

/-- What the application can rely on when `close` on the gateway returns, and before. -/
structure ShutdownFinal (C : VoxRtcGateway → Label → Prop) : Prop where
  /-- Every `on_session_closed` has finished. -/
  finished : ∀ g, lifecycle.Reaches C g → .returned ∈ g.closers → ∀ i, ∀ s ∈ g.session i, s.Settled
  /-- They have by the time the client disconnects. -/
  disconnected : ∀ g, lifecycle.Reaches C g → g.disconnected = true →
    ∀ i, ∀ s ∈ g.session i, s.Settled
  /-- No control session is created any more. -/
  final : ∀ g h, lifecycle.Reaches C g → .returned ∈ g.closers → lifecycle.Leads C g h →
    ∀ i, (h.session i).isSome = (g.session i).isSome
  /-- A session that shutdown closes is not served any more. -/
  untouched : ∀ g, lifecycle.Reaches C g → ∀ i, ∀ s ∈ g.session i, Untouched s.trace

theorem shutdown_final {C : VoxRtcGateway → Label → Prop} (orderly : ∀ g l, C g l → g.Orderly l) :
    ShutdownFinal C := by
  refine ⟨fun g reached returned => ?_, fun g reached done => ?_,
    fun g h reached returned later => ?_, fun g reached i s present => ?_⟩
  · exact ((VoxRtcGateway.inv_reaches (reached.mono orderly)).covers _ returned).settled
  · exact ((VoxRtcGateway.inv_reaches (reached.mono orderly)).past (.inl done)).settled
  · have inv := VoxRtcGateway.inv_reaches (reached.mono orderly)
    exact VoxRtcGateway.present_leads inv (inv.covers _ returned).closing
      (System.Leads.mono orderly later)
  · exact ((VoxRtcGateway.inv_reaches (reached.mono orderly)).tidy i s present).untouched

/-- A connection up to `gateway.ready`. -/
def readySteps (i : Nat) : List Label :=
  [.connect, .conn i (.received true) none, .conn i (.accepted true) none,
    .conn i (.created true) none, .conn i (.createdHook true) none, .conn i (.readySent true) none]

/-- A ready session is closed by shutdown, and its coroutine takes the `None` and leaves. -/
def shutdownRun : List Label :=
  readySteps 0 ++ [.close "gateway_shutdown", .closer 0 0 none true, .closer 0 0 none true,
    .closer 0 0 none true, .closer 0 0 none true, .conn 0 (.wakes none true .done) none]

theorem shutdown_final_run : ∃ g, lifecycle.run .initial shutdownRun = some g ∧
    g.disconnected = true ∧ ∃ s, g.session 0 = some s ∧ s.Settled := by
  refine ⟨_, rfl, rfl, _, rfl, ?_⟩
  have reached := System.leads_of_run (M := lifecycle) (C := VoxRtcGateway.Orderly)
    (s := lifecycle.init) shutdownRun (by decide) rfl
  exact (shutdown_final fun _ _ => id).finished _ reached (.head _) 0 _ rfl

/-- The browser has left and the hook is pending when `close` is called. -/
def overtakenRun : List Label :=
  readySteps 0 ++ [.conn 0 (.wakes (some .disconnect) false .done) none,
    .close "gateway_shutdown", .closer 0 0 none true, .closer 0 0 none true, .closer 0 0 none true]

/-- `close` is called while `on_session_created` is pending. -/
def lateReadyRun : List Label :=
  [.connect, .conn 0 (.received true) none, .conn 0 (.accepted true) none,
    .conn 0 (.created true) none, .close "gateway_shutdown", .closer 0 0 none true,
    .conn 0 (.createdHook true) none]

/-- `close` returns while a browser is being accepted. -/
def acceptingRun : List Label :=
  [.connect, .conn 0 (.received true) none, .close "gateway_shutdown", .closer 0 0 none true,
    .closer 0 0 none true]

theorem shutdown_races :
    (∃ g, lifecycle.run .initial overtakenRun = some g ∧ g.closers = [.returned] ∧
      g.disconnected = true ∧ g.conns.map Connection.serving = [.closing false]) ∧
    (∃ g s, lifecycle.run .initial lateReadyRun = some g ∧ g.session 0 = some s ∧
      s.trace = [.ready, .closed "gateway_shutdown", .sessionClose, .closeRTC "gateway_shutdown",
        .closing true, .created]) ∧
    (∃ g h, lifecycle.run .initial acceptingRun = some g ∧ g.closers = [.returned] ∧
      lifecycle.run g [.conn 0 (.accepted true) none, .conn 0 (.created true) none] = some h ∧
      g.session 0 = none ∧ (h.session 0).isSome = true) ∧
    ¬ShutdownFinal always := by
  refine ⟨⟨_, rfl, rfl, rfl, rfl⟩, ⟨_, _, rfl, rfl, rfl⟩, ⟨_, _, rfl, rfl, rfl, rfl, rfl⟩,
    fun final => ?_⟩
  have reached := System.reaches_of_run (M := lifecycle) overtakenRun rfl
  have settled := final.finished _ reached (.head _) 0 _ rfl
  exact absurd settled.finished (by decide)

end VoxRtc.Python.Gateway
