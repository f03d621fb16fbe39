import VoxRtc.Python.Gateway.Loop

/-!
# Events that the Python gateway forwards

A wakeup with a browser message and a Vox event drops the event: `if … elif` looks at one
of them. As long as no turn of the loop ends that way, every event put in the queue is
forwarded, once and in order.
-/
namespace VoxRtc.Python.Gateway

open Transition Wire
open VoxRtc.Gateway (WireEvent Outcome)

theorem events_append (xs ys : List Item) : events (xs ++ ys) = events xs ++ events ys :=
  List.filterMap_append

/-- A message that keeps the loop going, and an event, at once: the event is dropped. -/
def Tasks.clash (t : Tasks) : Bool :=
  t.received.any Message.stays && !(events t.event.taken).isEmpty

namespace Loop

variable {s t : Loop} {C : Loop → LoopStep → Prop}

def Live (s : Loop) : Prop := s.conn.Live

/-- The loop does not wake with a message and an event. -/
def Apart (s : Loop) : LoopStep → Prop
  | .wakes _ _ => s.tasks.any Tasks.clash = false
  | _ => True

instance (s : Loop) : (l : LoopStep) → Decidable (s.Apart l)
  | .wakes _ _ => inferInstanceAs (Decidable (_ = _))
  | .put _ _ | .receive _ | .get | .conn _ _ | .shutdown _ _ | .putNone _ =>
    inferInstanceAs (Decidable True)

structure Inv (s : Loop) : Prop where
  idle : s.conn.serving ≠ .waiting → s.tasks = none
  turning : s.conn.serving = .waiting → s.tasks.isSome = true
  early : s.conn.serving.precedes = true →
    s.conn.session = none ∧ s.put = [] ∧ s.forwarded = [] ∧ s.conn.queue = []
  plain : s.Live → none ∉ s.taken ++ s.conn.queue
  accounted : s.Live → s.put = s.forwarded ++ events (s.taken ++ s.conn.queue)

theorem inv_initial : Inv initial :=
  ⟨fun _ => rfl, fun waits => (by cases waits), fun _ => ⟨rfl, rfl, rfl, rfl⟩,
    fun alive => absurd alive.1 (by simp [initial, Connection.initial, Serving.live]),
    fun _ => rfl⟩

theorem arrive_taken (c : Connection) : (s.arrive c).taken = [] := by
  unfold arrive taken
  by_cases waits : c.serving = .waiting <;> simp [waits, EventTask.taken]

/-- Only the items of the queue move, and the tasks. -/
private theorem inv_same (inv : Inv s) (serving : t.conn.serving = s.conn.serving)
    (session : t.conn.session = s.conn.session) (tasks : t.tasks.isSome = s.tasks.isSome)
    (logs : t.put = s.put ∧ t.forwarded = s.forwarded)
    (whole : t.taken ++ t.conn.queue = s.taken ++ s.conn.queue) : Inv t := by
  have alive (live : t.Live) : s.Live := by
    rw [Live, Connection.Live, serving, session] at live
    exact live
  refine ⟨fun other => ?_, fun waits => ?_, fun early => ?_, fun live => ?_, fun live => ?_⟩
  · have none' := inv.idle (serving ▸ other)
    rw [none'] at tasks
    simpa using tasks
  · rw [tasks]
    exact inv.turning (serving ▸ waits)
  · obtain ⟨absent, put, forwarded, queue⟩ := inv.early (serving ▸ early)
    have idle := inv.idle (by rintro waits; rw [serving, waits] at early; cases early)
    have empty : t.taken ++ t.conn.queue = [] := by
      rw [whole, queue, taken, idle]
      rfl
    exact ⟨session.trans absent, logs.1.trans put, logs.2.trans forwarded,
      (List.append_eq_nil_iff.mp empty).2⟩
  · rw [whole]
    exact inv.plain (alive live)
  · rw [logs.1, logs.2, whole]
    exact inv.accounted (alive live)

theorem get_cases {tasks : Tasks} (took : s.get tasks = some t) :
    (tasks.event = .created ∧ s.conn.queue = [] ∧
        t = { s with tasks := some { tasks with event := .getting } }) ∨
      ∃ item rest, tasks.event.taken = [] ∧ s.conn.queue = item :: rest ∧
        t = { s with
          conn := { s.conn with queue := rest }
          tasks := some { tasks with event := .done item } } := by
  unfold get at took
  split at took <;> cases took
  next created empty => exact .inl ⟨created, empty, rfl⟩
  next item rest created queue => exact .inr ⟨item, rest, by rw [created]; rfl, queue, rfl⟩
  next item rest getting queue => exact .inr ⟨item, rest, by rw [getting]; rfl, queue, rfl⟩

/-- The whole connection wakes while it waits for its tasks. -/
theorem step_wakes {outcome : Outcome} {raises : Option Raises}
    (taken : s.step (.wakes outcome raises) = some t) :
    ∃ tasks a c, s.tasks = some tasks ∧ tasks.event.started = true ∧
      s.conn.session = some a ∧ s.conn.serving = .waiting ∧
      s.whole.wake a tasks.received (!tasks.event.taken.isEmpty) outcome raises = some c ∧
      t = { s.arrive c with forwarded := s.forwarded ++ tasks.given } := by
  simp only [step, Option.bind_eq_bind, Option.bind_eq_some_iff, Option.ite_none_right_eq_some,
    Connection.next, Option.pure_def, Option.some.injEq] at taken
  obtain ⟨tasks, running, started, c, ⟨a, present, waits, woken⟩, rfl⟩ := taken
  exact ⟨tasks, a, c, running, started, present, waits, woken, rfl⟩

theorem step_conn {l : ConnStep} {raises : Option Raises}
    (taken : s.step (.conn l raises) = some t) :
    ∃ c, l.isWakes = false ∧ s.conn.next s.shutdownReason raises l = some c ∧ t = s.arrive c := by
  simp only [step, Option.ite_none_left_eq_some, Option.map_eq_some_iff] at taken
  obtain ⟨other, c, moved, rfl⟩ := taken
  exact ⟨c, by simpa using other, moved, rfl⟩

/-- After a step that brings the coroutine to another `await`. -/
private theorem inv_arrive {c : Connection} {forwarded : List (WireEvent PythonNumber)}
    (early : c.serving.precedes = true →
      c.session = none ∧ s.put = [] ∧ forwarded = [] ∧ c.queue = [])
    (plain : c.Live → none ∉ c.queue)
    (accounted : c.Live → s.put = forwarded ++ events c.queue) :
    Inv { s.arrive c with forwarded := forwarded } := by
  have held : Loop.taken { s.arrive c with forwarded := forwarded } = [] := s.arrive_taken c
  refine ⟨fun other => if_neg other, fun waits => ?_, early, fun alive => ?_, fun alive => ?_⟩
  · have waits : c.serving = .waiting := waits
    simp [arrive, waits]
  · rw [held]
    exact plain alive
  · rw [held]
    exact accounted alive

private theorem inv_wakes {outcome : Outcome} {raises : Option Raises} (inv : Inv s)
    (apart : s.Apart (.wakes outcome raises))
    (taken : s.step (.wakes outcome raises) = some t) : Inv t := by
  obtain ⟨tasks, a, c, running, -, present, waits, woken, rfl⟩ := step_wakes taken
  have held : s.taken = tasks.event.taken := by rw [Loop.taken, running]
  -- What the loop needs of the state before, once it goes on.
  have before (alive : c.Live) : s.Live :=
    ⟨by rw [waits]; rfl, a, present, (Connection.wake_live woken alive).1⟩
  -- Which of the two tasks the loop goes on with decides what becomes of the event.
  have after (alive : c.Live) : none ∉ c.queue ∧
      s.put = (s.forwarded ++ tasks.given) ++ events c.queue := by
    have plain := inv.plain (before alive)
    have accounted := inv.accounted (before alive)
    rw [held] at plain accounted
    obtain ⟨-, ⟨m, received, stays, -, queue⟩ | ⟨received, took, -, event, reason, whole⟩⟩ :=
      Connection.wake_live woken alive
    · -- A message is handled: the event task holds nothing, for it is not an event.
      have quiet : tasks.clash = false := by simpa [Apart, running] using apart
      have empty : tasks.event.taken = [] := by
        cases event : tasks.event with
        | created | getting => rfl
        | done item =>
          cases item with
          | none => exact absurd (by simp [event, EventTask.taken]) plain
          | some item => simp [Tasks.clash, received, stays, event, EventTask.taken, events] at quiet
      have same : c.queue = s.conn.queue := by
        rw [queue, empty]
        simp [Loop.whole, held, empty]
      rw [empty, List.nil_append] at plain accounted
      rw [Tasks.given, if_pos (by rw [received]; rfl), List.append_nil, same]
      exact ⟨plain, accounted⟩
    · -- The event that the task holds is forwarded.
      rw [Loop.whole] at whole
      simp only [held] at whole
      cases event' : tasks.event with
      | created | getting => simp [event', EventTask.taken] at took
      | done item =>
        rw [event', EventTask.taken, List.singleton_append] at whole plain accounted
        obtain ⟨rfl, rest⟩ := List.cons.inj whole
        rw [rest] at plain accounted
        have given : tasks.given = [event] := by
          simp [Tasks.given, received, event', EventTask.taken, events]
        refine ⟨fun member => plain (List.mem_cons_of_mem _ member), ?_⟩
        rw [accounted, given, List.append_assoc]
        rfl
  refine inv_arrive (fun early => ?_) (fun alive => (after alive).1) (fun alive => (after alive).2)
  rw [Connection.wake_precedes woken] at early
  cases early

private theorem inv_conn {l : ConnStep} {raises : Option Raises} (inv : Inv s)
    (taken : s.step (.conn l raises) = some t) : Inv t := by
  obtain ⟨c, other, moved, rfl⟩ := step_conn taken
  have after (alive : c.Live) :
      none ∉ c.queue ∧ s.put = s.forwarded ++ events c.queue := by
    obtain ⟨queue, creating | ⟨live, follows⟩⟩ := Connection.next_live other moved alive
    · -- The session has just been created.
      obtain ⟨-, put, forwarded, empty⟩ := inv.early (by rw [creating]; rfl)
      rw [queue, empty, put, forwarded]
      exact ⟨List.not_mem_nil, rfl⟩
    · have elsewhere : s.conn.serving ≠ .waiting := by
        intro waits
        rw [waits] at follows
        cases follows
      have held : s.taken = [] := by rw [Loop.taken, inv.idle elsewhere]
      have plain := inv.plain live
      have accounted := inv.accounted live
      rw [held, List.nil_append] at plain accounted
      rw [queue]
      exact ⟨plain, accounted⟩
  refine inv_arrive (fun early => ?_) (fun alive => (after alive).1) (fun alive => (after alive).2)
  obtain ⟨precedes, session, queue⟩ := Connection.next_precedes moved early
  obtain ⟨absent, put, forwarded, empty⟩ := inv.early precedes
  exact ⟨session.trans absent, put, forwarded, queue.trans empty⟩

theorem inv_step {l : LoopStep} (inv : Inv s) (apart : s.Apart l) (taken : s.step l = some t) :
    Inv t := by
  cases l with
  | put event reason =>
    simp only [step, Option.ite_none_right_eq_some, Option.some.injEq] at taken
    obtain ⟨present, rfl⟩ := taken
    refine ⟨inv.idle, inv.turning, fun early => ?_, fun alive => ?_, fun alive => ?_⟩
    · rw [(inv.early early).1] at present
      cases present
    · rw [← List.append_assoc, List.mem_append, not_or]
      exact ⟨inv.plain alive, by simp⟩
    · have accounted := inv.accounted alive
      show s.put ++ [event] = _
      rw [accounted, ← List.append_assoc, events_append _ [some (event, reason)], List.append_assoc]
      rfl
  | receive message =>
    simp only [step, Option.bind_eq_bind, Option.bind_eq_some_iff,
      Option.ite_none_left_eq_some, Option.some.injEq] at taken
    obtain ⟨tasks, running, -, rfl⟩ := taken
    exact inv_same inv rfl rfl (by rw [running]; rfl) ⟨rfl, rfl⟩ (by simp [Loop.taken, running])
  | get =>
    simp only [step, Option.bind_eq_bind, Option.bind_eq_some_iff] at taken
    obtain ⟨tasks, running, took⟩ := taken
    rcases get_cases took with ⟨created, empty, rfl⟩ | ⟨item, rest, none_held, queue, rfl⟩
    · refine inv_same inv rfl rfl (by rw [running]; rfl) ⟨rfl, rfl⟩ ?_
      simp [Loop.taken, running, created, EventTask.taken]
    · have held : s.taken = [] := by
        rw [Loop.taken, running]
        exact none_held
      refine inv_same inv rfl rfl (by rw [running]; rfl) ⟨rfl, rfl⟩ ?_
      rw [held, queue]
      rfl
  | wakes outcome raises => exact inv_wakes inv apart taken
  | conn l raises => exact inv_conn inv taken
  -- A session that is closed from outside is no longer served.
  | shutdown reason raises =>
    simp only [step, Option.ite_none_left_eq_some, Option.some.injEq] at taken
    obtain ⟨-, rfl⟩ := taken
    have dead : ¬Connection.Live { s.conn with
        session := s.conn.session.map fun a => (a.close reason true raises).1 } := by
      rintro ⟨-, b, present, still⟩
      obtain ⟨a, -, rfl⟩ := Option.map_eq_some_iff.mp present
      rw [close_closes] at still
      cases still
    refine ⟨inv.idle, inv.turning, fun early => ?_, fun alive => absurd alive dead,
      fun alive => absurd alive dead⟩
    obtain ⟨absent, logs⟩ := inv.early early
    exact ⟨by simp [absent], logs⟩
  -- `None` ends the loop, and is put for a session that is closed.
  | putNone finished =>
    simp only [step, Option.bind_eq_bind, Option.bind_eq_some_iff,
      Option.ite_none_right_eq_some, Option.some.injEq] at taken
    obtain ⟨a, present, ⟨-, shut⟩, rfl⟩ := taken
    have dead : ¬Connection.Live { s.conn with
        session := some (if finished then a.finish else a)
        queue := s.conn.queue ++ [none] } :=
      Connection.not_live rfl (by cases finished <;> exact shut)
    refine ⟨inv.idle, inv.turning, fun early => ?_, fun alive => absurd alive dead,
      fun alive => absurd alive dead⟩
    rw [(inv.early early).1] at present
    cases present

/-! ## Every event is forwarded -/

/-- The steps that the loop makes by itself. -/
def Own : LoopStep → Prop
  | .get | .wakes _ _ | .conn _ _ => True
  | _ => False

/-- The awaits before the loop next takes an item. -/
def phase (s : Loop) : Nat :=
  match s.tasks, s.conn.serving with
  | some ⟨_, .done _⟩, _ => 0
  | some ⟨_, .created⟩, _ => 1
  | some ⟨_, .getting⟩, _ => 3
  | none, .createdHook => 3
  | none, .waiting => 0
  | none, _ => 2

/-- The event at place `i` of the log is still to be forwarded. -/
def Waits (i : Nat) (s : Loop) : Prop :=
  s.Live ∧ i < s.put.length ∧ s.forwarded.length ≤ i

/-- It has been forwarded, unless the connection or the session has ended. -/
def Through (i : Nat) (s : Loop) : Prop := ¬s.Live ∨ i < s.forwarded.length

def rank (i : Nat) (s : Loop) : Nat := 4 * (i + 1 - s.forwarded.length) + s.phase

variable {i : Nat}

/-- While an event waits, an event task that holds nothing finds it in the queue. -/
private theorem queue_ne_nil (inv : Inv s) (waits : Waits i s) (held : s.taken = []) :
    s.conn.queue ≠ [] := by
  intro empty
  have accounted := inv.accounted waits.1
  rw [held, empty] at accounted
  have same : s.put.length = s.forwarded.length := by simp [accounted, events]
  have := waits.2
  omega

private theorem lowers (later : i < t.put.length)
    (lower : t.Live → t.forwarded.length ≤ i → rank i t < rank i s) :
    Through i t ∨ Waits i t ∧ rank i t < rank i s := by
  by_cases alive : t.Live
  · by_cases passed : i < t.forwarded.length
    · exact .inl (.inr passed)
    · have pending : t.forwarded.length ≤ i := by omega
      exact .inr ⟨⟨alive, later, pending⟩, lower alive pending⟩
  · exact .inl (.inl alive)

private theorem lowers_get (inv : Inv s) (waits : Waits i s) (taken : s.step .get = some t) :
    Through i t ∨ Waits i t ∧ rank i t < rank i s := by
  simp only [step, Option.bind_eq_bind, Option.bind_eq_some_iff] at taken
  obtain ⟨⟨received, event⟩, running, took⟩ := taken
  have held (nothing : event.taken = []) : s.taken = [] := by
    rw [Loop.taken, running]
    exact nothing
  rcases get_cases took with ⟨rfl, empty, -⟩ | ⟨item, rest, nothing, queue, rfl⟩
  · exact absurd empty (queue_ne_nil inv waits (held rfl))
  · refine lowers waits.2.1 fun _ _ => ?_
    cases event with
    | done item => cases nothing
    | created | getting => simp [rank, phase, running]

private theorem lowers_wakes {outcome : Outcome} {raises : Option Raises} (inv : Inv s)
    (apart : s.Apart (.wakes outcome raises)) (waits : Waits i s)
    (taken : s.step (.wakes outcome raises) = some t) :
    Through i t ∨ Waits i t ∧ rank i t < rank i s := by
  obtain ⟨⟨received, event⟩, a, c, running, started, -, -, woken, rfl⟩ := step_wakes taken
  refine lowers waits.2.1 fun alive pending => ?_
  have quiet : Tasks.clash ⟨received, event⟩ = false := by simpa [Apart, running] using apart
  have plain := inv.plain waits.1
  obtain ⟨-, ⟨m, rfl, stays, serving, -⟩ | ⟨rfl, took, serving, e, reason, whole⟩⟩ :=
    Connection.wake_live woken alive
  · -- The message came while the event task waited; the next turn takes the event at once.
    cases event with
    | created => cases started
    | done item =>
      cases item with
      | none => exact absurd (by simp [Loop.taken, running, EventTask.taken]) plain
      | some item => simp [Tasks.clash, stays, EventTask.taken, events] at quiet
    | getting =>
      rcases serving with serving | serving <;>
        simp [rank, phase, running, arrive, serving, Tasks.given]
  · -- One event more is forwarded.
    cases event with
    | created => cases started
    | getting => cases took
    | done item =>
      simp only [Loop.whole, Loop.taken, running, EventTask.taken, List.singleton_append] at whole
      obtain ⟨rfl, -⟩ := List.cons.inj whole
      have := waits.2.2
      simp [rank, phase, running, arrive, serving, Tasks.given, events, EventTask.taken]
      omega

private theorem lowers_conn {l : ConnStep} {raises : Option Raises} (inv : Inv s)
    (waits : Waits i s) (taken : s.step (.conn l raises) = some t) :
    Through i t ∨ Waits i t ∧ rank i t < rank i s := by
  obtain ⟨c, other, moved, rfl⟩ := step_conn taken
  refine lowers waits.2.1 fun alive pending => ?_
  obtain ⟨-, creating | ⟨-, follows⟩⟩ := Connection.next_live other moved alive
  · have live := waits.1.1
    rw [creating] at live
    cases live
  · have elsewhere : s.conn.serving ≠ .waiting := by
      intro stands
      rw [stands] at follows
      cases follows
    have idle := inv.idle elsewhere
    generalize before : s.conn.serving = p at follows
    generalize after : c.serving = q at follows
    cases follows <;> simp [rank, phase, idle, arrive, before, after]

theorem own_lowers {l : LoopStep} (inv : Inv s) (apart : s.Apart l) (waits : Waits i s)
    (own : Own l) (taken : s.step l = some t) :
    Through i t ∨ Waits i t ∧ rank i t < rank i s := by
  cases l with
  | get => exact lowers_get inv waits taken
  | wakes outcome raises => exact lowers_wakes inv apart waits taken
  | conn l raises => exact lowers_conn inv waits taken
  | put | receive | shutdown | putNone => cases own

/-- What the browser and Vox do meanwhile does not hold the event up. -/
theorem step_keeps {l : LoopStep} (inv : Inv s) (apart : s.Apart l) (waits : Waits i s)
    (taken : s.step l = some t) : Through i t ∨ Waits i t ∧ rank i t ≤ rank i s := by
  have stays (live : t.Live) (longer : s.put.length ≤ t.put.length)
      (same : t.forwarded = s.forwarded) (phase : t.phase = s.phase) :
      Through i t ∨ Waits i t ∧ rank i t ≤ rank i s := by
    refine .inr ⟨⟨live, Nat.lt_of_lt_of_le waits.2.1 longer, ?_⟩, ?_⟩
    · rw [same]
      exact waits.2.2
    · rw [rank, rank, same, phase]
  have lower (own : Own l) : Through i t ∨ Waits i t ∧ rank i t ≤ rank i s :=
    (own_lowers inv apart waits own taken).imp_right fun ⟨still, less⟩ =>
      ⟨still, Nat.le_of_lt less⟩
  cases l with
  | get | wakes | conn => exact lower trivial
  | put event reason =>
    simp only [step, Option.ite_none_right_eq_some, Option.some.injEq] at taken
    obtain ⟨-, rfl⟩ := taken
    exact stays waits.1 (by simp) rfl rfl
  | receive message =>
    simp only [step, Option.bind_eq_bind, Option.bind_eq_some_iff,
      Option.ite_none_left_eq_some, Option.some.injEq] at taken
    obtain ⟨⟨received, event⟩, running, -, rfl⟩ := taken
    refine stays waits.1 (Nat.le_refl _) rfl ?_
    cases event <;> simp [phase, running]
  | shutdown reason raises =>
    simp only [step, Option.ite_none_left_eq_some, Option.some.injEq] at taken
    obtain ⟨-, rfl⟩ := taken
    obtain ⟨-, a, present, -⟩ := waits.1
    refine .inl (.inl (Connection.not_live ?_ (close_closes a reason true raises)))
    simp [present]
  | putNone finished =>
    simp only [step, Option.bind_eq_bind, Option.bind_eq_some_iff,
      Option.ite_none_right_eq_some, Option.some.injEq] at taken
    obtain ⟨a, present, ⟨-, shut⟩, -⟩ := taken
    exact absurd waits.1 (Connection.not_live present shut)

private theorem wakes_isSome {tasks : Tasks} {item : Item} (running : s.tasks = some tasks)
    (done : tasks.event = .done item) (live : s.Live) (waiting : s.conn.serving = .waiting) :
    (s.step (.wakes .done none)).isSome = true := by
  obtain ⟨-, a, present, -⟩ := live
  have woken : (s.whole.wake a tasks.received true .done none).isSome = true := by
    simp only [Connection.wake, Loop.whole, Loop.taken, running, done, EventTask.taken]
    cases tasks.received with
    | none => cases item <;> simp
    | some m => cases m <;> simp
  obtain ⟨c, woken⟩ := Option.isSome_iff_exists.mp woken
  have present : s.whole.session = some a := present
  have waiting : s.whole.serving = .waiting := waiting
  simp only [step, running, done, EventTask.started, EventTask.taken, Connection.next, present,
    waiting, Option.bind_eq_bind, Option.bind_some, if_true, List.isEmpty_cons, Bool.not_false,
    woken]
  rfl

theorem own_enabled (inv : Inv s) (waits : Waits i s) : loop.Enabled Own s := by
  obtain ⟨⟨serving, a, present, still⟩, -⟩ := waits.1, waits.2
  have moves (l : ConnStep) (other : l.isWakes = false)
      (moved : (s.conn.next s.shutdownReason none l).isSome = true) : loop.Enabled Own s :=
    ⟨.conn l none, trivial, by simpa [loop, step, other] using moved⟩
  cases stands : s.conn.serving with
  | createdHook =>
    exact moves (.createdHook true) rfl (by simp [Connection.next, present, stands])
  | sendingReady => exact moves (.readySent true) rfl (by simp [Connection.next, present, stands])
  | replying => exact moves (.replied true) rfl (by simp [Connection.next, present, stands])
  | forwarding closed =>
    exact moves (.forwarded true) rfl (by simp [Connection.next, present, stands])
  | waiting =>
    obtain ⟨⟨received, event⟩, running⟩ := Option.isSome_iff_exists.mp (inv.turning stands)
    cases event with
    | created =>
      refine ⟨.get, trivial, ?_⟩
      cases queue : s.conn.queue <;> simp [loop, step, running, get, queue]
    | getting =>
      have found := queue_ne_nil inv waits (by rw [Loop.taken, running]; rfl)
      refine ⟨.get, trivial, ?_⟩
      cases queue : s.conn.queue with
      | nil => exact absurd queue found
      | cons item rest => simp [loop, step, running, get, queue]
    | done item => exact ⟨.wakes .done none, trivial, wakes_isSome running rfl waits.1 stands⟩
  | _ =>
    rw [stands] at serving
    cases serving

end Loop

section Runs

variable {C : Loop → LoopStep → Prop}

theorem loop_inv (apart : ∀ s l, C s l → s.Apart l) {s : Loop} (reached : loop.Reaches C s) :
    s.Inv :=
  System.Reaches.preserves Loop.inv_initial
    (fun _ l _ inv meets taken => Loop.inv_step inv (apart _ l meets) taken) reached

/-- While the connection and the session live, the events put in the queue are those that
were forwarded, then those that still wait, in this order; and in a fair execution each of
them comes to be forwarded. -/
structure Lossless (C : Loop → LoopStep → Prop) : Prop where
  ordered : ∀ s, loop.Reaches C s → s.Live →
    s.put = s.forwarded ++ events (s.taken ++ s.conn.queue)
  forwards : ∀ e : loop.Execution C, e.WeaklyFair Loop.Own → ∀ n i,
    i < (e.state n).put.length → ∃ m, n ≤ m ∧ Loop.Through i (e.state m)

theorem events_forwarded (apart : ∀ s l, C s l → s.Apart l) : Lossless C where
  ordered s reached alive := (loop_inv apart reached).accounted alive
  forwards e fair n i later := by
    by_cases through : Loop.Through i (e.state n)
    · exact ⟨n, Nat.le_refl n, through⟩
    · -- Each step of the loop's own lowers the rank, and no other step raises it.
      have waits : Loop.Waits i (e.state n) := by
        simp only [Loop.Through, not_or, not_not, Nat.not_lt] at through
        exact ⟨through.1, later, through.2⟩
      exact e.eventually_of_rank (Loop.rank i) fair
        (fun s reached waits => Loop.own_enabled (loop_inv apart reached) waits)
        (fun s l t reached waits meets taken =>
          Loop.step_keeps (loop_inv apart reached) (apart s l meets) waits taken)
        (fun s l t reached waits own meets taken =>
          Loop.own_lowers (loop_inv apart reached) (apart s l meets) waits own taken)
        n waits

end Runs

def opening : List LoopStep := [
  .conn (.received true) none, .conn (.accepted true) none, .conn (.created true) none,
  .conn (.createdHook true) none, .conn (.readySent true) none]

def serverCandidate : WireEvent PythonNumber := ⟨"rtc.ice_candidate", [("candidate", .null)]⟩

def closedEvent : WireEvent PythonNumber := ⟨"rtc.session.closed", []⟩

/-- The browser's own end of candidates. -/
def clientCandidate : Message := .receive <| .text <| some <| .obj [
  ("id", .str "1"), ("type", .str "rtc.ice_candidate"), ("data", .obj [("candidate", .null)])]

/-- A message that comes while the queue is empty, and an event during its handling. -/
theorem events_forwarded_run : ∃ s, loop.Reaches Loop.Apart s ∧ s.Live ∧
    s.put = [serverCandidate, closedEvent] ∧ s.forwarded = [serverCandidate] ∧
    s.put = s.forwarded ++ events (s.taken ++ s.conn.queue) := by
  have reached := System.leads_of_run (M := loop) (C := Loop.Apart) (s := loop.init)
    (opening ++ [.get, .receive clientCandidate, .put serverCandidate "", .wakes .done none,
      .get, .wakes .done none, .put closedEvent "client_closed"]) (by decide) rfl
  refine ⟨_, reached, ⟨rfl, _, rfl, rfl⟩, rfl, rfl, ?_⟩
  exact (events_forwarded (C := Loop.Apart) fun _ _ => id).ordered _ reached ⟨rfl, _, rfl, rfl⟩

/-- The candidates of the browser and of Vox arrive in the same turn. -/
theorem event_dropped :
    (∃ s, loop.Reaches always s ∧ s.Live ∧ s.put = [serverCandidate] ∧ s.forwarded = [] ∧
      s.taken ++ s.conn.queue = []) ∧ ¬Lossless always := by
  have reached := System.reaches_of_run (M := loop)
    (opening ++ [.put serverCandidate "", .get, .receive clientCandidate, .wakes .done none]) rfl
  refine ⟨⟨_, reached, ⟨rfl, _, rfl, rfl⟩, rfl, rfl, rfl⟩, fun lossless => ?_⟩
  cases lossless.ordered _ reached ⟨rfl, _, rfl, rfl⟩

end VoxRtc.Python.Gateway
