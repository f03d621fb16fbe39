import VoxRtc.TypeScript.Gateway.Lifecycle

/-!
# What holds of every connection

The invariant of one run of `#open` in any run of the gateway, whoever calls `close` and
whenever: how the bodies of `#close` relate to the promise, the trace and `#active`, and
that the bodies in a callback are on the stack.
-/
namespace VoxRtc.TypeScript.Gateway

open Transition Wire
open VoxRtc.Gateway (WireEvent Outcome)

/-- Whenever the event happened, the earlier part of the trace had the property. -/
def Each (e : Event) (P : List Event → Prop) : List Event → Prop
  | [] => True
  | x :: earlier => (x = e → P earlier) ∧ Each e P earlier

namespace Connection

/-- The creation hook has settled, if it was invoked. -/
def HookSettled (trace : List Event) : Prop :=
  .created ∈ trace → .createdSettled true ∈ trace ∨ .createdSettled false ∈ trace

/-- What the bodies of `#close` have to do with the stored promise and the trace. -/
structure Bodies (c : Connection) : Prop where
  promised : c.closePromise = none → ∀ b ∈ c.bodies, b.phase.running = true
  returned : ∀ b, c.closePromise = some b → b < c.bodies.length
  active : c.inActive = (c.session && c.bodies.all fun b => b.phase ≠ .settled)
  closes : c.trace.count .sessionClose = c.bodies.countP fun b => b.phase.hasClosed
  hooks : c.trace.count .closed = c.bodies.countP fun b => b.phase.hasHooked
  settled : c.setupPending = false → HookSettled c.trace
  ordered : Each .closed HookSettled c.trace

structure Inv (c : Connection) : Prop extends Bodies c where
  fresh : c.session = false → c.bodies = [] ∧ c.trace = []
  subscribed : c.subscribed = true → c.session = true
  listening : c.listening = true → c.session = true
  creating : c.stage = .creating → c.session = false
  pending : c.setupPending = true ↔ c.stage = .hook
  unstarted : c.setupPending = true → c.session = true ∧ c.bodies = []
  awaited : ∀ b, c.stage = .closing b → b < c.bodies.length
  opening : c.opening = false → c.stage = .done
  ready : c.session = true → c.setupPending = false → c.bodies = [] →
    .ready ∈ c.trace ∧ .createdSettled true ∈ c.trace

theorem inv_initial : initial.Inv := by
  constructor
  · constructor <;> simp [initial, HookSettled, Each]
  all_goals simp [initial]

variable {c c' : Connection}

@[simp] theorem close_session (reason : String) : (c.close reason).session = c.session := by
  unfold close
  split <;> rfl

@[simp] theorem close_stage (reason : String) : (c.close reason).stage = c.stage := by
  unfold close
  split <;> rfl

@[simp] theorem close_opening (reason : String) : (c.close reason).opening = c.opening := by
  unfold close
  split <;> rfl

@[simp] theorem close_inActive (reason : String) : (c.close reason).inActive = c.inActive := by
  unfold close
  split <;> rfl

@[simp] theorem close_setupPending (reason : String) :
    (c.close reason).setupPending = c.setupPending := by
  unfold close
  split <;> rfl

@[simp] theorem close_closePromise (reason : String) :
    (c.close reason).closePromise = c.closePromise := by
  unfold close
  split <;> simp_all

@[simp] theorem close_trace (reason : String) : (c.close reason).trace = c.trace := by
  unfold close
  split <;> rfl

@[simp] theorem close_subscribed (reason : String) :
    (c.close reason).subscribed = c.subscribed := by
  unfold close
  split <;> rfl

@[simp] theorem close_listening (reason : String) : (c.close reason).listening = c.listening := by
  unfold close
  split <;> rfl

/-- `#close` starts a body exactly when no promise is stored yet. -/
theorem close_bodies (reason : String) :
    (c.close reason).bodies =
      if c.closePromise = none then c.bodies ++ [⟨reason, .unsubscribe⟩] else c.bodies := by
  unfold close
  split
  next b stored => simp [stored]
  next none_stored => simp [none_stored]

theorem close_count (reason : String) (p : Body → Bool) (unstarted : p ⟨reason, .unsubscribe⟩ = false) :
    (c.close reason).bodies.countP p = c.bodies.countP p := by
  rw [close_bodies]
  split
  · simp [unstarted]
  · rfl

section Close

variable (bodies : c.Bodies) (reason : String)
include bodies

theorem promised_lt : c.promised < (c.close reason).bodies.length := by
  unfold promised
  rw [close_bodies]
  -- The promise is that of the body that has just started, or of an earlier one.
  cases stored : c.closePromise with
  | none => simp
  | some b => simpa using bodies.returned b stored

theorem close_ne_nil : (c.close reason).bodies ≠ [] := fun empty => by
  have inside := promised_lt bodies reason
  simp [empty] at inside

/-- Every body but the new one is where it was. -/
theorem bodies_close : (c.close reason).Bodies := by
  -- The new body has called nothing yet, so that it adds to no count.
  have all_new (p : Body → Bool) (holds : p ⟨reason, .unsubscribe⟩ = true) :
      (c.close reason).bodies.all p = c.bodies.all p := by
    rw [close_bodies]
    split <;> simp [holds]
  have longer : c.bodies.length ≤ (c.close reason).bodies.length := by
    rw [close_bodies]
    split <;> simp
  constructor
  case promised =>
    rw [close_closePromise]
    intro absent b member
    rw [close_bodies, if_pos absent] at member
    rcases List.mem_append.mp member with old | new
    · exact bodies.promised absent b old
    · rw [List.mem_singleton] at new
      exact new ▸ rfl
  case returned =>
    rw [close_closePromise]
    exact fun b stored => Nat.lt_of_lt_of_le (bodies.returned b stored) longer
  case active =>
    rw [close_inActive, close_session, all_new _ (by simp)]
    exact bodies.active
  case closes =>
    rw [close_trace, close_count _ _ rfl]
    exact bodies.closes
  case hooks =>
    rw [close_trace, close_count _ _ rfl]
    exact bodies.hooks
  case settled => simpa using bodies.settled
  case ordered => simpa using bodies.ordered

theorem inv_awaitClose (session : c.session = true) (done : c.setupPending = false)
    (opening : c.opening = true) : (c.awaitClose reason).Inv := by
  have closed := bodies_close bodies reason
  refine { promised := closed.promised, returned := closed.returned, active := closed.active,
           closes := closed.closes, hooks := closed.hooks, settled := closed.settled,
           ordered := closed.ordered, fresh := ?_, subscribed := ?_, listening := ?_,
           creating := nofun, pending := ?_, unstarted := ?_, awaited := ?_, opening := ?_, ready := ?_ }
  · simp [awaitClose, session]
  · simp [awaitClose, session]
  · simp [awaitClose, session]
  · simp [awaitClose, done]
  · simp [awaitClose, done]
  · intro b awaits
    cases awaits
    exact promised_lt bodies reason
  · simp [awaitClose, opening]
  · exact fun _ _ empty => absurd empty (close_ne_nil bodies reason)

end Close

theorem inv_close (inv : c.Inv) (session : c.session = true) (done : c.setupPending = false)
    (reason : String) : (c.close reason).Inv where
  toBodies := bodies_close inv.toBodies reason
  fresh := by simp [session]
  subscribed := by simp [session]
  listening := by simp [session]
  creating := by
    rw [close_stage, close_session]
    exact inv.creating
  pending := by simpa using inv.pending
  unstarted := by simp [done]
  awaited := by
    rw [close_stage]
    -- The body that `#open` waits for is still there; there may be one more.
    intro b awaits
    have inside := inv.awaited b awaits
    rw [close_bodies]
    split
    · simp only [List.length_append, List.length_singleton]
      omega
    · exact inside
  opening := by simpa using inv.opening
  ready := fun _ _ empty => absurd empty (close_ne_nil inv.toBodies reason)

/-- Fields the invariant does not speak of. -/
theorem Inv.move (inv : c.Inv) (session : c'.session = c.session) (stage : c'.stage = c.stage)
    (inActive : c'.inActive = c.inActive) (opening : c'.opening = c.opening)
    (subscribed : c'.subscribed = true → c.subscribed = true)
    (listening : c'.listening = c.listening) (setupPending : c'.setupPending = c.setupPending)
    (bodies : c'.bodies = c.bodies) (closePromise : c'.closePromise = c.closePromise)
    (trace : c'.trace = c.trace) : c'.Inv where
  promised := by rw [closePromise, bodies]; exact inv.promised
  returned := by rw [closePromise, bodies]; exact inv.returned
  active := by rw [inActive, session, bodies]; exact inv.active
  closes := by rw [trace, bodies]; exact inv.closes
  hooks := by rw [trace, bodies]; exact inv.hooks
  settled := by rw [setupPending, trace]; exact inv.settled
  ordered := by rw [trace]; exact inv.ordered
  fresh := by rw [session, bodies, trace]; exact inv.fresh
  subscribed := fun held => session.trans (inv.subscribed (subscribed held))
  listening := by rw [listening, session]; exact inv.listening
  creating := by rw [stage, session]; exact inv.creating
  pending := by rw [setupPending, stage]; exact inv.pending
  unstarted := by rw [setupPending, session, bodies]; exact inv.unstarted
  awaited := by rw [stage, bodies]; exact inv.awaited
  opening := by rw [opening, stage]; exact inv.opening
  ready := by rw [session, setupPending, bodies, trace]; exact inv.ready

theorem inv_requestClose (inv : c.Inv) (session : c.session = true) (reason : String) :
    (c.requestClose reason).Inv := by
  unfold requestClose
  -- While the creation hook runs the reason is only kept.
  split
  · exact inv.move rfl rfl rfl rfl id rfl rfl rfl rfl rfl
  next done => exact inv_close inv session (by simpa using done) reason

theorem bodies_hookSettled (inv : c.Inv) (ok : Bool) :
    Bodies { c with setupPending := false, trace := .createdSettled ok :: c.trace } where
  promised := inv.promised
  returned := inv.returned
  active := inv.active
  closes := by simpa using inv.closes
  hooks := by simpa using inv.hooks
  settled := fun _ _ => by cases ok <;> simp
  ordered := ⟨nofun, inv.ordered⟩

theorem inv_afterCreated (inv : c.Inv) (creating : c.stage = .creating)
    (shutdownReason : Option String) (setup : Bool) : (c.afterCreated shutdownReason setup).Inv := by
  -- Before the session is created there is neither a body nor an event.
  obtain ⟨empty, silent⟩ := inv.fresh (inv.creating creating)
  have opening : c.opening = true := by
    by_contra closed
    have := inv.opening (by simpa using closed)
    rw [creating] at this
    cases this
  have idle : c.setupPending = false := by
    by_contra held
    have := inv.pending.mp (by simpa using held)
    rw [creating] at this
    cases this
  have bodies : Bodies { c with session := true, inActive := true } :=
    ⟨inv.promised, inv.returned, by simp [empty], inv.closes, inv.hooks, inv.settled, inv.ordered⟩
  unfold afterCreated
  split
  · exact inv_awaitClose bodies _ rfl idle opening
  · split
    · constructor
      · constructor <;> simp [empty, silent, Each]
        exact fun b stored => by simpa [empty] using inv.returned b stored
      all_goals simp [empty, opening]
    · exact inv_awaitClose bodies _ rfl idle opening

theorem inv_afterHook (inv : c.Inv) (hook : c.stage = .hook) (shutdownReason : Option String)
    (ok sends : Bool) : (c.afterHook shutdownReason ok sends).Inv := by
  -- While the hook runs no body has started.
  have held := inv.pending.mpr hook
  obtain ⟨session, empty⟩ := inv.unstarted held
  have opening : c.opening = true := by
    by_contra closed
    have := inv.opening (by simpa using closed)
    rw [hook] at this
    cases this
  have bodies := bodies_hookSettled inv ok
  unfold afterHook
  split
  next succeeded =>
    subst succeeded
    simp only
    split
    · exact inv_awaitClose bodies _ session rfl opening
    · split
      · have kept : Bodies { c with
            setupPending := false, stage := .done
            trace := .ready :: .createdSettled true :: c.trace } :=
          ⟨bodies.promised, bodies.returned, bodies.active, by simpa using inv.closes,
            by simpa using inv.hooks, fun _ _ => by simp, ⟨nofun, bodies.ordered⟩⟩
        refine ⟨kept, ?_, ?_, ?_, ?_, ?_, ?_, ?_, ?_, ?_⟩
        all_goals simp [session]
      · exact inv_awaitClose bodies _ session rfl opening
  · have kept : Bodies { c with
        setupPending := false, trace := .createdSettled ok :: c.trace,
        pendingCloseReason := none } :=
      ⟨bodies.promised, bodies.returned, bodies.active, bodies.closes, bodies.hooks,
        bodies.settled, bodies.ordered⟩
    exact inv_awaitClose kept _ session rfl opening

section Moves

variable {i : Nat} {b : Body} {phase : Phase} {events : List Event}

/-- `c'` is `c` with one body moved on; the trace and the counts follow it. -/
structure Moved (c c' : Connection) (i : Nat) (b : Body) (phase : Phase)
    (events : List Event) : Prop where
  bodies : c'.bodies = c.bodies.set i { b with phase := phase }
  trace : c'.trace = events ++ c.trace
  session : c'.session = c.session
  stage : c'.stage = c.stage
  opening : c'.opening = c.opening
  setupPending : c'.setupPending = c.setupPending
  listening : c'.listening = c.listening
  subscribed : c'.subscribed = true → c.subscribed = true

theorem counted_set (found : c.bodies[i]? = some b) (p : Phase → Bool) (e : Event)
    (before : c.trace.count e = c.bodies.countP fun b => p b.phase)
    (moved : events.count e + (if p b.phase then 1 else 0) = if p phase then 1 else 0) :
    (events ++ c.trace).count e =
      (c.bodies.set i { b with phase := phase }).countP fun b => p b.phase := by
  -- The other bodies count as before, so only this one and its events matter.
  have total := Pool.countP_set_add (b := { b with phase := phase }) (fun b => p b.phase) found
  simp only at total
  rw [List.count_append]
  omega

variable (phase events) in
theorem inv_moved (inv : c.Inv) (found : c.bodies[i]? = some b)
    (moved : Moved c c' i b phase events)
    (promised : c'.closePromise = none → c.closePromise = none ∧ phase.running = true)
    (returned : ∀ p, c'.closePromise = some p → p < c.bodies.length)
    (active : c'.inActive = (c.session && c'.bodies.all fun b => b.phase ≠ .settled))
    (closes : events.count .sessionClose + (if b.phase.hasClosed then 1 else 0) =
      if phase.hasClosed then 1 else 0)
    (hooks : events.count .closed + (if b.phase.hasHooked then 1 else 0) =
      if phase.hasHooked then 1 else 0)
    (ordered : Each .closed HookSettled (events ++ c.trace))
    (kept : HookSettled (events ++ c.trace)) : c'.Inv := by
  -- The body has started, so what holds before any body starts no longer matters.
  have started : c.bodies ≠ [] := List.ne_nil_of_mem (Pool.mem_of_read found)
  have length : c'.bodies.length = c.bodies.length := by rw [moved.bodies, List.length_set]
  have still : c'.bodies ≠ [] := by
    intro empty
    rw [empty] at length
    exact started (List.length_eq_zero_iff.mp length.symm)
  constructor
  · constructor
    · intro absent
      obtain ⟨absent, running⟩ := promised absent
      rw [moved.bodies]
      exact Pool.forall_set (inv.promised absent) running
    · rw [length]
      exact returned
    · rw [moved.session]
      exact active
    · rw [moved.trace, moved.bodies]
      exact counted_set found Phase.hasClosed .sessionClose inv.closes closes
    · rw [moved.trace, moved.bodies]
      exact counted_set found Phase.hasHooked .closed inv.hooks hooks
    · rw [moved.trace]
      exact fun _ => kept
    · rw [moved.trace]
      exact ordered
  · rw [moved.session]
    -- There is a body, so there is a session.
    exact fun absent => absurd (inv.fresh absent).1 started
  · exact fun held => moved.session.trans (inv.subscribed (moved.subscribed held))
  · rw [moved.listening, moved.session]
    exact inv.listening
  · rw [moved.stage, moved.session]
    exact inv.creating
  · rw [moved.setupPending, moved.stage]
    exact inv.pending
  · rw [moved.setupPending]
    exact fun held => absurd (inv.unstarted held).2 started
  · rw [moved.stage, length]
    exact inv.awaited
  · rw [moved.opening, moved.stage]
    exact inv.opening
  · exact fun _ _ empty => absurd empty still

/-- `#active` keeps a session whose bodies are all unsettled. -/
theorem active_set (inv : c.Inv) (found : c.bodies[i]? = some b)
    (before : b.phase ≠ .settled) (after : phase ≠ .settled) :
    c.inActive = (c.session &&
      (c.bodies.set i { b with phase := phase }).all fun b => b.phase ≠ .settled) := by
  rw [inv.active]
  congr 1
  apply Bool.eq_iff_iff.mpr
  simp only [List.all_eq_true, ne_eq, decide_not, Bool.not_eq_true', decide_eq_false_iff_not]
  constructor
  · exact fun all => Pool.forall_set all after
  · intro all x present
    -- A body that differs from this one is kept, and this one was unsettled too.
    by_cases same : x = b
    · exact same ▸ before
    · exact all x (Pool.mem_set_of_ne found present same)

/-- Once a body has settled, `#active` has lost the session. -/
theorem inactive_set (found : c.bodies[i]? = some b) :
    false = (c.session &&
      (c.bodies.set i { b with phase := .settled }).all fun b => b.phase ≠ .settled) := by
  have member : ({ b with phase := .settled } : Body) ∈
      c.bodies.set i { b with phase := .settled } := Pool.mem_set_self found
  symm
  rw [Bool.and_eq_false_iff]
  right
  rw [List.all_eq_false]
  exact ⟨_, member, by simp⟩

/-- A body in or past its callbacks runs after the creation hook. -/
theorem settled_of_body (inv : c.Inv) (found : c.bodies[i]? = some b) : HookSettled c.trace := by
  apply inv.settled
  by_contra held
  have empty := (inv.unstarted (by simpa using held)).2
  rw [empty] at found
  cases found

theorem inv_callback (inv : c.Inv) (found : c.bodies[i]? = some b) {throws : Bool}
    (taken : c.callback i b throws = some c') : c'.Inv := by
  have settled := settled_of_body inv found
  have inside := (List.getElem?_eq_some_iff.mp found).1
  have unsettled (running : b.phase ≠ .settled) (phase : Phase) (after : phase ≠ .settled) :=
    active_set inv found running after
  unfold callback at taken
  split at taken
  -- The branches are the phases of a body, in the order in which it runs through them.
  next phase =>
    cases taken
    split
    · refine inv_moved .sessionClose [.sessionClose] inv found
        ⟨rfl, rfl, rfl, rfl, rfl, rfl, rfl, fun held => ?_⟩ (fun absent => ⟨absent, rfl⟩)
        inv.returned (unsettled (by simp [phase]) .sessionClose nofun) (by simp [phase, Phase.hasClosed])
        (by simp [phase, Phase.hasHooked]) ⟨nofun, inv.ordered⟩ ?_
      · simp only [advance, Bool.and_eq_true] at held
        exact held.1
      · simpa [HookSettled] using settled
    · refine inv_moved .closeRtc [] inv found
        ⟨rfl, rfl, rfl, rfl, rfl, rfl, rfl, fun held => ?_⟩ (fun absent => ⟨absent, rfl⟩)
        inv.returned (unsettled (by simp [phase]) .closeRtc nofun) (by simp [phase, Phase.hasClosed])
        (by simp [phase, Phase.hasHooked]) inv.ordered settled
      simp only [advance, Bool.and_eq_true] at held
      exact held.1
  next phase =>
    cases taken
    refine inv_moved .sessionClose [.sessionClose] inv found
      ⟨rfl, rfl, rfl, rfl, rfl, rfl, rfl, id⟩ (fun absent => ⟨absent, rfl⟩) inv.returned
      (unsettled (by simp [phase]) .sessionClose nofun) (by simp [phase, Phase.hasClosed])
      (by simp [phase, Phase.hasHooked]) ⟨nofun, inv.ordered⟩ ?_
    simpa [HookSettled] using settled
  next phase =>
    cases taken
    refine inv_moved .hook [.closed] inv found
      ⟨rfl, rfl, rfl, rfl, rfl, rfl, rfl, id⟩ (fun absent => ⟨absent, rfl⟩) inv.returned
      (unsettled (by simp [phase]) .hook nofun) (by simp [phase, Phase.hasClosed])
      (by simp [phase, Phase.hasHooked]) ⟨fun _ => settled, inv.ordered⟩ ?_
    simpa [HookSettled] using settled
  next phase =>
    cases taken
    -- The promise that is stored is the one of this body.
    have stored (p : Nat) (same : some i = some p) : p < c.bodies.length := by
      cases same
      exact inside
    split
    · refine inv_moved .settled [.closedSettled] inv found
        ⟨rfl, rfl, rfl, rfl, rfl, rfl, rfl, id⟩ nofun stored (inactive_set found)
        (by simp [phase, Phase.hasClosed]) (by simp [phase, Phase.hasHooked])
        ⟨nofun, inv.ordered⟩ ?_
      simpa [HookSettled] using settled
    · exact inv_moved .awaiting [] inv found
        ⟨rfl, rfl, rfl, rfl, rfl, rfl, rfl, id⟩ nofun stored
        (unsettled (by simp [phase]) .awaiting nofun) (by simp [phase, Phase.hasClosed])
        (by simp [phase, Phase.hasHooked]) inv.ordered settled
  · cases taken
  · cases taken

theorem callback_bodies {throws : Bool} (taken : c.callback i b throws = some c') :
    ∃ phase, c'.bodies = c.bodies.set i { b with phase := phase } ∧
      (b.phase = .hook → phase.running = false) := by
  unfold callback at taken
  split at taken
  next phase =>
    cases taken
    split <;> exact ⟨_, rfl, by simp [phase]⟩
  next phase => cases taken; exact ⟨_, rfl, by simp [phase]⟩
  next phase => cases taken; exact ⟨_, rfl, by simp [phase]⟩
  next phase =>
    cases taken
    split <;> exact ⟨_, rfl, fun _ => rfl⟩
  · cases taken
  · cases taken

theorem inv_settle (inv : c.Inv) (found : c.bodies[i]? = some b) (phase : b.phase = .awaiting) :
    (c.settle i b).Inv := by
  have settled := settled_of_body inv found
  refine inv_moved .settled [.closedSettled] inv found
    ⟨rfl, rfl, rfl, rfl, rfl, rfl, rfl, id⟩ (fun absent => ?_) inv.returned (inactive_set found)
    (by simp [phase, Phase.hasClosed]) (by simp [phase, Phase.hasHooked]) ⟨nofun, inv.ordered⟩ ?_
  · have running := inv.promised absent b (Pool.mem_of_read found)
    rw [phase] at running
    cases running
  · simpa [HookSettled] using settled

end Moves

theorem inv_handleFrame (inv : c.Inv) (listening : c.listening = true) (raw : Option Value)
    (outcome : VoxRtc.Gateway.Outcome) : (c.handleFrame raw outcome).Inv := by
  have session := inv.listening listening
  unfold handleFrame
  simp only
  split
  · exact {
      promised := inv.promised, returned := inv.returned, active := inv.active
      closes := by simpa using inv.closes
      hooks := by simpa using inv.hooks
      settled := fun done => by simpa [HookSettled] using inv.settled done
      ordered := ⟨nofun, inv.ordered⟩
      fresh := fun absent => by rw [session] at absent; cases absent
      subscribed := inv.subscribed, listening := inv.listening, creating := inv.creating
      pending := inv.pending, unstarted := inv.unstarted, awaited := inv.awaited
      opening := inv.opening
      ready := fun session done empty => by simpa using inv.ready session done empty }
  · exact inv.move rfl rfl rfl rfl id rfl rfl rfl rfl rfl

/-- What a step makes of a connection. -/
inductive Next (shutdownReason : Option String) (c : Connection) : ConnStep → Connection → Prop
  | created (creating : c.stage = .creating) (setup : Bool) :
      Next shutdownReason c (.created setup) (c.afterCreated shutdownReason setup)
  | createFails (creating : c.stage = .creating) :
      Next shutdownReason c .createFails { c with stage := .done }
  | hookSettled (hook : c.stage = .hook) (ok sends : Bool) :
      Next shutdownReason c (.hookSettled ok sends) (c.afterHook shutdownReason ok sends)
  | closeAwaited {body : Nat} {b : Body} (closing : c.stage = .closing body)
      (found : c.bodies[body]? = some b) (settled : b.phase = .settled) :
      Next shutdownReason c .closeAwaited { c with
        stage := .done
        readyState := if c.readyState = .opened then .closing else c.readyState }
  | openingSettled (done : c.stage = .done) :
      Next shutdownReason c .openingSettled { c with opening := false }
  | browserCloses : Next shutdownReason c .browserCloses { c with readyState := .closing }
  | disconnects (session : c.session = true) : Next shutdownReason c .browserClosed
      ({ c with readyState := .closed, browserClosed := true }.requestClose "browser_disconnected")
  | leaves (absent : c.session = false) : Next shutdownReason c .browserClosed
      { c with readyState := .closed, browserClosed := true }
  | ends (subscribed : c.subscribed = true) (event : WireEvent Binary64) (reason : String) :
      Next shutdownReason c (.wireEvent event reason)
        ({ c with progress := (forwardEvent c.progress event).1 }.requestClose reason)
  | forwards (event : WireEvent Binary64) (reason : String) :
      Next shutdownReason c (.wireEvent event reason)
        { c with progress := (forwardEvent c.progress event).1 }
  | frame (listening : c.listening = true) (raw : Option Value) (outcome : Outcome) :
      Next shutdownReason c (.browserFrame raw outcome) (c.handleFrame raw outcome)
  | hookSettles {body : Nat} {b : Body} (found : c.bodies[body]? = some b)
      (awaiting : b.phase = .awaiting) :
      Next shutdownReason c (.closedHookSettles body) (c.settle body b)

theorem next_cases {shutdownReason : Option String} {l : ConnStep}
    (taken : c.next shutdownReason l = some c') : Next shutdownReason c l c' := by
  cases l with
  | created setup =>
    simp only [next, Option.ite_none_right_eq_some, Option.some.injEq] at taken
    obtain ⟨creating, rfl⟩ := taken
    exact .created creating setup
  | createFails =>
    simp only [next, Option.ite_none_right_eq_some, Option.some.injEq] at taken
    obtain ⟨creating, rfl⟩ := taken
    exact .createFails creating
  | hookSettled ok sends =>
    simp only [next, Option.ite_none_right_eq_some, Option.some.injEq] at taken
    obtain ⟨hook, rfl⟩ := taken
    exact .hookSettled hook ok sends
  | closeAwaited =>
    simp only [next] at taken
    split at taken
    next body closing =>
      simp only [Option.ite_none_right_eq_some, Option.some.injEq, Option.map_eq_some_iff] at taken
      obtain ⟨⟨b, found, settled⟩, rfl⟩ := taken
      exact .closeAwaited closing found settled
    · cases taken
  | openingSettled =>
    simp only [next, Option.ite_none_right_eq_some, Option.some.injEq] at taken
    obtain ⟨⟨done, _⟩, rfl⟩ := taken
    exact .openingSettled done
  | browserCloses =>
    simp only [next, Option.ite_none_right_eq_some, Option.some.injEq] at taken
    obtain ⟨_, rfl⟩ := taken
    exact .browserCloses
  -- Without a session the socket just goes; `#open` finds it closed.
  | browserClosed =>
    simp only [next, Option.ite_none_left_eq_some, Option.some.injEq] at taken
    obtain ⟨_, rfl⟩ := taken
    split
    next session => exact .disconnects session
    next absent => exact .leaves (Bool.eq_false_of_not_eq_true absent)
  | wireEvent event reason =>
    simp only [next, Option.ite_none_right_eq_some, Option.some.injEq] at taken
    obtain ⟨subscribed, rfl⟩ := taken
    unfold handleEvent
    simp only
    split
    · exact .ends subscribed event reason
    · exact .forwards event reason
  | browserFrame raw outcome =>
    simp only [next, Option.ite_none_right_eq_some, Option.some.injEq] at taken
    obtain ⟨⟨listening, _, _⟩, rfl⟩ := taken
    exact .frame listening raw outcome
  | closedHookSettles body =>
    simp only [next, Option.bind_eq_bind, Option.bind_eq_some_iff] at taken
    obtain ⟨b, found, taken⟩ := taken
    simp only [Option.ite_none_right_eq_some, Option.some.injEq] at taken
    obtain ⟨awaiting, rfl⟩ := taken
    exact .hookSettles found awaiting

theorem inv_next (inv : c.Inv) {shutdownReason : Option String} {l : ConnStep}
    (taken : c.next shutdownReason l = some c') : c'.Inv := by
  have gone : Inv { c with readyState := .closed, browserClosed := true } :=
    inv.move rfl rfl rfl rfl id rfl rfl rfl rfl rfl
  cases next_cases taken with
  | created creating setup => exact inv_afterCreated inv creating shutdownReason setup
  | createFails creating =>
    have absent := inv.creating creating
    refine ⟨⟨inv.promised, inv.returned, inv.active, inv.closes, inv.hooks, inv.settled,
      inv.ordered⟩, inv.fresh, inv.subscribed, inv.listening, nofun, ?_, inv.unstarted, nofun,
      fun _ => rfl, fun session => ?_⟩
    · simpa [creating] using inv.pending
    · change c.session = true at session
      rw [absent] at session
      cases session
  | hookSettled hook ok sends => exact inv_afterHook inv hook shutdownReason ok sends
  | @closeAwaited body b closing found settled =>
    have inside := inv.awaited body closing
    refine ⟨⟨inv.promised, inv.returned, inv.active, inv.closes, inv.hooks, inv.settled,
      inv.ordered⟩, inv.fresh, inv.subscribed, inv.listening, nofun, ?_, inv.unstarted, nofun,
      fun _ => rfl, fun _ _ empty => ?_⟩
    · simpa [closing] using inv.pending
    · change c.bodies = [] at empty
      simp [empty] at inside
  | openingSettled done =>
    exact ⟨⟨inv.promised, inv.returned, inv.active, inv.closes, inv.hooks, inv.settled,
      inv.ordered⟩, inv.fresh, inv.subscribed, inv.listening, inv.creating, inv.pending,
      inv.unstarted, inv.awaited, fun _ => done, inv.ready⟩
  | browserCloses | forwards => exact inv.move rfl rfl rfl rfl id rfl rfl rfl rfl rfl
  | disconnects session => exact inv_requestClose gone session _
  | leaves absent => exact gone
  | ends subscribed event reason =>
    have forwarded : Inv { c with progress := (forwardEvent c.progress event).1 } :=
      inv.move rfl rfl rfl rfl id rfl rfl rfl rfl rfl
    exact inv_requestClose forwarded (inv.subscribed subscribed) reason
  | frame listening raw outcome => exact inv_handleFrame inv listening raw outcome
  | hookSettles found awaiting => exact inv_settle inv found awaiting

/-- What one step does to the bodies: nothing, one more of them, or one settles. -/
inductive Change (c c' : Connection) : Prop where
  | same (bodies : c'.bodies = c.bodies)
  | opened (absent : c.closePromise = none) (reason : String)
      (bodies : c'.bodies = c.bodies ++ [⟨reason, .unsubscribe⟩])
  | settled (i : Nat) (b : Body) (found : c.bodies[i]? = some b)
      (bodies : c'.bodies = c.bodies.set i { b with phase := .settled })

theorem close_change (reason : String) : Change c (c.close reason) := by
  have bodies := close_bodies (c := c) reason
  by_cases absent : c.closePromise = none
  · rw [if_pos absent] at bodies
    exact .opened absent reason bodies
  · rw [if_neg absent] at bodies
    exact .same bodies

theorem requestClose_change (reason : String) : Change c (c.requestClose reason) := by
  unfold requestClose
  split
  · exact .same rfl
  · exact close_change reason

/-- Changes look only at the bodies and the stored promise. -/
theorem Change.move {d : Connection} (change : Change d c') (bodies : d.bodies = c.bodies)
    (closePromise : d.closePromise = c.closePromise) : Change c c' := by
  cases change with
  | same same => exact .same (same.trans bodies)
  | opened absent reason opened =>
    exact .opened (closePromise ▸ absent) reason (bodies ▸ opened)
  | settled i b found settled => exact .settled i b (bodies ▸ found) (bodies ▸ settled)

theorem awaitClose_change (reason : String) : Change c (c.awaitClose reason) := by
  cases close_change (c := c) reason with
  | same same => exact .same same
  | opened absent _ opened => exact .opened absent _ opened
  | settled i b found settled => exact .settled i b found settled

theorem afterCreated_change (shutdownReason : Option String) (setup : Bool) :
    Change c (c.afterCreated shutdownReason setup) := by
  unfold afterCreated
  split
  · exact (awaitClose_change _).move rfl rfl
  · split
    · exact .same rfl
    · exact (awaitClose_change _).move rfl rfl

theorem afterHook_change (shutdownReason : Option String) (ok sends : Bool) :
    Change c (c.afterHook shutdownReason ok sends) := by
  unfold afterHook
  split
  · simp only
    split
    · exact (awaitClose_change _).move rfl rfl
    · split
      · exact .same rfl
      · exact (awaitClose_change _).move rfl rfl
  · exact (awaitClose_change _).move rfl rfl

theorem next_change {shutdownReason : Option String} {l : ConnStep}
    (taken : c.next shutdownReason l = some c') : Change c c' := by
  cases next_cases taken with
  | created creating setup => exact afterCreated_change shutdownReason setup
  | hookSettled hook ok sends => exact afterHook_change shutdownReason ok sends
  | createFails | closeAwaited | openingSettled | browserCloses | leaves | forwards | frame =>
    exact .same rfl
  | disconnects session => exact (requestClose_change _).move rfl rfl
  | ends subscribed event reason => exact (requestClose_change _).move rfl rfl
  | @hookSettles body b found awaiting => exact .settled body b found rfl

theorem requestClose_session (reason : String) : (c.requestClose reason).session = c.session := by
  unfold requestClose
  split
  · rfl
  · exact close_session reason

theorem callback_session {i : Nat} {b : Body} {throws : Bool}
    (taken : c.callback i b throws = some c') : c'.session = c.session := by
  unfold callback at taken
  split at taken
  · cases taken
    split <;> rfl
  · cases taken
    rfl
  · cases taken
    rfl
  · cases taken
    split <;> rfl
  · cases taken
  · cases taken

theorem awaitClose_session (reason : String) : (c.awaitClose reason).session = c.session :=
  close_session reason

/-- A session does not go away. -/
theorem next_session {shutdownReason : Option String} {l : ConnStep}
    (taken : c.next shutdownReason l = some c') (session : c.session = true) :
    c'.session = true := by
  cases next_cases taken with
  | created creating setup =>
    unfold afterCreated
    split
    · exact awaitClose_session _
    · split
      · rfl
      · exact awaitClose_session _
  | hookSettled hook ok sends =>
    unfold afterHook
    split
    · simp only
      split
      · exact (awaitClose_session _).trans session
      · split
        · exact session
        · exact (awaitClose_session _).trans session
    · exact (awaitClose_session _).trans session
  | disconnects | ends => exact (requestClose_session _).trans session
  | _ => exact session

/-- A body that runs after the step ran before it, or is the one just started. -/
theorem Change.running (change : Change c c') {i : Nat} {b : Body} (found : c'.bodies[i]? = some b)
    (running : b.phase.running = true) :
    c.bodies[i]? = some b ∨ i = c.bodies.length ∧ c.bodies.length < c'.bodies.length := by
  cases change with
  | same bodies => exact .inl (bodies ▸ found)
  | opened _ reason bodies =>
    rw [bodies] at found
    refine (Pool.read_append found).imp_right fun new => ⟨new.1, ?_⟩
    simp [bodies]
  | settled j d _ bodies =>
    rw [bodies] at found
    rcases Pool.read_set found with ⟨_, rfl⟩ | ⟨_, old⟩
    · cases running
    · exact .inl old

end Connection

end VoxRtc.TypeScript.Gateway
