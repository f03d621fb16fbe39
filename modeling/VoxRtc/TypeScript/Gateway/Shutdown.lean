import VoxRtc.TypeScript.Gateway.Teardown

/-!
# Shutdown of the TypeScript gateway

`close` sweeps `#active`, waits for a snapshot of `#opening` and sweeps again. What a
sweep finds it closes and waits for; what it misses is still being opened, and once the
shutdown reason is set an opening ends with its own session closed.
-/
namespace VoxRtc.TypeScript.Gateway

open Transition

namespace Connection

variable {c c' d : Connection}

/-- What a step cannot do once the gateway is shutting down: leave an open session behind
with nobody awaiting it, go back to opening, or create a session late. -/
structure Drains (c c' : Connection) : Prop where
  active : c'.inActive = true → c'.stage = .done → c.inActive = true ∧ c.stage = .done
  opening : c'.opening = true → c.opening = true
  done : c.stage = .done → c'.stage = .done ∧ c'.session = c.session

theorem Drains.refl (c : Connection) : Drains c c := ⟨fun active done => ⟨active, done⟩, id,
  fun done => ⟨done, rfl⟩⟩

theorem Drains.of_same (active : c'.inActive = true → c.inActive = true) (stage : c'.stage = c.stage)
    (opening : c'.opening = true → c.opening = true) (session : c'.session = c.session) :
    Drains c c' :=
  ⟨fun held done => ⟨active held, stage ▸ done⟩, opening, fun done => ⟨stage.trans done, session⟩⟩

theorem requestClose_drains (reason : String) : Drains c (c.requestClose reason) := by
  unfold requestClose
  split
  · exact .of_same id rfl id rfl
  · exact .of_same (by simp) (by simp) (by simp) (by simp)

theorem callback_drains {i : Nat} {b : Body} {throws : Bool}
    (taken : c.callback i b throws = some c') : Drains c c' := by
  unfold callback at taken
  split at taken
  · cases taken
    split <;> exact .of_same id rfl id rfl
  · cases taken
    exact .of_same id rfl id rfl
  · cases taken
    exact .of_same id rfl id rfl
  · cases taken
    split
    · exact .of_same nofun rfl id rfl
    · exact .of_same id rfl id rfl
  · cases taken
  · cases taken

/-- `#open` awaits the close it asks for. -/
theorem awaitClose_drains (busy : c.stage ≠ .done) (opening : d.opening = c.opening)
    (reason : String) : Drains c (d.awaitClose reason) :=
  ⟨fun _ => nofun, fun held => opening ▸ (close_opening reason ▸ held), fun done => absurd done busy⟩

theorem next_drains (inv : c.Inv) {reason : String} {l : ConnStep}
    (taken : c.next (some reason) l = some c') : Drains c c' := by
  cases next_cases taken with
  -- The setup ends under a shutdown, so the session is closed at once.
  | created creating setup =>
    have busy : c.stage ≠ .done := by simp [creating]
    exact awaitClose_drains (d := { c with session := true, inActive := true }) busy rfl reason
  | createFails creating =>
    refine ⟨fun active _ => ?_, id, fun done => absurd done (by simp [creating])⟩
    have inactive := inv.active
    rw [inv.creating creating, Bool.false_and] at inactive
    exact absurd active (by simp [inactive])
  -- Whether the hook succeeded only decides the reason.
  | hookSettled hook ok sends =>
    have busy : c.stage ≠ .done := by simp [hook]
    cases ok with
    | true =>
      let active := { c with setupPending := false, trace := .createdSettled true :: c.trace }
      exact awaitClose_drains (d := active) busy rfl reason
    | false =>
      let active := { c with
        setupPending := false, trace := .createdSettled false :: c.trace,
        pendingCloseReason := none }
      exact awaitClose_drains (d := active) busy rfl _
  | closeAwaited closing found settled =>
    refine ⟨fun active _ => ?_, id, fun done => ⟨rfl, rfl⟩⟩
    -- The awaited body has settled, so the session has left `#active`.
    change c.inActive = true at active
    rw [inv.active, Bool.and_eq_true, List.all_eq_true] at active
    have unsettled := active.2 _ (Pool.mem_of_read found)
    simp [settled] at unsettled
  | openingSettled done => exact .of_same id rfl (fun absurd => by cases absurd) rfl
  | disconnects session =>
    have drains := requestClose_drains (c := { c with readyState := .closed, browserClosed := true })
      "browser_disconnected"
    exact ⟨drains.active, drains.opening, drains.done⟩
  | ends subscribed event reason =>
    have drains := requestClose_drains
      (c := { c with progress := (forwardEvent c.progress event).1 }) reason
    exact ⟨drains.active, drains.opening, drains.done⟩
  | browserCloses | leaves | forwards | frame => exact .of_same id rfl id rfl
  | hookSettles found awaiting => exact .of_same (fun absurd => by cases absurd) rfl id rfl

end Connection

namespace VoxRtcGateway

variable {g h : VoxRtcGateway}

/-- A session that nobody opening it and no waiting call accounts for. -/
def Left (g : VoxRtcGateway) (P : Nat → Prop) : Prop :=
  ∀ (i : Nat) (c : Connection), g.conns[i]? = some c → c.inActive = true → c.stage = .done → P i

/-- Nothing is left to open or to close. -/
def Quiet (g : VoxRtcGateway) : Prop :=
  ∀ (i : Nat) (c : Connection), g.conns[i]? = some c → c.opening = false ∧ c.inActive = false

/-- No `closeActive` is visiting sessions. -/
def Unswept (g : VoxRtcGateway) : Prop := ∀ (k : Nat) (todo : List Nat), .sweep k todo ∉ g.stack

/-- What the call that runs `close` can rely on, given how far it has come. -/
def Relies (g : VoxRtcGateway) (closer : Closer) : Prop :=
  match closer.phase with
  | .sweeping false => (∃ todo, .sweep 0 todo ∈ g.stack) ∧
      ∀ k todo, .sweep k todo ∈ g.stack → g.Left fun i => i ∈ todo ∨ (i, 0) ∈ closer.waiting
  | .waiting false => g.Unswept ∧ g.Left fun i => (i, 0) ∈ closer.waiting
  | .openings snapshot => g.Unswept ∧ g.Left (fun _ => False) ∧
      ∀ (i : Nat) (c : Connection), g.conns[i]? = some c → c.opening = true → i ∈ snapshot
  | .sweeping true => (∀ k todo, .sweep k todo ∈ g.stack → todo = []) ∧ g.Quiet
  | .waiting true | .resolved => g.Unswept ∧ g.Quiet
  | .rejected => g.Unswept

/-- No call has come to `close` yet, or one runs it and every other one awaits its promise. -/
inductive Draining (g : VoxRtcGateway) : Prop where
  | idle (closers : g.closers = []) (first : g.closePromise = none)
  | running (closer : Closer) (closers : g.closers = [closer])
      (shutdown : g.shutdownReason.isSome = true)
      (stored : closer.phase = .sweeping false ∨ g.closePromise.isSome = true)
      (relies : g.Relies closer)

/-- Every connection after the step is one from before it, drained further. -/
def Drained (g h : VoxRtcGateway) : Prop :=
  ∀ (i : Nat) (c' : Connection), h.conns[i]? = some c' →
    ∃ c, g.conns[i]? = some c ∧ c.Drains c'

theorem drained_set {i : Nat} {c c' : Connection} (found : g.conns[i]? = some c)
    (drains : c.Drains c') (conns : h.conns = g.conns.set i c') : Drained g h := by
  intro j d here
  rw [conns] at here
  rcases Pool.read_set here with ⟨rfl, rfl⟩ | ⟨_, old⟩
  · exact ⟨c, found, drains⟩
  · exact ⟨d, old, .refl d⟩

theorem drained_closeSockets (sessions : List Nat) : Drained g (g.closeSockets sessions) := by
  intro i c found
  obtain ⟨d, old, rfl | rfl⟩ := closeSockets_read found
  · exact ⟨c, old, .refl c⟩
  · exact ⟨d, old, .of_same id rfl id rfl⟩

theorem Left.drain {P : Nat → Prop} (left : g.Left P) (drained : Drained g h) : h.Left P := by
  intro i c found active done
  obtain ⟨d, old, drains⟩ := drained i c found
  have before := drains.active active done
  exact left i d old before.1 before.2

theorem Quiet.drain (inv : Inv g) (quiet : g.Quiet) (drained : Drained g h) : h.Quiet := by
  intro i c found
  obtain ⟨d, old, drains⟩ := drained i c found
  obtain ⟨closed, inactive⟩ := quiet i d old
  have done := (drains.done ((inv.conns i d old).opening closed)).1
  constructor
  · by_contra opening
    rw [drains.opening (by simpa using opening)] at closed
    cases closed
  · by_contra active
    rw [(drains.active (by simpa using active) done).1] at inactive
    cases inactive

/-- Draining connections takes nothing from a call of `close` that it relies on. -/
private theorem Relies.drain {closer : Closer} (inv : Inv g) (relies : g.Relies closer)
    (drained : Drained g h) (sweeps : ∀ k todo, .sweep k todo ∈ h.stack ↔ .sweep k todo ∈ g.stack) :
    h.Relies closer := by
  have unswept : g.Unswept → h.Unswept := fun none k todo here => none k todo ((sweeps k todo).mp here)
  unfold Relies at relies ⊢
  split at relies
  · obtain ⟨⟨todo, present⟩, left⟩ := relies
    refine ⟨⟨todo, (sweeps 0 todo).mpr present⟩, fun k todo here => ?_⟩
    exact (left k todo ((sweeps k todo).mp here)).drain drained
  · exact ⟨unswept relies.1, relies.2.drain drained⟩
  · obtain ⟨none, left, known⟩ := relies
    refine ⟨unswept none, left.drain drained, fun i c found opening => ?_⟩
    obtain ⟨d, old, drains⟩ := drained i c found
    exact known i d old (drains.opening opening)
  · exact ⟨fun k todo here => relies.1 k todo ((sweeps k todo).mp here), relies.2.drain inv drained⟩
  · exact ⟨unswept relies.1, relies.2.drain inv drained⟩
  · exact ⟨unswept relies.1, relies.2.drain inv drained⟩
  · exact unswept relies

/-- A step of connections leaves `close` where it stands. -/
private theorem Draining.drain (inv : Inv g) (draining : Draining g)
    (drained : g.shutdownReason.isSome = true → Drained g h) (closers : h.closers = g.closers)
    (promise : h.closePromise = g.closePromise) (reason : h.shutdownReason = g.shutdownReason)
    (sweeps : ∀ k todo, .sweep k todo ∈ h.stack ↔ .sweep k todo ∈ g.stack) : Draining h := by
  cases draining with
  | idle absent first => exact .idle (closers.trans absent) (promise.trans first)
  | running closer one shutdown stored relies =>
    exact .running closer (closers.trans one) (reason ▸ shutdown) (promise ▸ stored)
      (relies.drain inv (drained shutdown) sweeps)

/-- A body of `#close` joins or leaves the stack; no sweep does. -/
private theorem sweeps_started {i : Nat} {c c' : Connection} {rest : List Frame} (k : Nat)
    (todo : List Nat) : .sweep k todo ∈ started i c c' ++ rest ↔ .sweep k todo ∈ rest := by
  unfold started
  split <;> simp

/-- A session that `closeActive` visits in a flat run has the promise of its first body. -/
private theorem promised_zero {i k : Nat} {c : Connection} {todo : List Nat} (inv : Inv g)
    (single : Single g) (stack : g.stack = [.sweep k todo]) (found : g.conns[i]? = some c) :
    c.promised = 0 := by
  unfold Connection.promised
  cases stored : c.closePromise with
  | none => simp [bodies_nil inv (fun b => by simp [stack]) found stored]
  | some b =>
    have inside := (inv.conns i c found).returned b stored
    have bound := single.single c (Pool.mem_of_read found)
    simp only [Option.getD_some]
    omega

/-- A session whose first body has settled has left `#active`. -/
private theorem settled_inactive {i : Nat} {c : Connection} (inv : Inv g)
    (settled : g.settled (i, 0) = true) (found : g.conns[i]? = some c) : c.inActive = false := by
  simp only [VoxRtcGateway.settled, found, Option.bind_some, Option.any_eq_true,
    beq_iff_eq] at settled
  obtain ⟨b, within, phase⟩ := settled
  rw [(inv.conns i c found).active, Bool.and_eq_false_iff, List.all_eq_false]
  exact .inr ⟨b, Pool.mem_of_read within, by simp [phase]⟩

/-- The only call in a list of one. -/
private theorem only_closer {closer other : Closer} {k : Nat} (one : g.closers = [closer])
    (found : g.closers[k]? = some other) : k = 0 ∧ other = closer := by
  rw [one] at found
  obtain ⟨bound, rfl⟩ := List.getElem?_eq_some_iff.mp found
  exact ⟨by simpa using bound, by simp⟩

private theorem draining_visit {i : Nat} (inv : Inv g) (single : Single g) (draining : Draining g)
    (taken : g.step (.visit i) = some h) : Draining h := by
  obtain ⟨k, todo, rest, c, closer, top, member, found, at_k, rfl⟩ := step_visit taken
  have swept : .sweep k todo ∈ g.stack := top ▸ .head _
  have shape := single.shape
  rw [top] at shape
  cases shape
  cases draining with
  | idle absent first =>
    rw [absent] at at_k
    cases at_k
  | running other one shutdown stored relies =>
    -- There is one closer, whose sweep this is.
    obtain ⟨rfl, rfl⟩ := only_closer one at_k
    let awaited := if c.setupPending then [] else [(i, c.promised)]
    let visited : Closer := { closer with waiting := closer.waiting ++ awaited }
    refine .running visited (by simp [one, visited, awaited]) shutdown stored ?_
    unfold Relies at relies ⊢
    -- Only the first sweep finds a session to visit.
    split at relies
    next phase =>
      simp only [visited, phase]
      refine ⟨⟨todo.erase i, List.mem_append_right _ (.head _)⟩, fun l left here => ?_⟩
      have same : l = 0 ∧ left = todo.erase i := by
        rw [sweeps_started] at here
        simpa using here
      have drained : Drained g
          { g with conns := g.conns.set i (c.requestClose closer.reason) } :=
        drained_set found (Connection.requestClose_drains closer.reason) rfl
      intro j d read active done
      rcases (relies.2 0 todo swept).drain drained j d read active done with visiting | waiting
      · by_cases other : j = i
        · subst other
          -- The session that is visited: its setup is over, so its promise is waited for.
          obtain ⟨_, old, drains⟩ := drained j d read
          cases old.symm.trans found
          have settled : c.setupPending ≠ true := fun held => by
            have hook := (inv.conns j c found).pending.mp held
            rw [(drains.active active done).2] at hook
            cases hook
          right
          apply List.mem_append_right
          simp only [awaited, if_neg settled, promised_zero inv single top found,
            List.mem_singleton]
        · left
          rw [same.2]
          exact (List.mem_erase_of_ne other).mpr visiting
      · exact .inr (List.mem_append_left _ waiting)
    next => exact absurd swept (relies.1 0 todo)
    next => exact absurd swept (relies.1 0 todo)
    next =>
      rw [relies.1 0 todo swept] at member
      cases member
    next => exact absurd swept (relies.1 0 todo)
    next => exact absurd swept (relies.1 0 todo)
    next => exact absurd swept (relies 0 todo)

private theorem draining_swept (single : Single g) (draining : Draining g)
    (taken : g.step .swept = some h) : Draining h := by
  obtain ⟨k, rest, closer, second, top, at_k, phase, rfl⟩ := step_swept taken
  have swept : .sweep k [] ∈ g.stack := top ▸ .head _
  have shape := single.shape
  rw [top] at shape
  cases shape
  cases draining with
  | idle absent first =>
    rw [absent] at at_k
    cases at_k
  | running other one shutdown stored relies =>
    obtain ⟨rfl, rfl⟩ := only_closer one at_k
    unfold Relies at relies
    let waiting : Closer := { closer with phase := .waiting second }
    refine .running waiting (by simp [setPhase, one, waiting]) shutdown ?_ ?_
    · cases second with
      | false => exact .inr rfl
      | true => exact stored.imp_left fun sweeping => by rw [phase] at sweeping; cases sweeping
    · cases second with
      | false =>
        simp only [phase] at relies
        refine ⟨fun _ _ absurd => (by cases absurd), fun i c found active done => ?_⟩
        -- Every session that was to be visited has been.
        rcases relies.2 0 [] swept i c found active done with visiting | waiting
        · cases visiting
        · exact waiting
      | true =>
        simp only [phase] at relies
        exact ⟨fun _ _ absurd => (by cases absurd), relies.2⟩

private theorem draining_resumes {k : Nat} {throws : Bool} (inv : Inv g) (draining : Draining g)
    (taken : g.step (.closerResumes k throws) = some h) : Draining h := by
  obtain ⟨closer, idle, at_k, resumed⟩ := step_closerResumes taken
  cases draining with
  | idle absent first =>
    rw [absent] at at_k
    cases at_k
  | running other one shutdown stored relies =>
    obtain ⟨rfl, rfl⟩ := only_closer one at_k
    have unswept : g.Unswept := fun _ _ => by simp [idle]
    have promised (past : closer.phase ≠ .sweeping false) : g.closePromise.isSome = true :=
      stored.resolve_left past
    unfold Relies at relies
    rcases resume_cases resumed with ⟨second, phase, settled, rfl | rfl⟩ |
      ⟨snapshot, phase, ended, rfl⟩
    -- A callback has thrown: the promise of the shutdown is rejected.
    · let rejected : Closer := { closer with phase := .rejected }
      exact .running rejected (by simp [setPhase, one, rejected]) shutdown
        (.inr (promised (by simp [phase]))) unswept
    · have stored := promised (by simp [phase])
      have drained := drained_closeSockets (g := g) closer.sessions
      cases second with
      -- After the second sweep nothing is left.
      | true =>
        simp only [phase] at relies
        let resolved : Closer := { closer with phase := .resolved }
        exact .running resolved (by simp [setPhase, closeSockets, one, resolved]) shutdown
          (.inr stored) ⟨unswept, relies.2.drain inv drained⟩
      -- After the first sweep, those that are opening are waited for.
      | false =>
        simp only [phase] at relies
        let snapshot := g.those Connection.opening
        let openings : Closer := { closer with phase := .openings snapshot }
        refine .running openings (by simp [setPhase, closeSockets, one, openings, snapshot])
          shutdown (.inr stored) ⟨unswept, ?_, fun i c found opening => ?_⟩
        · have left : g.Left fun _ => False := fun i c found active done => by
            have waited := List.all_eq_true.mp settled _ (relies.2 i c found active done)
            have inactive := settled_inactive inv waited found
            rw [active] at inactive
            cases inactive
          exact left.drain drained
        · obtain ⟨d, old, drains⟩ := drained i c found
          simp only [snapshot, those, List.mem_filter, List.mem_range, old, Option.any_some]
          exact ⟨(List.getElem?_eq_some_iff.mp old).1, drains.opening opening⟩
    · simp only [phase] at relies
      obtain ⟨_, left, known⟩ := relies
      have stored := promised (by simp [phase])
      -- Whoever was still opening is in the snapshot, and none of the others was left open.
      have quiet : g.Quiet := fun i c found => by
        have closed : c.opening = false := by
          by_contra opening
          have waited := List.all_eq_true.mp ended i (known i c found (by simpa using opening))
          simp [found, opening] at waited
        refine ⟨closed, ?_⟩
        by_contra active
        exact left i c found (by simpa using active) ((inv.conns i c found).opening closed)
      have none : g.those Connection.inActive = [] := by
        apply List.eq_nil_iff_forall_not_mem.mpr
        intro i member
        obtain ⟨bound, _⟩ := List.mem_filter.mp member
        have found := List.getElem?_eq_getElem (List.mem_range.mp bound)
        have inactive := (quiet i _ found).2
        rw [those_read member found] at inactive
        cases inactive
      let sweeping : Closer := { closer with
        phase := .sweeping true, sessions := g.those Connection.inActive, waiting := [] }
      refine .running sweeping (by simp [one, sweeping]) shutdown (.inr stored) ⟨?_, quiet⟩
      intro l todo here
      cases List.mem_singleton.mp here
      exact none

private theorem draining_step {l : Label} (inv : Inv g) (single : Single g) (draining : Draining g)
    (flat : g.Flat l) (taken : g.step l = some h) : Draining h := by
  cases l with
  | visit => exact draining_visit inv single draining taken
  | swept => exact draining_swept single draining taken
  | closerResumes => exact draining_resumes inv draining taken
  | upgrade =>
    obtain ⟨_, ⟨_, rfl⟩ | ⟨open_, rfl⟩⟩ := step_upgrade taken
    · exact draining
    · cases draining with
      | idle absent first => exact .idle absent first
      | running _ _ shutdown => cases open_.symm.trans shutdown
  | conn i l =>
    obtain ⟨c, c', idle, found, moved, rfl⟩ := step_conn taken
    refine draining.drain inv (fun shutdown => ?_) rfl rfl rfl fun k todo => ?_
    · obtain ⟨reason, set⟩ := Option.isSome_iff_exists.mp shutdown
      rw [set] at moved
      exact drained_set found (Connection.next_drains (inv.conns i c found) moved) rfl
    · rw [idle, ← List.append_nil (started i c c')]
      exact sweeps_started k todo
  | gatewayClose reason =>
    rcases step_gatewayClose taken with ⟨_, rfl⟩ | ⟨first, rfl⟩
    · exact draining
    -- The first close comes from outside, where the stack is empty.
    · have idle : g.stack = [] := by
        by_contra busy
        cases first.symm.trans (flat busy)
      cases draining with
      | idle absent _ =>
        let closer : Closer := ⟨reason, .sweeping false, g.those Connection.inActive, []⟩
        refine .running closer (by simp [absent, closer]) rfl (.inl rfl)
          ⟨⟨_, by rw [absent]; exact .head _⟩, fun k todo here i c found active _ => .inl ?_⟩
        rw [idle] at here
        cases List.mem_singleton.mp here
        simp only [those, List.mem_filter, List.mem_range, found, Option.any_some]
        exact ⟨(List.getElem?_eq_some_iff.mp found).1, active⟩
      | running closer _ _ stored relies =>
        have sweeping := stored.resolve_right (by simp [first])
        simp only [Relies, sweeping, idle] at relies
        obtain ⟨⟨_, present⟩, _⟩ := relies
        cases present
  | callback throws =>
    obtain ⟨i, b, rest, c, body, c', top, found, within, ends, rfl⟩ := step_callback taken
    refine draining.drain inv
      (fun _ => drained_set found (Connection.callback_drains ends) rfl) rfl rfl rfl fun k todo => ?_
    show _ ∈ (if _ then rest else g.stack) ↔ _
    rw [top]
    split <;> simp

theorem draining_reaches (reached : lifecycle.Reaches Flat g) : Draining g := by
  have all : Inv g ∧ Single g ∧ Draining g := by
    refine System.Reaches.preserves (P := fun g => Inv g ∧ Single g ∧ Draining g)
      ⟨inv_initial, single_initial, .idle rfl rfl⟩ (fun _ _ _ held flat taken => ?_) reached
    obtain ⟨inv, single, draining⟩ := held
    exact ⟨inv_step inv taken, single_step inv single flat taken,
      draining_step inv single draining flat taken⟩
  exact all.2.2

/-- A call of `close` has disconnected the client and resolved. -/
def Resolved (g : VoxRtcGateway) : Prop := ∃ closer ∈ g.closers, closer.phase = .resolved

/-- A gateway that has shut down opens nothing again. -/
private theorem resolved_step {l : Label} (inv : Inv g) (draining : Draining g)
    (resolved : g.Resolved) (taken : g.step l = some h) :
    h.Resolved ∧ h.conns.map Connection.session = g.conns.map Connection.session := by
  obtain ⟨closer, member, phase⟩ := resolved
  cases draining with
  | idle absent =>
    rw [absent] at member
    cases member
  | running other one shutdown stored relies =>
    rw [one] at member
    cases List.mem_singleton.mp member
    have promised := stored.resolve_left (by simp [phase])
    simp only [Relies, phase] at relies
    obtain ⟨unswept, quiet⟩ := relies
    have still : g.Resolved := ⟨closer, by simp [one], phase⟩
    cases l with
    | upgrade =>
      obtain ⟨_, ⟨_, rfl⟩ | ⟨open_, _⟩⟩ := step_upgrade taken
      · exact ⟨still, rfl⟩
      · cases open_.symm.trans shutdown
    | conn i l =>
      obtain ⟨c, c', _, found, moved, rfl⟩ := step_conn taken
      obtain ⟨reason, set⟩ := Option.isSome_iff_exists.mp shutdown
      rw [set] at moved
      have kept := inv.conns i c found
      have done := kept.opening (quiet i c found).1
      exact ⟨still, Pool.map_set_same _ found ((Connection.next_drains kept moved).done done).2⟩
    | gatewayClose reason =>
      rcases step_gatewayClose taken with ⟨_, rfl⟩ | ⟨first, _⟩
      · exact ⟨still, rfl⟩
      · cases first.symm.trans promised
    | callback throws =>
      obtain ⟨_, _, _, _, _, _, _, found, _, ends, rfl⟩ := step_callback taken
      exact ⟨still, Pool.map_set_same _ found (Connection.callback_session ends)⟩
    -- No sweep is left that could visit anything.
    | visit i =>
      obtain ⟨k, todo, _, _, _, top, _⟩ := step_visit taken
      have swept : .sweep k todo ∈ g.stack := top ▸ .head _
      exact absurd swept (unswept k todo)
    | swept =>
      obtain ⟨k, _, _, _, top, _⟩ := step_swept taken
      have swept : .sweep k [] ∈ g.stack := top ▸ .head _
      exact absurd swept (unswept k [])
    | closerResumes k throws =>
      obtain ⟨other, _, at_k, resumed⟩ := step_closerResumes taken
      obtain ⟨rfl, rfl⟩ := only_closer one at_k
      simp only [resume, phase] at resumed
      cases resumed

end VoxRtcGateway

/-- What the application can rely on once `close` on the gateway has resolved. -/
structure ShutdownComplete (C : VoxRtcGateway → Label → Prop) : Prop where
  /-- `#active` and `#opening` are empty. -/
  emptied : ∀ g, lifecycle.Reaches C g → g.Resolved → g.Quiet
  /-- Every `onSessionClosed` has settled. -/
  settled : ∀ g, lifecycle.Reaches C g → g.Resolved →
    ∀ c ∈ g.conns, ∀ b ∈ c.bodies, b.phase = .settled
  /-- No session is created any more. -/
  final : ∀ g h, lifecycle.Reaches C g → g.Resolved → lifecycle.Leads C g h →
    h.conns.map Connection.session = g.conns.map Connection.session

theorem shutdown_complete {C : VoxRtcGateway → Label → Prop}
    (flat : ∀ g l, C g l → g.Flat l) : ShutdownComplete C := by
  have quiet (g : VoxRtcGateway) (reached : lifecycle.Reaches VoxRtcGateway.Flat g)
      (resolved : g.Resolved) : g.Quiet := by
    obtain ⟨closer, member, phase⟩ := resolved
    cases VoxRtcGateway.draining_reaches reached with
    | idle absent =>
      rw [absent] at member
      cases member
    | running other one _ _ relies =>
      rw [one] at member
      cases List.mem_singleton.mp member
      simp only [VoxRtcGateway.Relies, phase] at relies
      exact relies.2
  refine ⟨fun g reached => quiet g (reached.mono flat), fun g reached resolved c member b within => ?_,
    fun g h reached resolved later => ?_⟩
  · have reached := reached.mono flat
    obtain ⟨i, found⟩ := List.mem_iff_getElem?.mp member
    have inv := (VoxRtcGateway.inv_reaches reached).conns i c found
    have inactive := inv.active
    rw [(quiet g reached resolved i c found).2] at inactive
    -- The session was in `#active` and has left it, so its only body has settled.
    have session : c.session = true := by
      by_contra absent
      rw [(inv.fresh (by simpa using absent)).1] at within
      cases within
    rw [session, Bool.true_and] at inactive
    obtain ⟨d, present, settled⟩ := List.all_eq_false.mp inactive.symm
    have single := (VoxRtcGateway.single_reaches reached).single c member
    match bodies : c.bodies with
    | [] => rw [bodies] at within; cases within
    | [only] =>
      rw [bodies] at within present
      rw [List.mem_singleton.mp within, ← List.mem_singleton.mp present]
      simpa using settled
    | _ :: _ :: _ => simp [bodies] at single
  · have kept : h.Resolved ∧ lifecycle.Reaches VoxRtcGateway.Flat h ∧
        h.conns.map Connection.session = g.conns.map Connection.session := by
      refine System.Leads.preserves (P := fun h => VoxRtcGateway.Resolved h ∧
        lifecycle.Reaches VoxRtcGateway.Flat h ∧
          h.conns.map Connection.session = g.conns.map Connection.session)
        (fun a l b held meets taken => ?_) later ⟨resolved, reached.mono flat, rfl⟩
      obtain ⟨resolved, reached, same⟩ := held
      have next := VoxRtcGateway.resolved_step (VoxRtcGateway.inv_reaches reached)
        (VoxRtcGateway.draining_reaches reached) resolved taken
      exact ⟨next.1, .step l reached (flat a l meets) taken, next.2.trans same⟩
    exact kept.2.2

/-- One session is ready and one is still being created when the gateway is closed. -/
def shutdownRun : List Label :=
  [.upgrade, .upgrade, .conn 0 (.created true), .conn 0 (.hookSettled true true),
    .conn 0 .openingSettled, .gatewayClose "shutdown", .visit 0, .callback false, .callback false,
    .callback false, .callback false, .swept, .conn 0 (.closedHookSettles 0),
    .closerResumes 0 false, .conn 1 (.created true), .callback false, .callback false,
    .callback false, .callback false, .conn 1 (.closedHookSettles 0), .conn 1 .closeAwaited,
    .conn 1 .openingSettled, .closerResumes 0 false, .swept, .closerResumes 0 false]

theorem shutdown_complete_run : ∃ g, lifecycle.run .initial shutdownRun = some g ∧ g.Quiet ∧
    g.conns.map Connection.session = [true, true] := by
  refine ⟨_, rfl, ?_, rfl⟩
  have reached := System.leads_of_run (M := lifecycle) (C := VoxRtcGateway.Flat)
    (s := lifecycle.init) shutdownRun (by decide) rfl
  exact (shutdown_complete fun _ _ => id).emptied _ reached ⟨_, .head _, rfl⟩

/-- As in `nestedRun`; the call from within the hook resolves while the hook is pending. -/
def overtakingRun : List Label :=
  [.upgrade, .conn 0 (.created true), .conn 0 (.hookSettled true true), .conn 0 .openingSettled,
    .conn 0 .browserClosed, .callback false, .callback false, .callback false,
    .gatewayClose "shutdown", .visit 0, .callback false, .callback false, .callback false, .swept,
    .callback false, .conn 0 (.closedHookSettles 1), .closerResumes 0 false,
    .closerResumes 0 false, .swept, .closerResumes 0 false]

theorem shutdown_incomplete :
    (∃ g, lifecycle.run .initial overtakingRun = some g ∧
      g.closers.map Closer.phase = [.resolved] ∧
      g.conns.map (fun c => c.bodies.map Body.phase) = [[.awaiting, .settled]]) ∧
    ¬ShutdownComplete always := by
  refine ⟨⟨_, rfl, rfl, rfl⟩, fun complete => ?_⟩
  have reached := System.reaches_of_run (M := lifecycle) overtakingRun rfl
  have settled := complete.settled _ reached ⟨_, .head _, rfl⟩ _ (.head _) _ (.head _)
  exact absurd settled (by decide)

end VoxRtc.TypeScript.Gateway
