import VoxRtc.TypeScript.Gateway.Connections

/-!
# The JavaScript stack of the gateway

The invariant of the whole gateway in any run, calls of `gateway.close()` from within a
callback included: a body of `#close` that is in a callback is on the stack, so when the
stack is empty every body is at its `await` or settled.
-/
namespace VoxRtc.TypeScript.Gateway

open Transition

namespace VoxRtcGateway

structure Inv (g : VoxRtcGateway) : Prop where
  conns : ∀ (i : Nat) (c : Connection), g.conns[i]? = some c → c.Inv
  /-- A body in a callback is on the stack. -/
  stacked : ∀ (i b : Nat) (c : Connection) (body : Body), g.conns[i]? = some c →
    c.bodies[b]? = some body → body.phase.running = true → .body i b ∈ g.stack
  /-- `closeActive` visits sessions. -/
  visits : ∀ (k : Nat) (todo : List Nat), .sweep k todo ∈ g.stack → ∀ i ∈ todo,
    ∀ c, g.conns[i]? = some c → c.session = true

theorem inv_initial : Inv initial := ⟨by simp [initial], by simp [initial], by simp [initial]⟩

theorem those_read {g : VoxRtcGateway} {p : Connection → Bool} {i : Nat} {c : Connection}
    (member : i ∈ g.those p) (found : g.conns[i]? = some c) : p c = true := by
  simp only [those, List.mem_filter, found, Option.any_some] at member
  exact member.2

/-- The sessions of `#active` exist. -/
theorem inActive_session {g : VoxRtcGateway} (inv : Inv g) {i : Nat} {c : Connection}
    (member : i ∈ g.those Connection.inActive) (found : g.conns[i]? = some c) :
    c.session = true := by
  have active := (inv.conns i c found).active
  rw [those_read member found] at active
  exact (Bool.and_eq_true_iff.mp active.symm).1

variable {g h : VoxRtcGateway} {i : Nat} {c c' : Connection}

/-- One connection changes, and the body it may have started joins the stack. -/
private theorem inv_set (inv : Inv g) (found : g.conns[i]? = some c) (kept : c'.Inv)
    (change : c.Change c') {stack : List Frame} (starts : ∀ f ∈ started i c c', f ∈ stack)
    (keeps : ∀ j b, .body j b ∈ g.stack → .body j b ∈ stack)
    (session : c.session = true → c'.session = true)
    (visits : ∀ k todo, .sweep k todo ∈ stack → ∃ before, .sweep k before ∈ g.stack ∧
      ∀ j ∈ todo, j ∈ before)
    (conns : h.conns = g.conns.set i c') (same : h.stack = stack) : Inv h := by
  constructor
  · intro j d here
    rw [conns] at here
    rcases Pool.read_set here with ⟨_, rfl⟩ | ⟨_, old⟩
    · exact kept
    · exact inv.conns j d old
  · intro j b d body here within running
    rw [conns] at here
    rw [same]
    rcases Pool.read_set here with ⟨rfl, rfl⟩ | ⟨_, old⟩
    · rcases change.running within running with before | ⟨rfl, longer⟩
      · exact keeps j b (inv.stacked j b c body found before running)
      · exact starts _ (by simp [started, longer])
    · exact keeps j b (inv.stacked j b d body old within running)
  · intro k todo swept j member d here
    rw [conns] at here
    rw [same] at swept
    obtain ⟨before, earlier, subset⟩ := visits k todo swept
    have visited := inv.visits k before earlier j (subset j member)
    rcases Pool.read_set here with ⟨rfl, rfl⟩ | ⟨_, old⟩
    · exact session (visited c found)
    · exact visited d old

theorem closeSockets_read {sessions : List Nat}
    (found : (g.closeSockets sessions).conns[i]? = some c') :
    ∃ c, g.conns[i]? = some c ∧ (c' = c ∨ c' = { c with readyState := .closing }) := by
  simp only [closeSockets, List.getElem?_mapIdx, Option.map_eq_some_iff] at found
  obtain ⟨c, here, rfl⟩ := found
  refine ⟨c, here, ?_⟩
  split
  · exact .inr rfl
  · exact .inl rfl

private theorem inv_closeSockets (inv : Inv g) (sessions : List Nat) :
    Inv (g.closeSockets sessions) := by
  constructor
  · intro i c found
    obtain ⟨d, old, rfl | rfl⟩ := closeSockets_read found
    · exact inv.conns i c old
    · exact (inv.conns i d old).move rfl rfl rfl rfl id rfl rfl rfl rfl rfl
  · intro i b c body found within running
    obtain ⟨d, old, rfl | rfl⟩ := closeSockets_read found
    · exact inv.stacked i b c body old within running
    · exact inv.stacked i b d body old within running
  · intro k todo swept i member c found
    obtain ⟨d, old, rfl | rfl⟩ := closeSockets_read found
    · exact inv.visits k todo swept i member c old
    · exact inv.visits k todo swept i member d old

/-- The callback at the top of the stack ends. -/
private theorem inv_callbackEnds {rest : List Frame} {b : Nat} {body : Body} {throws : Bool}
    (inv : Inv g) (top : g.stack = .body i b :: rest) (found : g.conns[i]? = some c)
    (within : c.bodies[b]? = some body) (taken : c.callback b body throws = some c') :
    Inv { g with
      conns := g.conns.set i c', stack := if body.phase = .hook then rest else g.stack } := by
  have kept := Connection.inv_callback (inv.conns i c found) within taken
  obtain ⟨phase, moved, leaves⟩ := Connection.callback_bodies taken
  constructor
  · intro j d here
    rcases Pool.read_set here with ⟨_, rfl⟩ | ⟨_, old⟩
    · exact kept
    · exact inv.conns j d old
  · intro j k d other here inside running
    -- Another running body stays where it is; this one is gone only if its hook returned.
    have elsewhere (stacked : .body j k ∈ g.stack) (apart : j = i → k ≠ b) :
        .body j k ∈ if body.phase = .hook then rest else g.stack := by
      split
      · rw [top, List.mem_cons] at stacked
        rcases stacked with same | below
        · cases same
          exact absurd rfl (apart rfl)
        · exact below
      · exact stacked
    rcases Pool.read_set here with ⟨rfl, rfl⟩ | ⟨different, old⟩
    · rw [moved] at inside
      rcases Pool.read_set inside with ⟨rfl, rfl⟩ | ⟨apart, before⟩
      · have continues : body.phase ≠ .hook := fun hook => by
          rw [leaves hook] at running
          cases running
        rw [if_neg continues, top]
        exact List.mem_cons_self
      · exact elsewhere (inv.stacked j k c other found before running) fun _ => apart
    · exact elsewhere (inv.stacked j k d other old inside running) fun same => absurd same different
  -- What a sweep has still to visit was there before.
  · intro k todo swept j member d here
    have earlier : .sweep k todo ∈ g.stack := by
      change _ ∈ (if _ then _ else _) at swept
      split at swept
      · exact top ▸ .tail _ swept
      · exact swept
    rcases Pool.read_set here with ⟨rfl, rfl⟩ | ⟨_, old⟩
    · rw [Connection.callback_session taken]
      exact inv.visits k todo earlier j member c found
    · exact inv.visits k todo earlier j member d old

section Step

theorem step_upgrade (taken : g.step .upgrade = some h) :
    g.stack = [] ∧ (g.shutdownReason.isSome = true ∧ h = g ∨
      g.shutdownReason.isSome = false ∧ h = { g with conns := g.conns ++ [.initial] }) := by
  simp only [step, Option.ite_none_left_eq_some, Option.some.injEq, ne_eq, not_not] at taken
  obtain ⟨idle, taken⟩ := taken
  refine ⟨idle, ?_⟩
  split at taken
  next closing => exact .inl ⟨closing, taken.symm⟩
  next open_ => exact .inr ⟨Bool.eq_false_of_not_eq_true open_, taken.symm⟩

theorem step_conn {l : ConnStep} (taken : g.step (.conn i l) = some h) :
    ∃ c c', g.stack = [] ∧ g.conns[i]? = some c ∧ c.next g.shutdownReason l = some c' ∧
      h = { g with conns := g.conns.set i c', stack := started i c c' } := by
  simp only [step, Option.ite_none_left_eq_some, Option.bind_eq_bind, Option.bind_eq_some_iff,
    Option.pure_def, Option.some.injEq, ne_eq, not_not] at taken
  obtain ⟨idle, c, found, c', moved, rfl⟩ := taken
  exact ⟨c, c', idle, found, moved, rfl⟩

theorem step_gatewayClose {reason : String} (taken : g.step (.gatewayClose reason) = some h) :
    g.closePromise.isSome = true ∧ h = g ∨
      g.closePromise.isSome = false ∧ h = { g with
        shutdownReason := some reason
        closers := g.closers ++ [⟨reason, .sweeping false, g.those Connection.inActive, []⟩]
        stack := .sweep g.closers.length (g.those Connection.inActive) :: g.stack } := by
  simp only [step, Option.ite_none_right_eq_some] at taken
  obtain ⟨_, taken⟩ := taken
  split at taken
  next stored => exact .inl ⟨stored, (Option.some.inj taken).symm⟩
  next first => exact .inr ⟨Bool.eq_false_of_not_eq_true first, (Option.some.inj taken).symm⟩

theorem step_callback {throws : Bool} (taken : g.step (.callback throws) = some h) :
    ∃ i b rest c body c', g.stack = .body i b :: rest ∧ g.conns[i]? = some c ∧
      c.bodies[b]? = some body ∧ c.callback b body throws = some c' ∧ h = { g with
        conns := g.conns.set i c', stack := if body.phase = .hook then rest else g.stack } := by
  simp only [step] at taken
  split at taken
  next i b rest top =>
    simp only [Option.bind_eq_bind, Option.bind_eq_some_iff, Option.pure_def,
      Option.some.injEq] at taken
    obtain ⟨c, found, body, within, c', ends, rfl⟩ := taken
    exact ⟨i, b, rest, c, body, c', top, found, within, ends, rfl⟩
  next => cases taken

theorem step_visit (taken : g.step (.visit i) = some h) :
    ∃ k todo rest c closer, g.stack = .sweep k todo :: rest ∧ i ∈ todo ∧ g.conns[i]? = some c ∧
      g.closers[k]? = some closer ∧ h = { g with
        conns := g.conns.set i (c.requestClose closer.reason)
        closers := g.closers.set k { closer with
          waiting := closer.waiting ++ if c.setupPending then [] else [(i, c.promised)] }
        stack := started i c (c.requestClose closer.reason) ++ .sweep k (todo.erase i) :: rest } := by
  simp only [step] at taken
  split at taken
  next k todo rest top =>
    simp only [Option.ite_none_right_eq_some, Option.bind_eq_bind, Option.bind_eq_some_iff,
      Option.pure_def, Option.some.injEq] at taken
    obtain ⟨member, c, found, closer, at_k, rfl⟩ := taken
    exact ⟨k, todo, rest, c, closer, top, member, found, at_k, rfl⟩
  next => cases taken

theorem step_swept (taken : g.step .swept = some h) :
    ∃ k rest closer second, g.stack = .sweep k [] :: rest ∧ g.closers[k]? = some closer ∧
      closer.phase = .sweeping second ∧ h = { g.setPhase k (.waiting second) with
        stack := rest
        closePromise := if second then g.closePromise else some k } := by
  simp only [step] at taken
  split at taken
  next k rest top =>
    simp only [Option.bind_eq_bind, Option.bind_eq_some_iff] at taken
    obtain ⟨closer, at_k, taken⟩ := taken
    split at taken
    next second phase =>
      exact ⟨k, rest, closer, second, top, at_k, phase, (Option.some.inj taken).symm⟩
    next => cases taken
  next => cases taken

theorem resume_cases {k : Nat} {closer : Closer} {throws : Bool}
    (taken : g.resume k closer throws = some h) :
    (∃ second, closer.phase = .waiting second ∧ closer.waiting.all g.settled = true ∧
      (h = g.setPhase k .rejected ∨ h = (g.closeSockets closer.sessions).setPhase k
        (if second then .resolved else .openings (g.those Connection.opening)))) ∨
    ∃ snapshot, closer.phase = .openings snapshot ∧
      (snapshot.all fun i => !(g.conns[i]?.any Connection.opening)) = true ∧ h = { g with
        closers := g.closers.set k { closer with
          phase := .sweeping true, sessions := g.those Connection.inActive, waiting := [] }
        stack := [.sweep k (g.those Connection.inActive)] } := by
  unfold resume at taken
  split at taken
  next second phase =>
    simp only [Option.ite_none_right_eq_some] at taken
    obtain ⟨settled, taken⟩ := taken
    refine .inl ⟨second, phase, settled, ?_⟩
    split at taken
    · exact .inl (Option.some.inj taken).symm
    · exact .inr (Option.some.inj taken).symm
  next snapshot phase =>
    simp only [Option.ite_none_right_eq_some, Option.some.injEq] at taken
    exact .inr ⟨snapshot, phase, taken.1, taken.2.symm⟩
  next => cases taken

theorem step_closerResumes {k : Nat} {throws : Bool}
    (taken : g.step (.closerResumes k throws) = some h) :
    ∃ closer, g.stack = [] ∧ g.closers[k]? = some closer ∧ g.resume k closer throws = some h := by
  simp only [step, Option.ite_none_left_eq_some, Option.bind_eq_bind,
    Option.bind_eq_some_iff, ne_eq, not_not] at taken
  obtain ⟨idle, closer, at_k, taken⟩ := taken
  exact ⟨closer, idle, at_k, taken⟩

end Step

theorem inv_step {l : Label} (inv : Inv g) (taken : g.step l = some h) : Inv h := by
  cases l with
  | upgrade =>
    obtain ⟨idle, ⟨_, rfl⟩ | ⟨_, rfl⟩⟩ := step_upgrade taken
    · exact inv
    · constructor
      · intro i c found
        rcases Pool.read_append found with old | ⟨_, rfl⟩
        · exact inv.conns i c old
        · exact Connection.inv_initial
      · intro i b c body found within running
        rcases Pool.read_append found with old | ⟨_, rfl⟩
        · exact inv.stacked i b c body old within running
        · cases within
      · intro k todo swept
        change Frame.sweep k todo ∈ g.stack at swept
        -- An upgrade is served on an empty stack.
        rw [idle] at swept
        cases swept
  | conn i l =>
    obtain ⟨c, c', idle, found, moved, rfl⟩ := step_conn taken
    refine inv_set inv found (Connection.inv_next (inv.conns i c found) moved)
      (Connection.next_change moved) (fun f => id) (fun j b stacked => ?_)
      (Connection.next_session moved) (fun k todo swept => ?_) rfl rfl
    · rw [idle] at stacked
      cases stacked
    · unfold started at swept
      split at swept <;> simp at swept
  | gatewayClose reason =>
    rcases step_gatewayClose taken with ⟨_, rfl⟩ | ⟨_, rfl⟩
    · exact inv
    · refine ⟨inv.conns, fun i b c body found within running =>
        .tail _ (inv.stacked i b c body found within running), fun k todo swept => ?_⟩
      rcases List.mem_cons.mp swept with new | old
      · cases new
        exact fun i member c found => inActive_session inv member found
      · exact inv.visits k todo old
  | callback throws =>
    obtain ⟨_, _, _, _, _, _, top, found, within, ends, rfl⟩ := step_callback taken
    exact inv_callbackEnds inv top found within ends
  -- The sweep on top of the stack has one connection less to visit.
  | visit i =>
    obtain ⟨k, todo, rest, c, closer, top, member, found, _, rfl⟩ := step_visit taken
    have session := inv.visits k todo (top ▸ .head _) i member c found
    refine inv_set inv found (Connection.inv_requestClose (inv.conns i c found) session _)
      (Connection.requestClose_change _) (fun f new => List.mem_append_left _ new)
      (fun j b stacked => ?_) (fun _ => (Connection.requestClose_session _).trans session)
      (fun l left swept => ?_) rfl rfl
    · rw [top, List.mem_cons] at stacked
      rcases stacked with same | below
      · cases same
      · exact List.mem_append_right _ (.tail _ below)
    · rcases List.mem_append.mp swept with new | old
      · unfold started at new
        split at new <;> simp at new
      · rcases List.mem_cons.mp old with same | below
        · cases same
          exact ⟨todo, top ▸ .head _, fun j => List.mem_of_mem_erase⟩
        · exact ⟨left, top ▸ .tail _ below, fun _ => id⟩
  -- Only the sweep itself is gone.
  | swept =>
    obtain ⟨_, _, _, _, top, _, _, rfl⟩ := step_swept taken
    refine ⟨inv.conns, fun i b c body found within running => ?_,
      fun l todo swept => inv.visits l todo (top ▸ .tail _ swept)⟩
    have stacked := inv.stacked i b c body found within running
    rw [top, List.mem_cons] at stacked
    rcases stacked with same | below
    · cases same
    · exact below
  | closerResumes k throws =>
    obtain ⟨closer, idle, _, resumed⟩ := step_closerResumes taken
    -- A promise continues on an empty stack, and starts a sweep or ends.
    rcases resume_cases resumed with ⟨_, _, _, rfl | rfl⟩ | ⟨_, _, _, rfl⟩
    · exact ⟨inv.conns, inv.stacked, inv.visits⟩
    · have closed := inv_closeSockets inv closer.sessions
      exact ⟨closed.conns, closed.stacked, closed.visits⟩
    · refine ⟨inv.conns, fun i b c body found within running => ?_, fun l todo swept => ?_⟩
      · have stacked := inv.stacked i b c body found within running
        rw [idle] at stacked
        cases stacked
      · rcases List.mem_cons.mp swept with same | below
        · cases same
          exact fun i member c found => inActive_session inv member found
        · cases below

theorem inv_reaches {C : VoxRtcGateway → Label → Prop} (reached : lifecycle.Reaches C g) : Inv g :=
  System.Reaches.preserves inv_initial (fun _ _ _ inv _ taken => inv_step inv taken) reached

/-- With the stack empty, a session without a stored promise has no body at all. -/
theorem bodies_nil (inv : Inv g) (idle : ∀ b, .body i b ∉ g.stack) (found : g.conns[i]? = some c)
    (absent : c.closePromise = none) : c.bodies = [] := by
  cases bodies : c.bodies with
  | nil => rfl
  | cons body rest =>
    have within : c.bodies[0]? = some body := by rw [bodies]; rfl
    have running := (inv.conns i c found).promised absent body (Pool.mem_of_read within)
    exact absurd (inv.stacked i 0 c body found within running) (idle 0)

end VoxRtcGateway

end VoxRtc.TypeScript.Gateway
