import VoxRtc.Transition.Fairness
import VoxRtc.Rust.Gateway.Serve

/-!
# Shutdown of the Rust gateway

`close` signals the serve tasks through a watch channel and waits for the counter of
active tasks. Both have a window: a value sent while no receiver exists is dropped,
and a task that passed the `shutting_down` check counts only once its future runs.
Outside these two windows shutdown is complete.
-/
namespace VoxRtc.Rust.Gateway

open Transition

/-- What a live receiver knows of a channel that has carried `version` values: before
`borrow` at most all of them, and after `borrow` answered `None` none at all. -/
def Serve.Hears (version : Nat) : Serve → Prop
  | .subscribed seen => seen ≤ version
  | .hook seen | .ready seen | .selecting seen => seen = 0
  | _ => True

def Label.subscribes : Label → Bool
  | .serve _ .subscribe => true
  | _ => false

def Label.starts : Label → Bool
  | .serve _ .start => true
  | _ => false

namespace GatewayState

/-- `close` has sent its reason and nothing was stored. -/
def SignalLost (g : GatewayState) : Prop :=
  g.shuttingDown = true ∧ g.shutdown = none ∧ ∀ c ∈ g.closes, c.isSending = false

instance (g : GatewayState) : Decidable g.SignalLost :=
  inferInstanceAs (Decidable (_ ∧ _ ∧ _))

/-- The step keeps out of both windows: no task subscribes to a lost signal, and no
deferred task starts after a `close` has read the counter as zero. -/
def Unmissed (g : GatewayState) (l : Label) : Prop :=
  (l.subscribes = true → ¬g.SignalLost) ∧
  (l.starts = true → ∀ c ∈ g.closes, c.drained = false)

instance (g : GatewayState) (l : Label) : Decidable (g.Unmissed l) :=
  inferInstanceAs (Decidable (_ ∧ _))

/-- A task in its select loop is signalled: a value it has not seen is stored, or the
`close` that set the flag is about to send one. -/
def Signalled (g : GatewayState) : Prop :=
  g.shuttingDown = true → ∀ (i seen : Nat), g.serves[i]? = some (.selecting seen) →
    (∃ c ∈ g.closes, c.isSending = true) ∨ seen < g.version ∧ g.shutdown.isSome = true

/-- No serve task runs once a `close` has returned. -/
def Quiet (g : GatewayState) : Prop :=
  .returned ∈ g.closes → ∀ p ∈ g.serves, p.running = false

instance (g : GatewayState) : Decidable g.Quiet :=
  inferInstanceAs (Decidable (_ → _))

structure Inv (g : GatewayState) : Prop where
  stored : g.shutdown.isSome = true ↔ 0 < g.version
  hears : ∀ p ∈ g.serves, p.Hears g.version
  signalled : g.shuttingDown = true →
    (∃ c ∈ g.closes, c.isSending = true) ∨ 0 < g.version ∨ g.receivers = 0
  once : g.closes.countP Close.isSending ≤ 1
  flagged : ∀ c ∈ g.closes, c.isSending = true → g.shuttingDown = true
  counted : g.active = g.serves.countP Serve.running
  drained : ∀ c ∈ g.closes, c.drained = true → g.active = 0

theorem inv_initial : Inv initial := by
  constructor <;> simp [initial]

variable {g h : GatewayState} {i k : Nat}

section Serve

variable {l : ServeStep} {p q : Serve}

private theorem hears_mono {v w : Nat} (le : v ≤ w) (before : p.Hears v) : p.Hears w := by
  cases p with
  | subscribed seen => exact Nat.le_trans before le
  | hook | ready | selecting => exact before
  | _ => trivial

/-- `borrow` answers `None` only while the channel is empty, and `changed` never does. -/
private theorem hears_moves (stored : g.shutdown.isSome = true ↔ 0 < g.version)
    (before : p.Hears g.version) (moves : Serve.Moves g l p q) : q.Hears g.version := by
  have empty (value : g.shutdown = none) : g.version = 0 := by
    have : ¬0 < g.version := by rw [← stored, value]; simp
    omega
  -- A receiver that is new has seen what is there; nothing is ever blank after that.
  cases moves with
  | subscribe => exact Nat.le_refl _
  | untold seen value =>
    have bound : seen ≤ g.version := before
    have := empty value
    show seen = 0
    omega
  | blank seen fresh value =>
    have := empty value
    omega
  | hookOk | readyOk | stay => exact before
  | _ => trivial

private theorem receives_moves (moves : Serve.Moves g l p q) (receives : q.receives = true) :
    p.receives = true ∨ l = .subscribe := by
  cases moves with
  | subscribe => exact .inr rfl
  | start | createOk | createErr | cleaned | last | notLast | notifyWaiters => cases receives
  | _ => exact .inl rfl

/-- The counter follows the tasks that run. -/
private theorem active_moves (positive : p.running = true → 0 < g.active)
    (moves : Serve.Moves g l p q) :
    (g.serveEffect l).active + (if p.running then 1 else 0) =
      g.active + (if q.running then 1 else 0) := by
  -- The guard is dropped by the last step of the task, and by no other.
  cases moves with
  | last | notLast =>
    have := positive rfl
    simp only [serveEffect, Serve.running, if_true, Bool.false_eq_true, if_false]
    omega
  | _ => simp [serveEffect, Serve.running]

/-- Only `start` raises the counter. -/
private theorem active_zero (zero : g.active = 0) (other : l ≠ .start) :
    (g.serveEffect l).active = 0 := by
  cases l with
  | start => exact absurd rfl other
  | fetchSub => simp [serveEffect, zero]
  | _ => exact zero

private theorem closes_sending :
    (∃ c ∈ (g.serveEffect l).closes, c.isSending = true) ↔ ∃ c ∈ g.closes, c.isSending = true := by
  cases l with
  | notifyWaiters => simp [serveEffect]
  | _ => rfl

private theorem closes_all {f : Close → Bool} (keeps : ∀ c : Close, f c.notify = f c) {P : Prop} :
    (∀ c ∈ (g.serveEffect l).closes, f c = true → P) ↔ ∀ c ∈ g.closes, f c = true → P := by
  cases l with
  | notifyWaiters => simp [serveEffect, keeps]
  | _ => rfl

private theorem closes_count :
    (g.serveEffect l).closes.countP Close.isSending = g.closes.countP Close.isSending := by
  cases l with
  | notifyWaiters =>
    simp only [serveEffect, List.countP_map]
    exact List.countP_congr fun c _ => by simp
  | _ => rfl

end Serve

theorem inv_serve {l : ServeStep} (inv : Inv g) (meets : g.Unmissed (.serve i l))
    (taken : g.step (.serve i l) = some h) : Inv h := by
  obtain ⟨p, q, found, moved, rfl⟩ := step_serve taken
  have moves := Serve.moves_of_next moved
  have member := Pool.mem_of_read found
  -- A future that runs is counted.
  have positive : p.running = true → 0 < g.active := fun running => by
    rw [inv.counted]
    exact List.countP_pos_iff.mpr ⟨p, member, running⟩
  constructor
  case stored => simpa using inv.stored
  case hears =>
    simp only [serveEffect_version]
    exact Pool.forall_set inv.hears (hears_moves inv.stored (inv.hears p member) moves)
  case signalled =>
    intro flag
    simp only [serveEffect_shuttingDown] at flag
    simp only [closes_sending, serveEffect_version]
    rcases inv.signalled flag with sending | some_value | no_receiver
    · exact .inl sending
    · exact .inr (.inl some_value)
    · -- A receiver can only appear by `subscribe`, and then the signal is not lost.
      by_cases receives : q.receives = true
      · rcases receives_moves moves receives with old | rfl
        · rw [Pool.none_of_countP_zero no_receiver member] at old
          cases old
        · have kept := meets.1 rfl
          by_cases pending : ∃ c ∈ g.closes, c.isSending = true
          · exact .inl pending
          · right; left
            rw [← inv.stored]
            by_contra absent
            exact kept ⟨flag, by simpa using absent, by simpa using pending⟩
      · right; right
        have moved := Pool.countP_set_add (b := q) Serve.receives found
        simp only [receives, Pool.none_of_countP_zero no_receiver member] at moved
        rw [receivers] at no_receiver ⊢
        simpa [no_receiver] using moved
  case once => simpa only [closes_count] using inv.once
  case flagged =>
    simp only [serveEffect_shuttingDown]
    exact (closes_all notify_isSending).mpr inv.flagged
  case counted =>
    have moved := Pool.countP_set_add (b := q) Serve.running found
    have effect := active_moves positive moves
    have counted := inv.counted
    simp only at moved effect counted ⊢
    omega
  case drained =>
    refine (closes_all notify_drained).mpr fun c closed drained => ?_
    -- Nothing starts once a close has seen the counter at zero.
    refine active_zero (inv.drained c closed drained) ?_
    rintro rfl
    rw [meets.2 rfl c closed] at drained
    cases drained

section Closing

variable {l : CloseStep} {c d : Close}

/-- A close call enters `sending` only by setting the flag, and leaves its loop only
when no task is active. -/
private theorem drained_moves (moves : Close.Moves g l c d) (drained : d.drained = true) :
    c.drained = true ∨ g.active = 0 := by
  cases moves with
  | zero _ none_active => exact .inr none_active
  | disconnected => exact .inl rfl
  | _ => cases drained

private theorem sending_unique (once : g.closes.countP Close.isSending ≤ 1)
    (found : g.closes[k]? = some c) (sending : c.isSending = true) :
    (g.closes.set k .looping).countP Close.isSending = 0 := by
  have moved := Pool.countP_set_add (b := Close.looping) Close.isSending found
  simp only [sending, if_true] at moved
  simp only [Close.isSending, Bool.false_eq_true, if_false] at moved
  omega

/-- A call that neither begins nor ends `sending` changes nothing but itself. -/
private theorem inv_quiet_close (inv : Inv g) (found : g.closes[k]? = some c)
    (before : c.isSending = false) (after : d.isSending = false)
    (drained : d.drained = true → g.active = 0) : Inv { g with closes := g.closes.set k d } := by
  have sending : (∃ e ∈ g.closes, e.isSending = true) →
      ∃ e ∈ g.closes.set k d, e.isSending = true := by
    -- A call that sends is another one, and stays.
    rintro ⟨e, present, holds⟩
    refine ⟨e, Pool.mem_set_of_ne found present ?_, holds⟩
    rintro rfl
    rw [before] at holds
    cases holds
  refine ⟨inv.stored, inv.hears, fun flag => (inv.signalled flag).imp_left sending, ?_, ?_,
    inv.counted, Pool.forall_set inv.drained drained⟩
  · rw [Pool.countP_set_same Close.isSending found (after.trans before.symm)]
    exact inv.once
  · refine Pool.forall_set inv.flagged fun holds => ?_
    rw [after] at holds
    cases holds

private theorem inv_send {reason : String} (inv : Inv g)
    (found : g.closes[k]? = some (.sending reason)) :
    Inv { g.send reason with closes := g.closes.set k .looping } := by
  -- No other call is about to send, for the flag is set once.
  have gone := sending_unique inv.once found rfl
  have once : (g.closes.set k .looping).countP Close.isSending ≤ 1 := by omega
  have unflagged {P : Prop} : ∀ e ∈ g.closes.set k .looping, e.isSending = true → P := by
    intro e present sending
    rw [Pool.none_of_countP_zero gone present] at sending
    cases sending
  have drained : ∀ e ∈ g.closes.set k .looping, e.drained = true → g.active = 0 :=
    Pool.forall_set inv.drained fun holds => by cases holds
  -- With no receiver the value is dropped, and nobody is left to be told.
  by_cases empty : g.receivers = 0
  · simp only [send, empty, if_true]
    exact ⟨inv.stored, inv.hears, fun _ => .inr (.inr empty), once,
      unflagged, inv.counted, drained⟩
  · simp only [send, empty, if_false]
    exact ⟨by simp, fun p present => hears_mono (Nat.le_succ _) (inv.hears p present),
      fun _ => .inr (.inl (Nat.succ_pos _)), once,
      unflagged, inv.counted, drained⟩

private theorem inv_first {reason : String} (inv : Inv g)
    (found : g.closes[k]? = some (.called reason)) (flag : g.shuttingDown = false) :
    Inv { g with shuttingDown := true, closes := g.closes.set k (.sending reason) } := by
  -- The flag was not set, so that no call had begun to send.
  have quiet : g.closes.countP Close.isSending = 0 := by
    rw [List.countP_eq_zero]
    intro e present sending
    rw [inv.flagged e present sending] at flag
    cases flag
  have moved := Pool.countP_set_add (b := Close.sending reason) Close.isSending found
  simp only [Close.isSending, quiet, Bool.false_eq_true, if_false, if_true] at moved
  exact ⟨inv.stored, inv.hears, fun _ => .inl ⟨_, Pool.mem_set_self found, rfl⟩,
    Nat.le_of_eq moved, fun _ _ _ => rfl, inv.counted,
    Pool.forall_set inv.drained fun holds => by cases holds⟩

end Closing

theorem inv_closing {l : CloseStep} (inv : Inv g)
    (taken : g.step (.closing k l) = some h) : Inv h := by
  obtain ⟨c, d, found, moved, rfl⟩ := step_closing taken
  have moves := Close.moves_of_next moved
  -- A call leaves its loop only at zero, or has left it before.
  have drained (holds : d.drained = true) : g.active = 0 :=
    (drained_moves moves holds).elim (inv.drained c (Pool.mem_of_read found)) id
  rw [closeEffect_closes]
  cases moves with
  | send reason => exact inv_send inv found
  | first reason flag => exact inv_first (g := g) inv found flag
  | later reason flag =>
    have same : g.closeEffect .swap (.called reason) = g := by
      simp only [closeEffect, ← flag]
    rw [same]
    exact inv_quiet_close inv found rfl rfl drained
  | enable | zero | park | wake | disconnected =>
    exact inv_quiet_close inv found rfl rfl drained

theorem inv_step {l : Label} (inv : Inv g) (meets : g.Unmissed l) (taken : g.step l = some h) :
    Inv h := by
  cases l with
  | upgrade =>
    simp only [step, Option.some.injEq] at taken
    split at taken
    · exact taken ▸ inv
    · subst taken
      -- A future that has not run has no receiver and is not counted.
      exact ⟨inv.stored, Pool.forall_append inv.hears trivial,
        fun flag => (inv.signalled flag).imp_right (.imp_right fun zero => by
          rw [receivers, Pool.countP_append_one]
          exact zero),
        inv.once, inv.flagged, by
          rw [Pool.countP_append_one]
          exact inv.counted,
        inv.drained⟩
  | serve i l => exact inv_serve inv meets taken
  | close reason =>
    simp only [step, Option.some.injEq] at taken
    subst taken
    refine ⟨inv.stored, inv.hears, fun flag => (inv.signalled flag).imp_left ?_, ?_,
      Pool.forall_append inv.flagged (fun holds => by cases holds), inv.counted,
      Pool.forall_append inv.drained (fun holds => by cases holds)⟩
    · rintro ⟨c, present, sending⟩
      exact ⟨c, List.mem_append_left _ present, sending⟩
    · rw [Pool.countP_append_one]
      simpa [Close.isSending] using inv.once
  | closing k l => exact inv_closing inv taken

theorem inv_reaches (reached : system.Reaches Unmissed g) : Inv g :=
  System.Reaches.preserves inv_initial (fun _ _ _ inv meets taken => inv_step inv meets taken)
    reached

theorem signalled_of_inv (inv : Inv g) : Signalled g := by
  intro flag i seen found
  have member := Pool.mem_of_read found
  have zero : seen = 0 := inv.hears _ member
  -- The task has seen no value, so that any value is new to it.
  rcases inv.signalled flag with sending | value | no_receiver
  · exact .inl sending
  · exact .inr ⟨by omega, inv.stored.mpr value⟩
  · have := Pool.none_of_countP_zero no_receiver member
    cases this

theorem quiet_of_inv (inv : Inv g) : Quiet g := by
  intro returned p present
  have zero := inv.drained _ returned rfl
  rw [inv.counted] at zero
  exact Pool.none_of_countP_zero zero present

/-- The steps that carry a task with a session to its cleanup: its own awaits and
accesses, and, once it selects, the shutdown branch. -/
def progress (i : Nat) : Label → Prop
  | .serve j l => j = i ∧ match l with
    | .subscribe | .borrow | .hookOk | .hookErr | .readyOk | .readyErr | .changed => True
    | _ => False
  | _ => False

/-- The `close` call with index `k` sends. -/
def sends (k : Nat) (l : Label) : Prop := l = .closing k .send

/-- Shutdown has been signalled to whom it can be, and the task still owes its cleanup. -/
def Owing (i : Nat) (g : GatewayState) : Prop :=
  g.shuttingDown = true ∧ (∀ c ∈ g.closes, c.isSending = false) ∧
    ∃ p, g.serves[i]? = some p ∧ p.owes = true

def Cleaning (i : Nat) (g : GatewayState) : Prop :=
  ∃ reason, g.serves[i]? = some (.cleanup reason)

end GatewayState

/-- Steps left before cleanup if nothing cuts them short. -/
def Serve.distance : Serve → Nat
  | .created => 5
  | .subscribed _ => 4
  | .hook _ => 3
  | .ready _ => 2
  | .selecting _ => 1
  | _ => 0

namespace GatewayState

variable {g h : GatewayState} {i k : Nat} {l : Label}

def rank (i : Nat) (g : GatewayState) : Nat := (g.serves[i]?.map Serve.distance).getD 0

section Owes

variable {l : ServeStep} {p q : Serve}

private theorem owes_moves (moves : Serve.Moves g l p q) (owes : p.owes = true) :
    (∃ reason, q = .cleanup reason) ∨ q.owes = true ∧ q.distance ≤ p.distance := by
  cases moves with
  | told _ reason | changed _ reason | exit _ reason => exact .inl ⟨reason, rfl⟩
  | hookErr | readyErr => exact .inl ⟨_, rfl⟩
  | subscribe | untold | hookOk | readyOk | stay | blank =>
    exact .inr ⟨rfl, by simp [Serve.distance]⟩
  | _ => cases owes

/-- With the reason stored, a progress step comes closer to cleanup. -/
private theorem owes_progress (inv : Inv g) (moves : Serve.Moves g l p q)
    (served : progress i (.serve i l)) :
    (∃ reason, q = .cleanup reason) ∨ q.owes = true ∧ q.distance < p.distance := by
  cases moves with
  | told _ reason | changed _ reason => exact .inl ⟨reason, rfl⟩
  | hookErr | readyErr => exact .inl ⟨_, rfl⟩
  | subscribe | untold | hookOk | readyOk => exact .inr ⟨rfl, by simp [Serve.distance]⟩
  | blank seen fresh value =>
    have := inv.stored.mpr (Nat.zero_lt_of_lt fresh)
    rw [value] at this
    cases this
  | _ => exact absurd served.2 id

end Owes

/-- A step other than the task's own leaves it where it is. -/
private theorem read_other (taken : g.step l = some h) (other : ∀ m, l ≠ .serve i m) {p : Serve}
    (found : g.serves[i]? = some p) : h.serves[i]? = some p := by
  cases l with
  | upgrade =>
    simp only [step, Option.some.injEq] at taken
    split at taken
    · exact taken ▸ found
    · subst taken
      exact Pool.read_append_old found
  | serve j m =>
    obtain ⟨a, b, _, _, rfl⟩ := step_serve taken
    have apart : i ≠ j := fun equal => other m (by rw [equal])
    exact (Pool.read_set_other apart).trans found
  | close reason =>
    simp only [step, Option.some.injEq] at taken
    exact taken ▸ found
  | closing k m =>
    obtain ⟨c, d, _, _, rfl⟩ := step_closing taken
    simpa using found

/-- The flag stays set, and no call enters `sending` once it is. -/
private theorem flag_step (taken : g.step l = some h) (flag : g.shuttingDown = true) :
    h.shuttingDown = true ∧
      ((∀ c ∈ g.closes, c.isSending = false) → ∀ c ∈ h.closes, c.isSending = false) := by
  cases l with
  | upgrade =>
    simp only [step, flag, if_true, Option.some.injEq] at taken
    exact taken ▸ ⟨flag, id⟩
  | serve j m =>
    obtain ⟨a, b, _, _, rfl⟩ := step_serve taken
    refine ⟨by simpa using flag, fun none_sending c present => ?_⟩
    by_contra sending
    obtain ⟨e, old, holds⟩ := closes_sending.mp ⟨c, present, by simpa using sending⟩
    rw [none_sending e old] at holds
    cases holds
  | close reason =>
    simp only [step, Option.some.injEq] at taken
    subst taken
    exact ⟨flag, fun none_sending => Pool.forall_append none_sending rfl⟩
  | closing k m =>
    obtain ⟨c, d, found, moved, rfl⟩ := step_closing taken
    have moves := Close.moves_of_next moved
    rw [closeEffect_closes]
    constructor
    · cases moves with
      | send reason =>
        simp only [closeEffect, send]
        split <;> exact flag
      | first | later => rfl
      | _ => exact flag
    · refine fun none_sending => Pool.forall_set none_sending ?_
      cases moves with
      | first reason unset => rw [flag] at unset; cases unset
      | _ => rfl

/-- Until its cleanup a task that owns a session keeps owing it, and moves only forward. -/
private theorem owes_step (taken : g.step l = some h) {p : Serve} (found : g.serves[i]? = some p)
    (owes : p.owes = true) :
    Cleaning i h ∨ ∃ q, h.serves[i]? = some q ∧ q.owes = true ∧ q.distance ≤ p.distance := by
  by_cases own : ∃ m, l = .serve i m
  · obtain ⟨m, rfl⟩ := own
    obtain ⟨a, b, here, moved, rfl⟩ := step_serve taken
    obtain rfl : p = a := Option.some.inj (found.symm.trans here)
    have after : (g.serves.set i b)[i]? = some b := Pool.read_set_self found
    rcases owes_moves (Serve.moves_of_next moved) owes with ⟨reason, rfl⟩ | ⟨still, bound⟩
    · exact .inl ⟨reason, after⟩
    · exact .inr ⟨b, after, still, bound⟩
  · have after := read_other taken (fun m equal => own ⟨m, equal⟩) found
    exact .inr ⟨p, after, owes, Nat.le_refl _⟩

private theorem owing_step (taken : g.step l = some h) (owing : Owing i g) :
    Cleaning i h ∨ Owing i h ∧ rank i h ≤ rank i g := by
  obtain ⟨flag, none_sending, p, found, owes⟩ := owing
  obtain ⟨flag', closed⟩ := flag_step taken flag
  -- The flag stays set and nobody sends any more, so the distance is all that moves.
  refine (owes_step taken found owes).imp_right ?_
  rintro ⟨q, after, still, bound⟩
  refine ⟨⟨flag', closed none_sending, q, after, still⟩, ?_⟩
  simpa only [rank, after, found, Option.map_some, Option.getD_some] using bound

private theorem owing_progress (inv : Inv g) (taken : g.step l = some h) (served : progress i l)
    (owing : Owing i g) : Cleaning i h ∨ Owing i h ∧ rank i h < rank i g := by
  obtain ⟨flag, none_sending, p, found, owes⟩ := owing
  obtain ⟨flag', closed⟩ := flag_step taken flag
  cases l with
  | serve j m =>
    obtain rfl : j = i := served.1
    obtain ⟨a, b, here, moved, rfl⟩ := step_serve taken
    obtain rfl : p = a := Option.some.inj (found.symm.trans here)
    have after : (g.serves.set j b)[j]? = some b := Pool.read_set_self found
    rcases owes_progress inv (Serve.moves_of_next moved) served with ⟨reason, rfl⟩ | ⟨still, bound⟩
    · exact .inl ⟨reason, after⟩
    · refine .inr ⟨⟨flag', closed none_sending, b, after, still⟩, ?_⟩
      simpa only [rank, after, found, Option.map_some, Option.getD_some] using bound
  | _ => exact absurd served id

/-- A task that owes its cleanup always has a step of its own. In the select loop it is
the shutdown branch, because the reason is stored. -/
private theorem owing_enabled (inv : Inv g) (owing : Owing i g) :
    system.Enabled (progress i) g := by
  obtain ⟨flag, none_sending, p, found, owes⟩ := owing
  have enabled {m : ServeStep} {q : Serve} (moved : p.next g m = some q)
      (served : progress i (.serve i m)) : system.Enabled (progress i) g :=
    ⟨.serve i m, served, by simp [system, step, found, moved]⟩
  cases p with
  | created => exact enabled (m := .subscribe) rfl ⟨rfl, trivial⟩
  | subscribed seen => exact enabled (m := .borrow) rfl ⟨rfl, trivial⟩
  | hook seen => exact enabled (m := .hookOk) rfl ⟨rfl, trivial⟩
  | ready seen => exact enabled (m := .readyOk) rfl ⟨rfl, trivial⟩
  | selecting seen =>
    rcases signalled_of_inv inv flag i seen found with ⟨c, present, sending⟩ | ⟨fresh, _⟩
    · rw [none_sending c present] at sending
      cases sending
    · exact enabled (m := .changed) (by simp only [Serve.next, fresh, if_true]; rfl) ⟨rfl, trivial⟩
  | _ => cases owes

/-- A call about to send is left alone until it has sent, and then no call sends. -/
private theorem sending_step {reason : String} (inv : Inv g) (taken : g.step l = some h)
    (found : g.closes[k]? = some (.sending reason)) :
    (∀ c ∈ h.closes, c.isSending = false) ∨
      ¬sends k l ∧ h.closes[k]? = some (.sending reason) := by
  cases l with
  | upgrade =>
    simp only [step, Option.some.injEq] at taken
    refine .inr ⟨(fun absurd => by cases absurd), ?_⟩
    split at taken <;> exact taken ▸ found
  | serve j m =>
    obtain ⟨a, b, _, _, rfl⟩ := step_serve taken
    refine .inr ⟨(fun absurd => by cases absurd), ?_⟩
    cases m with
    | notifyWaiters => simp [serveEffect, found, Close.notify]
    | _ => exact found
  | close other =>
    simp only [step, Option.some.injEq] at taken
    exact .inr ⟨(fun absurd => by cases absurd), taken ▸ Pool.read_append_old found⟩
  | closing j m =>
    obtain ⟨c, d, here, moved, rfl⟩ := step_closing taken
    rw [closeEffect_closes]
    -- The one step of the call itself is its send.
    by_cases same : j = k
    · subst same
      obtain rfl : Close.sending reason = c := Option.some.inj (found.symm.trans here)
      cases Close.moves_of_next moved
      exact .inl fun e present => Pool.none_of_countP_zero (sending_unique inv.once here rfl) present
    · refine .inr ⟨fun equal => ?_, (Pool.read_set_other (Ne.symm same)).trans found⟩
      cases equal
      exact same rfl

section Executions

variable (e : system.Execution Unmissed)

private theorem flag_later {n m : Nat} (later : n ≤ m) (flag : (e.state n).shuttingDown = true) :
    (e.state m).shuttingDown = true :=
  System.Leads.preserves (P := fun g => g.shuttingDown = true)
    (fun _ _ _ flag _ taken => (flag_step taken flag).1) (e.leads later) flag

private theorem owes_later {n m : Nat} (later : n ≤ m) {p : Serve}
    (found : (e.state n).serves[i]? = some p) (owes : p.owes = true) :
    (∃ r, n ≤ r ∧ Cleaning i (e.state r)) ∨
      ∃ q, (e.state m).serves[i]? = some q ∧ q.owes = true := by
  -- Step by step, the task is cleaned up or goes on owing.
  induction later with
  | refl => exact .inr ⟨p, found, owes⟩
  | @step m later ih =>
    rcases ih with earlier | ⟨q, here, still⟩
    · exact .inl earlier
    · cases labelled : e.label m with
      | none =>
        rw [e.idle m labelled]
        exact .inr ⟨q, here, still⟩
      | some l =>
        rcases owes_step (e.taken m l labelled) here still with cleaning | ⟨q', after, owes, _⟩
        · exact .inl ⟨m + 1, Nat.le_succ_of_le later, cleaning⟩
        · exact .inr ⟨q', after, owes⟩

/-- Every call that set the flag gets round to sending. -/
private theorem eventually_sent (fair : ∀ k, e.WeaklyFair (sends k)) (n : Nat) :
    ∃ m, n ≤ m ∧ ∀ c ∈ (e.state m).closes, c.isSending = false := by
  by_cases pending : ∃ c ∈ (e.state n).closes, c.isSending = true
  · obtain ⟨c, present, sending⟩ := pending
    obtain ⟨k, found⟩ := List.mem_iff_getElem?.mp present
    obtain ⟨reason, rfl⟩ : ∃ reason, c = .sending reason := by
      cases c with
      | sending reason => exact ⟨reason, rfl⟩
      | _ => cases sending
    refine e.eventually_of_rank (P := fun g => g.closes[k]? = some (.sending reason))
      (Q := fun g => ∀ c ∈ g.closes, c.isSending = false) (fun _ => 0) (fair k) ?_ ?_ ?_ n found
    · intro s _ here
      exact ⟨_, rfl, by simp [system, step, here, Close.next]⟩
    · intro s l t reached here _ taken
      exact (sending_step (inv_reaches reached) taken here).imp_right
        fun kept => ⟨kept.2, Nat.le_refl _⟩
    · intro s l t reached here served _ taken
      exact (sending_step (inv_reaches reached) taken here).imp_right
        fun kept => absurd served kept.1
  · exact ⟨n, Nat.le_refl _, by simpa using pending⟩

theorem eventually_cleaned (progresses : ∀ i, e.WeaklyFair (progress i))
    (fair : ∀ k, e.WeaklyFair (sends k)) {n m : Nat} {p : Serve}
    (found : (e.state n).serves[i]? = some p) (owes : p.owes = true)
    (flag : (e.state m).shuttingDown = true) : ∃ r, n ≤ r ∧ Cleaning i (e.state r) := by
  obtain ⟨t, after, none_sending⟩ := eventually_sent e fair (max n m)
  have later : n ≤ t := Nat.le_trans (Nat.le_max_left _ _) after
  rcases owes_later e later found owes with earlier | ⟨q, here, still⟩
  · exact earlier
  -- From here on the task owes, the flag is set and the reasons have been sent.
  · have flagged := flag_later e (Nat.le_trans (Nat.le_max_right n m) after) flag
    obtain ⟨r, reached, cleaning⟩ := e.eventually_of_rank (P := Owing i) (Q := Cleaning i)
      (rank i) (progresses i)
      (fun s reached owing => owing_enabled (inv_reaches reached) owing)
      (fun s l t _ owing _ taken => owing_step taken owing)
      (fun s l t reached owing served _ taken =>
        owing_progress (inv_reaches reached) taken served owing)
      t ⟨flagged, none_sending, q, here, still⟩
    exact ⟨r, Nat.le_trans later reached, cleaning⟩

end Executions

/-- Once a call has returned, it stays so, and nobody is left to create a session. -/
private theorem sessions_step (quiet : Quiet g) (returned : .returned ∈ g.closes)
    (taken : g.step l = some h) : .returned ∈ h.closes ∧ h.sessions = g.sessions := by
  cases l with
  | upgrade =>
    simp only [step, Option.some.injEq] at taken
    split at taken <;> exact taken ▸ ⟨returned, rfl⟩
  | serve j m =>
    obtain ⟨a, b, here, moved, rfl⟩ := step_serve taken
    -- A session is created by a task that runs, and none does.
    have idle := quiet returned a (Pool.mem_of_read here)
    cases Serve.moves_of_next moved with
    | start => exact ⟨returned, rfl⟩
    | notifyWaiters => exact ⟨List.mem_map.mpr ⟨_, returned, rfl⟩, rfl⟩
    | _ => cases idle
  | close reason =>
    simp only [step, Option.some.injEq] at taken
    exact taken ▸ ⟨List.mem_append_left _ returned, rfl⟩
  | closing k m =>
    obtain ⟨c, d, here, moved, rfl⟩ := step_closing taken
    rw [closeEffect_closes]
    have moves := Close.moves_of_next moved
    refine ⟨Pool.mem_set_of_ne here returned ?_, ?_⟩
    · rintro rfl
      cases moves
    · cases moves with
      | send reason =>
        simp only [closeEffect, send]
        split <;> rfl
      | _ => rfl

theorem sessions_fixed (reached : system.Reaches Unmissed g) (returned : .returned ∈ g.closes)
    (run : system.Leads Unmissed g h) : h.sessions = g.sessions := by
  have both : .returned ∈ h.closes ∧ h.sessions = g.sessions ∧ system.Reaches Unmissed h := by
    induction run with
    | here => exact ⟨returned, rfl, reached⟩
    | step l _ meets taken ih =>
      obtain ⟨returned, same, reached⟩ := ih
      have kept := sessions_step (quiet_of_inv (inv_reaches reached)) returned taken
      exact ⟨kept.1, kept.2.trans same, .step l reached meets taken⟩
  exact both.2.1

/-- Shutdown is complete in the runs whose steps all meet the condition. -/
structure Complete (C : GatewayState → Label → Prop) : Prop where
  /-- No task sits in its select loop with no signal left to receive. -/
  signalled : ∀ g, system.Reaches C g → g.Signalled
  /-- Under a fair scheduler, a task that creates a session reaches its cleanup. -/
  cleaned : ∀ e : system.Execution C, (∀ i, e.WeaklyFair (progress i)) →
    (∀ k, e.WeaklyFair (sends k)) → ∀ n m i, (e.state n).serves[i]? = some .created →
      (e.state m).shuttingDown = true → ∃ r, n ≤ r ∧ Cleaning i (e.state r)
  /-- No task runs when `close` returns. -/
  quiet : ∀ g, system.Reaches C g → g.Quiet
  /-- No session is created afterwards. -/
  final : ∀ g h, system.Reaches C g → .returned ∈ g.closes → system.Leads C g h →
    h.sessions = g.sessions

theorem close_complete {C : GatewayState → Label → Prop}
    (unmissed : ∀ g l, C g l → Unmissed g l) : Complete C where
  signalled _ reached := signalled_of_inv (inv_reaches (reached.mono unmissed))
  cleaned e progresses fair _ _ _ found flag :=
    eventually_cleaned (e.mono unmissed) progresses fair found rfl flag
  quiet _ reached := quiet_of_inv (inv_reaches (reached.mono unmissed))
  final _ _ reached returned run :=
    sessions_fixed (reached.mono unmissed) returned (System.Leads.mono unmissed run)

/-- One task is told to stop while its hook runs, one `close` waits for it. -/
def stopped : List Label :=
  [.upgrade, .serve 0 .start, .serve 0 .createOk, .serve 0 .subscribe, .serve 0 .borrow,
    .close "shutdown", .closing 0 .swap, .closing 0 .send, .closing 0 .enable, .closing 0 .load,
    .serve 0 .hookOk, .serve 0 .readyOk, .serve 0 .changed, .serve 0 .cleaned, .serve 0 .fetchSub,
    .serve 0 .notifyWaiters, .closing 0 .wake, .closing 0 .enable, .closing 0 .load,
    .closing 0 .disconnected]

private def rest : GatewayState :=
  ⟨true, some "shutdown", 1, 0, [.finished], [.returned], 1⟩

private theorem stopped_rest : system.run .initial stopped = some rest := by decide

private theorem rest_quiet (A : Label → Prop)
    (only : ∀ l, A l → (∃ i m, l = .serve i m) ∨ ∃ k, l = .closing k .send) :
    ¬system.Enabled A rest := by
  rintro ⟨l, chosen, enabled⟩
  rcases only l chosen with ⟨i, m, rfl⟩ | ⟨k, rfl⟩
  · rcases i with _ | i
    · cases m <;> cases enabled
    · cases enabled
  · rcases k with _ | k <;> cases enabled

theorem close_complete_stopped :
    (∃ g, system.run .initial stopped = some g ∧ .returned ∈ g.closes ∧ g.Signalled ∧ g.Quiet) ∧
    ∃ e : system.Execution Unmissed, ∃ r, 3 ≤ r ∧ Cleaning 0 (e.state r) := by
  have meets : system.Meets Unmissed .initial stopped := by decide
  have reached : system.Reaches Unmissed rest := System.leads_of_run stopped meets stopped_rest
  have complete := close_complete (C := Unmissed) fun _ _ => id
  refine ⟨⟨rest, stopped_rest, by decide, complete.signalled _ reached,
    complete.quiet _ reached⟩, .ofRun stopped meets stopped_rest, ?_⟩
  refine complete.cleaned _ (fun i => ?_) (fun k => ?_) 3 10 0 rfl rfl
  · refine System.Execution.ofRun_fair _ _ _ (rest_quiet _ fun l chosen => ?_)
    cases l with
    | serve j m => exact .inl ⟨j, m, rfl⟩
    | _ => cases chosen
  · exact System.Execution.ofRun_fair _ _ _ (rest_quiet _ fun l chosen => .inr ⟨k, chosen⟩)

/-- `close` sends while the only task still awaits its session, so nobody receives. -/
def lostSignal : List Label :=
  [.upgrade, .serve 0 .start, .close "shutdown", .closing 0 .swap, .closing 0 .send,
    .serve 0 .createOk, .serve 0 .subscribe, .serve 0 .borrow, .serve 0 .hookOk,
    .serve 0 .readyOk]

/-- `close` returns before the deferred task of an accepted upgrade has run. -/
def lateStart : List Label :=
  [.upgrade, .close "shutdown", .closing 0 .swap, .closing 0 .send, .closing 0 .enable,
    .closing 0 .load, .closing 0 .disconnected, .serve 0 .start]

theorem close_incomplete :
    (∃ g, system.run .initial lostSignal = some g ∧ ¬g.Signalled) ∧
    (∃ g, system.run .initial lateStart = some g ∧ ¬g.Quiet) ∧ ¬Complete always := by
  have lost : ∃ g, system.run .initial lostSignal = some g ∧ ¬g.Signalled := by
    refine ⟨⟨true, none, 0, 1, [.selecting 0], [.looping], 1⟩, by decide, fun signalled => ?_⟩
    -- The call is past its send, and nothing was stored.
    rcases signalled rfl 0 0 rfl with ⟨c, present, sending⟩ | ⟨_, stored⟩
    · rw [List.mem_singleton] at present
      subst present
      cases sending
    · cases stored
  refine ⟨lost, ⟨_, rfl, by decide⟩, fun complete => ?_⟩
  obtain ⟨g, ran, silent⟩ := lost
  exact silent (complete.signalled g (System.reaches_of_run _ ran))

end GatewayState

end VoxRtc.Rust.Gateway
