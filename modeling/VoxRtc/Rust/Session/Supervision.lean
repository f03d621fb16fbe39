import VoxRtc.Transition.Pool
import VoxRtc.Transition.Runs

/-!
# The reconnect supervisor of the Rust client

`connect` and `disconnect` of `RawSocketClient` in `rust/rtcserver/src/socket.rs`, called
on clones of one client, and the tasks that `ensure_supervisor` spawns. A step is an access
of `active`, a section under the lock of the slot, or one await. What the underlying client
reports is left open.
-/
namespace VoxRtc.Rust.Session

open Transition

/-- Where a supervisor task stands. It is at an await when `waiting` for a change of state,
`sleeping`, or `connecting`. -/
inductive Place where
  | waiting
  | woken
  | updating
  | checking
  | sleeping
  | slept
  | connecting
  | ending
  | finished
  deriving DecidableEq, Repr

namespace Place

def awaits : Place → Bool
  | waiting | sleeping | connecting => true
  | _ => false

/-- In the middle of a reconnect attempt. -/
def attempts : Place → Bool
  | sleeping | slept | connecting => true
  | _ => false

end Place

structure Supervisor where
  place : Place
  aborted : Bool
  deriving DecidableEq, Repr

inductive TaskStep where
  | changed
  | load
  | update (disconnected : Bool)
  | check (disconnected : Bool)
  | slept
  | reload
  | connected (ok : Bool)
  | finish
  | cancel
  deriving DecidableEq, Repr

namespace Supervisor

def goTo (t : Supervisor) (place : Place) : Supervisor := { t with place := place }

/-- An await returns, unless the task has been aborted. -/
def resume (t : Supervisor) (place : Place) : Option Supervisor :=
  if t.aborted then none else some (t.goTo place)

/-- `spawn_reconnect_supervisor`; `disconnected` is what the client's state says. -/
def next (active : Bool) (t : Supervisor) (l : TaskStep) : Option Supervisor :=
  match l, t.place with
  | .changed, .waiting => t.resume .woken
  | .load, .woken => some (t.goTo (if active then .updating else .ending))
  | .update disconnected, .updating => some (t.goTo (if disconnected then .checking else .waiting))
  -- The state is read anew in each round of `while`.
  | .check disconnected, .checking =>
    some (t.goTo (if active && disconnected then .sleeping else .waiting))
  | .slept, .sleeping => t.resume .slept
  | .reload, .slept => some (t.goTo (if active then .connecting else .waiting))
  | .connected ok, .connecting => t.resume (if ok then .waiting else .checking)
  | .finish, .ending => some (t.goTo .finished)
  -- `abort` takes effect at an await only.
  | .cancel, place => if t.aborted && place.awaits then some (t.goTo .finished) else none
  | _, _ => none

def live (t : Supervisor) : Bool := t.place != .finished && !t.aborted

end Supervisor

inductive Connect where
  | ensuring
  | connecting
  | returned
  deriving DecidableEq, Repr

inductive Disconnect where
  | aborting
  | disconnecting
  | returned
  deriving DecidableEq, Repr

structure RawSocketClient where
  active : Bool
  /-- The task whose handle is in the slot. -/
  slot : Option Nat
  tasks : List Supervisor
  connects : List Connect
  disconnects : List Disconnect
  deriving DecidableEq, Repr

inductive ClientStep where
  | connect
  | ensure (k : Nat)
  | connected (k : Nat)
  | disconnect
  | abort (k : Nat)
  | disconnected (k : Nat)
  | task (i : Nat) (l : TaskStep)
  deriving DecidableEq, Repr

namespace RawSocketClient

def initial : RawSocketClient := ⟨false, none, [], [], []⟩

/-- The task of the handle in the slot. -/
def held (s : RawSocketClient) : Option Supervisor := s.slot.bind fun i => s.tasks[i]?

/-- `ensure_supervisor`. -/
def ensureSupervisor (s : RawSocketClient) : RawSocketClient :=
  -- A task that is about to end still counts as one that runs.
  if s.held.any (·.place != .finished) then s
  else { s with slot := some s.tasks.length, tasks := s.tasks ++ [⟨.waiting, false⟩] }

/-- `ReconnectSupervisor::abort`. -/
def abortSupervisor (s : RawSocketClient) : RawSocketClient :=
  match s.slot, s.held with
  | some i, some t => { s with slot := none, tasks := s.tasks.set i { t with aborted := true } }
  | _, _ => { s with slot := none }

def step (s : RawSocketClient) : ClientStep → Option RawSocketClient
  | .connect => some { s with active := true, connects := s.connects ++ [.ensuring] }
  | .ensure k =>
    if s.connects[k]? = some .ensuring then
      some { s.ensureSupervisor with connects := s.connects.set k .connecting }
    else none
  | .connected k =>
    if s.connects[k]? = some .connecting then
      some { s with connects := s.connects.set k .returned }
    else none
  | .disconnect => some { s with active := false, disconnects := s.disconnects ++ [.aborting] }
  | .abort k =>
    if s.disconnects[k]? = some .aborting then
      some { s.abortSupervisor with disconnects := s.disconnects.set k .disconnecting }
    else none
  | .disconnected k =>
    if s.disconnects[k]? = some .disconnecting then
      some { s with disconnects := s.disconnects.set k .returned }
    else none
  | .task i l => do
    let t ← s.tasks[i]?
    let t' ← t.next s.active l
    return { s with tasks := s.tasks.set i t' }

end RawSocketClient

def supervision : System RawSocketClient ClientStep := ⟨.initial, RawSocketClient.step⟩

namespace RawSocketClient

/-- No call is in progress, and every supervisor is at an await or has finished. -/
structure Quiescent (s : RawSocketClient) : Prop where
  connects : ∀ c ∈ s.connects, c = .returned
  disconnects : ∀ d ∈ s.disconnects, d = .returned
  tasks : ∀ t ∈ s.tasks, t.place.awaits = true ∨ t.place = .finished

/-- An active client is supervised, an inactive one does not reconnect. -/
structure Consistent (s : RawSocketClient) : Prop where
  supervised : s.active = true → ∃ t ∈ s.held, t.live = true
  idle : s.active = false → ∀ t ∈ s.tasks, t.live = true → t.place.attempts = false

/-- The calls that have set `active` and not looked at the slot yet. -/
def ensuring (s : RawSocketClient) : Nat := s.connects.countP (· = .ensuring)

/-- An `abort` comes before the last `connect` that has set `active` looks at the slot, and
this `connect` finds no task there that has seen `active` unset. -/
def Orderly (s : RawSocketClient) : ClientStep → Prop
  | .abort _ => s.active = true → 0 < s.ensuring
  | .ensure _ => s.active = true → s.ensuring = 1 → ∀ t ∈ s.held, t.place ≠ .ending
  | _ => True

instance (s : RawSocketClient) : (l : ClientStep) → Decidable (s.Orderly l)
  | .abort _ => inferInstanceAs (Decidable (_ → _))
  | .ensure _ => inferInstanceAs (Decidable (_ → _ → ∀ t ∈ s.held, t.place ≠ .ending))
  | .connect | .connected _ | .disconnect | .disconnected _ | .task _ _ =>
    inferInstanceAs (Decidable True)

end RawSocketClient

/-- In all runs whose steps meet the condition, supervision is consistent at rest. -/
def SupervisionConsistent (C : RawSocketClient → ClientStep → Prop) : Prop :=
  ∀ s, supervision.Reaches C s → s.Quiescent → s.Consistent

namespace Supervisor

variable {active : Bool} {t t' : Supervisor} {l : TaskStep}

theorem resume_eq {place : Place} (taken : t.resume place = some t') :
    t.aborted = false ∧ t' = t.goTo place := by
  unfold resume at taken
  split at taken
  · cases taken
  next resumes =>
    cases taken
    exact ⟨by simpa using resumes, rfl⟩

/-- Every move of a task, with what it has read of `active`. -/
inductive Moves (active : Bool) (t : Supervisor) : Place → Prop
  | changed (here : t.place = .waiting) : Moves active t .woken
  | active (here : t.place = .woken) (set : active = true) : Moves active t .updating
  | inactive (here : t.place = .woken) (unset : active = false) : Moves active t .ending
  | check (here : t.place = .updating ∨ t.place = .connecting) : Moves active t .checking
  | sleep (here : t.place = .checking) (set : active = true) : Moves active t .sleeping
  | slept (here : t.place = .sleeping) : Moves active t .slept
  | connect (here : t.place = .slept) (set : active = true) : Moves active t .connecting
  | wait (here : t.place ≠ .finished ∧ t.place ≠ .ending) : Moves active t .waiting
  | finish (here : t.place = .ending) : Moves active t .finished
  | cancel (gone : t.aborted = true) (here : t.place ≠ .finished) : Moves active t .finished

theorem moves_of_next (taken : t.next active l = some t') :
    Moves active t t'.place ∧ t'.aborted = t.aborted := by
  unfold next at taken
  split at taken
  next here =>
    obtain ⟨_, rfl⟩ := resume_eq taken
    exact ⟨.changed here, rfl⟩
  next here =>
    cases taken
    refine ⟨?_, rfl⟩
    cases set : active with
    | true => exact .active here rfl
    | false => exact .inactive here rfl
  -- `loop` and `while`: a task waits for a change, or stays in an outage.
  next disconnected here =>
    cases taken
    refine ⟨?_, rfl⟩
    cases disconnected with
    | true => exact .check (.inl here)
    | false => exact .wait (by simp [here])
  next disconnected here =>
    cases taken
    refine ⟨?_, rfl⟩
    by_cases both : (active && disconnected) = true
    · rw [if_pos both]
      exact .sleep here (by simp_all)
    · rw [if_neg both]
      exact .wait (by simp [here])
  next here =>
    obtain ⟨_, rfl⟩ := resume_eq taken
    exact ⟨.slept here, rfl⟩
  next here =>
    cases taken
    refine ⟨?_, rfl⟩
    cases set : active with
    | true => exact .connect here rfl
    | false => exact .wait (by simp [here])
  next ok here =>
    obtain ⟨_, rfl⟩ := resume_eq taken
    refine ⟨?_, rfl⟩
    cases ok with
    | true => exact .wait (by simp [here])
    | false => exact .check (.inr here)
  next here =>
    cases taken
    exact ⟨.finish here, rfl⟩
  -- A task that was aborted is cancelled where it awaits.
  next place here =>
    simp only [Option.ite_none_right_eq_some, Bool.and_eq_true, Option.some.injEq] at taken
    obtain ⟨⟨gone, awaits⟩, rfl⟩ := taken
    refine ⟨.cancel gone fun finished => ?_, rfl⟩
    rw [finished] at awaits
    cases awaits
  next => cases taken

/-- Nobody comes back to life. -/
theorem live_of_next (taken : t.next active l = some t') (live : t'.live = true) :
    t.live = true := by
  obtain ⟨moves, same⟩ := moves_of_next taken
  simp only [Supervisor.live, bne_iff_ne, Bool.and_eq_true, Bool.not_eq_true', same] at live ⊢
  refine ⟨fun finished => ?_, live.2⟩
  generalize t'.place = place at moves live
  cases moves <;> simp_all

/-- An attempt begins while `active` is set. -/
theorem attempts_of_next (taken : t.next active l = some t') (unset : active = false)
    (attempts : t'.place.attempts = true) : t.place.attempts = true := by
  obtain ⟨moves, _⟩ := moves_of_next taken
  generalize t'.place = place at moves attempts
  -- An attempt goes on by `slept` only; to begin one the task has read `active`.
  cases moves with
  | sleep _ set | connect _ set =>
    rw [unset] at set
    cases set
  | slept here =>
    rw [here]
    rfl
  | _ => cases attempts

/-- A task that is not about to end stays so while `active` is set. -/
theorem stays_of_next (taken : t.next active l = some t') (set : active = true)
    (live : t.live = true) (stays : t.place ≠ .ending) :
    t'.live = true ∧ t'.place ≠ .ending := by
  obtain ⟨moves, same⟩ := moves_of_next taken
  simp only [Supervisor.live, bne_iff_ne, Bool.and_eq_true, Bool.not_eq_true', same] at live ⊢
  generalize t'.place = place at moves
  cases moves <;> simp_all

end Supervisor

namespace RawSocketClient

variable {s s' : RawSocketClient} {l : ClientStep}

/-- What holds at all times: the slot holds the only task that may be live, and while
`active` is unset no attempt goes on, unless the `abort` is still to come. -/
structure Inv (s : RawSocketClient) : Prop where
  only : ∀ i t, s.tasks[i]? = some t → t.live = true → s.slot = some i
  held : ∀ i ∈ s.slot, ∃ t, s.tasks[i]? = some t ∧ t.aborted = false
  idle : s.active = false → .aborting ∉ s.disconnects →
    ∀ t ∈ s.tasks, t.live = true → t.place.attempts = false

/-- The client is supervised for good, unless a `connect` still has to look at the slot. -/
def Steady (s : RawSocketClient) : Prop :=
  s.active = true → s.ensuring = 0 → ∃ t ∈ s.held, t.live = true ∧ t.place ≠ .ending

theorem inv_initial : Inv initial := by
  constructor
  · intro i t here
    cases here
  · intro i here
    cases here
  · intro _ _ t member
    cases member

theorem held_eq {i : Nat} {t : Supervisor} (slot : s.slot = some i) (here : s.tasks[i]? = some t) :
    s.held = some t := by
  rw [held, slot]
  exact here

/-- The slot is left alone, or a new task is put in the place of one that has finished. -/
theorem ensureSupervisor_cases (s : RawSocketClient) :
    (s.ensureSupervisor = s ∧ ∃ t ∈ s.held, t.place ≠ .finished) ∨
      s.ensureSupervisor =
        { s with slot := some s.tasks.length, tasks := s.tasks ++ [⟨.waiting, false⟩] } ∧
      ∀ t ∈ s.held, t.place = .finished := by
  unfold ensureSupervisor
  split
  -- `is_finished` is false of the task in the slot.
  next running =>
    cases here : s.held with
    | none =>
      rw [here] at running
      cases running
    | some t =>
      rw [here] at running
      exact .inl ⟨rfl, t, rfl, by simpa using running⟩
  next ended =>
    refine .inr ⟨rfl, fun t here => ?_⟩
    rw [Option.mem_def.mp here] at ended
    simpa using ended

/-- Nobody is live where the slot holds no task that runs. -/
theorem Inv.nobody (inv : Inv s) (ended : ∀ t ∈ s.held, t.place = .finished) :
    ∀ t ∈ s.tasks, t.live = false := by
  intro t member
  by_contra live
  rw [Bool.not_eq_false] at live
  obtain ⟨i, here⟩ := List.mem_iff_getElem?.mp member
  -- A live task would be the one in the slot, which has finished.
  have slot := inv.only i t here live
  have finished := ended t (held_eq slot here)
  simp [Supervisor.live, finished] at live

theorem inv_ensure (inv : Inv s) : Inv s.ensureSupervisor := by
  rcases ensureSupervisor_cases s with ⟨same, _⟩ | ⟨spawned, ended⟩
  · rw [same]
    exact inv
  · have nobody := inv.nobody ended
    rw [spawned]
    constructor
    · intro i t here live
      -- All earlier tasks are dead, so that only the new one may be live.
      rcases Pool.read_append here with old | ⟨rfl, _⟩
      · have dead := nobody t (Pool.mem_of_read old)
        rw [dead] at live
        cases live
      · rfl
    · intro i here
      cases here
      exact ⟨⟨.waiting, false⟩, by simp, rfl⟩
    · intro unset none t member live
      rcases List.mem_append.mp member with old | new
      · exact inv.idle unset none t old live
      · rw [List.mem_singleton.mp new]
        rfl

/-- After `abort` no task is live. -/
theorem abort_dead (inv : Inv s) : ∀ t ∈ s.abortSupervisor.tasks, t.live = false := by
  intro t member
  by_contra live
  rw [Bool.not_eq_false] at live
  obtain ⟨i, here⟩ := List.mem_iff_getElem?.mp member
  unfold abortSupervisor at here
  split at here
  next j u slot held =>
    -- Whoever is live is the one in the slot, and this one has been aborted.
    rcases Pool.read_set here with ⟨_, rfl⟩ | ⟨other, old⟩
    · simp [Supervisor.live] at live
    · have own := inv.only i t old live
      rw [slot] at own
      cases own
      exact other rfl
  next none =>
    have slot := inv.only i t here live
    exact none i t slot (held_eq slot here)

@[simp] theorem abort_slot : s.abortSupervisor.slot = none := by
  unfold abortSupervisor
  split <;> rfl

@[simp] theorem abort_active : s.abortSupervisor.active = s.active := by
  unfold abortSupervisor
  split <;> rfl

@[simp] theorem abort_connects : s.abortSupervisor.connects = s.connects := by
  unfold abortSupervisor
  split <;> rfl

@[simp] theorem ensure_active : s.ensureSupervisor.active = s.active := by
  unfold ensureSupervisor
  split <;> rfl

@[simp] theorem ensure_disconnects : s.ensureSupervisor.disconnects = s.disconnects := by
  unfold ensureSupervisor
  split <;> rfl

/-- The counting of calls is nobody else's business. -/
theorem Inv.move (inv : Inv s) (slot : s'.slot = s.slot) (tasks : s'.tasks = s.tasks)
    (idle : s'.active = false → .aborting ∉ s'.disconnects →
      s.active = false ∧ .aborting ∉ s.disconnects) : Inv s' := by
  constructor
  · intro i t here live
    rw [slot]
    exact inv.only i t (tasks ▸ here) live
  · intro i here
    rw [tasks]
    exact inv.held i (slot ▸ here)
  · intro unset none t member
    obtain ⟨unset', none'⟩ := idle unset none
    exact inv.idle unset' none' t (tasks ▸ member)

theorem step_task {i : Nat} {m : TaskStep} (taken : s.step (.task i m) = some s') : ∃ t t',
    s.tasks[i]? = some t ∧ t.next s.active m = some t' ∧
      s' = { s with tasks := s.tasks.set i t' } := by
  simp only [step, Option.bind_eq_bind, Option.bind_eq_some_iff, Option.pure_def,
    Option.some.injEq] at taken
  obtain ⟨t, here, t', moved, rfl⟩ := taken
  exact ⟨t, t', here, moved, rfl⟩

theorem inv_task {i : Nat} {m : TaskStep} (inv : Inv s) (taken : s.step (.task i m) = some s') :
    Inv s' := by
  obtain ⟨t, t', here, moved, rfl⟩ := step_task taken
  constructor
  · intro j u found live
    rcases Pool.read_set found with ⟨rfl, rfl⟩ | ⟨_, old⟩
    · exact inv.only j t here (Supervisor.live_of_next moved live)
    · exact inv.only j u old live
  · intro j slot
    obtain ⟨u, found, kept⟩ := inv.held j slot
    by_cases same : j = i
    · subst same
      rw [here] at found
      cases found
      exact ⟨t', Pool.read_set_self here, (Supervisor.moves_of_next moved).2.trans kept⟩
    · exact ⟨u, (Pool.read_set_other same).trans found, kept⟩
  · intro unset none
    refine Pool.forall_set (inv.idle unset none) fun live => ?_
    have before := inv.idle unset none t (Pool.mem_of_read here) (Supervisor.live_of_next moved live)
    by_contra attempts
    rw [Bool.not_eq_false] at attempts
    rw [Supervisor.attempts_of_next moved unset attempts] at before
    cases before

theorem inv_step (inv : Inv s) (taken : s.step l = some s') : Inv s' := by
  cases l with
  | connect =>
    cases taken
    exact inv.move rfl rfl fun absurd => (by cases absurd)
  | ensure k =>
    simp only [step, Option.ite_none_right_eq_some, Option.some.injEq] at taken
    obtain ⟨_, rfl⟩ := taken
    exact (inv_ensure inv).move rfl rfl fun unset none => ⟨unset, none⟩
  | connected k =>
    simp only [step, Option.ite_none_right_eq_some, Option.some.injEq] at taken
    obtain ⟨_, rfl⟩ := taken
    exact inv.move rfl rfl fun unset none => ⟨unset, none⟩
  | disconnect =>
    cases taken
    refine inv.move rfl rfl fun _ none => ?_
    exact absurd (List.mem_append_right _ (List.mem_singleton_self _)) none
  | abort k =>
    simp only [step, Option.ite_none_right_eq_some, Option.some.injEq] at taken
    obtain ⟨_, rfl⟩ := taken
    -- Every task is aborted here, so none is alive afterwards.
    have dead := abort_dead inv
    constructor
    · intro i t here live
      rw [dead t (Pool.mem_of_read here)] at live
      cases live
    · intro i absurd
      simp at absurd
    · intro _ _ t member live
      rw [dead t member] at live
      cases live
  | disconnected k =>
    simp only [step, Option.ite_none_right_eq_some, Option.some.injEq] at taken
    obtain ⟨here, rfl⟩ := taken
    refine inv.move rfl rfl fun unset none => ⟨unset, fun aborting => none ?_⟩
    exact Pool.mem_set_of_ne here aborting (by simp)
  | task i m => exact inv_task inv taken

theorem invariant {C : RawSocketClient → ClientStep → Prop} (reached : supervision.Reaches C s) :
    Inv s :=
  System.Reaches.preserves inv_initial (fun _ _ _ inv _ taken => inv_step inv taken) reached

/-- Calls that change their stage. -/
theorem ensuring_set {k : Nat} {c : Connect} (c' : Connect) (here : s.connects[k]? = some c) :
    (s.connects.set k c').countP (· = .ensuring) + (if c = .ensuring then 1 else 0) =
      s.ensuring + if c' = .ensuring then 1 else 0 := by
  have total := Pool.countP_set_add (b := c') (fun c => decide (c = Connect.ensuring)) here
  simpa [ensuring] using total

/-- Whoever holds the slot is the one that was there. -/
theorem Steady.move (steady : s.Steady) (active : s'.active = true → s.active = true)
    (ensuring : s'.ensuring = 0 → s.ensuring = 0) (held : s'.held = s.held) : s'.Steady := by
  intro set none
  rw [held]
  exact steady (active set) (ensuring none)

theorem steady_ensure {k : Nat} (inv : Inv s) (orderly : s.Orderly (.ensure k))
    (here : s.connects[k]? = some .ensuring) :
    Steady { s.ensureSupervisor with connects := s.connects.set k .connecting } := by
  intro set none
  have set' : s.active = true := by simpa using set
  have last : s.ensuring = 1 := by
    have total := ensuring_set .connecting here
    have none' : (s.connects.set k .connecting).countP (· = .ensuring) = 0 := none
    rw [none'] at total
    simpa using total.symm
  rcases ensureSupervisor_cases s with ⟨same, t, found, runs⟩ | ⟨spawned, _⟩
  · have awake := orderly set' last t found
    refine ⟨t, ?_, ?_, awake⟩
    · rw [same]
      exact found
    · -- The task in the slot has not been aborted.
      cases slot : s.slot with
      | none =>
        rw [held, slot] at found
        cases found
      | some i =>
        obtain ⟨u, at_, kept⟩ := inv.held i slot
        rw [held_eq slot at_] at found
        cases found
        simp [Supervisor.live, runs, kept]
  · refine ⟨⟨.waiting, false⟩, ?_, rfl, by simp⟩
    rw [spawned]
    simp [held]

theorem steady_task {i : Nat} {m : TaskStep} (steady : s.Steady)
    (taken : s.step (.task i m) = some s') : s'.Steady := by
  obtain ⟨t, t', here, moved, rfl⟩ := step_task taken
  intro set none
  obtain ⟨u, found, live, awake⟩ := steady set none
  obtain ⟨j, slot, at_⟩ := Option.bind_eq_some_iff.mp found
  by_cases same : j = i
  · subst same
    rw [here] at at_
    cases at_
    obtain ⟨live', awake'⟩ := Supervisor.stays_of_next moved set live awake
    exact ⟨t', held_eq slot (Pool.read_set_self here), live', awake'⟩
  · exact ⟨u, held_eq slot ((Pool.read_set_other same).trans at_), live, awake⟩

theorem steady_step (inv : Inv s) (steady : s.Steady) (orderly : s.Orderly l)
    (taken : s.step l = some s') : s'.Steady := by
  cases l with
  | connect =>
    cases taken
    intro _ none
    simp [ensuring] at none
  | ensure k =>
    simp only [step, Option.ite_none_right_eq_some, Option.some.injEq] at taken
    obtain ⟨here, rfl⟩ := taken
    exact steady_ensure inv orderly here
  | connected k =>
    simp only [step, Option.ite_none_right_eq_some, Option.some.injEq] at taken
    obtain ⟨here, rfl⟩ := taken
    refine steady.move id (fun none => ?_) rfl
    have total := ensuring_set .returned here
    have none' : (s.connects.set k .returned).countP (· = .ensuring) = 0 := none
    rw [none'] at total
    simpa using total.symm
  | disconnect =>
    cases taken
    intro absurd
    cases absurd
  | abort k =>
    simp only [step, Option.ite_none_right_eq_some, Option.some.injEq] at taken
    obtain ⟨_, rfl⟩ := taken
    intro set none
    have set' : s.active = true := by simpa using set
    -- A client that is active again has a call of `connect` under way.
    have pending := orderly set'
    have none' : s.ensuring = 0 := by simpa [ensuring] using none
    omega
  | disconnected k =>
    simp only [step, Option.ite_none_right_eq_some, Option.some.injEq] at taken
    obtain ⟨_, rfl⟩ := taken
    exact steady.move id id rfl
  | task i m => exact steady_task steady taken

theorem steady {C : RawSocketClient → ClientStep → Prop} (orderly : ∀ s l, C s l → s.Orderly l)
    (reached : supervision.Reaches C s) : s.Steady := by
  induction reached with
  | here =>
    intro absurd
    cases absurd
  | step l earlier meets taken ih =>
    exact steady_step (invariant earlier) ih (orderly _ l meets) taken

/-- At rest no call is pending. -/
theorem Quiescent.calls (quiescent : s.Quiescent) :
    s.ensuring = 0 ∧ .aborting ∉ s.disconnects := by
  constructor
  · rw [ensuring, List.countP_eq_zero]
    intro c member
    simp [quiescent.connects c member]
  · intro aborting
    cases quiescent.disconnects _ aborting

/-- An inactive client at rest does not reconnect, in whatever order the calls came. -/
theorem idle_at_rest {C : RawSocketClient → ClientStep → Prop}
    (reached : supervision.Reaches C s) (quiescent : s.Quiescent) (unset : s.active = false) :
    ∀ t ∈ s.tasks, t.live = true → t.place.attempts = false :=
  (invariant reached).idle unset quiescent.calls.2

end RawSocketClient

/-- Supervision is consistent as long as no `disconnect` aborts the task that a later
`connect` has found in the slot, and no `connect` relies on a task about to end. -/
theorem supervision_consistent {C : RawSocketClient → ClientStep → Prop}
    (orderly : ∀ s l, C s l → s.Orderly l) : SupervisionConsistent C := by
  intro s reached quiescent
  constructor
  · intro set
    have steady := RawSocketClient.steady orderly reached
    obtain ⟨t, found, live, _⟩ := steady set quiescent.calls.1
    exact ⟨t, found, live⟩
  · exact RawSocketClient.idle_at_rest reached quiescent

section Runs

/-- A `disconnect` on one clone and, once it has aborted the task, a `connect` on another. -/
def orderlyRun : List ClientStep :=
  [.connect, .ensure 0, .connected 0, .task 0 .changed, .task 0 .load, .task 0 (.update true),
    .task 0 (.check true), .disconnect, .abort 0, .connect, .task 0 .cancel, .ensure 1,
    .disconnected 0, .connected 1]

theorem supervision_consistent_run : ∃ s, supervision.run .initial orderlyRun = some s ∧
    s.Quiescent ∧ s.active = true ∧ s.Consistent := by
  refine ⟨_, rfl, ?_, rfl, ?_⟩
  · constructor <;> decide
  · have consistent : SupervisionConsistent RawSocketClient.Orderly :=
      supervision_consistent fun _ _ orderly => orderly
    have reached := System.leads_of_run (M := supervision) (C := RawSocketClient.Orderly)
      (s := supervision.init) orderlyRun (by decide) rfl
    exact consistent _ reached (by constructor <;> decide)

/-- The same calls, but the `connect` looks at the slot before the task is aborted. -/
def overlappingRun : List ClientStep :=
  [.connect, .ensure 0, .connected 0, .disconnect, .connect, .ensure 1, .abort 0, .task 0 .cancel,
    .disconnected 0, .connected 1]

theorem supervisor_missing :
    (∃ s, supervision.run .initial overlappingRun = some s ∧ s.Quiescent ∧ s.active = true ∧
      s.slot = none ∧ s.tasks = [⟨.finished, true⟩]) ∧ ¬SupervisionConsistent always := by
  refine ⟨⟨_, rfl, by constructor <;> decide, rfl, rfl, rfl⟩, fun consistent => ?_⟩
  have reached := System.reaches_of_run (M := supervision) overlappingRun rfl
  have at_rest := consistent _ reached (by constructor <;> decide)
  obtain ⟨t, found, _⟩ := at_rest.supervised rfl
  cases found

end Runs

end VoxRtc.Rust.Session
