import VoxRtc.Rust.Session.Supervision
import VoxRtc.Time.Duration

/-!
# The reconnect delays of the Rust client

What each supervisor task of `spawn_reconnect_supervisor` in `rust/rtcserver/src/socket.rs`
sleeps between its attempts, on top of the supervision of the client: the calls and the
tasks move as they do there, and a step of a task also moves its `delay`.
-/
namespace VoxRtc.Rust.Session

open Transition Time

def initialReconnectDelay : Duration := .fromMillis 200

def nextReconnectDelay (current max : Duration) : Except Panic Duration := do
  let doubled ← current.saturatingMul 2
  return if max < doubled then max else doubled

/-- The delays of one task. -/
structure Backoff where
  delay : Duration
  /-- What it has slept in its last outage, oldest first. -/
  slept : List Duration
  panicked : Option Panic
  deriving DecidableEq

namespace Backoff

def fresh : Backoff := ⟨initialReconnectDelay, [], none⟩

/-- A step of the task that has taken it to `place`. -/
def next (max : Duration) (b : Backoff) (l : TaskStep) (place : Place) : Backoff :=
  match l, place with
  | .update _, .checking => { b with delay := initialReconnectDelay, slept := [] }
  | .check _, .sleeping => { b with slept := b.slept ++ [b.delay] }
  | .connected _, .checking =>
    match nextReconnectDelay b.delay max with
    | .ok delay => { b with delay := delay }
    | .error panic => { b with panicked := some panic }
  | _, _ => b

end Backoff

structure ReconnectingClient where
  client : RawSocketClient
  backoffs : Nat → Backoff

namespace ReconnectingClient

def initial : ReconnectingClient := ⟨.initial, fun _ => .fresh⟩

/-- A task that panics has finished. -/
def settle (client : RawSocketClient) (i : Nat) (t : Supervisor) (b : Backoff) : RawSocketClient :=
  if b.panicked.isSome then { client with tasks := client.tasks.set i (t.goTo .finished) }
  else client

def step (max : Duration) (s : ReconnectingClient) (l : ClientStep) :
    Option ReconnectingClient := do
  let client ← s.client.step l
  match l with
  | .task i m =>
    let t ← client.tasks[i]?
    let b := (s.backoffs i).next max m t.place
    return ⟨settle client i t b, Function.update s.backoffs i b⟩
  | _ => return { s with client := client }

end ReconnectingClient

def reconnection (max : Duration) : System ReconnectingClient ClientStep :=
  ⟨.initial, ReconnectingClient.step max⟩

/-- What is promised of the delays of one outage. -/
structure Backoff.Respects (max : Duration) (b : Backoff) : Prop where
  bounded : ∀ d ∈ b.slept, d ≤ max
  rising : b.slept.Pairwise (· ≤ ·)
  doubles : ∃ doubled, b.delay.saturatingMul 2 = .ok doubled ∧
    doubled.toNanos = min (b.delay.toNanos * 2) Duration.max.toNanos
  calm : b.panicked = none

/-- In every run, every supervisor's delays respect the configured maximum. -/
def DelaysRespected (max : Duration) : Prop :=
  ∀ s, (reconnection max).Reaches always s → ∀ i, (s.backoffs i).Respects max

section Delays

variable {max delay : Duration}

/-- The next delay is the doubled one or the maximum, whichever is shorter. -/
theorem nextReconnectDelay_spec (current max : Duration) :
    ∃ delay, nextReconnectDelay current max = .ok delay ∧
      delay.toNanos = min (min (current.toNanos * 2) Duration.max.toNanos) max.toNanos := by
  obtain ⟨doubled, multiplied, value⟩ := Duration.saturatingMul_spec current 2
  rw [show (2 : UInt32).toNat = 2 from rfl] at value
  simp only [nextReconnectDelay, multiplied, bind, Except.bind, pure, Except.pure]
  refine ⟨_, rfl, ?_⟩
  rw [← value]
  -- The comparison of durations is that of their nanoseconds.
  split
  next longer =>
    have above := Duration.lt_iff.mp longer
    omega
  next shorter =>
    have below := Duration.le_iff.mp (Duration.not_lt.mp shorter)
    omega

/-- Capped, and no shorter than a delay that was within the cap. -/
theorem nextReconnectDelay_ok {next : Duration} (found : nextReconnectDelay delay max = .ok next) :
    next ≤ max ∧ (delay ≤ max → delay ≤ next) := by
  obtain ⟨_, same, value⟩ := nextReconnectDelay_spec delay max
  rw [found] at same
  cases same
  have longest := Duration.le_iff.mp (Duration.le_max delay)
  simp only [Duration.le_iff]
  omega

theorem nextReconnectDelay_calm {panic : Panic} :
    nextReconnectDelay delay max ≠ .error panic := by
  obtain ⟨_, found, _⟩ := nextReconnectDelay_spec delay max
  rw [found]
  simp

end Delays

namespace Backoff

variable {max : Duration} {b : Backoff}

/-- What every step of a task keeps, under every maximum. -/
structure Sound (max : Duration) (b : Backoff) : Prop where
  calm : b.panicked = none
  capped : initialReconnectDelay ≤ max → b.delay ≤ max
  slept : initialReconnectDelay ≤ max → ∀ d ∈ b.slept, d ≤ b.delay
  rising : initialReconnectDelay ≤ max → b.slept.Pairwise (· ≤ ·)

theorem sound_fresh : fresh.Sound max := by
  constructor
  · rfl
  · exact fun enough => enough
  · intro _ d absurd
    cases absurd
  · exact fun _ => .nil

theorem sound_next (sound : b.Sound max) (l : TaskStep) (place : Place) :
    (b.next max l place).Sound max := by
  unfold next
  split
  next =>
    -- A new outage starts over.
    constructor
    · exact sound.calm
    · exact fun enough => enough
    · intro _ d absurd
      cases absurd
    · exact fun _ => .nil
  next =>
    constructor
    · exact sound.calm
    · exact sound.capped
    -- The task sleeps its delay, and each delay before was no longer.
    · intro enough d member
      rcases List.mem_append.mp member with old | new
      · exact sound.slept enough d old
      · rw [List.mem_singleton.mp new]
        exact Duration.le_refl _
    · intro enough
      refine List.pairwise_append.mpr ⟨sound.rising enough, List.pairwise_singleton _ _, ?_⟩
      intro d old e new
      rw [List.mem_singleton.mp new]
      exact sound.slept enough d old
  next =>
    split
    -- A failed attempt: the delay grows, up to the maximum.
    next delay found =>
      obtain ⟨capped, longer⟩ := nextReconnectDelay_ok found
      constructor
      · exact sound.calm
      · exact fun _ => capped
      · intro enough d member
        exact Duration.le_trans (sound.slept enough d member) (longer (sound.capped enough))
      · exact sound.rising
    -- The multiplication saturates.
    next panic found => exact absurd found nextReconnectDelay_calm
  next => exact sound

/-- Doubling is no danger to any delay. -/
theorem Sound.respects (sound : b.Sound max) (enough : initialReconnectDelay ≤ max) :
    b.Respects max := by
  constructor
  · intro d member
    exact Duration.le_trans (sound.slept enough d member) (sound.capped enough)
  · exact sound.rising enough
  · exact Duration.saturatingMul_spec b.delay 2
  · exact sound.calm

end Backoff

namespace ReconnectingClient

variable {max : Duration} {s s' : ReconnectingClient} {l : ClientStep}

theorem step_task {i : Nat} {m : TaskStep} (taken : s.step max (.task i m) = some s') :
    ∃ client t, s.client.step (.task i m) = some client ∧
      s' = ⟨settle client i t ((s.backoffs i).next max m t.place),
        Function.update s.backoffs i ((s.backoffs i).next max m t.place)⟩ := by
  simp only [step, Option.bind_eq_bind, Option.bind_eq_some_iff, Option.pure_def,
    Option.some.injEq] at taken
  obtain ⟨client, moved, t, _, rfl⟩ := taken
  exact ⟨client, t, moved, rfl⟩

theorem step_call (calls : ∀ i m, l ≠ .task i m) (taken : s.step max l = some s') :
    ∃ client, s.client.step l = some client ∧ s' = { s with client := client } := by
  simp only [step, Option.bind_eq_bind, Option.bind_eq_some_iff] at taken
  obtain ⟨client, moved, rest⟩ := taken
  refine ⟨client, moved, ?_⟩
  cases l with
  | task i m => exact absurd rfl (calls i m)
  | _ => exact (Option.some.inj rest).symm

theorem sound_step (sound : ∀ i, (s.backoffs i).Sound max) (taken : s.step max l = some s') :
    ∀ i, (s'.backoffs i).Sound max := by
  cases l with
  | task i m =>
    obtain ⟨client, t, _, rfl⟩ := step_task taken
    intro j
    by_cases same : j = i
    · subst same
      simp only [Function.update_self]
      exact Backoff.sound_next (sound j) m t.place
    · simp only [Function.update_of_ne same]
      exact sound j
  | _ =>
    obtain ⟨client, _, rfl⟩ := step_call (by simp) taken
    exact sound

theorem sound {C : ReconnectingClient → ClientStep → Prop}
    (reached : (reconnection max).Reaches C s) : ∀ i, (s.backoffs i).Sound max :=
  System.Reaches.preserves (P := fun s => ∀ i, (s.backoffs i).Sound max)
    (fun _ => Backoff.sound_fresh) (fun _ _ _ sound _ taken => sound_step sound taken) reached

/-- The delays take no part in the supervision: nothing panics. -/
theorem supervised (sound : ∀ i, (s.backoffs i).Sound max) (taken : s.step max l = some s') :
    s.client.step l = some s'.client := by
  cases l with
  | task i m =>
    obtain ⟨client, t, moved, rfl⟩ := step_task taken
    -- Without a panic the task is where the supervision has it.
    have calm := (Backoff.sound_next (sound i) m t.place).calm
    rw [moved, settle, calm]
    rfl
  | _ =>
    obtain ⟨client, moved, rfl⟩ := step_call (by simp) taken
    exact moved

/-- The client with its delays refines the supervision. -/
theorem refines (reached : (reconnection max).Reaches always s) :
    supervision.Reaches always s.client := by
  induction reached with
  | here => exact .here
  | step l earlier _ taken ih => exact .step l ih trivial (supervised (sound earlier) taken)

end ReconnectingClient

/-- A client whose connection is lost: its supervisor sleeps before the first attempt. -/
def outage : List ClientStep :=
  [.connect, .ensure 0, .connected 0, .task 0 .changed, .task 0 .load, .task 0 (.update true),
    .task 0 (.check true)]

theorem outage_slept (max : Duration) : ∃ s, (reconnection max).run .initial outage = some s ∧
    (s.backoffs 0).slept = [initialReconnectDelay] :=
  ⟨_, rfl, rfl⟩

/-- The first delay of an outage is not capped, and that is all there is to it. -/
theorem delays_respected_iff (max : Duration) :
    DelaysRespected max ↔ initialReconnectDelay ≤ max := by
  constructor
  -- The first sleep is the initial delay, whatever the maximum.
  · intro respected
    obtain ⟨s, ran, slept⟩ := outage_slept max
    have reached := System.reaches_of_run (M := reconnection max) outage ran
    apply (respected s reached 0).bounded
    rw [slept]
    exact List.mem_singleton_self _
  · intro enough s reached i
    exact (ReconnectingClient.sound reached i).respects enough

/-- A second sleep, after a failed attempt, under a maximum of 50 ms. -/
theorem delays_fall :
    (∃ s, (reconnection (.fromMillis 50)).run .initial (outage ++ [.task 0 .slept, .task 0 .reload,
        .task 0 (.connected false), .task 0 (.check true)]) = some s ∧
      (s.backoffs 0).slept = [.fromMillis 200, .fromMillis 50]) ∧
    ¬DelaysRespected (.fromMillis 50) := by
  refine ⟨⟨_, rfl, by decide⟩, fun respected => ?_⟩
  obtain ⟨s, ran, slept⟩ := outage_slept (.fromMillis 50)
  have reached := System.reaches_of_run (M := reconnection (.fromMillis 50)) outage ran
  have bounded := (respected s reached 0).bounded initialReconnectDelay (by rw [slept]; simp)
  revert bounded
  decide

end VoxRtc.Rust.Session
