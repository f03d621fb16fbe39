import VoxRtc.Python.Gateway.Lifecycle
import VoxRtc.Transition.Fairness

/-!
# The serve loop of the Python gateway

One `_serve` with the two tasks that race in every turn of its loop. As in `asyncio`, both
have run their first step before the loop wakes, a completed `events.get()` has taken its
item from the queue, and a cancelled one has not. What the loop then does is the `wake` of
`Lifecycle`.
-/
namespace VoxRtc.Python.Gateway

open Transition Wire
open VoxRtc.Gateway (WireEvent Outcome)

/-- An event with the reason it would close with, or the `None` of shutdown. -/
abbrev Item := Option (WireEvent PythonNumber × String)

/-- The task of `events.get()`. -/
inductive EventTask where
  | created
  /-- The queue was empty. -/
  | getting
  | done (item : Item)

def EventTask.started : EventTask → Bool
  | created => false
  | _ => true

def EventTask.taken : EventTask → List Item
  | done item => [item]
  | _ => []

structure Tasks where
  received : Option Message
  event : EventTask

def events (items : List Item) : List (WireEvent PythonNumber) :=
  items.filterMap fun item => item.map Prod.fst

/-- `if receive_task in done … elif event_task in done`. -/
def Tasks.given (t : Tasks) : List (WireEvent PythonNumber) :=
  if t.received.isSome then [] else events t.event.taken

structure Loop where
  /-- Its queue is `active.events`. -/
  conn : Connection
  tasks : Option Tasks
  shutdownReason : Option String
  /-- The events put in the queue. -/
  put : List (WireEvent PythonNumber)
  /-- The events given to `_forward_event`. -/
  forwarded : List (WireEvent PythonNumber)

inductive LoopStep where
  | put (event : WireEvent PythonNumber) (reason : String)
  | receive (message : Message)
  | get
  | wakes (outcome : Outcome) (raises : Option Raises)
  /-- Another `await` of `_serve` returns or raises. -/
  | conn (step : ConnStep) (raises : Option Raises)
  /-- `close` of the gateway reaches the session. -/
  | shutdown (reason : String) (raises : Option Raises)
  | putNone (finished : Bool)

def ConnStep.isWakes : ConnStep → Bool
  | wakes _ _ _ => true
  | _ => false

/-- The browser and the Vox session are both there, and the loop goes on. -/
def Serving.live : Serving → Bool
  | createdHook | sendingReady | waiting | replying | forwarding none => true
  | _ => false

def Connection.Live (c : Connection) : Prop :=
  c.serving.live = true ∧ ∃ s, c.session = some s ∧ s.closed = false

namespace Loop

def initial : Loop := ⟨.initial, none, none, [], []⟩

def taken (s : Loop) : List Item :=
  match s.tasks with
  | some t => t.event.taken
  | none => []

/-- The connection with the item that the event task holds still in the queue. -/
def whole (s : Loop) : Connection := { s.conn with queue := s.taken ++ s.conn.queue }

/-- The coroutine reaches its next `await`; a new turn of the loop creates both tasks. -/
def arrive (s : Loop) (c : Connection) : Loop :=
  { s with conn := c, tasks := if c.serving = .waiting then some ⟨none, .created⟩ else none }

/-- A step of the event task: it takes an item, or waits for one. -/
def get (s : Loop) (t : Tasks) : Option Loop :=
  match t.event, s.conn.queue with
  | .created, [] => some { s with tasks := some { t with event := .getting } }
  | .created, item :: rest | .getting, item :: rest => some { s with
      conn := { s.conn with queue := rest }
      tasks := some { t with event := .done item } }
  | .getting, [] | .done _, _ => none

def step (s : Loop) : LoopStep → Option Loop
  | .put event reason =>
    if s.conn.session.isSome then some { s with
      conn := { s.conn with queue := s.conn.queue ++ [some (event, reason)] }
      put := s.put ++ [event] }
    else none
  | .receive message => do
    let t ← s.tasks
    if t.received.isSome then none
    else some { s with tasks := some { t with received := some message } }
  | .get => do
    let t ← s.tasks
    s.get t
  | .wakes outcome raises => do
    let t ← s.tasks
    if t.event.started then
      -- The task that is still pending is cancelled; a done event task is not.
      let c ← s.whole.next s.shutdownReason raises
        (.wakes t.received (!t.event.taken.isEmpty) outcome)
      return { s.arrive c with forwarded := s.forwarded ++ t.given }
    else none
  | .conn l raises =>
    if l.isWakes then none else (s.conn.next s.shutdownReason raises l).map s.arrive
  | .shutdown reason raises =>
    if s.shutdownReason.isSome then none
    else some { s with
      shutdownReason := some reason
      conn := { s.conn with
        session := s.conn.session.map fun a => (a.close reason true raises).1 } }
  | .putNone finished => do
    let a ← s.conn.session
    if s.shutdownReason.isSome ∧ a.closed then some { s with
      conn := { s.conn with
        session := some (if finished then a.finish else a)
        queue := s.conn.queue ++ [none] } }
    else none

end Loop

def loop : System Loop LoopStep := ⟨.initial, Loop.step⟩

/-! ## What the coroutine does next -/

def Message.stays : Message → Bool
  | receive _ | other => true
  | disconnect | fails => false

theorem close_closes (a : ActiveSession) (reason : String) (shutdown : Bool)
    (raises : Option Raises) : (a.close reason shutdown raises).1.closed = true := by
  unfold ActiveSession.close
  split
  next shut => exact shut
  next =>
    split
    · rfl
    · split <;> (simp only [ActiveSession.sees]; split <;> rfl)
    · simp only [ActiveSession.sees]; split <;> rfl
    · simp only [ActiveSession.sees]; split <;> rfl

namespace Connection

variable {c d : Connection} {a : ActiveSession} {raises : Option Raises}

theorem not_live (present : c.session = some a) (shut : a.closed = true) : ¬c.Live := by
  rintro ⟨-, b, same, open'⟩
  cases present.symm.trans same
  rw [shut] at open'
  cases open'

theorem close_not_live (reason : String) (tells : Bool) : ¬(c.close a reason raises tells).Live :=
  not_live rfl (close_closes a reason false raises)

theorem again_live (alive : (c.again a raises).Live) :
    a.closed = false ∧ (c.again a raises).serving = .waiting ∧
      (c.again a raises).queue = c.queue := by
  unfold again at alive ⊢
  split at alive
  · exact absurd alive (close_not_live _ _)
  next shut =>
    rw [if_neg shut]
    exact ⟨by simpa using shut, rfl, rfl⟩

theorem handle_live {raw : Received} {outcome : Outcome}
    (alive : (c.handle a raw outcome raises).Live) :
    a.closed = false ∧ ((c.handle a raw outcome raises).serving = .waiting ∨
      (c.handle a raw outcome raises).serving = .replying) ∧
      (c.handle a raw outcome raises).queue = c.queue := by
  unfold handle at alive ⊢
  simp only at alive ⊢
  split at alive
  · exact absurd alive.1 (by simp [Serving.live])
  next fatal =>
    rw [if_neg fatal]
    split at alive
    next error =>
      rw [if_pos error]
      obtain ⟨-, b, same, still⟩ := alive
      cases same
      exact ⟨still, .inr rfl, rfl⟩
    next error =>
      rw [if_neg error]
      obtain ⟨still, serving, queue⟩ := again_live alive
      exact ⟨still, .inl serving, queue⟩

/-- The loop goes on with a message that keeps it going, or with an event. -/
theorem wake_live {message : Option Message} {took : Bool} {outcome : Outcome}
    (taken : c.wake a message took outcome raises = some d) (alive : d.Live) :
    a.closed = false ∧
      ((∃ m, message = some m ∧ m.stays = true ∧ (d.serving = .waiting ∨ d.serving = .replying) ∧
          d.queue = if took then c.queue.tail else c.queue) ∨
        message = none ∧ took = true ∧ d.serving = .forwarding none ∧
          ∃ event reason, c.queue = some (event, reason) :: d.queue) := by
  unfold wake at taken
  simp only at taken
  split at taken
  · cases taken
  · have queue : (if took then { c with queue := c.queue.tail } else c).queue =
        if took then c.queue.tail else c.queue := by split <;> rfl
    split at taken
    · cases taken
      exact absurd alive (close_not_live _ _)
    · cases taken
      -- A message without an answer.
      obtain ⟨still, serving, same⟩ := again_live alive
      exact ⟨still, .inl ⟨_, rfl, rfl, .inl serving, same.trans queue⟩⟩
    · cases taken
      exact absurd alive.1 (by simp [Serving.live])
    · cases taken
      -- A message that is answered first.
      obtain ⟨still, serving, same⟩ := handle_live alive
      exact ⟨still, .inl ⟨_, rfl, rfl, serving, same.trans queue⟩⟩
    · split at taken
      -- No message: the event at the head of the queue is forwarded.
      next took =>
        split at taken
        next event reason head =>
          cases taken
          obtain ⟨serving, b, same, still⟩ := alive
          cases same
          refine ⟨still, .inr ⟨rfl, took, ?_, event, reason, ?_⟩⟩
          · simp only [forward] at serving ⊢
            split at serving
            · cases serving
            next other => rw [if_neg other]
          · obtain ⟨rest, whole⟩ := List.head?_eq_some_iff.mp head
            simp only [forward, whole, List.tail_cons]
        · cases taken
          exact absurd alive (close_not_live _ _)
        · cases taken
      · cases taken

/-- The other `await`s of a live `_serve` come one after the other, and leave the queue. -/
inductive Follows : Serving → Serving → Prop
  | ready : Follows .createdHook .sendingReady
  | first : Follows .sendingReady .waiting
  | replied : Follows .replying .waiting
  | forwarded : Follows (.forwarding none) .waiting

private theorem again_follows (present : c.session = some a) (live : c.serving.live = true)
    {progress : VoxRtc.Gateway.Progress} (alive : (c.again { a with progress } raises).Live)
    (follows : Follows c.serving .waiting) :
    (c.again { a with progress } raises).queue = c.queue ∧
      (c.serving = .creating ∨
        c.Live ∧ Follows c.serving (c.again { a with progress } raises).serving) := by
  obtain ⟨still, serving, queue⟩ := again_live alive
  exact ⟨queue, .inr ⟨⟨live, a, present, still⟩, serving ▸ follows⟩⟩

theorem next_live {l : ConnStep} {shutdownReason : Option String} (other : l.isWakes = false)
    (taken : c.next shutdownReason raises l = some d) (alive : d.Live) :
    d.queue = c.queue ∧
      (c.serving = .creating ∨ c.Live ∧ Follows c.serving d.serving) := by
  cases next_cases taken with
  | received stands ok | accepted stands ok =>
    exact absurd alive.1 (by cases ok <;> simp [Serving.live])
  | created stands open_ => exact ⟨rfl, .inl stands⟩
  | @ready a present stands =>
    obtain ⟨-, b, same, still⟩ := alive
    cases same
    exact ⟨rfl, .inr ⟨⟨by rw [stands]; rfl, a, present, still⟩, stands ▸ .ready⟩⟩
  | again present stands =>
    rcases stands with first | replied | forwarded
    · exact again_follows present (by rw [first]; rfl) alive (first ▸ .first)
    · exact again_follows present (by rw [replied]; rfl) alive (replied ▸ .replied)
    · exact again_follows present (by rw [forwarded]; rfl) alive (forwarded ▸ .forwarded)
  | wakes => cases other
  | errorSent | ends | leaves => exact absurd alive (close_not_live _ _)
  | @hookFinishes a tells => exact absurd alive.1 (by cases tells <;> simp [closed, Serving.live])
  | refused | unsubscribed | hookFails | fails | stops | drops =>
    exact absurd alive.1 (by simp [Serving.live])

end Connection

end VoxRtc.Python.Gateway
