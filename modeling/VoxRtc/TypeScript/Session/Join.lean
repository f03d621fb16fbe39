import VoxRtc.Wire.Json
import VoxRtc.Transition.Fairness

/-!
# Joins of the TypeScript session

`join` of `VoxRtcControlSession` in `typescript/vox-rtc-server/src/session.ts`: one promise, its
subscription to the state of the channel, and its timer. The channel may report states while
it is being subscribed to, while it is told to join, and at any time later, until the handle it
has returned is called.
-/
namespace VoxRtc.TypeScript.Session

open Wire Transition

/-- `ChannelState` of the PondSocket client. -/
inductive ChannelState where
  | idle
  | joining
  | joined
  | declined
  | closed
  | other (text : String)
  deriving DecidableEq, Repr

def ChannelState.text : ChannelState → String
  | idle => "IDLE"
  | joining => "JOINING"
  | joined => "JOINED"
  | declined => "DECLINED"
  | closed => "CLOSED"
  | other text => text

/-- `joinError` of a channel. -/
structure JoinError where
  code : Option String := none
  message : Option String := none
  status : Option Binary64 := none
  details : Option (Json Binary64) := none

structure VoxRtcChannelJoinError where
  message : String
  code : Option String
  status : Option Binary64
  details : Option (Json Binary64)

/-- What the promise is settled with. -/
inductive Outcome where
  | resolved
  | failed (error : VoxRtcChannelJoinError)
  | timedOut (message : String)

def channelName (sessionId : String) : String := s!"/rtc/{sessionId}"

/-- The error for a state in which the channel will not be joined. -/
def joinFailure (sessionId : String) (state : ChannelState) (joinError : Option JoinError) :
    VoxRtcChannelJoinError :=
  let suffix := match joinError.bind JoinError.message with
    | some reason => if reason ≠ "" then s!": {reason}" else ""
    | none => ""
  { message := s!"RTC channel join failed for {channelName sessionId}: {state.text}{suffix}"
    code := joinError.bind JoinError.code
    status := joinError.bind JoinError.status
    details := joinError.bind JoinError.details }

/-- What a state settles the promise with, if it is terminal. -/
def settlement (sessionId : String) (state : ChannelState) (joinError : Option JoinError) :
    Option Outcome :=
  match state with
  | .joined => some .resolved
  | .declined | .closed => some (.failed (joinFailure sessionId state joinError))
  | _ => none

def joinTimeout (sessionId : String) : Outcome :=
  .timedOut s!"RTC channel join timed out for {channelName sessionId}"

/-- Where the executor of the promise is: in the call that subscribes, in the call that joins,
or at its end. -/
inductive Executor where
  | subscribing
  | joining
  | returned
  deriving DecidableEq, Repr

structure Join where
  executor : Executor
  done : Bool
  /-- `offState` is the handle, and `timer` is a timer. -/
  offState : Bool
  timer : Bool
  /-- The channel reports its states to the join. -/
  subscribed : Bool
  /-- The timer has neither expired nor been cleared. -/
  running : Bool
  /-- How often the channel has been told to join. -/
  joins : Nat
  /-- The calls of `resolve` and `reject`. -/
  outcomes : List Outcome

inductive JoinStep where
  | notify (state : ChannelState) (joinError : Option JoinError)
  /-- The calls of the executor return. -/
  | subscribed
  | joined
  | expire

namespace Join

/-- The call that subscribes has begun. -/
def initial : Join := ⟨.subscribing, false, false, false, true, false, 0, []⟩

def finish (j : Join) (outcome : Outcome) : Join :=
  if j.done then j
  else { j with
    done := true
    running := j.running && !j.timer
    subscribed := j.subscribed && !j.offState
    outcomes := j.outcomes ++ [outcome] }

/-- The executor, from the return of the call that subscribes on. -/
def afterSubscribing (j : Join) : Join :=
  if j.done then { j with offState := true, subscribed := false, executor := .returned }
  else { j with
    offState := true
    timer := true
    running := true
    joins := j.joins + 1
    executor := .joining }

def step (sessionId : String) (j : Join) : JoinStep → Option Join
  | .notify state joinError =>
    if j.subscribed then
      match settlement sessionId state joinError with
      | some outcome => some (j.finish outcome)
      | none => some j
    else none
  | .subscribed => if j.executor = .subscribing then some j.afterSubscribing else none
  | .joined => if j.executor = .joining then some { j with executor := .returned } else none
  -- A timer waits until the executor has returned.
  | .expire =>
    if j.executor = .returned ∧ j.running then
      some ({ j with running := false }.finish (joinTimeout sessionId))
    else none

end Join

def joining (sessionId : String) : System Join JoinStep := ⟨.initial, Join.step sessionId⟩

/-- What could settle the promise, with where the executor is then. -/
def Join.seen (sessionId : String) (j : Join) : JoinStep → List (Executor × Outcome)
  | .notify state joinError => (settlement sessionId state joinError).toList.map (j.executor, ·)
  | .expire => [(j.executor, joinTimeout sessionId)]
  | _ => []

namespace Join

variable {sessionId : String} {j k : Join} {l : JoinStep} {record : List (Executor × Outcome)}

/-- The states of a join, with what could have settled it so far. -/
inductive Phase : List (Executor × Outcome) → Join → Prop
  | subscribing (record : List (Executor × Outcome)) : Phase record
      ⟨.subscribing, !record.isEmpty, false, false, true, false, 0, (record.map Prod.snd).take 1⟩
  /-- It was settled before the handle was there. -/
  | early (first : Executor × Outcome) (rest : List (Executor × Outcome)) :
      Phase (first :: rest) ⟨.returned, true, true, false, false, false, 0, [first.2]⟩
  | waiting {executor : Executor} (past : executor ≠ .subscribing) :
      Phase [] ⟨executor, false, true, true, true, true, 1, []⟩
  | settled {executor : Executor} {first : Executor × Outcome} (past : executor ≠ .subscribing)
      (late : first.1 ≠ .subscribing) :
      Phase [first] ⟨executor, true, true, true, false, false, 1, [first.2]⟩

theorem phase_notify {state : ChannelState} {joinError : Option JoinError}
    (phase : Phase record j)
    (taken : j.step sessionId (.notify state joinError) = some k) :
    Phase (record ++ j.seen sessionId (.notify state joinError)) k := by
  simp only [step, Option.ite_none_right_eq_some] at taken
  obtain ⟨subscribed, taken⟩ := taken
  -- Only the states that end a join are seen.
  cases settles : settlement sessionId state joinError with
  | none =>
    rw [settles] at taken
    cases taken
    simpa [seen, settles] using phase
  | some outcome =>
    rw [settles] at taken
    cases taken
    have added : j.seen sessionId (.notify state joinError) = [(j.executor, outcome)] := by
      simp [seen, settles]
    rw [added]
    cases phase with
    | subscribing record =>
      -- The handle is not there yet, so the channel goes on; only the first state counts.
      cases record with
      | nil => exact .subscribing [(.subscribing, outcome)]
      | cons first rest => exact .subscribing (first :: rest ++ [(.subscribing, outcome)])
    -- `finish` clears the timer and calls the handle.
    | waiting past => exact .settled past past
    | early | settled => cases subscribed

theorem phase_step (phase : Phase record j)
    (taken : j.step sessionId l = some k) : Phase (record ++ j.seen sessionId l) k := by
  cases l with
  | notify state joinError => exact phase_notify phase taken
  | subscribed =>
    simp only [step, Option.ite_none_right_eq_some, Option.some.injEq] at taken
    obtain ⟨here, rfl⟩ := taken
    simp only [seen, List.append_nil]
    cases phase with
    | subscribing record =>
      cases record with
      | nil => exact .waiting (by decide)
      -- Settled before the handle was there: it is called now, and the join is not sent.
      | cons first rest => exact .early first rest
    | early => cases here
    | waiting past | settled past => exact absurd here past
  | joined =>
    simp only [step, Option.ite_none_right_eq_some, Option.some.injEq] at taken
    obtain ⟨here, rfl⟩ := taken
    simp only [seen, List.append_nil]
    cases phase with
    | subscribing | early => cases here
    | waiting past => exact .waiting (by decide)
    | settled past late => exact .settled (by decide) late
  | expire =>
    simp only [step, Option.ite_none_right_eq_some, Option.some.injEq] at taken
    obtain ⟨⟨here, running⟩, rfl⟩ := taken
    cases phase with
    | subscribing | early | settled => cases running
    | waiting past => exact .settled past past

theorem phase {r : Join × List (Executor × Outcome)}
    (reached : ((joining sessionId).recorded (seen sessionId)).Reaches always r) :
    Phase r.2 r.1 :=
  System.Reaches.recorded (C := always) (.subscribing [])
    (fun _ _ _ _ phase _ taken => phase_step phase taken) reached

/-- How many of the calls of the executor have not returned. -/
def behind (j : Join) : Nat :=
  match j.executor with
  | .subscribing => 2
  | .joining => 1
  | .returned => 0

def Over (j : Join) : Prop := j.executor = .returned ∧ j.done = true

end Join

end VoxRtc.TypeScript.Session
