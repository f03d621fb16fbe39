import VoxRtc.Rust.Session.Events
import VoxRtc.Rust.Session.Responses
import VoxRtc.Responses.Waits

/-!
# Waits of the Rust session

`start_response_and_wait` of `rust/rtcserver/src/session.rs`, running in any number of tasks.
A task subscribes before it sends, and then takes the messages of the channel one by one. The
buffer of the channel is bounded, so that a slow task loses messages, and goes on.
-/
namespace VoxRtc.Rust.Session

open Wire Responses Transition Correlation

def optionalNonemptyString (data : Payload) (key : String) : Option String :=
  (optionalText data key).filter (· ≠ "")

def recoverableFlag (data : Payload) : Bool :=
  match data.get? "recoverable" with
  | some (.bool recoverable) => recoverable
  | _ => true

def optionalNumber (data : Payload) (key : String) : Option Binary64 :=
  match data.get? key with
  | some (.num x) => some x
  | _ => none

/-- `response_output`; a voice that is empty is none. -/
def responseOutput (data : Payload) : Option ResponseOutput := do
  let output ← (data.get? "output").bind Json.object?
  let model ← optionalNonemptyString output "model"
  let language ← optionalNonemptyString output "language"
  let speed ← optionalNumber output "speed"
  let params ← (Members.get? output "params").bind Json.object?
  return ⟨model, optionalNonemptyString output "voice", language, speed, params⟩

structure StartAck where
  accepted : Bool
  generationId : String
  responseId : Option String
  output : Option ResponseOutput
  errorCode : Option String
  errorMessage : Option String
  recoverable : Bool

def createdAck (generationId : String) (data : Payload) : StartAck where
  accepted := true
  generationId := generationId
  responseId := optionalText data "response_id"
  output := responseOutput data
  errorCode := none
  errorMessage := none
  recoverable := true

def errorAck (generationId : String) (data : Payload) : StartAck where
  accepted := false
  generationId := generationId
  responseId := optionalText data "response_id"
  output := none
  errorCode := optionalNonemptyString data "code"
  errorMessage := optionalText data "message"
  recoverable := recoverableFlag data

/-- What the loop returns for a message, if it does not go on. -/
def acknowledgement (generationId : String) (f : Frame) : Option StartAck :=
  if optionalNonemptyString f.payload "generation_id" = some generationId then
    if f.event = "response.created" then some (createdAck generationId f.payload)
    else if f.event = "error" then some (errorAck generationId f.payload)
    else none
  else none

/-- How a task ends. -/
inductive WaitEnding where
  /-- The acknowledgement, and whether the task has lost messages before; it cannot tell. -/
  | returned (ack : StartAck) (lagged : Bool)
  | timedOut
  | channelClosed
  /-- `send_control` has failed. -/
  | failed

inductive WaitPlace where
  | sending
  | waiting
  | ended
  deriving DecidableEq

structure ResponseWait where
  generationId : String
  command : Frame
  place : WaitPlace := .sending
  /-- Where its receiver stands in the messages of the channel. -/
  next : Nat
  lagged : Bool := false
  ending : Option WaitEnding := none

namespace ResponseWait

/-- The receiver and the timer are dropped with the future. -/
def finish (w : ResponseWait) (ending : WaitEnding) : ResponseWait :=
  { w with place := .ended, ending := some ending }

def sendReturns (w : ResponseWait) (ok : Bool) : ResponseWait :=
  if ok then { w with place := .waiting } else w.finish .failed

/-- One turn of the loop. -/
def turn (w : ResponseWait) (result : Except RecvError Frame) (next : Nat) : ResponseWait :=
  match nextMessage result with
  | .break => w.finish .channelClosed
  | .continue none => { w with next := next, lagged := true }
  | .continue (some f) =>
    let w := { w with next := next }
    match acknowledgement w.generationId f with
    | some ack => w.finish (.returned ack w.lagged)
    | none => w

def hasSent (w : ResponseWait) : Bool :=
  match w.place, w.ending with
  | .sending, _ | _, some .failed => false
  | _, _ => true

/-- While it has not ended, the task holds its receiver, and its timer once it waits. -/
def view (w : ResponseWait) : Responses.Wait WaitEnding :=
  ⟨w.generationId, w.ending, w.ending.isNone, w.ending.isNone, w.place == .waiting⟩

end ResponseWait

/-- The session holds a sender of its messages, so that the channel is never closed. -/
structure WaitSession where
  session : ResponseGeneration := {}
  messages : Lossy Frame
  sent : List Frame := []
  waits : List ResponseWait := []

inductive WaitStep where
  /-- A call, up to where it sends. -/
  | start (options : Option Options) (generated : GeneratedId)
  | sent (i : Nat) (ok : Bool)
  | frame (f : Frame)
  | receive (i : Nat)
  /-- The runtime lets a task take only so many messages at a time, so that its timer may expire
  while there are more. -/
  | expire (i : Nat)

def waitGeneration (options : Option Options) (generated : GeneratedId) : String :=
  (explicitGeneration options).getD generated.text

namespace WaitSession

def initial (capacity : Nat) : WaitSession := { messages := .empty capacity }

def startResponseAndWait (s : WaitSession) (options : Option Options) (generated : GeneratedId) :
    WaitSession :=
  let (session, payload) := s.session.startPayload options generated
  { s with
    session := session
    waits := s.waits ++ [{
      generationId := waitGeneration options generated
      command := ⟨"response.start", payload⟩
      next := s.messages.sent.length }] }

def step (s : WaitSession) : WaitStep → Option WaitSession
  | .start options generated => some (s.startResponseAndWait options generated)
  | .sent i ok => do
    let w ← s.waits[i]?
    if w.place = .sending then
      return { s with
        sent := if ok then s.sent ++ [w.command] else s.sent
        waits := s.waits.set i (w.sendReturns ok) }
    else none
  | .frame f => some { s with messages := s.messages.send f }
  | .receive i => do
    let w ← s.waits[i]?
    let (result, next) ← s.messages.recv w.next
    if w.place = .waiting then return { s with waits := s.waits.set i (w.turn result next) }
    else none
  | .expire i => do
    let w ← s.waits[i]?
    if w.place = .waiting then return { s with waits := s.waits.set i (w.finish .timedOut) }
    else none

def occurs (s : WaitSession) : WaitStep → List Occurrence
  | .start options generated => [.began s.waits.length (waitGeneration options generated)]
  | .sent i ok => if ok then [] else [.failed i]
  | .frame f => [.frame f]
  | .receive _ => []
  | .expire i => [.expired i]

/-- A task with the messages that its receiver has not come to. -/
def calls (s : WaitSession) : List (ResponseWait × List Frame) :=
  s.waits.map fun w => (w, s.messages.sent.drop w.next)

end WaitSession

/-- The send of the task returns, or its timer expires. -/
def WaitStep.Own (i : Nat) : WaitStep → Prop
  | .sent j _ => j = i
  | .expire j => j = i
  | _ => False

def responseWaits (capacity : Nat) : Waits WaitSession WaitStep WaitEnding where
  system := ⟨.initial capacity, WaitSession.step⟩
  occurs := WaitSession.occurs
  waits s := s.waits.map ResponseWait.view
  own := WaitStep.Own

/-- The messages of a history. -/
def framesOf (history : List Occurrence) : List Frame :=
  history.filterMap fun
    | .frame f => some f
    | _ => none

/-- A task ends with a message that acknowledges its own start, the first of them where it has
lost none, with its own timeout, or with the failure of its own send. -/
def Due (generationId : String) (i : Nat) (history : List Occurrence)
    (ending : Option WaitEnding) : Prop :=
  ∀ e ∈ ending,
    (∃ ack lagged, e = .returned ack lagged ∧
      (∃ f ∈ framesOf history, acknowledgement generationId f = some ack) ∧
      (lagged = false →
        (framesOf history).findSome? (acknowledgement generationId) = some ack)) ∨
    (e = .timedOut ∧ .expired i ∈ history) ∨ e = .failed ∧ .failed i ∈ history

section Histories

variable {generationId : String} {i : Nat} {history : List Occurrence} {o : Occurrence}

theorem framesOf_append (history more : List Occurrence) :
    framesOf (history ++ more) = framesOf history ++ framesOf more := List.filterMap_append

theorem Due.later {ending : Option WaitEnding} (due : Due generationId i history ending)
    (more : List Occurrence) : Due generationId i (history ++ more) ending := by
  intro e member
  rcases due e member with ⟨ack, lagged, rfl, ⟨f, earlier, answers⟩, first⟩ | ⟨rfl, expired⟩ |
    ⟨rfl, failed⟩
  · refine .inl ⟨ack, lagged, rfl, ⟨f, ?_, answers⟩, fun kept => ?_⟩
    · rw [framesOf_append]
      exact List.mem_append_left _ earlier
    · rw [framesOf_append, List.findSome?_append, first kept, Option.some_or]
  · exact .inr (.inl ⟨rfl, List.mem_append_left more expired⟩)
  · exact .inr (.inr ⟨rfl, List.mem_append_left more failed⟩)

end Histories

namespace ResponseWait

variable {i : Nat} {w : ResponseWait} {unread : List Frame} {history : List Occurrence}

/-- A task that has not ended has dealt with the messages since it began, up to those that it
has not read: none of them acknowledges its start, unless some have been lost. -/
structure Kept (i : Nat) (x : ResponseWait × List Frame) (history : List Occurrence) : Prop where
  read : x.1.ending = none → ∃ done, framesOf history = done ++ x.2 ∧
    (x.1.lagged = false → ∀ f ∈ done, acknowledgement x.1.generationId f = none)
  place : x.1.place = .ended ↔ x.1.ending.isSome = true
  due : Due x.1.generationId i history x.1.ending

theorem kept_begin (generationId : String) (command : Frame) (next : Nat) :
    Kept i (⟨generationId, command, .sending, next, false, none⟩, []) [] := by
  constructor
  · intro _
    exact ⟨[], rfl, by simp⟩
  · simp
  · simp [Due]

theorem Kept.pending (kept : Kept i (w, unread) history) (place : w.place ≠ .ended) :
    w.ending = none := by
  cases ending : w.ending with
  | none => rfl
  | some e =>
    have ended := kept.place.mpr (by rw [show (w, unread).1.ending = _ from ending, Option.isSome_some])
    exact absurd ended place

/-- What occurs is no message. -/
theorem Kept.silent {x : ResponseWait × List Frame} (kept : Kept i x history) {o : Occurrence}
    (none : framesOf [o] = []) : Kept i x (history ++ [o]) where
  read pending := by
    obtain ⟨done, same, silent⟩ := kept.read pending
    exact ⟨done, by rw [framesOf_append, none, List.append_nil, same], silent⟩
  place := kept.place
  due := kept.due.later [o]

/-- Nothing occurs that concerns the task, but for the messages that it has not read. -/
theorem Kept.quiet (kept : Kept i (w, unread) history) (more : List Occurrence) :
    Kept i (w, unread ++ framesOf more) (history ++ more) where
  read pending := by
    obtain ⟨done, same, silent⟩ := kept.read pending
    exact ⟨done, by rw [framesOf_append, same, List.append_assoc], silent⟩
  place := kept.place
  due := kept.due.later more

theorem kept_finish {ending : WaitEnding} (due : Due w.generationId i history (some ending)) :
    Kept i (w.finish ending, unread) history where
  read pending := by cases pending
  place := by simp [ResponseWait.finish]
  due := due

/-- The receiver goes past messages that it has read, or lost. -/
theorem Kept.skip (kept : Kept i (w, unread) history) {gone rest : List Frame} {next : Nat}
    {lagged : Bool} (split : unread = gone ++ rest)
    (silent : lagged = false → w.lagged = false ∧
      ∀ f ∈ gone, acknowledgement w.generationId f = none) :
    Kept i ({ w with next := next, lagged := lagged }, rest) history where
  read pending := by
    obtain ⟨done, same, before⟩ := kept.read pending
    refine ⟨done ++ gone, by rw [same, show (w, unread).2 = _ from split, List.append_assoc], fun none f member => ?_⟩
    obtain ⟨kept, past⟩ := silent none
    rcases List.mem_append.mp member with old | new
    · exact before kept f old
    · exact past f new
  place := kept.place
  due := kept.due

theorem Kept.sent (kept : Kept i (w, unread) history) (sending : w.place = .sending) (ok : Bool) :
    Kept i (w.sendReturns ok, unread) (history ++ if ok then [] else [.failed i]) := by
  cases ok with
  | true =>
    have pending := kept.pending (by simp [sending])
    refine ⟨?_, ?_, ?_⟩
    · simpa [sendReturns] using kept.read
    · simp [sendReturns, pending]
    · simpa [sendReturns] using kept.due
  | false =>
    apply kept_finish
    intro e failed
    cases failed
    exact .inr (.inr ⟨rfl, by simp⟩)

theorem Kept.expire : Kept i (w.finish .timedOut, unread) (history ++ [.expired i]) := by
  apply kept_finish
  intro e timedOut
  cases timedOut
  exact .inr (.inl ⟨rfl, by simp⟩)

/-- A message is taken: it acknowledges the start and ends the wait, or the task goes on. -/
theorem Kept.takes {f : Frame} {rest : List Frame} {next : Nat}
    (kept : Kept i (w, f :: rest) history) (waiting : w.place = .waiting) :
    Kept i (w.turn (.ok f) next, rest) history := by
  have pending := kept.pending (by simp [waiting])
  obtain ⟨done, same, silent⟩ := kept.read pending
  simp only [turn, nextMessage]
  cases answers : acknowledgement w.generationId f with
  | none =>
    have split : f :: rest = [f] ++ rest := rfl
    refine kept.skip split fun none => ⟨none, ?_⟩
    simpa using answers
  | some ack =>
    apply kept_finish
    intro e returned
    cases returned
    refine .inl ⟨ack, w.lagged, rfl, ⟨f, ?_, answers⟩, fun none => ?_⟩
    · rw [same]
      exact List.mem_append_right _ List.mem_cons_self
    · have before : done.findSome? (acknowledgement w.generationId) = .none :=
        List.findSome?_eq_none_iff.mpr (silent none)
      rw [same, List.findSome?_append]
      simp [before, answers]

@[simp] theorem finish_generationId (ending : WaitEnding) :
    (w.finish ending).generationId = w.generationId := rfl

@[simp] theorem sendReturns_generationId (ok : Bool) :
    (w.sendReturns ok).generationId = w.generationId := by
  cases ok <;> rfl

@[simp] theorem sendReturns_next (ok : Bool) : (w.sendReturns ok).next = w.next := by
  cases ok <;> rfl

@[simp] theorem sendReturns_command (ok : Bool) : (w.sendReturns ok).command = w.command := by
  cases ok <;> rfl

@[simp] theorem turn_generationId (result : Except RecvError Frame) (next : Nat) :
    (w.turn result next).generationId = w.generationId := by
  unfold turn
  split
  · rfl
  · rfl
  · dsimp only
    split <;> rfl

@[simp] theorem turn_command (result : Except RecvError Frame) (next : Nat) :
    (w.turn result next).command = w.command := by
  unfold turn
  split
  · rfl
  · rfl
  · dsimp only
    split <;> rfl

/-- A message that is taken may end the task; it does not send again. -/
theorem turn_place {result : Except RecvError Frame} {next : Nat} (waiting : w.place = .waiting) :
    (w.turn result next).place ≠ .sending := by
  unfold turn
  split
  · simp [finish]
  · simp [waiting]
  · dsimp only
    split <;> simp [finish, waiting]

/-- A task keeps its generation, and what is seen of it when it has ended. -/
def Stays (w w' : ResponseWait) : Prop :=
  w'.generationId = w.generationId ∧ (w.ending.isSome = true → w'.view = w.view)

theorem Stays.refl : w.Stays w := ⟨rfl, fun _ => rfl⟩

end ResponseWait

namespace WaitSession

open ResponseWait

variable {s t : WaitSession} {l : WaitStep} {i : Nat} {w : ResponseWait} {record : List Occurrence}

theorem step_sent {ok : Bool} (taken : s.step (.sent i ok) = some t) :
    ∃ w, s.waits[i]? = some w ∧ w.place = .sending ∧ t.messages = s.messages ∧
      t.waits = s.waits.set i (w.sendReturns ok) ∧
      t.sent = if ok then s.sent ++ [w.command] else s.sent := by
  simp only [step, Option.bind_eq_bind, Option.bind_eq_some_iff, Option.pure_def,
    Option.ite_none_right_eq_some, Option.some.injEq] at taken
  obtain ⟨w, here, sending, rfl⟩ := taken
  exact ⟨w, here, sending, rfl, rfl, rfl⟩

theorem step_receive (taken : s.step (.receive i) = some t) :
    ∃ w result next, s.waits[i]? = some w ∧ w.place = .waiting ∧
      s.messages.Receives w.next result next ∧ t.messages = s.messages ∧
        t.waits = s.waits.set i (w.turn result next) ∧ t.sent = s.sent := by
  simp only [step, Option.bind_eq_bind, Option.bind_eq_some_iff, Option.pure_def,
    Option.ite_none_right_eq_some, Option.some.injEq] at taken
  obtain ⟨w, here, ⟨result, next⟩, received, waiting, rfl⟩ := taken
  exact ⟨w, result, next, here, waiting, Lossy.receives received, rfl, rfl, rfl⟩

theorem step_expire (taken : s.step (.expire i) = some t) :
    ∃ w, s.waits[i]? = some w ∧ w.place = .waiting ∧ t.messages = s.messages ∧
      t.waits = s.waits.set i (w.finish .timedOut) ∧ t.sent = s.sent := by
  simp only [step, Option.bind_eq_bind, Option.bind_eq_some_iff, Option.pure_def,
    Option.ite_none_right_eq_some, Option.some.injEq] at taken
  obtain ⟨w, here, waiting, rfl⟩ := taken
  exact ⟨w, here, waiting, rfl, rfl, rfl⟩

/-- The channel is open, and no receiver is ahead of it. -/
structure Placed (s : WaitSession) : Prop where
  opened : s.messages.closed = false
  within : ∀ w ∈ s.waits, w.next ≤ s.messages.sent.length

theorem turn_next {result : Except RecvError Frame} {next : Nat}
    (receives : s.messages.Receives w.next result next) : (w.turn result next).next = next := by
  cases receives with
  | ok f =>
    simp only [turn, nextMessage]
    cases acknowledgement w.generationId f <;> rfl
  | lagged => rfl
  | closed => rfl

theorem placed_step (placed : s.Placed) (taken : s.step l = some t) : t.Placed := by
  -- A move of one task leaves the channel as it is.
  have moved (j : Nat) (v : ResponseWait) (messages : t.messages = s.messages)
      (waits : t.waits = s.waits.set j v) (bound : v.next ≤ s.messages.sent.length) :
      t.Placed := by
    constructor
    · rw [messages]
      exact placed.opened
    · rw [messages, waits]
      exact Pool.forall_set placed.within bound
  cases l with
  | start options generated =>
    cases taken
    exact ⟨placed.opened, Pool.forall_append placed.within (Nat.le_refl _)⟩
  | frame f =>
    cases taken
    refine ⟨placed.opened, fun w member => ?_⟩
    have bound := placed.within w member
    simp only [Lossy.send, List.length_append, List.length_singleton]
    omega
  | sent j ok =>
    obtain ⟨w, here, _, messages, waits, _⟩ := step_sent taken
    have bound := placed.within w (Pool.mem_of_read here)
    exact moved j _ messages waits (by rw [sendReturns_next]; exact bound)
  | receive j =>
    obtain ⟨w, result, next, here, _, receives, messages, waits, _⟩ := step_receive taken
    have bound := placed.within w (Pool.mem_of_read here)
    obtain ⟨_, within⟩ := receives.le bound
    exact moved j _ messages waits (by rw [turn_next receives]; exact within)
  | expire j =>
    obtain ⟨w, here, _, messages, waits, _⟩ := step_expire taken
    have bound := placed.within w (Pool.mem_of_read here)
    exact moved j _ messages waits bound

theorem calls_read (here : s.waits[i]? = some w) :
    s.calls[i]? = some (w, s.messages.sent.drop w.next) := by
  rw [calls, List.getElem?_map, here, Option.map_some]

theorem calls_set {j : Nat} (messages : t.messages = s.messages)
    (waits : t.waits = s.waits.set j w) :
    t.calls = s.calls.set j (w, s.messages.sent.drop w.next) := by
  rw [calls, calls, messages, waits, List.map_set]

/-- What a task takes off the channel, as its messages that are unread. -/
theorem kept_receive {history : List Occurrence} {result : Except RecvError Frame} {next : Nat}
    (kept : Kept i (w, s.messages.sent.drop w.next) history) (placed : s.Placed)
    (waiting : w.place = .waiting) (receives : s.messages.Receives w.next result next) :
    Kept i (w.turn result next, s.messages.sent.drop next) history := by
  cases receives with
  | ok f here _ =>
    obtain ⟨bound, value⟩ := List.getElem?_eq_some_iff.mp here
    rw [List.drop_eq_getElem_cons bound, value] at kept
    exact kept.takes waiting
  | lagged behind =>
    have split : s.messages.sent.drop w.next =
        s.messages.lost w.next ++ s.messages.sent.drop s.messages.oldest := by
      have same : w.next + (s.messages.oldest - w.next) = s.messages.oldest := by omega
      rw [Lossy.lost, ← same, ← List.drop_drop, same, List.take_append_drop]
    exact kept.skip split fun never => by cases never
  | closed gone _ =>
    rw [placed.opened] at gone
    cases gone

/-- Each task, with what has occurred since it began. -/
def Tracked (record : List Occurrence) (s : WaitSession) : Prop :=
  Pool.Tracked (fun i x => .began i x.1.generationId) Kept record s.calls

theorem tracked_step (placed : s.Placed) (tracked : Tracked record s)
    (taken : s.step l = some t) : Tracked (record ++ s.occurs l) t := by
  cases l with
  | start options generated =>
    cases taken
    have began := Pool.Tracked.begin tracked
      (kept_begin (waitGeneration options generated)
        ⟨"response.start", (s.session.startPayload options generated).2⟩ s.messages.sent.length)
      fun _ _ _ kept => kept.silent rfl
    simpa [Tracked, occurs, calls, startResponseAndWait] using began
  | frame f =>
    cases taken
    have heard : (s.calls.map fun x => (x.1, x.2 ++ [f])) =
        calls { s with messages := s.messages.send f } := by
      rw [calls, calls, List.map_map]
      apply List.map_congr_left
      intro w member
      have bound := placed.within w member
      simp [Lossy.send, List.drop_append_of_le_length bound]
    rw [Tracked, ← heard]
    exact Pool.Tracked.map tracked (fun _ _ => rfl) fun _ _ _ kept => kept.quiet [.frame f]
  | sent j ok =>
    obtain ⟨w, here, sending, messages, waits, _⟩ := step_sent taken
    rw [Tracked, calls_set messages waits]
    refine Pool.Tracked.set tracked (calls_read here) (by simp) (fun _ kept => ?_)
      fun _ _ _ _ kept => ?_
    · rw [sendReturns_next]
      exact kept.sent sending ok
    · cases ok with
      | true => simpa [occurs] using kept
      | false => exact kept.silent rfl
  | receive j =>
    obtain ⟨w, result, next, here, waiting, receives, messages, waits, _⟩ := step_receive taken
    rw [Tracked, calls_set messages waits]
    refine Pool.Tracked.set tracked (calls_read here) (by simp) (fun _ kept => ?_)
      fun _ _ _ _ kept => ?_
    · rw [turn_next receives]
      simpa [occurs] using kept_receive kept placed waiting receives
    · simpa [occurs] using kept
  | expire j =>
    obtain ⟨w, here, _, messages, waits, _⟩ := step_expire taken
    rw [Tracked, calls_set messages waits]
    exact Pool.Tracked.set tracked (calls_read here) rfl (fun _ _ => Kept.expire)
      fun _ _ _ _ kept => kept.silent rfl

theorem placed_initial (capacity : Nat) : (initial capacity).Placed :=
  ⟨rfl, fun _ member => by cases member⟩

theorem tracked_initial (capacity : Nat) : Tracked [] (initial capacity) := Pool.tracked_nil

variable {capacity : Nat} {C : WaitSession → WaitStep → Prop}

theorem tracked {r : WaitSession × List Occurrence}
    (reached : ((responseWaits capacity).system.recorded (responseWaits capacity).occurs).Reaches
      (fun s => C s.1) r) : Tracked r.2 r.1 := by
  have both : r.1.Placed ∧ Tracked r.2 r.1 :=
    System.Reaches.recorded (M := (responseWaits capacity).system)
      (P := fun record s => s.Placed ∧ Tracked record s)
      ⟨placed_initial capacity, tracked_initial capacity⟩
      (fun _ _ _ _ ⟨placed, tracked⟩ _ taken =>
        ⟨placed_step placed taken, tracked_step placed tracked taken⟩) reached
  exact both.2

/-- Every task of a session that is reached. -/
theorem kept_of_reaches (reached : (responseWaits capacity).system.Reaches C s)
    (here : s.waits[i]? = some w) :
    ∃ history, Kept i (w, s.messages.sent.drop w.next) history := by
  obtain ⟨record, recorded⟩ := reached.with_record (responseWaits capacity).occurs
  exact Pool.Tracked.property (tracked recorded) (calls_read here)

/-- A step leaves a task that has ended alone, and every task its generation. -/
theorem stays_step (reached : (responseWaits capacity).system.Reaches C s)
    (taken : s.step l = some t) (here : s.waits[i]? = some w) :
    ∃ w', t.waits[i]? = some w' ∧ w.Stays w' := by
  -- A task that moves has not ended.
  have moved (j : Nat) (v v' : ResponseWait) (found : s.waits[j]? = some v)
      (going : v.place ≠ .ended) (same : v'.generationId = v.generationId)
      (waits : t.waits = s.waits.set j v') : ∃ w', t.waits[i]? = some w' ∧ w.Stays w' := by
    obtain ⟨history, kept⟩ := kept_of_reaches reached found
    rw [waits]
    refine Pool.read_set_related (R := Stays) found here ⟨same, fun settled => ?_⟩ .refl
    exact absurd (kept.place.mpr settled) going
  cases l with
  | start options generated =>
    cases taken
    exact ⟨w, Pool.read_append_old here, .refl⟩
  | frame f =>
    cases taken
    exact ⟨w, here, .refl⟩
  | sent j ok =>
    obtain ⟨v, found, sending, _, waits, _⟩ := step_sent taken
    exact moved j v _ found (by simp [sending]) (by simp) waits
  | receive j =>
    obtain ⟨v, result, next, found, waiting, _, _, waits, _⟩ := step_receive taken
    exact moved j v _ found (by simp [waiting]) (by simp) waits
  | expire j =>
    obtain ⟨v, found, waiting, _, waits, _⟩ := step_expire taken
    exact moved j v _ found (by simp [waiting]) (by simp) waits

/-- The command of a task bears its generation, and has been sent once the task waits. -/
structure Commanded (sent : List Frame) (w : ResponseWait) : Prop where
  event : w.command.event = "response.start"
  bears : w.command.generationId = some w.generationId
  sent : w.hasSent = true → w.command ∈ sent

theorem Commanded.more {sent : List Frame} (kept : Commanded sent w) (more : List Frame) :
    Commanded (sent ++ more) w :=
  ⟨kept.event, kept.bears, fun has => List.mem_append_left more (kept.sent has)⟩

/-- How many of its own steps a task has before its timer expires. -/
def behind (i : Nat) (s : WaitSession) : Nat :=
  s.waits[i]?.elim 0 fun w => if w.place = .sending then 1 else 0

/-- The others do not hold a task up, and neither do the messages that it takes. -/
theorem behind_other (other : ¬l.Own i) (here : s.waits[i]? = some w) (taken : s.step l = some t) :
    ∃ w', t.waits[i]? = some w' ∧ behind i t = behind i s := by
  -- A step that leaves the task where it is.
  have apart (kept : t.waits[i]? = some w) : ∃ w', t.waits[i]? = some w' ∧
      behind i t = behind i s := ⟨w, kept, by rw [behind, behind, kept, here]⟩
  cases l with
  | start options generated =>
    cases taken
    exact apart (Pool.read_append_old here)
  | frame f =>
    cases taken
    exact apart here
  | sent j ok =>
    obtain ⟨v, _, _, _, waits, _⟩ := step_sent taken
    exact apart (by rw [waits, Pool.read_set_other (Ne.symm other), here])
  | expire j =>
    obtain ⟨v, _, _, _, waits, _⟩ := step_expire taken
    exact apart (by rw [waits, Pool.read_set_other (Ne.symm other), here])
  | receive j =>
    obtain ⟨v, result, next, found, waiting, _, _, waits, _⟩ := step_receive taken
    by_cases same : i = j
    · subst same
      cases found.symm.trans here
      have moved : t.waits[i]? = some (w.turn result next) := by
        rw [waits, Pool.read_set_self found]
      have went : (w.turn result next).place ≠ .sending := turn_place waiting
      refine ⟨_, moved, ?_⟩
      simp [behind, moved, here, waiting, went]
    · exact apart (by rw [waits, Pool.read_set_other same, here])

theorem own_step (opened : (responseWaits capacity).Open i s) (own : l.Own i)
    (taken : s.step l = some t) : (responseWaits capacity).Settled i t ∨
      (responseWaits capacity).Open i t ∧ behind i t < behind i s := by
  obtain ⟨_, shown, pending⟩ := opened
  obtain ⟨w, here, rfl⟩ := Waits.read_view rfl shown
  cases l with
  | start | frame | receive => cases own
  | sent j ok =>
    cases own
    obtain ⟨v, found, sending, _, waits, _⟩ := step_sent taken
    cases found.symm.trans here
    have moved : t.waits[i]? = some (w.sendReturns ok) := by
      rw [waits, Pool.read_set_self found]
    cases ok with
    | false => exact .inl ⟨_, Waits.view_read rfl moved, rfl⟩
    | true =>
      refine .inr ⟨⟨_, Waits.view_read rfl moved, pending⟩, ?_⟩
      simp [behind, moved, found, sending, sendReturns]
  | expire j =>
    cases own
    obtain ⟨v, found, _, _, waits, _⟩ := step_expire taken
    have moved : t.waits[i]? = some (v.finish .timedOut) := by
      rw [waits, Pool.read_set_self found]
    exact .inl ⟨_, Waits.view_read rfl moved, rfl⟩

/-- A task can send, or its timer can expire. -/
theorem own_enabled (reached : (responseWaits capacity).system.Reaches C s)
    (opened : (responseWaits capacity).Open i s) :
    (responseWaits capacity).system.Enabled (WaitStep.Own i) s := by
  obtain ⟨_, shown, pending⟩ := opened
  obtain ⟨w, here, rfl⟩ := Waits.read_view rfl shown
  obtain ⟨history, kept⟩ := kept_of_reaches reached here
  cases place : w.place with
  | sending => exact ⟨.sent i true, rfl, by simp [responseWaits, step, here, place]⟩
  | waiting => exact ⟨.expire i, rfl, by simp [responseWaits, step, here, place]⟩
  | ended =>
    have settled := kept.place.mp place
    have still : w.ending = none := pending
    rw [still] at settled
    cases settled

theorem advance : (responseWaits capacity).Advance C i (behind i) where
  enabled s reached opened := own_enabled reached opened
  own s l t _ opened _ own taken := own_step opened own taken
  others s l t opened other taken := by
    obtain ⟨_, shown, _⟩ := opened
    obtain ⟨w, here, _⟩ := Waits.read_view rfl shown
    obtain ⟨w', kept, same⟩ := behind_other other here taken
    exact ⟨⟨w'.view, Waits.view_read rfl kept⟩, same⟩

theorem pooled : (responseWaits capacity).Pooled C WaitSession.calls (fun x => x.1.view) Kept where
  seen s := by simp [responseWaits, calls, Function.comp_def]
  tracked _ reached := tracked reached
  stays s l t reached _ taken i x here := by
    obtain ⟨w, found, rfl⟩ := Option.map_eq_some_iff.mp (List.getElem?_map.symm.trans here)
    obtain ⟨w', found', stays⟩ := stays_step reached taken found
    exact ⟨_, calls_read found', stays⟩
  released _ x _ kept settled := by
    obtain ⟨e, ended⟩ := Option.isSome_iff_exists.mp settled
    have ending : x.1.ending = some e := ended
    have place := kept.place.mpr settled
    simp [ResponseWait.view, ending, place]

end WaitSession

end VoxRtc.Rust.Session
