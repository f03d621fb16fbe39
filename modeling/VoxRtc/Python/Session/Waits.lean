import VoxRtc.Python.Session.Responses
import VoxRtc.Responses.Waits

/-!
# Waits of the Python session

`start_response_and_wait` of `python/vox-rtc-server/src/vox_rtc_server/session.py`, running in
any number of tasks. A task registers its two handlers in one turn, in which the channel calls
neither, and sends; then it waits for a future under a timeout, and however it ends it
unsubscribes. The future is done by the handlers, and the task goes on in a later turn.
-/
namespace VoxRtc.Python.Session

open Wire Responses Transition

def parseResponseOutput : Option Value → Option ResponseOutput := readOutput fun _ => true

structure ErrorEvent where
  message : Option String
  code : Option String
  recoverable : Bool
  generationId : Option String

structure StartAck where
  accepted : Bool
  generationId : String
  responseId : Option String := none
  output : Option ResponseOutput := none
  error : Option ErrorEvent := none

/-- How a task ends: it returns, or it raises `TimeoutError` or what the send has raised. -/
inductive Ending where
  | returned (ack : StartAck)
  | timedOut
  | raised

def errorEvent (payload : Payload) : ErrorEvent where
  message := optionalText payload "message"
  code := optionalText payload "code"
  recoverable := match payload.get? "recoverable" with
    | some (.bool recoverable) => recoverable
    | _ => true
  generationId := optionalText payload "generation_id"

def createdAck (generationId : String) (payload : Payload) : StartAck where
  accepted := true
  generationId := generationId
  responseId := optionalText payload "response_id"
  output := parseResponseOutput (payload.get? "output")

def errorAck (generationId : String) (payload : Payload) : StartAck where
  accepted := false
  generationId := generationId
  error := some (errorEvent payload)

inductive Future where
  | pending
  | result (ack : StartAck)
  | cancelled

def Future.isDone : Future → Bool
  | pending => false
  | _ => true

/-- Where a task is: in the call that sends, in `wait_for`, or at its end. -/
inductive Place where
  | sending
  | waiting
  | ended
  deriving DecidableEq

structure ResponseWait where
  generationId : String
  command : Frame
  place : Place
  done : Future
  /-- The handlers are subscribed. -/
  created : Bool
  error : Bool
  /-- The timeout of `wait_for` is running. -/
  timer : Bool
  ending : Option Ending

namespace ResponseWait

def setResult (w : ResponseWait) (ack : StartAck) : ResponseWait := { w with done := .result ack }

def handleCreated (w : ResponseWait) (payload : Payload) : ResponseWait :=
  if optionalText payload "generation_id" = some w.generationId ∧ !w.done.isDone then
    w.setResult (createdAck w.generationId payload)
  else w

def handleError (w : ResponseWait) (payload : Payload) : ResponseWait :=
  if optionalText payload "generation_id" = some w.generationId ∧ !w.done.isDone then
    w.setResult (errorAck w.generationId payload)
  else w

/-- The channel calls the handlers that are subscribed to an event. -/
def handle (w : ResponseWait) (f : Frame) : ResponseWait :=
  if f.event = "response.created" then
    if w.created then w.handleCreated f.payload else w
  else if f.event = "error" then
    if w.error then w.handleError f.payload else w
  else w

/-- The `finally` of the task; `wait_for` has stopped its timeout. -/
def finish (w : ResponseWait) (ending : Ending) : ResponseWait :=
  { w with
    place := .ended
    created := false
    error := false
    timer := false
    ending := some ending }

def sendReturns (w : ResponseWait) (ok : Bool) : ResponseWait :=
  if ok then { w with place := .waiting, timer := true } else w.finish .raised

/-- The timeout cancels what the task waits for, unless it is done. -/
def expire (w : ResponseWait) : ResponseWait :=
  { w with timer := false, done := if w.done.isDone then w.done else .cancelled }

/-- The task goes on. Where both have happened before that, the timeout may win. -/
def resume (w : ResponseWait) (late : Bool) : ResponseWait :=
  match w.done with
  | .result ack => if !w.timer ∧ late then w.finish .timedOut else w.finish (.returned ack)
  | _ => w.finish .timedOut

end ResponseWait

structure ControlSession where
  session : VoxRtcSession
  sent : List Frame
  waits : List ResponseWait

inductive WaitStep where
  | start (options : Option Options) (generated : GeneratedId)
  | sent (i : Nat) (ok : Bool)
  | frame (f : Frame)
  | expire (i : Nat)
  | resume (i : Nat) (late : Bool)

def waitGeneration (options : Option Options) (generated : GeneratedId) : String :=
  (options.bind (·.generationId)).getD generated.text

namespace ControlSession

def initial : ControlSession := ⟨{}, [], []⟩

/-- `start_response_and_wait`, up to the call that sends. -/
def startResponseAndWait (s : ControlSession) (options : Option Options) (generated : GeneratedId) :
    ControlSession :=
  let generationId := waitGeneration options generated
  let (session, command) := s.session.startResponse
    (some { options.getD {} with generationId := some generationId }) generated
  { s with
    session := session
    waits := s.waits ++ [⟨generationId, command, .sending, .pending, true, true, false, none⟩] }

def step (s : ControlSession) : WaitStep → Option ControlSession
  | .start options generated => some (s.startResponseAndWait options generated)
  | .sent i ok => do
    let w ← s.waits[i]?
    if w.place = .sending then
      return { s with
        sent := if ok then s.sent ++ [w.command] else s.sent
        waits := s.waits.set i (w.sendReturns ok) }
    else none
  | .frame f => some { s with waits := s.waits.map (·.handle f) }
  | .expire i => do
    let w ← s.waits[i]?
    if w.timer then return { s with waits := s.waits.set i w.expire } else none
  | .resume i late => do
    let w ← s.waits[i]?
    if w.place = .waiting ∧ w.done.isDone then
      return { s with waits := s.waits.set i (w.resume late) }
    else none

def occurs (s : ControlSession) : WaitStep → List Occurrence
  | .start options generated => [.began s.waits.length (waitGeneration options generated)]
  | .sent i ok => if ok then [] else [.failed i]
  | .frame f => [.frame f]
  | .expire i => [.expired i]
  | .resume .. => []

end ControlSession

/-- The step is one of the task itself. -/
def WaitStep.Own (i : Nat) : WaitStep → Prop
  | .sent j _ => j = i
  | .expire j => j = i
  | .resume j _ => j = i
  | _ => False

def ResponseWait.view (w : ResponseWait) : Responses.Wait Ending :=
  ⟨w.generationId, w.ending, w.created, w.error, w.timer⟩

def responseWaits : Waits ControlSession WaitStep Ending where
  system := ⟨.initial, ControlSession.step⟩
  occurs := ControlSession.occurs
  waits s := s.waits.map ResponseWait.view
  own := WaitStep.Own

/-- What an event that bears the generation of a wait makes the future. -/
def acknowledgement (generationId : String) : Occurrence → Option StartAck
  | .frame f =>
    if optionalText f.payload "generation_id" = some generationId then
      if f.event = "response.created" then some (createdAck generationId f.payload)
      else if f.event = "error" then some (errorAck generationId f.payload)
      else none
    else none
  | _ => none

/-- A task ends with its first event, its own timeout, or the failure of its own send. -/
def Due (generationId : String) (i : Nat) (history : List Occurrence) (ending : Option Ending) :
    Prop :=
  ∀ e ∈ ending,
    (∃ ack, e = .returned ack ∧
      history.findSome? (acknowledgement generationId) = some ack) ∨
    (e = .timedOut ∧ .expired i ∈ history) ∨ e = .raised ∧ .failed i ∈ history

section Answers

variable {generationId : String} {i : Nat} {history : List Occurrence}

/-- The future is done by the first event, unless the timeout has cancelled it. -/
def Future.Told (generationId : String) (i : Nat) (history : List Occurrence) : Future → Prop
  | .pending => history.findSome? (acknowledgement generationId) = none
  | .result ack => history.findSome? (acknowledgement generationId) = some ack
  | .cancelled => .expired i ∈ history

theorem Due.later {ending : Option Ending}
    (due : Due generationId i history ending) (more : List Occurrence) :
    Due generationId i (history ++ more) ending := by
  intro e member
  rcases due e member with ⟨ack, rfl, answered⟩ | ⟨rfl, expired⟩ | ⟨rfl, failed⟩
  · exact .inl ⟨ack, rfl, by rw [List.findSome?_append, answered, Option.some_or]⟩
  · exact .inr (.inl ⟨rfl, List.mem_append_left more expired⟩)
  · exact .inr (.inr ⟨rfl, List.mem_append_left more failed⟩)

theorem Future.Told.quiet {done : Future} {o : Occurrence}
    (told : Future.Told generationId i history done)
    (quiet : acknowledgement generationId o = none ∨ done.isDone = true) :
    Future.Told generationId i (history ++ [o]) done := by
  cases done with
  | pending =>
    have none : acknowledgement generationId o = none := by simpa [Future.isDone] using quiet
    have before : history.findSome? (acknowledgement generationId) = .none := told
    simp [Future.Told, List.findSome?_append, before, none]
  | result ack =>
    have before : history.findSome? (acknowledgement generationId) = some ack := told
    simp [Future.Told, List.findSome?_append, before]
  | cancelled => exact List.mem_append_left [o] told

end Answers

namespace ResponseWait

variable {i : Nat} {w : ResponseWait} {f : Frame} {history : List Occurrence}

/-- A task holds its subscriptions until it ends, and its timeout while it waits, up to when
the future is done. -/
structure Kept (i : Nat) (w : ResponseWait) (history : List Occurrence) : Prop where
  told : w.ending = none → Future.Told w.generationId i history w.done
  place : w.place = .ended ↔ w.ending.isSome = true
  created : w.created = w.ending.isNone
  error : w.error = w.ending.isNone
  stopped : w.place ≠ .waiting → w.timer = false
  expired : w.place = .waiting → w.timer = false → .expired i ∈ history ∧ w.done.isDone = true
  due : Due w.generationId i history w.ending

theorem Kept.released (kept : w.Kept i history) (settled : w.ending.isSome = true) :
    w.created = false ∧ w.error = false ∧ w.timer = false := by
  have none : w.ending.isNone = false := by
    rw [← Option.not_isSome, settled, Bool.not_true]
  have ended : w.place = .ended := kept.place.mpr settled
  exact ⟨kept.created.trans none, kept.error.trans none, kept.stopped (by simp [ended])⟩

theorem Kept.held (kept : w.Kept i history) (pending : w.ending = none) :
    w.created = true ∧ w.error = true := by
  rw [kept.created, kept.error, pending, Option.isNone_none]
  exact ⟨rfl, rfl⟩

theorem Kept.pending (kept : w.Kept i history) (place : w.place ≠ .ended) : w.ending = none := by
  cases ending : w.ending with
  | none => rfl
  | some e =>
    have ended := kept.place.mpr (by rw [ending, Option.isSome_some])
    exact absurd ended place

theorem Kept.waiting (kept : w.Kept i history) (timer : w.timer = true) : w.place = .waiting := by
  cases place : w.place with
  | waiting => rfl
  | sending | ended =>
    have stopped := kept.stopped (by simp [place])
    rw [timer] at stopped
    cases stopped

theorem kept_begin (generationId : String) (command : Frame) :
    Kept i ⟨generationId, command, .sending, .pending, true, true, false, none⟩ [] := by
  constructor <;> simp [Future.Told, Due]

/-- An occurrence that cannot answer the task, or comes when it is answered. -/
theorem Kept.quiet (kept : w.Kept i history) {o : Occurrence}
    (quiet : acknowledgement w.generationId o = none ∨ w.done.isDone = true ∨
      w.ending.isSome = true) : w.Kept i (history ++ [o]) where
  told pending := by
    refine (kept.told pending).quiet ?_
    simpa [pending] using quiet
  place := kept.place
  created := kept.created
  error := kept.error
  stopped := kept.stopped
  expired waiting timer :=
    ⟨List.mem_append_left [o] (kept.expired waiting timer).1, (kept.expired waiting timer).2⟩
  due := kept.due.later [o]

theorem kept_finish {ending : Ending} (due : Due w.generationId i history (some ending)) :
    (w.finish ending).Kept i history where
  told pending := by cases pending
  place := by simp [ResponseWait.finish]
  created := rfl
  error := rfl
  stopped _ := rfl
  expired waiting := by cases waiting
  due := due

/-- A task that is subscribed is answered by the events that acknowledge it. -/
theorem handle_held (created : w.created = true) (error : w.error = true) :
    w.handle f = (acknowledgement w.generationId (.frame f)).elim w fun ack =>
      if w.done.isDone then w else w.setResult ack := by
  unfold handle acknowledgement
  by_cases own : optionalText f.payload "generation_id" = some w.generationId
  · by_cases first : f.event = "response.created"
    · cases done : w.done.isDone <;> simp [own, first, created, done, handleCreated]
    · by_cases second : f.event = "error"
      · cases done : w.done.isDone <;> simp [own, second, error, done, handleError]
      · simp [own, first, second]
  · by_cases first : f.event = "response.created"
    · simp [own, first, created, handleCreated]
    · by_cases second : f.event = "error" <;> simp [own, first, second, error, handleError]

theorem handle_released (created : w.created = false) (error : w.error = false) :
    w.handle f = w := by
  unfold handle
  simp [created, error]

theorem Kept.setResult (kept : w.Kept i history) (pending : w.ending = none)
    (undone : w.done.isDone = false) {o : Occurrence} {ack : StartAck}
    (answers : acknowledgement w.generationId o = some ack) :
    (w.setResult ack).Kept i (history ++ [o]) := by
  have told := kept.told pending
  have open' : history.findSome? (acknowledgement w.generationId) = none := by
    cases done : w.done with
    | pending => rwa [done] at told
    | result | cancelled =>
      rw [done] at undone
      cases undone
  refine ⟨fun _ => ?_, kept.place, kept.created, kept.error, kept.stopped, fun waiting timer => ?_,
    kept.due.later [o]⟩
  · simp [ResponseWait.setResult, Future.Told, List.findSome?_append, open', answers]
  · have done := (kept.expired waiting timer).2
    rw [undone] at done
    cases done

theorem Kept.handle (kept : w.Kept i history) (f : Frame) :
    (w.handle f).Kept i (history ++ [.frame f]) := by
  cases settled : w.ending.isSome with
  -- The `finally` has unsubscribed: a task that has ended hears nothing.
  | true =>
    obtain ⟨created, error, _⟩ := kept.released settled
    rw [handle_released created error]
    exact kept.quiet (.inr (.inr settled))
  | false =>
    have pending : w.ending = none := by simpa using settled
    obtain ⟨created, error⟩ := kept.held pending
    rw [handle_held created error]
    cases answers : acknowledgement w.generationId (.frame f) with
    | none => exact kept.quiet (.inl answers)
    | some ack =>
      -- A future that is done stays as it is.
      cases done : w.done.isDone with
      | true => exact kept.quiet (.inr (.inl done))
      | false => exact kept.setResult pending done answers

theorem Kept.sent (kept : w.Kept i history) (sending : w.place = .sending) :
    (w.sendReturns true).Kept i history where
  told := kept.told
  place := by
    have pending := kept.pending (by simp [sending])
    simp [sendReturns, pending]
  created := kept.created
  error := kept.error
  stopped waiting := absurd rfl waiting
  expired _ timer := by cases timer
  due := kept.due

theorem kept_raised : (w.sendReturns false).Kept i (history ++ [.failed i]) := by
  apply kept_finish
  intro e raised
  cases raised
  exact .inr (.inr ⟨rfl, by simp⟩)

theorem expire_isDone : w.expire.done.isDone = true := by
  cases done : w.done <;> simp [ResponseWait.expire, done, Future.isDone]

theorem Kept.expire (kept : w.Kept i history) (timer : w.timer = true) :
    w.expire.Kept i (history ++ [.expired i]) := by
  have waiting := kept.waiting timer
  have later : w.Kept i (history ++ [.expired i]) := kept.quiet (.inl rfl)
  refine ⟨fun pending => ?_, later.place, later.created, later.error, fun _ => rfl, fun _ _ => ?_,
    later.due⟩
  · cases done : w.done.isDone with
    | true => simpa [ResponseWait.expire, done] using later.told pending
    | false => simp [ResponseWait.expire, done, Future.Told]
  · exact ⟨by simp, expire_isDone⟩

/-- A task that goes on ends, and has what it ends with from its future or its timeout. -/
theorem Kept.resume (kept : w.Kept i history) (waiting : w.place = .waiting)
    (done : w.done.isDone = true) (late : Bool) : (w.resume late).Kept i history := by
  have told := kept.told (kept.pending (by simp [waiting]))
  cases answer : w.done with
  | pending =>
    rw [answer] at done
    cases done
  | cancelled =>
    rw [answer] at told
    simp only [ResponseWait.resume, answer]
    apply kept_finish
    intro e timedOut
    cases timedOut
    exact .inr (.inl ⟨rfl, told⟩)
  | result ack =>
    rw [answer] at told
    simp only [ResponseWait.resume, answer]
    split
    -- The timeout has expired since the future was done, and wins.
    next lost =>
      have stopped : w.timer = false := by simpa using lost.1
      apply kept_finish
      intro e timedOut
      cases timedOut
      exact .inr (.inl ⟨rfl, (kept.expired waiting stopped).1⟩)
    next =>
      apply kept_finish
      intro e returned
      cases returned
      exact .inl ⟨ack, rfl, told⟩

@[simp] theorem handle_generationId (f : Frame) : (w.handle f).generationId = w.generationId := by
  unfold handle handleCreated handleError setResult
  repeat' split
  all_goals rfl

@[simp] theorem sendReturns_generationId (ok : Bool) :
    (w.sendReturns ok).generationId = w.generationId := by
  unfold sendReturns
  split <;> rfl

@[simp] theorem resume_generationId (late : Bool) :
    (w.resume late).generationId = w.generationId := by
  unfold resume
  repeat' split
  all_goals rfl

theorem resume_ending (late : Bool) : (w.resume late).ending.isSome = true := by
  unfold resume
  repeat' split
  all_goals rfl

/-- A task keeps its generation, and what is seen of it when it has ended. -/
def Stays (w w' : ResponseWait) : Prop :=
  w'.generationId = w.generationId ∧ (w.ending.isSome = true → w'.view = w.view)

theorem Stays.refl : w.Stays w := ⟨rfl, fun _ => rfl⟩

end ResponseWait

namespace ControlSession

open ResponseWait

variable {s t : ControlSession} {l : WaitStep} {i : Nat} {w : ResponseWait}
  {record : List Occurrence}

theorem step_sent {ok : Bool} (taken : s.step (.sent i ok) = some t) :
    ∃ w, s.waits[i]? = some w ∧ w.place = .sending ∧
      t.waits = s.waits.set i (w.sendReturns ok) := by
  simp only [step, Option.bind_eq_bind, Option.bind_eq_some_iff, Option.pure_def,
    Option.ite_none_right_eq_some, Option.some.injEq] at taken
  obtain ⟨w, here, sending, rfl⟩ := taken
  exact ⟨w, here, sending, rfl⟩

theorem step_expire (taken : s.step (.expire i) = some t) :
    ∃ w, s.waits[i]? = some w ∧ w.timer = true ∧ t.waits = s.waits.set i w.expire := by
  simp only [step, Option.bind_eq_bind, Option.bind_eq_some_iff, Option.pure_def,
    Option.ite_none_right_eq_some, Option.some.injEq] at taken
  obtain ⟨w, here, timer, rfl⟩ := taken
  exact ⟨w, here, timer, rfl⟩

theorem step_resume {late : Bool} (taken : s.step (.resume i late) = some t) :
    ∃ w, s.waits[i]? = some w ∧ w.place = .waiting ∧ w.done.isDone = true ∧
      t.waits = s.waits.set i (w.resume late) := by
  simp only [step, Option.bind_eq_bind, Option.bind_eq_some_iff, Option.pure_def,
    Option.ite_none_right_eq_some, Option.some.injEq] at taken
  obtain ⟨w, here, ⟨waiting, done⟩, rfl⟩ := taken
  exact ⟨w, here, waiting, done, rfl⟩

/-- Each task, with what has occurred since it began. -/
def Tracked (record : List Occurrence) (s : ControlSession) : Prop :=
  Pool.Tracked (fun i w => .began i w.generationId) (fun i w => w.Kept i) record s.waits

theorem tracked_step (tracked : Tracked record s) (taken : s.step l = some t) :
    Tracked (record ++ s.occurs l) t := by
  cases l with
  | start options generated =>
    cases taken
    exact Pool.Tracked.begin tracked (kept_begin _ _) fun _ _ _ kept => kept.quiet (.inl rfl)
  | frame f =>
    cases taken
    exact Pool.Tracked.map tracked (by simp) fun _ _ _ kept => kept.handle f
  | sent i ok =>
    obtain ⟨w, here, sending, moved⟩ := step_sent taken
    rw [Tracked, moved]
    cases ok with
    | true =>
      refine Pool.Tracked.set tracked here (by simp) (fun _ kept => ?_) fun _ _ _ _ kept => ?_
      · simpa [occurs] using kept.sent sending
      · simpa [occurs] using kept
    | false =>
      exact Pool.Tracked.set tracked here (by simp) (fun _ _ => kept_raised)
        fun _ _ _ _ kept => kept.quiet (.inl rfl)
  | expire i =>
    obtain ⟨w, here, timer, moved⟩ := step_expire taken
    rw [Tracked, moved]
    exact Pool.Tracked.set tracked here rfl (fun _ kept => kept.expire timer)
      fun _ _ _ _ kept => kept.quiet (.inl rfl)
  | resume i late =>
    obtain ⟨w, here, waiting, done, moved⟩ := step_resume taken
    rw [Tracked, moved]
    refine Pool.Tracked.set tracked here (by simp) (fun _ kept => ?_) fun _ _ _ _ kept => ?_
    · simpa [occurs] using kept.resume waiting done late
    · simpa [occurs] using kept

theorem tracked_initial : Tracked [] initial := Pool.tracked_nil

variable {C : ControlSession → WaitStep → Prop}

theorem tracked {r : ControlSession × List Occurrence}
    (reached : (responseWaits.system.recorded responseWaits.occurs).Reaches (fun s => C s.1) r) :
    Tracked r.2 r.1 :=
  System.Reaches.recorded (M := responseWaits.system) (P := Tracked) tracked_initial
    (fun _ _ _ _ tracked _ taken => tracked_step tracked taken) reached

/-- Every task of a session that is reached. -/
theorem kept_of_reaches (reached : responseWaits.system.Reaches C s)
    (here : s.waits[i]? = some w) : ∃ history, w.Kept i history := by
  obtain ⟨record, recorded⟩ := reached.with_record responseWaits.occurs
  exact Pool.Tracked.property (tracked recorded) here

/-- A step leaves a task that has ended alone, and every task its generation. -/
theorem settled_step (reached : responseWaits.system.Reaches C s) (taken : s.step l = some t)
    (here : s.waits[i]? = some w) :
    ∃ w', t.waits[i]? = some w' ∧ w.Stays w' := by
  cases l with
  | start options generated =>
    cases taken
    exact ⟨w, Pool.read_append_old here, .refl⟩
  | frame f =>
    cases taken
    obtain ⟨history, kept⟩ := kept_of_reaches reached here
    refine ⟨w.handle f, by simp [here], by simp, fun settled => ?_⟩
    obtain ⟨created, error, _⟩ := kept.released settled
    rw [handle_released created error]
  | sent j ok =>
    obtain ⟨v, found, sending, moved⟩ := step_sent taken
    obtain ⟨history, kept⟩ := kept_of_reaches reached found
    rw [moved]
    refine Pool.read_set_related (R := Stays) found here ⟨by simp, fun settled => ?_⟩ .refl
    rw [kept.place.mpr settled] at sending
    cases sending
  | expire j =>
    obtain ⟨v, found, timer, moved⟩ := step_expire taken
    obtain ⟨history, kept⟩ := kept_of_reaches reached found
    rw [moved]
    refine Pool.read_set_related (R := Stays) found here ⟨rfl, fun settled => ?_⟩ .refl
    rw [(kept.released settled).2.2] at timer
    cases timer
  | resume j late =>
    obtain ⟨v, found, waiting, _, moved⟩ := step_resume taken
    obtain ⟨history, kept⟩ := kept_of_reaches reached found
    rw [moved]
    refine Pool.read_set_related (R := Stays) found here ⟨by simp, fun settled => ?_⟩ .refl
    rw [kept.place.mpr settled] at waiting
    cases waiting

/-! ## Progress -/

/-- How many of its own steps a task has before it goes on for the last time. -/
def behind (i : Nat) (s : ControlSession) : Nat :=
  s.waits[i]?.elim 0 fun w => if w.place = .sending then 2 else if w.timer then 1 else 0

@[simp] theorem handle_place (f : Frame) : (w.handle f).place = w.place := by
  unfold handle handleCreated handleError setResult
  repeat' split
  all_goals rfl

@[simp] theorem handle_timer (f : Frame) : (w.handle f).timer = w.timer := by
  unfold handle handleCreated handleError setResult
  repeat' split
  all_goals rfl

/-- The others do not hold a task up. -/
theorem behind_other (other : ¬l.Own i) (here : s.waits[i]? = some w) (taken : s.step l = some t) :
    ∃ w', t.waits[i]? = some w' ∧ behind i t = behind i s := by
  -- Each of the three moves of a task leaves the other tasks where they are.
  have apart (j : Nat) (v : ResponseWait) (different : i ≠ j) (moved : t.waits = s.waits.set j v) :
      ∃ w', t.waits[i]? = some w' ∧ behind i t = behind i s := by
    have kept : t.waits[i]? = some w := by
      rw [moved, Pool.read_set_other different, here]
    exact ⟨w, kept, by rw [behind, behind, kept, here]⟩
  cases l with
  | start options generated =>
    cases taken
    have kept : (s.startResponseAndWait options generated).waits[i]? = some w :=
      Pool.read_append_old here
    exact ⟨w, kept, by rw [behind, behind, kept, here]⟩
  | frame f =>
    cases taken
    exact ⟨w.handle f, by simp [here], by simp [behind, here]⟩
  | sent j ok =>
    obtain ⟨v, _, _, moved⟩ := step_sent taken
    exact apart j _ (Ne.symm other) moved
  | expire j =>
    obtain ⟨v, _, _, moved⟩ := step_expire taken
    exact apart j _ (Ne.symm other) moved
  | resume j late =>
    obtain ⟨v, _, _, _, moved⟩ := step_resume taken
    exact apart j _ (Ne.symm other) moved

theorem own_step (opened : responseWaits.Open i s) (reached : responseWaits.system.Reaches C s)
    (own : l.Own i) (taken : s.step l = some t) :
    responseWaits.Settled i t ∨ responseWaits.Open i t ∧ behind i t < behind i s := by
  obtain ⟨_, shown, pending⟩ := opened
  obtain ⟨w, here, rfl⟩ := Waits.read_view rfl shown
  obtain ⟨history, kept⟩ := kept_of_reaches reached here
  cases l with
  | start | frame => cases own
  | sent j ok =>
    cases own
    obtain ⟨v, found, sending, moved⟩ := step_sent taken
    cases found.symm.trans here
    have moved' : t.waits[i]? = some (w.sendReturns ok) := by
      rw [moved, Pool.read_set_self found]
    cases ok with
    | false => exact .inl ⟨_, Waits.view_read rfl moved', rfl⟩
    | true =>
      refine .inr ⟨⟨_, Waits.view_read rfl moved', pending⟩, ?_⟩
      simp [behind, moved', found, sending, sendReturns]
  | expire j =>
    cases own
    obtain ⟨v, found, timer, moved⟩ := step_expire taken
    cases found.symm.trans here
    have moved' : t.waits[i]? = some w.expire := by
      rw [moved, Pool.read_set_self found]
    refine .inr ⟨⟨_, Waits.view_read rfl moved', pending⟩, ?_⟩
    simp [behind, moved', found, kept.waiting timer, timer, expire]
  | resume j late =>
    cases own
    obtain ⟨v, found, _, _, moved⟩ := step_resume taken
    cases found.symm.trans here
    have moved' : t.waits[i]? = some (w.resume late) := by
      rw [moved, Pool.read_set_self found]
    exact .inl ⟨_, Waits.view_read rfl moved', resume_ending late⟩

/-- A task can send, or its timeout can expire, or its future is done and it can go on. -/
theorem own_enabled (opened : responseWaits.Open i s)
    (reached : responseWaits.system.Reaches C s) :
    responseWaits.system.Enabled (WaitStep.Own i) s := by
  obtain ⟨_, shown, pending⟩ := opened
  obtain ⟨w, here, rfl⟩ := Waits.read_view rfl shown
  obtain ⟨history, kept⟩ := kept_of_reaches reached here
  cases place : w.place with
  | sending => exact ⟨.sent i true, rfl, by simp [responseWaits, step, here, place]⟩
  | waiting =>
    cases timer : w.timer with
    | true => exact ⟨.expire i, rfl, by simp [responseWaits, step, here, timer]⟩
    | false =>
      -- Its timeout has expired, which leaves the future done.
      have done := (kept.expired place timer).2
      exact ⟨.resume i false, rfl, by simp [responseWaits, step, here, place, done]⟩
  | ended =>
    have settled := kept.place.mp place
    have still : w.ending = none := pending
    rw [still] at settled
    cases settled

theorem advance : responseWaits.Advance C i (behind i) where
  enabled s reached opened := own_enabled opened reached
  own s l t reached opened _ own taken := own_step opened reached own taken
  others s l t opened other taken := by
    obtain ⟨_, shown, _⟩ := opened
    obtain ⟨w, here, _⟩ := Waits.read_view rfl shown
    obtain ⟨w', kept, same⟩ := behind_other other here taken
    exact ⟨⟨w'.view, Waits.view_read rfl kept⟩, same⟩

theorem pooled : responseWaits.Pooled C (·.waits) ResponseWait.view fun i w => w.Kept i where
  seen _ := rfl
  tracked _ reached := tracked reached
  stays _ _ _ reached _ taken _ _ here := settled_step reached taken here
  released _ _ _ kept settled := kept.released settled

end ControlSession

/-- Tasks end as they should, whatever the sends do. -/
theorem tasks_settle {C : ControlSession → WaitStep → Prop} : WaitsSettle responseWaits C Due :=
  ControlSession.pooled.settle (fun _ _ _ kept => kept.due) fun _ => ControlSession.advance

end VoxRtc.Python.Session
