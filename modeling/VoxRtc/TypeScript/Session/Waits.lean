import VoxRtc.TypeScript.Session.Responses
import VoxRtc.TypeScript.Session.SpeechContext
import VoxRtc.Responses.Waits

/-!
# Waits of the TypeScript session

`startResponseAndWait` of `typescript/vox-rtc-server/src/session.ts`, called any number of
times. Each call registers its two handlers and its timer in one turn, in which the channel
calls neither, and then sends; the channel may call handlers while it sends.
-/
namespace VoxRtc.TypeScript.Session

open Wire Responses Transition

def responseOutput : Option Value → Option ResponseOutput :=
  readOutput fun speed => (optionalNumber speed).isSome

inductive StartResponseResult where
  | accepted (responseId : Option String) (generationId : String) (output : Option ResponseOutput)
  | rejected (code : Option String) (recoverable : Bool) (message : Option String)

/-- How a promise is settled; it is rejected with what the send has thrown. -/
inductive Promise where
  | resolved (result : StartResponseResult)
  | threw

def createdResult (generationId : String) (payload : Payload) : StartResponseResult :=
  .accepted (optionalText payload "response_id") generationId
    (responseOutput (payload.get? "output"))

def errorResult (payload : Payload) : StartResponseResult :=
  let recoverable := match payload.get? "recoverable" with
    | some (.bool recoverable) => recoverable
    | _ => true
  .rejected (optionalText payload "code") recoverable (optionalText payload "message")

/-- `VOX_START_ACK_TIMEOUT_CODE`. -/
def voxStartAckTimeoutCode : String := "start_ack_timeout"

def timeoutResult (generationId : String) : StartResponseResult :=
  .rejected (some voxStartAckTimeoutCode) true
    (some s!"Timed out waiting for response.created ack for {generationId}")

structure ResponseWait where
  generationId : String
  command : Frame
  /-- The executor is in the call that sends the command. -/
  sending : Bool
  done : Bool
  /-- `offCreated`, `offError` and the timer have still to be called and cleared. -/
  created : Bool
  error : Bool
  timer : Bool
  promise : Option Promise

namespace ResponseWait

/-- A promise that is settled stays as it is. -/
def finish (w : ResponseWait) (result : StartResponseResult) : ResponseWait :=
  if w.done then w
  else { w with
    done := true
    timer := false
    created := false
    error := false
    promise := w.promise.or (some (.resolved result)) }

def handleCreated (w : ResponseWait) (payload : Payload) : ResponseWait :=
  if optionalText payload "generation_id" = some w.generationId then
    w.finish (createdResult w.generationId payload)
  else w

def handleError (w : ResponseWait) (payload : Payload) : ResponseWait :=
  if optionalText payload "generation_id" = some w.generationId then w.finish (errorResult payload)
  else w

/-- The channel calls the handlers that are registered for an event. -/
def handle (w : ResponseWait) (f : Frame) : ResponseWait :=
  if f.event = "response.created" then
    if w.created then w.handleCreated f.payload else w
  else if f.event = "error" then
    if w.error then w.handleError f.payload else w
  else w

/-- The executor ends, or it throws and the promise is rejected. -/
def sendReturns (w : ResponseWait) (ok : Bool) : ResponseWait :=
  if ok then { w with sending := false }
  else { w with sending := false, promise := w.promise.or (some .threw) }

def expire (w : ResponseWait) : ResponseWait :=
  { w with timer := false }.finish (timeoutResult w.generationId)

end ResponseWait

structure ControlSession where
  session : VoxRtcSession
  sent : List Frame
  waits : List ResponseWait

inductive WaitStep where
  | start (options : Option Options) (generated : GeneratedId)
  | sent (i : Nat) (ok : Bool)
  | frame (f : Frame)
  | expire (i : Nat)

def waitGeneration (options : Option Options) (generated : GeneratedId) : String :=
  (options.bind (·.generationId)).getD generated.text

namespace ControlSession

def initial : ControlSession := ⟨{}, [], []⟩

/-- `startResponseAndWait`, up to the call that sends. -/
def startResponseAndWait (s : ControlSession) (options : Option Options) (generated : GeneratedId) :
    ControlSession :=
  let generationId := waitGeneration options generated
  let (session, command) := s.session.startResponse
    (some { options.getD {} with generationId := some generationId }) generated
  { s with
    session := session
    waits := s.waits ++ [⟨generationId, command, true, false, true, true, true, none⟩] }

def step (s : ControlSession) : WaitStep → Option ControlSession
  | .start options generated => some (s.startResponseAndWait options generated)
  | .sent i ok => do
    let w ← s.waits[i]?
    if w.sending then
      return { s with
        sent := if ok then s.sent ++ [w.command] else s.sent
        waits := s.waits.set i (w.sendReturns ok) }
    else none
  | .frame f => some { s with waits := s.waits.map (·.handle f) }
  -- A timer waits until the executor has ended.
  | .expire i => do
    let w ← s.waits[i]?
    if w.timer ∧ !w.sending then return { s with waits := s.waits.set i w.expire } else none

def occurs (s : ControlSession) : WaitStep → List Occurrence
  | .start options generated => [.began s.waits.length (waitGeneration options generated)]
  | .sent i ok => if ok then [] else [.failed i]
  | .frame f => [.frame f]
  | .expire i => [.expired i]

end ControlSession

/-- The step is one of the wait itself. -/
def WaitStep.Own (i : Nat) : WaitStep → Prop
  | .sent j _ => j = i
  | .expire j => j = i
  | _ => False

def ResponseWait.view (w : ResponseWait) : Responses.Wait Promise :=
  ⟨w.generationId, w.promise, w.created, w.error, w.timer⟩

def responseWaits : Waits ControlSession WaitStep Promise where
  system := ⟨.initial, ControlSession.step⟩
  occurs := ControlSession.occurs
  waits s := s.waits.map ResponseWait.view
  own := WaitStep.Own

/-- What an event that bears the generation of a wait settles it with. -/
def acknowledgement (generationId : String) (f : Frame) : Option StartResponseResult :=
  if optionalText f.payload "generation_id" = some generationId then
    if f.event = "response.created" then some (createdResult generationId f.payload)
    else if f.event = "error" then some (errorResult f.payload)
    else none
  else none

def outcome (generationId : String) (i : Nat) : Occurrence → Option Promise
  | .began .. => none
  | .frame f => (acknowledgement generationId f).map .resolved
  | .expired j => if j = i then some (.resolved (timeoutResult generationId)) else none
  | .failed j => if j = i then some .threw else none

/-- A send that throws finds its wait settled. -/
def SendsHold (s : ControlSession) : WaitStep → Prop
  | .sent i false => ∀ w ∈ s.waits[i]?, w.done = true
  | _ => True

/-- In the runs whose steps meet a condition, every send that throws finds its wait settled. -/
def AllSendsHold (C : ControlSession → WaitStep → Prop) : Prop :=
  ∀ s l t, responseWaits.system.Reaches C s → C s l → responseWaits.system.step s l = some t →
    SendsHold s l

namespace ResponseWait

variable {i : Nat} {w : ResponseWait} {f : Frame} {history : List Occurrence}

/-- The promise is settled by what came first, and everything is held until then. -/
structure Kept (i : Nat) (w : ResponseWait) (history : List Occurrence) : Prop where
  first : First outcome w.generationId i history w.promise
  done : w.done = w.promise.isSome
  created : w.created = !w.done
  error : w.error = !w.done
  timer : w.timer = !w.done

theorem Kept.held (kept : w.Kept i history) (pending : w.promise = none) :
    w.done = false ∧ w.created = true ∧ w.error = true ∧ w.timer = true := by
  have done : w.done = false := by rw [kept.done, pending, Option.isSome_none]
  rw [kept.created, kept.error, kept.timer, done]
  exact ⟨rfl, rfl, rfl, rfl⟩

theorem Kept.released (kept : w.Kept i history) (settled : w.promise.isSome = true) :
    w.done = true ∧ w.created = false ∧ w.error = false ∧ w.timer = false := by
  have done : w.done = true := by rw [kept.done, settled]
  rw [kept.created, kept.error, kept.timer, done]
  exact ⟨rfl, rfl, rfl, rfl⟩

theorem kept_begin (generationId : String) (command : Frame) :
    Kept i ⟨generationId, command, true, false, true, true, true, none⟩ [] :=
  ⟨rfl, rfl, rfl, rfl, rfl⟩

/-- What comes after the promise is settled does not matter to it. -/
theorem Kept.later (kept : w.Kept i history) (settled : w.promise.isSome = true)
    (more : List Occurrence) : w.Kept i (history ++ more) := by
  refine { kept with first := ?_ }
  have first := kept.first
  rw [First] at first ⊢
  rw [List.findSome?_append, ← first, Option.or_of_isSome settled]

theorem Kept.quiet (kept : w.Kept i history) {o : Occurrence}
    (quiet : outcome w.generationId i o = none) : w.Kept i (history ++ [o]) := by
  refine { kept with first := ?_ }
  have first := kept.first
  rw [First] at first ⊢
  rw [List.findSome?_append, ← first]
  simp [quiet]

theorem Kept.finish (kept : w.Kept i history) (pending : w.promise = none) {o : Occurrence}
    {result : StartResponseResult}
    (settles : outcome w.generationId i o = some (.resolved result)) :
    (w.finish result).Kept i (history ++ [o]) := by
  have unfinished := (kept.held pending).1
  have first := kept.first
  rw [First, pending] at first
  have settled : (w.finish result).promise = some (.resolved result) := by
    simp [ResponseWait.finish, unfinished, pending]
  have same : (w.finish result).generationId = w.generationId := by
    simp [ResponseWait.finish, unfinished]
  constructor
  · rw [First, settled, same, List.findSome?_append, ← first]
    simp [settles]
  all_goals simp [ResponseWait.finish, unfinished]

/-- A wait that holds both handlers is settled by the events that acknowledge it. -/
theorem handle_held (created : w.created = true) (error : w.error = true) :
    w.handle f = (acknowledgement w.generationId f).elim w w.finish := by
  unfold handle acknowledgement
  by_cases own : optionalText f.payload "generation_id" = some w.generationId
  · by_cases first : f.event = "response.created"
    · simp [own, first, created, handleCreated]
    · by_cases second : f.event = "error" <;> simp [own, first, second, error, handleError]
  · by_cases first : f.event = "response.created"
    · simp [own, first, created, handleCreated]
    · by_cases second : f.event = "error" <;> simp [own, first, second, error, handleError]

theorem handle_released (created : w.created = false) (error : w.error = false) :
    w.handle f = w := by
  unfold handle
  simp [created, error]

theorem Kept.handle (kept : w.Kept i history) (f : Frame) :
    (w.handle f).Kept i (history ++ [.frame f]) := by
  cases settled : w.promise.isSome with
  -- A settled wait has called the handles, so it hears nothing.
  | true =>
    obtain ⟨_, created, error, _⟩ := kept.released settled
    rw [handle_released created error]
    exact kept.later settled _
  -- An open wait is settled by the first event with its generation.
  | false =>
    have pending : w.promise = none := by simpa using settled
    obtain ⟨_, created, error, _⟩ := kept.held pending
    rw [handle_held created error]
    cases acknowledged : acknowledgement w.generationId f with
    | some result => exact kept.finish pending (by simp [outcome, acknowledged])
    | none => exact kept.quiet (by simp [outcome, acknowledged])

theorem Kept.sent (kept : w.Kept i history) : (w.sendReturns true).Kept i history :=
  ⟨kept.first, kept.done, kept.created, kept.error, kept.timer⟩

theorem Kept.threw (kept : w.Kept i history) (done : w.done = true) :
    (w.sendReturns false).Kept i (history ++ [.failed i]) := by
  have settled : w.promise.isSome = true := by rw [← kept.done, done]
  have later := kept.later settled [.failed i]
  have same : w.promise.or (some .threw) = w.promise := Option.or_of_isSome settled
  constructor
  · simpa [sendReturns, same] using later.first
  · simpa [sendReturns, same] using kept.done
  · exact kept.created
  · exact kept.error
  · exact kept.timer

theorem Kept.expire (kept : w.Kept i history) (timer : w.timer = true) :
    w.expire.Kept i (history ++ [.expired i]) := by
  have unfinished : w.done = false := by simpa [timer] using kept.timer.symm
  have pending : w.promise = none := by simpa [unfinished] using kept.done.symm
  have finished : (w.finish (timeoutResult w.generationId)).Kept i (history ++ [.expired i]) :=
    kept.finish pending (by simp [outcome])
  have same : w.expire = w.finish (timeoutResult w.generationId) := by
    simp [ResponseWait.expire, ResponseWait.finish, unfinished]
  rw [same]
  exact finished

/-- A wait keeps its generation, and what is seen of it when it is settled. -/
def Stays (w w' : ResponseWait) : Prop :=
  w'.generationId = w.generationId ∧ (w.promise.isSome = true → w'.view = w.view)

theorem Stays.refl : w.Stays w := ⟨rfl, fun _ => rfl⟩

end ResponseWait

namespace ControlSession

open ResponseWait

variable {s t : ControlSession} {l : WaitStep} {i : Nat} {w : ResponseWait}
  {record : List Occurrence}

theorem step_sent {ok : Bool} (taken : s.step (.sent i ok) = some t) :
    ∃ w, s.waits[i]? = some w ∧ w.sending = true ∧ t.waits = s.waits.set i (w.sendReturns ok) := by
  simp only [step, Option.bind_eq_bind, Option.bind_eq_some_iff, Option.pure_def,
    Option.ite_none_right_eq_some, Option.some.injEq] at taken
  obtain ⟨w, here, sending, rfl⟩ := taken
  exact ⟨w, here, sending, rfl⟩

theorem step_expire (taken : s.step (.expire i) = some t) :
    ∃ w, s.waits[i]? = some w ∧ w.timer = true ∧ t.waits = s.waits.set i w.expire := by
  simp only [step, Option.bind_eq_bind, Option.bind_eq_some_iff, Option.pure_def,
    Option.ite_none_right_eq_some, Option.some.injEq] at taken
  obtain ⟨w, here, ⟨timer, _⟩, rfl⟩ := taken
  exact ⟨w, here, timer, rfl⟩

theorem finish_created (result : StartResponseResult) (held : w.created = !w.done) :
    (w.finish result).created = !(w.finish result).done := by
  cases done : w.done <;> simp [ResponseWait.finish, done, held]

theorem handle_created (f : Frame) (held : w.created = !w.done) :
    (w.handle f).created = !(w.handle f).done := by
  unfold handle handleCreated handleError
  repeat' split
  all_goals first | exact finish_created _ held | exact held

@[simp] theorem handle_generationId (f : Frame) : (w.handle f).generationId = w.generationId := by
  unfold handle handleCreated handleError finish
  repeat' split
  all_goals rfl

@[simp] theorem expire_generationId : w.expire.generationId = w.generationId := by
  unfold expire finish
  split <;> rfl

@[simp] theorem sendReturns_generationId (ok : Bool) :
    (w.sendReturns ok).generationId = w.generationId := by
  unfold sendReturns
  split <;> rfl

/-- Each wait, with what has occurred since it began. -/
def Tracked (record : List Occurrence) (s : ControlSession) : Prop :=
  Pool.Tracked (fun i w => .began i w.generationId) (fun i w => w.Kept i) record s.waits

theorem tracked_step (tracked : Tracked record s) (holds : SendsHold s l)
    (taken : s.step l = some t) : Tracked (record ++ s.occurs l) t := by
  cases l with
  | start options generated =>
    cases taken
    exact Pool.Tracked.begin tracked (kept_begin _ _) fun _ _ _ kept => kept.quiet rfl
  | frame f =>
    cases taken
    exact Pool.Tracked.map tracked (by simp) fun _ _ _ kept => kept.handle f
  | sent i ok =>
    obtain ⟨w, here, _, moved⟩ := step_sent taken
    rw [Tracked, moved]
    cases ok with
    | true =>
      refine Pool.Tracked.set tracked here (by simp) (fun _ kept => ?_) fun _ _ _ _ kept => ?_
      · simpa [occurs] using kept.sent
      · simpa [occurs] using kept
    | false =>
      -- Here the condition is used: the promise was settled before.
      have done := holds w here
      refine Pool.Tracked.set tracked here (by simp) (fun _ kept => kept.threw done)
        fun j _ _ other kept => kept.quiet ?_
      simp [outcome, Ne.symm other]
  | expire i =>
    obtain ⟨w, here, timer, moved⟩ := step_expire taken
    rw [Tracked, moved]
    refine Pool.Tracked.set tracked here (by simp) (fun _ kept => kept.expire timer)
      fun j _ _ other kept => kept.quiet ?_
    simp [outcome, Ne.symm other]

theorem tracked_initial : Tracked [] initial := Pool.tracked_nil

variable {C : ControlSession → WaitStep → Prop}

theorem tracked (cond : AllSendsHold C) {r : ControlSession × List Occurrence}
    (reached : (responseWaits.system.recorded responseWaits.occurs).Reaches (fun s => C s.1) r) :
    Tracked r.2 r.1 :=
  (System.Reaches.recorded (M := responseWaits.system)
    (P := fun record s => responseWaits.system.Reaches C s ∧ Tracked record s)
    ⟨.here, tracked_initial⟩
    (fun _ _ l _ kept holds taken => ⟨.step l kept.1 holds taken,
      tracked_step kept.2 (cond _ l _ kept.1 holds taken) taken⟩) reached).2

/-- Every wait of a session that is reached. -/
theorem kept_of_reaches (cond : AllSendsHold C)
    (reached : responseWaits.system.Reaches C s) (here : s.waits[i]? = some w) :
    ∃ history, w.Kept i history := by
  obtain ⟨record, recorded⟩ := reached.with_record responseWaits.occurs
  exact Pool.Tracked.property (tracked cond recorded) here

/-- A step leaves a wait that is settled alone, and every wait its generation. -/
theorem settled_step (cond : AllSendsHold C)
    (reached : responseWaits.system.Reaches C s) (taken : s.step l = some t)
    (here : s.waits[i]? = some w) :
    ∃ w', t.waits[i]? = some w' ∧ w.Stays w' := by
  cases l with
  | start options generated =>
    cases taken
    exact ⟨w, Pool.read_append_old here, .refl⟩
  | frame f =>
    cases taken
    obtain ⟨history, kept⟩ := kept_of_reaches cond reached here
    refine ⟨w.handle f, by simp [here], by simp, fun settled => ?_⟩
    obtain ⟨_, created, error, _⟩ := kept.released settled
    rw [handle_released created error]
  | sent j ok =>
    obtain ⟨v, found, _, moved⟩ := step_sent taken
    rw [moved]
    refine Pool.read_set_related (R := Stays) found here ⟨by simp, fun settled => ?_⟩ .refl
    cases ok with
    | true => rfl
    | false => simp [view, sendReturns, Option.or_of_isSome settled]
  | expire j =>
    obtain ⟨v, found, timer, moved⟩ := step_expire taken
    obtain ⟨history, kept⟩ := kept_of_reaches cond reached found
    rw [moved]
    refine Pool.read_set_related (R := Stays) found here ⟨by simp, fun settled => ?_⟩ .refl
    rw [(kept.released settled).2.2.2] at timer
    cases timer

/-- A wait holds its subscription until it is done, whatever its send does. -/
theorem created_of_reaches (reached : responseWaits.system.Reaches C s) :
    ∀ w ∈ s.waits, w.created = !w.done := by
  refine System.Reaches.preserves (P := fun s => ∀ w ∈ s.waits, w.created = !w.done)
    (by simp [responseWaits, initial]) (fun s l t all _ taken => ?_) reached
  cases l with
  | start options generated =>
    cases taken
    exact Pool.forall_append all rfl
  | frame f =>
    cases taken
    intro w member
    obtain ⟨v, old, rfl⟩ := List.mem_map.mp member
    exact handle_created f (all v old)
  | sent i ok =>
    obtain ⟨w, here, _, moved⟩ := step_sent taken
    rw [moved]
    refine Pool.forall_set all ?_
    have held := all w (Pool.mem_of_read here)
    -- Neither way does the executor touch the subscription.
    cases ok with
    | true | false => exact held
  | expire i =>
    obtain ⟨w, here, _, moved⟩ := step_expire taken
    rw [moved]
    exact Pool.forall_set all (finish_created _ (all w (Pool.mem_of_read here)))

/-- A send that throws under an open wait settles it, and its subscription stays. -/
theorem leaks (reached : responseWaits.system.Reaches C s) (throws : ¬SendsHold s l)
    (taken : s.step l = some t) :
    ∃ v ∈ responseWaits.waits t, v.settlement.isSome = true ∧ v.created = true := by
  cases l with
  | start | frame | expire => exact absurd trivial throws
  | sent i ok =>
    cases ok with
    | true => exact absurd trivial throws
    | false =>
      obtain ⟨w, here, _, moved⟩ := step_sent taken
      have undone : w.done = false := by simpa [SendsHold, here] using throws
      have created := created_of_reaches reached w (Pool.mem_of_read here)
      have member : w.sendReturns false ∈ t.waits := by
        rw [moved]
        exact Pool.mem_set_self here
      refine ⟨_, List.mem_map_of_mem member, ?_, ?_⟩
      · cases promise : w.promise <;> simp [view, sendReturns, promise]
      · simpa [view, sendReturns, undone] using created

/-! ## Progress -/

/-- Whether the executor of the wait has not ended. -/
def behind (i : Nat) (s : ControlSession) : Nat :=
  if (s.waits[i]?.map ResponseWait.sending) = some true then 1 else 0

@[simp] theorem handle_sending (f : Frame) : (w.handle f).sending = w.sending := by
  unfold handle handleCreated handleError finish
  repeat' split
  all_goals rfl

/-- The others do not hold a wait up. -/
theorem behind_other (other : ¬l.Own i) (here : s.waits[i]? = some w) (taken : s.step l = some t) :
    ∃ w', t.waits[i]? = some w' ∧ behind i t = behind i s := by
  have apart (j : Nat) (v : ResponseWait) (different : i ≠ j) (moved : t.waits = s.waits.set j v) :
      ∃ w', t.waits[i]? = some w' ∧ behind i t = behind i s := by
    have kept : t.waits[i]? = some w := by
      rw [moved, Pool.read_set_other different, here]
    exact ⟨w, kept, by rw [behind, behind, kept, here]⟩
  cases l with
  | start options generated =>
    cases taken
    have kept : (s.startResponseAndWait options generated).waits[i]? = some w :=
      Pool.read_append_old here
    exact ⟨w, kept, by rw [behind, behind, kept, here]⟩
  | frame f =>
    cases taken
    exact ⟨w.handle f, by simp [here], by simp [behind, here]⟩
  | sent j ok =>
    obtain ⟨v, _, _, moved⟩ := step_sent taken
    exact apart j _ (Ne.symm other) moved
  | expire j =>
    obtain ⟨v, _, _, moved⟩ := step_expire taken
    exact apart j _ (Ne.symm other) moved

theorem own_step (cond : AllSendsHold C) (holds : C s l)
    (opened : responseWaits.Open i s) (reached : responseWaits.system.Reaches C s) (own : l.Own i)
    (taken : s.step l = some t) :
    responseWaits.Settled i t ∨ responseWaits.Open i t ∧ behind i t < behind i s := by
  obtain ⟨_, shown, promise⟩ := opened
  obtain ⟨w, here, rfl⟩ := Waits.read_view rfl shown
  obtain ⟨history, kept⟩ := kept_of_reaches cond reached here
  have unfinished := (kept.held promise).1
  cases l with
  | start | frame => cases own
  | sent j ok =>
    cases own
    obtain ⟨v, found, sending, moved⟩ := step_sent taken
    cases found.symm.trans here
    have moved' : t.waits[i]? = some (w.sendReturns ok) := by
      rw [moved, Pool.read_set_self found]
    cases ok with
    | false =>
      -- An open wait whose send throws would break the condition.
      have done := cond _ _ _ reached holds taken w here
      rw [unfinished] at done
      cases done
    | true =>
      refine .inr ⟨⟨_, Waits.view_read rfl moved', promise⟩, ?_⟩
      simp [behind, moved', found, sending, sendReturns]
  | expire j =>
    cases own
    obtain ⟨v, found, _, moved⟩ := step_expire taken
    cases found.symm.trans here
    have moved' : t.waits[i]? = some w.expire := by
      rw [moved, Pool.read_set_self found]
    have pending : w.promise = none := promise
    exact .inl ⟨_, Waits.view_read rfl moved', by simp [view, expire, finish, unfinished, pending]⟩

theorem own_enabled (cond : AllSendsHold C) (opened : responseWaits.Open i s)
    (reached : responseWaits.system.Reaches C s) :
    responseWaits.system.Enabled (WaitStep.Own i) s := by
  obtain ⟨_, shown, promise⟩ := opened
  obtain ⟨w, here, rfl⟩ := Waits.read_view rfl shown
  obtain ⟨history, kept⟩ := kept_of_reaches cond reached here
  have timer := (kept.held promise).2.2.2
  cases sending : w.sending with
  | true => exact ⟨.sent i true, rfl, by simp [responseWaits, step, here, sending]⟩
  | false => exact ⟨.expire i, rfl, by simp [responseWaits, step, here, sending, timer]⟩

theorem advance (cond : AllSendsHold C) :
    responseWaits.Advance C i (behind i) where
  enabled s reached opened := own_enabled cond opened reached
  own s l t reached opened holds own taken := own_step cond holds opened reached own taken
  others s l t opened other taken := by
    obtain ⟨_, shown, _⟩ := opened
    obtain ⟨w, here, _⟩ := Waits.read_view rfl shown
    obtain ⟨w', kept, same⟩ := behind_other other here taken
    exact ⟨⟨w'.view, Waits.view_read rfl kept⟩, same⟩

theorem pooled (cond : AllSendsHold C) :
    responseWaits.Pooled C (·.waits) ResponseWait.view fun i w => w.Kept i where
  seen _ := rfl
  tracked _ reached := tracked cond reached
  stays _ _ _ reached _ taken _ _ here := settled_step cond reached taken here
  released _ _ _ kept settled := (kept.released settled).2

end ControlSession

/-- Waits are settled by what comes first, as long as no send throws under an open one. -/
theorem responseWaits_settle {C : ControlSession → WaitStep → Prop}
    (cond : AllSendsHold C) : WaitsSettle responseWaits C (First outcome) :=
  (ControlSession.pooled cond).settle (fun _ _ _ kept => kept.first)
    fun _ => ControlSession.advance cond

/-- Nothing else makes waits settle as they should. -/
theorem allSendsHold_of_settle {C : ControlSession → WaitStep → Prop}
    (settles : WaitsSettle responseWaits C (First outcome)) : AllSendsHold C := by
  intro s l t reached holds taken
  by_contra throws
  -- The step leads to a wait that is settled and holds its subscription.
  obtain ⟨v, member, settled, created⟩ := ControlSession.leaks reached throws taken
  have released := (settles.released t (.step l reached holds taken) v member settled).1
  rw [created] at released
  cases released

end VoxRtc.TypeScript.Session
