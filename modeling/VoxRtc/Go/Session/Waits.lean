import VoxRtc.Go.Session.Events
import VoxRtc.Transition.Pool

/-!
# Waits of the Go session

`StartResponseAndWait` of `go/rtcserver/session.go`, called by any number of goroutines. A call
registers two handlers, which the channel calls on goroutines of its own, as late as it may and
in any order; they leave the first acknowledgement in a buffered channel of capacity one. The
call then selects between that channel and its context, and unsubscribes as it returns.
-/
namespace VoxRtc.Go.Session

open Wire Responses Transition

structure StartAck where
  accepted : Bool := false
  responseID : String := ""
  generationID : String
  output : Option ResponseOutput := none
  error : Option ErrorEvent := none

/-- A handler of a call. -/
inductive WaitHandler where
  | created
  | error
  deriving DecidableEq

/-- How a call returns: with the acknowledgement, or with the error of its context. -/
inductive WaitEnding where
  | returned (ack : StartAck)
  | timedOut

/-- Where a call is. -/
inductive WaitPlace where
  /-- One handler is registered. -/
  | registering
  | starting
  /-- In `SendControl`, with its command. -/
  | sending (command : Frame)
  | waiting
  /-- It has selected, and its deferred calls run. -/
  | leaving (ending : WaitEnding)
  | ended (ending : WaitEnding)

structure ResponseWait where
  options : ResponseOptions
  generationID : String
  /-- The id that `nextGenerationIDLocked` has made. -/
  generated : GeneratedId
  place : WaitPlace := .registering
  created : Bool := true
  error : Bool := false
  /-- What the channel has yet to call the handlers with. -/
  deliveries : List (WaitHandler × Frame) := []
  /-- The buffer of the channel. -/
  ackCh : Option StartAck := none
  /-- The context is done. -/
  done : Bool := false

inductive WaitMove where
  | registered
  /-- The section of `StartResponse`. -/
  | start
  | sent
  | deliver (k : Nat)
  /-- The context of the caller is done. -/
  | expire
  /-- Where both are ready, either may be selected. -/
  | select (late : Bool)
  /-- The next deferred call. -/
  | leave

/-- A context that is done is seen from outside. -/
def WaitMove.occurs (i : Nat) : WaitMove → List Occurrence
  | .expire => [.expired i]
  | _ => []

namespace ResponseWait

/-- A send that does not block: the buffer keeps what it has. -/
def trySend (w : ResponseWait) (ack : StartAck) : ResponseWait :=
  { w with ackCh := w.ackCh.or (some ack) }

/-- The handler of `OnResponseCreated`, under the filter of `On`. -/
def handleCreated (w : ResponseWait) (sessionID : String) (f : Frame) : ResponseWait :=
  if f.event = "response.created" then
    let event := responseEvent sessionID f.payload
    if event.generationID ≠ w.generationID then w
    else w.trySend {
      accepted := true
      responseID := event.responseID
      generationID := w.generationID
      output := event.output }
  else w

def handleError (w : ResponseWait) (sessionID : String) (f : Frame) : ResponseWait :=
  if f.event = "error" then
    let event := errorEvent sessionID f.payload
    if event.generationID ≠ w.generationID then w
    else w.trySend { generationID := w.generationID, error := some event }
  else w

def handle (w : ResponseWait) (sessionID : String) : WaitHandler × Frame → ResponseWait
  | (.created, f) => w.handleCreated sessionID f
  | (.error, f) => w.handleError sessionID f

/-- The handlers that are registered will be called with the message. -/
def hear (w : ResponseWait) (f : Frame) : ResponseWait :=
  { w with deliveries := w.deliveries ++
      (if w.created then [(.created, f)] else []) ++ if w.error then [(.error, f)] else [] }

/-- What the call selects, and what it leaves in the buffer. -/
def selects (w : ResponseWait) (late : Bool) : Option (WaitEnding × Option StartAck) :=
  match w.ackCh with
  | some ack => some (if w.done && late then (.timedOut, some ack) else (.returned ack, none))
  | none => if w.done then some (.timedOut, none) else none

/-- A move, with the session after it and what it sends. -/
def move (w : ResponseWait) (sessionID : String) (session : ControlSession) :
    WaitMove → Option (ResponseWait × ControlSession × List Frame)
  | .registered => match w.place with
    | .registering => some ({ w with place := .starting, error := true }, session, [])
    | _ => none
  | .start => match w.place with
    | .starting =>
      let (session, command) := session.startResponse (some w.options) w.generated
      some ({ w with place := .sending command }, session, [])
    | _ => none
  | .sent => match w.place with
    | .sending command => some ({ w with place := .waiting }, session, [command])
    | _ => none
  | .deliver k => do
    let call ← w.deliveries[k]?
    let w := w.handle sessionID call
    return ({ w with deliveries := w.deliveries.eraseIdx k }, session, [])
  | .expire => if w.done then none else some ({ w with done := true }, session, [])
  | .select late => match w.place with
    | .waiting => (w.selects late).map fun (ending, ackCh) =>
      ({ w with place := .leaving ending, ackCh := ackCh }, session, [])
    | _ => none
  | .leave => match w.place with
    | .leaving ending =>
      if w.error then some ({ w with error := false }, session, [])
      else some ({ w with created := false, place := .ended ending }, session, [])
    | _ => none

def ending (w : ResponseWait) : Option WaitEnding :=
  match w.place with
  | .ended ending => some ending
  | _ => none

def hasSent (w : ResponseWait) : Bool :=
  match w.place with
  | .registering | .starting | .sending _ => false
  | .waiting | .leaving _ | .ended _ => true

/-- The context is the caller's, so that the call holds no timer. -/
def view (w : ResponseWait) : Responses.Wait WaitEnding :=
  ⟨w.generationID, w.ending, w.created, w.error, false⟩

end ResponseWait

structure WaitSession where
  sessionID : String
  session : ControlSession := {}
  sent : List Frame := []
  waits : List ResponseWait := []

inductive WaitStep where
  /-- A call, up to where it has registered its first handler. -/
  | call (options : Option ResponseOptions) (generated : GeneratedId)
  /-- A message arrives; the channel takes the handlers that are registered. -/
  | frame (f : Frame)
  | move (i : Nat) (m : WaitMove)

/-- `SupersedeResponseAndWait` calls with these. -/
def supersedeOptions (supersedesGenerationID : String) (options : Option ResponseOptions) :
    Option ResponseOptions :=
  some { options.getD ⟨none, "", "", none⟩ with supersedesGenerationID := supersedesGenerationID }

/-- The options of a call, with the id that it waits for. -/
def waitOptions (options : Option ResponseOptions) (generated : GeneratedId) : ResponseOptions :=
  let opts := options.getD ⟨none, "", "", none⟩
  if opts.generationID = "" then { opts with generationID := generated.text } else opts

namespace WaitSession

def initial (sessionID : String) : WaitSession := { sessionID := sessionID }

def startResponseAndWait (s : WaitSession) (options : Option ResponseOptions)
    (generated : GeneratedId) : WaitSession :=
  let opts := waitOptions options generated
  { s with waits := s.waits ++ [{
      options := opts
      generationID := opts.generationID
      generated := generated }] }

def step (s : WaitSession) : WaitStep → Option WaitSession
  | .call options generated => some (s.startResponseAndWait options generated)
  | .frame f => some { s with waits := s.waits.map (·.hear f) }
  | .move i m => do
    let w ← s.waits[i]?
    let (w, session, sent) ← w.move s.sessionID s.session m
    return { s with session := session, sent := s.sent ++ sent, waits := s.waits.set i w }

def occurs (s : WaitSession) : WaitStep → List Occurrence
  | .call options generated =>
    [.began s.waits.length (waitOptions options generated).generationID]
  | .frame f => [.frame f]
  | .move i m => m.occurs i

end WaitSession

/-- The step is one of the call itself, or its context is done. -/
def WaitStep.Own (i : Nat) : WaitStep → Prop
  | .move j m => j = i ∧ ∀ k, m ≠ .deliver k
  | _ => False

def responseWaits (sessionID : String) : Waits WaitSession WaitStep WaitEnding where
  system := ⟨.initial sessionID, WaitSession.step⟩
  occurs := WaitSession.occurs
  waits s := s.waits.map ResponseWait.view
  own := WaitStep.Own

/-- What becomes of a call by an event that bears its generation. -/
def acknowledgement (sessionID generationID : String) (f : Frame) : Option StartAck :=
  if optionalText f.payload "generation_id" = some generationID then
    if f.event = "response.created" then
      let event := responseEvent sessionID f.payload
      some {
        accepted := true
        responseID := event.responseID
        generationID := generationID
        output := event.output }
    else if f.event = "error" then
      some { generationID := generationID, error := some (errorEvent sessionID f.payload) }
    else none
  else none

/-- An event of the history acknowledges the start so. -/
def Acknowledged (sessionID generationID : String) (history : List Occurrence) (ack : StartAck) :
    Prop :=
  ∃ f, .frame f ∈ history ∧ acknowledgement sessionID generationID f = some ack

/-- A call returns with an event of its own that has come since it began, or because its own
context is done. -/
def Due (sessionID generationID : String) (i : Nat) (history : List Occurrence)
    (ending : Option WaitEnding) : Prop :=
  ∀ e ∈ ending, (∃ ack, e = .returned ack ∧ Acknowledged sessionID generationID history ack) ∨
    e = .timedOut ∧ .expired i ∈ history

section Histories

variable {sessionID generationID : String} {i : Nat} {history : List Occurrence}

theorem Acknowledged.later {ack : StartAck}
    (acknowledged : Acknowledged sessionID generationID history ack) (more : List Occurrence) :
    Acknowledged sessionID generationID (history ++ more) ack := by
  obtain ⟨f, member, answers⟩ := acknowledged
  exact ⟨f, List.mem_append_left more member, answers⟩

theorem Due.later {ending : Option WaitEnding}
    (due : Due sessionID generationID i history ending) (more : List Occurrence) :
    Due sessionID generationID i (history ++ more) ending := by
  intro e member
  rcases due e member with ⟨ack, returned, acknowledged⟩ | ⟨timedOut, expired⟩
  · exact .inl ⟨ack, returned, acknowledged.later more⟩
  · exact .inr ⟨timedOut, List.mem_append_left more expired⟩

/-- A text that is not empty is read where it is there. -/
theorem stringValue_eq {payload : Payload} {key text : String} (proper : text ≠ "") :
    stringValue payload key "" = text ↔ optionalText payload key = some text := by
  unfold stringValue optionalText
  cases member : payload.get? key with
  | none => simp [proper.symm]
  | some value =>
    cases value with
    | str found =>
      by_cases empty : found = ""
      · simp [empty, proper.symm, Json.str?]
      · simp [empty, Json.str?]
    | _ => simp [proper.symm, Json.str?]

end Histories

namespace ResponseWait

variable {sessionID : String} {i : Nat} {w w' : ResponseWait} {history : List Occurrence}

/-- Where the call will leave, and what it leaves with. -/
def decision (w : ResponseWait) : Option WaitEnding :=
  match w.place with
  | .leaving ending | .ended ending => some ending
  | _ => none

structure Kept (sessionID : String) (i : Nat) (w : ResponseWait) (history : List Occurrence) :
    Prop where
  named : w.options.generationID = w.generationID
  proper : w.generationID ≠ ""
  heard : ∀ call ∈ w.deliveries, .frame call.2 ∈ history
  buffered : ∀ ack ∈ w.ackCh, Acknowledged sessionID w.generationID history ack
  expired : w.done = true → .expired i ∈ history
  due : Due sessionID w.generationID i history w.decision
  bears : ∀ command, w.place = .sending command →
    command.event = "response.start" ∧ command.generationId = some w.generationID
  released : ∀ e, w.place = .ended e → w.created = false ∧ w.error = false

theorem kept_begin (options : Option ResponseOptions) (generated : GeneratedId) :
    Kept sessionID i
      { options := waitOptions options generated
        generationID := (waitOptions options generated).generationID
        generated := generated } [] := by
  have proper : (waitOptions options generated).generationID ≠ "" := by
    unfold waitOptions
    by_cases given : (options.getD ⟨none, "", "", none⟩).generationID = ""
    · simp [given, generated.proper]
    · simp [given]
  constructor <;> simp [Due, decision, proper]

/-- What occurs does not bring the call on. -/
theorem Kept.later (kept : w.Kept sessionID i history) (more : List Occurrence) :
    w.Kept sessionID i (history ++ more) where
  named := kept.named
  proper := kept.proper
  heard call member := List.mem_append_left more (kept.heard call member)
  buffered ack member := (kept.buffered ack member).later more
  expired done := List.mem_append_left more (kept.expired done)
  due := kept.due.later more
  bears := kept.bears
  released := kept.released

theorem Kept.hear (kept : w.Kept sessionID i history) (f : Frame) :
    (w.hear f).Kept sessionID i (history ++ [.frame f]) := by
  have later := kept.later [.frame f]
  have heard : ∀ call ∈ (w.hear f).deliveries, .frame call.2 ∈ history ++ [.frame f] := by
    intro call member
    simp only [ResponseWait.hear, List.mem_append] at member
    rcases member with (old | created) | error
    · exact later.heard call old
    · split at created
      · simp [List.mem_singleton.mp created]
      · cases created
    · split at error
      · simp [List.mem_singleton.mp error]
      · cases error
  exact ⟨later.named, later.proper, heard, later.buffered, later.expired, later.due, later.bears,
    later.released⟩

/-- A handler offers the acknowledgement to the buffer, or does nothing. -/
theorem handle_offers (proper : w.generationID ≠ "") (call : WaitHandler × Frame) :
    w.handle sessionID call = w ∨ ∃ ack,
      acknowledgement sessionID w.generationID call.2 = some ack ∧
        w.handle sessionID call = w.trySend ack := by
  obtain ⟨handler, f⟩ := call
  cases handler with
  | created =>
    by_cases event : f.event = "response.created"
    · by_cases own : stringValue f.payload "generation_id" "" = w.generationID
      · have bears := (stringValue_eq proper).mp own
        right
        simp [handle, handleCreated, acknowledgement, event, bears, responseEvent, own]
      · left
        simp [handle, handleCreated, event, responseEvent, own]
    · left
      simp [handle, handleCreated, event]
  | error =>
    by_cases event : f.event = "error"
    · by_cases own : stringValue f.payload "generation_id" "" = w.generationID
      · have bears := (stringValue_eq proper).mp own
        right
        simp [handle, handleError, acknowledgement, event, bears, errorEvent, own]
      · left
        simp [handle, handleError, event, errorEvent, own]
    · left
      simp [handle, handleError, event]

theorem Kept.trySend (kept : w.Kept sessionID i history) {ack : StartAck}
    (acknowledged : Acknowledged sessionID w.generationID history ack) :
    (w.trySend ack).Kept sessionID i history := by
  have buffered : ∀ a ∈ (w.trySend ack).ackCh, Acknowledged sessionID w.generationID history a := by
    intro a member
    simp only [ResponseWait.trySend] at member
    cases full : w.ackCh with
    | none =>
      rw [full] at member
      cases member
      exact acknowledged
    | some first =>
      rw [full] at member
      cases member
      exact kept.buffered _ full
  exact ⟨kept.named, kept.proper, kept.heard, buffered, kept.expired, kept.due, kept.bears,
    kept.released⟩

theorem Kept.handle (kept : w.Kept sessionID i history) {call : WaitHandler × Frame}
    (member : call ∈ w.deliveries) : (w.handle sessionID call).Kept sessionID i history := by
  rcases handle_offers kept.proper call with same | ⟨ack, answers, offered⟩
  · rw [same]
    exact kept
  · rw [offered]
    exact kept.trySend ⟨call.2, kept.heard call member, answers⟩

/-- A call selects what is due to it. -/
theorem Kept.selects (kept : w.Kept sessionID i history) {late : Bool} {ending : WaitEnding}
    {ackCh : Option StartAck} (selected : w.selects late = some (ending, ackCh)) :
    Due sessionID w.generationID i history (some ending) ∧ ∀ ack ∈ ackCh, ack ∈ w.ackCh := by
  have timedOut (done : w.done = true) :
      Due sessionID w.generationID i history (some .timedOut) := by
    intro e member
    cases member
    exact .inr ⟨rfl, kept.expired done⟩
  unfold ResponseWait.selects at selected
  cases full : w.ackCh with
  | none =>
    simp only [full, Option.ite_none_right_eq_some, Option.some.injEq, Prod.mk.injEq] at selected
    obtain ⟨done, rfl, rfl⟩ := selected
    exact ⟨timedOut done, by simp⟩
  | some ack =>
    simp only [full, Option.some.injEq] at selected
    by_cases lost : (w.done && late) = true
    · rw [if_pos lost] at selected
      cases selected
      simp only [Bool.and_eq_true] at lost
      exact ⟨timedOut lost.1, by simp⟩
    · rw [if_neg lost] at selected
      cases selected
      constructor
      · intro e member
        cases member
        exact .inl ⟨ack, rfl, kept.buffered ack full⟩
      · simp

/-- Everything a move can do. -/
inductive Moves (sessionID : String) (w : ResponseWait) (session : ControlSession) :
    WaitMove → ResponseWait → List Frame → Prop
  | registered (place : w.place = .registering) :
    Moves sessionID w session .registered { w with place := .starting, error := true } []
  | start (place : w.place = .starting) :
    Moves sessionID w session .start
      { w with place := .sending (session.startResponse (some w.options) w.generated).2 } []
  | sent (command : Frame) (place : w.place = .sending command) :
    Moves sessionID w session .sent { w with place := .waiting } [command]
  | deliver (k : Nat) (call : WaitHandler × Frame) (next : w.deliveries[k]? = some call) :
    Moves sessionID w session (.deliver k)
      { w.handle sessionID call with
        deliveries := (w.handle sessionID call).deliveries.eraseIdx k } []
  | expire (still : w.done = false) :
    Moves sessionID w session .expire { w with done := true } []
  | select (late : Bool) (ending : WaitEnding) (ackCh : Option StartAck)
      (place : w.place = .waiting) (selected : w.selects late = some (ending, ackCh)) :
    Moves sessionID w session (.select late)
      { w with place := .leaving ending, ackCh := ackCh } []
  | unsubError (ending : WaitEnding) (place : w.place = .leaving ending) (error : w.error = true) :
    Moves sessionID w session .leave { w with error := false } []
  | unsubCreated (ending : WaitEnding) (place : w.place = .leaving ending)
      (error : w.error = false) :
    Moves sessionID w session .leave { w with created := false, place := .ended ending } []

theorem moves {session session' : ControlSession} {m : WaitMove} {sent : List Frame}
    (moved : w.move sessionID session m = some (w', session', sent)) :
    Moves sessionID w session m w' sent := by
  cases m with
  | registered =>
    simp only [move] at moved
    split at moved
    next place =>
      cases moved
      exact .registered place
    · cases moved
  | start =>
    simp only [move] at moved
    split at moved
    next place =>
      cases moved
      exact .start place
    · cases moved
  | sent =>
    simp only [move] at moved
    split at moved
    next command place =>
      cases moved
      exact .sent command place
    · cases moved
  | deliver k =>
    simp only [move, Option.bind_eq_bind, Option.bind_eq_some_iff] at moved
    obtain ⟨call, next, same⟩ := moved
    cases same
    exact .deliver k call next
  | expire =>
    simp only [move] at moved
    split at moved
    · cases moved
    next still =>
      cases moved
      exact .expire (by simpa using still)
  | select late =>
    simp only [move] at moved
    split at moved
    next place =>
      obtain ⟨⟨ending, ackCh⟩, selected, same⟩ := Option.map_eq_some_iff.mp moved
      cases same
      exact .select late ending ackCh place selected
    · cases moved
  | leave =>
    simp only [move] at moved
    split at moved
    next ending place =>
      split at moved
      next error =>
        cases moved
        exact .unsubError ending place error
      next error =>
        cases moved
        exact .unsubCreated ending place (by simpa using error)
    · cases moved

/-- A handler changes no more than the buffer. -/
theorem handle_frame (w : ResponseWait) (sessionID : String) (call : WaitHandler × Frame) :
    ∃ ackCh, w.handle sessionID call = { w with ackCh := ackCh } := by
  obtain ⟨handler, f⟩ := call
  cases handler with
  | created =>
    simp only [handle, handleCreated]
    split
    · split
      · exact ⟨w.ackCh, rfl⟩
      · exact ⟨_, rfl⟩
    · exact ⟨w.ackCh, rfl⟩
  | error =>
    simp only [handle, handleError]
    split
    · split
      · exact ⟨w.ackCh, rfl⟩
      · exact ⟨_, rfl⟩
    · exact ⟨w.ackCh, rfl⟩

theorem startResponse_bears (session : ControlSession) {options : ResponseOptions}
    (generated : GeneratedId) (given : options.generationID ≠ "") :
    (session.startResponse (some options) generated).2.event = "response.start" ∧
      (session.startResponse (some options) generated).2.generationId =
        some options.generationID := by
  simp [ControlSession.startResponse, Frame.generationId, given, Json.str?]

theorem Kept.move (kept : w.Kept sessionID i history) {session : ControlSession} {m : WaitMove}
    {sent : List Frame} (moves : Moves sessionID w session m w' sent) :
    w'.Kept sessionID i (history ++ m.occurs i) := by
  have later := kept.later (m.occurs i)
  cases moves with
  | registered place =>
    exact ⟨later.named, later.proper, later.heard, later.buffered, later.expired,
      by simp [Due, decision], by simp, by simp⟩
  | start place =>
    have given : w.options.generationID ≠ "" := kept.named.symm ▸ kept.proper
    have bears := startResponse_bears session w.generated given
    rw [kept.named] at bears
    refine ⟨later.named, later.proper, later.heard, later.buffered, later.expired,
      by simp [Due, decision], fun command sending => ?_, by simp⟩
    cases sending
    exact bears
  | sent command place =>
    exact ⟨later.named, later.proper, later.heard, later.buffered, later.expired,
      by simp [Due, decision], by simp, by simp⟩
  | deliver k call next =>
    have handled := later.handle (List.mem_of_getElem? next)
    refine ⟨handled.named, handled.proper, fun call member => ?_, handled.buffered,
      handled.expired, handled.due, handled.bears, handled.released⟩
    exact handled.heard call (List.mem_of_mem_eraseIdx member)
  | expire still =>
    exact ⟨later.named, later.proper, later.heard, later.buffered,
      fun _ => by simp [WaitMove.occurs], later.due, later.bears, later.released⟩
  | select late ending ackCh place selected =>
    obtain ⟨due, left⟩ := later.selects selected
    exact ⟨later.named, later.proper, later.heard,
      fun ack member => later.buffered ack (left ack member), later.expired, due,
      by simp, by simp⟩
  | unsubError ending place error =>
    exact ⟨later.named, later.proper, later.heard, later.buffered, later.expired, later.due,
      later.bears, by simp [place]⟩
  | unsubCreated ending place error =>
    have due := later.due
    simp only [decision, place] at due
    exact ⟨later.named, later.proper, later.heard, later.buffered, later.expired, due, by simp,
      fun _ _ => ⟨rfl, error⟩⟩

/-- A call keeps its generation, and what is seen of it when it has returned. -/
def Stays (w w' : ResponseWait) : Prop :=
  w'.generationID = w.generationID ∧ (w.ending.isSome = true → w'.view = w.view)

theorem Stays.refl : w.Stays w := ⟨rfl, fun _ => rfl⟩

theorem Moves.stays {session : ControlSession} {m : WaitMove} {sent : List Frame}
    (moves : Moves sessionID w session m w' sent) : w.Stays w' := by
  cases moves with
  | registered place | start place | sent _ place | select _ _ _ place | unsubError _ place
  | unsubCreated _ place =>
    constructor
    · rfl
    · intro settled
      simp [ending, place] at settled
  | deliver k call next =>
    obtain ⟨ackCh, same⟩ := w.handle_frame sessionID call
    simp only [same]
    exact ⟨rfl, fun _ => rfl⟩
  | expire => exact ⟨rfl, fun _ => rfl⟩

/-- How many of its own steps a call takes at most. -/
def behind (w : ResponseWait) : Nat :=
  let left := match w.place with
    | .registering => 7
    | .starting => 5
    | .sending _ => 4
    | .waiting => 3
    | .leaving _ => 2
    | .ended _ => 0
  left + (if w.error then 1 else 0) + if w.done then 0 else 1

theorem Moves.nearer {session : ControlSession} {m : WaitMove} {sent : List Frame}
    (moves : Moves sessionID w session m w' sent) (own : ∀ k, m ≠ .deliver k) :
    w'.behind < w.behind := by
  cases moves with
  | deliver k => exact absurd rfl (own k)
  | registered place =>
    simp only [behind, place]
    split <;> omega
  | start place | sent _ place | select _ _ _ place =>
    simp only [behind, place]
    omega
  | expire still => simp [behind, still]
  | unsubError _ place error | unsubCreated _ place error => simp [behind, place, error]

theorem Moves.level {session : ControlSession} {k : Nat} {sent : List Frame}
    (moves : Moves sessionID w session (.deliver k) w' sent) : w'.behind = w.behind := by
  cases moves with
  | deliver _ call =>
    obtain ⟨ackCh, same⟩ := w.handle_frame sessionID call
    simp only [same, behind]

/-- While it has not returned, a call can move, or its context can be done. -/
theorem can_move (w : ResponseWait) (sessionID : String) (session : ControlSession)
    (pending : w.ending = none) :
    ∃ m, (∀ k, m ≠ .deliver k) ∧ (w.move sessionID session m).isSome = true := by
  cases done : w.done with
  | false => exact ⟨.expire, by simp, by simp [move, done]⟩
  | true =>
    cases place : w.place with
    | registering => exact ⟨.registered, by simp, by simp [move, place]⟩
    | starting => exact ⟨.start, by simp, by simp [move, place]⟩
    | sending command => exact ⟨.sent, by simp, by simp [move, place]⟩
    | waiting =>
      refine ⟨.select true, by simp, ?_⟩
      cases full : w.ackCh <;> simp [move, place, selects, full, done]
    | leaving e =>
      refine ⟨.leave, by simp, ?_⟩
      cases error : w.error <;> simp [move, place, error]
    | ended e => simp [ending, place] at pending

end ResponseWait

namespace WaitSession

open ResponseWait

variable {sessionID : String} {s t : WaitSession} {l : WaitStep} {i : Nat} {w : ResponseWait}
  {record : List Occurrence}

theorem step_move {m : WaitMove} (taken : s.step (.move i m) = some t) :
    ∃ w w' sent, s.waits[i]? = some w ∧ Moves s.sessionID w s.session m w' sent ∧
      t.sessionID = s.sessionID ∧ t.sent = s.sent ++ sent ∧ t.waits = s.waits.set i w' := by
  simp only [step, Option.bind_eq_bind, Option.bind_eq_some_iff, Option.pure_def,
    Option.some.injEq] at taken
  obtain ⟨w, here, ⟨w', session', sent⟩, moved, rfl⟩ := taken
  exact ⟨w, w', sent, here, moves moved, rfl, rfl, rfl⟩

/-- Each call, with what has occurred since it began. -/
def Tracked (sessionID : String) (record : List Occurrence) (s : WaitSession) : Prop :=
  s.sessionID = sessionID ∧
    Pool.Tracked (fun i w => .began i w.generationID) (fun i w => w.Kept sessionID i) record s.waits

theorem tracked_step (tracked : Tracked sessionID record s) (taken : s.step l = some t) :
    Tracked sessionID (record ++ s.occurs l) t := by
  obtain ⟨rfl, tracked⟩ := tracked
  cases l with
  | call options generated =>
    cases taken
    exact ⟨rfl, Pool.Tracked.begin tracked (kept_begin _ _) fun _ _ _ kept => kept.later _⟩
  | frame f =>
    cases taken
    exact ⟨rfl, Pool.Tracked.map tracked (fun _ _ => rfl) fun _ _ _ kept => kept.hear f⟩
  | move i m =>
    obtain ⟨w, w', sent, here, moves, same, _, waits⟩ := step_move taken
    refine ⟨same, ?_⟩
    rw [waits]
    refine Pool.Tracked.set tracked here (by rw [moves.stays.1]) (fun _ kept => kept.move moves)
      fun _ _ _ _ kept => kept.later _

theorem tracked_initial : Tracked sessionID [] (initial sessionID) := ⟨rfl, Pool.tracked_nil⟩

variable {C : WaitSession → WaitStep → Prop}

theorem tracked {r : WaitSession × List Occurrence}
    (reached : ((responseWaits sessionID).system.recorded (responseWaits sessionID).occurs).Reaches
      (fun s => C s.1) r) : Tracked sessionID r.2 r.1 :=
  System.Reaches.recorded (M := (responseWaits sessionID).system) (P := Tracked sessionID)
    tracked_initial (fun _ _ _ _ tracked _ taken => tracked_step tracked taken) reached

/-- Every call of a session that is reached. -/
theorem kept_of_reaches (reached : (responseWaits sessionID).system.Reaches C s)
    (here : s.waits[i]? = some w) : ∃ history, w.Kept sessionID i history := by
  obtain ⟨record, recorded⟩ := reached.with_record (responseWaits sessionID).occurs
  exact (tracked recorded).2.property here

/-- A call that has come to wait has sent a start that bears its generation. -/
def Sent (sent : List Frame) (w : ResponseWait) : Prop :=
  w.hasSent = true → ∃ command ∈ sent,
    command.event = "response.start" ∧ command.generationId = some w.generationID

theorem Sent.more {sent : List Frame} (kept : Sent sent w) (more : List Frame) :
    Sent (sent ++ more) w := by
  intro has
  obtain ⟨command, member, bears⟩ := kept has
  exact ⟨command, List.mem_append_left more member, bears⟩

theorem sent_move {id : String} {session : ControlSession} {m : WaitMove}
    {sent more : List Frame} {w' : ResponseWait} {history : List Occurrence}
    (kept : w.Kept sessionID i history) (before : Sent sent w)
    (moves : Moves id w session m w' more) : Sent (sent ++ more) w' := by
  cases moves with
  | registered | start =>
    intro has
    cases has
  | sent command place =>
    intro _
    exact ⟨command, by simp, kept.bears command place⟩
  | deliver k call =>
    obtain ⟨ackCh, same⟩ := w.handle_frame id call
    simp only [same]
    exact before.more []
  | expire => exact before.more []
  | select _ _ _ place | unsubError _ place | unsubCreated _ place =>
    intro _
    exact before.more [] (by simp [hasSent, place])

theorem sent_step (reached : (responseWaits sessionID).system.Reaches C s)
    (all : ∀ w ∈ s.waits, Sent s.sent w) (taken : s.step l = some t) :
    ∀ w ∈ t.waits, Sent t.sent w := by
  cases l with
  | call options generated =>
    cases taken
    refine Pool.forall_append all fun has => ?_
    cases has
  | frame f =>
    cases taken
    intro w member
    obtain ⟨v, old, rfl⟩ := List.mem_map.mp member
    exact all v old
  | move i m =>
    obtain ⟨w, w', sent, here, moves, _, more, waits⟩ := step_move taken
    obtain ⟨history, kept⟩ := kept_of_reaches reached here
    rw [waits, more]
    exact Pool.forall_set (fun v old => (all v old).more sent)
      (sent_move kept (all w (Pool.mem_of_read here)) moves)

theorem all_sent (reached : (responseWaits sessionID).system.Reaches C s) :
    ∀ w ∈ s.waits, Sent s.sent w := by
  induction reached with
  | here => simp [responseWaits, initial]
  | step l reached holds taken sent => exact sent_step reached sent taken

/-- A step leaves a call that has returned alone, and every call its generation. -/
theorem stays_step (taken : s.step l = some t) (here : s.waits[i]? = some w) :
    ∃ w', t.waits[i]? = some w' ∧ w.Stays w' := by
  cases l with
  | call options generated =>
    cases taken
    exact ⟨w, Pool.read_append_old here, .refl⟩
  | frame f =>
    cases taken
    exact ⟨w.hear f, by simp [here], rfl, fun _ => rfl⟩
  | move j m =>
    obtain ⟨v, v', sent, found, moves, _, _, waits⟩ := step_move taken
    rw [waits]
    exact Pool.read_set_related found here moves.stays .refl

/-! ## Progress -/

/-- How many of its own steps a call has before it returns. -/
def behind (i : Nat) (s : WaitSession) : Nat := s.waits[i]?.elim 0 ResponseWait.behind

/-- The others do not hold a call up, nor do the messages that it is called with. -/
theorem behind_other (other : ¬l.Own i) (here : s.waits[i]? = some w) (taken : s.step l = some t) :
    ∃ w', t.waits[i]? = some w' ∧ behind i t = behind i s := by
  cases l with
  | call options generated =>
    cases taken
    have kept : (s.startResponseAndWait options generated).waits[i]? = some w :=
      Pool.read_append_old here
    exact ⟨w, kept, by rw [behind, behind, kept, here]⟩
  | frame f =>
    cases taken
    exact ⟨w.hear f, by simp [here], by simp [behind, here, hear, ResponseWait.behind]⟩
  | move j m =>
    obtain ⟨v, v', sent, found, moves, _, _, waits⟩ := step_move taken
    by_cases same : i = j
    · subst same
      cases found.symm.trans here
      have moved : t.waits[i]? = some v' := by rw [waits, Pool.read_set_self found]
      -- A move that is not its own calls one of its handlers.
      cases m with
      | deliver k =>
        have level := moves.level
        exact ⟨v', moved, by simp [behind, moved, here, level]⟩
      | _ => exact absurd ⟨rfl, by simp⟩ other
    · have kept : t.waits[i]? = some w := by rw [waits, Pool.read_set_other same, here]
      exact ⟨w, kept, by rw [behind, behind, kept, here]⟩

theorem own_step (opened : (responseWaits sessionID).Open i s) (own : l.Own i)
    (taken : s.step l = some t) : (responseWaits sessionID).Settled i t ∨
      (responseWaits sessionID).Open i t ∧ behind i t < behind i s := by
  obtain ⟨_, shown, pending⟩ := opened
  obtain ⟨w, here, rfl⟩ := Waits.read_view rfl shown
  cases l with
  | call | frame => cases own
  | move j m =>
    obtain ⟨rfl, own⟩ := own
    obtain ⟨v, v', sent, found, moves, _, _, waits⟩ := step_move taken
    cases found.symm.trans here
    have moved : t.waits[j]? = some v' := by rw [waits, Pool.read_set_self found]
    have shown' := Waits.view_read (W := responseWaits sessionID) rfl moved
    rcases Waits.settled_or_open shown' with settled | opened
    · exact .inl settled
    · have nearer := moves.nearer own
      exact .inr ⟨opened, by simpa [behind, moved, here] using nearer⟩

theorem own_enabled (opened : (responseWaits sessionID).Open i s) :
    (responseWaits sessionID).system.Enabled (WaitStep.Own i) s := by
  obtain ⟨_, shown, pending⟩ := opened
  obtain ⟨w, here, rfl⟩ := Waits.read_view rfl shown
  obtain ⟨m, own, moves⟩ := w.can_move s.sessionID s.session pending
  obtain ⟨⟨w', session', sent⟩, moved⟩ := Option.isSome_iff_exists.mp moves
  exact ⟨.move i m, ⟨rfl, own⟩, by simp [responseWaits, step, here, moved]⟩

theorem advance : (responseWaits sessionID).Advance C i (behind i) where
  enabled s _ opened := own_enabled opened
  own s l t _ opened _ own taken := own_step opened own taken
  others s l t opened other taken := by
    obtain ⟨_, shown, _⟩ := opened
    obtain ⟨w, here, _⟩ := Waits.read_view rfl shown
    obtain ⟨w', kept, same⟩ := behind_other other here taken
    exact ⟨⟨w'.view, Waits.view_read rfl kept⟩, same⟩

theorem Kept.owed {history : List Occurrence} (kept : w.Kept sessionID i history) :
    Due sessionID w.generationID i history w.ending := by
  intro e ended
  have left : w.decision = some e := by
    cases place : w.place with
    | ended e' => simpa [decision, ending, place] using ended
    | _ => simp [ending, place] at ended
  exact kept.due e left

theorem Kept.done {history : List Occurrence} (kept : w.Kept sessionID i history)
    (settled : w.ending.isSome = true) : w.created = false ∧ w.error = false := by
  cases place : w.place with
  | ended e => exact kept.released e place
  | _ => simp [ending, place] at settled

theorem pooled : (responseWaits sessionID).Pooled C (·.waits) ResponseWait.view
    fun i w => w.Kept sessionID i where
  seen _ := rfl
  tracked _ reached := (tracked reached).2
  stays _ _ _ _ _ taken _ _ here := stays_step taken here
  released _ _ _ kept settled := ⟨(Kept.done kept settled).1, (Kept.done kept settled).2, rfl⟩

end WaitSession

/-- Calls return as they should, in whatever order their handlers are called, and each that
comes to wait has sent a start that bears its generation. -/
theorem buffered_waits_settle (sessionID : String) (C : WaitSession → WaitStep → Prop) :
    WaitsSettle (responseWaits sessionID) C (Due sessionID) ∧
      ∀ s, (responseWaits sessionID).system.Reaches C s →
        ∀ w ∈ s.waits, WaitSession.Sent s.sent w :=
  ⟨WaitSession.pooled.settle (fun _ _ _ kept => WaitSession.Kept.owed kept)
    fun _ => WaitSession.advance, fun _ reached => WaitSession.all_sent reached⟩

/-- A call that supersedes a response returns with its acknowledgement, though its context is
done by then as well. -/
def supersedingWait : List WaitStep :=
  let created : Frame := ⟨"response.created", [("generation_id", .str "h")]⟩
  [.call (supersedeOptions "g" none) ⟨"h", GeneratedId.short_proper⟩, .move 0 .registered,
    .move 0 .start, .move 0 .sent, .frame created, .move 0 (.deliver 0), .move 0 .expire,
    .move 0 (.select false), .move 0 .leave, .move 0 .leave]

theorem buffered_waits_settle_run :
    ∃ e : (responseWaits "s").system.Execution always,
      (e.state 5).waits.map (fun w => w.deliveries.length) = [2] ∧
      ∃ m w, 5 ≤ m ∧ ((responseWaits "s").waits (e.state m))[0]? = some w ∧
        w.settlement.isSome = true := by
  have ran : (responseWaits "s").system.run (responseWaits "s").system.init supersedingWait =
    some _ := rfl
  refine ⟨.ofRun supersedingWait (System.meets_always _) ran, rfl, ?_⟩
  refine (buffered_waits_settle "s" always).1.settles _ 5 0 _
    (System.Execution.ofRun_fair _ _ ran ?_) rfl
  rintro ⟨l, own, enabled⟩
  cases l with
  | move j m =>
    obtain ⟨rfl, chosen⟩ := own
    cases m with
    -- The channel's goroutines are not the call's.
    | deliver k => exact chosen k rfl
    | _ => cases enabled
  | _ => cases own

end VoxRtc.Go.Session
