import VoxRtc.Correlation.Slot
import VoxRtc.Wire.Json

/-!
# Browser commands

What the TypeScript, Rust and Python gateways do alike with a browser frame and with a
Vox event: one pending offer id, set by `rtc.offer`, taken by the next `rtc.answer` or
`rtc.signaling_error`, and cleared by the error path when the failing frame carries it.
A `Dialect` holds what they do differently.
-/
namespace VoxRtc.Gateway

open Transition Correlation Wire

variable {ρ ν κ : Type}

structure ClientMessage (ν : Type) where
  id : String
  type : String
  data : Members ν
  deriving Repr

/-- A caught error; `typed` ones reach the browser with the code `command_invalid`. -/
structure CommandError where
  message : String
  typed : Bool
  deriving DecidableEq, Repr

def CommandError.plain (message : String) : CommandError := ⟨message, false⟩

def CommandError.invalid (message : String) : CommandError := ⟨message, true⟩

/-- A call on the control session; `κ` is the candidate as the language forwards it. -/
inductive SessionCall (κ : Type) where
  | sendOffer (sdp : String) (restart : Bool) (generation : Option Nat)
  | sendIceCandidate (candidate : Option κ) (generation : Option Nat)
  | closeRtc (reason : String)
  deriving DecidableEq, Repr

/-- The part of a connection's record that commands and events read and write. -/
structure Progress where
  pendingOfferId : Option String
  generatedOffer : Bool
  rtcCloseRequested : Bool
  deriving DecidableEq, Repr

def Progress.initial : Progress := ⟨none, false, false⟩

/-- A frame to the browser. -/
structure Frame (ν : Type) where
  id : Option String
  type : String
  data : Members ν
  deriving Repr

structure WireEvent (ν : Type) where
  type : String
  data : Members ν
  deriving Repr

/-- How a session call ends: `failed` is caught by the command handler, `fatal` is not. -/
inductive Outcome where
  | done
  | failed (message : String)
  | fatal
  deriving DecidableEq, Repr

/-- The check all parsers end with. -/
def clientMessage (id type : String) (data : Option (Members ν)) :
    Except CommandError (ClientMessage ν) :=
  match data with
  | none => .error (.plain "RTC gateway message requires id, type, and object data")
  | some data =>
    if id = "" ∨ type = "" then
      .error (.plain "RTC gateway message requires id, type, and object data")
    else .ok ⟨id, type, data⟩

theorem clientMessage_id {id type : String} {data : Option (Members ν)} {message : ClientMessage ν}
    (parsed : clientMessage id type data = .ok message) : message.id ≠ "" := by
  unfold clientMessage at parsed
  split at parsed
  · cases parsed
  · split at parsed
    · cases parsed
    next proper =>
      cases parsed
      exact fun empty => proper (.inl empty)

structure Dialect (ρ ν κ : Type) where
  parse : ρ → Except CommandError (ClientMessage ν)
  generation : Members ν → String → Bool → Except CommandError (Option Nat)
  offer : Option (Json ν) → Except CommandError String
  candidate : Option (Json ν) → Except CommandError (Option κ)
  /-- The `id` member a frame is written with. -/
  idField : Option String → Option String
  /-- Frames and events share one serve loop, which a failing write ends. -/
  loops : Bool
  /-- Some errors of a session call pass the command handler and end the loop. -/
  escapes : Bool
  escapes_loops : escapes = true → loops = true
  parse_id : ∀ raw message, parse raw = .ok message → message.id ≠ ""
  idField_none : idField none = none
  idField_some : ∀ id, id ≠ "" → idField (some id) = some id

/-- The session call a frame asks for, given whether the negotiation is a generated one. -/
def Dialect.command (d : Dialect ρ ν κ) (generatedOffer : Bool) (message : ClientMessage ν) :
    Except CommandError (SessionCall κ) :=
  if message.type = "rtc.offer" then do
    let generation ← d.generation message.data "rtc.offer" false
    let sdp ← d.offer (message.data.get? "offer")
    return .sendOffer sdp ((message.data.get? "restart").any Json.isTrue) generation
  else if message.type = "rtc.ice_candidate" then do
    let generation ← d.generation message.data "rtc.ice_candidate" generatedOffer
    let candidate ← d.candidate (message.data.get? "candidate")
    return .sendIceCandidate candidate generation
  else if message.type = "rtc.close" then
    return .closeRtc (((message.data.get? "reason").bind Json.str?).getD "client_closed")
  else
    let type := message.type
    .error (.plain s!"Unsupported RTC gateway message type: {type}")

private theorem bind_ok {α β : Type} {x : Except CommandError α} {f : α → Except CommandError β}
    {b : β} (bound : x >>= f = .ok b) : ∃ a, x = .ok a ∧ f a = .ok b := by
  cases x with
  | error e => cases bound
  | ok a => exact ⟨a, rfl, bound⟩

/-- What an accepted frame asks for, by its type. -/
inductive Dialect.Asks (d : Dialect ρ ν κ) (generatedOffer : Bool) (message : ClientMessage ν) :
    SessionCall κ → Prop
  | offer (sdp : String) (restart : Bool) (generation : Option Nat)
      (type : message.type = "rtc.offer")
      (read : d.generation message.data "rtc.offer" false = .ok generation) :
      Asks d generatedOffer message (.sendOffer sdp restart generation)
  | candidate (candidate : Option κ) (generation : Option Nat)
      (type : message.type = "rtc.ice_candidate")
      (read : d.generation message.data "rtc.ice_candidate" generatedOffer = .ok generation) :
      Asks d generatedOffer message (.sendIceCandidate candidate generation)
  | close (reason : String) (type : message.type = "rtc.close") :
      Asks d generatedOffer message (.closeRtc reason)

theorem Dialect.asks {d : Dialect ρ ν κ} {generatedOffer : Bool} {message : ClientMessage ν}
    {call : SessionCall κ} (asked : d.command generatedOffer message = .ok call) :
    d.Asks generatedOffer message call := by
  unfold command at asked
  split at asked
  next type =>
    obtain ⟨generation, read, rest⟩ := bind_ok asked
    obtain ⟨sdp, _, last⟩ := bind_ok rest
    cases last
    exact .offer _ _ _ type read
  · split at asked
    next type =>
      obtain ⟨generation, read, rest⟩ := bind_ok asked
      obtain ⟨candidate, _, last⟩ := bind_ok rest
      cases last
      exact .candidate _ _ type read
    · split at asked
      next type =>
        cases asked
        exact .close _ type
      · cases asked

theorem Dialect.offer_type {d : Dialect ρ ν κ} {generatedOffer : Bool} {message : ClientMessage ν}
    {sdp : String} {restart : Bool} {generation : Option Nat}
    (asked : d.command generatedOffer message = .ok (.sendOffer sdp restart generation)) :
    message.type = "rtc.offer" := by
  cases d.asks asked with
  | offer _ _ _ type _ => exact type

structure Handled (κ : Type) where
  progress : Progress
  requestId : Option String
  /-- The session call made, whether or not it succeeded. -/
  call : Option (SessionCall κ)
  error : Option CommandError

/-- The id of an offer that went to Vox. -/
def Handled.offered (h : Handled κ) : Option String :=
  match h.call, h.error with
  | some (.sendOffer _ _ _), none => h.requestId
  | _, _ => none

namespace Progress

/-- What the handler stores before it calls the session. -/
def calling (p : Progress) (id : String) : SessionCall κ → Progress
  | .sendOffer _ _ _ => { p with pendingOfferId := some id }
  | .sendIceCandidate _ _ => p
  | .closeRtc _ => { p with rtcCloseRequested := true }

/-- What it stores once the call has succeeded. -/
def called (p : Progress) : SessionCall κ → Progress
  | .sendOffer _ _ generation => { p with generatedOffer := generation.isSome }
  | _ => p

/-- The error path: the pending id is cleared when the failing frame carries it. -/
def reject (p : Progress) (requestId : Option String) : Progress :=
  if requestId.isSome ∧ p.pendingOfferId = requestId then { p with pendingOfferId := none } else p

end Progress

def handleCommand (d : Dialect ρ ν κ) (p : Progress) (message : ClientMessage ν)
    (outcome : Outcome) : Handled κ :=
  if message.type = "rtc.offer" ∧ p.pendingOfferId.isSome then
    ⟨p.reject message.id, message.id, none, some (.plain "An RTC offer is already pending")⟩
  else match d.command p.generatedOffer message with
    | .error error => ⟨p.reject message.id, message.id, none, some error⟩
    | .ok call => match outcome with
      | .failed text => ⟨(p.calling message.id call).reject message.id, message.id, some call,
          some (.plain text)⟩
      | .fatal => ⟨p.calling message.id call, message.id, some call, some (.plain "")⟩
      | .done => ⟨(p.calling message.id call).called call, message.id, some call, none⟩

def handleMessage (d : Dialect ρ ν κ) (p : Progress) (raw : ρ) (outcome : Outcome) : Handled κ :=
  match d.parse raw with
  | .error error => ⟨p, none, none, some error⟩
  | .ok message => handleCommand d p message outcome

def errorFrame (d : Dialect ρ ν κ) (requestId : Option String) (error : CommandError) : Frame ν :=
  ⟨d.idField requestId, "gateway.error",
    ("message", .str error.message) ::
      if error.typed then [("code", .str "command_invalid")] else []⟩

def correlates (type : String) : Bool := type == "rtc.answer" || type == "rtc.signaling_error"

def forwardEvent (d : Dialect ρ ν κ) (p : Progress) (event : WireEvent ν) : Progress × Frame ν :=
  let requestId := if correlates event.type then p.pendingOfferId else none
  let taken := if correlates event.type then { p with pendingOfferId := none } else p
  let closing := event.type == "rtc.session.closed"
  ({ taken with rtcCloseRequested := taken.rtcCloseRequested || closing },
    ⟨d.idField requestId, event.type, event.data⟩)

/-- One browser connection whose session is set up. The history is what Vox and the
browser have seen of offers and answers. -/
structure Connection where
  progress : Progress
  history : History String
  ended : Bool

/-- `written` tells whether the frame that answers reaches the browser's socket. -/
inductive Label (ρ ν : Type) where
  | frame (raw : ρ) (outcome : Outcome) (written : Bool)
  | event (event : WireEvent ν) (written : Bool)

/-- A step of a gateway that handles messages in its own way. -/
def Connection.stepBy (d : Dialect ρ ν κ) (handle : Progress → ρ → Outcome → Handled κ)
    (c : Connection) : Label ρ ν → Option Connection
  | .frame raw outcome written =>
    if c.ended ∨ (outcome = .fatal ∧ d.escapes = false) then none
    else
      let handled := handle c.progress raw outcome
      some {
        progress := handled.progress
        history := match handled.offered with
          | some id => .forwarded id :: c.history
          | none => c.history
        ended := d.loops && (outcome == .fatal || handled.error.isSome && !written) }
  | .event event written =>
    if c.ended then none
    else
      let (progress, frame) := forwardEvent d c.progress event
      -- A write that fails ends a serve loop; a listener goes on without it.
      let lost := d.loops && !written
      some {
        progress := progress
        history := if correlates event.type && !lost then .answered frame.id :: c.history
          else c.history
        ended := lost || d.loops && event.type == "rtc.session.closed" }

def Connection.step (d : Dialect ρ ν κ) : Connection → Label ρ ν → Option Connection :=
  stepBy d (handleMessage d)

def system (d : Dialect ρ ν κ) : System Connection (Label ρ ν) :=
  ⟨⟨.initial, [], false⟩, Connection.step d⟩

/-- A frame that repeats the id of the outstanding offer is a command the gateway can
carry out: it asks for something other than an offer, and the session call succeeds. -/
def Undisturbed (d : Dialect ρ ν κ) (c : Connection) : Label ρ ν → Prop
  | .frame raw outcome _ => ∀ message ∈ (d.parse raw).toOption,
      c.progress.pendingOfferId = some message.id →
        outcome = .done ∧ message.type ≠ "rtc.offer" ∧
          (d.command c.progress.generatedOffer message).isOk = true
  | .event _ _ => True

instance (d : Dialect ρ ν κ) (c : Connection) : (l : Label ρ ν) → Decidable (Undisturbed d c l)
  | .frame raw _ _ => inferInstanceAs (Decidable (∀ _ ∈ (d.parse raw).toOption, _))
  | .event _ _ => inferInstanceAs (Decidable True)

variable {d : Dialect ρ ν κ} {c : Connection} {p : Progress} {message : ClientMessage ν}

theorem reject_other {id : String} (other : p.pendingOfferId ≠ some id) :
    (p.reject (some id)).pendingOfferId = p.pendingOfferId := by
  simp [Progress.reject, other]

theorem reject_own {id : String} (own : p.pendingOfferId = some id) :
    (p.reject (some id)).pendingOfferId = none := by
  simp [Progress.reject, own]

/-- Only an offer that goes to Vox changes the pending id, and it does so while none is
pending. -/
theorem handleCommand_cases (message : ClientMessage ν) (outcome : Outcome)
    (caught : outcome ≠ .fatal)
    (undisturbed : p.pendingOfferId = some message.id → outcome = .done ∧
      message.type ≠ "rtc.offer" ∧ (d.command p.generatedOffer message).isOk = true) :
    let handled := handleCommand d p message outcome
    (p.pendingOfferId = none ∧ handled.offered = some message.id ∧
        handled.progress.pendingOfferId = some message.id) ∨
      handled.offered = none ∧ handled.progress.pendingOfferId = p.pendingOfferId := by
  intro handled
  -- A second offer is rejected, under an id that is not the pending one.
  by_cases second : message.type = "rtc.offer" ∧ p.pendingOfferId.isSome
  · have other : p.pendingOfferId ≠ some message.id :=
      fun repeated => (undisturbed repeated).2.1 second.1
    simp only [handled, handleCommand, second, and_self, if_true]
    exact .inr ⟨rfl, reject_other other⟩
  · simp only [handled, handleCommand, second, if_false]
    cases parsed : d.command p.generatedOffer message with
    | error error =>
      have other : p.pendingOfferId ≠ some message.id := fun repeated => by
        have accepted := (undisturbed repeated).2.2
        rw [parsed] at accepted
        cases accepted
      exact .inr ⟨rfl, reject_other other⟩
    | ok call =>
      cases call with
      | sendOffer sdp restart generation =>
        -- The slot is free here, so an own failing call may clear it again.
        have free : p.pendingOfferId = none := by
          simpa [Dialect.offer_type parsed] using second
        cases outcome with
        | done => exact .inl ⟨free, rfl, rfl⟩
        | failed text => exact .inr ⟨rfl, (reject_own rfl).trans free.symm⟩
        | fatal => exact absurd rfl caught
      | sendIceCandidate candidate generation =>
        cases outcome with
        | done => exact .inr ⟨rfl, rfl⟩
        | failed text =>
          exact .inr ⟨rfl, reject_other fun repeated => by cases (undisturbed repeated).1⟩
        | fatal => exact absurd rfl caught
      | closeRtc reason =>
        cases outcome with
        | done => exact .inr ⟨rfl, rfl⟩
        | failed text =>
          refine .inr ⟨rfl, ?_⟩
          show (Progress.reject _ (some message.id)).pendingOfferId = p.pendingOfferId
          exact reject_other (p := p.calling message.id (.closeRtc reason : SessionCall κ))
            fun repeated => by cases (undisturbed repeated).1
        | fatal => exact absurd rfl caught

/-- The connection keeps the slot of the abstract protocol until it ends. -/
structure Keeps (c : Connection) (s : Slot String) : Prop where
  history : s.history = c.history
  pending : c.ended = false → s.pending = c.progress.pendingOfferId
  proper : ∀ id, c.ended = false → c.progress.pendingOfferId = some id → id ≠ ""

private theorem keeps_frame {s : Slot String} {raw : ρ} {outcome : Outcome} {written : Bool}
    {b : Connection} (keeps : Keeps c s) (undisturbed : Undisturbed d c (.frame raw outcome written))
    (taken : c.step d (.frame raw outcome written) = some b) :
    ∃ t, Slot.machine.Leads always s t ∧ Keeps b t := by
  simp only [Connection.step, Connection.stepBy] at taken
  split at taken
  · cases taken
  next enabled =>
    simp only [not_or, not_and, Bool.not_eq_true, Bool.not_eq_false] at enabled
    obtain ⟨alive, escapes⟩ := enabled
    cases taken
    cases parsed : d.parse raw with
    | error error =>
      refine ⟨s, .here, ?_⟩
      simp only [handleMessage, parsed, Handled.offered]
      exact ⟨keeps.history, fun _ => keeps.pending alive, fun id _ => keeps.proper id alive⟩
    | ok message =>
      simp only [handleMessage, parsed]
      -- A fatal call ends the loop; it has not offered anything.
      by_cases fatal : outcome = .fatal
      · refine ⟨s, .here, ?_⟩
        have loops := d.escapes_loops (escapes fatal)
        have silent : (handleCommand d c.progress message outcome).offered = none := by
          subst fatal
          unfold handleCommand
          split
          · rfl
          · split <;> simp [Handled.offered]
        constructor
        · simp only [silent]
          exact keeps.history
        · simp [fatal, loops]
        · simp [fatal, loops]
      · rcases handleCommand_cases message outcome fatal (undisturbed message (by simp [parsed, Except.toOption])) with
          ⟨free, offered, pending⟩ | ⟨silent, same⟩
        · refine ⟨_, Slot.machine_forward message.id ((keeps.pending alive).trans free), ?_⟩
          simp only [offered]
          refine ⟨by rw [keeps.history], fun _ => pending.symm, fun id _ found => ?_⟩
          rw [pending] at found
          cases found
          exact d.parse_id _ _ parsed
        · refine ⟨s, .here, ?_⟩
          simp only [silent]
          exact ⟨keeps.history, fun _ => (keeps.pending alive).trans same.symm,
            fun id _ found => keeps.proper id alive (same ▸ found)⟩

private theorem keeps_event {s : Slot String} {event : WireEvent ν} {written : Bool}
    {b : Connection} (keeps : Keeps c s) (taken : c.step d (.event event written) = some b) :
    ∃ t, Slot.machine.Leads always s t ∧ Keeps b t := by
  simp only [Connection.step, Connection.stepBy] at taken
  split at taken
  · cases taken
  next alive =>
    simp only [Bool.not_eq_true] at alive
    cases taken
    have named : d.idField c.progress.pendingOfferId = c.progress.pendingOfferId := by
      cases found : c.progress.pendingOfferId with
      | none => exact d.idField_none
      | some id => exact d.idField_some id (keeps.proper id alive found)
    cases answer : correlates event.type with
    | false =>
      refine ⟨s, .here, ?_⟩
      simp only [forwardEvent, answer, Bool.false_and, Bool.false_eq_true, if_false]
      exact ⟨keeps.history, fun _ => keeps.pending alive, fun id _ => keeps.proper id alive⟩
    | true =>
      cases lost : d.loops && !written with
      | true =>
        refine ⟨s, .here, ?_⟩
        simp only [forwardEvent, answer, Bool.not_true, Bool.and_false, Bool.false_eq_true,
          if_false, Bool.true_or]
        exact ⟨keeps.history, nofun, nofun⟩
      | false =>
        refine ⟨_, Slot.machine_answer s, ?_⟩
        simp only [forwardEvent, answer, Bool.not_false, Bool.and_true, if_true, named]
        exact ⟨by rw [keeps.history, keeps.pending alive], fun _ => rfl, nofun⟩

/-- While no frame disturbs the outstanding offer, offers and answers stay in order. -/
theorem orderly_of_undisturbed (reached : (system d).Reaches (Undisturbed d) c) :
    c.history.Orderly := by
  have start : Keeps (system d).init (Slot.machine (ι := String)).init := ⟨rfl, fun _ => rfl, nofun⟩
  obtain ⟨s, steps, keeps⟩ := System.Reaches.simulates Keeps start
    (fun a l b s keeps undisturbed taken => by
      cases l with
      | frame raw outcome written => exact keeps_frame keeps undisturbed taken
      | event event written => exact keeps_event keeps taken) reached
  rw [← keeps.history]
  exact (Slot.faithful steps).orderly

section Frames

/-- A frame of a browser. -/
def browserFrame (id type : String) (data : Members ν) : Json ν :=
  .obj [("id", .str id), ("type", .str type), ("data", .obj data)]

def offerFrame (id : String) : Json ν :=
  browserFrame id "rtc.offer" [("offer", .obj [("type", .str "offer"), ("sdp", .str "v=0")])]

/-- The end of candidates, under whatever id. -/
def candidateFrame (id : String) : Json ν :=
  browserFrame id "rtc.ice_candidate" [("candidate", .null)]

end Frames

end VoxRtc.Gateway
