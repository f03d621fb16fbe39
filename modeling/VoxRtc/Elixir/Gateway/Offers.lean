import VoxRtc.Elixir.Gateway.Survival

/-!
# Offers of the Elixir gateway

The socket takes browser frames and session messages in any order. It holds the id of the
offer that is not answered yet, and a frame that it rejects changes nothing.
-/
namespace VoxRtc.Elixir.Gateway

open Transition Correlation Wire VoxRtc.Gateway

def frameType (frame : Json Number) : Option String :=
  ((frame.object?.getD []).get? "type").bind Json.str?

def frameId (frame : Json Number) : Option String :=
  ((frame.object?.getD []).get? "id").bind Json.str?

def Result.socket : Result → Socket
  | ok s => s
  | push _ s => s
  | stop _ _ _ _ s => s

def Result.stops : Result → Bool
  | stop .. => true
  | _ => false

/-- The id of the offer that a frame sends on, if the session takes it. -/
def Socket.forwards (s : Socket) (lib : Libraries) (incoming : Incoming)
    (answer : Except Term Unit) : Option String :=
  match s.asks lib incoming, answer with
  | some (message, .sendOffer ..), .ok () => some message.id
  | _, _ => none

/-- The ids that the answers among some frames have. -/
def answers (frames : List (Json Number)) : List (Observation String) :=
  (frames.filter fun frame => (frameType frame).any answersOffer).map fun frame =>
    .answered (frameId frame)

/-- A socket, with the offers it has sent on and the answers it has pushed. -/
structure Connection where
  socket : Socket
  history : History String := []
  running : Bool := true

inductive Label where
  /-- A frame, and what the session answers to the call it makes. -/
  | frame (incoming : Incoming) (answer : Except Term Unit)
  | info (info : Info)

namespace Connection

/-- What a label makes of the socket; a callback that raises ends the run. -/
def result (c : Connection) (lib : Libraries) : Label → Option Result
  | .frame incoming answer => c.socket.handleIn lib (fun _ => some answer) incoming
  | .info info => c.socket.handleInfo lib info

def forwarded (c : Connection) (lib : Libraries) : Label → Option String
  | .frame incoming answer => c.socket.forwards lib incoming answer
  | .info _ => none

def step (lib : Libraries) (c : Connection) (l : Label) : Option Connection :=
  if c.running then (c.result lib l).map fun result =>
    { socket := result.socket
      history := answers result.frames ++
        (c.forwarded lib l).toList.map .forwarded ++ c.history
      running := !result.stops }
  else none

end Connection

def connection (lib : Libraries) (session : Nat) : System Connection Label where
  init := { socket := { session := session } }
  step := Connection.step lib

/-- A rejected frame leaves the socket as it was, the pending id is that of the offer that
is not answered yet, and errors of the conversation leave it alone. -/
structure Connection.Disciplined (lib : Libraries) (c : Connection) : Prop where
  /-- An offer goes out when none is outstanding, and an answer has its offer's id. -/
  orderly : c.history.Orderly
  held : c.history.outstanding = c.socket.pendingOfferId.toList
  rejected : ∀ incoming answer frame s,
    c.socket.handleIn lib (fun _ => some answer) incoming = some (.push frame s) →
    frameType frame = some "gateway.error" ∧ s = c.socket
  cleared : ∀ event result, c.socket.handleInfo lib (.voxRtc c.socket.session event) = some result →
    ∀ frame ∈ result.frames, (frameType frame).any answersOffer = true →
    frameId frame = c.socket.pendingOfferId ∧ result.socket.pendingOfferId = none
  errors : ∀ event result, c.socket.handleInfo lib (.voxRtc c.socket.session event) = some result →
    (∃ payload, event = .error payload) ∨ (∃ reason, event = .failed reason) →
    result.socket = c.socket

section Frames

variable {s : Socket} {lib : Libraries} {type : String} {data : Term} {id : Option String}
  {frame : Json Number} {result : Result}

theorem frame_header (type : String) (id : Option String) (rest : Members Number)
    (other : rest = [] ∨ ∃ value, rest = [("data", value)]) :
    frameType (.obj (header type id ++ rest)) = some type ∧
      frameId (.obj (header type id ++ rest)) = id := by
  rcases other with rfl | ⟨value, rfl⟩ <;> cases id <;> exact ⟨rfl, rfl⟩

/-- A frame has the type and the id it is made of. -/
theorem text_frame (written : text type data id = some frame) :
    frameType frame = some type ∧ frameId frame = id := by
  rw [text_eq] at written
  split at written
  · cases written
    simpa using frame_header type id [] (.inl rfl)
  · obtain ⟨value, -, rfl⟩ := Option.map_eq_some_iff.mp written
    exact frame_header type id _ (.inr ⟨value, rfl⟩)

theorem refuse_some {error : Term × Term} (refused : s.refuse id error = some result) :
    ∃ frame, result = .push frame s ∧ frameType frame = some "gateway.error" := by
  obtain ⟨frame, written, rfl⟩ := Option.map_eq_some_iff.mp refused
  exact ⟨frame, rfl, (text_frame written).1⟩

/-- An offer is sent on only where none is pending. -/
theorem command_offer {message : Message} {sdp : String} {restart : Bool} {g : Option Nat}
    (asked : s.command message = .ok (.sendOffer sdp restart g)) : s.pendingOfferId = none := by
  cases pending : s.pendingOfferId with
  | none => rfl
  | some id =>
    rw [Socket.command] at asked
    split at asked
    · simp [pending, throw, throwThe, MonadExceptOf.throw, bind, Except.bind] at asked
    · split at asked
      · simp only [bind, Except.bind] at asked
        split at asked
        · cases asked
        · split at asked <;> cases asked
      · split at asked <;> cases asked

/-- A frame is rejected, or the call it makes succeeds. -/
theorem handleIn_cases {incoming : Incoming} {answer : Call → Answer}
    (handled : s.handleIn lib answer incoming = some result) :
    ((∃ frame, result = .push frame s ∧ frameType frame = some "gateway.error") ∧
      ∀ message call, s.asks lib incoming = some (message, call) →
        ∃ reason, answer call = some (.error reason)) ∨
    ∃ message call, s.asks lib incoming = some (message, call) ∧ answer call = some (.ok ()) ∧
      s.command message = .ok call ∧ result = .ok (s.called message.id call) := by
  cases incoming with
  | binary =>
    refine .inl ⟨refuse_some handled, fun message call asked => ?_⟩
    cases asked
  | text payload =>
    simp only [Socket.handleIn] at handled
    cases parsed : parseMessage lib payload with
    | error error =>
      rw [parsed] at handled
      refine .inl ⟨refuse_some handled, fun message call asked => ?_⟩
      simp [Socket.asks, parsed, Except.toOption] at asked
    | ok message =>
      rw [parsed] at handled
      simp only [Socket.handleMessage] at handled
      cases asked : s.command message with
      | error error =>
        rw [asked] at handled
        refine .inl ⟨refuse_some handled, fun message call asking => ?_⟩
        simp [Socket.asks, parsed, asked, Except.toOption] at asking
      | ok call =>
        have asking : s.asks lib (.text payload) = some (message, call) := by
          simp [Socket.asks, parsed, asked, Except.toOption]
        rw [asked] at handled
        -- The command is called, and its answer decides.
        cases replied : answer call with
        | none => simp [replied] at handled
        | some reply =>
          simp only [replied] at handled
          cases reply with
          | error reason =>
            refine .inl ⟨refuse_some handled, fun _ _ other => ?_⟩
            cases asking.symm.trans other
            exact ⟨reason, replied⟩
          | ok =>
            cases handled
            exact .inr ⟨message, call, asking, replied, asked, rfl⟩

/-- What an event that does not raise is pushed as. -/
theorem handleEvent_cases {event : Event} (handled : s.handleEvent lib event = some result) :
    ∃ type data frame, wireEvent event = some (type, data) ∧
      text type data (s.requestId type) = some frame ∧ result.frames = [frame] ∧
      result.socket.pendingOfferId = (s.answered type).pendingOfferId ∧
      (type ≠ "rtc.session.closed" → result = .push frame (s.answered type)) := by
  obtain ⟨⟨type, data⟩, wire, rest⟩ := Option.bind_eq_some_iff.mp handled
  obtain ⟨frame, written, pushed⟩ := Option.bind_eq_some_iff.mp rest
  refine ⟨type, data, frame, wire, written, ?_⟩
  rw [Socket.pushed] at pushed
  split at pushed
  next closes =>
    obtain ⟨reason, -, rfl⟩ := Option.map_eq_some_iff.mp pushed
    exact ⟨rfl, rfl, fun going => absurd closes going⟩
  next =>
    cases pushed
    exact ⟨rfl, rfl, fun _ => rfl⟩

end Frames

section Runs

variable {lib : Libraries} {c d : Connection} {l : Label}

/-- What a step does to the pending id and to the history. -/
theorem step_cases (taken : c.step lib l = some d) :
    (d.socket.pendingOfferId = c.socket.pendingOfferId ∧ d.history = c.history) ∨
    (∃ id, c.socket.pendingOfferId = none ∧ d.socket.pendingOfferId = some id ∧
      d.history = .forwarded id :: c.history) ∨
    (d.socket.pendingOfferId = none ∧
      d.history = .answered c.socket.pendingOfferId :: c.history) := by
  rw [Connection.step] at taken
  split at taken
  · obtain ⟨result, handled, rfl⟩ := Option.map_eq_some_iff.mp taken
    cases l with
    | frame incoming answer =>
      rcases handleIn_cases handled with ⟨⟨frame, rfl, error⟩, refused⟩ |
        ⟨message, call, asks, replied, asked, rfl⟩
      · left
        have silent : answers [frame] = [] := by simp [answers, error, answersOffer]
        have unforwarded : c.socket.forwards lib incoming answer = none := by
          unfold Socket.forwards
          split
          next message _ _ _ asks =>
            obtain ⟨reason, replied⟩ := refused message _ asks
            cases replied
          next => rfl
        simp [Connection.forwarded, unforwarded, Result.frames, silent, Result.socket]
      · cases replied
        cases call with
        -- Of the calls, only an offer takes the slot.
        | sendOffer sdp restart generation =>
          right; left
          refine ⟨message.id, command_offer asked, rfl, ?_⟩
          simp [Connection.forwarded, Socket.forwards, asks, Result.frames, answers]
        | _ =>
          left
          refine ⟨rfl, ?_⟩
          simp [Connection.forwarded, Socket.forwards, asks, Result.frames, answers]
    | info info =>
      have unforwarded : c.forwarded lib (.info info) = none := rfl
      rw [unforwarded]
      cases info with
      | other =>
        cases handled
        exact .inl ⟨rfl, rfl⟩
      | voxRtc session event =>
        simp only [Connection.result, Socket.handleInfo] at handled
        split at handled
        · obtain ⟨type, data, frame, -, written, frames, pending, -⟩ := handleEvent_cases handled
          obtain ⟨typed, identified⟩ := text_frame written
          rw [frames, pending]
          -- Of the events, only an answer frees it.
          by_cases answer : answersOffer type = true
          · right; right
            simp [answers, typed, identified, answer, Socket.requestId, Socket.answered]
          · left
            simp [answers, typed, answer, Socket.answered]
        · cases handled
          exact .inl ⟨rfl, rfl⟩
  · cases taken

/-- The socket is a slot that holds the offer that is outstanding. -/
theorem connection_faithful (session : Nat)
    (reached : (connection lib session).Reaches always c) :
    (⟨c.socket.pendingOfferId, c.history⟩ : Slot String).Faithful := by
  have simulated := reached.simulates (N := Slot.machine)
    (fun c slot => slot = ⟨c.socket.pendingOfferId, c.history⟩) rfl ?_
  · obtain ⟨slot, reached, rfl⟩ := simulated
    exact Slot.faithful reached
  · rintro c l d slot rfl - taken
    refine ⟨_, ?_, rfl⟩
    rcases step_cases taken with ⟨pending, history⟩ | ⟨id, free, pending, history⟩ |
      ⟨pending, history⟩
    · rw [pending, history]
      exact .here
    · rw [pending, history]
      exact Slot.machine_forward id free
    · rw [pending, history]
      exact Slot.machine_answer _

/-- The offers of a socket, in any run. -/
theorem connection_disciplined (lib : Libraries) (session : Nat) (c : Connection)
    (reached : (connection lib session).Reaches always c) : c.Disciplined lib := by
  have faithful := connection_faithful session reached
  refine ⟨faithful.orderly, faithful.held, ?_, ?_, ?_⟩
  · intro incoming answer frame s handled
    rcases handleIn_cases handled with ⟨⟨frame, same, error⟩, -⟩ | ⟨_, _, -, -, -, same⟩
    · cases same
      exact ⟨error, rfl⟩
    · cases same
  · intro event result handled frame member answer
    rw [Socket.handleInfo, if_pos rfl] at handled
    obtain ⟨type, data, pushed, -, written, frames, pending, -⟩ := handleEvent_cases handled
    obtain ⟨typed, identified⟩ := text_frame written
    rw [frames, List.mem_singleton] at member
    rw [member] at answer ⊢
    rw [typed, Option.any_some] at answer
    rw [identified, pending, Socket.requestId, Socket.answered, if_pos answer, if_pos answer]
    exact ⟨rfl, rfl⟩
  · intro event result handled error
    rw [Socket.handleInfo, if_pos rfl] at handled
    obtain ⟨type, data, frame, wire, -, -, -, pushed⟩ := handleEvent_cases handled
    have named : type = "error" := by
      rcases error with ⟨payload, rfl⟩ | ⟨reason, rfl⟩ <;> cases wire <;> rfl
    subst named
    rw [pushed (by decide)]
    rfl

def offerText : String := "\x7b\"id\":\"a\",\"type\":\"rtc.offer\",\"data\":\x7b\"offer\":" ++
  "\x7b\"type\":\"offer\",\"sdp\":\"v=0\"\x7d\x7d\x7d"

def offering : Libraries := Libraries.small.decoding [(offerText, offerFrame "a")]

def malformed : ErrorEvent := ⟨"response failed", some "response_failed", true, none, none⟩

/-- An offer, the same offer again, an error of the conversation, and the answer. -/
def offerRun : List Label :=
  [.frame (.text offerText) (.ok ()), .frame (.text offerText) (.ok ()),
    .info (.voxRtc 0 (.error malformed)), .info (.voxRtc 0 (.answer ⟨"answer", "v=0", none⟩))]

theorem connection_disciplined_run :
    ∃ c, (connection offering 0).run (connection offering 0).init offerRun =
      some c ∧ c.history = [.answered (some "a"), .forwarded "a"] ∧
      c.Disciplined offering :=
  ⟨_, rfl, rfl, connection_disciplined offering 0 _
    (System.reaches_of_run (M := connection offering 0) offerRun rfl)⟩

end Runs

end VoxRtc.Elixir.Gateway
