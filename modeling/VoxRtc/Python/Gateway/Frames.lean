import VoxRtc.Gateway.Commands
import VoxRtc.Wire.Text

/-!
# Frames of the Python gateway

The parsing half of `python/vox-rtc-server/src/vox_rtc_server/gateway.py`. A text
message is the result of `json.loads`, or `none` where it raises.
-/
namespace VoxRtc.Python.Gateway

open Wire VoxRtc.Gateway

abbrev Value := Json PythonNumber
abbrev Data := Members PythonNumber

/-- A `websocket.receive` event, with or without text. -/
inductive Received where
  | text (value : Option Value)
  | bytes

/-- `str.strip`. -/
def strip (s : String) : String := trimWith pythonSpace s

def stripped (value : Option Value) : String := ((value.bind Json.str?).map strip).getD ""

def parseText (value : Option Value) : Except CommandError (ClientMessage PythonNumber) :=
  match value with
  | none => .error (.plain "RTC gateway message must be valid JSON")
  | some value => match value.object? with
    | none => .error (.plain "RTC gateway message must be an object")
    | some value =>
      clientMessage (stripped (value.get? "id")) (stripped (value.get? "type"))
        ((value.get? "data").bind Json.object?)

/-- `_client_message`, after the loop's own check that there is text. -/
def readMessage : Received → Except CommandError (ClientMessage PythonNumber)
  | .text value => parseText value
  | .bytes => .error (.plain "RTC gateway accepts text JSON only")

def generation (data : Data) (command : String) (required : Bool) :
    Except CommandError (Option Nat) :=
  match data.get? "generation" with
  | none =>
    if required then
      .error (.invalid s!"{command} requires generation for a generated RTC negotiation")
    else .ok none
  | some (.num (.int n)) =>
    if n < 1 ∨ n > 9007199254740991 then
      .error (.invalid s!"{command} generation must be a positive safe integer")
    else .ok (some n.toNat)
  | some _ => .error (.invalid s!"{command} generation must be a positive safe integer")

def offer (value : Option Value) : Except CommandError String :=
  let record := value.bind Json.object?
  match record.bind (·.get? "type"), record.bind (·.get? "sdp") with
  | some (.str "offer"), some (.str sdp) =>
    if strip sdp = "" then .error (.plain "rtc.offer requires a non-empty SDP offer") else .ok sdp
  | _, _ => .error (.plain "rtc.offer requires a non-empty SDP offer")

structure Candidate where
  candidate : String
  sdpMid : Option String
  sdpMLineIndex : Option Int
  usernameFragment : Option String
  deriving DecidableEq, Repr

/-- `data.get` makes no difference between an absent candidate and `null`. -/
def candidate (value : Option Value) : Except CommandError (Option Candidate) :=
  match value with
  | none => .ok none
  | some value =>
    if value.isNull then .ok none
    else match value.object?.bind (·.get? "candidate"), value.object? with
      | some (.str text), some record => .ok (some {
          candidate := text
          sdpMid := (record.get? "sdpMid").bind Json.str?
          sdpMLineIndex := match record.get? "sdpMLineIndex" with
            | some (.num (.int index)) => some index
            | _ => none
          usernameFragment := (record.get? "usernameFragment").bind Json.str? })
      | _, _ => .error (.plain "rtc.ice_candidate requires a candidate object or null")

theorem parse_id {raw : Received} {message : ClientMessage PythonNumber}
    (parsed : readMessage raw = .ok message) : message.id ≠ "" := by
  cases raw with
  | bytes => cases parsed
  | text value =>
    simp only [readMessage, parseText] at parsed
    split at parsed
    · cases parsed
    · split at parsed
      · cases parsed
      · exact clientMessage_id parsed

/-- `if request_id: payload["id"] = request_id`. -/
def idField (id : Option String) : Option String := id.filter (· ≠ "")

def dialect : Dialect Received PythonNumber Candidate where
  parse := readMessage
  generation := generation
  offer := offer
  candidate := candidate
  idField := idField
  loops := true
  escapes := true
  escapes_loops _ := rfl
  parse_id _ _ := parse_id
  idField_none := rfl
  idField_some id proper := by simp [idField, proper]

/-- `_handle_message`. It stores the pending id before it looks at the offer object. -/
def handleMessage (p : Progress) (raw : Received) (outcome : Outcome) : Handled Candidate :=
  match readMessage raw with
  | .error error => ⟨p, none, none, some error⟩
  | .ok message =>
    if message.type = "rtc.offer" then
      if p.pendingOfferId.isSome then
        ⟨p.reject message.id, message.id, none, some (.plain "An RTC offer is already pending")⟩
      else match generation message.data "rtc.offer" false with
        | .error error => ⟨p.reject message.id, message.id, none, some error⟩
        | .ok generation =>
          let pending := { p with pendingOfferId := some message.id }
          match offer (message.data.get? "offer") with
          | .error error => ⟨pending.reject message.id, message.id, none, some error⟩
          | .ok sdp =>
            let call := .sendOffer sdp ((message.data.get? "restart").any Json.isTrue) generation
            match outcome with
            | .failed text => ⟨pending.reject message.id, message.id, some call, some (.plain text)⟩
            | .fatal => ⟨pending, message.id, some call, some (.plain "")⟩
            | .done => ⟨{ pending with generatedOffer := generation.isSome }, message.id, some call,
                none⟩
    else handleCommand dialect p message outcome

/-- Since a rejected offer object clears the id just stored, the order does not show. -/
theorem handleMessage_eq (p : Progress) (raw : Received) (outcome : Outcome) :
    handleMessage p raw outcome = VoxRtc.Gateway.handleMessage dialect p raw outcome := by
  have parse : dialect.parse raw = readMessage raw := rfl
  simp only [handleMessage, VoxRtc.Gateway.handleMessage, parse]
  cases readMessage raw with
  | error error => rfl
  | ok message =>
    by_cases offered : message.type = "rtc.offer"
    · obtain ⟨pending, generated, closing⟩ := p
      cases pending with
      | some id => simp [offered, handleCommand]
      | none =>
        have asked : dialect.command generated message = do
            let generation ← generation message.data "rtc.offer" false
            let sdp ← offer (message.data.get? "offer")
            return .sendOffer sdp ((message.data.get? "restart").any Json.isTrue) generation := by
          simp only [Dialect.command, offered, if_true]
          rfl
        simp only [offered, handleCommand, asked, if_true]
        cases generation message.data "rtc.offer" false with
        | error error => simp [bind, Except.bind]
        | ok generation =>
          cases offer (message.data.get? "offer") with
          | error error => simp [bind, Except.bind, Progress.reject]
          | ok sdp => cases outcome <;> simp [bind, Except.bind, pure, Except.pure,
              Progress.calling, Progress.called]
    · simp [offered]

def forwardEvent := VoxRtc.Gateway.forwardEvent dialect

def connection : Transition.System VoxRtc.Gateway.Connection (Label Received PythonNumber) :=
  ⟨⟨.initial, [], false⟩, VoxRtc.Gateway.Connection.stepBy dialect handleMessage⟩

theorem connection_eq : connection = VoxRtc.Gateway.system dialect := by
  have same : handleMessage = VoxRtc.Gateway.handleMessage dialect := by
    funext p raw outcome
    exact handleMessage_eq p raw outcome
  rw [connection, same]
  rfl

end VoxRtc.Python.Gateway
