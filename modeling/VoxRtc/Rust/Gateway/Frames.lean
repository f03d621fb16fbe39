import VoxRtc.Gateway.Commands
import VoxRtc.Wire.Text

/-!
# Frames of the Rust gateway

The parsing half of `rust/rtcserver/src/gateway.rs`. A text message is the result of
`serde_json::from_str`, or `none` where it fails.
-/
namespace VoxRtc.Rust.Gateway

open Wire VoxRtc.Gateway

abbrev Value := Json SerdeNumber
abbrev Data := Members SerdeNumber

/-- What the select loop receives from the browser, short of a close. -/
inductive Message where
  | text (value : Option Value)
  | other

/-- `str::trim`. -/
def trim (s : String) : String := trimWith whiteSpace s

def trimmed (value : Option Value) : String := ((value.bind Json.str?).map trim).getD ""

def parseMessage (value : Option Value) : Except CommandError (ClientMessage SerdeNumber) :=
  match value with
  | none => .error (.plain "RTC gateway message must be valid JSON")
  | some value => match value.object? with
    | none => .error (.plain "RTC gateway message must be an object")
    | some object =>
      clientMessage (trimmed (object.get? "id")) (trimmed (object.get? "type"))
        ((object.get? "data").bind Json.object?)

/-- The message arm of the select loop: anything but text is answered by an error. -/
def readMessage : Message → Except CommandError (ClientMessage SerdeNumber)
  | .text value => parseMessage value
  | .other => .error (.plain "RTC gateway accepts text JSON only")

/-- `Value::as_u64`. -/
def asU64? : Value → Option Nat
  | .num (.posInt n _) => some n
  | _ => none

def generation (data : Data) (command : String) (required : Bool) :
    Except CommandError (Option Nat) :=
  match data.get? "generation" with
  | none =>
    if required then
      .error (.invalid s!"{command} requires generation for a generated RTC negotiation")
    else .ok none
  | some value => match (asU64? value).filter fun n => 0 < n && n ≤ maxSafeInteger with
    | none => .error (.invalid s!"{command} generation must be a positive safe integer")
    | some n => .ok (some n)

/-- The SDP text of the offer; it is forwarded as it came, untrimmed. -/
def offer (value : Option Value) : Except CommandError String :=
  match value.bind Json.object? with
  | none => .error (.plain "rtc.offer requires a non-empty SDP offer")
  | some object =>
    let sdp := ((object.get? "sdp").bind Json.str?).getD ""
    if (object.get? "type").bind Json.str? ≠ some "offer" ∨ trim sdp = "" then
      .error (.plain "rtc.offer requires a non-empty SDP offer")
    else .ok sdp

/-- A candidate object; the optional fields are forwarded whatever their type. -/
structure Candidate where
  candidate : String
  sdpMid : Value
  sdpMLineIndex : Value
  usernameFragment : Value
  deriving Repr

def candidate (value : Option Value) : Except CommandError (Option Candidate) :=
  match value with
  | none => .ok none
  | some value =>
    if value.isNull then .ok none
    else match value.object? with
      | none => .error (.plain "rtc.ice_candidate requires a candidate object or null")
      | some object => match (object.get? "candidate").bind Json.str? with
        | none => .error (.plain "rtc.ice_candidate requires a candidate object or null")
        | some text => .ok (some {
            candidate := text
            sdpMid := (object.get? "sdpMid").getD .null
            sdpMLineIndex := (object.get? "sdpMLineIndex").getD .null
            usernameFragment := (object.get? "usernameFragment").getD .null })

theorem parse_id {raw : Message} {message : ClientMessage SerdeNumber}
    (parsed : readMessage raw = .ok message) : message.id ≠ "" := by
  cases raw with
  | other => cases parsed
  | text value =>
    simp only [readMessage, parseMessage] at parsed
    split at parsed
    · cases parsed
    · split at parsed
      · cases parsed
      · exact clientMessage_id parsed

def dialect : Dialect Message SerdeNumber Candidate where
  parse := readMessage
  generation := generation
  offer := offer
  candidate := candidate
  idField := id
  loops := true
  escapes := false
  escapes_loops := nofun
  parse_id _ _ := parse_id
  idField_none := rfl
  idField_some _ _ := rfl

def handleMessage := VoxRtc.Gateway.handleMessage dialect

/-- The event arm of the select loop. -/
def forwardEvent := VoxRtc.Gateway.forwardEvent dialect

def connection := VoxRtc.Gateway.system dialect

end VoxRtc.Rust.Gateway
