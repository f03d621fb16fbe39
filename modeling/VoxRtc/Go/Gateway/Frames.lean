import VoxRtc.Gateway.Commands
import VoxRtc.Wire.Text

/-!
# Frames of the Go gateway

The parsing half of `go/rtcserver/gateway.go`, with `encoding/json` unmarshalling a
frame into `gatewayClientMessage`: member names match in any case, a repeated member
overwrites or, for `data`, merges, and `null` leaves a string as it was.
-/
namespace VoxRtc.Go.Gateway

open Wire VoxRtc.Gateway

abbrev Value := Json Finite64
abbrev Data := Members Finite64

/-- `strings.TrimSpace`. -/
def trimSpace (s : String) : String := trimWith whiteSpace s

structure GatewayClientMessage where
  id : String
  type : String
  data : Option Data
  deriving Repr

def names (key field : String) : Bool := key.toList.map Char.toLower == field.toList

/-- One member of the frame; `none` is an `UnmarshalTypeError`. -/
def unmarshalMember (message : GatewayClientMessage) (key : String) (value : Value) :
    Option GatewayClientMessage :=
  if names key "id" then match value with
    | .str s => some { message with id := s }
    | .null => some message
    | _ => none
  else if names key "type" then match value with
    | .str s => some { message with type := s }
    | .null => some message
    | _ => none
  else if names key "data" then match value with
    | .obj members => some { message with data := some (message.data.getD [] ++ members) }
    | .null => some { message with data := none }
    | _ => none
  else some message

/-- `json.Unmarshal`; the argument is `none` where the text is not valid JSON. -/
def unmarshal (raw : Option Value) : Option GatewayClientMessage :=
  match raw with
  | some .null => some ⟨"", "", none⟩
  | some (.obj members) =>
    members.foldlM (fun message member => unmarshalMember message member.1 member.2) ⟨"", "", none⟩
  | _ => none

/-- The head of `handleMessage`. -/
def parseMessage (raw : Option Value) : Except CommandError (ClientMessage Finite64) :=
  match unmarshal raw with
  | none => .error (.plain "RTC gateway message must be valid JSON")
  | some message => clientMessage (trimSpace message.id) (trimSpace message.type) message.data

theorem parse_id {raw : Option Value} {message : ClientMessage Finite64}
    (parsed : parseMessage raw = .ok message) : message.id ≠ "" := by
  unfold parseMessage at parsed
  split at parsed
  · cases parsed
  · exact clientMessage_id parsed

def parseNegotiationGeneration (data : Data) (required : Bool) (command : String) :
    Except CommandError (Option Nat) :=
  match data.get? "generation" with
  | none =>
    if required then
      .error (.invalid s!"{command} requires generation for a generated RTC negotiation")
    else .ok none
  | some (.num numeric) =>
    if numeric.ltInt 1 || numeric.gtInt 9007199254740991 || !numeric.isIntegral then
      .error (.invalid s!"{command} generation must be a positive safe integer")
    else .ok (some numeric.trunc.toNat)
  | some _ => .error (.invalid s!"{command} generation must be a positive safe integer")

/-- An offer as `handleOffer` hands it to `SendOffer`. -/
structure Offer where
  type : String
  sdp : String
  restart : Bool
  generation : Option Nat
  deriving DecidableEq, Repr

/-- `handleOffer` up to its first lock. -/
def parseOffer (data : Data) : Except CommandError Offer := do
  let generation ← parseNegotiationGeneration data false "rtc.offer"
  match (data.get? "offer").bind Json.object? with
  | none => .error (.plain "rtc.offer requires an offer object")
  | some offerValue => return {
      type := ((offerValue.get? "type").bind Json.str?).getD ""
      sdp := ((offerValue.get? "sdp").bind Json.str?).getD ""
      restart := (data.get? "restart").any Json.isTrue
      generation }

/-- `ControlSession.SendOffer` fails on an offer it finds malformed. -/
def sendOffer (offer : Offer) : Except CommandError Unit :=
  if offer.type ≠ "offer" ∨ trimSpace offer.sdp = "" then
    .error (.plain "RTC offer requires a non-empty SDP offer")
  else .ok ()

structure RTCIceCandidate where
  candidate : String
  sdpMid : Option String
  sdpMLineIndex : Option Nat
  usernameFragment : Option String
  deriving DecidableEq, Repr

/-- What a platform makes of a float that is out of the range of `uint32`; the language leaves
it open. -/
abbrev Conversion := Finite64 → Fin (2 ^ 32)

/-- `uint32(index)` of a non-negative float. -/
def uint32 (outside : Conversion) (index : Finite64) : Nat :=
  if index.trunc < 2 ^ 32 then index.trunc.toNat else outside index

/-- `amd64` converts to 64 bits and keeps the lower half. -/
def amd64 : Conversion := fun index =>
  if index.trunc < 2 ^ 63 then Fin.ofNat (2 ^ 32) index.trunc.toNat else 0

theorem uint32_lt {outside : Conversion} {index : Finite64} : uint32 outside index < 2 ^ 32 := by
  unfold uint32
  split
  next inside => omega
  · exact (outside index).isLt

def parseCandidate (outside : Conversion) (value : Option Value) :
    Except CommandError (Option RTCIceCandidate) :=
  match value with
  | none => .ok none
  | some value =>
    if value.isNull then .ok none
    else match value.object? with
      | none => .error (.plain "rtc.ice_candidate requires a candidate object or null")
      | some candidateValue => match (candidateValue.get? "candidate").bind Json.str? with
        | none => .error (.plain "rtc.ice_candidate requires a candidate string")
        | some candidateText => .ok (some {
            candidate := candidateText
            sdpMid := (candidateValue.get? "sdpMid").bind Json.str?
            sdpMLineIndex := match candidateValue.get? "sdpMLineIndex" with
              | some (.num index) => if index.ltInt 0 then none else some (uint32 outside index)
              | _ => none
            usernameFragment := (candidateValue.get? "usernameFragment").bind Json.str? })

/-- `handleCandidate`. -/
def handleCandidate (outside : Conversion) (generatedOffer : Bool) (data : Data) :
    Except CommandError (SessionCall RTCIceCandidate) := do
  let generation ← parseNegotiationGeneration data generatedOffer "rtc.ice_candidate"
  let candidate ← parseCandidate outside (data.get? "candidate")
  return .sendIceCandidate candidate generation

end VoxRtc.Go.Gateway
