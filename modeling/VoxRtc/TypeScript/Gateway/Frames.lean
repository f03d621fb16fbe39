import VoxRtc.Gateway.Commands
import VoxRtc.Wire.Text
import VoxRtc.Wire.SafeInteger

/-!
# Frames of the TypeScript gateway

The parsing half of `typescript/vox-rtc-server/src/gateway.ts`. A raw message is the
result of `JSON.parse`, or `none` where it throws.
-/
namespace VoxRtc.TypeScript.Gateway

open Wire VoxRtc.Gateway

abbrev Value := Json Binary64
abbrev Data := Members Binary64

/-- `String.prototype.trim`. -/
def trim (s : String) : String := trimWith ecmaSpace s

/-- `typeof value === "string" ? value.trim() : ""`. -/
def trimmed (value : Option Value) : String := ((value.bind Json.str?).map trim).getD ""

def parseClientMessage (raw : Option Value) : Except CommandError (ClientMessage Binary64) :=
  match raw with
  | none => .error (.plain "RTC gateway message must be valid JSON")
  | some parsed => match parsed.object? with
    | none => .error (.plain "RTC gateway message must be an object")
    | some parsed =>
      clientMessage (trimmed (parsed.get? "id")) (trimmed (parsed.get? "type"))
        ((parsed.get? "data").bind Json.object?)

/-- The SDP text of an offer object. -/
def sessionDescription (value : Option Value) : Except CommandError String :=
  let record := value.bind Json.object?
  match record.bind (·.get? "type"), record.bind (·.get? "sdp") with
  | some (.str "offer"), some (.str sdp) =>
    if trim sdp = "" then .error (.plain "rtc.offer requires a non-empty SDP offer") else .ok sdp
  | _, _ => .error (.plain "rtc.offer requires a non-empty SDP offer")

structure IceCandidate where
  candidate : String
  sdpMid : Option String
  sdpMLineIndex : Option Binary64
  usernameFragment : Option String
  deriving DecidableEq, Repr

def iceCandidate (value : Option Value) : Except CommandError (Option IceCandidate) :=
  if value.any Json.isNull then .ok none
  else match value.bind Json.object? with
    | none => .error (.plain "rtc.ice_candidate requires a candidate object or null")
    | some record => match record.get? "candidate" with
      | some (.str candidate) => .ok (some {
          candidate
          sdpMid := (record.get? "sdpMid").bind Json.str?
          sdpMLineIndex := match record.get? "sdpMLineIndex" with
            | some (.num index) => some index
            | _ => none
          usernameFragment := (record.get? "usernameFragment").bind Json.str? })
      | _ => .error (.plain "rtc.ice_candidate requires a candidate object or null")

/-- The integer that `Number.isSafeInteger` recognises. -/
def safeInteger? : Value → Option Int
  | .num (.finite x) =>
    if x.isIntegral && x.trunc.natAbs ≤ maxSafeInteger then some x.trunc else none
  | _ => none

/-- `Number.isSafeInteger`, then the test against one. -/
theorem safeInteger?_double (d : Binary64) :
    ((safeInteger? (.num d)).bind fun n =>
      if n < 1 then none else some n.toNat) = d.finite?.bind Finite64.safe? := by
  cases d with
  | finite x =>
    simp only [safeInteger?, Binary64.finite?, Option.bind_some, Finite64.safe?]
    by_cases integral : x.isIntegral = true
    · obtain ⟨lower, _⟩ := Finite64.integral_cases integral 1
      obtain ⟨_, upper⟩ := Finite64.integral_cases integral maxSafeInteger
      rw [lower, upper, integral]
      by_cases low : x.trunc < 1
      · simp [low, Option.bind_eq_none_iff]
      · by_cases high : (maxSafeInteger : Int) < x.trunc
        · have wide : ¬x.trunc.natAbs ≤ maxSafeInteger := by omega
          simp [high, wide]
        · have small : x.trunc.natAbs ≤ maxSafeInteger := by omega
          simp [low, high, small]
    · simp [integral]
  | infinity negative => rfl
  | nan => rfl

def negotiationGeneration (data : Data) (command : String) (required : Bool) :
    Except CommandError (Option Nat) :=
  match data.get? "generation" with
  | none =>
    if required then
      .error (.invalid s!"{command} requires generation for a generated RTC negotiation")
    else .ok none
  | some value => match safeInteger? value with
    | none => .error (.invalid s!"{command} generation must be a positive safe integer")
    | some n =>
      if n < 1 then .error (.invalid s!"{command} generation must be a positive safe integer")
      else .ok (some n.toNat)

/-- `id ? { id } : {}`. -/
def idField (id : Option String) : Option String := id.filter (· ≠ "")

theorem parse_id {raw : Option Value} {message : ClientMessage Binary64}
    (parsed : parseClientMessage raw = .ok message) : message.id ≠ "" := by
  unfold parseClientMessage at parsed
  split at parsed
  · cases parsed
  · split at parsed
    · cases parsed
    · exact clientMessage_id parsed

def dialect : Dialect (Option Value) Binary64 IceCandidate where
  parse := parseClientMessage
  generation := negotiationGeneration
  offer := sessionDescription
  candidate := iceCandidate
  idField := idField
  loops := false
  escapes := false
  escapes_loops := nofun
  parse_id _ _ := parse_id
  idField_none := rfl
  idField_some id proper := by simp [idField, proper]

def handleMessage := VoxRtc.Gateway.handleMessage dialect

def forwardEvent := VoxRtc.Gateway.forwardEvent dialect

def connection := VoxRtc.Gateway.system dialect

end VoxRtc.TypeScript.Gateway
