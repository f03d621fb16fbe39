import VoxRtc.Go.Session.Responses
import VoxRtc.Responses.Waits

/-!
# Events of the Go session

How the handlers of `go/rtcserver/session.go` read the payload of a message, which
`encoding/json` has decoded into interfaces.
-/
namespace VoxRtc.Go.Session

open Wire Responses

/-- The empty string stands for one that is missing, and is read as the fallback. -/
def stringValue (payload : Payload) (key fallback : String) : String :=
  match payload.get? key with
  | some (.str text) => if text = "" then fallback else text
  | _ => fallback

def boolValue (payload : Payload) (key : String) (fallback : Bool) : Bool :=
  match payload.get? key with
  | some (.bool typed) => typed
  | _ => fallback

/-- A decoded number is a `float64`. -/
def optionalNumber (payload : Payload) (key : String) : Option Binary64 :=
  match payload.get? key with
  | some (.num value) => some value
  | _ => none

def eventSessionID (payload : Payload) (fallback : String) : String :=
  stringValue payload "session_id" fallback

structure ResponseOutput where
  model : String
  voice : String
  language : String
  speed : Binary64
  params : Payload

def responseOutput (payload : Payload) : Option ResponseOutput :=
  match payload.get? "output" with
  | some (.obj raw) =>
    let model := stringValue raw "model" ""
    let language := stringValue raw "language" ""
    match Members.get? raw "speed", Members.get? raw "params" with
    | some (.num speed), some (.obj params) =>
      if model = "" ∨ language = "" then none
      else some ⟨model, stringValue raw "voice" "", language, speed, params⟩
    | _, _ => none
  | _ => none

structure ResponseEvent where
  sessionID : String
  channelName : String
  data : Payload
  responseID : String
  generationID : String
  supersedesGenerationID : String
  supersededByGenerationID : String
  reason : String
  output : Option ResponseOutput

structure ErrorEvent where
  sessionID : String
  channelName : String
  data : Payload
  message : String
  code : String
  recoverable : Bool
  generationID : String

/-- The event that `onResponseEvent` makes of a payload. -/
def responseEvent (sessionID : String) (payload : Payload) : ResponseEvent where
  sessionID := eventSessionID payload sessionID
  channelName := "/rtc/" ++ sessionID
  data := payload
  responseID := stringValue payload "response_id" ""
  generationID := stringValue payload "generation_id" ""
  supersedesGenerationID := stringValue payload "supersedes_generation_id" ""
  supersededByGenerationID := stringValue payload "superseded_by_generation_id" ""
  reason := stringValue payload "reason" ""
  output := responseOutput payload

/-- The event that `OnError` makes of a payload. -/
def errorEvent (sessionID : String) (payload : Payload) : ErrorEvent where
  sessionID := eventSessionID payload sessionID
  channelName := "/rtc/" ++ sessionID
  data := payload
  message := stringValue payload "message" ""
  code := stringValue payload "code" ""
  recoverable := boolValue payload "recoverable" true
  generationID := stringValue payload "generation_id" ""

end VoxRtc.Go.Session
