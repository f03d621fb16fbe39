import VoxRtc.Responses.Commands

/-!
# Responses of the Rust session

The response commands of `rust/rtcserver/src/session.rs`: for each the payload it builds,
and what becomes of `response_generation`, which the clones of a session share.
-/
namespace VoxRtc.Rust.Session

open Wire Responses

/-- `ResponseGeneration.id`. -/
structure ResponseGeneration where
  id : Option String := none
  deriving DecidableEq, Repr

/-- `serde_json::Number::from_f64`. -/
def fromF64 : Binary64 → Option Value
  | .finite x => some (.num (.finite x))
  | _ => none

def responseOutputOptionsPayload (output : OutputOptions) : Payload :=
  (((((Members.insertOpt [] "model" (output.model.map .str)).insertOpt
    "voice" (output.voice.map .str)).insertOpt
    "language" (output.language.map .str)).insertOpt
    "speed" (output.speed.bind fromF64)).insertOpt
    "params" (output.params.map .obj))

def responseOptionsPayload (options : Option Options) : Payload :=
  match options with
  | none => []
  | some options =>
    ((Members.insertOpt [] "allow_interruptions" (options.allowInterruptions.map .bool)).insertOpt
      "supersedes_generation_id" (options.supersedesGenerationId.map .str)).insertOpt
      "output" (options.output.map fun output => .obj (responseOutputOptionsPayload output))

def explicitGeneration (options : Option Options) : Option String :=
  (options.bind (·.generationId)).filter (· ≠ "")

namespace ResponseGeneration

def addResponseGeneration (s : ResponseGeneration) (payload : Payload) : Payload :=
  payload.insertOpt "generation_id" (s.id.map .str)

def threadGeneration (s : ResponseGeneration) (payload : Payload) (explicit : Option String) :
    Payload :=
  match explicit with
  | some id => payload.insert "generation_id" (.str id)
  | none => s.addResponseGeneration payload

/-- `set_response_generation` or `next_response_generation`, and the payload. -/
def startPayload (s : ResponseGeneration) (options : Option Options) (generated : GeneratedId) :
    ResponseGeneration × Payload :=
  let id := (explicitGeneration options).getD generated.text
  ({ s with id := some id }, (responseOptionsPayload options).insert "generation_id" (.str id))

def deltaPayload (s : ResponseGeneration) (delta : String) (options : Option Options) : Payload :=
  s.threadGeneration ((responseOptionsPayload options).insert "delta" (.str delta))
    (explicitGeneration options)

def commitPayload (s : ResponseGeneration) (options : Option Options) : Payload :=
  s.threadGeneration [] (explicitGeneration options)

def startResponse (s : ResponseGeneration) (options : Option Options) (generated : GeneratedId) :
    ResponseGeneration × Frame :=
  let (s, payload) := s.startPayload options generated
  (s, ⟨"response.start", payload⟩)

def appendResponseText (s : ResponseGeneration) (delta : String) (options : Option Options) :
    ResponseGeneration × Frame :=
  (s, ⟨"response.delta", s.deltaPayload delta options⟩)

def commitResponse (s : ResponseGeneration) (options : Option Options) :
    ResponseGeneration × Frame :=
  (s, ⟨"response.commit", s.commitPayload options⟩)

def cancelResponse (s : ResponseGeneration) (options : Option Options) :
    ResponseGeneration × Frame :=
  ({ s with id := none },
    ⟨"response.cancel", s.threadGeneration [] (explicitGeneration options)⟩)

def replaceResponseText (s : ResponseGeneration) (text : String) (options : Option Options) :
    ResponseGeneration × Frame :=
  ({ s with id := none }, ⟨"response.replace_text",
    ((responseOptionsPayload options).insert "text" (.str text)).insertOpt "generation_id"
      ((explicitGeneration options).map .str)⟩)

def call (s : ResponseGeneration) (c : Call) : ResponseGeneration × Frame :=
  match c.command with
  | .start => s.startResponse c.options c.generated
  | .delta text => s.appendResponseText text c.options
  | .commit => s.commitResponse c.options
  | .cancel => s.cancelResponse c.options
  | .replaceText text => s.replaceResponseText text c.options

variable (s : ResponseGeneration) (c : Call)

@[simp] theorem responseOptionsPayload_generationId (options : Option Options) :
    (responseOptionsPayload options).get? "generation_id" = none := by
  cases options with
  | none => rfl
  | some options => simp [responseOptionsPayload]

theorem threadGeneration_stamp {payload : Payload} {explicit : Option String}
    (missing : payload.get? "generation_id" = none) :
    ((s.threadGeneration payload explicit).get? "generation_id").bind Json.str? =
      explicit.or s.id := by
  unfold threadGeneration
  cases explicit with
  | none => simp [addResponseGeneration, missing]
  | some id => simp [Json.str?]

theorem call_stamp : (s.call c).2.generationId = c.stamp (explicitGeneration c.options) s.id := by
  unfold call Call.stamp Frame.generationId
  cases c.command with
  | start => simp [startResponse, startPayload, Json.str?]
  | delta text => exact s.threadGeneration_stamp (by simp)
  | commit | cancel => exact s.threadGeneration_stamp rfl
  | replaceText text => simp [replaceResponseText]

/-- The ambient id after a call: every `cancel` clears it. -/
theorem call_ambient : (s.call c).1.id = match c.command with
    | .start => some ((explicitGeneration c.options).getD c.generated.text)
    | .replaceText _ | .cancel => none
    | .delta _ | .commit => s.id := by
  unfold call
  cases c.command <;> rfl

end ResponseGeneration

end VoxRtc.Rust.Session
