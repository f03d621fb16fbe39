import VoxRtc.Responses.Commands

/-!
# Responses of the Python session

The response commands of `python/vox-rtc-server/src/vox_rtc_server/session.py`.
-/
namespace VoxRtc.Python.Session

open Wire Responses

/-- `_response_generation_id`. -/
structure VoxRtcSession where
  responseGenerationId : Option String := none
  deriving Repr

def responseOutputOptionsPayload (output : OutputOptions) : Payload :=
  (((((Members.insertOpt [] "model" (output.model.map .str)).insertOpt
    "voice" (output.voice.map .str)).insertOpt
    "language" (output.language.map .str)).insertOpt
    "speed" (output.speed.map .num)).insertOpt
    "params" (output.params.map .obj))

/-- Every option that is given, an empty id included. -/
def responseOptionsPayload (options : Option Options) : Payload :=
  match options with
  | none => []
  | some options =>
    (((Members.insertOpt [] "allow_interruptions" (options.allowInterruptions.map .bool)).insertOpt
      "generation_id" (options.generationId.map .str)).insertOpt
      "supersedes_generation_id" (options.supersedesGenerationId.map .str)).insertOpt
      "output" (options.output.map fun output => .obj (responseOutputOptionsPayload output))

namespace VoxRtcSession

def addResponseGeneration (s : VoxRtcSession) (payload : Payload) : Payload :=
  if (payload.get? "generation_id").isSome then payload
  else payload.insertOpt "generation_id" (s.responseGenerationId.map .str)

def startResponse (s : VoxRtcSession) (options : Option Options) (generated : GeneratedId) :
    VoxRtcSession × Frame :=
  let id := (options.bind (·.generationId)).getD generated.text
  ({ s with responseGenerationId := some id },
    ⟨"response.start", (responseOptionsPayload options).insert "generation_id" (.str id)⟩)

def appendResponseText (s : VoxRtcSession) (delta : String) (options : Option Options) :
    VoxRtcSession × Frame :=
  (s, ⟨"response.delta",
    s.addResponseGeneration ((responseOptionsPayload options).insert "delta" (.str delta))⟩)

def commitResponse (s : VoxRtcSession) (options : Option Options) : VoxRtcSession × Frame :=
  (s, ⟨"response.commit", s.addResponseGeneration (responseOptionsPayload options)⟩)

def cancelResponse (s : VoxRtcSession) (options : Option Options) : VoxRtcSession × Frame :=
  ({ s with responseGenerationId := none },
    ⟨"response.cancel", s.addResponseGeneration (responseOptionsPayload options)⟩)

def replaceResponseText (s : VoxRtcSession) (text : String) (options : Option Options) :
    VoxRtcSession × Frame :=
  ({ s with responseGenerationId := none },
    ⟨"response.replace_text", (responseOptionsPayload options).insert "text" (.str text)⟩)

def call (s : VoxRtcSession) (c : Call) : VoxRtcSession × Frame :=
  match c.command with
  | .start => s.startResponse c.options c.generated
  | .delta text => s.appendResponseText text c.options
  | .commit => s.commitResponse c.options
  | .cancel => s.cancelResponse c.options
  | .replaceText text => s.replaceResponseText text c.options

variable (s : VoxRtcSession) (c : Call)

@[simp] theorem responseOptionsPayload_generationId (options : Option Options) :
    (responseOptionsPayload options).get? "generation_id" =
      (options.bind (·.generationId)).map .str := by
  cases options with
  | none => rfl
  | some options => simp [responseOptionsPayload]

theorem addResponseGeneration_stamp {payload : Payload} {explicit : Option String}
    (given : payload.get? "generation_id" = explicit.map .str) :
    ((s.addResponseGeneration payload).get? "generation_id").bind Json.str? =
      explicit.or s.responseGenerationId := by
  unfold addResponseGeneration
  cases explicit with
  | none => simp [given]
  | some id => simp [given, Json.str?]

theorem call_stamp :
    (s.call c).2.generationId = c.stamp c.explicit s.responseGenerationId := by
  unfold call Call.stamp Call.explicit Frame.generationId
  cases c.command with
  | start => simp [startResponse, Json.str?]
  | delta text => exact s.addResponseGeneration_stamp (by simp)
  | commit | cancel => exact s.addResponseGeneration_stamp (by simp)
  | replaceText text =>
    simp only [replaceResponseText]
    rw [Members.get?_insert_other (by decide), responseOptionsPayload_generationId]
    exact str?_map _

/-- The ambient id after a call: every `cancel` clears it. -/
theorem call_ambient : (s.call c).1.responseGenerationId = match c.command with
    | .start => some (c.explicit.getD c.generated.text)
    | .replaceText _ | .cancel => none
    | .delta _ | .commit => s.responseGenerationId := by
  unfold call
  cases c.command <;> rfl

end VoxRtcSession

end VoxRtc.Python.Session
