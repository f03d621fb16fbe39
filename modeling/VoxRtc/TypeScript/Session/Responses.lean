import VoxRtc.Responses.Commands

/-!
# Responses of the TypeScript session

The response commands of `typescript/vox-rtc-server/src/session.ts`. A member that is
`undefined` and one that is missing are the same.
-/
namespace VoxRtc.TypeScript.Session

open Wire Responses

/-- `#responseGenerationId`. -/
structure VoxRtcSession where
  responseGenerationId : Option String := none
  deriving Repr

def responseOutputPayload (output : OutputOptions) : Payload :=
  (((((Members.insertOpt [] "model" (output.model.map .str)).insertOpt
    "voice" (output.voice.map .str)).insertOpt
    "language" (output.language.map .str)).insertOpt
    "speed" (output.speed.map .num)).insertOpt
    "params" (output.params.map .obj))

def withAllowInterruptions (payload : Payload) (options : Option Options) : Payload :=
  payload.insertOpt "allow_interruptions" ((options.bind (·.allowInterruptions)).map .bool)

namespace VoxRtcSession

/-- The id that was given, even an empty one, or the ambient one. -/
def withResponseGeneration (s : VoxRtcSession) (payload : Payload) (generationId : Option String) :
    Payload :=
  payload.insertOpt "generation_id" ((generationId.or s.responseGenerationId).map .str)

def startResponse (s : VoxRtcSession) (options : Option Options) (generated : GeneratedId) :
    VoxRtcSession × Frame :=
  let id := (options.bind (·.generationId)).getD generated.text
  let payload := (Members.insertOpt [("generation_id", .str id)] "supersedes_generation_id"
    ((options.bind (·.supersedesGenerationId)).map .str)).insertOpt "output"
      ((options.bind (·.output)).map fun output => .obj (responseOutputPayload output))
  ({ s with responseGenerationId := some id },
    ⟨"response.start", withAllowInterruptions payload options⟩)

def appendResponseText (s : VoxRtcSession) (delta : String) (options : Option Options) :
    VoxRtcSession × Frame :=
  (s, ⟨"response.delta", withAllowInterruptions
    (s.withResponseGeneration [("delta", .str delta)] (options.bind (·.generationId))) options⟩)

def commitResponse (s : VoxRtcSession) (options : Option Options) : VoxRtcSession × Frame :=
  (s, ⟨"response.commit", s.withResponseGeneration [] (options.bind (·.generationId))⟩)

def cancelResponse (s : VoxRtcSession) (options : Option Options) : VoxRtcSession × Frame :=
  let explicit := options.bind (·.generationId)
  let frame : Frame := ⟨"response.cancel", s.withResponseGeneration [] explicit⟩
  if explicit = none ∨ explicit = s.responseGenerationId then
    ({ s with responseGenerationId := none }, frame)
  else (s, frame)

def replaceResponseText (s : VoxRtcSession) (text : String) (options : Option Options) :
    VoxRtcSession × Frame :=
  let s := { s with responseGenerationId := options.bind (·.generationId) }
  (s, ⟨"response.replace_text", withAllowInterruptions
    (s.withResponseGeneration [("text", .str text)] (options.bind (·.generationId))) options⟩)

def call (s : VoxRtcSession) (c : Call) : VoxRtcSession × Frame :=
  match c.command with
  | .start => s.startResponse c.options c.generated
  | .delta text => s.appendResponseText text c.options
  | .commit => s.commitResponse c.options
  | .cancel => s.cancelResponse c.options
  | .replaceText text => s.replaceResponseText text c.options

variable (s : VoxRtcSession) (c : Call)

theorem withResponseGeneration_stamp {payload : Payload} {explicit : Option String}
    (missing : payload.get? "generation_id" = none) :
    ((s.withResponseGeneration payload explicit).get? "generation_id").bind Json.str? =
      explicit.or s.responseGenerationId := by
  rw [withResponseGeneration, Members.get?_insertOpt_self missing]
  exact str?_map _

private theorem withAllowInterruptions_stamp {payload : Payload} {options : Option Options} :
    (withAllowInterruptions payload options).get? "generation_id" = payload.get? "generation_id" :=
  Members.get?_insertOpt_other (by decide)

/-- A frame carries the id that was given, or the ambient one. -/
theorem call_stamp :
    (s.call c).2.generationId = c.stamp c.explicit s.responseGenerationId := by
  unfold call Call.stamp Call.explicit Frame.generationId
  cases c.command with
  | start => simp [startResponse, withAllowInterruptions, Json.str?]
  | delta text =>
    simp only [appendResponseText, withAllowInterruptions_stamp]
    exact s.withResponseGeneration_stamp (by simp)
  | commit => exact s.withResponseGeneration_stamp rfl
  | cancel =>
    simp only [cancelResponse]
    split <;> exact s.withResponseGeneration_stamp rfl
  | replaceText text =>
    simp only [replaceResponseText, withAllowInterruptions_stamp]
    rw [withResponseGeneration_stamp _ (by simp), Option.or_self]

/-- The ambient id after a call: `cancel` keeps an id that it does not name. -/
theorem call_ambient : (s.call c).1.responseGenerationId = match c.command with
    | .start => some (c.explicit.getD c.generated.text)
    | .replaceText _ => c.explicit
    | .cancel => if c.explicit = none ∨ c.explicit = s.responseGenerationId then none
      else s.responseGenerationId
    | .delta _ | .commit => s.responseGenerationId := by
  unfold call Call.explicit
  cases c.command with
  | cancel =>
    simp only [cancelResponse]
    split <;> rfl
  | _ => rfl

end VoxRtcSession

end VoxRtc.TypeScript.Session
