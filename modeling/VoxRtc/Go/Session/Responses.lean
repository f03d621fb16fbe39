import VoxRtc.Responses.Commands

/-!
# Responses of the Go session

The response commands of `go/rtcserver/session.go`. The empty string stands for an option
that is not set, and for no ambient generation.
-/
namespace VoxRtc.Go.Session

open Wire Responses

structure ResponseOutputOptions where
  model : String
  voice : String
  language : String
  speed : Option Binary64
  params : Option Payload
  deriving Repr

structure ResponseOptions where
  allowInterruptions : Option Bool
  generationID : String
  supersedesGenerationID : String
  output : Option ResponseOutputOptions
  deriving Repr

/-- Options as a Go program gives them: one that is not set is the zero value. -/
def ResponseOptions.of (options : Options) : ResponseOptions where
  allowInterruptions := options.allowInterruptions
  generationID := options.generationId.getD ""
  supersedesGenerationID := options.supersedesGenerationId.getD ""
  output := options.output.map fun output =>
    ⟨output.model.getD "", output.voice.getD "", output.language.getD "", output.speed,
      output.params⟩

/-- `responseGenerationID`. -/
structure ControlSession where
  responseGenerationID : String := ""
  deriving Repr

/-- A text that is not empty. -/
def nonempty (s : String) : Option String := if s = "" then none else some s

def text? (s : String) : Option Value := (nonempty s).map .str

@[simp] theorem nonempty_eq_none {s : String} : nonempty s = none ↔ s = "" := by
  simp [nonempty]

theorem nonempty_inj {s t : String} (given : s ≠ "") : nonempty s = nonempty t ↔ s = t := by
  unfold nonempty
  rw [if_neg given]
  by_cases empty : t = ""
  · simp [empty, given]
  · simp [empty]

theorem nonempty_or (s t : String) :
    nonempty (if s = "" then t else s) = (nonempty s).or (nonempty t) := by
  by_cases empty : s = "" <;> simp [nonempty, empty]

def responseOutputOptionsPayload (output : ResponseOutputOptions) : Payload :=
  (((((Members.insertOpt [] "model" (text? output.model)).insertOpt
    "voice" (text? output.voice)).insertOpt
    "language" (text? output.language)).insertOpt
    "speed" (output.speed.map .num)).insertOpt
    "params" (output.params.map .obj))

def responseOptionsPayload (options : Option ResponseOptions) : Payload :=
  match options with
  | none => []
  | some options =>
    (((Members.insertOpt [] "allow_interruptions" (options.allowInterruptions.map .bool)).insertOpt
      "generation_id" (text? options.generationID)).insertOpt
      "supersedes_generation_id" (text? options.supersedesGenerationID)).insertOpt
      "output" (options.output.map fun output => .obj (responseOutputOptionsPayload output))

/-- The id of variadic options. -/
def explicitGenerationID : List (Option ResponseOptions) → String
  | some options :: _ => options.generationID
  | _ => ""

namespace ControlSession

def addResponseGeneration (s : ControlSession) (payload : Payload) : Payload :=
  if (payload.get? "generation_id").isSome then payload
  else payload.insertOpt "generation_id" (text? s.responseGenerationID)

def startResponse (s : ControlSession) (options : Option ResponseOptions) (generated : GeneratedId) :
    ControlSession × Frame :=
  let payload := responseOptionsPayload options
  let id := match options with
    | some options => if options.generationID ≠ "" then options.generationID else generated.text
    | none => generated.text
  ({ s with responseGenerationID := id },
    ⟨"response.start", payload.insert "generation_id" (.str id)⟩)

def appendResponseText (s : ControlSession) (delta : String) (options : Option ResponseOptions) :
    ControlSession × Frame :=
  (s, ⟨"response.delta",
    s.addResponseGeneration ((responseOptionsPayload options).insert "delta" (.str delta))⟩)

def commitResponse (s : ControlSession) (options : List (Option ResponseOptions)) :
    ControlSession × Frame :=
  (s, ⟨"response.commit",
    s.addResponseGeneration (Members.insertOpt [] "generation_id" (text? (explicitGenerationID options)))⟩)

def cancelResponse (s : ControlSession) (options : List (Option ResponseOptions)) :
    ControlSession × Frame :=
  let explicit := explicitGenerationID options
  let id := if explicit = "" then s.responseGenerationID else explicit
  let frame : Frame := ⟨"response.cancel", Members.insertOpt [] "generation_id" (text? id)⟩
  if explicit = "" ∨ explicit = s.responseGenerationID then
    ({ s with responseGenerationID := "" }, frame)
  else (s, frame)

def replaceResponseText (s : ControlSession) (text : String) (options : Option ResponseOptions) :
    ControlSession × Frame :=
  ({ s with responseGenerationID := "" },
    ⟨"response.replace_text", (responseOptionsPayload options).insert "text" (.str text)⟩)

def call (s : ControlSession) (c : Call) : ControlSession × Frame :=
  let options := c.options.map ResponseOptions.of
  match c.command with
  | .start => s.startResponse options c.generated
  | .delta text => s.appendResponseText text options
  | .commit => s.commitResponse [options]
  | .cancel => s.cancelResponse [options]
  | .replaceText text => s.replaceResponseText text options

variable (s : ControlSession) (c : Call)

/-- The ambient id, if there is one. -/
def ambient : Option String := nonempty s.responseGenerationID

/-- The id of the options, if it is not empty. -/
def explicit (options : Option Options) : Option String :=
  nonempty (explicitGenerationID [options.map ResponseOptions.of])

@[simp] theorem responseOptionsPayload_generationId (options : Option ResponseOptions) :
    (responseOptionsPayload options).get? "generation_id" =
      text? (explicitGenerationID [options]) := by
  cases options with
  | none => rfl
  | some options => simp [responseOptionsPayload, explicitGenerationID]

theorem addResponseGeneration_stamp {payload : Payload} {explicit : Option String}
    (given : payload.get? "generation_id" = explicit.map .str) :
    ((s.addResponseGeneration payload).get? "generation_id").bind Json.str? =
      explicit.or s.ambient := by
  unfold addResponseGeneration
  cases explicit with
  | none => simp [given, ambient, text?]
  | some id => simp [given, Json.str?]

theorem call_stamp : (s.call c).2.generationId = c.stamp (explicit c.options) s.ambient := by
  unfold call Call.stamp Frame.generationId
  cases c.command with
  | start =>
    cases c.options with
    | none => simp [startResponse, Json.str?, explicit, explicitGenerationID, nonempty]
    | some options =>
      by_cases given : (ResponseOptions.of options).generationID = "" <;>
        simp [startResponse, Json.str?, explicit, explicitGenerationID, nonempty, given]
  | delta text => exact s.addResponseGeneration_stamp (by simp [explicit, text?])
  | commit => exact s.addResponseGeneration_stamp (Members.get?_insertOpt_self rfl)
  | cancel =>
    have frame : (s.cancelResponse [c.options.map ResponseOptions.of]).2.payload.get?
        "generation_id" = ((explicit c.options).or s.ambient).map .str := by
      simp only [cancelResponse]
      split <;>
        exact (Members.get?_insertOpt_self rfl).trans (congrArg (Option.map _) (nonempty_or _ _))
    rw [frame]
    exact str?_map _
  | replaceText text => simp [replaceResponseText, explicit, text?]

/-- The ambient id after a call: `cancel` keeps an id that it does not name. -/
theorem call_ambient : (s.call c).1.ambient = match c.command with
    | .start => some ((explicit c.options).getD c.generated.text)
    | .replaceText _ => none
    | .cancel => if explicit c.options = none ∨ explicit c.options = s.ambient then none
      else s.ambient
    | .delta _ | .commit => s.ambient := by
  unfold call
  cases c.command with
  | start =>
    cases c.options with
    | none => simp [startResponse, ambient, explicit, explicitGenerationID, nonempty, c.generated.proper]
    | some options =>
      by_cases given : (ResponseOptions.of options).generationID = "" <;>
        simp [startResponse, ambient, explicit, explicitGenerationID, nonempty, given,
          c.generated.proper]
  | cancel =>
    have named : explicit c.options = none ∨ explicit c.options = s.ambient ↔
        explicitGenerationID [c.options.map ResponseOptions.of] = "" ∨
          explicitGenerationID [c.options.map ResponseOptions.of] = s.responseGenerationID := by
      unfold explicit ambient
      rw [nonempty_eq_none]
      by_cases given : explicitGenerationID [c.options.map ResponseOptions.of] = ""
      · simp [given]
      · rw [nonempty_inj given]
    simp only [cancelResponse, named]
    split <;> rfl
  | _ => rfl

end ControlSession

end VoxRtc.Go.Session
