import VoxRtc.Elixir.SpeechContext
import VoxRtc.Responses.Commands

/-!
# Protocol of the control stream

`VoxRtcServer.Protocol`: the events that the messages of the server are decoded to, and the
messages that response commands become.
-/
namespace VoxRtc.Elixir

open Wire Vox Google.Protobuf Responses

/-- The libraries that decoding rests on. -/
structure Libraries where
  /-- `Google.Protobuf.to_map/1`; `none` where it raises. -/
  toMap : Struct → Option (List (Key × Term))
  /-- `Jason.decode/1`, or the message of its error. -/
  decode : String → Except String (Json Number)
  /-- `Kernel.inspect/1`. -/
  inspect : Term → String
  /-- `Float.to_string/1`. -/
  floatText : Finite64 → String

/-- Libraries that know the empty struct, the empty text and atoms. -/
def Libraries.small : Libraries where
  toMap fields := if fields.isEmpty then some [] else none
  decode text := if text = "null" then .ok .null else
    .error "unexpected end of input at position 0"
  inspect term := match term with
    | .atom name => ":" ++ name
    | _ => ""
  floatText _ := "0.0"

/-- They decode some more texts. -/
def Libraries.decoding (lib : Libraries) (texts : List (String × Json Number)) : Libraries :=
  { lib with decode := fun text => match texts.find? fun known => known.1 = text with
    | some (_, value) => .ok value
    | none => lib.decode text }

structure SessionDescription where
  type : String
  sdp : String
  generation : Option Nat

structure IceCandidate where
  candidate : String
  sdpMid : Option String
  sdpMLineIndex : Option Nat
  usernameFragment : Option String
  generation : Option Nat

structure TranscriptCompleted where
  transcript : String
  language : String
  startMs : Nat
  endMs : Nat
  eouProbability : Option Binary64
  entities : List Entity
  topics : List String
  words : List WordTimestamp
  speechContext : Option SpeechContext

structure ErrorEvent where
  message : String
  code : Option String
  recoverable : Bool
  generationId : Option String
  generation : Option Nat := none

/-- A JSON payload, or the text that is none and what is wrong with it. -/
inductive Content where
  | data (value : Json Number)
  | raw (payload decodeError : String)

/-- An event, by its type; `failed` is an `error` whose payload is a reason. -/
inductive Event where
  | sessionAttached (payload : RtcSessionAttached)
  | answer (payload : SessionDescription)
  | iceCandidate (payload : IceCandidate)
  | iceCandidatesComplete (payload : RtcIceCandidatesComplete)
  | signalingError (payload : ErrorEvent)
  | conversation (payload : ConversationUpdate)
  | transcriptCompleted (payload : TranscriptCompleted)
  | responseCreated (payload : ConversationResponseCreated)
  | responseDone (payload : ConversationResponseDone)
  | responseCancelled (payload : ConversationResponseCancelled)
  | browserEvent (name : String) (content : Content)
  | wireEvent (name : String) (content : Content)
  | error (payload : ErrorEvent)
  | failed (reason : Term)
  | closed (reason : String)

def Event.isClosed : Event → Bool
  | closed _ => true
  | _ => false

namespace Protocol

def emptyToNil (s : String) : Option String := if s = "" then none else some s

def signalingError (payload : RtcSignalingError) : ErrorEvent where
  message := payload.message
  code := emptyToNil payload.code
  recoverable := payload.recoverable
  generationId := emptyToNil payload.generationId
  generation := payload.generation

/-- The message of a conversation error has no negotiation generation. -/
def conversationError (payload : ConversationError) : ErrorEvent where
  message := payload.message
  code := emptyToNil payload.code
  recoverable := payload.recoverable
  generationId := emptyToNil payload.generationId

def content (lib : Libraries) (payloadJson : String) : Content :=
  match lib.decode payloadJson with
  | .ok value => .data value
  | .error message => .raw payloadJson message

/-- `SpeechContext.decode/1`; `none` where it raises. -/
def speechContext (lib : Libraries) : Option Struct → Option (Option SpeechContext)
  | none => some none
  | some fields => (lib.toMap fields).map SpeechContext.decodeMap

/-- `decode_conversation_event/2`; `none` where it raises. -/
def decodeConversationEvent (lib : Libraries) : Option Conversation → Option (Except Term Event)
  | some (.transcriptDone payload) => (speechContext lib payload.speechContext).map fun context =>
    .ok (.transcriptCompleted {
      transcript := payload.transcript
      language := payload.language
      startMs := payload.startMs
      endMs := payload.endMs
      eouProbability := payload.eouProbability
      entities := payload.entities
      topics := payload.topics
      words := payload.words
      speechContext := context })
  | some (.error payload) => some (.ok (.error (conversationError payload)))
  | some (.update payload) => some (.ok (.conversation payload))
  | some (.responseCreated payload) => some (.ok (.responseCreated payload))
  | some (.responseDone payload) => some (.ok (.responseDone payload))
  | some (.responseCancelled payload) => some (.ok (.responseCancelled payload))
  | some (.audioSuspend ..) =>
    some (.error (.tuple [.atom "unknown_conversation_event", .atom "audio_suspend"]))
  | some (.audioResume ..) =>
    some (.error (.tuple [.atom "unknown_conversation_event", .atom "audio_resume"]))
  | none => some (.error (.atom "missing_conversation_event"))

/-- `decode_event/2`; `none` where it raises. -/
def decodeEvent (lib : Libraries) : RtcControlServerMessage → Option (Except Term Event)
  | none => some (.error (.atom "missing_event"))
  | some (.attached payload) => some (.ok (.sessionAttached payload))
  | some (.answer payload) =>
    let description := payload.answer.getD ⟨"", ""⟩
    some (.ok (.answer ⟨description.type, description.sdp, payload.generation⟩))
  | some (.candidate payload) => some (.ok (.iceCandidate ⟨payload.candidate, payload.sdpMid,
    payload.sdpMLineIndex, payload.usernameFragment, payload.generation⟩))
  | some (.candidatesComplete payload) => some (.ok (.iceCandidatesComplete payload))
  | some (.conversation msg) => decodeConversationEvent lib msg
  | some (.error payload) => some (.ok (.signalingError (signalingError payload)))
  | some (.closed payload) => some (.ok (.closed payload.reason))
  | some (.browserEvent payload) =>
    some (.ok (.browserEvent payload.event (content lib payload.payloadJson)))
  | some (.event payload) =>
    some (.ok (.wireEvent payload.type (content lib payload.payloadJson)))

end Protocol

/-- The messages of response commands. -/
inductive ClientMessage where
  | responseStart (allowInterruptions : Option Bool) (generationId supersedesGenerationId : String)
      (output : Option OutputOptions)
  | responseDelta (delta : String) (allowInterruptions : Option Bool) (generationId : String)
  | responseCommit (generationId : String)
  | responseCancel (generationId : String)
  | responseReplaceText (text : String) (allowInterruptions : Option Bool)

namespace Protocol

def responseStart (options : Options) : ClientMessage :=
  .responseStart options.allowInterruptions (options.generationId.getD "")
    (options.supersedesGenerationId.getD "") options.output

def responseDelta (delta : String) (options : Options) : ClientMessage :=
  .responseDelta delta options.allowInterruptions (options.generationId.getD "")

def responseCommit (options : Options) : ClientMessage :=
  .responseCommit (options.generationId.getD "")

def responseCancel (options : Options) : ClientMessage :=
  .responseCancel (options.generationId.getD "")

def responseReplaceText (text : String) (options : Options) : ClientMessage :=
  .responseReplaceText text options.allowInterruptions

end Protocol

end VoxRtc.Elixir
