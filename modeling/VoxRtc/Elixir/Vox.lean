import VoxRtc.Elixir.Term

/-!
# Messages of the control stream

What `vox.proto` lets the server send, and the structs that the generated code makes of
it. A generated struct also carries the fields it does not know.
-/
namespace VoxRtc.Elixir.Google.Protobuf

open Wire

/-- `google.protobuf.Value`; `unset` is a value of no kind. -/
inductive Value where
  | unset
  | null
  | number (x : Binary64)
  | string (s : String)
  | bool (b : Bool)
  | struct (fields : List (String × Value))
  | list (values : List Value)

abbrev Struct := List (String × Value)

/-- A generated struct. -/
def message (fields : List (String × Term)) : Term :=
  .struct (fields ++ [("__unknown_fields__", .list [])])

namespace Value

/-- The struct of a value, whose kind is a tuple. -/
def term : Value → Term
  | unset => message [("kind", .nil)]
  | null => message [("kind", .tuple [.atom "null_value", .atom "NULL_VALUE"])]
  | number x => message [("kind", .tuple [.atom "number_value", .ofFloat x])]
  | string s => message [("kind", .tuple [.atom "string_value", .text s])]
  | bool b => message [("kind", .tuple [.atom "bool_value", .bool b])]
  | struct fields => message [("kind",
      .tuple [.atom "struct_value", message [("fields", .map (members fields))]])]
  | list values => message [("kind",
      .tuple [.atom "list_value", message [("values", .list (items values))]])]
where
  members : List (String × Value) → List (Key × Term)
    | [] => []
    | (key, value) :: fields => (.text key, term value) :: members fields
  items : List Value → List Term
    | [] => []
    | value :: values => term value :: items values

/-- Induction over a value, through the values inside it. -/
theorem inside {P : Value → Prop} (unset : P unset) (null : P null) (number : ∀ x, P (number x))
    (string : ∀ s, P (string s)) (bool : ∀ b, P (bool b))
    (struct : ∀ fields, (∀ field ∈ fields, P field.2) → P (struct fields))
    (list : ∀ values, (∀ value ∈ values, P value) → P (list values)) (value : Value) : P value := by
  refine @Value.rec P (fun fields => ∀ field ∈ fields, P field.2) (fun values => ∀ v ∈ values, P v)
    (fun field => P field.2) unset null number string bool struct list ?_ ?_ ?_ ?_ ?_ value
  · simp
  · exact fun field fields first rest => List.forall_mem_cons.mpr ⟨first, rest⟩
  · simp
  · exact fun value values first rest => List.forall_mem_cons.mpr ⟨first, rest⟩
  · exact fun _ _ holds => holds

theorem members_eq (fields : List (String × Value)) :
    term.members fields = fields.map fun field => (.text field.1, field.2.term) := by
  induction fields with
  | nil => rw [term.members, List.map_nil]
  | cons field fields ih => rw [term.members, ih, List.map_cons]

theorem items_eq (values : List Value) : term.items values = values.map term := by
  induction values with
  | nil => rw [term.items, List.map_nil]
  | cons value values ih => rw [term.items, ih, List.map_cons]

end Value

def Struct.term (fields : Struct) : Term :=
  message [("fields", .map (Value.term.members fields))]

end VoxRtc.Elixir.Google.Protobuf

namespace VoxRtc.Elixir.Vox

open Wire Google.Protobuf

structure RtcSessionAttached where
  sessionId : String
  provider : String

structure RtcSessionDescription where
  type : String
  sdp : String

structure RtcControlAnswer where
  sessionId : String
  answer : Option RtcSessionDescription
  generation : Option Nat

structure RtcIceCandidate where
  candidate : String
  sdpMid : Option String
  sdpMLineIndex : Option Nat
  usernameFragment : Option String
  generation : Option Nat

structure RtcIceCandidatesComplete where
  generation : Option Nat

structure RtcSignalingError where
  message : String
  code : String
  recoverable : Bool
  generationId : String
  generation : Option Nat

structure RtcControlClosed where
  sessionId : String
  reason : String

structure RtcClientEvent where
  event : String
  payloadJson : String

structure RtcWireEvent where
  type : String
  payloadJson : String

structure Entity where
  type : String
  text : String
  startChar : Nat
  endChar : Nat

structure WordTimestamp where
  word : String
  startMs : Int
  endMs : Int
  confidence : Option Binary64

structure ConversationTurnPolicy where
  allowInterruptWhileSpeaking : Option Bool
  minInterruptDurationMs : Option Nat
  maxEndpointingDelayMs : Option Nat
  falseInterruptionTimeoutMs : Option Nat
  minInterruptWords : Option Nat
  partialInterrupts : Option Bool
  dynamicEndpointing : Option Bool
  minEndpointingDelayMs : Option Nat
  speakingInterruptMinDurationMs : Option Nat
  speakingInterruptMinWords : Option Nat
  selfEchoMinWords : Option Nat
  selfEchoMinOverlap : Option Binary64
  aecWarmupMs : Option Nat
  backchannelEndCooldownMs : Option Nat
  vadMinSilenceMs : Option Nat

structure ConversationResponseOutput where
  model : Option String
  voice : Option String
  language : Option String
  speed : Option Binary64
  params : Option Struct

structure ConversationTranscriptDone where
  transcript : String
  language : String
  startMs : Nat
  endMs : Nat
  eouProbability : Option Binary64
  entities : List Entity
  topics : List String
  words : List WordTimestamp
  speechContext : Option Struct

structure ConversationResponseCreated where
  responseId : String
  generationId : String
  output : Option ConversationResponseOutput
  supersedesGenerationId : String

structure ConversationResponseDone where
  responseId : String
  generationId : String

structure ConversationResponseCancelled where
  responseId : String
  generationId : String
  reason : String
  supersededByGenerationId : String

structure ConversationError where
  message : String
  code : String
  recoverable : Bool
  generationId : String

/-- A conversation message that the client passes on as it is. -/
inductive ConversationUpdate where
  | sessionCreated (turnProfile : String) (policy : Option ConversationTurnPolicy)
  | speechStarted (timestampMs : Nat)
  | speechStopped (timestampMs : Nat)
  | transcriptDelta (delta : String) (startMs endMs : Nat)
  | responseCommitted (responseId generationId : String)
  | audioDelta (audio : ByteArray) (sampleRate : Nat) (responseId : String) (sequence : Nat)
  | audioClear (responseId generationId reason supersededByGenerationId : String)
  | responseSpokenText (responseId generationId spokenText partialStatus : String)
      (playedAudioMs : Nat)
  | stateChanged (state previousState : String)
  | interruptionDetected (responseId : String) (vadActiveMs : Nat)
      (partialTranscript generationId : String)
  | interruptionFalsePositive (responseId : String) (vadActiveMs : Nat)
      (partialTranscript reason generationId : String)
  | turnEouPredicted (probability threshold : Binary64) (decision action : String) (delayMs : Nat)
      (turnDetector : String) (startMs endMs : Nat)

/-- `ConverseServerMessage.msg`. -/
inductive Conversation where
  | update (payload : ConversationUpdate)
  | transcriptDone (payload : ConversationTranscriptDone)
  | responseCreated (payload : ConversationResponseCreated)
  | responseDone (payload : ConversationResponseDone)
  | responseCancelled (payload : ConversationResponseCancelled)
  | error (payload : ConversationError)
  | audioSuspend (responseId : String) (candidateId : Nat) (generationId : String)
  | audioResume (responseId : String) (candidateId : Nat) (generationId : String)

/-- `RtcControlServerMessage.msg`; what is not set is `none`. -/
inductive ServerMessage where
  | attached (payload : RtcSessionAttached)
  | answer (payload : RtcControlAnswer)
  | candidate (payload : RtcIceCandidate)
  | candidatesComplete (payload : RtcIceCandidatesComplete)
  | conversation (msg : Option Conversation)
  | error (payload : RtcSignalingError)
  | closed (payload : RtcControlClosed)
  | browserEvent (payload : RtcClientEvent)
  | event (payload : RtcWireEvent)

abbrev RtcControlServerMessage := Option ServerMessage

def RtcSessionAttached.term (p : RtcSessionAttached) : Term :=
  message [("session_id", .text p.sessionId), ("provider", .text p.provider)]

def Entity.term (p : Entity) : Term :=
  message [("type", .text p.type), ("text", .text p.text), ("start_char", .ofNat p.startChar),
    ("end_char", .ofNat p.endChar)]

def WordTimestamp.term (p : WordTimestamp) : Term :=
  message [("word", .text p.word), ("start_ms", .number (.int p.startMs)),
    ("end_ms", .number (.int p.endMs)), ("confidence", .opt .ofFloat p.confidence)]

def ConversationTurnPolicy.term (p : ConversationTurnPolicy) : Term :=
  message [("allow_interrupt_while_speaking", .opt .bool p.allowInterruptWhileSpeaking),
    ("min_interrupt_duration_ms", .opt .ofNat p.minInterruptDurationMs),
    ("max_endpointing_delay_ms", .opt .ofNat p.maxEndpointingDelayMs),
    ("false_interruption_timeout_ms", .opt .ofNat p.falseInterruptionTimeoutMs),
    ("min_interrupt_words", .opt .ofNat p.minInterruptWords),
    ("partial_interrupts", .opt .bool p.partialInterrupts),
    ("dynamic_endpointing", .opt .bool p.dynamicEndpointing),
    ("min_endpointing_delay_ms", .opt .ofNat p.minEndpointingDelayMs),
    ("speaking_interrupt_min_duration_ms", .opt .ofNat p.speakingInterruptMinDurationMs),
    ("speaking_interrupt_min_words", .opt .ofNat p.speakingInterruptMinWords),
    ("self_echo_min_words", .opt .ofNat p.selfEchoMinWords),
    ("self_echo_min_overlap", .opt .ofFloat p.selfEchoMinOverlap),
    ("aec_warmup_ms", .opt .ofNat p.aecWarmupMs),
    ("backchannel_end_cooldown_ms", .opt .ofNat p.backchannelEndCooldownMs),
    ("vad_min_silence_ms", .opt .ofNat p.vadMinSilenceMs)]

def ConversationResponseOutput.term (p : ConversationResponseOutput) : Term :=
  message [("model", .opt .text p.model), ("voice", .opt .text p.voice),
    ("language", .opt .text p.language), ("speed", .opt .ofFloat p.speed),
    ("params", .opt Struct.term p.params)]

def ConversationResponseCreated.term (p : ConversationResponseCreated) : Term :=
  message [("response_id", .text p.responseId), ("generation_id", .text p.generationId),
    ("output", .opt (·.term) p.output),
    ("supersedes_generation_id", .text p.supersedesGenerationId)]

def ConversationResponseDone.term (p : ConversationResponseDone) : Term :=
  message [("response_id", .text p.responseId), ("generation_id", .text p.generationId)]

def ConversationResponseCancelled.term (p : ConversationResponseCancelled) : Term :=
  message [("response_id", .text p.responseId), ("generation_id", .text p.generationId),
    ("reason", .text p.reason),
    ("superseded_by_generation_id", .text p.supersededByGenerationId)]

def ConversationUpdate.term : ConversationUpdate → Term
  | .sessionCreated turnProfile policy =>
    message [("turn_profile", .text turnProfile), ("policy", .opt (·.term) policy)]
  | .speechStarted timestampMs | .speechStopped timestampMs =>
    message [("timestamp_ms", .ofNat timestampMs)]
  | .transcriptDelta delta startMs endMs =>
    message [("delta", .text delta), ("start_ms", .ofNat startMs), ("end_ms", .ofNat endMs)]
  | .responseCommitted responseId generationId =>
    message [("response_id", .text responseId), ("generation_id", .text generationId)]
  | .audioDelta audio sampleRate responseId sequence =>
    message [("audio", .bytes audio), ("sample_rate", .ofNat sampleRate),
      ("response_id", .text responseId), ("sequence", .ofNat sequence)]
  | .audioClear responseId generationId reason supersededByGenerationId =>
    message [("response_id", .text responseId), ("generation_id", .text generationId),
      ("reason", .text reason), ("superseded_by_generation_id", .text supersededByGenerationId)]
  | .responseSpokenText responseId generationId spokenText partialStatus playedAudioMs =>
    message [("response_id", .text responseId), ("generation_id", .text generationId),
      ("spoken_text", .text spokenText), ("partial_status", .text partialStatus),
      ("played_audio_ms", .ofNat playedAudioMs)]
  | .stateChanged state previousState =>
    message [("state", .text state), ("previous_state", .text previousState)]
  | .interruptionDetected responseId vadActiveMs partialTranscript generationId =>
    message [("response_id", .text responseId), ("vad_active_ms", .ofNat vadActiveMs),
      ("partial_transcript", .text partialTranscript), ("generation_id", .text generationId)]
  | .interruptionFalsePositive responseId vadActiveMs partialTranscript reason generationId =>
    message [("response_id", .text responseId), ("vad_active_ms", .ofNat vadActiveMs),
      ("partial_transcript", .text partialTranscript), ("reason", .text reason),
      ("generation_id", .text generationId)]
  | .turnEouPredicted probability threshold decision action delayMs turnDetector startMs endMs =>
    message [("probability", .ofFloat probability), ("threshold", .ofFloat threshold),
      ("decision", .text decision), ("action", .text action), ("delay_ms", .ofNat delayMs),
      ("turn_detector", .text turnDetector), ("start_ms", .ofNat startMs),
      ("end_ms", .ofNat endMs)]

end VoxRtc.Elixir.Vox
