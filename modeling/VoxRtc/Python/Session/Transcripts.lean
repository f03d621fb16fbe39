import VoxRtc.Python.Session.SpeechContext

/-!
# Transcripts of the Python server SDK

`on_transcript` of `python/vox-rtc-server/src/vox_rtc_server/session.py`. Each field of the
payload has a default for a value of another type, but `status not in {…}` hashes the status
of a speech context, and a list or a dictionary has no hash: the whole transcript is lost.
-/
namespace VoxRtc.Python.Session

open Wire Transcripts

inductive PythonError where
  | typeError (message : String)
  deriving DecidableEq, Repr

def PythonError.unhashable (type : String) : PythonError :=
  typeError s!"unhashable type: '{type}'"

structure TranscriptEntity where
  type : String
  text : String
  startChar : Int
  endChar : Int
  deriving Repr

structure TranscriptWord where
  word : String
  startMs : PythonNumber
  endMs : PythonNumber
  confidence : Option PythonNumber
  deriving Repr

structure TranscriptEvent where
  sessionId : String
  channelName : String
  data : Members PythonNumber
  transcript : String
  language : Option String
  startMs : Option PythonNumber
  endMs : Option PythonNumber
  eouProbability : Option PythonNumber
  topics : Option (List String)
  entities : Option (List TranscriptEntity)
  words : Option (List TranscriptWord)
  speechContext : Option SpeechContext
  deriving Repr

/-- `_payload_dict`. -/
def payloadDict : Option (Json PythonNumber) → Members PythonNumber
  | none | some .null => []
  | some (.obj members) => members
  | some value => [("payload", value)]

def optionalStr (value : Option (Json PythonNumber)) : Option String := value.bind Json.str?

def requiredStr (value : Option (Json PythonNumber)) (fallback : String) : String :=
  match optionalStr value with
  | some text => if text = "" then fallback else text
  | none => fallback

/-- `isinstance(value, (int, float))`; a `bool` is none here. -/
def optionalNumber (value : Option (Json PythonNumber)) : Option PythonNumber :=
  value.bind Json.num?

def requiredInt (value : Option (Json PythonNumber)) : Int :=
  match optionalNumber value with
  | some (.int n) => n
  | _ => 0

/-- `number or 0`: a zero of either type becomes the integer. -/
def orZero : Option PythonNumber → PythonNumber
  | some (.int n) => .int n
  | some (.float x) => if x.strictEq (.ofCount 0) then .int 0 else .float x
  | none => .int 0

def optionalStrList (value : Option (Json PythonNumber)) : Option (List String) :=
  (value.bind Json.arr?).bind fun items => items.mapM Json.str?

/-- The items that are mappings; `None` if there are none. -/
def parseItems {α : Type} (item : Members PythonNumber → α) (value : Option (Json PythonNumber)) :
    Option (List α) :=
  (value.bind Json.arr?).bind fun items =>
    let parsed := (items.filterMap Json.object?).map item
    if parsed.isEmpty then none else some parsed

def parseEntities := parseItems fun item => TranscriptEntity.mk
  (requiredStr (item.get? "type") "") (requiredStr (item.get? "text") "")
  (requiredInt (item.get? "start_char")) (requiredInt (item.get? "end_char"))

def parseWords := parseItems fun item => TranscriptWord.mk
  (requiredStr (item.get? "word") "")
  (orZero (optionalNumber (item.get? "start_ms"))) (orZero (optionalNumber (item.get? "end_ms")))
  (optionalNumber (item.get? "confidence"))

/-- `status not in {"complete", "partial", "failed"}`: the status, if it is one of them. -/
def statusIn : Option (Json PythonNumber) → Except PythonError (Option Status)
  | some (.arr _) => .error (.unhashable "list")
  | some (.obj _) => .error (.unhashable "dict")
  | some (.str text) => .ok (Status.ofText text)
  | _ => .ok none

/-- `_parse_speech_context`, with what it raises. -/
def readSpeechContext (value : Option (Json PythonNumber)) :
    Except PythonError (Option SpeechContext) :=
  match value.bind Json.object? with
  | none => .ok none
  | some record =>
    if ((record.get? "schema_version").bind Json.num?).any isTwo then
      match statusIn (record.get? "status") with
      | .error error => .error error
      | .ok none => .ok none
      | .ok (some status) => .ok <|
        Handwritten.assemble status (parseSpeechContextSpans (record.get? "emotions"))
          (parseSpeechContextSpans (record.get? "vocal"))
          (parseSpeechContextSoundSpans (record.get? "sounds"))
          (parseSpeechContextTracks (record.get? "unavailable"))
          (record.get? "unavailable").isNone
    else .ok none

structure VoxRtcControlSession where
  sessionId : String

namespace VoxRtcControlSession

def channelName (s : VoxRtcControlSession) : String := s!"/rtc/{s.sessionId}"

def transcriptEvent (s : VoxRtcControlSession) (payload : Members PythonNumber) :
    Except PythonError TranscriptEvent := do
  let speechContext ← readSpeechContext (payload.get? "speech_context")
  return {
    sessionId := requiredStr (payload.get? "session_id") s.sessionId
    channelName := s.channelName
    data := payload
    transcript := requiredStr (payload.get? "transcript") ""
    language := optionalStr (payload.get? "language")
    startMs := optionalNumber (payload.get? "start_ms")
    endMs := optionalNumber (payload.get? "end_ms")
    eouProbability := optionalNumber (payload.get? "eou_probability")
    topics := optionalStrList (payload.get? "topics")
    entities := parseEntities (payload.get? "entities")
    words := parseWords (payload.get? "words")
    speechContext := speechContext }

/-- What a message on `conversation.item.input_audio_transcription.completed` leads to: the
calls of the handler, and what the callback raises. -/
def onTranscript (s : VoxRtcControlSession) (payload : Option (Json PythonNumber)) :
    List TranscriptEvent × Option PythonError :=
  match s.transcriptEvent (payloadDict payload) with
  | .ok event => ([event], none)
  | .error error => ([], some error)

end VoxRtcControlSession

/-- The status of a context of version 2 is a list or a dictionary. -/
def unhashable (value : Json PythonNumber) : Bool :=
  value.object?.any fun record : Members PythonNumber =>
    ((record.get? "schema_version").bind Json.num?).any isTwo &&
      (record.get? "status").any fun status => status.arr?.isSome || status.object?.isSome

section Reading

variable {field : Option (Json PythonNumber)}

theorem statusIn_error (unhashed : (field.any fun status =>
    status.arr?.isSome || status.object?.isSome) = true) :
    ∃ type, statusIn field = .error (.unhashable type) := by
  cases field with
  | none => cases unhashed
  | some status =>
    cases status with
    | arr => exact ⟨_, rfl⟩
    | obj => exact ⟨_, rfl⟩
    | _ => cases unhashed

theorem statusIn_ok (hashed : (field.any fun status =>
    status.arr?.isSome || status.object?.isSome) = false) :
    statusIn field = .ok ((field.bind Json.str?).bind Status.ofText) := by
  cases field with
  | none => rfl
  | some status =>
    cases status with
    | arr => cases hashed
    | obj => cases hashed
    | _ => rfl

theorem readSpeechContext_raises {value : Json PythonNumber} (unhashed : unhashable value = true) :
    ∃ type, readSpeechContext (some value) = .error (.unhashable type) := by
  cases value with
  | obj record =>
    simp only [unhashable, Json.object?, Option.any_some, Bool.and_eq_true] at unhashed
    obtain ⟨version, status⟩ := unhashed
    obtain ⟨type, raised⟩ := statusIn_error status
    refine ⟨type, ?_⟩
    simp only [readSpeechContext, Option.bind_some, Json.object?, version, if_true, raised]
  | _ => cases unhashed

/-- Where nothing is raised, the validator reads the value. -/
theorem readSpeechContext_reads {value : Json PythonNumber} (hashed : unhashable value = false) :
    readSpeechContext (some value) = .ok (parseSpeechContext value) := by
  cases value with
  | obj record =>
    have parsed : parseSpeechContext (.obj record) =
        (Members.get? record "schema_version").bind Json.num? >>= fun version =>
          if isTwo version then
            ((Members.get? record "status").bind Json.str?).bind Status.ofText >>= fun status =>
              Handwritten.assemble status
                (parseSpeechContextSpans (Members.get? record "emotions"))
                (parseSpeechContextSpans (Members.get? record "vocal"))
                (parseSpeechContextSoundSpans (Members.get? record "sounds"))
                (parseSpeechContextTracks (Members.get? record "unavailable"))
                (Members.get? record "unavailable").isNone
          else none := rfl
    simp only [unhashable, Json.object?, Option.any_some] at hashed
    simp only [readSpeechContext, Option.bind_some, Json.object?, parsed]
    cases version : (Members.get? record "schema_version").bind Json.num? with
    | none => rfl
    | some number =>
      by_cases two : isTwo number = true
      · -- The status is looked up in the set only here.
        rw [version, Option.any_some, two, Bool.true_and] at hashed
        rw [Option.any_some, if_pos two, statusIn_ok hashed]
        simp only [Option.bind_eq_bind, Option.bind_some, two, if_true]
        cases ((Members.get? record "status").bind Json.str?).bind Status.ofText <;> rfl
      · simp [two]
  | _ => rfl

end Reading

/-- The speech context of a payload is of version 2, and its status is an array or an object. -/
def StatusUnhashable (payload : Members Literal) : Prop :=
  ∃ (record : Members Literal) (version : Literal) (status : Json Literal),
    payload.get? "speech_context" = some (.obj record) ∧
    record.get? "schema_version" = some (.num version) ∧ isTwo version.python = true ∧
    record.get? "status" = some status ∧ (status.arr?.isSome = true ∨ status.object?.isSome = true)

theorem unhashable_obj (record : Members Literal) :
    unhashable ((Json.obj record).mapNumbers Literal.python) =
      ((((record.get? "schema_version").bind Json.num?).map Literal.python).any isTwo &&
        (record.get? "status").any fun status => status.arr?.isSome || status.object?.isSome) := by
  rw [unhashable, Json.object?_mapNumbers]
  simp only [Json.object?, Option.map_some, Option.any_some, Members.get?_mapNumbers]
  congr 1
  · cases record.get? "schema_version" <;> simp
  · cases record.get? "status" with
    | none => rfl
    | some status => cases status <;> rfl

theorem statusUnhashable_iff (payload : Members Literal) : StatusUnhashable payload ↔
    ∃ value, payload.get? "speech_context" = some value ∧
      unhashable (value.mapNumbers Literal.python) = true := by
  constructor
  · rintro ⟨record, version, status, context, number, two, found, shape⟩
    refine ⟨_, context, ?_⟩
    rw [unhashable_obj, number, found]
    simpa [Json.num?, two] using shape
  · rintro ⟨value, context, unhashed⟩
    cases value with
    | obj record =>
      rw [unhashable_obj, Bool.and_eq_true] at unhashed
      obtain ⟨version, shape⟩ := unhashed
      cases number : Members.get? record "schema_version" with
      | none => simp [number] at version
      | some written =>
        cases written with
        | num l =>
          rw [Option.any_eq_true] at shape
          obtain ⟨status, found, shape⟩ := shape
          have two : isTwo l.python = true := by simpa [number, Json.num?] using version
          exact ⟨record, l, status, context, number, two, found, by simpa using shape⟩
        | _ => simp [number, Json.num?] at version
    | _ => simp [unhashable, Json.mapNumbers, Json.object?] at unhashed

namespace VoxRtcControlSession

/-- The transcript is delivered once and nothing is raised; a speech context that is not of
the format is left out. -/
def Delivers (s : VoxRtcControlSession) (payload : Members Literal) : Prop :=
  ∃ event, s.onTranscript (some ((Json.obj payload).mapNumbers Literal.python)) = ([event], none) ∧
    event.speechContext = (payload.get? "speech_context").bind fun value =>
      (Format.speechContext value).accept Validator.python.tolerates

theorem payloadDict_obj (payload : Members Literal) :
    payloadDict (some ((Json.obj payload).mapNumbers Literal.python)) =
      payload.map fun member => (member.1, member.2.mapNumbers Literal.python) := by
  simp only [Json.mapNumbers, payloadDict, Json.ofMembers_eq]

theorem transcript_delivered_iff (s : VoxRtcControlSession) (payload : Members Literal) :
    s.Delivers payload ↔ ¬StatusUnhashable payload := by
  rw [statusUnhashable_iff, Delivers, onTranscript, payloadDict_obj, transcriptEvent,
    Members.get?_mapNumbers]
  cases context : payload.get? "speech_context" with
  | none => simp [readSpeechContext, bind, Except.bind, pure, Except.pure]
  | some value =>
    by_cases unhashed : unhashable (value.mapNumbers Literal.python) = true
    · obtain ⟨type, raised⟩ := readSpeechContext_raises unhashed
      simp [raised, unhashed, bind, Except.bind]
    · have read := readSpeechContext_reads (Bool.eq_false_iff.mpr unhashed)
      have accepted := speechContext_reads value
      rw [speechContext] at accepted
      simp [read, accepted, unhashed, bind, Except.bind, pure, Except.pure]

theorem transcript_dropped :
    (⟨"s"⟩ : VoxRtcControlSession).onTranscript (some (.obj [("transcript", .str "hello"),
        ("speech_context", .obj [("schema_version", .num (.int 2)), ("status", .arr [])])])) =
      ([], some (.typeError "unhashable type: 'list'")) ∧
    ¬∀ (s : VoxRtcControlSession) payload, s.Delivers payload := by
  refine ⟨rfl, fun delivers => ?_⟩
  obtain ⟨event, delivered, -⟩ := delivers ⟨"s"⟩ [("transcript", .str "hello"),
    ("speech_context", .obj [("schema_version", .num (.int 2)), ("status", .arr [])])]
  cases delivered

end VoxRtcControlSession

end VoxRtc.Python.Session
