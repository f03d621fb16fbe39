import VoxRtc.Elixir.Gateway.Socket

/-!
# Survival of the Elixir gateway

Which messages of the control stream the socket survives, whatever its state is: the ones
whose terms JSON has something for, whose payloads are objects, and whose reason for
closing is a text or can be made one.
-/
namespace VoxRtc.Elixir.Gateway

open Wire Vox Google.Protobuf

/-- `parseEvent` of the browser accepts the frame. -/
def parses (frame : Json Number) : Bool :=
  let members := frame.object?.getD []
  match members.get? "type", members.get? "data" with
  | some (.str _), some (.obj _) => true
  | _, _ => false

namespace Result

def frames : Result → List (Json Number)
  | ok _ => []
  | push frame _ => [frame]
  | stop _ _ _ frame _ => [frame]

/-- The socket goes on, or stops normally. -/
def Normal : Result → Prop
  | stop reason .. => reason = .atom "normal"
  | _ => True

end Result

/-- The event that subscribers get for a decoded message. -/
def delivered : Except Term Event → Event
  | .ok event => event
  | .error reason => .failed reason

namespace Socket

def SurvivesEvent (s : Socket) (lib : Libraries) (event : Event) : Prop :=
  ∃ result, s.handleInfo lib (.voxRtc s.session event) = some result ∧ result.Normal ∧
    ∀ frame ∈ result.frames, parses frame = true

/-- Neither the decoder nor the socket raises, the socket does not stop abnormally, and the
browser accepts what it is sent. -/
def Survives (s : Socket) (lib : Libraries) (message : RtcControlServerMessage) : Prop :=
  ∃ decoded, Protocol.decodeEvent lib message = some decoded ∧
    s.SurvivesEvent lib (delivered decoded)

end Socket

/-- A value that `List.to_string/1` takes: code points and texts, in arrays of arrays. -/
def isChardata : Json Number → Bool
  | .num (.int n) => 0 ≤ n && n.toNat.isValidChar
  | .str _ => true
  | .arr items => ofItems items
  | _ => false
where
  ofItems : List (Json Number) → Bool
    | [] => true
    | item :: items => isChardata item && ofItems items

/-- A value that `to_string/1` takes. -/
def printable : Json Number → Bool
  | .obj _ => false
  | .arr items => isChardata (.arr items)
  | _ => true

/-- A payload that is an object, with a printable reason where it closes the session. -/
def Presentable (type : String) (payload : Json Number) : Prop :=
  ∃ members, payload = .obj members ∧
    (type = "rtc.session.closed" →
      ∀ reason, Members.get? members "reason" = some reason → printable reason = true)

instance decidablePresentable (type : String) : (payload : Json Number) →
    Decidable (Presentable type payload)
  | .obj members => decidable_of_iff
      (type = "rtc.session.closed" → (Members.get? members "reason").all printable = true) (by
        cases found : Members.get? members "reason" <;> simp [Presentable, found])
  | .null | .bool _ | .num _ | .str _ | .arr _ => isFalse (by
      rintro ⟨members, same, -⟩
      cases same)

/-- What JSON can say of an event. -/
def DeliverableEvent : Event → Prop
  | .conversation (.audioDelta audio _ _ _) => (String.fromUTF8? audio).isSome
  | .wireEvent type (.data payload) => Presentable type payload
  | .wireEvent _ (.raw ..) => False
  | .failed reason => (encode (normalize reason)).isSome
  | _ => True

instance decidableDeliverableEvent : (event : Event) → Decidable (DeliverableEvent event)
  | .conversation (.audioDelta audio _ _ _) =>
    inferInstanceAs (Decidable ((String.fromUTF8? audio).isSome = true))
  | .wireEvent type (.data payload) => inferInstanceAs (Decidable (Presentable type payload))
  | .wireEvent _ (.raw ..) => isFalse id
  | .failed reason => inferInstanceAs (Decidable ((encode (normalize reason)).isSome = true))
  | .conversation (.sessionCreated ..) | .conversation (.speechStarted ..)
  | .conversation (.speechStopped ..) | .conversation (.transcriptDelta ..)
  | .conversation (.responseCommitted ..) | .conversation (.audioClear ..)
  | .conversation (.responseSpokenText ..) | .conversation (.stateChanged ..)
  | .conversation (.interruptionDetected ..) | .conversation (.interruptionFalsePositive ..)
  | .conversation (.turnEouPredicted ..) | .sessionAttached _ | .answer _ | .iceCandidate _
  | .iceCandidatesComplete _ | .signalingError _ | .transcriptCompleted _ | .responseCreated _
  | .responseDone _ | .responseCancelled _ | .browserEvent .. | .error _ | .closed _ =>
    isTrue trivial

/-- What JSON can say of a message. -/
def Deliverable (lib : Libraries) : RtcControlServerMessage → Prop
  | some (.conversation (some (.update (.audioDelta audio _ _ _)))) =>
    (String.fromUTF8? audio).isSome
  | some (.conversation (some (.transcriptDone payload))) =>
    ∀ fields, payload.speechContext = some fields → (lib.toMap fields).isSome
  | some (.event payload) =>
    ∃ value, lib.decode payload.payloadJson = .ok value ∧ Presentable payload.type value
  | _ => True

section Clean

@[simp] theorem clean_opt {α : Type} (f : α → Term) (value : Option α) :
    Clean (.opt f value) ↔ ∀ a, value = some a → Clean (f a) := by
  cases value <;> simp [Term.opt, Clean]

@[simp] theorem clean_ofFloat (x : Binary64) : Clean (.ofFloat x) := by
  cases x with
  | finite x => trivial
  | infinity negative => cases negative <;> trivial
  | nan => trivial

@[simp] theorem clean_ofNat (n : Nat) : Clean (.ofNat n) := trivial

@[simp] theorem clean_message (fields : List (String × Term)) :
    Clean (message fields) ↔ ∀ f ∈ fields, Clean f.2 := by
  simp only [message, Clean, clean_fields, List.forall_mem_append, List.forall_mem_singleton]
  exact and_iff_left trivial

theorem clean_fieldMembers (fields : List (String × Value)) :
    Clean (.map (Value.term.members fields)) ↔ ∀ field ∈ fields, Clean field.2.term := by
  rw [Clean, clean_members, Value.members_eq, List.forall_mem_map]

theorem clean_value (value : Value) : Clean value.term := by
  induction value using Value.inside with
  | struct fields ih =>
    have clean := (clean_fieldMembers fields).mpr ih
    simpa only [Value.term, clean_message, List.forall_mem_singleton, Clean, Clean.ofItems,
      true_and, and_true] using clean
  | list values ih => simpa [Value.term, Value.items_eq, Clean] using ih
  | _ => simp [Value.term, Clean]

theorem clean_params (fields : Struct) : Clean (Struct.term fields) := by
  rw [Struct.term, clean_message, List.forall_mem_singleton, clean_fieldMembers]
  exact fun field _ => clean_value field.2

theorem clean_output (output : ConversationResponseOutput) : Clean output.term := by
  simp [ConversationResponseOutput.term, Clean, clean_params]

theorem clean_policy (policy : ConversationTurnPolicy) : Clean policy.term := by
  simp [ConversationTurnPolicy.term, Clean]

theorem clean_errorEvent (payload : ErrorEvent) : Clean (errorEvent payload) := by
  simp [errorEvent, Clean]

theorem clean_speechContext (context : SpeechContext) : Clean context.term := by
  have status : Clean context.status.term := by cases context.status <;> trivial
  have track (track : Track) : Clean track.term := by cases track <;> trivial
  simp [SpeechContext.term, SpeechContextSpan.term, SpeechContextSoundSpan.term, Clean, status,
    track]

theorem clean_transcript (payload : TranscriptCompleted) : Clean (transcriptCompleted payload) := by
  simp [transcriptCompleted, Entity.term, WordTimestamp.term, Clean, clean_speechContext]

/-- A conversation message holds raw bytes only as audio. -/
theorem clean_update (update : ConversationUpdate) (text : ∀ audio rate id sequence,
    update = .audioDelta audio rate id sequence → (String.fromUTF8? audio).isSome) :
    Clean update.term := by
  cases update with
  | audioDelta audio rate id sequence =>
    simp [ConversationUpdate.term, Clean, text audio rate id sequence rfl]
  | _ => simp [ConversationUpdate.term, Clean, clean_policy]

end Clean

section Events

variable {s : Socket} {lib : Libraries} {event : Event} {type : String} {data : Term}

/-- The members that come before the data of a frame. -/
def header (type : String) : Option String → Members Number
  | none => [("type", .str type)]
  | some id => [("id", .str id), ("type", .str type)]

theorem text_eq (id : Option String) : text type data id =
    if data.isNil then some (.obj (header type id))
    else (encode data).map fun value => .obj (header type id ++ [("data", value)]) := by
  have named : (Term.text type).isNil = false := rfl
  have filled : compact [(.text "data", data)] =
      if data.isNil then [] else [(Key.text "data", data)] := compact_cons _ []
  cases id with
  | none =>
    have left : (Term.opt Term.text none).isNil = true := rfl
    rw [text, compact_cons, if_pos left, compact_cons, named, if_neg Bool.false_ne_true, filled]
    split
    · simp [encode, encode.ofMembers, header, Key.toString]
    · cases found : encode data <;>
        simp [encode, encode.ofMembers, found, header, Key.toString]
  | some id =>
    have kept : (Term.opt Term.text (some id)).isNil = false := rfl
    rw [text, compact_cons, kept, if_neg Bool.false_ne_true, compact_cons, named,
      if_neg Bool.false_ne_true, filled]
    split
    · simp [Term.opt, encode, encode.ofMembers, header, Key.toString]
    · cases found : encode data <;>
        simp [Term.opt, encode, encode.ofMembers, found, header, Key.toString]

theorem parses_header (id : Option String) (value : Json Number) :
    parses (.obj (header type id ++ [("data", value)])) = value.object?.isSome := by
  cases id <;> cases value <;> rfl

/-- A frame can be written, and is accepted, where the data is an object. -/
theorem text_parses (id : Option String) :
    (∃ frame, text type data id = some frame ∧ parses frame = true) ↔
      ∃ members, encode data = some (.obj members) := by
  rw [text_eq]
  split
  next empty =>
    have none : encode data = some .null := by
      cases data <;> first | rfl | cases empty
    constructor
    · rintro ⟨frame, same, accepted⟩
      cases same
      cases id <;> cases accepted
    · rintro ⟨members, object⟩
      rw [none] at object
      cases object
  next present =>
    constructor
    · rintro ⟨frame, written, accepted⟩
      obtain ⟨value, encoded, rfl⟩ := Option.map_eq_some_iff.mp written
      rw [parses_header] at accepted
      cases value with
      | obj members => exact ⟨members, encoded⟩
      | _ => cases accepted
    · rintro ⟨members, encoded⟩
      exact ⟨_, by rw [encoded]; rfl, by rw [parses_header]; rfl⟩

/-- What is left to ask of an event that becomes a type and a term. -/
theorem survivesEvent_of_wire (wire : wireEvent event = some (type, data)) :
    s.SurvivesEvent lib event ↔ (∃ members, encode data = some (.obj members)) ∧
      (type = "rtc.session.closed" → (reasonText lib data).isSome) := by
  rw [← text_parses (s.requestId type)]
  simp only [Socket.SurvivesEvent, Socket.handleInfo, if_true, Socket.handleEvent, wire,
    Option.bind_eq_bind, Option.bind_some]
  cases text type data (s.requestId type) with
  | none => simp
  | some frame =>
    simp only [Option.bind_some, Socket.pushed]
    by_cases closes : type = "rtc.session.closed"
    · cases found : reasonText lib data <;> simp [closes, Result.Normal, Result.frames]
    · simp [closes, Result.Normal, Result.frames]

theorem encode_map {members : List (Key × Term)} : (encode (.map members)).isSome ↔
    ∃ object, encode (.map members) = some (.obj object) := by
  rw [encode]
  cases encode.ofMembers members <;> simp

/-- An event that becomes a clean map, and does not close the session. -/
theorem survives_map {members : List (Key × Term)}
    (wire : wireEvent event = some (type, .map members)) (going : type ≠ "rtc.session.closed")
    (clean : (encode (.map members)).isSome) : s.SurvivesEvent lib event :=
  (survivesEvent_of_wire wire).mpr ⟨encode_map.mp clean, fun closes => absurd closes going⟩

end Events

section Payloads

variable {lib : Libraries} {members : Members Number}

theorem clean_ofJson (value : Json Number) : Clean (.ofJson value) := by
  induction value using Json.inside with
  | null => trivial
  | bool => trivial
  | num => trivial
  | str => trivial
  | arr items ih => simpa [Term.ofJson, Clean] using ih
  | obj members ih =>
    rw [Term.ofJson, Clean, clean_members, Term.ofMembers_eq, List.forall_mem_map]
    exact ih

/-- Members with texts for keys keep their keys. -/
theorem normalize_text {α : Type} (f : α → Term) (members : List (String × α)) :
    normalize.ofMembers (members.map fun m => (.text m.1, f m.2)) =
      members.map fun m => (.text m.1, normalize (f m.2)) := by
  induction members with
  | nil => rfl
  | cons member members ih =>
    rw [List.map_cons, normalize.ofMembers, if_neg Key.noConfusion, ih, List.map_cons]
    rfl

/-- An object becomes a map of the members that are left. -/
theorem normalize_obj : normalize (.ofJson (.obj members)) =
    .map (compact (mapNew (members.map fun m => (.text m.1, normalize (.ofJson m.2))))) := by
  rw [Term.ofJson, normalize, Term.ofMembers_eq, normalize_text]

theorem encode_obj : (∃ object, encode (normalize (.ofJson value)) = some (.obj object)) ↔
    ∃ members, value = .obj members := by
  cases value with
  | obj members =>
    have clean := encode_normalize _ (clean_ofJson (.obj members))
    rw [normalize_obj] at clean ⊢
    simpa using encode_map.mp clean
  | arr items => simp [Term.ofJson, normalize, encode]
  | _ => simp [Term.ofJson, normalize, encode]

theorem fetch_members (key : String) :
    SpeechContext.fetch (members.map fun m => (.text m.1, normalize (.ofJson m.2))).reverse key =
      (members.get? key).map fun value => normalize (.ofJson value) := by
  have same : ((fun m : Key × Term => decide (m.1 = .text key)) ∘
      fun m : String × Json Number => (.text m.1, normalize (.ofJson m.2))) =
      fun m => m.1 == key := by
    funext m
    rw [Bool.eq_iff_iff]
    simp
  rw [← List.map_reverse, SpeechContext.fetch, Members.get?, List.find?_map, same, Option.map_map,
    Option.map_map]
  rfl

/-- The member of an object that a key is looked up for, once the object is normalized. -/
theorem fetch_normalized (key : String) :
    SpeechContext.fetch
        (compact (mapNew (members.map fun m => (.text m.1, normalize (.ofJson m.2))))) key =
      ((members.get? key).map fun value => normalize (.ofJson value)).filter
        fun value => !value.isNil := by
  rw [fetch_compact mapNew_nodup, fetch_mapNew, fetch_members]

theorem chardata_isSome (value : Json Number) :
    (chardata (normalize (.ofJson value))).isSome = isChardata value := by
  induction value using Json.inside with
  | null => rfl
  | bool => rfl
  | num n =>
    cases n with
    | int n =>
      simp only [Term.ofJson, normalize, chardata, isChardata]
      split <;> simp_all
    | float x => rfl
  | str => rfl
  | arr items ih =>
    rw [Term.ofJson, normalize, normalize_items, Term.ofItems_eq, chardata, isChardata,
      List.map_map]
    induction items with
    | nil => rfl
    | cons item items rest =>
      rw [List.forall_mem_cons] at ih
      rw [List.map_cons, chardata.ofItems, isChardata.ofItems, ← ih.1, ← rest ih.2]
      simp only [Function.comp_apply]
      cases chardata (normalize (.ofJson item)) <;> simp
      cases chardata.ofItems _ <;> simp
  | obj members =>
    rw [normalize_obj]
    rfl

theorem toText_isSome (value : Json Number) :
    (toText lib (normalize (.ofJson value))).isSome = printable value := by
  cases value with
  | null => rfl
  | bool => rfl
  | num n => cases n <;> rfl
  | str => rfl
  | arr items =>
    have list := chardata_isSome (.arr items)
    simp only [Term.ofJson, normalize, chardata] at list
    simp only [Term.ofJson, normalize, toText, chardata, printable, list]
  | obj members =>
    rw [normalize_obj]
    rfl

/-- A member that is null is dropped, and the default stands for it. -/
theorem isNil_normalize (value : Json Number) :
    (normalize (.ofJson value)).isNil = value.isNull := by
  cases value <;> rfl

theorem reasonText_isSome : (reasonText lib (normalize (.ofJson (.obj members)))).isSome ↔
    ∀ reason, members.get? "reason" = some reason → printable reason = true := by
  rw [normalize_obj, reasonText, fetch_normalized]
  cases members.get? "reason" with
  | none => simp [toText]
  | some reason =>
    simp only [Option.map_some, Option.filter, isNil_normalize, Option.some.injEq, forall_eq']
    cases reason with
    | null => simp [Json.isNull, toText, printable]
    | _ => simp [Json.isNull, toText_isSome]

end Payloads

section Messages

variable {s : Socket} {lib : Libraries}

/-- An event whose payload becomes a map that can be written. -/
theorem survives_clean {event : Event} {type : String} {payload : Term}
    (wire : wireEvent event = some (type, normalize payload))
    (shape : ∃ members, normalize payload = .map members) (going : type ≠ "rtc.session.closed")
    (clean : Clean payload) : s.SurvivesEvent lib event := by
  have encoded := encode_normalize _ clean
  obtain ⟨members, same⟩ := shape
  rw [same] at wire encoded
  exact survives_map wire going encoded

theorem normalize_struct (fields : List (String × Term)) :
    ∃ members, normalize (.struct fields) = .map members :=
  ⟨_, by rw [normalize]⟩

theorem normalize_update (update : ConversationUpdate) :
    ∃ members, normalize update.term = .map members := by
  cases update <;> exact normalize_struct _

theorem updateName_ne (update : ConversationUpdate) : updateName update ≠ "rtc.session.closed" := by
  intro same
  cases update <;> simp [updateName] at same

theorem survivesEvent_update (update : ConversationUpdate) :
    s.SurvivesEvent lib (.conversation update) ↔ DeliverableEvent (.conversation update) := by
  by_cases text : ∀ audio rate id sequence, update = .audioDelta audio rate id sequence →
      (String.fromUTF8? audio).isSome
  · refine iff_of_true (survives_clean rfl (normalize_update update) (updateName_ne update)
      (clean_update update text)) ?_
    cases update with
    | audioDelta audio rate id sequence => exact text audio rate id sequence rfl
    | _ => trivial
  · push Not at text
    obtain ⟨audio, rate, id, sequence, rfl, raw⟩ := text
    have none : String.fromUTF8? audio = none := Option.not_isSome_iff_eq_none.mp raw
    -- The audio is a member of the data, and cannot be written.
    refine iff_of_false (fun survives => ?_) raw
    obtain ⟨⟨object, written⟩, -⟩ := (survivesEvent_of_wire rfl).mp survives
    simp [ConversationUpdate.term, message, normalize, normalize.ofFields, unknownFields, mapNew,
      put, compact, Term.isNil, Term.ofNat, encode, encode.ofMembers, none] at written

theorem survivesEvent_candidate (payload : IceCandidate) :
    s.SurvivesEvent lib (.iceCandidate payload) := by
  refine survives_map rfl (by decide) ?_
  obtain ⟨candidate, sdpMid, index, fragment, generation⟩ := payload
  cases sdpMid <;> cases index <;> cases fragment <;> cases generation <;>
    simp [compact, Term.opt, Term.isNil, Term.ofNat, encode, encode.ofMembers]

theorem survivesEvent_browser (name : String) (content : Content) :
    s.SurvivesEvent lib (.browserEvent name content) := by
  cases content with
  | data value =>
    refine survives_map rfl (by decide) ?_
    rw [encode, Option.isSome_map, encode_members]
    simpa [encode] using encode_normalize _ (clean_ofJson value)
  | raw payload decodeError =>
    refine survives_clean rfl ⟨_, by rw [normalize]⟩ (by decide) ?_
    simp [Clean]

/-- The payload of a wire event is the data itself. -/
theorem survivesEvent_wire (type : String) (value : Json Number) :
    s.SurvivesEvent lib (.wireEvent type (.data value)) ↔ Presentable type value := by
  rw [survivesEvent_of_wire rfl, encode_obj, Presentable]
  constructor
  · rintro ⟨⟨members, rfl⟩, closes⟩
    exact ⟨members, rfl, fun closed => reasonText_isSome.mp (closes closed)⟩
  · rintro ⟨members, rfl, closes⟩
    exact ⟨⟨members, rfl⟩, fun closed => reasonText_isSome.mpr (closes closed)⟩

theorem normalize_reason (reason : Term) : normalize (.map [(.atom "reason", reason)]) =
    .map (compact [(.text "reason", normalize reason)]) := by
  simp [normalize, normalize.ofMembers, unknownFields, mapNew, put, Key.toString]

theorem survivesEvent_failed (reason : Term) :
    s.SurvivesEvent lib (.failed reason) ↔ DeliverableEvent (.failed reason) := by
  rw [survivesEvent_of_wire rfl, and_iff_left (fun closes => absurd closes (by decide)),
    normalize_reason, ← encode_map, DeliverableEvent, encode, Option.isSome_map, encode_members,
    compact_cons]
  split
  next empty =>
    have none : encode (normalize reason) = some .null := by
      cases found : normalize reason <;> first | rfl | simp [found, Term.isNil] at empty
    simp [compact, none]
  next => simp [compact]

theorem survivesEvent_closed (reason : String) : s.SurvivesEvent lib (.closed reason) := by
  have same : normalize (.map [(.atom "reason", .text reason)]) =
      .map [(.text "reason", .text reason)] := by
    rw [normalize_reason, normalize, compact_cons]
    · rfl
    all_goals simp
  refine (survivesEvent_of_wire (by rw [wireEvent, same])).mpr ⟨?_, fun _ => ?_⟩
  · exact ⟨[("reason", .str reason)], by simp [encode, encode.ofMembers, Key.toString]⟩
  · simp [reasonText, SpeechContext.fetch, toText]

theorem survivesEvent_iff (event : Event) :
    s.SurvivesEvent lib event ↔ DeliverableEvent event := by
  cases event with
  | conversation update => exact survivesEvent_update update
  -- The structs below hold numbers, strings and flags only.
  | sessionAttached payload =>
    have clean : Clean payload.term := by simp [RtcSessionAttached.term, Clean]
    exact iff_of_true (survives_clean rfl (normalize_struct _) (by decide) clean) trivial
  | answer payload =>
    refine iff_of_true (survives_map rfl (by decide) ?_) trivial
    cases generation : payload.generation <;>
      simp [compact, Term.opt, Term.isNil, Term.ofNat, encode, encode.ofMembers]
  | iceCandidate payload => exact iff_of_true (survivesEvent_candidate payload) trivial
  | iceCandidatesComplete payload =>
    obtain ⟨_ | generation⟩ := payload
    · exact iff_of_true (survives_map rfl (by decide) rfl) trivial
    · exact iff_of_true (survives_map rfl (by decide) rfl) trivial
  | signalingError payload =>
    have clean := clean_errorEvent payload
    exact iff_of_true (survives_clean rfl (normalize_struct _) (by decide) clean) trivial
  | transcriptCompleted payload =>
    have clean := clean_transcript payload
    exact iff_of_true (survives_clean rfl (normalize_struct _) (by decide) clean) trivial
  | responseCreated payload =>
    have clean : Clean payload.term := by
      simp [ConversationResponseCreated.term, Clean, clean_output]
    exact iff_of_true (survives_clean rfl (normalize_struct _) (by decide) clean) trivial
  | responseDone payload =>
    have clean : Clean payload.term := by simp [ConversationResponseDone.term, Clean]
    exact iff_of_true (survives_clean rfl (normalize_struct _) (by decide) clean) trivial
  | responseCancelled payload =>
    have clean : Clean payload.term := by simp [ConversationResponseCancelled.term, Clean]
    exact iff_of_true (survives_clean rfl (normalize_struct _) (by decide) clean) trivial
  | browserEvent name content => exact iff_of_true (survivesEvent_browser name content) trivial
  | wireEvent type content =>
    cases content with
    | data value => exact survivesEvent_wire type value
    -- A payload that could not be decoded has no clause.
    | raw payload decodeError =>
      refine iff_of_false ?_ not_false
      rintro ⟨result, raised, -⟩
      simp [Socket.handleInfo, Socket.handleEvent, wireEvent] at raised
  | error payload =>
    have clean := clean_errorEvent payload
    exact iff_of_true (survives_clean rfl (normalize_struct _) (by decide) clean) trivial
  | failed reason => exact survivesEvent_failed reason
  | closed reason => exact iff_of_true (survivesEvent_closed reason) trivial

theorem survives_of_decoded {message : RtcControlServerMessage} {decoded : Except Term Event}
    (found : Protocol.decodeEvent lib message = some decoded) :
    s.Survives lib message ↔ DeliverableEvent (delivered decoded) := by
  simp only [Socket.Survives, found, Option.some.injEq, exists_eq_left', survivesEvent_iff]

theorem survives_transcript (payload : ConversationTranscriptDone) :
    s.Survives lib (some (.conversation (some (.transcriptDone payload)))) ↔
      Deliverable lib (some (.conversation (some (.transcriptDone payload)))) := by
  have raised : Protocol.speechContext lib payload.speechContext = none ↔
      ¬Deliverable lib (some (.conversation (some (.transcriptDone payload)))) := by
    cases context : payload.speechContext <;> simp [Protocol.speechContext, Deliverable, context]
  cases context : Protocol.speechContext lib payload.speechContext with
  | none =>
    refine iff_of_false ?_ (raised.mp context)
    rintro ⟨decoded, found, -⟩
    simp [Protocol.decodeEvent, Protocol.decodeConversationEvent, context] at found
  | some value =>
    refine iff_of_true ?_ (not_not.mp fun not => ?_)
    · simp only [Socket.Survives, Protocol.decodeEvent, Protocol.decodeConversationEvent, context,
        Option.map_some, Option.some.injEq, exists_eq_left', survivesEvent_iff]
      trivial
    · cases context.symm.trans (raised.mpr not)

theorem deliverableEvent_content {type payloadJson : String} :
    DeliverableEvent (.wireEvent type (Protocol.content lib payloadJson)) ↔
      ∃ value, lib.decode payloadJson = .ok value ∧ Presentable type value := by
  cases found : lib.decode payloadJson <;> simp [Protocol.content, found, DeliverableEvent]

/-- The socket survives a message exactly when it can be delivered. -/
theorem survives_iff (s : Socket) (lib : Libraries) (message : RtcControlServerMessage) :
    s.Survives lib message ↔ Deliverable lib message := by
  cases message with
  | none =>
    rw [survives_of_decoded rfl]
    exact iff_of_true rfl trivial
  | some message =>
    cases message with
    | event payload =>
      rw [survives_of_decoded rfl, delivered, deliverableEvent_content]
      rfl
    | conversation msg =>
      cases msg with
      | none =>
        rw [survives_of_decoded rfl]
        exact iff_of_true rfl trivial
      | some msg =>
        cases msg with
        | transcriptDone payload => exact survives_transcript payload
        | update payload =>
          rw [survives_of_decoded rfl]
          cases payload <;> rfl
        | audioSuspend | audioResume =>
          rw [survives_of_decoded rfl]
          exact iff_of_true rfl trivial
        | _ =>
          rw [survives_of_decoded rfl]
          rfl
    | _ =>
      rw [survives_of_decoded rfl]
      rfl

/-- A wire event without a payload. -/
theorem not_survives : ¬Socket.Survives ⟨0, none, false, false, false, none⟩ Libraries.small
    (some (.event ⟨"turn.state_changed", ""⟩)) := by
  rintro ⟨decoded, found, result, raised, -⟩
  cases found
  cases raised

end Messages

end VoxRtc.Elixir.Gateway
