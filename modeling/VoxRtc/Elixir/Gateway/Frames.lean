import VoxRtc.Elixir.Protocol
import VoxRtc.Gateway.Commands
import VoxRtc.Wire.Text

/-!
# Frames of the Elixir gateway

What `VoxRtcServer.Gateway.Socket` writes to the browser: an event becomes a type and a term,
and the term is encoded where JSON has something for it.
-/
namespace VoxRtc.Elixir.Gateway

open Wire Vox VoxRtc.Gateway

/-- `Map.put/3`. -/
def put (key : Key) (value : Term) : List (Key × Term) → List (Key × Term)
  | [] => [(key, value)]
  | (other, old) :: members =>
    if other = key then (key, value) :: members else (other, old) :: put key value members

/-- `Map.new/1`. -/
def mapNew (members : List (Key × Term)) : List (Key × Term) :=
  members.foldl (fun map member => put member.1 member.2 map) []

def compact (members : List (Key × Term)) : List (Key × Term) :=
  members.filter fun member => !member.2.isNil

def unknownFields : String := "__unknown_fields__"

/-- A struct becomes a map, and a tuple a list. -/
def normalize : Term → Term
  | .struct fields => .map (compact (mapNew (ofFields fields)))
  | .map members => .map (compact (mapNew (ofMembers members)))
  | .list items => .list (ofItems items)
  | .tuple items => .list (ofItems items)
  | term => term
where
  ofFields : List (String × Term) → List (Key × Term)
    | [] => []
    | (name, value) :: fields =>
      if name = unknownFields then ofFields fields
      else (.text name, normalize value) :: ofFields fields
  ofMembers : List (Key × Term) → List (Key × Term)
    | [] => []
    | (key, value) :: members =>
      if key = .atom unknownFields then ofMembers members
      else (.text key.toString, normalize value) :: ofMembers members
  ofItems : List Term → List Term
    | [] => []
    | item :: items => normalize item :: ofItems items

/-- `Jason.encode!/1`, as the value that is written; `none` where it raises. -/
def encode : Term → Option (Json Number)
  | .nil => some .null
  | .bool b => some (.bool b)
  | .number n => some (.num n)
  | .atom name => some (.str name)
  | .text s => some (.str s)
  | .bytes b => (String.fromUTF8? b).map .str
  | .list items => (ofItems items).map .arr
  | .map members => (ofMembers members).map .obj
  | .tuple _ | .struct _ | .pid _ => none
where
  ofItems : List Term → Option (List (Json Number))
    | [] => some []
    | item :: items => do return (← encode item) :: (← ofItems items)
  ofMembers : List (Key × Term) → Option (Members Number)
    | [] => some []
    | (key, value) :: members => do
      return (key.toString, ← encode value) :: (← ofMembers members)

/-- The frame of a message; a member without a value is left out. -/
def text (type : String) (data : Term) (id : Option String) : Option (Json Number) :=
  encode (.map (compact
    [(.text "id", .opt .text id), (.text "type", .text type), (.text "data", data)]))

def gatewayError (id : Option String) (message code : Term) : Option (Json Number) :=
  text "gateway.error" (.map (compact [(.text "message", message), (.text "code", code)])) id

/-- `normalize_error/1`: a message and a code. -/
def normalizeError (lib : Libraries) : Term → Term × Term
  | .tuple [.text message, code] => (.text message, code)
  | .tuple [.bytes message, code] => (.bytes message, code)
  | error => (.text (lib.inspect error), .nil)

def errorEvent (payload : ErrorEvent) : Term :=
  .struct [("message", .text payload.message), ("code", .opt .text payload.code),
    ("generation_id", .opt .text payload.generationId),
    ("generation", .opt .ofNat payload.generation), ("recoverable", .bool payload.recoverable)]

def transcriptCompleted (payload : TranscriptCompleted) : Term :=
  .struct [("transcript", .text payload.transcript), ("language", .text payload.language),
    ("start_ms", .ofNat payload.startMs), ("end_ms", .ofNat payload.endMs),
    ("eou_probability", .opt .ofFloat payload.eouProbability),
    ("speech_context", .opt (·.term) payload.speechContext),
    ("entities", .list (payload.entities.map (·.term))),
    ("topics", .list (payload.topics.map .text)),
    ("words", .list (payload.words.map (·.term)))]

/-- `@event_names`, for the conversation messages that are passed on as they are. -/
def updateName : ConversationUpdate → String
  | .sessionCreated .. => "session.created"
  | .speechStarted .. => "input_audio_buffer.speech_started"
  | .speechStopped .. => "input_audio_buffer.speech_stopped"
  | .transcriptDelta .. => "conversation.item.input_audio_transcription.delta"
  | .responseCommitted .. => "response.committed"
  | .audioDelta .. => "response.audio.delta"
  | .audioClear .. => "response.audio.clear"
  | .responseSpokenText .. => "response.spoken_text.resolved"
  | .stateChanged .. => "turn.state_changed"
  | .interruptionDetected .. => "interruption.detected"
  | .interruptionFalsePositive .. => "interruption.false_positive"
  | .turnEouPredicted .. => "turn.eou.predicted"

def answer (payload : SessionDescription) : Term :=
  .map (compact [
    (.text "answer", .map [(.text "type", .text payload.type), (.text "sdp", .text payload.sdp)]),
    (.text "generation", .opt .ofNat payload.generation)])

def iceCandidate (payload : IceCandidate) : Term :=
  .map (compact [
    (.text "candidate", .map (compact [
      (.text "candidate", .text payload.candidate), (.text "sdpMid", .opt .text payload.sdpMid),
      (.text "sdpMLineIndex", .opt .ofNat payload.sdpMLineIndex),
      (.text "usernameFragment", .opt .text payload.usernameFragment)])),
    (.text "generation", .opt .ofNat payload.generation)])

/-- The end of the candidates is a candidate that is null. -/
def iceCandidatesComplete (payload : RtcIceCandidatesComplete) : Term :=
  match payload.generation with
  | none => .map [(.text "candidate", .nil)]
  | some generation =>
    .map [(.text "candidate", .nil), (.text "generation", .ofNat generation)]

/-- `wire_event/1`; `none` where it raises, as `@event_names` has no `wire_event`. -/
def wireEvent : Event → Option (String × Term)
  | .answer payload => some ("rtc.answer", answer payload)
  | .iceCandidate payload => some ("rtc.ice_candidate", iceCandidate payload)
  | .iceCandidatesComplete payload => some ("rtc.ice_candidate", iceCandidatesComplete payload)
  | .wireEvent name (.data value) => some (name, normalize (.ofJson value))
  | .wireEvent _ (.raw ..) => none
  | .browserEvent name (.data value) => some ("browser.event",
    .map [(.text "event", .text name), (.text "payload", normalize (.ofJson value))])
  | .browserEvent name (.raw payload decodeError) => some ("browser.event",
    normalize (.map [(.atom "name", .text name), (.atom "raw_payload", .text payload),
      (.atom "decode_error", .text decodeError)]))
  | .sessionAttached payload => some ("rtc.session.attached", normalize payload.term)
  | .conversation payload => some (updateName payload, normalize payload.term)
  | .transcriptCompleted payload =>
    some ("conversation.item.input_audio_transcription.completed",
      normalize (transcriptCompleted payload))
  | .responseCreated payload => some ("response.created", normalize payload.term)
  | .responseDone payload => some ("response.done", normalize payload.term)
  | .responseCancelled payload => some ("response.cancelled", normalize payload.term)
  | .signalingError payload => some ("rtc.signaling_error", normalize (errorEvent payload))
  | .error payload => some ("error", normalize (errorEvent payload))
  | .failed reason => some ("error", normalize (.map [(.atom "reason", reason)]))
  | .closed reason =>
    some ("rtc.session.closed", normalize (.map [(.atom "reason", .text reason)]))

/-- A term without raw bytes that are no text, and without pids. -/
def Clean : Term → Prop
  | .bytes b => (String.fromUTF8? b).isSome
  | .pid _ => False
  | .list items | .tuple items => ofItems items
  | .map members => ofMembers members
  | .struct fields => ofFields fields
  | _ => True
where
  ofItems : List Term → Prop
    | [] => True
    | item :: items => Clean item ∧ ofItems items
  ofMembers : List (Key × Term) → Prop
    | [] => True
    | (_, value) :: members => Clean value ∧ ofMembers members
  ofFields : List (String × Term) → Prop
    | [] => True
    | (_, value) :: fields => Clean value ∧ ofFields fields

section Maps

variable {key : Key} {value : Term} {members : List (Key × Term)} {k : String}

theorem put_subset (m : Key × Term) (member : m ∈ put key value members) :
    m = (key, value) ∨ m ∈ members := by
  induction members with
  | nil => exact .inl (List.mem_singleton.mp member)
  | cons first rest ih =>
    obtain ⟨other, old⟩ := first
    rw [put] at member
    split at member
    · rcases List.mem_cons.mp member with same | later
      · exact .inl same
      · exact .inr (List.mem_cons_of_mem _ later)
    · rcases List.mem_cons.mp member with rfl | later
      · exact .inr (List.mem_cons_self ..)
      · rcases ih later with same | old
        · exact .inl same
        · exact .inr (List.mem_cons_of_mem _ old)

theorem mapNew_subset (m : Key × Term) (member : m ∈ mapNew members) : m ∈ members := by
  -- A map that is being built holds only what has been put into it.
  have built : ∀ rest map : List (Key × Term),
      m ∈ rest.foldl (fun map member => put member.1 member.2 map) map → m ∈ map ∨ m ∈ rest := by
    intro rest
    induction rest with
    | nil => exact fun map member => .inl member
    | cons first rest ih =>
      intro map member
      rcases ih _ member with early | late
      · rcases put_subset m early with rfl | old
        · exact .inr (List.mem_cons_self ..)
        · exact .inl old
      · exact .inr (List.mem_cons_of_mem _ late)
  rcases built members [] member with absurd | member
  · cases absurd
  · exact member

theorem fetch_put : SpeechContext.fetch (put key value members) k =
    if key = .text k then some value else SpeechContext.fetch members k := by
  induction members with
  | nil => by_cases same : key = .text k <;> simp [put, SpeechContext.fetch, same]
  | cons first rest ih =>
    obtain ⟨other, old⟩ := first
    simp only [SpeechContext.fetch] at ih ⊢
    rw [put]
    split
    next replaced =>
      subst replaced
      by_cases same : other = .text k <;> simp [same]
    next kept =>
      by_cases found : other = .text k
      · have apart : key ≠ .text k := fun same => kept (found.trans same.symm)
        simp [found, apart]
      · simpa [found] using ih

/-- The last of several members with one key counts. -/
theorem fetch_mapNew :
    SpeechContext.fetch (mapNew members) k = SpeechContext.fetch members.reverse k := by
  -- By induction from the back: the last member has been put last.
  induction members using List.reverseRecOn with
  | nil => rfl
  | append_singleton members last ih =>
    have step : mapNew (members ++ [last]) = put last.1 last.2 (mapNew members) := by
      rw [mapNew, List.foldl_append]
      rfl
    rw [step, fetch_put, ih, List.reverse_append]
    by_cases same : last.1 = .text k <;> simp [SpeechContext.fetch, same]

theorem put_keys (m : Key) (member : m ∈ (put key value members).map Prod.fst) :
    m = key ∨ m ∈ members.map Prod.fst := by
  obtain ⟨entry, inside, rfl⟩ := List.mem_map.mp member
  rcases put_subset entry inside with rfl | old
  · exact .inl rfl
  · exact .inr (List.mem_map_of_mem old)

theorem put_nodup (distinct : (members.map Prod.fst).Nodup) :
    ((put key value members).map Prod.fst).Nodup := by
  induction members with
  | nil => simp [put]
  | cons first rest ih =>
    obtain ⟨other, old⟩ := first
    rw [List.map_cons, List.nodup_cons] at distinct
    rw [put]
    split
    next same =>
      rw [List.map_cons, List.nodup_cons, ← same]
      exact distinct
    next apart =>
      rw [List.map_cons, List.nodup_cons]
      refine ⟨fun member => ?_, ih distinct.2⟩
      rcases put_keys other member with same | later
      · exact apart same
      · exact distinct.1 later

theorem mapNew_nodup : ((mapNew members).map Prod.fst).Nodup := by
  have built : ∀ rest map : List (Key × Term), (map.map Prod.fst).Nodup →
      ((rest.foldl (fun map member => put member.1 member.2 map) map).map Prod.fst).Nodup := by
    intro rest
    induction rest with
    | nil => exact fun _ distinct => distinct
    | cons first rest ih => exact fun map distinct => ih _ (put_nodup distinct)
  exact built members [] List.nodup_nil

theorem put_new (apart : key ∉ members.map Prod.fst) :
    put key value members = members ++ [(key, value)] := by
  induction members with
  | nil => rfl
  | cons first rest ih =>
    obtain ⟨other, old⟩ := first
    rw [List.map_cons, List.mem_cons, not_or] at apart
    rw [put, if_neg (Ne.symm apart.1), ih apart.2, List.cons_append]

/-- Members with distinct keys are a map already. -/
theorem mapNew_eq (distinct : (members.map Prod.fst).Nodup) : mapNew members = members := by
  have built : ∀ rest map : List (Key × Term), ((map ++ rest).map Prod.fst).Nodup →
      rest.foldl (fun map member => put member.1 member.2 map) map = map ++ rest := by
    intro rest
    induction rest with
    | nil => exact fun map _ => (List.append_nil map).symm
    | cons first rest ih =>
      intro map distinct
      have apart : first.1 ∉ map.map Prod.fst := by
        rw [List.map_append, List.map_cons, List.nodup_append] at distinct
        exact fun member => distinct.2.2 _ member _ (List.mem_cons_self ..) rfl
      rw [List.foldl_cons, put_new apart, ih]
      · simp
      · simpa using distinct
  exact built members [] distinct

theorem fetch_compact (distinct : (members.map Prod.fst).Nodup) :
    SpeechContext.fetch (compact members) k =
      (SpeechContext.fetch members k).filter fun value => !value.isNil := by
  induction members with
  | nil => rfl
  | cons first rest ih =>
    obtain ⟨other, old⟩ := first
    rw [List.map_cons, List.nodup_cons] at distinct
    specialize ih distinct.2
    simp only [SpeechContext.fetch, compact, List.filter_cons] at ih ⊢
    by_cases found : other = .text k
    · -- The key occurs only once, so that nothing takes the place of a member that is dropped.
      have none : (rest.filter fun member => !member.2.isNil).find? (·.1 = .text k) = none := by
        rw [List.find?_eq_none]
        intro m member same
        have inside : m.1 ∈ rest.map Prod.fst := List.mem_map_of_mem (List.mem_filter.mp member).1
        rw [of_decide_eq_true same, ← found] at inside
        exact distinct.1 inside
      cases empty : old.isNil <;> simp [found, empty, none, Option.filter]
    · cases empty : old.isNil <;> simpa [found, empty] using ih

end Maps

theorem compact_cons (m : Key × Term) (members : List (Key × Term)) :
    compact (m :: members) = if m.2.isNil then compact members else m :: compact members := by
  cases empty : m.2.isNil <;> simp [compact, empty]

section Encoding

variable {key : Key} {value : Term} {members : List (Key × Term)} {items : List Term}
  {fields : List (String × Term)}

theorem normalize_items : normalize.ofItems items = items.map normalize := by
  induction items with
  | nil => rw [normalize.ofItems, List.map_nil]
  | cons item items ih => rw [normalize.ofItems, ih, List.map_cons]

theorem normalize_members (m : Key × Term) (member : m ∈ normalize.ofMembers members) :
    ∃ old ∈ members, m = (.text old.1.toString, normalize old.2) := by
  induction members with
  | nil => cases member
  | cons first rest ih =>
    rw [normalize.ofMembers] at member
    split at member
    · obtain ⟨old, inside, same⟩ := ih member
      exact ⟨old, List.mem_cons_of_mem _ inside, same⟩
    · rcases List.mem_cons.mp member with same | later
      · exact ⟨first, List.mem_cons_self .., same⟩
      · obtain ⟨old, inside, same⟩ := ih later
        exact ⟨old, List.mem_cons_of_mem _ inside, same⟩

theorem normalize_fields (m : Key × Term) (member : m ∈ normalize.ofFields fields) :
    ∃ old ∈ fields, m = (.text old.1, normalize old.2) := by
  induction fields with
  | nil => cases member
  | cons first rest ih =>
    rw [normalize.ofFields] at member
    split at member
    · obtain ⟨old, inside, same⟩ := ih member
      exact ⟨old, List.mem_cons_of_mem _ inside, same⟩
    · rcases List.mem_cons.mp member with same | later
      · exact ⟨first, List.mem_cons_self .., same⟩
      · obtain ⟨old, inside, same⟩ := ih later
        exact ⟨old, List.mem_cons_of_mem _ inside, same⟩

theorem encode_items : (encode.ofItems items).isSome ↔ ∀ item ∈ items, (encode item).isSome := by
  induction items with
  | nil => simp [encode.ofItems]
  | cons item items ih =>
    rw [List.forall_mem_cons, ← ih, encode.ofItems]
    cases encode item <;> cases encode.ofItems items <;> simp

theorem encode_members :
    (encode.ofMembers members).isSome ↔ ∀ m ∈ members, (encode m.2).isSome := by
  induction members with
  | nil => simp [encode.ofMembers]
  | cons member members ih =>
    obtain ⟨key, value⟩ := member
    rw [List.forall_mem_cons, ← ih, encode.ofMembers]
    cases encode value <;> cases encode.ofMembers members <;> simp

@[simp] theorem clean_items : Clean.ofItems items ↔ ∀ item ∈ items, Clean item := by
  induction items with
  | nil => simp [Clean.ofItems]
  | cons item items ih => rw [Clean.ofItems, ih, List.forall_mem_cons]

@[simp] theorem clean_members : Clean.ofMembers members ↔ ∀ m ∈ members, Clean m.2 := by
  induction members with
  | nil => simp [Clean.ofMembers]
  | cons member members ih => rw [Clean.ofMembers, ih, List.forall_mem_cons]

@[simp] theorem clean_fields : Clean.ofFields fields ↔ ∀ f ∈ fields, Clean f.2 := by
  induction fields with
  | nil => simp [Clean.ofFields]
  | cons field fields ih => rw [Clean.ofFields, ih, List.forall_mem_cons]

/-- A normalized map can be written if its members can. -/
theorem encode_compact (all : ∀ m ∈ members, (encode m.2).isSome) :
    (encode (.map (compact (mapNew members)))).isSome := by
  rw [encode, Option.isSome_map, encode_members]
  intro m member
  exact all m (mapNew_subset m (List.mem_filter.mp member).1)

/-- What is clean can be written once it is normalized. -/
theorem encode_normalize (term : Term) : Clean term → (encode (normalize term)).isSome := by
  induction term using Term.inside with
  | nil => exact fun _ => rfl
  | bool => exact fun _ => rfl
  | number => exact fun _ => rfl
  | atom => exact fun _ => rfl
  | text => exact fun _ => rfl
  | bytes b =>
    intro clean
    simp only [normalize, encode, Option.isSome_map]
    exact clean
  | pid => exact fun clean => clean.elim
  | list items ih =>
    intro clean
    rw [Clean, clean_items] at clean
    rw [normalize, normalize_items, encode, Option.isSome_map, encode_items]
    simpa using fun item member => ih item member (clean item member)
  | tuple items ih =>
    intro clean
    rw [Clean, clean_items] at clean
    rw [normalize, normalize_items, encode, Option.isSome_map, encode_items]
    simpa using fun item member => ih item member (clean item member)
  | map members ih =>
    intro clean
    rw [Clean, clean_members] at clean
    rw [normalize]
    refine encode_compact fun m member => ?_
    obtain ⟨old, inside, rfl⟩ := normalize_members m member
    exact ih old inside (clean old inside)
  | struct fields ih =>
    intro clean
    rw [Clean, clean_fields] at clean
    rw [normalize]
    refine encode_compact fun m member => ?_
    obtain ⟨old, inside, rfl⟩ := normalize_fields m member
    exact ih old inside (clean old inside)

end Encoding

end VoxRtc.Elixir.Gateway
