import Mathlib.Data.List.Nodup
import VoxRtc.Elixir.Gateway.Survival
import VoxRtc.Wire.Same

/-!
# Payloads in the frames of the Elixir gateway

A JSON payload reaches the browser as it was if no member of an object in it is null; the
parameters of a response's output never do, as the gateway writes the protobuf struct.
-/
namespace VoxRtc.Elixir.Google.Protobuf

open Wire

namespace Value

/-- The JSON value that a value stands for, if it does for any. -/
def json : Value → Option (Json Number)
  | unset => none
  | null => some .null
  | number (.finite x) => some (.num (.float x))
  | number _ => none
  | string s => some (.str s)
  | bool b => some (.bool b)
  | struct fields => (members fields).map .obj
  | list values => (items values).map .arr
where
  members : List (String × Value) → Option (Members Number)
    | [] => some []
    | (key, value) :: fields => do return (key, ← json value) :: (← members fields)
  items : List Value → Option (List (Json Number))
    | [] => some []
    | value :: values => do return (← json value) :: (← items values)

end Value

def Struct.json (fields : Struct) : Option (Json Number) := (Value.json.members fields).map .obj

end VoxRtc.Elixir.Google.Protobuf

namespace VoxRtc.Elixir.Gateway

open Wire Vox Google.Protobuf

/-- What a JSON object is carried in. -/
inductive Carrier where
  | wireEvent (payload : RtcWireEvent)
  | browserEvent (payload : RtcClientEvent)
  | params (created : ConversationResponseCreated) (output : ConversationResponseOutput)
      (fields : Struct)

/-- What is found under some keys. -/
def child : Json Number → List String → Option (Json Number)
  | value, [] => some value
  | .obj members, key :: keys => (Members.get? members key).bind fun value => child value keys
  | _, _ => none

namespace Carrier

def message : Carrier → RtcControlServerMessage
  | wireEvent payload => some (.event payload)
  | browserEvent payload => some (.browserEvent payload)
  | params created output fields => some (.conversation (some (.responseCreated
    { created with output := some { output with params := some fields } })))

/-- The JSON value that is carried. -/
def carried (lib : Libraries) : Carrier → Option (Json Number)
  | wireEvent payload => (lib.decode payload.payloadJson).toOption
  | browserEvent payload => (lib.decode payload.payloadJson).toOption
  | params _ _ fields => fields.json

/-- Where the browser finds it in a frame. -/
def path : Carrier → List String
  | wireEvent _ => ["data"]
  | browserEvent _ => ["data", "payload"]
  | params .. => ["data", "output", "params"]

/-- What the browser finds there in the frame with some id. -/
def written (lib : Libraries) (id : Option String) (c : Carrier) : Option (Json Number) := do
  let decoded ← Protocol.decodeEvent lib c.message
  let (type, data) ← Gateway.wireEvent (delivered decoded)
  let frame ← text type data id
  child frame c.path

/-- A payload without members that are null. -/
def Kept (c : Carrier) (members : Members Number) : Prop :=
  match c with
  | wireEvent _ | browserEvent _ => (Json.obj members).Full
  | params .. => False

end Carrier

section Payloads

variable {lib : Libraries} {members : Members Number}

theorem nodup_text {α : Type} {members : List (String × α)} (f : α → Term)
    (keys : (members.map Prod.fst).Nodup) :
    ((members.map fun m => (Key.text m.1, f m.2)).map Prod.fst).Nodup := by
  have apart : ((members.map Prod.fst).map Key.text).Nodup :=
    List.Nodup.map (fun _ _ => Key.text.inj) keys
  rw [List.map_map] at apart ⊢
  exact apart

/-- A JSON value is written without the members that are null. -/
theorem encode_ofJson (value : Json Number) :
    value.Distinct → encode (normalize (.ofJson value)) = some value.strip := by
  induction value using Json.inside with
  | null => exact fun _ => rfl
  | bool => exact fun _ => rfl
  | num => exact fun _ => rfl
  | str => exact fun _ => rfl
  | arr items ih =>
    intro distinct
    rw [Json.Distinct] at distinct
    have all : encode.ofItems (items.map fun item => normalize (.ofJson item)) =
        some (Json.strip.ofItems items) := by
      induction items with
      | nil => rfl
      | cons item items rest =>
        rw [List.forall_mem_cons] at ih
        rw [List.map_cons, encode.ofItems, ih.1 distinct.1, rest ih.2 distinct.2]
        rfl
    rw [Term.ofJson, normalize, normalize_items, Term.ofItems_eq, List.map_map, encode]
    exact congrArg (Option.map Json.arr) all
  | obj members ih =>
    intro distinct
    rw [Json.Distinct] at distinct
    obtain ⟨keys, inside⟩ := distinct
    rw [normalize_obj, mapNew_eq (nodup_text (fun value => normalize (.ofJson value)) keys), encode, Json.strip]
    suffices same : encode.ofMembers
        (compact (members.map fun m => (.text m.1, normalize (.ofJson m.2)))) =
        some (Json.strip.ofMembers members) by rw [same]; rfl
    -- By induction on the members, of which those that are null disappear.
    clear keys
    induction members with
    | nil => rfl
    | cons member members rest =>
      obtain ⟨key, value⟩ := member
      rw [List.forall_mem_cons] at ih
      rw [List.map_cons, compact_cons, isNil_normalize, Json.strip.ofMembers]
      split
      · exact rest ih.2 inside.2
      · rw [encode.ofMembers, ih.1 inside.1, rest ih.2 inside.2]
        rfl

/-- What the browser finds in the data of a frame. -/
theorem child_text {data : Term} {value : Json Number} (type : String) (id : Option String)
    (keys : List String) (present : data.isNil = false) (encoded : encode data = some value) :
    ((text type data id).bind fun frame => child frame ("data" :: keys)) = child value keys := by
  have found (id : Option String) :
      Members.get? (header type id ++ [("data", value)]) "data" = some value := by
    cases id <;> rfl
  rw [text_eq, present, if_neg Bool.false_ne_true, encoded]
  simp only [Option.map_some, Option.bind_some, child, found]

theorem written_wireEvent {payload : RtcWireEvent} (id : Option String)
    (carried : lib.decode payload.payloadJson = .ok (.obj members))
    (distinct : (Json.obj members).Distinct) :
    (Carrier.wireEvent payload).written lib id = some (Json.obj members).strip := by
  have encoded := encode_ofJson (.obj members) distinct
  have present : (normalize (.ofJson (.obj members))).isNil = false := by
    rw [isNil_normalize]
    rfl
  have written := child_text payload.type id [] present encoded
  simpa [Carrier.written, Carrier.message, Protocol.decodeEvent, delivered, Protocol.content,
    carried, Gateway.wireEvent, Carrier.path, child] using written

theorem written_browserEvent {payload : RtcClientEvent} (id : Option String)
    (carried : lib.decode payload.payloadJson = .ok (.obj members))
    (distinct : (Json.obj members).Distinct) :
    (Carrier.browserEvent payload).written lib id = some (Json.obj members).strip := by
  have encoded : encode (.map [(.text "event", .text payload.event),
      (.text "payload", normalize (.ofJson (.obj members)))]) =
      some (.obj [("event", .str payload.event), ("payload", (Json.obj members).strip)]) := by
    rw [encode, encode.ofMembers, encode.ofMembers, encode_ofJson _ distinct]
    rfl
  have written := (child_text "browser.event" id ["payload"] rfl encoded).trans
    (show _ = some (Json.obj members).strip from rfl)
  simpa [Carrier.written, Carrier.message, Protocol.decodeEvent, delivered, Protocol.content,
    carried, Gateway.wireEvent, Carrier.path] using written

end Payloads

section Params

variable {fields : Struct} {members : Members Number}

/-- A value is heavier as the gateway writes it. -/
def Heavier (value : Value) : Prop :=
  ∀ j, value.json = some j → j.Distinct →
    ∃ r, encode (normalize value.term) = some r ∧ j.weight < r.weight

theorem encode_field {name : String} {content : Term} {r : Json Number}
    (other : name ≠ unknownFields) (present : (normalize content).isNil = false)
    (encoded : encode (normalize content) = some r) :
    encode (normalize (message [(name, content)])) = some (.obj [(name, r)]) := by
  have kept : compact [(.text name, normalize content)] = [(.text name, normalize content)] := by
    rw [compact_cons, present, if_neg Bool.false_ne_true]
    rfl
  have fields : normalize.ofFields ([(name, content)] ++ [("__unknown_fields__", .list [])]) =
      [(.text name, normalize content)] := by
    have hidden : "__unknown_fields__" = unknownFields := rfl
    rw [List.singleton_append, normalize.ofFields, if_neg other, normalize.ofFields,
      if_pos hidden, normalize.ofFields]
  have single : mapNew [(.text name, normalize content)] = [(.text name, normalize content)] := rfl
  rw [message, normalize, fields, single, kept, encode, encode.ofMembers, encoded]
  rfl

theorem encode_kind {name : String} {content : Term} {r : Json Number}
    (encoded : encode (normalize content) = some r) :
    encode (normalize (message [("kind", .tuple [.atom name, content])])) =
      some (.obj [("kind", .arr [.str name, r])]) := by
  refine encode_field (by decide) rfl ?_
  rw [normalize, normalize_items, encode]
  simp [encode.ofItems, normalize, encode, encoded]

theorem json_keys (stands : Value.json.members fields = some members) :
    members.map Prod.fst = fields.map Prod.fst := by
  induction fields generalizing members with
  | nil =>
    cases stands
    rfl
  | cons field fields ih =>
    obtain ⟨key, value⟩ := field
    simp only [Value.json.members, Option.bind_eq_bind, Option.bind_eq_some_iff] at stands
    obtain ⟨j, -, rest, found, same⟩ := stands
    cases same
    rw [List.map_cons, List.map_cons, ih found]

theorem isNil_value (value : Value) : (normalize value.term).isNil = false := by
  cases value <;> rfl

/-- The fields of a struct stand under a key of their own. -/
theorem encode_params (heavier : ∀ field ∈ fields, Heavier field.2)
    (stands : Value.json.members fields = some members) (distinct : (Json.obj members).Distinct) :
    ∃ rs, encode (normalize (Struct.term fields)) = some (.obj [("fields", .obj rs)]) ∧
      Json.weight.ofMembers members ≤ Json.weight.ofMembers rs := by
  have keys := distinct.1
  rw [json_keys stands] at keys
  have written : normalize (.map (Value.term.members fields)) =
      .map (fields.map fun field => (.text field.1, normalize field.2.term)) := by
    rw [normalize, Value.members_eq, normalize_text, mapNew_eq (nodup_text (fun value => normalize value.term) keys), compact,
      List.filter_eq_self.mpr]
    intro m member
    obtain ⟨field, -, rfl⟩ := List.mem_map.mp member
    rw [isNil_value]
    rfl
  suffices all : ∃ rs, encode.ofMembers
      (fields.map fun field => (.text field.1, normalize field.2.term)) = some rs ∧
      Json.weight.ofMembers members ≤ Json.weight.ofMembers rs by
    obtain ⟨rs, encoded, less⟩ := all
    refine ⟨rs, ?_, less⟩
    refine encode_field (by decide) (by rw [written]; rfl) ?_
    rw [written, encode, encoded]
    rfl
  replace distinct := distinct.2
  -- By induction on the fields.
  clear keys written
  induction fields generalizing members with
  | nil =>
    cases stands
    exact ⟨[], rfl, le_refl _⟩
  | cons field fields ih =>
    obtain ⟨key, value⟩ := field
    rw [List.forall_mem_cons] at heavier
    simp only [Value.json.members, Option.bind_eq_bind, Option.bind_eq_some_iff] at stands
    obtain ⟨j, found, rest, others, same⟩ := stands
    cases same
    obtain ⟨r, encoded, more⟩ := heavier.1 j found distinct.1
    obtain ⟨rs, encoded', more'⟩ := ih heavier.2 others distinct.2
    refine ⟨(key, r) :: rs, ?_, ?_⟩
    · rw [List.map_cons, encode.ofMembers, encoded, encoded']
      rfl
    · rw [Json.weight.ofMembers, Json.weight.ofMembers]
      omega

/-- The items of a list stand under a key of their own, too. -/
theorem encode_values {values : List Value} {items : List (Json Number)}
    (heavier : ∀ value ∈ values, Heavier value) (stands : Value.json.items values = some items)
    (distinct : Json.Distinct.ofItems items) :
    ∃ rs, encode.ofItems (values.map fun value => normalize value.term) = some rs ∧
      Json.weight.ofItems items ≤ Json.weight.ofItems rs := by
  induction values generalizing items with
  | nil =>
    cases stands
    exact ⟨[], rfl, le_refl _⟩
  | cons value values ih =>
    rw [List.forall_mem_cons] at heavier
    simp only [Value.json.items, Option.bind_eq_bind, Option.bind_eq_some_iff] at stands
    obtain ⟨j, found, rest, others, same⟩ := stands
    cases same
    obtain ⟨r, encoded, more⟩ := heavier.1 j found distinct.1
    obtain ⟨rs, encoded', more'⟩ := ih heavier.2 others distinct.2
    refine ⟨r :: rs, ?_, ?_⟩
    · rw [List.map_cons, encode.ofItems, encoded, encoded']
      rfl
    · rw [Json.weight.ofItems, Json.weight.ofItems]
      omega

/-- What a kind and a value weigh together. -/
theorem weight_kind (name : String) (r : Json Number) :
    (Json.obj [("kind", .arr [.str name, r])]).weight = 3 + r.weight := by
  simp [Json.weight, Json.weight.ofItems, Json.weight.ofMembers]
  omega

theorem heavier (value : Value) : Heavier value := by
  induction value using Value.inside with
  | unset =>
    intro j stands
    cases stands
  | null =>
    rintro j ⟨⟩ -
    exact ⟨_, encode_kind rfl, by rw [weight_kind]; simp [Json.weight]⟩
  -- JSON has no infinity and no nan.
  | number x =>
    intro j stands _
    cases x with
    | finite x =>
      cases stands
      exact ⟨_, encode_kind rfl, by rw [weight_kind]; simp [Json.weight]⟩
    | infinity negative => cases stands
    | nan => cases stands
  | string s =>
    rintro j ⟨⟩ -
    exact ⟨_, encode_kind rfl, by rw [weight_kind]; simp [Json.weight]⟩
  | bool b =>
    rintro j ⟨⟩ -
    exact ⟨_, encode_kind rfl, by rw [weight_kind]; simp [Json.weight]⟩
  | struct fields ih =>
    intro j stands distinct
    obtain ⟨members, found, rfl⟩ := Option.map_eq_some_iff.mp stands
    obtain ⟨rs, encoded, more⟩ := encode_params ih found distinct
    refine ⟨_, encode_kind encoded, ?_⟩
    rw [weight_kind]
    simp only [Json.weight, Json.weight.ofMembers]
    omega
  | list values ih =>
    intro j stands distinct
    obtain ⟨items, found, rfl⟩ := Option.map_eq_some_iff.mp stands
    obtain ⟨rs, encoded, more⟩ := encode_values ih found distinct
    have list : encode (normalize (.list (Value.term.items values))) = some (.arr rs) := by
      rw [normalize, normalize_items, Value.items_eq, List.map_map, encode]
      exact congrArg (Option.map Json.arr) encoded
    refine ⟨_, encode_kind (encode_field (by decide) rfl list), ?_⟩
    rw [weight_kind]
    simp only [Json.weight, Json.weight.ofMembers]
    omega

theorem encode_append (xs ys : List (Key × Term)) : encode.ofMembers (xs ++ ys) =
    (encode.ofMembers xs).bind fun a => (encode.ofMembers ys).map (a ++ ·) := by
  induction xs with
  | nil => simp [encode.ofMembers]
  | cons x xs ih =>
    rw [List.cons_append, encode.ofMembers, encode.ofMembers, ih]
    cases encode x.2 <;> cases encode.ofMembers xs <;> cases encode.ofMembers ys <;> rfl

/-- The parameters come last in the output. -/
theorem encode_output {r : Json Number} (output : ConversationResponseOutput)
    (present : (normalize (Struct.term fields)).isNil = false)
    (encoded : encode (normalize (Struct.term fields)) = some r) :
    ∃ rest, encode (normalize { output with params := some fields }.term) =
      some (.obj (rest ++ [("params", r)])) := by
  have listed : normalize.ofFields
      [("model", .opt .text output.model), ("voice", .opt .text output.voice),
        ("language", .opt .text output.language), ("speed", .opt .ofFloat output.speed),
        ("params", Struct.term fields), ("__unknown_fields__", .list [])] =
      [(.text "model", normalize (.opt .text output.model)),
        (.text "voice", normalize (.opt .text output.voice)),
        (.text "language", normalize (.opt .text output.language)),
        (.text "speed", normalize (.opt .ofFloat output.speed))] ++
      [(.text "params", normalize (Struct.term fields))] := by
    simp [normalize.ofFields, unknownFields]
  have last : compact [(.text "params", normalize (Struct.term fields))] =
      [(.text "params", normalize (Struct.term fields))] := by
    rw [compact_cons, present, if_neg Bool.false_ne_true]
    rfl
  -- The members before it can be written whatever they are.
  have before : (encode.ofMembers (compact
      [(.text "model", normalize (.opt .text output.model)),
        (.text "voice", normalize (.opt .text output.voice)),
        (.text "language", normalize (.opt .text output.language)),
        (.text "speed", normalize (.opt .ofFloat output.speed))])).isSome := by
    rw [encode_members]
    intro m member
    have inside := (List.mem_filter.mp member).1
    simp only [List.mem_cons, List.not_mem_nil, or_false] at inside
    rcases inside with rfl | rfl | rfl | rfl
    all_goals
      refine encode_normalize _ ?_
      simp [Clean]
  obtain ⟨rest, found⟩ := Option.isSome_iff_exists.mp before
  refine ⟨rest, ?_⟩
  change encode (normalize (.struct
    [("model", .opt .text output.model), ("voice", .opt .text output.voice),
      ("language", .opt .text output.language), ("speed", .opt .ofFloat output.speed),
      ("params", Struct.term fields), ("__unknown_fields__", .list [])])) = _
  rw [normalize, listed, mapNew_eq (by simp), compact, List.filter_append, ← compact, ← compact,
    last, encode, encode_append, found]
  simp [encode.ofMembers, encoded, Key.toString]

theorem written_params {r : Json Number} (created : ConversationResponseCreated)
    (output : ConversationResponseOutput) (lib : Libraries) (id : Option String)
    (present : (normalize (Struct.term fields)).isNil = false)
    (encoded : encode (normalize (Struct.term fields)) = some r) :
    (Carrier.params created output fields).written lib id = some r := by
  obtain ⟨rest, found⟩ := encode_output output present encoded
  have listed : normalize { created with
      output := some { output with params := some fields } }.term =
      .map [(.text "response_id", .text created.responseId),
        (.text "generation_id", .text created.generationId),
        (.text "output", normalize { output with params := some fields }.term),
        (.text "supersedes_generation_id", .text created.supersedesGenerationId)] := by
    obtain ⟨members, same⟩ := normalize_struct
      [("model", .opt .text output.model), ("voice", .opt .text output.voice),
        ("language", .opt .text output.language), ("speed", .opt .ofFloat output.speed),
        ("params", Struct.term fields), ("__unknown_fields__", .list [])]
    have shape : normalize { output with params := some fields }.term = .map members := same
    rw [shape]
    simp [ConversationResponseCreated.term, message, normalize, normalize.ofFields, unknownFields,
      Term.opt, shape, mapNew, put, compact, Term.isNil]
  have data : encode (.map [(.text "response_id", .text created.responseId),
      (.text "generation_id", .text created.generationId),
      (.text "output", normalize { output with params := some fields }.term),
      (.text "supersedes_generation_id", .text created.supersedesGenerationId)]) =
      some (.obj [("response_id", .str created.responseId),
        ("generation_id", .str created.generationId),
        ("output", .obj (rest ++ [("params", r)])),
        ("supersedes_generation_id", .str created.supersedesGenerationId)]) := by
    simp [encode, encode.ofMembers, found, Key.toString]
  have last : Members.get? (rest ++ [("params", r)]) "params" = some r := by
    simp [Members.get?]
  have written := child_text "response.created" id ["output", "params"] rfl data
  have inner : child (.obj [("response_id", .str created.responseId),
      ("generation_id", .str created.generationId),
      ("output", .obj (rest ++ [("params", r)])),
      ("supersedes_generation_id", .str created.supersedesGenerationId)]) ["output", "params"] =
      some r := by
    have output : Members.get? [("response_id", .str created.responseId),
        ("generation_id", .str created.generationId),
        ("output", .obj (rest ++ [("params", r)])),
        ("supersedes_generation_id", .str created.supersedesGenerationId)] "output" =
        some (.obj (rest ++ [("params", r)])) := rfl
    rw [child, output, Option.bind_some, child, last]
    rfl
  rw [inner, ← listed] at written
  exact written

end Params

/-- A JSON object reaches the browser as it was if it is a payload without members that are
null. -/
theorem carried_same_iff (lib : Libraries) (id : Option String) (c : Carrier)
    (members : Members Number) (carried : c.carried lib = some (.obj members))
    (distinct : (Json.obj members).Distinct) :
    (∃ value, c.written lib id = some value ∧ value.Same (.obj members)) ↔ c.Kept members := by
  cases c with
  | wireEvent payload =>
    have decoded : lib.decode payload.payloadJson = .ok (.obj members) := by
      cases found : lib.decode payload.payloadJson <;>
        simp_all [Carrier.carried, Except.toOption]
    rw [written_wireEvent id decoded distinct]
    simpa [Carrier.Kept] using Json.strip_same_iff (.obj members)
  | browserEvent payload =>
    have decoded : lib.decode payload.payloadJson = .ok (.obj members) := by
      cases found : lib.decode payload.payloadJson <;>
        simp_all [Carrier.carried, Except.toOption]
    rw [written_browserEvent id decoded distinct]
    simpa [Carrier.Kept] using Json.strip_same_iff (.obj members)
  | params created output fields =>
    obtain ⟨members, stands, same⟩ := Option.map_eq_some_iff.mp carried
    cases same
    obtain ⟨rs, encoded, more⟩ := encode_params (fun field _ => heavier field.2) stands distinct
    refine iff_of_false ?_ not_false
    rintro ⟨value, written, same⟩
    rw [written_params created output lib id rfl encoded] at written
    cases written
    have weights := same.weight
    simp only [Json.weight, Json.weight.ofMembers] at weights
    omega

def nullMember : String := "\x7b\"a\":null\x7d"

def nullItem : String := "\x7b\"a\":[null]\x7d"

def payloads : Libraries := Libraries.small.decoding
  [(nullMember, .obj [("a", .null)]), (nullItem, .obj [("a", .arr [.null])])]

/-- A payload with a member that is null, and parameters that are an empty object. -/
theorem carried_differs :
    (¬∃ value, (Carrier.browserEvent ⟨"chat", nullMember⟩).written payloads none = some value ∧
      value.Same (.obj [("a", .null)])) ∧
    ¬∃ value, (Carrier.params ⟨"r", "g", none, ""⟩ ⟨none, none, none, none, none⟩ []).written
      Libraries.small none = some value ∧ value.Same (.obj []) := by
  constructor
  · rintro ⟨value, written, same⟩
    cases written
    exact absurd same.weight (by decide)
  · rintro ⟨value, written, same⟩
    cases written
    exact absurd same.weight (by decide)

/-- A payload with an array, and a null in it. -/
theorem carried_same :
    ∃ value, (Carrier.wireEvent ⟨"chat", nullItem⟩).written payloads none = some value ∧
      value.Same (.obj [("a", .arr [.null])]) := by
  refine (carried_same_iff _ none (.wireEvent ⟨"chat", nullItem⟩) [("a", .arr [.null])] rfl ?_).mpr ?_
  · simp [Json.Distinct, Json.Distinct.ofMembers, Json.Distinct.ofItems]
  · simp [Carrier.Kept, Json.Full, Json.Full.ofMembers, Json.Full.ofItems, Json.isNull]

end VoxRtc.Elixir.Gateway
