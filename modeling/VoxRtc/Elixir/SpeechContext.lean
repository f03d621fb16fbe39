import VoxRtc.Elixir.Vox

/-!
# Speech context

`VoxRtcServer.SpeechContext.decode/1`: the speech context of a transcript, from a protobuf
struct that the protobuf library has turned into a map.
-/
namespace VoxRtc.Elixir

open Wire

structure SpeechContextSpan where
  label : String
  startMs : Nat
  endMs : Nat

structure SpeechContextSoundSpan where
  label : String
  startMs : Nat
  endMs : Nat
  score : Finite64

inductive Track where
  | speaker
  | sounds
  deriving DecidableEq

inductive SpeechContextStatus where
  | complete
  | partly
  | failed
  deriving DecidableEq

structure SpeechContext where
  status : SpeechContextStatus
  emotions : Option (List SpeechContextSpan)
  vocal : Option (List SpeechContextSpan)
  sounds : Option (List SpeechContextSoundSpan)
  unavailable : Option (List Track)

namespace SpeechContext

/-- `Map.fetch/2` with a text. -/
def fetch (members : List (Key × Term)) (key : String) : Option Term :=
  (members.find? (·.1 = .text key)).map Prod.snd

inductive Parsed (α : Type) where
  | missing
  | invalid
  | ok (value : α)

def Parsed.isOk {α : Type} : Parsed α → Bool
  | ok _ => true
  | _ => false

def Parsed.isMissing {α : Type} : Parsed α → Bool
  | missing => true
  | _ => false

def Parsed.value? {α : Type} : Parsed α → Option α
  | ok value => some value
  | _ => none

def timestamp : Term → Option Nat
  | .number (.float x) => if 0 ≤ x.scaled ∧ x.isIntegral then some x.trunc.toNat else none
  | .number (.int n) => if 0 ≤ n then some n.toNat else none
  | _ => none

/-- A label that is not empty, and an end after the start. -/
def span? (members : List (Key × Term)) : Option SpeechContextSpan :=
  match fetch members "label", fetch members "start_ms", fetch members "end_ms" with
  | some (.text label), some startMs, some endMs => do
    let startMs ← timestamp startMs
    let endMs ← timestamp endMs
    if label ≠ "" ∧ startMs < endMs then some ⟨label, startMs, endMs⟩ else none
  | _, _, _ => none

/-- A number between zero and one, as a float. -/
def score? : Term → Option Finite64
  | .number (.int 0) => some ⟨false, 0, 0, Finite64.bounded_zero, Finite64.ranged_zero⟩
  | .number (.int 1) => some ⟨false, 1, 0, Finite64.bounded_one, Finite64.ranged_zero⟩
  | .number (.float x) => if 0 ≤ x.scaled ∧ x.scaled ≤ x.scale then some x else none
  | _ => none

def soundSpan? (members : List (Key × Term)) : Option SpeechContextSoundSpan := do
  let score ← score? (← fetch members "score")
  let span ← span? members
  return ⟨span.label, span.startMs, span.endMs, score⟩

/-- `parse_all/2`, for items that are maps. -/
def parseAll {α : Type} (parser : List (Key × Term) → Option α) (values : List Term) : Parsed (List α) :=
  match values.mapM fun value => match value with
    | .map members => parser members
    | _ => none with
  | some parsed => .ok parsed
  | none => .invalid

def listed {α : Type} (parse : List Term → Parsed α) : Option Term → Parsed α
  | none | some .nil => .missing
  | some (.list values) => parse values
  | some _ => .invalid

def track? : Term → Option Track
  | .text "speaker" => some .speaker
  | .text "sounds" => some .sounds
  | _ => none

def tracks (values : List Term) : Parsed (List Track) :=
  match values.mapM track? with
  | some parsed => if parsed.Nodup then .ok parsed else .invalid
  | none => .invalid

def status? : Term → Option SpeechContextStatus
  | .text "complete" => some .complete
  | .text "partial" => some .partly
  | .text "failed" => some .failed
  | _ => none

def isVersion : Term → Bool
  | .number (.int n) => n == 2
  | .number (.float x) => x.scaled == 2 * x.scale
  | _ => false

/-- `valid_shape?/6`; `named` says whether the map has the key `unavailable`. -/
def validShape (status : SpeechContextStatus) (emotions vocal : Parsed (List SpeechContextSpan))
    (sounds : Parsed (List SpeechContextSoundSpan)) (unavailable : Parsed (List Track))
    (named : Bool) : Bool :=
  match status, unavailable with
  | .complete, .missing => emotions.isOk && vocal.isOk && sounds.isOk && !named
  | .partly, .ok [.speaker] => emotions.isMissing && vocal.isMissing && sounds.isOk
  | .partly, .ok [.sounds] => emotions.isOk && vocal.isOk && sounds.isMissing
  | .failed, .ok tracks => emotions.isMissing && vocal.isMissing && sounds.isMissing &&
    tracks.contains .speaker && tracks.contains .sounds
  | _, _ => false

def decodeMap (members : List (Key × Term)) : Option SpeechContext := do
  let version ← fetch members "schema_version"
  let status ← status? (← fetch members "status")
  let emotions := listed (parseAll span?) (fetch members "emotions")
  let vocal := listed (parseAll span?) (fetch members "vocal")
  let sounds := listed (parseAll soundSpan?) (fetch members "sounds")
  let unavailable := listed tracks (fetch members "unavailable")
  if isVersion version ∧
      validShape status emotions vocal sounds unavailable (fetch members "unavailable").isSome then
    some ⟨status, emotions.value?, vocal.value?, sounds.value?, unavailable.value?⟩
  else none

end SpeechContext

def SpeechContextSpan.term (span : SpeechContextSpan) : Term :=
  .struct [("label", .text span.label), ("start_ms", .ofNat span.startMs),
    ("end_ms", .ofNat span.endMs)]

def SpeechContextSoundSpan.term (span : SpeechContextSoundSpan) : Term :=
  .struct [("label", .text span.label), ("start_ms", .ofNat span.startMs),
    ("end_ms", .ofNat span.endMs), ("score", .number (.float span.score))]

def Track.term : Track → Term
  | speaker => .atom "speaker"
  | sounds => .atom "sounds"

def SpeechContextStatus.term : SpeechContextStatus → Term
  | complete => .atom "complete"
  | partly => .atom "partial"
  | failed => .atom "failed"

def SpeechContext.term (context : SpeechContext) : Term :=
  .struct [("schema_version", .ofNat 2), ("status", context.status.term),
    ("emotions", .opt (fun spans => .list (spans.map (·.term))) context.emotions),
    ("vocal", .opt (fun spans => .list (spans.map (·.term))) context.vocal),
    ("sounds", .opt (fun spans => .list (spans.map (·.term))) context.sounds),
    ("unavailable", .opt (fun tracks => .list (tracks.map (·.term))) context.unavailable)]

end VoxRtc.Elixir
