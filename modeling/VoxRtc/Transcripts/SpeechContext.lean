import VoxRtc.Grammar.Reading
import VoxRtc.Wire.Literal

/-!
# The speech context of a transcript

What the server SDKs deliver, and the format they read it from: the form that all of them
take, and the deviations that only some of them tolerate. Times are naturals here and scores
rationals, whatever the numbers of the language.
-/
namespace VoxRtc.Transcripts

open Wire Grammar

variable {ν μ : Type}

structure Span where
  label : String
  startMs : Nat
  endMs : Nat
  deriving DecidableEq, Repr

structure SoundSpan where
  span : Span
  score : ℚ
  deriving DecidableEq, Repr

inductive Track where
  | speaker
  | sounds
  deriving DecidableEq, Repr

def Track.ofText : String → Option Track
  | "speaker" => some speaker
  | "sounds" => some sounds
  | _ => none

inductive Status where
  | complete
  | partly
  | failed
  deriving DecidableEq, Repr

def Status.ofText : String → Option Status
  | "complete" => some complete
  | "partial" => some partly
  | "failed" => some failed
  | _ => none

/-- A speech context; its schema version is always 2. -/
structure SpeechContext where
  status : Status
  emotions : Option (List Span)
  vocal : Option (List Span)
  sounds : Option (List SoundSpan)
  unavailable : Option (List Track)
  deriving DecidableEq, Repr

inductive Validator where
  | typescript
  | rust
  | go
  | python
  deriving DecidableEq, Repr

/-- Ways to write a part of a speech context that some validators reject. -/
inductive Form where
  /-- An array of the fields in order, for an object. -/
  | sequence
  /-- An object such as `{"complete": null}`, for a text. -/
  | tagged
  /-- The schema version with a fraction or an exponent, as in `2.0`. -/
  | floatVersion
  /-- A time with a fraction or an exponent, as in `1e3`. -/
  | floatTime
  /-- The time `-0`. -/
  | negativeZeroTime
  /-- A time past the safe integers, of 64 bits at most. -/
  | wideTime
  /-- A time of more than 64 bits. -/
  | hugeTime
  deriving DecidableEq, Repr

inductive Deviation where
  | form (f : Form)
  /-- A number beyond the doubles, in whatever place. -/
  | overflow
  /-- A complete context in which `unavailable` is null. -/
  | nullUnavailable
  /-- An unavailable track has a value all the same; `read` holds the forms of its spans,
  if it is spans. -/
  | leftover (read : Option (List Form))
  deriving DecidableEq, Repr

def Validator.takes : Validator → Form → Bool
  | typescript, .floatVersion | typescript, .floatTime | typescript, .negativeZeroTime => true
  | go, .floatVersion | go, .floatTime | go, .negativeZeroTime => true
  | rust, .sequence | rust, .tagged | rust, .wideTime => true
  | python, .floatVersion | python, .negativeZeroTime => true
  | python, .wideTime | python, .hugeTime => true
  | _, _ => false

/-- A leftover passes when the validator cannot read it: only Rust rejects it then. -/
def Validator.tolerates : Validator → Deviation → Bool
  | v, .form f => v.takes f
  | typescript, .overflow | python, .overflow => true
  | rust, .nullUnavailable | go, .nullUnavailable => true
  | rust, .leftover _ => false
  | v, .leftover read => !read.any (·.all v.takes)
  | _, _ => false

/-- An enum without fields, as an object: one key, with null. -/
def unitTag (members : Members ν) : Option String :=
  match members.getLast? with
  | some (key, value) => if value.isNull ∧ members.all (·.1 == key) then some key else none
  | none => none

/-! The format, with all its deviations. -/

namespace Format

def fields (names : List String) : Json Literal → Reading Form (Members Literal)
  | .obj members => pure members
  | .arr items =>
    if items.length ≤ names.length then do
      Reading.note .sequence
      return names.zip items
    else Reading.fail
  | _ => Reading.fail

def text : Json Literal → Reading Form String
  | .str s => pure s
  | .obj members => do
    let key ← Reading.ofOption (unitTag members)
    Reading.note .tagged
    return key
  | _ => Reading.fail

def version : Literal → Reading Form Unit
  | .int n => if n = 2 then pure () else Reading.fail
  | .float x => if x.scaled = 2 * x.scale then Reading.note .floatVersion else Reading.fail
  | _ => Reading.fail

def time : Literal → Reading Form Nat
  | .int n =>
    if n < 0 then Reading.fail
    else if n < 2 ^ 53 then pure n.toNat
    else if n < 2 ^ 64 then do
      Reading.note .wideTime
      return n.toNat
    else do
      Reading.note .hugeTime
      return n.toNat
  | .negativeZero => do
    Reading.note .negativeZeroTime
    return 0
  | .float x =>
    if x.isIntegral ∧ 0 ≤ x.trunc ∧ x.trunc ≤ maxSafeInteger then do
      Reading.note .floatTime
      return x.trunc.toNat
    else Reading.fail
  | .overflow _ => Reading.fail

/-- A number between zero and one. -/
def score : Literal → Option ℚ
  | .int n => if 0 ≤ n ∧ n ≤ 1 then some n else none
  | .negativeZero => some 0
  | .float x => if x.ltInt 0 || x.gtInt 1 then none else some x.toRat
  | .overflow _ => none

def spanFields : List String := ["label", "start_ms", "end_ms"]

def contextFields : List String :=
  ["schema_version", "status", "emotions", "vocal", "sounds", "unavailable"]

/-- A label that is not empty, and an end after the start. -/
def spanOf (members : Members Literal) : Reading Form Span := do
  let label ← Reading.ofOption ((members.get? "label").bind Json.str?)
  let startMs ← Reading.ofOption ((members.get? "start_ms").bind Json.num?)
  let startMs ← time startMs
  let endMs ← Reading.ofOption ((members.get? "end_ms").bind Json.num?)
  let endMs ← time endMs
  if label ≠ "" ∧ startMs < endMs then return ⟨label, startMs, endMs⟩ else Reading.fail

def span (value : Json Literal) : Reading Form Span := do
  let members ← fields spanFields value
  spanOf members

def soundSpan (value : Json Literal) : Reading Form SoundSpan := do
  let members ← Reading.ofOption value.object?
  let span ← spanOf members
  let score ← Reading.ofOption (((members.get? "score").bind Json.num?).bind score)
  return ⟨span, score⟩

def list {α : Type} (item : Json Literal → Reading Form α) (field : Option (Json Literal)) :
    Reading Form (List α) := do
  let items ← Reading.ofOption (field.bind Json.arr?)
  Reading.each item items

def track (value : Json Literal) : Reading Form Track := do
  let text ← text value
  Reading.ofOption (Track.ofText text)

def tracks (field : Option (Json Literal)) : Reading Form (List Track) := do
  let tracks ← list track field
  if tracks.Nodup then return tracks else Reading.fail

def status (field : Option (Json Literal)) : Reading Form Status := do
  let value ← Reading.ofOption field
  let text ← text value
  Reading.ofOption (Status.ofText text)

/-- The tracks that a context of this status must name. -/
def unavailable (status : Status) (field : Option (Json Literal)) :
    Reading Deviation (Option (List Track)) :=
  match status with
  | .complete => match field with
    | none => pure none
    | some value =>
      if value.isNull then do
        Reading.note .nullUnavailable
        return none
      else Reading.fail
  | .partly | .failed => do
    let tracks ← (tracks field).relabel .form
    if tracks.length = (if status = .failed then 2 else 1) then return some tracks
    else Reading.fail

/-- The spans of a track, unless it is missing. -/
def part {α : Type} (item : Json Literal → Reading Form α) (missing : Bool)
    (field : Option (Json Literal)) : Reading Deviation (Option (List α)) :=
  if missing then
    if field.all Json.isNull then pure none
    else do
      Reading.note (.leftover (list item field).notes?)
      return none
  else do
    let spans ← (list item field).relabel .form
    return some spans

def ranged (doc : Json Literal) : Reading Deviation Unit :=
  if doc.allNumbers Literal.inRange then pure () else Reading.note .overflow

def speechContext (doc : Json Literal) : Reading Deviation SpeechContext := do
  ranged doc
  let members ← (fields contextFields doc).relabel .form
  let number ← Reading.ofOption ((members.get? "schema_version").bind Json.num?)
  (version number).relabel .form
  let status ← (status (members.get? "status")).relabel .form
  let unavailable ← unavailable status (members.get? "unavailable")
  let missing := unavailable.getD []
  let emotions ← part span (.speaker ∈ missing) (members.get? "emotions")
  let vocal ← part span (.speaker ∈ missing) (members.get? "vocal")
  let sounds ← part soundSpan (.sounds ∈ missing) (members.get? "sounds")
  return ⟨status, emotions, vocal, sounds, unavailable⟩

theorem speechContext_outOfRange {v : Validator} {doc : Json Literal}
    (outside : ¬doc.allNumbers Literal.inRange = true) (strict : v.tolerates .overflow = false) :
    (speechContext doc).accept v.tolerates = none := by
  simp [speechContext, ranged, outside, strict]

end Format

end VoxRtc.Transcripts
