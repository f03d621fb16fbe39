import VoxRtc.Transcripts.SpeechContext

/-!
# Validators written by hand

The TypeScript, Go and Python validators check a decoded value field by field, in the same
way up to the numbers they take and to what counts as an absent `unavailable`. They read the
format with the deviations that they tolerate.
-/
namespace VoxRtc.Transcripts

open Wire Grammar

variable {ν : Type}

/-- What the validators written by hand do differently. -/
structure Handwritten (ν : Type) where
  isVersion : ν → Bool
  /-- The integer that a number has to be as a time. -/
  time : ν → Option Int
  score : ν → Option ℚ
  absent : Option (Json ν) → Bool

namespace Handwritten

def span (h : Handwritten ν) (value : Json ν) : Option Span := do
  let record ← value.object?
  let label ← (record.get? "label").bind Json.str?
  let startMs ← ((record.get? "start_ms").bind Json.num?).bind h.time
  let endMs ← ((record.get? "end_ms").bind Json.num?).bind h.time
  if label = "" ∨ startMs < 0 ∨ endMs ≤ startMs then none
  else some ⟨label, startMs.toNat, endMs.toNat⟩

def soundSpan (h : Handwritten ν) (value : Json ν) : Option SoundSpan := do
  let span ← h.span value
  let record ← value.object?
  let score ← ((record.get? "score").bind Json.num?).bind h.score
  return ⟨span, score⟩

/-- An array whose items are all valid. -/
def list {α : Type} (item : Json ν → Option α) (field : Option (Json ν)) : Option (List α) := do
  let items ← field.bind Json.arr?
  items.mapM item

def tracks (field : Option (Json ν)) : Option (List Track) := do
  let tracks ← list (fun item => item.str?.bind Track.ofText) field
  if tracks.Nodup then some tracks else none

/-- The checks across the fields; `absent` says that there is no field `unavailable`. -/
def assemble (status : Status) (emotions vocal : Option (List Span))
    (sounds : Option (List SoundSpan)) (unavailable : Option (List Track)) (absent : Bool) :
    Option SpeechContext :=
  if status = .complete then
    if emotions.isNone ∨ vocal.isNone ∨ sounds.isNone ∨ ¬absent then none
    else some ⟨status, emotions, vocal, sounds, none⟩
  else match unavailable with
    | none => none
    | some unavailable =>
      if status = .failed ∧
          (unavailable.length ≠ 2 ∨ .speaker ∉ unavailable ∨ .sounds ∉ unavailable) then none
      else if status = .partly ∧ unavailable.length ≠ 1 then none
      else if (.speaker ∈ unavailable ∧ (emotions.isSome ∨ vocal.isSome)) ∨
          (.speaker ∉ unavailable ∧ (emotions.isNone ∨ vocal.isNone)) ∨
          (.sounds ∈ unavailable ∧ sounds.isSome) ∨
          (.sounds ∉ unavailable ∧ sounds.isNone) then none
      else some ⟨status, emotions, vocal, sounds, some unavailable⟩

def speechContext (h : Handwritten ν) (value : Json ν) : Option SpeechContext := do
  let record ← value.object?
  let version ← (record.get? "schema_version").bind Json.num?
  if h.isVersion version then
    let status ← ((record.get? "status").bind Json.str?).bind Status.ofText
    assemble status (list h.span (record.get? "emotions")) (list h.span (record.get? "vocal"))
      (list h.soundSpan (record.get? "sounds")) (tracks (record.get? "unavailable"))
      (h.absent (record.get? "unavailable"))
  else none

end Handwritten

/-- What becomes of the spans of a track, which must not be there when it is missing. -/
def held {α : Type} (missing : Bool) (spans : Option α) : Option (Option α) :=
  if missing then if spans.isSome then none else some none else spans.map some

/-- The tracks that a context names as unavailable. -/
def named (status : Status) (tracks : Option (List Track)) (absent : Bool) :
    Option (Option (List Track)) :=
  match status with
  | .complete => if absent then some none else none
  | .partly | .failed => tracks.bind fun tracks =>
    if tracks.length = (if status = .failed then 2 else 1) then some (some tracks) else none

/-- An integer that is not negative. -/
def natural (n : Int) : Option Nat := if n < 0 then none else some n.toNat

/-- A validator reads each number as the format does, with the forms it takes. -/
structure Handwritten.Reads (h : Handwritten ν) (decode : Literal → ν) (v : Validator) : Prop where
  version (l : Literal) :
    h.isVersion (decode l) = ((Format.version l).accept v.takes).isSome
  time (l : Literal) : (h.time (decode l)).bind natural = (Format.time l).accept v.takes
  score (l : Literal) : h.score (decode l) = Format.score l
  absent (field : Option (Json ν)) :
    h.absent field = field.all fun value => value.isNull && v.tolerates .nullUnavailable
  sequence : v.takes .sequence = false
  tagged : v.takes .tagged = false
  leftover (read : Option (List Form)) :
    v.tolerates (.leftover read) = !read.any (·.all v.takes)

namespace Handwritten.Reads

variable {h : Handwritten ν} {decode : Literal → ν} {v : Validator}

theorem fields (reads : h.Reads decode v) (names : List String) (value : Json Literal) :
    (Format.fields names value).accept v.takes = value.object? := by
  cases value with
  | arr items =>
    simp only [Format.fields]
    split <;> simp [Reading.accept_note, reads.sequence, Json.object?]
  | _ => rfl

theorem text (reads : h.Reads decode v) (value : Json Literal) :
    (Format.text value).accept v.takes = value.str? := by
  cases value with
  | obj members => simp [Format.text, Reading.accept_note, reads.tagged, Json.str?]
  | _ => rfl

theorem status (reads : h.Reads decode v) (field : Option (Json Literal)) :
    (Format.status field).accept v.takes = (field.bind Json.str?).bind Status.ofText := by
  simp [Format.status, reads.text, Option.bind_assoc]

/-- A list is read alike when its items are. -/
theorem list {α : Type} (item : Json ν → Option α) (form : Json Literal → Reading Form α)
    (items : ∀ value, item (value.mapNumbers decode) = (form value).accept v.takes)
    (field : Option (Json Literal)) :
    Handwritten.list item (field.map (Json.mapNumbers decode)) =
      (Format.list form field).accept v.takes := by
  cases field with
  | none => rfl
  | some value =>
    cases value with
    | arr values =>
      have same : (values.map (Json.mapNumbers decode)).mapM item =
          values.mapM fun value => (form value).accept v.takes := by
        rw [List.mapM_map]
        exact congrArg (values.mapM ·) (funext items)
      simpa [Handwritten.list, Format.list, Json.arr?, Json.mapNumbers, Json.ofItems_eq,
        Reading.accept_each] using same
    | _ => rfl

theorem tracks (reads : h.Reads decode v) (field : Option (Json Literal)) :
    Handwritten.tracks (field.map (Json.mapNumbers decode)) =
      (Format.tracks field).accept v.takes := by
  have items (value : Json Literal) : (value.mapNumbers decode).str?.bind Track.ofText =
      (Format.track value).accept v.takes := by
    simp [Format.track, reads.text]
  have listed := list (fun item => item.str?.bind Track.ofText) Format.track items field
  simp only [Handwritten.tracks, Format.tracks, Reading.accept_bind, listed]
  cases (Format.list Format.track field).accept v.takes with
  | none => rfl
  | some tracks => by_cases unique : tracks.Nodup <;> simp [unique]

/-- Comparing integers, once they are known not to be negative, compares naturals. -/
theorem natural_span (label : String) (startMs endMs : Option Int) :
    (startMs.bind fun startMs => endMs.bind fun endMs =>
      if label = "" ∨ startMs < 0 ∨ endMs ≤ startMs then none
      else some (Span.mk label startMs.toNat endMs.toNat)) =
    (startMs.bind natural).bind fun startMs => (endMs.bind natural).bind fun endMs =>
      if label ≠ "" ∧ startMs < endMs then some ⟨label, startMs, endMs⟩ else none := by
  cases startMs with
  | none => rfl
  | some startMs =>
    by_cases past : startMs < 0
    · cases endMs <;> simp [natural, past]
    · cases endMs with
      | none => simp
      | some endMs =>
        by_cases early : endMs < 0
        · have empty : endMs ≤ startMs := by omega
          simp [natural, past, early, empty]
        · simp only [natural, past, early, Option.bind_some, if_false, false_or, ne_eq]
          by_cases unnamed : label = ""
          · simp [unnamed]
          · simp only [unnamed, false_or, not_false_eq_true, true_and]
            split <;> split <;> first | rfl | omega

theorem spanOf (reads : h.Reads decode v) (members : Members Literal) :
    (do
      let label ← (members.get? "label").bind Json.str?
      let startMs ← (((members.get? "start_ms").bind Json.num?).map decode).bind h.time
      let endMs ← (((members.get? "end_ms").bind Json.num?).map decode).bind h.time
      if label = "" ∨ startMs < 0 ∨ endMs ≤ startMs then none
      else some (Span.mk label startMs.toNat endMs.toNat)) =
      (Format.spanOf members).accept v.takes := by
  simp only [Format.spanOf, Reading.accept_bind, Reading.accept_ofOption]
  cases (members.get? "label").bind Json.str? with
  | none => rfl
  | some label =>
    refine (natural_span label _ _).trans ?_
    cases (members.get? "start_ms").bind Json.num? with
    | none => rfl
    | some startMs =>
      simp only [Option.map_some, Option.bind_some, reads.time]
      cases (Format.time startMs).accept v.takes with
      | none => rfl
      | some startMs =>
        cases (members.get? "end_ms").bind Json.num? with
        | none => rfl
        | some endMs =>
          simp only [Option.map_some, Option.bind_some, reads.time]
          cases (Format.time endMs).accept v.takes with
          | none => rfl
          | some endMs =>
            simp only [Option.bind_some]
            split <;> rfl

theorem span (reads : h.Reads decode v) (value : Json Literal) :
    h.span (value.mapNumbers decode) = (Format.span value).accept v.takes := by
  simp only [Format.span, Reading.accept_bind, reads.fields, ← reads.spanOf]
  cases found : value.object? with
  | none => simp [Handwritten.span, found]
  | some members =>
    simp [Handwritten.span, found, Option.bind_map, Option.map_bind]

theorem soundSpan (reads : h.Reads decode v) (value : Json Literal) :
    h.soundSpan (value.mapNumbers decode) = (Format.soundSpan value).accept v.takes := by
  simp only [Format.soundSpan, Handwritten.soundSpan, Reading.accept_bind, Reading.accept_ofOption,
    reads.span, Format.span, reads.fields]
  cases found : value.object? with
  | none => rfl
  | some members =>
    simp only [Json.object?_mapNumbers, found, Option.map_some, Option.bind_some,
      Option.bind_eq_bind, Members.get?_mapNumbers]
    cases (Format.spanOf members).accept v.takes with
    | none => rfl
    | some span =>
      cases score : members.get? "score" with
      | none => simp
      | some value =>
        cases number : value.num? with
        | none => simp [number]
        | some l => simp [number, reads.score]

theorem tolerates_form (v : Validator) : (fun f => v.tolerates (.form f)) = v.takes := by
  cases v <;> rfl

theorem part {α : Type} (reads : h.Reads decode v) (form : Json Literal → Reading Form α)
    (missing : Bool) (field : Option (Json Literal)) :
    (Format.part form missing field).accept v.tolerates =
      held missing ((Format.list form field).accept v.takes) := by
  cases missing with
  | false => simp [Format.part, held, tolerates_form, Option.map_eq_bind]
  | true =>
    have read := Reading.accept_isSome v.takes (Format.list form field)
    simp only [Format.part, held, if_true]
    by_cases empty : field.all Json.isNull
    · have unread : (Format.list form field).accept v.takes = none := by
        cases field with
        | none => rfl
        | some value => cases value <;> first | rfl | cases empty
      simp [empty, unread]
    · rw [if_neg empty]
      simp only [Reading.accept_bind, Reading.accept_note, Reading.accept_pure, reads.leftover,
        ← read]
      cases (Format.list form field).accept v.takes <;> rfl

theorem unavailable (reads : h.Reads decode v) (status : Status) (field : Option (Json Literal)) :
    (Format.unavailable status field).accept v.tolerates =
      named status ((Format.tracks field).accept v.takes)
        (h.absent (field.map (Json.mapNumbers decode))) := by
  cases status with
  | complete =>
    cases field with
    | none => simp [Format.unavailable, named, reads.absent]
    | some value =>
      by_cases null : value.isNull <;>
        simp [Format.unavailable, named, reads.absent, null, Reading.accept_note]
      split <;> simp_all
  | partly =>
    simp [Format.unavailable, named, tolerates_form]
  | failed =>
    simp [Format.unavailable, named, tolerates_form]

/-- The checks across the fields, part by part. -/
theorem assemble_eq (status : Status) (emotions vocal : Option (List Span))
    (sounds : Option (List SoundSpan)) (tracks : Option (List Track)) (absent : Bool)
    (unique : ∀ ts, tracks = some ts → ts.Nodup) :
    assemble status emotions vocal sounds tracks absent =
      (named status tracks absent).bind fun unavailable =>
        (held (.speaker ∈ unavailable.getD []) emotions).bind fun emotions =>
          (held (.speaker ∈ unavailable.getD []) vocal).bind fun vocal =>
            (held (.sounds ∈ unavailable.getD []) sounds).bind fun sounds =>
              some ⟨status, emotions, vocal, sounds, unavailable⟩ := by
  -- A status fixes how many tracks there may be, and only lists of that length pass.
  cases status with
  | complete =>
    cases absent with
    | false => simp [assemble, named]
    | true => cases emotions <;> cases vocal <;> cases sounds <;> simp [assemble, named, held]
  | partly =>
    cases tracks with
    | none => simp [assemble, named]
    | some ts =>
      match ts with
      | [] => simp [assemble, named]
      | [t] =>
        cases t <;> cases emotions <;> cases vocal <;> cases sounds <;>
          simp [assemble, named, held]
      | _ :: _ :: _ => simp [assemble, named]
  | failed =>
    cases tracks with
    | none => simp [assemble, named]
    | some ts =>
      match ts with
      | [] => simp [assemble, named]
      | [_] => simp [assemble, named]
      | [t, u] =>
        have differ := unique _ rfl
        cases t <;> cases u <;> cases emotions <;> cases vocal <;> cases sounds <;>
          simp [assemble, named, held] at differ ⊢
      | _ :: _ :: _ :: _ => simp [assemble, named]

theorem tracks_nodup {field : Option (Json ν)} {ts : List Track}
    (found : Handwritten.tracks field = some ts) : ts.Nodup := by
  obtain ⟨listed, _, checked⟩ := Option.bind_eq_some_iff.mp found
  split at checked
  next unique =>
    cases checked
    exact unique
  · cases checked

/-- A document is read as the format says, unless a number is out of range. -/
theorem speechContext (reads : h.Reads decode v) (doc : Json Literal)
    (ranged : doc.allNumbers Literal.inRange = true ∨ v.tolerates .overflow = true) :
    h.speechContext (doc.mapNumbers decode) = (Format.speechContext doc).accept v.tolerates := by
  have entered : (Format.ranged doc).accept v.tolerates = some () := by
    rcases ranged with ranged | ranged <;> simp [Format.ranged, ranged]
  simp only [Format.speechContext, Reading.accept_bind, Reading.accept_pure, entered,
    Option.bind_some, Reading.accept_relabel, tolerates_form, reads.fields,
    Reading.accept_ofOption, reads.status, reads.unavailable, reads.part]
  cases found : doc.object? with
  | none => simp [Handwritten.speechContext, found]
  | some members =>
    simp only [Handwritten.speechContext, Json.object?_mapNumbers, found, Option.map_some,
      Option.bind_some, Option.bind_eq_bind, Members.get?_mapNumbers]
    have assembled (status : Status) := assemble_eq status
      ((Format.list Format.span (members.get? "emotions")).accept v.takes)
      ((Format.list Format.span (members.get? "vocal")).accept v.takes)
      ((Format.list Format.soundSpan (members.get? "sounds")).accept v.takes)
      ((Format.tracks (members.get? "unavailable")).accept v.takes)
      (h.absent ((members.get? "unavailable").map (Json.mapNumbers decode)))
      (fun ts found => tracks_nodup ((reads.tracks _).trans found))
    simp only [list h.span Format.span reads.span, list h.soundSpan Format.soundSpan reads.soundSpan,
      reads.tracks, assembled]
    cases members.get? "schema_version" with
    | none => rfl
    | some value =>
      simp only [Option.map_some, Option.bind_some, Json.num?_mapNumbers]
      cases value.num? with
      | none => rfl
      | some l =>
        simp only [Option.map_some, Option.bind_some, reads.version]
        cases (Format.version l).accept v.takes with
        | none => rfl
        | some _ => cases members.get? "status" <;> simp

end Handwritten.Reads

/-! Numbers that a decoder turns into doubles. -/

section Doubles

variable {takes : Form → Bool}

theorem strictEq_two (x : Finite64) :
    (Binary64.finite x).strictEq (.ofCount 2) = decide (x.scaled = 2 * x.scale) := by
  obtain ⟨two, count, scaled, scale⟩ := Binary64.ofCount_finite 2
  have counted : Binary64.counted 2 = 2 := rfl
  simp only [count, Binary64.strictEq, scaled, scale, counted, mul_one]
  rfl

theorem double_version (float : takes .floatVersion = true) (l : Literal) :
    l.double.strictEq (.ofCount 2) = ((Format.version l).accept takes).isSome := by
  cases l with
  | int n =>
    rcases ofInt_cases n with ⟨_, x, found, value, one⟩ | ⟨wide, past⟩
    · simp only [Literal.double, found, strictEq_two, value, one, Format.version]
      by_cases two : n = 2 <;> simp [two]
    · have other : n ≠ 2 := by omega
      simp only [Literal.double, Format.version, other, if_false, Reading.accept_fail]
      cases found : Binary64.ofInt n with
      | finite x =>
        obtain ⟨one, far⟩ := past x found
        have other : x.scaled ≠ 2 * x.scale := by omega
        simp [strictEq_two, other]
      | infinity negative => rfl
      | nan => rfl
  | negativeZero => rfl
  | float x =>
    simp only [Literal.double, strictEq_two, Format.version]
    by_cases two : x.scaled = 2 * x.scale <;> simp [two, float]
  | overflow negative => rfl

theorem double_score (l : Literal) :
    (l.double.finite?.bind fun score =>
      if score.ltInt 0 || score.gtInt 1 then none else some score.toRat) = Format.score l := by
  cases l with
  | int n =>
    rcases ofInt_cases n with ⟨_, x, found, value, one⟩ | ⟨wide, past⟩
    · simp only [Literal.double, found, Binary64.finite?, Option.bind_some, Format.score,
        Finite64.ltInt, Finite64.gtInt, Finite64.toRat, value, one]
      by_cases unit : 0 ≤ n ∧ n ≤ 1
      · have inside : ¬(n < 0 ∨ 1 < n) := by omega
        simp [unit, inside]
      · have outside : n < 0 ∨ 1 < n := by omega
        simp [unit, outside]
    · have outside : ¬(0 ≤ n ∧ n ≤ 1) := by omega
      simp only [Literal.double, Format.score, outside, if_false]
      cases found : Binary64.ofInt n with
      | finite x =>
        obtain ⟨one, far⟩ := past x found
        have far' : x.scaled < 0 ∨ 1 < x.scaled := by omega
        simp [Binary64.finite?, Finite64.ltInt, Finite64.gtInt, one, far']
      | infinity negative => rfl
      | nan => rfl
  | negativeZero =>
    have zero : (Finite64.zero true).scaled = 0 := rfl
    simp [Literal.double, Binary64.finite?, Format.score, Finite64.ltInt, Finite64.gtInt,
      Finite64.toRat, zero, Finite64.scale]
  | float x => rfl
  | overflow negative => rfl

/-- A double is a time when it is an integer that is safe and not negative. -/
theorem double_time (safe : Finite64 → Option Int)
    (naturals : ∀ x, (safe x).bind natural =
      if x.isIntegral ∧ 0 ≤ x.trunc ∧ x.trunc ≤ maxSafeInteger then some x.trunc.toNat else none)
    (float : takes .floatTime = true) (zero : takes .negativeZeroTime = true)
    (wide : takes .wideTime = false) (huge : takes .hugeTime = false) (l : Literal) :
    (l.double.finite?.bind safe).bind natural = (Format.time l).accept takes := by
  have whole {x : Finite64} (one : x.scale = 1) : x.isIntegral = true ∧ x.trunc = x.scaled := by
    simp [Finite64.isIntegral, Finite64.trunc, one]
  cases l with
  | int n =>
    -- A small integer is exact as a double; a large one stays large.
    rcases ofInt_cases n with ⟨small, x, found, value, one⟩ | ⟨large, past⟩
    · obtain ⟨integral, trunc⟩ := whole one
      simp only [Literal.double, found, Binary64.finite?, Option.bind_some, naturals, integral,
        trunc, value, true_and, Format.time, maxSafeInteger]
      by_cases past : n < 0
      · simp [past]
      · have inside : 0 ≤ n ∧ n ≤ (9007199254740991 : Nat) := by omega
        have below : n < 2 ^ 53 := by omega
        rw [if_pos inside, if_neg past, if_pos below]
        rfl
    -- What is too large, or negative, is no time for the format either.
    · have rejected : (Format.time (.int n)).accept takes = none := by
        have above : ¬n < 2 ^ 53 ∨ n < 0 := by omega
        by_cases past : n < 0 <;> by_cases bits : n < 2 ^ 64 <;>
          simp_all [Format.time]
      rw [rejected]
      simp only [Literal.double]
      cases found : Binary64.ofInt n with
      | finite x =>
        obtain ⟨one, far⟩ := past x found
        obtain ⟨integral, trunc⟩ := whole one
        have outside : ¬(0 ≤ x.scaled ∧ x.scaled ≤ (maxSafeInteger : Int)) := by
          simp only [maxSafeInteger]
          omega
        simp only [Binary64.finite?, Option.bind_some, naturals, integral, trunc, true_and, outside,
          if_false]
      | infinity negative => rfl
      | nan => rfl
  | negativeZero =>
    obtain ⟨integral, trunc⟩ := whole (x := .zero true) rfl
    have zero' : (Finite64.zero true).scaled = 0 := rfl
    simp [Literal.double, Binary64.finite?, naturals, integral, trunc, zero', Format.time, zero]
  | float x =>
    simp only [Literal.double, Binary64.finite?, Option.bind_some, naturals, Format.time]
    split <;> simp [float]
  | overflow negative => rfl

end Doubles

end VoxRtc.Transcripts
