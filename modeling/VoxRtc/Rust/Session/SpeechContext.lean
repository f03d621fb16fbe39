import VoxRtc.Transcripts.Handwritten

/-!
# Speech context of the Rust server SDK

The derived deserialization of `SpeechContext` and its `is_valid`, in
`rust/rtcserver/src/types.rs`, over a `serde_json` value. No message arrives when a number
of it is out of range.
-/
namespace VoxRtc.Rust.Session

open Wire Grammar Transcripts

variable {α β γ : Type}

abbrev SerdeValue := Json SerdeNumber

structure SpeechContextSoundSpan where
  span : Span
  score : Binary64

/-- A speech context as it is deserialized. -/
structure DerivedContext where
  schemaVersion : Nat
  status : Status
  emotions : Option (List Span)
  vocal : Option (List Span)
  sounds : Option (List SpeechContextSoundSpan)
  unavailable : Option (List Track)

namespace Derive

def u64 : SerdeValue → Option Nat
  | .num (.posInt n _) => some n
  | _ => none

def u8 (value : SerdeValue) : Option Nat := (u64 value).filter (· < 256)

def f64 : SerdeValue → Option Binary64
  | .num (.posInt n _) => some (.ofInt n)
  | .num (.negInt n _) => some (.ofInt n)
  | .num (.float x) => some (.finite x)
  | _ => none

/-- A struct is an object, or an array of its fields in order. -/
def struct {ν : Type} (names : List String) : Json ν → Option (Members ν)
  | .obj members => some members
  | .arr items => if items.length ≤ names.length then some (names.zip items) else none
  | _ => none

/-- A variant without fields is its name, or an object from its name to null. -/
def variant {ν : Type} : Json ν → Option String
  | .str s => some s
  | .obj members => unitTag members
  | _ => none

def spanFields (members : Members SerdeNumber) : Option Span := do
  let label ← (members.get? "label").bind Json.str?
  let startMs ← (members.get? "start_ms").bind u64
  let endMs ← (members.get? "end_ms").bind u64
  return ⟨label, startMs, endMs⟩

def span (value : SerdeValue) : Option Span := (struct Format.spanFields value).bind spanFields

/-- A struct with a flattened field has to be an object. -/
def soundSpan (value : SerdeValue) : Option SpeechContextSoundSpan := do
  let members ← value.object?
  let span ← spanFields members
  let score ← (members.get? "score").bind f64
  return ⟨span, score⟩

def track (value : SerdeValue) : Option Track := (variant value).bind Track.ofText

def status (value : SerdeValue) : Option Status := (variant value).bind Status.ofText

def vec (item : SerdeValue → Option α) (value : SerdeValue) : Option (List α) :=
  value.arr?.bind (·.mapM item)

/-- A field with a default, which may be null. -/
def optional (item : SerdeValue → Option α) (field : Option SerdeValue) : Option (Option α) :=
  match field with
  | none => some none
  | some value => if value.isNull then some none else (item value).map some

def speechContext (value : SerdeValue) : Option DerivedContext := do
  let members ← struct Format.contextFields value
  let schemaVersion ← (members.get? "schema_version").bind u8
  let status ← (members.get? "status").bind status
  let emotions ← optional (vec span) (members.get? "emotions")
  let vocal ← optional (vec span) (members.get? "vocal")
  let sounds ← optional (vec soundSpan) (members.get? "sounds")
  let unavailable ← optional (vec track) (members.get? "unavailable")
  return ⟨schemaVersion, status, emotions, vocal, sounds, unavailable⟩

end Derive

def spanValid (span : Span) : Bool := span.label ≠ "" && span.startMs < span.endMs

def soundValid (sound : SpeechContextSoundSpan) : Bool :=
  spanValid sound.span && match sound.score with
    | .finite x => !(x.ltInt 0 || x.gtInt 1)
    | _ => false

/-- `SpeechContext::is_valid`. -/
def DerivedContext.isValid (c : DerivedContext) : Bool :=
  let unavailable := c.unavailable.getD []
  if c.schemaVersion ≠ 2 ∨ ¬c.emotions.all (·.all spanValid) ∨ ¬c.vocal.all (·.all spanValid) ∨
      ¬c.sounds.all (·.all soundValid) then false
  else if ¬unavailable.Nodup then false
  else match c.status with
    | .complete => c.emotions.isSome && c.vocal.isSome && c.sounds.isSome && c.unavailable.isNone
    | .partly =>
      unavailable.length == 1 &&
        decide (.speaker ∈ unavailable) == c.emotions.isNone &&
        decide (.speaker ∈ unavailable) == c.vocal.isNone &&
        decide (.sounds ∈ unavailable) == c.sounds.isNone
    | .failed =>
      unavailable.length == 2 && decide (.speaker ∈ unavailable) && decide (.sounds ∈ unavailable) &&
        c.emotions.isNone && c.vocal.isNone && c.sounds.isNone

def SpeechContextSoundSpan.delivered (sound : SpeechContextSoundSpan) : SoundSpan :=
  ⟨sound.span, (sound.score.finite?.map Finite64.toRat).getD 0⟩

def DerivedContext.delivered (c : DerivedContext) : SpeechContext :=
  ⟨c.status, c.emotions, c.vocal, c.sounds.map (·.map (·.delivered)), c.unavailable⟩

/-- The speech context delivered for a value as it is written. -/
def speechContext (doc : Json Literal) : Option SpeechContext :=
  if doc.allNumbers Literal.inRange then
    ((Derive.speechContext (doc.mapNumbers Literal.serde)).filter (·.isValid)).map (·.delivered)
  else none

/-! Each part of a value is deserialized and valid when the format reads it with the forms that
Rust takes. -/

abbrev takes : Form → Bool := Validator.rust.takes

theorem struct_mapNumbers (names : List String) (value : Json Literal) :
    Derive.struct names (value.mapNumbers Literal.serde) =
      ((Format.fields names value).accept takes).map
        (·.map fun member => (member.1, member.2.mapNumbers Literal.serde)) := by
  cases value with
  | arr items =>
    simp only [Json.mapNumbers, Json.ofItems_eq, Derive.struct, Format.fields, List.length_map]
    by_cases fits : items.length ≤ names.length
    · simp [fits, Validator.takes, List.zip_map_right]
    · simp [fits]
  | obj members => simp [Json.mapNumbers, Json.ofMembers_eq, Derive.struct, Format.fields]
  | _ => rfl

theorem unitTag_mapNumbers (members : Members Literal) :
    unitTag (members.map fun member => (member.1, member.2.mapNumbers Literal.serde)) =
      unitTag members := by
  unfold unitTag
  rw [List.getLast?_map]
  cases members.getLast? with
  | none => rfl
  | some member =>
    have keys : (members.map fun m => (m.1, m.2.mapNumbers Literal.serde)).all (·.1 == member.1) =
        members.all (·.1 == member.1) := by
      rw [List.all_map]
      rfl
    simp only [Option.map_some, Json.isNull_mapNumbers, keys]

theorem variant_mapNumbers (value : Json Literal) :
    Derive.variant (value.mapNumbers Literal.serde) = (Format.text value).accept takes := by
  cases value with
  | obj members =>
    simp only [Json.mapNumbers, Json.ofMembers_eq, Derive.variant, unitTag_mapNumbers, Format.text]
    cases unitTag members <;> simp [Validator.takes]
  | _ => rfl

theorem u64_ofDouble (x : Binary64) : Derive.u64 (.num (Literal.serde.ofDouble x)) = none := by
  cases x <;> rfl

theorem u64_serde (l : Literal) :
    Derive.u64 (.num l.serde) = (Format.time l).accept takes := by
  cases l with
  | int n =>
    simp only [Literal.serde, Format.time]
    by_cases past : n < 0
    · have negative : ¬(0 ≤ n ∧ n < 2 ^ 64) := by omega
      rw [dif_neg negative, if_pos past]
      split
      · rfl
      · exact u64_ofDouble _
    · rw [if_neg past]
      by_cases fits : 0 ≤ n ∧ n < 2 ^ 64
      · rw [dif_pos fits]
        by_cases small : n < 2 ^ 53
        · rw [if_pos small]
          rfl
        · rw [if_neg small, if_pos fits.2]
          rfl
      · have negative : ¬(-2 ^ 63 ≤ n ∧ n < 0) := by omega
        have wide : ¬n < 2 ^ 53 := by omega
        have huge : ¬n < 2 ^ 64 := by omega
        rw [dif_neg fits, dif_neg negative, if_neg wide, if_neg huge]
        exact u64_ofDouble _
  | negativeZero => rfl
  | float x =>
    simp only [Literal.serde, u64_ofDouble, Format.time]
    split <;> simp [Validator.takes]
  | overflow negative => rfl

/-- A score as `f64`, when it is finite and between zero and one. -/
def unitScore : Binary64 → Option ℚ
  | .finite x => if x.ltInt 0 || x.gtInt 1 then none else some x.toRat
  | _ => none

theorem unitScore_double (l : Literal) : unitScore l.double = Format.score l := by
  rw [← double_score l]
  cases l.double <;> rfl

theorem f64_ofDouble {x y : Binary64} (number : Derive.f64 (.num (Literal.serde.ofDouble x)) = some y) :
    unitScore y = unitScore x := by
  have large (negative : Bool) : unitScore (.finite (.largest negative)) = none := by
    cases negative <;> decide +kernel
  cases x with
  | finite x =>
    cases number
    rfl
  | infinity negative =>
    cases number
    exact large negative
  | nan =>
    cases number
    exact large false

/-- `f64` takes every number. -/
theorem f64_serde (l : Literal) :
    ∃ x, Derive.f64 (.num l.serde) = some x ∧ unitScore x = Format.score l := by
  have total (n : SerdeNumber) : ∃ x, Derive.f64 (.num n) = some x := by
    cases n <;> exact ⟨_, rfl⟩
  obtain ⟨x, found⟩ := total l.serde
  refine ⟨x, found, ?_⟩
  rw [← unitScore_double]
  cases l with
  | int n =>
    simp only [Literal.serde] at found
    split at found
    next fits =>
      cases found
      rw [Int.toNat_of_nonneg fits.1]
      rfl
    · split at found
      · cases found
        rfl
      · exact f64_ofDouble found
  | negativeZero => exact f64_ofDouble found
  | float x => exact f64_ofDouble found
  | overflow negative => exact f64_ofDouble found

theorem spanFields_valid (members : Members Literal) :
    (Derive.spanFields (members.map fun m => (m.1, m.2.mapNumbers Literal.serde))).filter spanValid =
      (Format.spanOf members).accept takes := by
  have u64 (field : Option (Json Literal)) : (field.map (Json.mapNumbers Literal.serde)).bind Derive.u64 =
      (field.bind Json.num?).bind fun l => (Format.time l).accept takes := by
    cases field with
    | none => rfl
    | some value =>
      cases value with
      | num l => exact u64_serde l
      | _ => rfl
  simp only [Derive.spanFields, Format.spanOf, Members.get?_mapNumbers, u64, Reading.accept_bind,
    Reading.accept_ofOption]
  cases members.get? "label" with
  | none => rfl
  | some value =>
    simp only [Option.map_some, Option.bind_some, Json.str?_mapNumbers]
    cases value.str? with
    | none => rfl
    | some label =>
      cases (members.get? "start_ms").bind Json.num? with
      | none => rfl
      | some startMs =>
        simp only [Option.bind_some, Option.bind_eq_bind]
        cases (Format.time startMs).accept takes with
        | none => rfl
        | some startMs =>
          cases (members.get? "end_ms").bind Json.num? with
          | none => rfl
          | some endMs =>
            simp only [Option.bind_some]
            cases (Format.time endMs).accept takes with
            | none => rfl
            | some endMs =>
              have same : spanValid ⟨label, startMs, endMs⟩ =
                  decide (label ≠ "" ∧ startMs < endMs) := by
                simp [spanValid]
              by_cases valid : label ≠ "" ∧ startMs < endMs <;> simp [Option.filter, same, valid]

theorem span_valid (value : Json Literal) :
    (Derive.span (value.mapNumbers Literal.serde)).filter spanValid =
      (Format.span value).accept takes := by
  simp only [Derive.span, struct_mapNumbers, Format.span, Reading.accept_bind]
  cases (Format.fields Format.spanFields value).accept takes with
  | none => rfl
  | some members => exact spanFields_valid members

/-- What a valid item delivers. -/
def checked (good : α → Bool) (deliver : α → β) (found : Option α) : Option β :=
  found.bind fun item => if good item then some (deliver item) else none

theorem soundValid_eq (span : Span) (x : Binary64) :
    (if soundValid ⟨span, x⟩ then some (SpeechContextSoundSpan.delivered ⟨span, x⟩) else none) =
      if spanValid span then (unitScore x).map (SoundSpan.mk span) else none := by
  cases x with
  | finite x =>
    simp only [soundValid, unitScore, SpeechContextSoundSpan.delivered, Binary64.finite?]
    by_cases valid : spanValid span <;> by_cases unit : x.ltInt 0 || x.gtInt 1 <;>
      simp [valid, unit]
  | infinity negative => simp [soundValid, unitScore]
  | nan => simp [soundValid, unitScore]

theorem soundSpan_valid (value : Json Literal) :
    checked soundValid (·.delivered) (Derive.soundSpan (value.mapNumbers Literal.serde)) =
      (Format.soundSpan value).accept takes := by
  simp only [checked, Derive.soundSpan, Format.soundSpan, Json.object?_mapNumbers,
    Reading.accept_bind, Reading.accept_ofOption, ← spanFields_valid]
  cases value.object? with
  | none => rfl
  | some members =>
    simp only [Option.map_some, Option.bind_some, Option.bind_eq_bind, Members.get?_mapNumbers]
    cases Derive.spanFields (members.map fun m => (m.1, m.2.mapNumbers Literal.serde)) with
    | none => rfl
    | some span =>
      cases members.get? "score" with
      | none => cases valid : spanValid span <;> simp [Option.filter, valid]
      | some value =>
        cases value with
        | num l =>
          obtain ⟨x, found, score⟩ := f64_serde l
          have number : Derive.f64 ((Json.num l).mapNumbers Literal.serde) = some x := found
          simp only [Option.map_some, Option.bind_some, number, Option.pure_def, soundValid_eq, score]
          cases valid : spanValid span <;> cases known : Format.score l <;>
            simp [Option.filter, valid, known, Json.num?]
        | _ =>
          cases valid : spanValid span <;>
            simp [Option.filter, valid, Json.mapNumbers, Derive.f64, Json.num?]

theorem mapM_checked (item : α → Option β) (good : β → Bool) (deliver : β → γ) (xs : List α) :
    checked (·.all good) (·.map deliver) (xs.mapM item) =
      xs.mapM fun x => checked good deliver (item x) := by
  induction xs with
  | nil => rfl
  | cons x xs ih =>
    simp only [List.mapM_cons, checked, Option.bind_eq_bind, Option.pure_def] at ih ⊢
    rw [← ih]
    cases item x with
    | none => rfl
    | some y =>
      cases xs.mapM item with
      | none => cases first : good y <;> simp [first]
      | some ys =>
        simp only [Option.bind_some, List.all_cons, List.map_cons]
        cases good y <;> cases ys.all good <;> rfl

/-- A field as it is deserialized, with the items it delivers when they are all valid. -/
def checkedField (item : SerdeValue → Option α) (good : α → Bool) (deliver : α → β)
    (field : Option SerdeValue) : Option (Option (List β)) := do
  let found ← Derive.optional (Derive.vec item) field
  match found with
  | none => some none
  | some items => (checked (·.all good) (·.map deliver) (some items)).map some

theorem part_valid {item : SerdeValue → Option α} {good : α → Bool} {deliver : α → β}
    {form : Json Literal → Reading Form β}
    (items : ∀ value, checked good deliver (item (value.mapNumbers Literal.serde)) =
      (form value).accept takes)
    (missing : Bool) (field : Option (Json Literal)) :
    (Format.part form missing field).accept Validator.rust.tolerates =
      (checkedField item good deliver (field.map (Json.mapNumbers Literal.serde))).bind fun found =>
        if found.isNone = missing then some found else none := by
  -- A field that is missing or null is no list, and leaves the part unset.
  have empty (field : Option (Json Literal)) (null : field.all Json.isNull) :
      (Format.list form field).accept takes = none ∧
        checkedField item good deliver (field.map (Json.mapNumbers Literal.serde)) = some none := by
    cases field with
    | none => exact ⟨rfl, rfl⟩
    | some value => cases value <;> first | exact ⟨rfl, rfl⟩ | cases null
  -- A list is read item by item, and each item was dealt with.
  have full (value : Json Literal) (present : value.isNull = false) :
      checkedField item good deliver (some (value.mapNumbers Literal.serde)) =
        ((Format.list form (some value)).accept takes).map some := by
    cases value with
    | null => cases present
    | arr values =>
      have listed : (values.map (Json.mapNumbers Literal.serde)).mapM
            (fun value => checked good deliver (item value)) =
          values.mapM fun value => (form value).accept takes := by
        rw [List.mapM_map]
        exact congrArg (values.mapM ·) (funext items)
      rw [← mapM_checked] at listed
      simp only [Json.mapNumbers, Json.ofItems_eq, checkedField, Derive.optional, Derive.vec,
        Json.arr?, Json.isNull, Format.list, Reading.accept_bind, Reading.accept_ofOption,
        Reading.accept_each, ← listed, Option.bind_some, Bool.false_eq_true, if_false]
      cases (values.map (Json.mapNumbers Literal.serde)).mapM item <;> rfl
    | _ => rfl
  have strict (f : Form) : Validator.rust.tolerates (.form f) = takes f := rfl
  by_cases null : field.all Json.isNull
  · obtain ⟨unread, unset⟩ := empty field null
    cases missing <;> simp [Format.part, null, unread, unset, strict]
  · cases field with
    | none => simp at null
    | some value =>
      have present : value.isNull = false := by simpa using null
      simp only [Option.map_some, full value present]
      cases missing with
      | false =>
        simp only [Format.part, Bool.false_eq_true, if_false, Reading.accept_bind,
          Reading.accept_relabel, strict, Reading.accept_pure]
        cases (Format.list form (some value)).accept takes <;> rfl
      | true =>
        -- What is left over where the part has to be missing is never tolerated.
        have untolerated (read : Option (List Form)) :
            Validator.rust.tolerates (.leftover read) = false := rfl
        simp only [Format.part, if_true, Option.all_some, present, Bool.false_eq_true, if_false,
          Reading.accept_bind, Reading.accept_note, untolerated]
        cases (Format.list form (some value)).accept takes <;> rfl

/-- The tracks of a context, once they are deserialized. -/
def namedTracks (status : Status) (tracks : Option (List Track)) : Option (Option (List Track)) :=
  match status, tracks with
  | .complete, none => some none
  | .complete, some _ | .partly, none | .failed, none => none
  | .partly, some tracks => if tracks.Nodup ∧ tracks.length = 1 then some (some tracks) else none
  | .failed, some tracks => if tracks.Nodup ∧ tracks.length = 2 then some (some tracks) else none

theorem tracks_valid (value : Json Literal) :
    (Format.tracks (some value)).accept takes =
      (Derive.vec Derive.track (value.mapNumbers Literal.serde)).bind fun tracks =>
        if tracks.Nodup then some tracks else none := by
  have track (value : Json Literal) : (Format.track value).accept takes =
      Derive.track (value.mapNumbers Literal.serde) := by
    simp [Format.track, Derive.track, variant_mapNumbers]
  simp only [Format.tracks, Format.list, Derive.vec, Reading.accept_bind, Reading.accept_ofOption,
    Reading.accept_each, track, Json.arr?_mapNumbers, Option.bind_some]
  cases value.arr? with
  | none => rfl
  | some items =>
    simp only [Option.map_some, Option.bind_some, List.mapM_map]
    have same : (items.mapM fun x => Derive.track (x.mapNumbers Literal.serde)) =
      items.mapM (Derive.track ∘ Json.mapNumbers Literal.serde) := rfl
    rw [same]
    cases items.mapM (Derive.track ∘ Json.mapNumbers Literal.serde) with
    | none => rfl
    | some tracks => by_cases unique : tracks.Nodup <;> simp [unique]

theorem unavailable_valid (status : Status) (field : Option (Json Literal)) :
    (Format.unavailable status field).accept Validator.rust.tolerates =
      (Derive.optional (Derive.vec Derive.track) (field.map (Json.mapNumbers Literal.serde))).bind
        (namedTracks status) := by
  have strict (f : Form) : Validator.rust.tolerates (.form f) = takes f := rfl
  cases field with
  | none => cases status <;> rfl
  | some value =>
    simp only [Option.map_some, Derive.optional, Json.isNull_mapNumbers]
    by_cases null : value.isNull
    · have value' : value = .null := by
        cases value <;> first | rfl | cases null
      subst value'
      cases status <;> rfl
    · simp only [null, Bool.false_eq_true, if_false]
      cases status with
      | complete =>
        have rejected : (Format.unavailable .complete (some value)).accept
            Validator.rust.tolerates = none := by
          simp [Format.unavailable, null]
        rw [rejected]
        cases Derive.vec Derive.track (value.mapNumbers Literal.serde) <;> rfl
      | partly | failed =>
        simp only [Format.unavailable, Reading.accept_bind, Reading.accept_relabel, strict,
          tracks_valid, reduceCtorEq, if_true, if_false, Reading.accept_ite, Reading.accept_pure,
          Reading.accept_fail]
        cases Derive.vec Derive.track (value.mapNumbers Literal.serde) with
        | none => rfl
        | some tracks => by_cases unique : tracks.Nodup <;> simp [namedTracks, unique]

theorem namedTracks_same {status : Status} {tracks unavailable : Option (List Track)}
    (found : namedTracks status tracks = some unavailable) : unavailable = tracks := by
  cases status <;> cases tracks <;> simp only [namedTracks, Option.some.injEq, reduceCtorEq,
    Option.ite_none_right_eq_some] at found
  · exact found.symm
  · exact found.2.symm
  · exact found.2.symm

/-- The checks of `is_valid` across the fields ask for the tracks that the status needs, and for
spans of exactly the other tracks. -/
theorem consistent_eq (status : Status) (noEmotions noVocal noSounds : Bool)
    (tracks : Option (List Track)) :
    (decide (tracks.getD []).Nodup && match status with
      | .complete => !noEmotions && !noVocal && !noSounds && tracks.isNone
      | .partly =>
        (tracks.getD []).length == 1 &&
          decide (.speaker ∈ tracks.getD []) == noEmotions &&
          decide (.speaker ∈ tracks.getD []) == noVocal &&
          decide (.sounds ∈ tracks.getD []) == noSounds
      | .failed =>
        (tracks.getD []).length == 2 && decide (.speaker ∈ tracks.getD []) &&
          decide (.sounds ∈ tracks.getD []) && noEmotions && noVocal && noSounds) =
    (namedTracks status tracks).any fun unavailable =>
      noEmotions == decide (.speaker ∈ unavailable.getD []) &&
        noVocal == decide (.speaker ∈ unavailable.getD []) &&
        noSounds == decide (.sounds ∈ unavailable.getD []) := by
  -- A status names no track, one or both; the lists of these lengths can be gone through.
  cases status with
  | complete =>
    cases tracks <;> cases noEmotions <;> cases noVocal <;> cases noSounds <;> simp [namedTracks]
  | partly =>
    cases tracks with
    | none => simp [namedTracks]
    | some ts =>
      match ts with
      | [] => simp [namedTracks]
      | [t] =>
        cases t <;> cases noEmotions <;> cases noVocal <;> cases noSounds <;> simp [namedTracks]
      | _ :: _ :: _ => simp [namedTracks]
  | failed =>
    cases tracks with
    | none => simp [namedTracks]
    | some ts =>
      match ts with
      | [] => simp [namedTracks]
      | [_] => simp [namedTracks]
      | [t, u] =>
        cases t <;> cases u <;> cases noEmotions <;> cases noVocal <;> cases noSounds <;>
          simp [namedTracks]
      | _ :: _ :: _ :: _ => simp [namedTracks]

theorem isValid_eq (c : DerivedContext) :
    c.isValid = (decide (c.schemaVersion = 2) && c.emotions.all (·.all spanValid) &&
      c.vocal.all (·.all spanValid) && c.sounds.all (·.all soundValid) &&
      (namedTracks c.status c.unavailable).any fun unavailable =>
        c.emotions.isNone == decide (.speaker ∈ unavailable.getD []) &&
          c.vocal.isNone == decide (.speaker ∈ unavailable.getD []) &&
          c.sounds.isNone == decide (.sounds ∈ unavailable.getD [])) := by
  rw [← consistent_eq]
  unfold DerivedContext.isValid
  by_cases version : c.schemaVersion = 2
  · by_cases unique : (c.unavailable.getD []).Nodup
    · cases c.emotions.all (·.all spanValid) <;> cases c.vocal.all (·.all spanValid) <;>
        cases c.sounds.all (·.all soundValid) <;>
        simp [version, unique]
    · simp [version, unique]
  · simp [version]

theorem checkedField_eq {item : SerdeValue → Option α} {good : α → Bool} {deliver : α → β}
    {field : Option SerdeValue} {found : Option (List α)}
    (read : Derive.optional (Derive.vec item) field = some found) :
    checkedField item good deliver field =
      if found.all (·.all good) then some (found.map (·.map deliver)) else none := by
  cases found with
  | none => simp [checkedField, read]
  | some items =>
    simp only [checkedField, checked, read, Option.bind_eq_bind, Option.bind_some, Option.all_some]
    by_cases valid : items.all good
    · rw [if_pos valid, if_pos valid]
      rfl
    · rw [if_neg valid, if_neg valid]
      rfl

/-- Keeps a field that is absent exactly when its track is missing. -/
def kept (missing : Bool) (found : Option α) : Option (Option α) :=
  if found.isNone = missing then some found else none

/-- The checks on the parts, taken together or one after the other. -/
theorem delivered_parts (version : Nat) (status : Status) (emotions vocal : Option (List Span))
    (sounds : Option (List SpeechContextSoundSpan)) (unavailable : Option (List Track))
    (emotionsValid vocalValid soundsValid noSpeaker noSounds : Bool) :
    Option.map DerivedContext.delivered
      (if decide (version = 2) && emotionsValid && vocalValid && soundsValid &&
          (emotions.isNone == noSpeaker && vocal.isNone == noSpeaker && sounds.isNone == noSounds) then
        some ⟨version, status, emotions, vocal, sounds, unavailable⟩
      else none) =
    if version = 2 then
      (if emotionsValid then some (emotions.map (·.map id)) else none).bind fun emotions =>
        (kept noSpeaker emotions).bind fun emotions =>
          (if vocalValid then some (vocal.map (·.map id)) else none).bind fun vocal =>
            (kept noSpeaker vocal).bind fun vocal =>
              (if soundsValid then some (sounds.map (·.map (·.delivered))) else none).bind fun sounds =>
                (kept noSounds sounds).bind fun sounds =>
                  some ⟨status, emotions, vocal, sounds, unavailable⟩
    else none := by
  by_cases two : version = 2
  · cases emotionsValid with
    | false => simp
    | true =>
      by_cases noEmotions : emotions.isNone = noSpeaker
      · cases vocalValid with
        | false => simp
        | true =>
          by_cases noVocal : vocal.isNone = noSpeaker
          · cases soundsValid with
            | false => simp
            | true =>
              by_cases none' : sounds.isNone = noSounds <;>
                simp [two, kept, noEmotions, noVocal, none', DerivedContext.delivered]
          · simp [kept, noVocal]
      · simp [kept, noEmotions]
  · simp [two]

/-- A context is delivered field by field. -/
theorem delivered_eq (value : SerdeValue) :
    ((Derive.speechContext value).filter (·.isValid)).map (·.delivered) = (do
      let members ← Derive.struct Format.contextFields value
      let version ← (members.get? "schema_version").bind Derive.u8
      if version = 2 then
        let status ← (members.get? "status").bind Derive.status
        let tracks ← Derive.optional (Derive.vec Derive.track) (members.get? "unavailable")
        let unavailable ← namedTracks status tracks
        let emotions ← checkedField Derive.span spanValid id (members.get? "emotions")
        let emotions ← kept (.speaker ∈ unavailable.getD []) emotions
        let vocal ← checkedField Derive.span spanValid id (members.get? "vocal")
        let vocal ← kept (.speaker ∈ unavailable.getD []) vocal
        let sounds ← checkedField Derive.soundSpan soundValid (·.delivered) (members.get? "sounds")
        let sounds ← kept (.sounds ∈ unavailable.getD []) sounds
        some ⟨status, emotions, vocal, sounds, unavailable⟩
      else none) := by
  -- Both sides read the fields; those that fail to be read fail on both.
  unfold Derive.speechContext
  cases Derive.struct Format.contextFields value with
  | none => rfl
  | some members =>
    simp only [Option.bind_eq_bind, Option.bind_some]
    cases (members.get? "schema_version").bind Derive.u8 with
    | none => rfl
    | some version =>
      cases (members.get? "status").bind Derive.status with
      | none => simp
      | some status =>
        cases emotionsRead : Derive.optional (Derive.vec Derive.span) (members.get? "emotions") with
        | none => simp [checkedField, emotionsRead]
        | some emotions =>
          cases vocalRead : Derive.optional (Derive.vec Derive.span) (members.get? "vocal") with
          | none => simp [checkedField, vocalRead]
          | some vocal =>
            cases soundsRead :
              Derive.optional (Derive.vec Derive.soundSpan) (members.get? "sounds") with
            | none => simp [checkedField, soundsRead]
            | some sounds =>
              cases Derive.optional (Derive.vec Derive.track) (members.get? "unavailable") with
              | none => simp
              | some tracks =>
                simp only [Option.bind_some, checkedField_eq emotionsRead,
                  checkedField_eq vocalRead, checkedField_eq soundsRead, Option.pure_def,
                  Option.filter, isValid_eq]
                cases named : namedTracks status tracks with
                | none => simp
                | some unavailable =>
                  cases namedTracks_same named
                  exact delivered_parts version status emotions vocal sounds tracks _ _ _ _ _

theorem status_valid (field : Option (Json Literal)) :
    (Format.status field).accept takes =
      (field.map (Json.mapNumbers Literal.serde)).bind Derive.status := by
  cases field with
  | none => rfl
  | some value => simp [Format.status, Derive.status, variant_mapNumbers]

theorem version_valid (field : Option (Json Literal)) (rest : Option α) :
    (((field.map (Json.mapNumbers Literal.serde)).bind Derive.u8).bind fun version =>
        if version = 2 then rest else none) =
      (field.bind Json.num?).bind fun l => ((Format.version l).accept takes).bind fun _ => rest := by
  cases field with
  | none => rfl
  | some value =>
    cases value with
    | num l =>
      have version : Derive.u8 ((Json.num l).mapNumbers Literal.serde) =
          ((Format.time l).accept takes).filter (· < 256) := by
        rw [← u64_serde]
        rfl
      simp only [Option.map_some, Option.bind_some, version, Json.num?]
      cases l with
      | int n =>
        by_cases two : n = 2
        · subst two
          rfl
        -- Any other number is no version, whether or not it is a time.
        · have other : (Format.version (.int n)).accept takes = none := by
            simp [Format.version, two]
          have timed : (Format.time (.int n)).accept takes = none ∨
              0 ≤ n ∧ (Format.time (.int n)).accept takes = some n.toNat := by
            simp only [Format.time]
            by_cases past : n < 0
            · simp [past]
            · by_cases small : n < 2 ^ 53
              · rw [if_neg past, if_pos small]
                exact .inr ⟨by omega, rfl⟩
              · rw [if_neg past, if_neg small]
                split
                · exact .inr ⟨by omega, rfl⟩
                · exact .inl rfl
          rw [other]
          rcases timed with none' | ⟨positive, natural⟩
          · simp [none']
          · have other' : n.toNat ≠ 2 := by omega
            by_cases byte : n.toNat < 256 <;> simp [natural, Option.filter, byte, other']
      | float x =>
        have untimed : (Format.time (.float x)).accept takes = none := by
          simp only [Format.time]
          split <;> simp [Validator.takes]
        have unversioned : (Format.version (.float x)).accept takes = none := by
          simp only [Format.version]
          split <;> simp [Validator.takes]
        rw [untimed, unversioned]
        rfl
      | negativeZero => rfl
      | overflow negative => rfl
    | _ => rfl

/-- A document is read as the format says. -/
theorem speechContext_reads (doc : Json Literal) :
    speechContext doc = (Format.speechContext doc).accept Validator.rust.tolerates := by
  unfold speechContext
  split
  next ranged =>
    have entered : (Format.ranged doc).accept Validator.rust.tolerates = some () := by
      simp [Format.ranged, ranged]
    have strict : (fun f => Validator.rust.tolerates (.form f)) = takes := rfl
    have spans (value : Json Literal) :
        checked spanValid id (Derive.span (value.mapNumbers Literal.serde)) =
          (Format.span value).accept takes := by
      rw [← span_valid]
      cases Derive.span (value.mapNumbers Literal.serde) <;> rfl
    rw [delivered_eq, struct_mapNumbers]
    simp only [Format.speechContext, Reading.accept_bind, Reading.accept_pure, entered,
      Option.bind_some, Reading.accept_relabel, strict, Reading.accept_ofOption]
    cases (Format.fields Format.contextFields doc).accept takes with
    | none => rfl
    | some members =>
      simp only [Option.map_some, Option.bind_some, Option.bind_eq_bind, Members.get?_mapNumbers]
      refine (version_valid _ _).trans ?_
      simp only [status_valid, unavailable_valid, part_valid spans, part_valid soundSpan_valid,
        Option.bind_assoc, kept]
  next outside => exact (Format.speechContext_outOfRange outside rfl).symm

end VoxRtc.Rust.Session
