import VoxRtc.Rust.Session.SpeechContext
import Mathlib.Data.List.Forall2

/-!
# The schema of a speech context in Rust

What the deserialization derived for `SpeechContext` and its `is_valid` accept together,
said of the JSON value alone. A derived struct also takes an array of its fields in order,
and a derived enum also takes an object from the name of a variant to null.
-/
namespace VoxRtc.Rust.Session

open Wire Transcripts

variable {α β : Type}

/-- What `on_transcript` keeps of a value. -/
def decode (value : SerdeValue) : Option SpeechContext :=
  ((Derive.speechContext value).filter (·.isValid)).map (·.delivered)

namespace Schema

/-- The value stands for an object with these members. -/
inductive Stands (names : List String) : SerdeValue → Members SerdeNumber → Prop
  | object (members : Members SerdeNumber) : Stands names (.obj members) members
  | array (items : List SerdeValue) : items.length ≤ names.length →
      Stands names (.arr items) (names.zip items)

/-- The value stands for a text. -/
inductive Spells : SerdeValue → String → Prop
  | string (text : String) : Spells (.str text) text
  | tagged (members : Members SerdeNumber) (text : String) :
      (∀ member ∈ members, member.1 = text) → members.get? text = some .null →
      Spells (.obj members) text

/-- An optional field that is absent or null, or an array of items. -/
inductive Listed (Item : SerdeValue → α → Prop) : Option SerdeValue → Option (List α) → Prop
  | absent : Listed Item none none
  | null : Listed Item (some .null) none
  | array {values : List SerdeValue} {items : List α} :
      List.Forall₂ Item values items → Listed Item (some (.arr values)) (some items)

/-- A label that is not empty, and times in order. -/
structure HasSpan (members : Members SerdeNumber) (span : Span) : Prop where
  label : members.get? "label" = some (.str span.label)
  startMs : ∃ fits, members.get? "start_ms" = some (.num (.posInt span.startMs fits))
  endMs : ∃ fits, members.get? "end_ms" = some (.num (.posInt span.endMs fits))
  named : span.label ≠ ""
  ordered : span.startMs < span.endMs

def IsSpan (v : SerdeValue) (span : Span) : Prop :=
  ∃ members, Stands Format.spanFields v members ∧ HasSpan members span

/-- A span with a score between zero and one; it has to be an object. -/
def IsSoundSpan (v : SerdeValue) (sound : SoundSpan) : Prop :=
  ∃ members : Members SerdeNumber, v = .obj members ∧ HasSpan members sound.span ∧
    ∃ number, members.get? "score" = some (.num number) ∧ sound.score = number.toRat ∧
      0 ≤ sound.score ∧ sound.score ≤ 1

def Track.text : Track → String
  | .speaker => "speaker"
  | .sounds => "sounds"

def Status.text : Status → String
  | .complete => "complete"
  | .partly => "partial"
  | .failed => "failed"

/-- Which parts a context has, by its status and the tracks it names as unavailable. -/
def Consistent (c : SpeechContext) : Prop :=
  match c.status with
  | .complete =>
    c.emotions.isSome ∧ c.vocal.isSome ∧ c.sounds.isSome ∧ c.unavailable = none
  | .partly => ∃ track, c.unavailable = some [track] ∧
    (c.emotions = none ↔ track = .speaker) ∧ (c.vocal = none ↔ track = .speaker) ∧
    (c.sounds = none ↔ track = .sounds)
  | .failed => (∃ tracks, c.unavailable = some tracks ∧ tracks.Perm [.speaker, .sounds]) ∧
    c.emotions = none ∧ c.vocal = none ∧ c.sounds = none

end Schema

open Schema

/-- The value is written as the schema says, and the context carries what it says. -/
structure Schema (v : SerdeValue) (c : SpeechContext) : Prop where
  fields : ∃ members, Stands Format.contextFields v members ∧
    (∃ fits, members.get? "schema_version" = some (.num (.posInt 2 fits))) ∧
    (∃ status, members.get? "status" = some status ∧ Spells status (Status.text c.status)) ∧
    Listed IsSpan (members.get? "emotions") c.emotions ∧
    Listed IsSpan (members.get? "vocal") c.vocal ∧
    Listed IsSoundSpan (members.get? "sounds") c.sounds ∧
    Listed (fun v track => Spells v (Track.text track)) (members.get? "unavailable") c.unavailable
  consistent : Consistent c

namespace Schema

/-! ## The parts -/

theorem mapM_eq_some {f : α → Option β} {xs : List α} {ys : List β} :
    xs.mapM f = some ys ↔ List.Forall₂ (fun x y => f x = some y) xs ys := by
  induction xs generalizing ys with
  | nil => cases ys <;> simp
  | cons x xs ih =>
    rw [List.mapM_cons]
    cases first : f x with
    | none => cases ys <;> simp [first]
    | some y =>
      cases rest : xs.mapM f with
      | none =>
        cases ys with
        | nil => simp
        | cons z zs => simp [← ih, rest]
      | some zs => cases ys <;> simp [← ih, rest, first]

theorem struct_eq_some {names : List String} {v : SerdeValue} {members : Members SerdeNumber} :
    Derive.struct names v = some members ↔ Stands names v members := by
  constructor
  · intro read
    cases v with
    | obj members => cases read; exact .object _
    | arr items =>
      simp only [Derive.struct, Option.ite_none_right_eq_some, Option.some.injEq] at read
      obtain ⟨short, rfl⟩ := read
      exact .array items short
    | _ => cases read
  · intro stands
    cases stands with
    | object => rfl
    | array items short => simp [Derive.struct, short]

theorem unitTag_eq_some {members : Members SerdeNumber} {text : String} :
    unitTag members = some text ↔
      (∀ member ∈ members, member.1 = text) ∧ members.get? text = some .null := by
  rcases List.eq_nil_or_concat members with rfl | ⟨before, ⟨key, v⟩, rfl⟩
  · simp [unitTag, Members.get?]
  · have tagged : unitTag (before ++ [(key, v)]) = some text ↔
        (v.isNull = true ∧ ∀ member ∈ before, member.1 = key) ∧ key = text := by
      simp [unitTag]
    have last : Members.get? (before ++ [(key, v)]) key = some v := by simp [Members.get?]
    rw [List.concat_eq_append, tagged]
    constructor
    · rintro ⟨⟨null, same⟩, rfl⟩
      have null' : v = .null := by cases v <;> first | rfl | cases null
      refine ⟨fun member among => ?_, null' ▸ last⟩
      rcases List.mem_append.mp among with old | new
      · exact same member old
      · rw [List.mem_singleton.mp new]
    · rintro ⟨same, null⟩
      obtain rfl : key = text := same (key, v) (by simp)
      cases last.symm.trans null
      exact ⟨⟨rfl, fun member among => same member (List.mem_append_left _ among)⟩, rfl⟩

theorem variant_eq_some {v : SerdeValue} {text : String} :
    Derive.variant v = some text ↔ Spells v text := by
  constructor
  · intro read
    cases v with
    | str => cases read; exact .string _
    | obj members =>
      obtain ⟨same, null⟩ := unitTag_eq_some.mp read
      exact .tagged members text same null
    | _ => cases read
  · intro spells
    cases spells with
    | string => rfl
    | tagged members text same null => exact unitTag_eq_some.mpr ⟨same, null⟩

theorem trackOfText_eq_some {text : String} {track : Track} :
    Transcripts.Track.ofText text = some track ↔ text = Track.text track := by
  cases track <;> simp [Transcripts.Track.ofText, Track.text] <;> split <;> simp_all

theorem statusOfText_eq_some {text : String} {status : Status} :
    Transcripts.Status.ofText text = some status ↔ text = Status.text status := by
  cases status <;> simp [Transcripts.Status.ofText, Status.text] <;> split <;> simp_all

theorem u64_eq_some {field : Option SerdeValue} {n : Nat} :
    field.bind Derive.u64 = some n ↔ ∃ fits, field = some (.num (.posInt n fits)) := by
  constructor
  · intro read
    obtain ⟨v, rfl, natural⟩ := Option.bind_eq_some_iff.mp read
    unfold Derive.u64 at natural
    split at natural
    next m fits => cases natural; exact ⟨fits, rfl⟩
    · cases natural
  · rintro ⟨fits, rfl⟩
    rfl

theorem str_eq_some {field : Option SerdeValue} {text : String} :
    field.bind Json.str? = some text ↔ field = some (.str text) := by
  constructor
  · intro read
    obtain ⟨v, rfl, read⟩ := Option.bind_eq_some_iff.mp read
    cases v <;> cases read
    rfl
  · rintro rfl
    rfl

theorem hasSpan_iff {members : Members SerdeNumber} {span : Span} :
    (Derive.spanFields members).filter spanValid = some span ↔ HasSpan members span := by
  constructor
  · intro read
    obtain ⟨read, valid⟩ := Option.filter_eq_some_iff.mp read
    simp only [Derive.spanFields, Option.bind_eq_bind, Option.bind_eq_some_iff, Option.pure_def,
      Option.some.injEq] at read
    obtain ⟨label, named, startMs, starts, endMs, ends, rfl⟩ := read
    have ordered : label ≠ "" ∧ startMs < endMs := by simpa [spanValid] using valid
    exact ⟨str_eq_some.mp (Option.bind_eq_some_iff.mpr named),
      u64_eq_some.mp (Option.bind_eq_some_iff.mpr starts),
      u64_eq_some.mp (Option.bind_eq_some_iff.mpr ends), ordered.1, ordered.2⟩
  · rintro ⟨label, startMs, endMs, named, ordered⟩
    rw [Option.filter_eq_some_iff]
    refine ⟨?_, by simp [spanValid, named, ordered]⟩
    simp only [Derive.spanFields, str_eq_some.mpr label, u64_eq_some.mpr startMs,
      u64_eq_some.mpr endMs]
    rfl

theorem isSpan_iff {v : SerdeValue} {span : Span} :
    checked spanValid id (Derive.span v) = some span ↔ IsSpan v span := by
  have same : checked spanValid id (Derive.span v) = (Derive.struct Format.spanFields v).bind
      fun members => (Derive.spanFields members).filter spanValid := by
    rw [Derive.span]
    cases Derive.struct Format.spanFields v with
    | none => rfl
    | some members =>
      simp only [checked, Option.bind_some]
      cases Derive.spanFields members <;> rfl
  rw [same, Option.bind_eq_some_iff, IsSpan]
  simp only [struct_eq_some, hasSpan_iff]

theorem unit_iff (x : Finite64) :
    (x.ltInt 0 || x.gtInt 1) = false ↔ 0 ≤ x.toRat ∧ x.toRat ≤ 1 := by
  have positive : (0 : ℚ) < x.scale := by exact_mod_cast x.scale_positive
  rw [Finite64.toRat, le_div_iff₀ positive, div_le_iff₀ positive]
  simp only [Finite64.ltInt, Finite64.gtInt, Bool.or_eq_false_iff, decide_eq_false_iff_not, not_lt,
    zero_mul, one_mul]
  norm_cast

/-- A number is a valid score when it is between zero and one. -/
theorem score_iff {number : SerdeNumber} {x : Binary64} {score : ℚ}
    (read : Derive.f64 (.num number) = some x) :
    unitScore x = some score ↔ score = number.toRat ∧ 0 ≤ score ∧ score ≤ 1 := by
  have integer (n : Int) : unitScore (.ofInt n) = some score ↔
      score = n ∧ 0 ≤ score ∧ score ≤ 1 := by
    have known : unitScore (.ofInt n) = if 0 ≤ n ∧ n ≤ 1 then some (n : ℚ) else none :=
      unitScore_double (.int n)
    rw [known, Option.ite_none_right_eq_some, Option.some.injEq]
    constructor
    · rintro ⟨unit, rfl⟩
      exact ⟨rfl, by exact_mod_cast unit⟩
    · rintro ⟨rfl, unit⟩
      exact ⟨by exact_mod_cast unit, rfl⟩
  cases number with
  | posInt n fits => cases read; exact_mod_cast integer n
  | negInt n fits => cases read; exact integer n
  | float x =>
    cases read
    have known : unitScore (.finite x) = some score ↔
        (x.ltInt 0 || x.gtInt 1) = false ∧ x.toRat = score := by
      simp [unitScore]
    rw [known, unit_iff]
    constructor
    · rintro ⟨unit, rfl⟩
      exact ⟨rfl, unit⟩
    · rintro ⟨rfl, unit⟩
      exact ⟨unit, rfl⟩

theorem f64_eq_some {field : Option SerdeValue} {x : Binary64} :
    field.bind Derive.f64 = some x ↔
      ∃ number, field = some (.num number) ∧ Derive.f64 (.num number) = some x := by
  constructor
  · intro read
    obtain ⟨v, rfl, real⟩ := Option.bind_eq_some_iff.mp read
    cases v with
    | num number => exact ⟨number, rfl, real⟩
    | _ => cases real
  · rintro ⟨number, rfl, real⟩
    exact real

theorem isSoundSpan_iff {v : SerdeValue} {sound : SoundSpan} :
    checked soundValid (·.delivered) (Derive.soundSpan v) = some sound ↔ IsSoundSpan v sound := by
  -- A sound is a span and a score, read one after the other.
  have parts : checked soundValid (·.delivered) (Derive.soundSpan v) = some sound ↔
      ∃ members, v.object? = some members ∧
        (Derive.spanFields members).filter spanValid = some sound.span ∧
        ∃ x, (members.get? "score").bind Derive.f64 = some x ∧ unitScore x = some sound.score := by
    obtain ⟨span, score⟩ := sound
    simp only [checked, Derive.soundSpan, Option.bind_eq_bind, Option.bind_assoc, Option.pure_def,
      Option.bind_some, soundValid_eq]
    rw [Option.bind_eq_some_iff]
    refine exists_congr fun members => and_congr_right fun _ => ?_
    cases Derive.spanFields members with
    | none => simp
    | some read =>
      by_cases valid : spanValid read
      · simp only [Option.filter, valid, if_true, Option.bind_some, Option.some.injEq,
          ← Option.bind_assoc]
        rw [Option.bind_eq_some_iff]
        simp only [Option.map_eq_some_iff, SoundSpan.mk.injEq]
        constructor
        · rintro ⟨x, real, unit, scored, rfl, rfl⟩
          exact ⟨rfl, x, real, scored⟩
        · rintro ⟨rfl, x, real, scored⟩
          exact ⟨x, real, score, scored, rfl, rfl⟩
      · simp [Option.filter, valid]
  rw [parts, IsSoundSpan]
  constructor
  · rintro ⟨members, object, span, x, read, unit⟩
    obtain ⟨number, found, real⟩ := f64_eq_some.mp read
    refine ⟨members, ?_, hasSpan_iff.mp span, number, found, (score_iff real).mp unit⟩
    cases v <;> cases object
    rfl
  · rintro ⟨members, rfl, span, number, found, unit⟩
    obtain ⟨x, real⟩ : ∃ x, Derive.f64 (.num number) = some x := by
      cases number <;> exact ⟨_, rfl⟩
    exact ⟨members, rfl, hasSpan_iff.mpr span, x, f64_eq_some.mpr ⟨number, found, real⟩,
      (score_iff real).mpr unit⟩

theorem isTrack_iff {v : SerdeValue} {track : Track} :
    Derive.track v = some track ↔ Spells v (Track.text track) := by
  rw [Derive.track, Option.bind_eq_some_iff]
  constructor
  · rintro ⟨text, read, named⟩
    rw [trackOfText_eq_some] at named
    exact named ▸ variant_eq_some.mp read
  · exact fun spells => ⟨_, variant_eq_some.mpr spells, trackOfText_eq_some.mpr rfl⟩

theorem isStatus_iff {v : SerdeValue} {status : Status} :
    Derive.status v = some status ↔ Spells v (Status.text status) := by
  rw [Derive.status, Option.bind_eq_some_iff]
  constructor
  · rintro ⟨text, read, named⟩
    rw [statusOfText_eq_some] at named
    exact named ▸ variant_eq_some.mp read
  · exact fun spells => ⟨_, variant_eq_some.mpr spells, statusOfText_eq_some.mpr rfl⟩

/-- An optional field is read item by item. -/
theorem listed_iff {Item : SerdeValue → β → Prop} {item : SerdeValue → Option α}
    {good : α → Bool} {deliver : α → β}
    (items : ∀ v y, checked good deliver (item v) = some y ↔ Item v y)
    {field : Option SerdeValue} {found : Option (List β)} :
    checkedField item good deliver field = some found ↔ Listed Item field found := by
  have array (values : List SerdeValue) :
      checkedField item good deliver (some (.arr values)) = some found ↔
        ∃ ys, List.Forall₂ Item values ys ∧ found = some ys := by
    have read : checkedField item good deliver (some (.arr values)) =
        (checked (·.all good) (·.map deliver) (values.mapM item)).map some := by
      cases kept : values.mapM item <;>
        simp [checkedField, Derive.optional, Derive.vec, Json.isNull, Json.arr?, kept, checked]
    rw [read, mapM_checked, Option.map_eq_some_iff]
    simp only [mapM_eq_some, items, eq_comm (b := found)]
  constructor
  · intro read
    cases field with
    | none => cases read; exact .absent
    | some v =>
      cases v with
      | null => cases read; exact .null
      | arr values =>
        obtain ⟨ys, each, rfl⟩ := (array values).mp read
        exact .array each
      | _ => cases read
  · intro listed
    cases listed with
    | absent => rfl
    | null => rfl
    | array each => exact (array _).mpr ⟨_, each, rfl⟩

theorem optional_eq (item : SerdeValue → Option α) (field : Option SerdeValue) :
    Derive.optional (Derive.vec item) field = checkedField item (fun _ => true) id field := by
  cases read : Derive.optional (Derive.vec item) field with
  | none => simp [checkedField, read]
  | some found => rw [checkedField_eq read]; cases found <;> simp

theorem version_iff {field : Option SerdeValue} :
    field.bind Derive.u8 = some 2 ↔ ∃ fits, field = some (.num (.posInt 2 fits)) := by
  rw [← u64_eq_some]
  cases field with
  | none => simp
  | some v => simp +contextual [Derive.u8, Option.filter_eq_some_iff]

/-- Two distinct tracks are all the tracks. -/
theorem both_iff (tracks : List Track) :
    tracks.Nodup ∧ tracks.length = 2 ↔ tracks.Perm [.speaker, .sounds] := by
  constructor
  · rintro ⟨distinct, two⟩
    obtain ⟨first, second, rfl⟩ := List.length_eq_two.mp two
    cases first <;> cases second <;> first | decide | simp at distinct
  · exact fun permuted => ⟨permuted.nodup_iff.mpr (by decide), permuted.length_eq⟩

/-- The tracks that a status needs, and spans of exactly the other tracks. -/
theorem consistent_iff (c : SpeechContext) :
    (namedTracks c.status c.unavailable = some c.unavailable ∧
      c.emotions.isNone = decide (.speaker ∈ c.unavailable.getD []) ∧
      c.vocal.isNone = decide (.speaker ∈ c.unavailable.getD []) ∧
      c.sounds.isNone = decide (.sounds ∈ c.unavailable.getD [])) ↔ Consistent c := by
  obtain ⟨status, emotions, vocal, sounds, unavailable⟩ := c
  cases status with
  | complete => cases unavailable <;> simp [namedTracks, Consistent]
  | partly =>
    cases unavailable with
    | none => simp [namedTracks, Consistent]
    | some tracks =>
      rcases tracks with _ | ⟨track, _ | ⟨second, rest⟩⟩
      · simp [namedTracks, Consistent]
      · cases track <;> cases emotions <;> cases vocal <;> cases sounds <;>
          simp [namedTracks, Consistent]
      · simp [namedTracks, Consistent]
  | failed =>
    cases unavailable with
    | none => simp [namedTracks, Consistent]
    | some tracks =>
      -- With both tracks missing, the spans of either are missing.
      have all : tracks.Perm [.speaker, .sounds] → .speaker ∈ tracks ∧ .sounds ∈ tracks :=
        fun permuted => ⟨permuted.mem_iff.mpr (by decide), permuted.mem_iff.mpr (by decide)⟩
      simp only [namedTracks, Consistent, both_iff, Option.ite_none_right_eq_some, and_true,
        Option.getD_some, Option.some.injEq, exists_eq_left']
      refine and_congr_right fun permuted => ?_
      simp [all permuted]

/-- What is decoded, field by field, with the checks across the fields last. -/
theorem decode_fields (v : SerdeValue) (c : SpeechContext) :
    decode v = some c ↔ ∃ members, Derive.struct Format.contextFields v = some members ∧
      (members.get? "schema_version").bind Derive.u8 = some 2 ∧
      (members.get? "status").bind Derive.status = some c.status ∧
      checkedField Derive.span spanValid id (members.get? "emotions") = some c.emotions ∧
      checkedField Derive.span spanValid id (members.get? "vocal") = some c.vocal ∧
      checkedField Derive.soundSpan soundValid (·.delivered) (members.get? "sounds") =
        some c.sounds ∧
      checkedField Derive.track (fun _ => true) id (members.get? "unavailable") =
        some c.unavailable ∧
      Consistent c := by
  rw [decode, delivered_eq, Option.bind_eq_bind, Option.bind_eq_some_iff]
  refine exists_congr fun members => and_congr_right fun _ => ?_
  rw [← consistent_iff, optional_eq]
  constructor
  · intro read
    simp only [Option.bind_eq_bind, Option.bind_eq_some_iff (b := c), Option.ite_none_right_eq_some,
      kept, Option.some.injEq] at read
    obtain ⟨version, versioned, rfl, status, statused, tracks, listed, unavailable, named,
      emotions, emotional, _, ⟨noEmotions, rfl⟩, vocal, vocalized, _, ⟨noVocal, rfl⟩,
      sounds, sounded, _, ⟨noSounds, rfl⟩, rfl⟩ := read
    cases namedTracks_same named
    exact ⟨versioned, statused, emotional, vocalized, sounded, listed, named, noEmotions, noVocal,
      noSounds⟩
  · rintro ⟨version, status, emotions, vocal, sounds, tracks, named, noEmotions, noVocal, noSounds⟩
    simp only [version, status, emotions, vocal, sounds, tracks, named, kept, noEmotions, noVocal,
      noSounds, Option.bind_eq_bind, Option.bind_some, if_true]

end Schema

/-- What Rust accepts of a value is what the schema says of it. -/
theorem decode_iff_schema (v : SerdeValue) (c : SpeechContext) :
    decode v = some c ↔ Schema v c := by
  have track (v : SerdeValue) (track : Track) :
      checked (fun _ => true) id (Derive.track v) = some track ↔ Spells v (Track.text track) := by
    rw [← isTrack_iff]
    cases Derive.track v <;> simp [checked]
  have status (field : Option SerdeValue) : field.bind Derive.status = some c.status ↔
      ∃ status, field = some status ∧ Spells status (Status.text c.status) := by
    simp only [Option.bind_eq_some_iff, isStatus_iff]
  simp only [decode_fields, struct_eq_some, version_iff, status, listed_iff fun v span => isSpan_iff,
    listed_iff fun v sound => isSoundSpan_iff, listed_iff track]
  constructor
  · rintro ⟨members, stands, version, status, emotions, vocal, sounds, tracks, consistent⟩
    exact ⟨⟨members, stands, version, status, emotions, vocal, sounds, tracks⟩, consistent⟩
  · rintro ⟨⟨members, stands, version, status, emotions, vocal, sounds, tracks⟩, consistent⟩
    exact ⟨members, stands, version, status, emotions, vocal, sounds, tracks, consistent⟩

/-- What is delivered for a document in range. -/
theorem speechContext_decodes {doc : Json Literal} (ranged : doc.allNumbers Literal.inRange)
    (c : SpeechContext) :
    speechContext doc = some c ↔ decode (doc.mapNumbers Literal.serde) = some c := by
  rw [speechContext, if_pos ranged, decode]

theorem two_fits : 2 < 2 ^ 64 := by decide

/-- A complete context, as the array of its fields. -/
def listedContext : SerdeValue :=
  .arr [.num (.posInt 2 two_fits), .str "complete", .arr [], .arr [], .arr []]

/-- A complete context whose status is tagged. -/
def taggedContext : SerdeValue := .obj [("schema_version", .num (.posInt 2 two_fits)),
  ("status", .obj [("complete", .null)]), ("emotions", .arr []), ("vocal", .arr []),
  ("sounds", .arr [])]

/-- A context need not be an object, nor its status a string. -/
theorem decode_takes_more :
    (listedContext.object? = none ∧
      decode listedContext = some ⟨.complete, some [], some [], some [], none⟩) ∧
    (taggedContext.object?.bind (·.get? "status")).bind Json.str? = none ∧
      decode taggedContext = some ⟨.complete, some [], some [], some [], none⟩ := by
  refine ⟨⟨rfl, ?_⟩, rfl, ?_⟩ <;> decide +kernel

end VoxRtc.Rust.Session
