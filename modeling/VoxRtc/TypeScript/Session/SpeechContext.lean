import VoxRtc.Transcripts.Handwritten

/-!
# Speech context of the TypeScript server SDK

`optionalSpeechContext` of `typescript/vox-rtc-server/src/session.ts`, over a value that
`JSON.parse` has decoded.
-/
namespace VoxRtc.TypeScript.Session

open Wire Grammar Transcripts

def optionalNumber (x : Binary64) : Option Finite64 := x.finite?

/-- `Number.isSafeInteger`, with the integer. -/
def safeInteger (x : Finite64) : Option Int :=
  if x.isIntegral ∧ x.trunc.natAbs ≤ maxSafeInteger then some x.trunc else none

def validator : Handwritten Binary64 where
  isVersion x := x.strictEq (.ofCount 2)
  time x := (optionalNumber x).bind safeInteger
  score x := (optionalNumber x).bind fun score =>
    if score.ltInt 0 || score.gtInt 1 then none else some score.toRat
  absent field := field.isNone

def speechContextSpan := validator.span

def speechContextSpans := Handwritten.list speechContextSpan

def speechContextSoundSpan := validator.soundSpan

def speechContextSoundSpans := Handwritten.list speechContextSoundSpan

def speechContextTracks : Option (Json Binary64) → Option (List Track) := Handwritten.tracks

/-- The rest of `optionalSpeechContext`, once the fields are read; the context is written out
anew for each status. -/
def context (status : Status) (emotions vocal : Option (List Span)) (sounds : Option (List SoundSpan))
    (unavailable : Option (List Track)) (field : Option (Json Binary64)) : Option SpeechContext :=
  if status = .complete then
    if emotions.isNone ∨ vocal.isNone ∨ sounds.isNone ∨ field.isSome then none
    else some ⟨.complete, emotions, vocal, sounds, none⟩
  else do
    let unavailable ← unavailable
    if status = .failed ∧
        (unavailable.length ≠ 2 ∨ .speaker ∉ unavailable ∨ .sounds ∉ unavailable) then none
    else if status ≠ .failed ∧ unavailable.length ≠ 1 then none
    else if (.speaker ∈ unavailable ∧ (emotions.isSome ∨ vocal.isSome)) ∨
        (.speaker ∉ unavailable ∧ (emotions.isNone ∨ vocal.isNone)) ∨
        (.sounds ∈ unavailable ∧ sounds.isSome) ∨
        (.sounds ∉ unavailable ∧ sounds.isNone) then none
    else if status = .failed then
      some ⟨.failed, none, none, none,
        some (if unavailable.head? = some .speaker then [.speaker, .sounds] else [.sounds, .speaker])⟩
    else if unavailable.head? = some .speaker then do
      let sounds ← sounds
      some ⟨.partly, none, none, some sounds, some [.speaker]⟩
    else do
      let emotions ← emotions
      let vocal ← vocal
      some ⟨.partly, some emotions, some vocal, none, some [.sounds]⟩

def optionalSpeechContext (value : Json Binary64) : Option SpeechContext := do
  let record ← value.object?
  let version ← (record.get? "schema_version").bind Json.num?
  if validator.isVersion version then
    let status ← ((record.get? "status").bind Json.str?).bind Status.ofText
    context status (speechContextSpans (record.get? "emotions"))
      (speechContextSpans (record.get? "vocal")) (speechContextSoundSpans (record.get? "sounds"))
      (speechContextTracks (record.get? "unavailable")) (record.get? "unavailable")
  else none

/-- What is written out is what has been checked. -/
theorem context_eq (status : Status) (emotions vocal : Option (List Span))
    (sounds : Option (List SoundSpan)) (unavailable : Option (List Track))
    (field : Option (Json Binary64)) :
    context status emotions vocal sounds unavailable field =
      Handwritten.assemble status emotions vocal sounds unavailable field.isNone := by
  cases status with
  | complete => cases field <;> simp [context, Handwritten.assemble]
  | partly =>
    cases unavailable with
    | none => rfl
    | some tracks =>
      rcases tracks with _ | ⟨track, _ | ⟨_, _⟩⟩
      · rfl
      · cases track <;> cases emotions <;> cases vocal <;> cases sounds <;> rfl
      · rfl
  | failed =>
    cases unavailable with
    | none => rfl
    | some tracks =>
      rcases tracks with _ | ⟨first, _ | ⟨second, _ | ⟨_, _⟩⟩⟩
      · rfl
      · rfl
      · cases first <;> cases second <;> cases emotions <;> cases vocal <;> cases sounds <;> rfl
      · rfl

theorem optionalSpeechContext_eq (value : Json Binary64) :
    optionalSpeechContext value = validator.speechContext value := by
  unfold optionalSpeechContext Handwritten.speechContext
  simp only [context_eq]
  rfl

theorem naturals_safeInteger (x : Finite64) :
    (safeInteger x).bind natural =
      if x.isIntegral ∧ 0 ≤ x.trunc ∧ x.trunc ≤ maxSafeInteger then some x.trunc.toNat else none := by
  unfold safeInteger
  by_cases integral : x.isIntegral
  · by_cases past : x.trunc < 0
    · have negative : ¬0 ≤ x.trunc := by omega
      simp only [integral, negative, true_and, false_and, if_false]
      split <;> simp [natural, past]
    · have same : x.trunc.natAbs ≤ maxSafeInteger ↔ 0 ≤ x.trunc ∧ x.trunc ≤ maxSafeInteger := by
        omega
      simp only [integral, true_and, same]
      split <;> simp [natural, past]
  · simp [integral]

theorem reads : validator.Reads Literal.double .typescript where
  version l := double_version rfl l
  time l := double_time safeInteger naturals_safeInteger rfl rfl rfl rfl l
  score l := double_score l
  absent field := by cases field <;> simp [validator, Validator.tolerates]
  sequence := rfl
  tagged := rfl
  leftover _ := rfl

/-- The speech context delivered for a value as it is written. -/
def speechContext (doc : Json Literal) : Option SpeechContext :=
  optionalSpeechContext (doc.mapNumbers Literal.double)

theorem speechContext_reads (doc : Json Literal) :
    speechContext doc = (Format.speechContext doc).accept Validator.typescript.tolerates := by
  rw [speechContext, optionalSpeechContext_eq]
  exact reads.speechContext doc (.inr rfl)

end VoxRtc.TypeScript.Session
