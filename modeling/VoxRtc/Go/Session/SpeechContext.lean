import VoxRtc.Transcripts.Handwritten

/-!
# Speech context of the Go server SDK

`speechContextValue` of `go/rtcserver/session.go`, over a value that `encoding/json` has
decoded into interfaces. No message arrives when a number of it is out of range.
-/
namespace VoxRtc.Go.Session

open Wire Grammar Transcripts

/-- A number that `math.Trunc` leaves as it is and that is not past the safe integers. -/
def safeInteger (x : Finite64) : Option Int :=
  if x.isIntegral ∧ x.trunc ≤ maxSafeInteger then some x.trunc else none

def validator : Handwritten Binary64 where
  isVersion x := x.strictEq (.ofCount 2)
  time x := x.finite?.bind safeInteger
  score x := x.finite?.bind fun score =>
    if score.ltInt 0 || score.gtInt 1 then none else some score.toRat
  absent field := field.all Json.isNull

def speechContextSpan := validator.span

def speechContextSpans := Handwritten.list speechContextSpan

def speechContextSoundSpans := Handwritten.list validator.soundSpan

def speechContextTracks : Option (Json Binary64) → Option (List Track) := Handwritten.tracks

def speechContextValue := validator.speechContext

theorem naturals_safeInteger (x : Finite64) :
    (safeInteger x).bind natural =
      if x.isIntegral ∧ 0 ≤ x.trunc ∧ x.trunc ≤ maxSafeInteger then some x.trunc.toNat else none := by
  unfold safeInteger
  by_cases past : x.trunc < 0
  · have negative : ¬0 ≤ x.trunc := by omega
    simp only [negative, false_and, and_false, if_false]
    split <;> simp [natural, past]
  · have positive : 0 ≤ x.trunc := by omega
    simp only [positive, true_and]
    split <;> simp [natural, past]

theorem reads : validator.Reads Literal.double .go where
  version l := double_version rfl l
  time l := double_time safeInteger naturals_safeInteger rfl rfl rfl rfl l
  score l := double_score l
  absent field := by simp [validator, Validator.tolerates]
  sequence := rfl
  tagged := rfl
  leftover _ := rfl

/-- The speech context delivered for a value as it is written. -/
def speechContext (doc : Json Literal) : Option SpeechContext :=
  if doc.allNumbers Literal.inRange then speechContextValue (doc.mapNumbers Literal.double) else none

theorem speechContext_reads (doc : Json Literal) :
    speechContext doc = (Format.speechContext doc).accept Validator.go.tolerates := by
  unfold speechContext
  split
  next ranged => exact reads.speechContext doc (.inl ranged)
  next outside => exact (Format.speechContext_outOfRange outside rfl).symm

end VoxRtc.Go.Session
