import VoxRtc.Transcripts.Handwritten

/-!
# Speech context of the Python server SDK

`_parse_speech_context` of `python/vox-rtc-server/src/vox_rtc_server/session.py`, over a
value that `json.loads` has decoded. It raises where the status is a list or a dictionary,
and no speech context is delivered then either.
-/
namespace VoxRtc.Python.Session

open Wire Grammar Transcripts

def parseSpeechContextTime : PythonNumber → Option Int
  | .int n => some n
  | .float _ => none

def parseSpeechContextScore : PythonNumber → Option ℚ
  | .int n => if 0 ≤ n ∧ n ≤ 1 then some n else none
  | .float x => x.finite?.bind fun score =>
    if score.ltInt 0 || score.gtInt 1 then none else some score.toRat

/-- `value == 2`. -/
def isTwo : PythonNumber → Bool
  | .int n => n == 2
  | .float x => x.strictEq (.ofCount 2)

def validator : Handwritten PythonNumber where
  isVersion := isTwo
  time := parseSpeechContextTime
  score := parseSpeechContextScore
  absent field := field.isNone

def parseSpeechContextSpan := validator.span

def parseSpeechContextSpans := Handwritten.list parseSpeechContextSpan

def parseSpeechContextSoundSpan := validator.soundSpan

def parseSpeechContextSoundSpans := Handwritten.list parseSpeechContextSoundSpan

def parseSpeechContextTracks : Option (Json PythonNumber) → Option (List Track) :=
  Handwritten.tracks

def parseSpeechContext := validator.speechContext

theorem reads : validator.Reads Literal.python .python where
  version l := by
    cases l with
    | int n => by_cases two : n = 2 <;> simp [validator, isTwo, Literal.python, Format.version, two]
    | negativeZero => rfl
    | float x =>
      simp only [validator, isTwo, Literal.python, strictEq_two, Format.version]
      by_cases two : x.scaled = 2 * x.scale <;> simp [two, Validator.takes]
    | overflow negative => rfl
  time l := by
    cases l with
    | int n =>
      by_cases past : n < 0
      · simp [validator, parseSpeechContextTime, Literal.python, Format.time, natural, past]
      · by_cases wide : n < 2 ^ 53 <;> by_cases huge : n < 2 ^ 64 <;>
          simp_all [validator, parseSpeechContextTime, Literal.python, Format.time, natural,
            Validator.takes]
    | negativeZero => rfl
    | float x =>
      simp only [validator, parseSpeechContextTime, Literal.python, Format.time]
      split <;> simp [Validator.takes]
    | overflow negative => rfl
  score l := by
    cases l with
    | negativeZero => simp [validator, parseSpeechContextScore, Literal.python, Format.score]
    | _ => rfl
  absent field := by cases field <;> simp [validator, Validator.tolerates]
  sequence := rfl
  tagged := rfl
  leftover _ := rfl

/-- The speech context delivered for a value as it is written. -/
def speechContext (doc : Json Literal) : Option SpeechContext :=
  parseSpeechContext (doc.mapNumbers Literal.python)

theorem speechContext_reads (doc : Json Literal) :
    speechContext doc = (Format.speechContext doc).accept Validator.python.tolerates :=
  reads.speechContext doc (.inr rfl)

end VoxRtc.Python.Session
