import VoxRtc.TypeScript.Gateway.Frames
import VoxRtc.Transition.Override
import VoxRtc.Transition.Log
import VoxRtc.Transition.Runs
import VoxRtc.Wire.Literal
import Mathlib.Data.Finset.Option

/-!
# Playback of the browser client

What control events do to the audio element, in `typescript/vox-rtc-client/src/client.ts`.
An event comes over the data channel as `{event, payload}` or over signaling as
`{type, data}`. A handler runs to its end before the next event, timer or cleanup.
-/
namespace VoxRtc.Browser

open Transition Wire

structure AudioElement where
  volume : ℚ
  muted : Bool
  deriving DecidableEq, Repr

structure NormalizedAudioDuckingConfig where
  duckVolume : ℚ
  releaseDelayMs : ℚ
  deriving DecidableEq, Repr

/-- The option `audioDucking`; a number that is missing is not of type `number`. -/
inductive AudioDuckingOption where
  | off
  | on
  | options (enabled : Bool) (duckVolume releaseDelayMs : Option Binary64)

/-- `0.2` as a double, and 350 ms. -/
def defaultAudioDuckingConfig : NormalizedAudioDuckingConfig :=
  ⟨3602879701896397 / 2 ^ 54, 350⟩

/-- `Math.min(max, Math.max(min, value))`, or the fallback. -/
def clampNumber (value : Option Binary64) (fallback min max : ℚ) : ℚ :=
  match value with
  | none | some .nan => fallback
  | some (.infinity negative) => if negative then min else max
  | some (.finite x) =>
    if x.toRat < min then min else if max < x.toRat then max else x.toRat

def normalizeAudioDuckingConfig : AudioDuckingOption → Option NormalizedAudioDuckingConfig
  | .off => none
  | .on => some defaultAudioDuckingConfig
  | .options false _ _ => none
  | .options true duckVolume releaseDelayMs => some {
      duckVolume := clampNumber duckVolume defaultAudioDuckingConfig.duckVolume 0 1
      releaseDelayMs :=
        clampNumber releaseDelayMs defaultAudioDuckingConfig.releaseDelayMs 0 60000 }

theorem clampNumber_inRange (value : Option Binary64) {fallback lower upper : ℚ}
    (inside : lower ≤ fallback ∧ fallback ≤ upper) :
    lower ≤ clampNumber value fallback lower upper ∧
      clampNumber value fallback lower upper ≤ upper := by
  have order : lower ≤ upper := inside.1.trans inside.2
  unfold clampNumber
  split
  · exact inside
  · exact inside
  · split
    · exact ⟨le_rfl, order⟩
    · exact ⟨order, le_rfl⟩
  · split
    · exact ⟨le_rfl, order⟩
    next above =>
      split
      · exact ⟨order, le_rfl⟩
      next below => exact ⟨not_lt.mp above, not_lt.mp below⟩

/-- Every volume to duck to is one that an element takes. -/
theorem duckVolume_inRange {option : AudioDuckingOption} {config : NormalizedAudioDuckingConfig}
    (normalized : normalizeAudioDuckingConfig option = some config) :
    0 ≤ config.duckVolume ∧ config.duckVolume ≤ 1 := by
  have usual : 0 ≤ defaultAudioDuckingConfig.duckVolume ∧
      defaultAudioDuckingConfig.duckVolume ≤ 1 := by
    norm_num [defaultAudioDuckingConfig]
  cases option with
  | off => cases normalized
  | on =>
    cases normalized
    exact usual
  | options enabled duckVolume releaseDelayMs =>
    cases enabled with
    | false => cases normalized
    | true =>
      cases normalized
      exact clampNumber_inRange duckVolume usual

inductive AudioDuckingSource where
  | speech
  | hold
  deriving DecidableEq, Repr

def duckingVoxStartEvents : List String :=
  ["input_audio_buffer.speech_started", "interruption.detected"]

def duckingVoxStopEvents : List String :=
  ["input_audio_buffer.speech_stopped", "interruption.false_positive", "response.audio.clear",
    "response.cancelled", "response.done"]

def duckingTurnStateEvent : String := "turn.state_changed"

def playoutSuspendEvent : String := "response.audio.suspend"

def playoutResumeEvent : String := "response.audio.resume"

def playoutTerminalEvents : List String :=
  ["response.audio.clear", "response.cancelled", "response.done"]

def duckingHeldTurnStates : List String := ["paused", "listening", "interrupted"]

def duckingReleasedTurnStates : List String := ["idle", "thinking", "speaking"]

/-- A control event as the handlers see it. -/
abbrev ControlEvent := Json Binary64

def eventTypeFromControlEvent : ControlEvent → String
  | .str event => event
  | .obj event => match Members.get? event "type", Members.get? event "event" with
    | some (.str type), _ => type
    | _, some (.str type) => type
    | _, _ => ""
  | _ => ""

def payloadFromControlEvent : ControlEvent → Members Binary64
  | .obj event => match Members.get? event "data", Members.get? event "payload" with
    | some (.obj data), _ => data
    | _, some (.obj payload) => payload
    | _, _ => event
  | _ => []

/-- The part of the client that plays audio, and its timers that are set and have not fired. -/
structure Playback where
  audioElement : Option AudioElement
  audioDuckingConfig : Option NormalizedAudioDuckingConfig
  audioDuckingReleaseTimer : Option Nat := none
  audioDuckingBaseVolume : Option ℚ := none
  audioDuckingSources : Finset AudioDuckingSource := ∅
  playoutSuspendOwner : Option Binary64 := none
  mutedBeforePlayoutSuspend : Option Bool := none
  timers : Finset Nat := ∅
  timersSet : Nat := 0
  deriving DecidableEq

namespace Playback

/-! ## Ducking -/

def setDuckedVolume (p : Playback) (targetVolume : ℚ) : Playback :=
  match p.audioElement with
  | none => p
  | some element =>
    -- A volume below the target stays where it is.
    let baseVolume := p.audioDuckingBaseVolume.getD element.volume
    { p with audioElement := some { element with volume := min baseVolume targetVolume } }

/-- `clearTimeout`; the field keeps the timer. -/
def clearTimeout (p : Playback) : Option Nat → Playback
  | none => p
  | some timer => { p with timers := p.timers.erase timer }

section ClearTimeout

variable (p : Playback) (timer : Option Nat)

@[simp] theorem clearTimeout_audioElement :
    (p.clearTimeout timer).audioElement = p.audioElement := by
  cases timer <;> rfl

@[simp] theorem clearTimeout_audioDuckingConfig :
    (p.clearTimeout timer).audioDuckingConfig = p.audioDuckingConfig := by
  cases timer <;> rfl

@[simp] theorem clearTimeout_audioDuckingBaseVolume :
    (p.clearTimeout timer).audioDuckingBaseVolume = p.audioDuckingBaseVolume := by
  cases timer <;> rfl

@[simp] theorem clearTimeout_audioDuckingSources :
    (p.clearTimeout timer).audioDuckingSources = p.audioDuckingSources := by
  cases timer <;> rfl

@[simp] theorem clearTimeout_audioDuckingReleaseTimer :
    (p.clearTimeout timer).audioDuckingReleaseTimer = p.audioDuckingReleaseTimer := by
  cases timer <;> rfl

@[simp] theorem clearTimeout_playoutSuspendOwner :
    (p.clearTimeout timer).playoutSuspendOwner = p.playoutSuspendOwner := by
  cases timer <;> rfl

@[simp] theorem clearTimeout_mutedBeforePlayoutSuspend :
    (p.clearTimeout timer).mutedBeforePlayoutSuspend = p.mutedBeforePlayoutSuspend := by
  cases timer <;> rfl

theorem clearTimeout_timers : (p.clearTimeout timer).timers = p.timers \ timer.toFinset := by
  cases timer <;> simp [clearTimeout, Finset.sdiff_singleton_eq_erase]

end ClearTimeout

def beginAudioDucking (p : Playback) : Playback :=
  match p.audioElement, p.audioDuckingConfig with
  | some element, some config =>
    let p := { p.clearTimeout p.audioDuckingReleaseTimer with audioDuckingReleaseTimer := none }
    -- The volume of before is kept once, however many sources engage.
    let p := { p with
      audioDuckingBaseVolume := some (p.audioDuckingBaseVolume.getD element.volume) }
    p.setDuckedVolume config.duckVolume
  | _, _ => p

def resetAudioDuckingState (p : Playback) : Playback :=
  { p with audioDuckingBaseVolume := none, audioDuckingSources := ∅ }

def restoreDuckedVolume (p : Playback) : Playback :=
  let p : Playback := { p with
    audioElement := p.audioElement.map fun element =>
      { element with volume := p.audioDuckingBaseVolume.getD element.volume } }
  p.resetAudioDuckingState

def requestAudioDuckingRelease (p : Playback) : Playback :=
  -- The other source holds the volume down.
  if p.audioDuckingSources ≠ ∅ then p
  else
    let delay := (p.audioDuckingConfig.map (·.releaseDelayMs)).getD 0
    let p := p.clearTimeout p.audioDuckingReleaseTimer
    if delay ≤ 0 then p.restoreDuckedVolume
    else { p with
      timers := insert p.timersSet p.timers
      audioDuckingReleaseTimer := some p.timersSet
      timersSet := p.timersSet + 1 }

/-- The callback of a release timer. -/
def releaseTimerFires (p : Playback) : Playback :=
  let p := { p with audioDuckingReleaseTimer := none }
  -- A source may have engaged since the timer was set.
  if p.audioDuckingSources = ∅ then p.restoreDuckedVolume else p

def stopAudioDucking (p : Playback) : Playback :=
  let p := { p.clearTimeout p.audioDuckingReleaseTimer with audioDuckingReleaseTimer := none }
  p.restoreDuckedVolume

def engageAudioDuckingSource (p : Playback) (source : AudioDuckingSource) : Playback :=
  { p with audioDuckingSources := insert source p.audioDuckingSources }.beginAudioDucking

def clearAudioDuckingSource (p : Playback) (source : AudioDuckingSource) : Playback :=
  { p with audioDuckingSources := p.audioDuckingSources.erase source }.requestAudioDuckingRelease

def handleAudioDuckingControlEvent (p : Playback) (event : ControlEvent) : Playback :=
  if p.audioDuckingConfig.isNone ∨ p.audioElement.isNone then p
  else
    let type := eventTypeFromControlEvent event
    if type ∈ duckingVoxStartEvents then p.engageAudioDuckingSource .speech
    else if type ∈ duckingVoxStopEvents then p.clearAudioDuckingSource .speech
    else if type ≠ duckingTurnStateEvent then p
    else
      let state := (((payloadFromControlEvent event).get? "state").bind Json.str?).getD ""
      if state ∈ duckingHeldTurnStates then p.engageAudioDuckingSource .hold
      else if state ∈ duckingReleasedTurnStates then p.clearAudioDuckingSource .hold
      else p

/-! ## Suspension -/

def releasePlayoutSuspend (p : Playback) : Playback :=
  { p with
    audioElement := p.audioElement.map fun element =>
      { element with muted := p.mutedBeforePlayoutSuspend.getD element.muted }
    playoutSuspendOwner := none
    mutedBeforePlayoutSuspend := none }

/-- `typeof candidateId === "number" && Number.isSafeInteger(candidateId) && candidateId > 0`. -/
def validCandidateId : Option (Json Binary64) → Option Binary64
  | some (.num candidateId) =>
    if (TypeScript.Gateway.safeInteger? (.num candidateId)).any (0 < ·) then some candidateId
    else none
  | _ => none

/-- `payload.candidate_id === this.#playoutSuspendOwner`. -/
def ownedBy (candidateId : Option (Json Binary64)) (owner : Option Binary64) : Bool :=
  match candidateId, owner with
  | some (.num candidateId), some owner => candidateId.strictEq owner
  | some .null, none => true
  | _, _ => false

def handlePlayoutControlEvent (p : Playback) (event : ControlEvent) : Playback :=
  match p.audioElement with
  | none => p
  | some element =>
    let type := eventTypeFromControlEvent event
    let candidateId := (payloadFromControlEvent event).get? "candidate_id"
    if type = playoutSuspendEvent then
      match validCandidateId candidateId with
      | none => p
      -- A later candidate takes the suspension over; what the element was before stays.
      | some candidateId => { p with
          mutedBeforePlayoutSuspend := some (p.mutedBeforePlayoutSuspend.getD element.muted)
          playoutSuspendOwner := some candidateId
          audioElement := some { element with muted := true } }
    else if type = playoutResumeEvent then
      if ownedBy candidateId p.playoutSuspendOwner then p.releasePlayoutSuspend else p
    else if type ∈ playoutTerminalEvents then p.releasePlayoutSuspend
    else p

/-! ## Events -/

/-- What happens to the client, short of the events that do nothing here. -/
inductive Event where
  | dataChannel (event : String) (payload : Json Binary64)
  | signaling (type : String) (data : Members Binary64)
  | timer (timer : Nat)
  | cleanup

/-- The control event that the message listeners make of an event. -/
def Event.control : Event → Option ControlEvent
  | .dataChannel event payload => some (.obj [("event", .str event), ("payload", payload)])
  | .signaling type data => some (.obj [("type", .str type), ("data", .obj data)])
  | _ => none

/-- The head of `#cleanup`. -/
def cleanup (p : Playback) : Playback := p.releasePlayoutSuspend.stopAudioDucking

def handleControlEvent (p : Playback) (event : ControlEvent) : Playback :=
  (p.handlePlayoutControlEvent event).handleAudioDuckingControlEvent event

def step (p : Playback) : Event → Option Playback
  | .timer timer =>
    if timer ∈ p.timers then some { p with timers := p.timers.erase timer }.releaseTimerFires
    else none
  | .cleanup => some p.cleanup
  | event => event.control.map p.handleControlEvent

end Playback

/-- A client with an audio element, from its construction. -/
def playback (element : AudioElement) (config : Option NormalizedAudioDuckingConfig) :
    System Playback Playback.Event where
  init := { audioElement := some element, audioDuckingConfig := config }
  step := Playback.step

namespace Playback

/-! ## What an event says -/

/-- The name of an event and the members of its payload. -/
def Event.named : Event → Option (String × Members Binary64)
  | .dataChannel event payload => some (event, payload.object?.getD [])
  | .signaling type data => some (type, data)
  | _ => none

/-- The handlers see the name of an event, and of its payload all but the members that an event
has of its own. -/
theorem control_named {event : Event} {control : ControlEvent} {name : String}
    {members : Members Binary64} (seen : event.control = some control)
    (named : event.named = some (name, members)) :
    eventTypeFromControlEvent control = name ∧
      ∀ key, key ≠ "event" → key ≠ "payload" → key ≠ "type" → key ≠ "data" →
        (payloadFromControlEvent control).get? key = members.get? key := by
  cases event with
  | dataChannel event payload =>
    cases seen
    cases named
    constructor
    · simp [eventTypeFromControlEvent, Members.get?]
    · intro key event' payload' _ _
      -- A payload that is no object leaves the event itself to be read.
      cases payload with
      | obj members => simp [payloadFromControlEvent, Members.get?, Json.object?]
      | _ =>
        simp [payloadFromControlEvent, Members.get?, Json.object?, event'.symm, payload'.symm]
  | signaling type data =>
    cases seen
    cases named
    simp [eventTypeFromControlEvent, payloadFromControlEvent, Members.get?]
  | timer timer => cases seen
  | cleanup => cases seen

end Playback

end VoxRtc.Browser
