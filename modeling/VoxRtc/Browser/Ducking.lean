import VoxRtc.Browser.Playback

/-!
# Ducked playback

The volume of the audio element over whole runs: an overridden value, which a source engages
and which is released when no source is left, at once or after a delay.
-/
namespace VoxRtc.Browser.Playback

open Transition Wire

/-- What an event tells the ducking. -/
inductive DuckingSignal where
  | engages (source : AudioDuckingSource)
  | clears (source : AudioDuckingSource)
  | stops
  deriving DecidableEq

def DuckingSignal.of (name : String) (payload : Members Binary64) : Option DuckingSignal :=
  if name ∈ duckingVoxStartEvents then some (.engages .speech)
  else if name ∈ duckingVoxStopEvents then some (.clears .speech)
  else if name = duckingTurnStateEvent then
    match (payload.get? "state").bind Json.str? with
    | some state =>
      if state ∈ duckingHeldTurnStates then some (.engages .hold)
      else if state ∈ duckingReleasedTurnStates then some (.clears .hold)
      else none
    | none => none
  else none

def Event.ducking : Event → Option DuckingSignal
  | .cleanup => some .stops
  | event => event.named.bind fun said => DuckingSignal.of said.1 said.2

/-- A source is engaged since its last signal, if no cleanup has come after that. -/
def Engaged (source : AudioDuckingSource) : List DuckingSignal → Prop :=
  Since (· = .engages source) fun signal => signal = .clears source ∨ signal = .stops

/-- The volume as an overridden value. -/
def fader (p : Playback) : Option (Overridden ℚ) :=
  p.audioElement.map fun element => ⟨element.volume, p.audioDuckingBaseVolume⟩

def ducked (p : Playback) : Bool := p.audioDuckingBaseVolume.isSome

/-- What the ducking is meant to do, given the volume at the start and the signals so far. -/
structure DuckedExactly (volume : ℚ) (config : NormalizedAudioDuckingConfig)
    (signals : List DuckingSignal) (p : Playback) : Prop where
  /-- The volume at the start is the one that each episode finds. -/
  level : p.audioElement.map (·.volume) =
    some (if p.ducked then min volume config.duckVolume else volume)
  saved : ∀ base, p.audioDuckingBaseVolume = some base → base = volume
  engaged : ∀ source, source ∈ p.audioDuckingSources ↔ Engaged source signals
  ducks : ∀ source, Engaged source signals → p.ducked = true
  pending : ∀ timer ∈ p.timers, ∀ source, ¬Engaged source signals
  restored : (∀ source, ¬Engaged source signals) → p.timers = ∅ →
    p.audioElement.map (·.volume) = some volume

/-- The state of the ducking in any run. -/
structure Ducking (volume : ℚ) (config : NormalizedAudioDuckingConfig)
    (signals : List DuckingSignal) (p : Playback) : Prop where
  configured : p.audioDuckingConfig = some config
  fader : ∃ o, p.fader = some o ∧ o.original = volume ∧ o.By (min · config.duckVolume)
  engaged : ∀ source, source ∈ p.audioDuckingSources ↔ Engaged source signals
  held : p.audioDuckingSources ≠ ∅ →
    p.audioDuckingBaseVolume.isSome ∧ p.audioDuckingReleaseTimer = none
  free : p.audioDuckingSources = ∅ → p.audioDuckingReleaseTimer = none →
    p.audioDuckingBaseVolume = none
  timers : p.timers = p.audioDuckingReleaseTimer.toFinset
  delayed : p.audioDuckingReleaseTimer.isSome → 0 < config.releaseDelayMs

variable {volume : ℚ} {config : NormalizedAudioDuckingConfig} {signals : List DuckingSignal}
  {p q : Playback}

/-- The element behind the fader. -/
theorem Ducking.element (ducking : Ducking volume config signals p) :
    ∃ element, p.audioElement = some element ∧
      p.audioDuckingBaseVolume.getD element.volume = volume ∧
      ∀ base, p.audioDuckingBaseVolume = some base →
        element.volume = min base config.duckVolume := by
  obtain ⟨o, found, original, applied⟩ := ducking.fader
  obtain ⟨element, present, rfl⟩ := Option.map_eq_some_iff.mp found
  exact ⟨element, present, original, applied⟩

/-- The invariant says what the ducking is meant to do. -/
theorem Ducking.exactly (ducking : Ducking volume config signals p) :
    DuckedExactly volume config signals p := by
  obtain ⟨element, present, original, applied⟩ := ducking.element
  -- The base volume is what the element had before, so the level follows from it.
  have level : p.audioElement.map (·.volume) =
      some (if p.ducked then min volume config.duckVolume else volume) := by
    rw [present, Option.map_some, Option.some.injEq, ducked]
    cases base : p.audioDuckingBaseVolume with
    | none =>
      rw [base, Option.getD_none] at original
      exact original
    | some v =>
      rw [base, Option.getD_some] at original
      rw [← original]
      exact applied v base
  have sources (source : AudioDuckingSource) (engaged : Engaged source signals) :
      p.audioDuckingSources ≠ ∅ :=
    Finset.ne_empty_of_mem ((ducking.engaged source).mpr engaged)
  refine ⟨level, ?_, ducking.engaged, ?_, ?_, ?_⟩
  · intro v base
    rw [base, Option.getD_some] at original
    exact original
  · exact fun source engaged => (ducking.held (sources source engaged)).1
  · -- A timer that is set is the release timer, and that one is cleared by a source.
    intro timer set source engaged
    have cleared := (ducking.held (sources source engaged)).2
    rw [ducking.timers, cleared] at set
    simp at set
  · intro quiet cleared
    have empty : p.audioDuckingSources = ∅ :=
      Finset.eq_empty_of_forall_notMem fun source among =>
        quiet source ((ducking.engaged source).mp among)
    have none' : p.audioDuckingReleaseTimer = none := by
      rw [ducking.timers] at cleared
      cases timer : p.audioDuckingReleaseTimer with
      | none => rfl
      | some t => simp [timer] at cleared
    rw [level, ducked, ducking.free empty none']
    rfl

/-! ## What leaves the ducking alone -/

structure SameDucking (p q : Playback) : Prop where
  fader : q.fader = p.fader
  config : q.audioDuckingConfig = p.audioDuckingConfig
  base : q.audioDuckingBaseVolume = p.audioDuckingBaseVolume
  sources : q.audioDuckingSources = p.audioDuckingSources
  timer : q.audioDuckingReleaseTimer = p.audioDuckingReleaseTimer
  timers : q.timers = p.timers

theorem Ducking.transfer (same : SameDucking p q) (ducking : Ducking volume config signals p) :
    Ducking volume config signals q where
  configured := same.config.trans ducking.configured
  fader := by rw [same.fader]; exact ducking.fader
  engaged := by rw [same.sources]; exact ducking.engaged
  held := by rw [same.sources, same.base, same.timer]; exact ducking.held
  free := by rw [same.sources, same.base, same.timer]; exact ducking.free
  timers := by rw [same.timers, same.timer]; exact ducking.timers
  delayed := by rw [same.timer]; exact ducking.delayed

theorem releasePlayoutSuspend_ducking : SameDucking p p.releasePlayoutSuspend := by
  refine ⟨?_, rfl, rfl, rfl, rfl, rfl⟩
  simp [fader, releasePlayoutSuspend, Option.map_map, Function.comp_def]

theorem handlePlayoutControlEvent_ducking (event : ControlEvent) :
    SameDucking p (p.handlePlayoutControlEvent event) := by
  have same : SameDucking p p := ⟨rfl, rfl, rfl, rfl, rfl, rfl⟩
  unfold handlePlayoutControlEvent
  cases found : p.audioElement with
  | none => exact same
  | some element =>
    dsimp only
    split
    · split
      · exact same
      · exact ⟨by simp [fader, found], rfl, rfl, rfl, rfl, rfl⟩
    · split
      · split
        · exact releasePlayoutSuspend_ducking
        · exact same
      · split
        · exact releasePlayoutSuspend_ducking
        · exact same

/-! ## What the operations do -/

theorem engaged_engages {source other : AudioDuckingSource} :
    Engaged other (signals ++ [.engages source]) ↔ other = source ∨ Engaged other signals := by
  rw [Engaged, since_append_one]
  simp [eq_comm]

theorem engaged_clears {source other : AudioDuckingSource} :
    Engaged other (signals ++ [.clears source]) ↔ Engaged other signals ∧ other ≠ source := by
  rw [Engaged, since_append_one]
  simp [eq_comm]

theorem engaged_stops {other : AudioDuckingSource} : ¬Engaged other (signals ++ [.stops]) := by
  rw [Engaged, since_append_one]
  simp

/-- A client with an audio element and ducking configured ducks the volume. -/
theorem beginAudioDucking_eq {element : AudioElement} (present : p.audioElement = some element)
    (configured : p.audioDuckingConfig = some config) :
    p.beginAudioDucking = { p.clearTimeout p.audioDuckingReleaseTimer with
      audioDuckingReleaseTimer := none
      audioDuckingBaseVolume := some (p.audioDuckingBaseVolume.getD element.volume)
      audioElement := some { element with
        volume := min (p.audioDuckingBaseVolume.getD element.volume) config.duckVolume } } := by
  unfold beginAudioDucking
  simp [present, configured, setDuckedVolume]

/-- No timer is set once the release timer is cleared. -/
theorem Ducking.cleared (ducking : Ducking volume config signals p) :
    p.timers \ p.audioDuckingReleaseTimer.toFinset = ∅ := by
  rw [ducking.timers, Finset.sdiff_self]

theorem Ducking.engages (ducking : Ducking volume config signals p) (source : AudioDuckingSource) :
    Ducking volume config (signals ++ [.engages source]) (p.engageAudioDuckingSource source) := by
  obtain ⟨element, present, original, _⟩ := ducking.element
  have ducks : p.engageAudioDuckingSource source = _ :=
    beginAudioDucking_eq (p := { p with
      audioDuckingSources := insert source p.audioDuckingSources }) present ducking.configured
  rw [ducks]
  let found : Overridden ℚ := ⟨element.volume, p.audioDuckingBaseVolume⟩
  refine ⟨?_, ⟨found.engage (min · config.duckVolume), ?_, original, Overridden.by_engage⟩,
    ?_, ?_, ?_, ?_, ?_⟩
  · simp [ducking.configured]
  · simp [Playback.fader, found, Overridden.engage, Overridden.original]
  · intro other
    simp [engaged_engages, ducking.engaged]
  · simp
  · simp
  · simp [clearTimeout_timers, ducking.cleared]
  · simp

theorem fader_restored : p.restoreDuckedVolume.fader = p.fader.map Overridden.release := by
  simp [restoreDuckedVolume, resetAudioDuckingState, fader, Option.map_map, Function.comp_def,
    Overridden.release, Overridden.original]

/-- With no source and no timer left, the volume is restored. -/
theorem Ducking.restores (ducking : Ducking volume config signals p) {more : List DuckingSignal}
    (quiet : ∀ source, ¬Engaged source more) (fader : q.fader = p.fader)
    (configured : q.audioDuckingConfig = p.audioDuckingConfig)
    (timer : q.audioDuckingReleaseTimer = none) (cleared : q.timers = ∅) :
    Ducking volume config more q.restoreDuckedVolume := by
  obtain ⟨o, found, original, _⟩ := ducking.fader
  refine ⟨configured.trans ducking.configured, ⟨o.release, ?_, original, Overridden.by_release⟩,
    ?_, ?_, ?_, ?_, ?_⟩
  · rw [fader_restored, fader, found, Option.map_some]
  · intro source
    simp [restoreDuckedVolume, resetAudioDuckingState, quiet]
  · simp [restoreDuckedVolume, resetAudioDuckingState]
  · simp [restoreDuckedVolume, resetAudioDuckingState]
  · simp [restoreDuckedVolume, resetAudioDuckingState, timer, cleared]
  · simp [restoreDuckedVolume, resetAudioDuckingState, timer]

theorem Ducking.stops (ducking : Ducking volume config signals p) :
    Ducking volume config (signals ++ [.stops]) p.stopAudioDucking := by
  refine ducking.restores (fun source => engaged_stops) ?_ ?_ rfl ?_
  · simp [Playback.fader]
  · simp
  · simp [clearTimeout_timers, ducking.cleared]

theorem Ducking.fires (ducking : Ducking volume config signals p) {timer : Nat}
    (set : timer ∈ p.timers) :
    Ducking volume config signals { p with timers := p.timers.erase timer }.releaseTimerFires := by
  have release : p.audioDuckingReleaseTimer = some timer := by
    simpa [ducking.timers] using set
  have empty : p.audioDuckingSources = ∅ := by
    by_contra held
    have cleared := (ducking.held held).2
    rw [release] at cleared
    cases cleared
  unfold releaseTimerFires
  rw [if_pos (by exact empty)]
  refine ducking.restores (fun source engaged => ?_) rfl rfl rfl ?_
  · have among := (ducking.engaged source).mpr engaged
    rw [empty] at among
    simp at among
  · simp [ducking.timers, release]

theorem Ducking.clears (ducking : Ducking volume config signals p) (source : AudioDuckingSource) :
    Ducking volume config (signals ++ [.clears source]) (p.clearAudioDuckingSource source) := by
  have engaged (other : AudioDuckingSource) : other ∈ p.audioDuckingSources.erase source ↔
      Engaged other (signals ++ [.clears source]) := by
    simp [engaged_clears, ducking.engaged, and_comm]
  unfold clearAudioDuckingSource requestAudioDuckingRelease
  -- Another source may still be engaged.
  by_cases left : p.audioDuckingSources.erase source = ∅
  · have quiet (other : AudioDuckingSource) : ¬Engaged other (signals ++ [.clears source]) := by
      rw [← engaged, left]
      simp
    simp only [left, ne_eq, not_true, if_false, ducking.configured, Option.map_some, Option.getD_some]
    by_cases atOnce : config.releaseDelayMs ≤ 0
    · -- Without a delay there has never been a timer.
      have never : p.audioDuckingReleaseTimer = none := by
        cases timer : p.audioDuckingReleaseTimer with
        | none => rfl
        | some t => exact absurd (ducking.delayed (by simp [timer])) (not_lt.mpr atOnce)
      rw [if_pos atOnce]
      refine ducking.restores quiet ?_ ?_ ?_ ?_
      · simp [Playback.fader]
      · simp [ducking.configured]
      · simp [never]
      · simp [never, clearTimeout, ducking.timers]
    · rw [if_neg atOnce]
      obtain ⟨o, found, original, applied⟩ := ducking.fader
      refine ⟨?_, ⟨o, ?_, original, applied⟩, ?_, ?_, ?_, ?_, ?_⟩
      · simp
      · simpa [Playback.fader] using found
      · simpa using quiet
      · simp
      · simp
      · simp [clearTimeout_timers, ducking.cleared]
      · simpa using atOnce
  · have held : p.audioDuckingSources ≠ ∅ := by
      intro empty
      simp [empty] at left
    obtain ⟨base, timer⟩ := ducking.held held
    rw [if_pos left]
    exact ⟨ducking.configured, ducking.fader, engaged, fun _ => ⟨base, timer⟩,
      fun empty => absurd empty left, ducking.timers, ducking.delayed⟩

/-! ## Whole runs -/

def hears (p : Playback) : DuckingSignal → Playback
  | .engages source => p.engageAudioDuckingSource source
  | .clears source => p.clearAudioDuckingSource source
  | .stops => p.stopAudioDucking

theorem Ducking.hears (ducking : Ducking volume config signals p) (signal : DuckingSignal) :
    Ducking volume config (signals ++ [signal]) (p.hears signal) := by
  cases signal with
  | engages source => exact ducking.engages source
  | clears source => exact ducking.clears source
  | stops => exact ducking.stops

/-- The handler does what the event says. -/
theorem handleAudioDuckingControlEvent_eq (ducking : Ducking volume config signals p)
    {event : Event} {control : ControlEvent} {name : String} {payload : Members Binary64}
    (seen : event.control = some control) (named : event.named = some (name, payload)) :
    p.handleAudioDuckingControlEvent control =
      ((DuckingSignal.of name payload).map p.hears).getD p := by
  obtain ⟨element, present, _⟩ := ducking.element
  obtain ⟨type, members⟩ := control_named seen named
  have state := members "state" (by decide) (by decide) (by decide) (by decide)
  unfold handleAudioDuckingControlEvent DuckingSignal.of
  rw [if_neg (by simp [ducking.configured, present])]
  simp only [type, state]
  by_cases starts : name ∈ duckingVoxStartEvents
  · rw [if_pos starts, if_pos starts]
    rfl
  · rw [if_neg starts, if_neg starts]
    by_cases stops : name ∈ duckingVoxStopEvents
    · rw [if_pos stops, if_pos stops]
      rfl
    · rw [if_neg stops, if_neg stops]
      by_cases turn : name = duckingTurnStateEvent
      · rw [if_neg (not_not.mpr turn), if_pos turn]
        cases (payload.get? "state").bind Json.str? with
        | none => simp [duckingHeldTurnStates, duckingReleasedTurnStates]
        | some state =>
          simp only [Option.getD_some]
          by_cases held : state ∈ duckingHeldTurnStates
          · rw [if_pos held, if_pos held]
            rfl
          · rw [if_neg held, if_neg held]
            split <;> rfl
      · rw [if_pos turn, if_neg turn]
        rfl

theorem Ducking.step (ducking : Ducking volume config signals p) {event : Event}
    (taken : p.step event = some q) : Ducking volume config (signals ++ event.ducking.toList) q := by
  have control {control : ControlEvent} {name : String} {payload : Members Binary64}
      (seen : event.control = some control) (named : event.named = some (name, payload)) :
      Ducking volume config (signals ++ (DuckingSignal.of name payload).toList)
        (p.handleControlEvent control) := by
    have suspended := ducking.transfer (handlePlayoutControlEvent_ducking control)
    rw [handleControlEvent, handleAudioDuckingControlEvent_eq suspended seen named]
    cases DuckingSignal.of name payload with
    | none => simpa using suspended
    | some signal => exact suspended.hears signal
  cases event with
  | dataChannel event payload =>
    cases taken
    exact control rfl rfl
  | signaling type data =>
    cases taken
    exact control rfl rfl
  | timer timer =>
    obtain ⟨set, fired⟩ := Option.ite_none_right_eq_some.mp taken
    cases fired
    have fires := ducking.fires set
    simpa [Event.ducking, Event.named] using fires
  | cleanup =>
    cases taken
    exact (ducking.transfer releasePlayoutSuspend_ducking).stops

theorem ducking_start (element : AudioElement) (config : NormalizedAudioDuckingConfig) :
    Ducking element.volume config [] (playback element (some config)).init := by
  refine ⟨rfl, ⟨⟨element.volume, none⟩, rfl, rfl, ?_⟩, ?_, ?_, ?_, rfl, ?_⟩
  · intro v saved
    cases saved
  · intro source
    constructor
    · intro among
      cases among
    · exact fun engaged => absurd engaged since_nil
  · exact fun held => absurd rfl held
  · exact fun _ _ => rfl
  · intro timer
    cases timer

/-- The ducking holds in every run. -/
theorem ducking_runs (element : AudioElement) (config : NormalizedAudioDuckingConfig)
    {r : Playback × List DuckingSignal}
    (reached : ((playback element (some config)).recorded fun _ event =>
      event.ducking.toList).Reaches always r) :
    Ducking element.volume config r.2 r.1 :=
  System.Reaches.recorded (C := always) (P := fun signals p =>
      Ducking element.volume config signals p) (ducking_start element config)
    (fun _ _ _ _ holds _ taken => holds.step taken) reached

/-- A volume outside of zero to one, which the element would refuse, is never set. -/
theorem volume_inRange {element : AudioElement} {option : AudioDuckingOption}
    {config : NormalizedAudioDuckingConfig}
    (normalized : normalizeAudioDuckingConfig option = some config)
    (inside : 0 ≤ element.volume ∧ element.volume ≤ 1) {r : Playback × List DuckingSignal}
    (reached : ((playback element (some config)).recorded fun _ event =>
      event.ducking.toList).Reaches always r) {now : AudioElement}
    (present : r.1.audioElement = some now) : 0 ≤ now.volume ∧ now.volume ≤ 1 := by
  obtain ⟨low, high⟩ := duckVolume_inRange normalized
  obtain ⟨found, here, original, applied⟩ := (ducking_runs element config reached).element
  cases present.symm.trans here
  cases base : r.1.audioDuckingBaseVolume with
  | none =>
    rw [base, Option.getD_none] at original
    rw [original]
    exact inside
  | some v =>
    rw [base, Option.getD_some] at original
    rw [applied v base, original]
    exact ⟨le_min inside.1 low, (min_le_right _ _).trans high⟩

/-- Ducking is exact in every run: over every sequence of control events, release timers and
cleanups, the volume is the one at the start, or its minimum with the volume to duck to. -/
theorem ducking_exact (element : AudioElement) (config : NormalizedAudioDuckingConfig)
    {r : Playback × List DuckingSignal}
    (reached : ((playback element (some config)).recorded fun _ event =>
      event.ducking.toList).Reaches always r) :
    DuckedExactly element.volume config r.2 r.1 :=
  (ducking_runs element config reached).exactly

/-- A client that has ducked twice and is at rest again. -/
def rested : Playback :=
  { audioElement := some ⟨1, false⟩, audioDuckingConfig := some ⟨0, 350⟩, timersSet := 2 }

/-- Speech starts, stops, starts again before the release timer fires, stops, and the volume is
restored by the second timer. -/
theorem ducking_exact_overlap :
    DuckedExactly 1 ⟨0, 350⟩
      [.engages .speech, .clears .speech, .engages .speech, .clears .speech] rested := by
  have ran : ((playback ⟨1, false⟩ (some ⟨0, 350⟩)).recorded fun _ event =>
      event.ducking.toList).run
        ((playback ⟨1, false⟩ (some ⟨0, 350⟩)).init, [])
        [.signaling "input_audio_buffer.speech_started" [],
          .dataChannel "input_audio_buffer.speech_stopped" .null,
          .dataChannel "interruption.detected" .null,
          .signaling "interruption.false_positive" [], .timer 1] =
      some (rested, [.engages .speech, .clears .speech, .engages .speech, .clears .speech]) := by
    decide +kernel
  exact ducking_exact ⟨1, false⟩ ⟨0, 350⟩ (System.reaches_of_run _ ran)

end VoxRtc.Browser.Playback
