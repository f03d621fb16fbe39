import VoxRtc.Browser.Playback

/-!
# Suspended playback

The muted flag of the audio element over whole runs: an overridden value, which the candidate
of a suspend event owns until that candidate resumes or playback ends.
-/
namespace VoxRtc.Browser.Playback

open Transition Wire

/-- The positive safe integer that a candidate id is. -/
def candidateNumber : Option (Json Binary64) → Option Nat
  | some (.num (.finite x)) => x.safe?
  | _ => none

/-- What an event tells the suspension; a suspend or a resume without a valid id tells it
nothing. -/
inductive SuspensionSignal where
  | suspends (candidate : Nat)
  | resumes (candidate : Nat)
  | ends
  deriving DecidableEq

def SuspensionSignal.of (name : String) (payload : Members Binary64) : Option SuspensionSignal :=
  if name = playoutSuspendEvent then
    (candidateNumber (payload.get? "candidate_id")).map .suspends
  else if name = playoutResumeEvent then
    (candidateNumber (payload.get? "candidate_id")).map .resumes
  else if name ∈ playoutTerminalEvents then some .ends
  else none

def Event.suspension : Event → Option SuspensionSignal
  | .cleanup => some .ends
  | event => event.named.bind fun said => SuspensionSignal.of said.1 said.2

/-- A candidate owns the suspension since its last suspend event, if no other candidate has
suspended, it has not resumed and nothing has ended it after that. -/
def Owned (candidate : Nat) : List SuspensionSignal → Prop :=
  Since (· = .suspends candidate) fun signal =>
    (∃ other, signal = .suspends other) ∨ signal = .resumes candidate ∨ signal = .ends

/-- The muted flag as an overridden value. -/
def mute (p : Playback) : Option (Overridden Bool) :=
  p.audioElement.map fun element => ⟨element.muted, p.mutedBeforePlayoutSuspend⟩

def owner (p : Playback) : Option Nat := candidateNumber (p.playoutSuspendOwner.map .num)

/-- What the suspension is meant to do, given the flag at the start and the signals so far. -/
structure SuspendedExactly (muted : Bool) (signals : List SuspensionSignal) (p : Playback) :
    Prop where
  level : p.audioElement.map (·.muted) = some (muted || p.playoutSuspendOwner.isSome)
  owned : ∀ candidate, p.owner = some candidate ↔ Owned candidate signals
  known : p.playoutSuspendOwner.isSome = p.owner.isSome
  saved : p.mutedBeforePlayoutSuspend = if p.playoutSuspendOwner.isSome then some muted else none
  /-- A resume that does not name the owner changes nothing. -/
  others : ∀ event payload, Event.named event = some (playoutResumeEvent, payload) →
    (∀ candidate, candidateNumber (payload.get? "candidate_id") = some candidate →
      ¬Owned candidate signals) → p.step event = some p

/-- The state of the suspension in any run. -/
structure Suspension (muted : Bool) (signals : List SuspensionSignal) (p : Playback) : Prop where
  mute : ∃ o, p.mute = some o ∧ o.original = muted ∧ o.By fun _ => true
  held : p.mutedBeforePlayoutSuspend.isSome = p.playoutSuspendOwner.isSome
  known : p.playoutSuspendOwner.isSome = p.owner.isSome
  owned : ∀ candidate, p.owner = some candidate ↔ Owned candidate signals

variable {muted : Bool} {signals : List SuspensionSignal} {p q : Playback}

/-! ## Candidate ids -/

theorem candidateNumber_num (candidateId : Binary64) :
    candidateNumber (some (.num candidateId)) = candidateId.finite?.bind Finite64.safe? := by
  cases candidateId <;> rfl

theorem candidateNumber_given {candidateId : Option (Json Binary64)} {n : Nat}
    (number : candidateNumber candidateId = some n) : ∃ d, candidateId = some (.num d) := by
  unfold candidateNumber at number
  split at number
  · exact ⟨_, rfl⟩
  · cases number

/-- The ids that suspend playback are the positive safe integers. -/
theorem validCandidateId_eq (candidateId : Option (Json Binary64)) :
    validCandidateId candidateId = (candidateNumber candidateId).bind fun _ =>
      candidateId.bind Json.num? := by
  cases candidateId with
  | none => rfl
  | some value =>
    cases value with
    | num d =>
      rw [candidateNumber_num, ← TypeScript.Gateway.safeInteger?_double, validCandidateId]
      cases TypeScript.Gateway.safeInteger? (.num d) with
      | none => rfl
      | some n =>
        by_cases low : n < 1
        · have negative : ¬0 < n := by omega
          simp [low, negative]
        · have positive : 0 < n := by omega
          simp [low, positive, Json.num?]
    | _ => rfl

/-- An id is the owner's when it is the same number. -/
theorem ownedBy_iff {candidateId : Option (Json Binary64)} {owner : Binary64} {n : Nat}
    (known : candidateNumber (some (.num owner)) = some n) :
    ownedBy candidateId (some owner) = true ↔ candidateNumber candidateId = some n := by
  cases owner with
  | finite y =>
    obtain ⟨low, high, value⟩ := Finite64.safe?_eq_some.mp known
    cases candidateId with
    | none => simp [ownedBy, candidateNumber]
    | some v =>
      cases v with
      | num d =>
        cases d with
        | finite x =>
          have same : ownedBy (some (.num (.finite x))) (some (.finite y)) = true ↔
              x.toRat = y.toRat := Finite64.strictEq_iff
          rw [same, value, candidateNumber, Finite64.safe?_eq_some]
          exact ⟨fun equal => ⟨low, high, equal⟩, fun seen => seen.2.2⟩
        | infinity negative => simp [ownedBy, candidateNumber, Binary64.strictEq]
        | nan => simp [ownedBy, candidateNumber, Binary64.strictEq]
      | _ => simp [ownedBy, candidateNumber]
  | infinity negative => cases known
  | nan => cases known

/-! ## What leaves the suspension alone -/

structure SameSuspension (p q : Playback) : Prop where
  muted : q.audioElement.map (·.muted) = p.audioElement.map (·.muted)
  owner : q.playoutSuspendOwner = p.playoutSuspendOwner
  saved : q.mutedBeforePlayoutSuspend = p.mutedBeforePlayoutSuspend

theorem SameSuspension.trans {r : Playback} (first : SameSuspension p q)
    (second : SameSuspension q r) : SameSuspension p r :=
  ⟨second.muted.trans first.muted, second.owner.trans first.owner, second.saved.trans first.saved⟩

theorem SameSuspension.mute (same : SameSuspension p q) : q.mute = p.mute := by
  have whole (r : Playback) : r.mute = (r.audioElement.map (·.muted)).map fun muted =>
      ⟨muted, r.mutedBeforePlayoutSuspend⟩ := by
    simp [Playback.mute, Option.map_map, Function.comp_def]
  rw [whole, whole, same.muted, same.saved]

theorem Suspension.transfer (same : SameSuspension p q) (suspension : Suspension muted signals p) :
    Suspension muted signals q where
  mute := by rw [same.mute]; exact suspension.mute
  held := by rw [same.saved, same.owner]; exact suspension.held
  known := by rw [Playback.owner, same.owner]; exact suspension.known
  owned := by rw [Playback.owner, same.owner]; exact suspension.owned

theorem clearTimeout_suspension (timer : Option Nat) : SameSuspension p (p.clearTimeout timer) :=
  ⟨by simp, by simp, by simp⟩

theorem setDuckedVolume_suspension (volume : ℚ) : SameSuspension p (p.setDuckedVolume volume) := by
  unfold setDuckedVolume
  cases found : p.audioElement with
  | none => exact ⟨by simp [found], rfl, rfl⟩
  | some element => exact ⟨by simp [found], rfl, rfl⟩

theorem restoreDuckedVolume_suspension : SameSuspension p p.restoreDuckedVolume :=
  ⟨by simp [restoreDuckedVolume, resetAudioDuckingState, Option.map_map, Function.comp_def],
    rfl, rfl⟩

theorem beginAudioDucking_suspension : SameSuspension p p.beginAudioDucking := by
  unfold beginAudioDucking
  split
  · refine .trans ?_ (setDuckedVolume_suspension _)
    exact ⟨by simp, by simp, by simp⟩
  · exact ⟨rfl, rfl, rfl⟩

theorem requestAudioDuckingRelease_suspension : SameSuspension p p.requestAudioDuckingRelease := by
  unfold requestAudioDuckingRelease
  split
  · exact ⟨rfl, rfl, rfl⟩
  · dsimp only
    split
    · exact (clearTimeout_suspension _).trans restoreDuckedVolume_suspension
    · exact ⟨by simp, by simp, by simp⟩

theorem releaseTimerFires_suspension : SameSuspension p p.releaseTimerFires := by
  have cleared : SameSuspension p { p with audioDuckingReleaseTimer := none } := ⟨rfl, rfl, rfl⟩
  unfold releaseTimerFires
  dsimp only
  split
  · exact cleared.trans restoreDuckedVolume_suspension
  · exact cleared

theorem stopAudioDucking_suspension : SameSuspension p p.stopAudioDucking := by
  unfold stopAudioDucking
  refine .trans ?_ restoreDuckedVolume_suspension
  exact ⟨by simp, by simp, by simp⟩

theorem engageAudioDuckingSource_suspension (source : AudioDuckingSource) :
    SameSuspension p (p.engageAudioDuckingSource source) := by
  refine .trans ?_ beginAudioDucking_suspension
  exact ⟨rfl, rfl, rfl⟩

theorem clearAudioDuckingSource_suspension (source : AudioDuckingSource) :
    SameSuspension p (p.clearAudioDuckingSource source) := by
  refine .trans ?_ requestAudioDuckingRelease_suspension
  exact ⟨rfl, rfl, rfl⟩

theorem handleAudioDuckingControlEvent_suspension (event : ControlEvent) :
    SameSuspension p (p.handleAudioDuckingControlEvent event) := by
  have same : SameSuspension p p := ⟨rfl, rfl, rfl⟩
  unfold handleAudioDuckingControlEvent
  split
  · exact same
  · dsimp only
    split
    · exact engageAudioDuckingSource_suspension .speech
    · split
      · exact clearAudioDuckingSource_suspension .speech
      · split
        · exact same
        · split
          · exact engageAudioDuckingSource_suspension .hold
          · split
            · exact clearAudioDuckingSource_suspension .hold
            · exact same

/-! ## What the operations do -/

theorem owned_suspends {candidate other : Nat} :
    Owned other (signals ++ [.suspends candidate]) ↔ other = candidate := by
  rw [Owned, since_append_one]
  simp [eq_comm]

theorem owned_resumes {candidate other : Nat} :
    Owned other (signals ++ [.resumes candidate]) ↔ Owned other signals ∧ other ≠ candidate := by
  rw [Owned, since_append_one]
  simp [eq_comm]

theorem owned_ends {other : Nat} : ¬Owned other (signals ++ [.ends]) := by
  rw [Owned, since_append_one]
  simp

theorem Suspension.releases (suspension : Suspension muted signals p)
    {more : List SuspensionSignal} (quiet : ∀ candidate, ¬Owned candidate more) :
    Suspension muted more p.releasePlayoutSuspend := by
  obtain ⟨o, found, original, _⟩ := suspension.mute
  have released : p.releasePlayoutSuspend.mute = p.mute.map Overridden.release := by
    simp [releasePlayoutSuspend, Playback.mute, Option.map_map, Function.comp_def,
      Overridden.release, Overridden.original]
  refine ⟨⟨o.release, ?_, original, Overridden.by_release⟩, rfl, rfl, ?_⟩
  · rw [released, found, Option.map_some]
  · intro candidate
    constructor
    · intro owns
      cases owns
    · exact fun owned => absurd owned (quiet candidate)

theorem Suspension.suspends (suspension : Suspension muted signals p) {element : AudioElement}
    (present : p.audioElement = some element) {candidateId : Binary64} {n : Nat}
    (valid : candidateNumber (some (.num candidateId)) = some n) :
    Suspension muted (signals ++ [.suspends n]) { p with
      mutedBeforePlayoutSuspend := some (p.mutedBeforePlayoutSuspend.getD element.muted)
      playoutSuspendOwner := some candidateId
      audioElement := some { element with muted := true } } := by
  obtain ⟨o, found, original, _⟩ := suspension.mute
  have here : o = ⟨element.muted, p.mutedBeforePlayoutSuspend⟩ := by
    simpa [Playback.mute, present] using found.symm
  subst here
  let found : Overridden Bool := ⟨element.muted, p.mutedBeforePlayoutSuspend⟩
  refine ⟨⟨found.engage fun _ => true, rfl, original, Overridden.by_engage⟩, rfl, ?_, ?_⟩
  · simp [Playback.owner, valid]
  · intro candidate
    rw [owned_suspends, Playback.owner, Option.map_some, valid, Option.some.injEq]
    exact eq_comm

/-- The owner is a candidate. -/
theorem Suspension.owner_number (suspension : Suspension muted signals p) {candidateId : Binary64}
    (owner : p.playoutSuspendOwner = some candidateId) :
    ∃ n, candidateNumber (some (.num candidateId)) = some n ∧ p.owner = some n := by
  have known := suspension.known
  rw [owner, Option.isSome_some] at known
  obtain ⟨n, owns⟩ := Option.isSome_iff_exists.mp known.symm
  refine ⟨n, ?_, owns⟩
  rw [← owns, Playback.owner, owner, Option.map_some]

/-- A resume event releases the suspension when it names the owner, and does nothing otherwise. -/
theorem Suspension.resumes (suspension : Suspension muted signals p)
    (candidateId : Option (Json Binary64)) :
    Suspension muted
      (signals ++ ((candidateNumber candidateId).map SuspensionSignal.resumes).toList)
      (if ownedBy candidateId p.playoutSuspendOwner then p.releasePlayoutSuspend else p) := by
  cases owner : p.playoutSuspendOwner with
  | none =>
    -- Nobody owns it, before and after.
    have nobody : p.owner = none := by simp [Playback.owner, owner, candidateNumber]
    have quiet (candidate : Nat) : ¬Owned candidate
        (signals ++ ((candidateNumber candidateId).map SuspensionSignal.resumes).toList) := by
      have before : ¬Owned candidate signals := by
        rw [← suspension.owned, nobody]
        simp
      cases candidateNumber candidateId with
      | none => simpa using before
      | some n => exact fun owned => before (owned_resumes.mp owned).1
    split
    · exact suspension.releases quiet
    · refine ⟨suspension.mute, suspension.held, suspension.known, fun candidate => ?_⟩
      rw [nobody]
      constructor
      · intro owns
        cases owns
      · exact fun owned => absurd owned (quiet candidate)
  | some d =>
    obtain ⟨n, number, owns⟩ := suspension.owner_number owner
    split
    -- The owner is named: what it had muted is restored.
    next named =>
      rw [(ownedBy_iff number).mp named]
      refine suspension.releases fun candidate owned => ?_
      obtain ⟨before, other⟩ := owned_resumes.mp owned
      have same := (suspension.owned candidate).mpr before
      rw [owns, Option.some.injEq] at same
      exact other same.symm
    -- Somebody else is named, who owns nothing.
    next other =>
      refine ⟨suspension.mute, suspension.held, suspension.known, fun candidate => ?_⟩
      cases named : candidateNumber candidateId with
      | none => simpa using suspension.owned candidate
      | some m =>
        have apart : m ≠ n := fun same =>
          other ((ownedBy_iff number).mpr (named.trans (congrArg some same)))
        rw [Option.map_some, Option.toList_some, owned_resumes, ← suspension.owned]
        constructor
        · intro held
          refine ⟨held, ?_⟩
          rintro rfl
          rw [owns, Option.some.injEq] at held
          exact apart held.symm
        · exact fun held => held.1

/-! ## Whole runs -/

theorem Suspension.handles (suspension : Suspension muted signals p) {event : Event}
    {control : ControlEvent} {name : String} {payload : Members Binary64}
    (seen : event.control = some control) (named : event.named = some (name, payload)) :
    Suspension muted (signals ++ (SuspensionSignal.of name payload).toList)
      (p.handlePlayoutControlEvent control) := by
  obtain ⟨o, found, _⟩ := suspension.mute
  obtain ⟨element, present, _⟩ := Option.map_eq_some_iff.mp found
  obtain ⟨type, members⟩ := control_named seen named
  have id := members "candidate_id" (by decide) (by decide) (by decide) (by decide)
  unfold handlePlayoutControlEvent SuspensionSignal.of
  simp only [present, type, id, validCandidateId_eq]
  by_cases suspends : name = playoutSuspendEvent
  · rw [if_pos suspends, if_pos suspends]
    cases valid : candidateNumber (payload.get? "candidate_id") with
    | none => simpa using suspension
    | some n =>
      obtain ⟨d, given⟩ := candidateNumber_given valid
      rw [given] at valid ⊢
      exact suspension.suspends present valid
  · rw [if_neg suspends, if_neg suspends]
    by_cases resumes : name = playoutResumeEvent
    · rw [if_pos resumes, if_pos resumes]
      exact suspension.resumes _
    · rw [if_neg resumes, if_neg resumes]
      by_cases terminal : name ∈ playoutTerminalEvents
      · rw [if_pos terminal, if_pos terminal]
        exact suspension.releases fun _ => owned_ends
      · rw [if_neg terminal, if_neg terminal]
        simpa using suspension

theorem Suspension.step (suspension : Suspension muted signals p) {event : Event}
    (taken : p.step event = some q) :
    Suspension muted (signals ++ event.suspension.toList) q := by
  have control {control : ControlEvent} {name : String} {payload : Members Binary64}
      (seen : event.control = some control) (named : event.named = some (name, payload)) :
      Suspension muted (signals ++ (SuspensionSignal.of name payload).toList)
        (p.handleControlEvent control) :=
    (suspension.handles seen named).transfer (handleAudioDuckingControlEvent_suspension control)
  cases event with
  | dataChannel event payload =>
    cases taken
    exact control rfl rfl
  | signaling type data =>
    cases taken
    exact control rfl rfl
  | timer timer =>
    obtain ⟨_, fired⟩ := Option.ite_none_right_eq_some.mp taken
    cases fired
    have erased : SameSuspension p { p with timers := p.timers.erase timer } := ⟨rfl, rfl, rfl⟩
    have fires := suspension.transfer (erased.trans releaseTimerFires_suspension)
    simpa [Event.suspension, Event.named] using fires
  | cleanup =>
    cases taken
    exact (suspension.releases fun _ => owned_ends).transfer stopAudioDucking_suspension

theorem suspension_start (element : AudioElement) (config : Option NormalizedAudioDuckingConfig) :
    Suspension element.muted [] (playback element config).init := by
  refine ⟨⟨⟨element.muted, none⟩, rfl, rfl, ?_⟩, rfl, rfl, ?_⟩
  · intro v saved
    cases saved
  · intro candidate
    constructor
    · intro owns
      cases owns
    · exact fun owned => absurd owned since_nil

/-- Without an owner there is nothing to release. -/
theorem Suspension.release_nothing (suspension : Suspension muted signals p)
    (free : p.playoutSuspendOwner = none) : p.releasePlayoutSuspend = p := by
  have saved : p.mutedBeforePlayoutSuspend = none := by
    simpa [free] using suspension.held
  obtain ⟨element, config, timer, base, sources, owner, before, timers, count⟩ := p
  cases free
  cases saved
  simp [releasePlayoutSuspend]

/-- A resume that does not name the owner changes nothing. -/
theorem Suspension.ignores (suspension : Suspension muted signals p) {event : Event}
    {payload : Members Binary64} (named : event.named = some (playoutResumeEvent, payload))
    (other : ∀ candidate, candidateNumber (payload.get? "candidate_id") = some candidate →
      ¬Owned candidate signals) : p.step event = some p := by
  obtain ⟨control, seen⟩ : ∃ control, event.control = some control := by
    cases event with
    | dataChannel event payload => exact ⟨_, rfl⟩
    | signaling type data => exact ⟨_, rfl⟩
    | timer timer => cases named
    | cleanup => cases named
  have taken : p.step event = some (p.handleControlEvent control) := by
    cases event with
    | dataChannel event payload => cases seen; rfl
    | signaling type data => cases seen; rfl
    | timer timer => cases named
    | cleanup => cases named
  obtain ⟨type, members⟩ := control_named seen named
  have id := members "candidate_id" (by decide) (by decide) (by decide) (by decide)
  -- The playout handler compares with the owner and finds another.
  have playout : p.handlePlayoutControlEvent control = p := by
    unfold handlePlayoutControlEvent
    cases p.audioElement with
    | none => rfl
    | some element =>
      simp only [type, id, if_true]
      rw [if_neg (by decide)]
      split
      next owns =>
        cases owner : p.playoutSuspendOwner with
        | none => exact suspension.release_nothing owner
        | some d =>
          obtain ⟨n, number, held⟩ := suspension.owner_number owner
          rw [owner, ownedBy_iff number] at owns
          exact absurd ((suspension.owned n).mp held) (other n owns)
      · rfl
  -- The ducking handler has no case for a resume.
  have ducking : p.handleAudioDuckingControlEvent control = p := by
    unfold handleAudioDuckingControlEvent
    split
    · rfl
    · simp only [type]
      rw [if_neg (by decide), if_neg (by decide), if_pos (by decide)]
  rw [taken, handleControlEvent, playout, ducking]

theorem Suspension.exactly (suspension : Suspension muted signals p) :
    SuspendedExactly muted signals p := by
  obtain ⟨o, found, original, applied⟩ := suspension.mute
  obtain ⟨element, present, rfl⟩ := Option.map_eq_some_iff.mp found
  have held := suspension.held
  refine ⟨?_, suspension.owned, suspension.known, ?_, fun event payload named other =>
    suspension.ignores named other⟩
  · rw [present, Option.map_some, Option.some.injEq, ← held]
    cases saved : p.mutedBeforePlayoutSuspend with
    | none =>
      have free : element.muted = muted := (Overridden.current_of_free saved).trans original
      simp [free]
    | some before =>
      have silent : element.muted = true := applied before saved
      simp [silent]
  · rw [← held]
    cases saved : p.mutedBeforePlayoutSuspend with
    | none => rfl
    | some before =>
      simp [Overridden.original, saved] at original
      simp [original]

/-- Suspension is owned and reversible in every run. -/
theorem suspension_exact (element : AudioElement) (config : Option NormalizedAudioDuckingConfig)
    {r : Playback × List SuspensionSignal}
    (reached : ((playback element config).recorded fun _ event =>
      event.suspension.toList).Reaches always r) :
    SuspendedExactly element.muted r.2 r.1 := by
  have suspension : Suspension element.muted r.2 r.1 :=
    System.Reaches.recorded (C := always) (P := fun signals p =>
        Suspension element.muted signals p) (suspension_start element config)
      (fun _ _ _ _ holds _ taken => holds.step taken) reached
  exact suspension.exactly

/-- A client that candidate 7 has muted. -/
def suspended : Playback :=
  { audioElement := some ⟨1, true⟩, audioDuckingConfig := none
    playoutSuspendOwner := some (.ofCount 7), mutedBeforePlayoutSuspend := some false }

/-- Candidate 7 takes the suspension over from candidate 4, whose resume comes too late. -/
theorem suspension_exact_replaced :
    SuspendedExactly false [.suspends 4, .suspends 7, .resumes 4] suspended := by
  have ran : ((playback ⟨1, false⟩ none).recorded fun _ event => event.suspension.toList).run
      ((playback ⟨1, false⟩ none).init, [])
      [.dataChannel "response.audio.suspend" (.obj [("candidate_id", .num (.ofCount 4))]),
        .signaling "response.audio.suspend" [("candidate_id", .num (.ofCount 7))],
        .dataChannel "response.audio.resume" (.obj [("candidate_id", .num (.ofCount 4))]),
        .signaling "response.audio.resume" []] =
      some (suspended, [.suspends 4, .suspends 7, .resumes 4]) := by
    decide +kernel
  exact suspension_exact ⟨1, false⟩ none (System.reaches_of_run _ ran)

end VoxRtc.Browser.Playback
