import VoxRtc.Rust.Session.Responses
import VoxRtc.Transition.Pool
import VoxRtc.Transition.Runs

/-!
# Text responses of the Rust session

Concurrent calls of `send_text_response` that do not cancel first, on clones of one
session. A call takes the lock of `response_generation` for its start, its delta and its
commit, and sends each command on the channel; the calls interleave in any order.
-/
namespace VoxRtc.Rust.Session

open Wire Responses Transition

/-- Where a call is: at a lock, or at the send of the payload it has built. -/
inductive Stage where
  | starting
  | sendingStart (payload : Payload)
  | appending
  | sendingDelta (payload : Payload)
  | committing
  | sendingCommit (payload : Payload)
  | returned
  | failed
  deriving Repr

def Stage.payload? : Stage → Option Payload
  | .sendingStart payload | .sendingDelta payload | .sendingCommit payload => some payload
  | _ => none

def Stage.isStarting : Stage → Bool
  | .starting => true
  | _ => false

/-- The call has started and has yet to stamp its commit. -/
def Stage.started : Stage → Bool
  | .sendingStart _ | .appending | .sendingDelta _ | .committing => true
  | _ => false

structure TextResponse where
  text : String
  options : Option Options
  stage : Stage
  deriving Repr

/-- The call takes its id from the slot that all calls share. -/
def TextResponse.relies (call : TextResponse) : Bool :=
  (explicitGeneration call.options).isNone && call.stage.started

structure ControlSession where
  responseGeneration : ResponseGeneration
  calls : List TextResponse
  /-- The frames on the channel, with the calls that have sent them. -/
  sent : List (Nat × Frame)
  deriving Repr

inductive Step where
  | call (text : String) (options : Option Options)
  /-- A lock is taken and released; `generated` is the id a start makes. -/
  | lock (n : Nat) (generated : GeneratedId)
  /-- A command is sent, unless the channel is closed. -/
  | send (n : Nat) (closed : Bool)
  deriving Repr

namespace ControlSession

def setStage (s : ControlSession) (n : Nat) (call : TextResponse) (stage : Stage) :
    ControlSession :=
  { s with calls := s.calls.set n { call with stage := stage } }

def lock (s : ControlSession) (n : Nat) (call : TextResponse) (generated : GeneratedId) :
    Option ControlSession :=
  match call.stage with
  | .starting =>
    let (responseGeneration, payload) := s.responseGeneration.startPayload call.options generated
    some ({ s with responseGeneration := responseGeneration }.setStage n call (.sendingStart payload))
  | .appending => some (s.setStage n call
      (.sendingDelta (s.responseGeneration.deltaPayload call.text call.options)))
  | .committing => some (s.setStage n call
      (.sendingCommit (s.responseGeneration.commitPayload call.options)))
  | _ => none

/-- `send_control`, and where the call goes from there. -/
def sendControl (s : ControlSession) (n : Nat) (call : TextResponse) (closed : Bool) (frame : Frame)
    (next : Stage) : ControlSession :=
  if closed then s.setStage n call .failed
  else { s.setStage n call next with sent := s.sent ++ [(n, frame)] }

def send (s : ControlSession) (n : Nat) (call : TextResponse) (closed : Bool) :
    Option ControlSession :=
  match call.stage with
  | .sendingStart payload => some (s.sendControl n call closed ⟨"response.start", payload⟩ .appending)
  | .sendingDelta payload => some (s.sendControl n call closed ⟨"response.delta", payload⟩ .committing)
  | .sendingCommit payload =>
    some (s.sendControl n call closed ⟨"response.commit", payload⟩ .returned)
  | _ => none

def step (s : ControlSession) : Step → Option ControlSession
  | .call text options => some { s with calls := s.calls ++ [⟨text, options, .starting⟩] }
  | .lock n generated => s.calls[n]?.bind fun call => s.lock n call generated
  | .send n closed => s.calls[n]?.bind fun call => s.send n call closed

end ControlSession

/-- A session, whatever its clones have done before. -/
def textResponses (before : ResponseGeneration) : System ControlSession Step where
  init := ⟨before, [], []⟩
  step := ControlSession.step

namespace ControlSession

/-- While a call relies on the slot, others start only with the very id that is in it. -/
def Undisturbed (s : ControlSession) : Step → Prop
  | .lock n _ => ∀ call ∈ s.calls[n]?, call.stage.isStarting = true →
    s.calls.any (·.relies) = true → explicitGeneration call.options ≠ none ∧
      explicitGeneration call.options = s.responseGeneration.id
  | _ => True

instance (s : ControlSession) : (l : Step) → Decidable (s.Undisturbed l)
  | .lock n _ => inferInstanceAs (Decidable (∀ call ∈ s.calls[n]?, call.stage.isStarting = true →
      s.calls.any (·.relies) = true → explicitGeneration call.options ≠ none ∧
        explicitGeneration call.options = s.responseGeneration.id))
  | .call .. | .send .. => inferInstanceAs (Decidable True)

/-- The frames of a call carry the id of its start. -/
def Uncrossed (C : ControlSession → Step → Prop) : Prop :=
  ∀ before s, (textResponses before).Reaches C s → ∀ n frame start, (n, frame) ∈ s.sent →
    (n, start) ∈ s.sent → start.event = "response.start" →
      frame.generationId = start.generationId ∧ frame.generationId ≠ none

variable {s t : ControlSession} {n m : Nat} {call other : TextResponse} {id : String}

/-- What the call sends, and has sent, carries this id. -/
structure Carries (s : ControlSession) (n : Nat) (call : TextResponse) (id : String) : Prop where
  sent : ∀ frame, (n, frame) ∈ s.sent → frame.generationId = some id
  payload : ∀ payload ∈ call.stage.payload?,
    (payload.get? "generation_id").bind Json.str? = some id
  explicit : ∀ given, explicitGeneration call.options = some given → given = id
  ambient : call.relies = true → s.responseGeneration.id = some id

structure Traced (s : ControlSession) : Prop where
  bound : ∀ n frame, (n, frame) ∈ s.sent → n < s.calls.length
  starting : ∀ n call, s.calls[n]? = some call → call.stage.isStarting = true →
    ∀ frame, (n, frame) ∉ s.sent
  carries : ∀ n call, s.calls[n]? = some call → call.stage.isStarting = false →
    ∃ id, Carries s n call id

/-- The id that a started call gives its delta and its commit. -/
theorem Carries.stamp (carries : Carries s n call id) (started : call.stage.started = true) :
    (explicitGeneration call.options).or s.responseGeneration.id = some id := by
  cases given : explicitGeneration call.options with
  | some explicit => exact congrArg some (carries.explicit explicit given)
  | none => exact carries.ambient (by simp [TextResponse.relies, given, started])

private theorem Carries.advance (carries : Carries s n call id) {stage : Stage}
    (slot : t.responseGeneration = s.responseGeneration)
    (sent : ∀ frame, (n, frame) ∈ t.sent → (n, frame) ∈ s.sent ∨ frame.generationId = some id)
    (payload : ∀ payload ∈ stage.payload?,
      (payload.get? "generation_id").bind Json.str? = some id)
    (started : stage.started = true → call.stage.started = true) :
    Carries t n { call with stage := stage } id := by
  refine ⟨fun frame member => (sent frame member).elim (carries.sent frame) fun same => same,
    payload, carries.explicit, fun relies => ?_⟩
  simp only [TextResponse.relies, Bool.and_eq_true] at relies
  rw [slot]
  exact carries.ambient (by simpa [TextResponse.relies, relies.1] using started relies.2)

/-- One call goes on, and no other one loses its id. -/
private theorem traced_moves (traced : Traced s) (here : s.calls[n]? = some call) {stage : Stage}
    (calls : t.calls = s.calls.set n { call with stage := stage })
    (sent : ∀ m frame, m ≠ n → (m, frame) ∈ t.sent → (m, frame) ∈ s.sent)
    (slot : ∀ other ∈ s.calls, other.relies = true →
      t.responseGeneration.id = s.responseGeneration.id)
    (later : stage.isStarting = false) {i : String}
    (carries : Carries t n { call with stage := stage } i) : Traced t := by
  constructor
  · intro m frame member
    rw [calls, List.length_set]
    by_cases same : m = n
    · rw [same]
      exact (List.getElem?_eq_some_iff.mp here).1
    · exact traced.bound m frame (sent m frame same member)
  · intro m other found starting frame member
    rw [calls] at found
    rcases Pool.read_set found with ⟨rfl, rfl⟩ | ⟨different, old⟩
    · cases later.symm.trans starting
    · exact traced.starting m other old starting frame (sent m frame different member)
  · intro m other found begun
    rw [calls] at found
    rcases Pool.read_set found with ⟨rfl, rfl⟩ | ⟨different, old⟩
    · exact ⟨i, carries⟩
    · obtain ⟨kept, holds⟩ := traced.carries m other old begun
      refine ⟨kept, fun frame member => holds.sent frame (sent m frame different member),
        holds.payload, holds.explicit, fun relies => ?_⟩
      rw [slot other (List.mem_of_getElem? old) relies]
      exact holds.ambient relies

private theorem traced_lock {generated : GeneratedId} (traced : Traced s)
    (here : s.calls[n]? = some call) (undisturbed : s.Undisturbed (.lock n generated))
    (taken : s.lock n call generated = some t) : Traced t := by
  unfold lock at taken
  split at taken
  next starting =>
    cases taken
    -- a call that relies on the slot finds the id that was there
    refine traced_moves traced here rfl (fun _ _ _ => id) (fun other member relies => ?_) rfl
      (i := (explicitGeneration call.options).getD generated.text) ⟨?_, ?_, ?_, fun _ => rfl⟩
    · obtain ⟨given, same⟩ := undisturbed call here (by rw [starting]; rfl)
        (List.any_eq_true.mpr ⟨other, member, relies⟩)
      obtain ⟨id, explicit⟩ := Option.ne_none_iff_exists'.mp given
      rw [← same, explicit]
      simp [setStage]
    · intro frame member
      exact absurd member (traced.starting n call here (by rw [starting]; rfl) frame)
    · rintro payload ⟨rfl⟩
      simp [Json.str?]
    · intro explicit given
      rw [given]
      rfl
  -- Each later section finds the id in the slot, or brings it along.
  next appending =>
    cases taken
    obtain ⟨id, carries⟩ := traced.carries n call here (by rw [appending]; rfl)
    have started : call.stage.started = true := by rw [appending]; rfl
    refine traced_moves traced here rfl (fun _ _ _ member => member) (fun _ _ _ => rfl) rfl
      (carries.advance rfl (fun _ => .inl) ?_ fun _ => started)
    rintro payload ⟨rfl⟩
    exact (ResponseGeneration.threadGeneration_stamp _ (by simp)).trans (carries.stamp started)
  next committing =>
    cases taken
    obtain ⟨id, carries⟩ := traced.carries n call here (by rw [committing]; rfl)
    have started : call.stage.started = true := by rw [committing]; rfl
    refine traced_moves traced here rfl (fun _ _ _ member => member) (fun _ _ _ => rfl) rfl
      (carries.advance rfl (fun _ => .inl) ?_ fun _ => started)
    rintro payload ⟨rfl⟩
    exact (ResponseGeneration.threadGeneration_stamp _ rfl).trans (carries.stamp started)
  next => cases taken

private theorem traced_sendControl {closed : Bool} {frame : Frame} {next : Stage}
    (traced : Traced s) (here : s.calls[n]? = some call) (carries : Carries s n call id)
    (stamped : frame.generationId = some id) (blank : next.payload? = none)
    (later : next.isStarting = false) (started : next.started = true → call.stage.started = true) :
    Traced (s.sendControl n call closed frame next) := by
  unfold sendControl
  split
  · refine traced_moves traced here rfl (fun _ _ _ member => member) (fun _ _ _ => rfl) rfl
      (carries.advance rfl (fun _ => .inl) ?_ fun absurd => (by cases absurd))
    exact fun _ absurd => (by cases absurd)
  · refine traced_moves traced here rfl (fun m _ different member => ?_) (fun _ _ _ => rfl) later
      (carries.advance rfl (fun sent member => ?_) ?_ started)
    · rcases List.mem_append.mp member with old | new
      · exact old
      · exact absurd (congrArg Prod.fst (List.mem_singleton.mp new)) different
    · rcases List.mem_append.mp member with old | new
      · exact .inl old
      · have same : sent = frame := congrArg Prod.snd (List.mem_singleton.mp new)
        exact .inr (same ▸ stamped)
    · rw [blank]
      exact fun _ absurd => (by cases absurd)

private theorem traced_send {closed : Bool} (traced : Traced s) (here : s.calls[n]? = some call)
    (taken : s.send n call closed = some t) : Traced t := by
  unfold send at taken
  split at taken
  case h_4 => cases taken
  all_goals
    rename_i payload sending
    cases taken
    obtain ⟨id, carries⟩ := traced.carries n call here (by rw [sending]; rfl)
    refine traced_sendControl traced here carries (carries.payload payload (by rw [sending]; rfl))
      rfl rfl ?_
    rw [sending]
    exact fun started => started

theorem traced_step {l : Step} (undisturbed : s.Undisturbed l) (taken : s.step l = some t)
    (traced : Traced s) : Traced t := by
  cases l with
  | call text options =>
    cases taken
    refine ⟨fun n frame member => ?_, fun n call found => ?_, fun n call found begun => ?_⟩
    · exact (List.length_append ▸ Nat.lt_add_right 1 (traced.bound n frame member))
    · rcases Pool.read_append found with old | ⟨rfl, rfl⟩
      · exact traced.starting n call old
      · exact fun _ frame member => absurd (traced.bound _ frame member) (Nat.lt_irrefl _)
    · rcases Pool.read_append found with old | ⟨rfl, rfl⟩
      · obtain ⟨id, carries⟩ := traced.carries n call old begun
        exact ⟨id, carries.sent, carries.payload, carries.explicit, carries.ambient⟩
      · cases begun
  | lock n generated =>
    obtain ⟨call, here, taken⟩ := Option.bind_eq_some_iff.mp taken
    exact traced_lock traced here undisturbed taken
  | send n closed =>
    obtain ⟨call, here, taken⟩ := Option.bind_eq_some_iff.mp taken
    exact traced_send traced here taken

theorem traced_reaches {before : ResponseGeneration} {C : ControlSession → Step → Prop}
    (cond : ∀ s l, C s l → s.Undisturbed l) (reached : (textResponses before).Reaches C s) :
    Traced s :=
  reached.preserves (P := Traced)
    ⟨fun _ _ absurd => (by cases absurd), fun _ _ absurd => (by cases absurd),
      fun _ _ absurd => (by cases absurd)⟩
    fun _ _ _ traced meets taken => traced_step (cond _ _ meets) taken traced

end ControlSession

open ControlSession

/-- The text of a response carries the id of its own start, as long as no other start moves
the ambient id under it. -/
theorem text_responses_uncrossed {C : ControlSession → Step → Prop}
    (cond : ∀ s l, C s l → s.Undisturbed l) : Uncrossed C := by
  intro before s reached n frame start sent first _
  have traced := traced_reaches cond reached
  have bound := traced.bound n frame sent
  obtain ⟨call, here⟩ : ∃ call, s.calls[n]? = some call := ⟨_, List.getElem?_eq_getElem bound⟩
  cases begun : call.stage.isStarting with
  | true => exact absurd sent (traced.starting n call here begun frame)
  | false =>
    obtain ⟨id, carries⟩ := traced.carries n call here begun
    rw [carries.sent frame sent, carries.sent start first]
    exact ⟨rfl, fun absurd => by cases absurd⟩

/-- Two calls, the second of which starts once the first has returned. -/
def turnsRun (first second : GeneratedId) : List Step := [
  .call "one" none, .call "two" none, .lock 0 first, .send 0 false, .lock 0 first, .send 0 false,
  .lock 0 first, .send 0 false, .lock 1 second, .send 1 false, .lock 1 second, .send 1 false]

/-- Two calls, the second of which starts before the first has stamped its text. -/
def crossingRun (first second : GeneratedId) : List Step := [
  .call "one" none, .call "two" none, .lock 0 first, .send 0 false, .lock 1 second, .lock 0 first,
  .send 0 false]

def firstId : GeneratedId := ⟨"generation_1", GeneratedId.first_proper⟩

def secondId : GeneratedId := ⟨"generation_2", by decide⟩

theorem text_responses_uncrossed_run : ∃ s frame start,
    (textResponses {}).run ⟨{}, [], []⟩ (turnsRun firstId secondId) = some s ∧
    (1, frame) ∈ s.sent ∧ (1, start) ∈ s.sent ∧ frame.event = "response.delta" ∧
    start.event = "response.start" ∧ frame.generationId = start.generationId := by
  refine ⟨_, _, _, rfl, .tail _ (.tail _ (.tail _ (.tail _ (.head _)))),
    .tail _ (.tail _ (.tail _ (.head _))), rfl, rfl, ?_⟩
  have reached := System.leads_of_run (M := textResponses {}) (C := Undisturbed)
    (s := (textResponses {}).init) (turnsRun firstId secondId) (by decide) rfl
  exact (text_responses_uncrossed (fun _ _ => id) {} _ reached 1 _ _
    (.tail _ (.tail _ (.tail _ (.tail _ (.head _))))) (.tail _ (.tail _ (.tail _ (.head _)))) rfl).1

/-- The text of the first response carries the id of the second one. -/
theorem text_responses_cross : (∃ s frame start,
    (textResponses {}).run ⟨{}, [], []⟩ (crossingRun firstId secondId) = some s ∧
    (0, frame) ∈ s.sent ∧ (0, start) ∈ s.sent ∧ frame.event = "response.delta" ∧
    start.event = "response.start" ∧ frame.generationId = some "generation_2" ∧
    start.generationId = some "generation_1") ∧ ¬Uncrossed always := by
  refine ⟨⟨_, _, _, rfl, .tail _ (.head _), .head _, rfl, rfl, rfl, rfl⟩, fun uncrossed => ?_⟩
  have reached := System.reaches_of_run (M := textResponses {}) (crossingRun firstId secondId) rfl
  have same := (uncrossed {} _ reached 0 _ _ (.tail _ (.head _)) (.head _) rfl).1
  exact absurd same (by decide)

end VoxRtc.Rust.Session
