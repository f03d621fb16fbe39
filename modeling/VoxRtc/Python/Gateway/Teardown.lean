import VoxRtc.Program.Body
import VoxRtc.Python.Gateway.Lifecycle

/-!
# Teardown of a connection in the Python gateway

`_close_session` of `python/vox-rtc-server/src/vox_rtc_server/gateway.py` for one connection
with a closed hook, called any number of times. One `try` covers all of its calls, so the
first of them that raises skips the later ones, the hook included.
-/
namespace VoxRtc.Python.Gateway

open Program Transition

/-- What `_close_session` calls. -/
inductive Part where
  | unsubscribe
  | closeRTC
  | sessionClose
  | hook
  deriving DecidableEq, Repr

/-- Which of the calls raise. -/
structure Fails where
  unsubscribe : Bool
  closeRTC : Bool
  sessionClose : Bool
  hook : Bool
  deriving DecidableEq, Repr

def Fails.at (fails : Fails) : Part → Bool
  | .unsubscribe => fails.unsubscribe
  | .closeRTC => fails.closeRTC
  | .sessionClose => fails.sessionClose
  | .hook => fails.hook

inductive CloseCall where
  | awaitingHook
  | returned
  deriving DecidableEq, Repr

structure Teardown where
  closed : Bool
  rtcCloseRequested : Bool
  /-- The session is in `_active` and in `_sessions`. -/
  registered : Bool
  called : List Part
  /-- The calls whose exceptions went to `_report_error`. -/
  reported : List Part
  calls : List CloseCall
  deriving DecidableEq, Repr

namespace Teardown

def initial (requested : Bool) : Teardown := ⟨false, requested, true, [], [], []⟩

def call (fails : Fails) (part : Part) : EStateM Part Teardown Unit := do
  modify fun s => { s with called := s.called ++ [part] }
  if fails.at part then throw part

/-- The body of the `try`, up to the hook. -/
def closing (fails : Fails) : EStateM Part Teardown Unit := do
  call fails .unsubscribe
  let s ← get
  if !s.rtcCloseRequested then
    modify fun s => { s with rtcCloseRequested := true }
    call fails .closeRTC
  call fails .sessionClose

/-- The `finally`. -/
def unregister (s : Teardown) : Teardown := { s with registered := false }

def report (s : Teardown) (part : Part) : Teardown := { s with reported := s.reported ++ [part] }

def closeSession (fails : Fails) (s : Teardown) : Teardown :=
  if s.closed then { s with calls := s.calls ++ [.returned] }
  else match closing fails { s with closed := true } with
    | .ok _ t => { t with called := t.called ++ [.hook], calls := t.calls ++ [.awaitingHook] }
    | .error part t => { (t.report part).unregister with calls := t.calls ++ [.returned] }

/-- The hook ends, and with it the call that awaits it. -/
def hookEnds (fails : Fails) (s : Teardown) (k : Nat) : Option Teardown :=
  if s.calls[k]? = some .awaitingHook then
    let ended := if fails.hook then s.report .hook else s
    some { ended.unregister with calls := s.calls.set k .returned }
  else none

inductive Label where
  | closeSession
  | hookEnds (call : Nat)
  deriving DecidableEq, Repr

def step (fails : Fails) (s : Teardown) : Label → Option Teardown
  | .closeSession => some (s.closeSession fails)
  | .hookEnds k => s.hookEnds fails k

end Teardown

def teardown (fails : Fails) (requested : Bool) : System Teardown Teardown.Label :=
  ⟨.initial requested, Teardown.step fails⟩

/-- However the calls of `_close_session` overlap, the session is closed and the hook called
at most once; and when the calls have returned, both have been, every exception has been
reported, and the session is gone from the registry. -/
structure Completes (fails : Fails) (requested : Bool) : Prop where
  atMostOnce : ∀ s, (teardown fails requested).Reaches always s →
    s.called.count .sessionClose ≤ 1 ∧ s.called.count .hook ≤ 1
  once : ∀ s, (teardown fails requested).Reaches always s → s.calls ≠ [] →
    .awaitingHook ∉ s.calls → s.called.count .sessionClose = 1 ∧ s.called.count .hook = 1 ∧
      (∀ part ∈ s.called, fails.at part = true → part ∈ s.reported) ∧ s.registered = false

namespace Teardown

variable {fails : Fails} {requested : Bool} {s t : Teardown}

/-- The calls that come before the hook. -/
def parts (requested : Bool) : List Part :=
  .unsubscribe :: (if requested then [] else [.closeRTC]) ++ [.sessionClose]

/-- Nothing that is called before the hook raises. -/
def Passes (fails : Fails) (requested : Bool) : Prop :=
  fails.unsubscribe = false ∧ (requested = false → fails.closeRTC = false) ∧
    fails.sessionClose = false

/-- The one call that raises, as a step of the gateway has it. -/
def only (raises : Option Raises) : Fails :=
  ⟨raises = some .unsubscribe, raises = some .closeRTC, raises = some .sessionClose, false⟩

/-- The gateway's step awaits the hook under the same condition. -/
theorem close_awaits_iff {a : ActiveSession} (still : a.closed = false) (reason : String)
    (shutdown : Bool) (raises : Option Raises) :
    (a.close reason shutdown raises).2 = true ↔
      Passes (only raises) a.progress.rtcCloseRequested := by
  have opened : a.closed ≠ true := by simp [still]
  rw [ActiveSession.close, if_neg opened]
  cases raises with
  | none => simp [Passes, only]
  | some raises =>
    cases raises with
    | unsubscribe => simp [Passes, only]
    | closeRTC => by_cases requested : a.progress.rtcCloseRequested = true <;>
        simp [Passes, only, requested]
    | sessionClose => simp [Passes, only]

/-- The body of the `try` passes each call, or stops at one. -/
theorem closing_cases (fails : Fails) (requested : Bool) :
    Passes fails requested ∧ closing fails { initial requested with closed := true } =
        .ok () ⟨true, true, true, parts requested, [], []⟩ ∨
      ¬Passes fails requested ∧ ∃ part t,
        closing fails { initial requested with closed := true } = .error part t ∧
        .hook ∉ t.called ∧ t.calls = [] := by
  obtain ⟨unsubscribe, closeRTC, sessionClose, hook⟩ := fails
  cases unsubscribe with
  | true => exact .inr ⟨by simp [Passes], _, _, rfl, by simp [initial], rfl⟩
  | false =>
    cases requested with
    | true =>
      cases sessionClose with
      | true => exact .inr ⟨by simp [Passes], _, _, rfl, by decide, rfl⟩
      | false => exact .inl ⟨by simp [Passes], rfl⟩
    | false =>
      cases closeRTC with
      | true => exact .inr ⟨by simp [Passes], _, _, rfl, by decide, rfl⟩
      | false =>
        cases sessionClose with
        | true => exact .inr ⟨by simp [Passes], _, _, rfl, by decide, rfl⟩
        | false => exact .inl ⟨by simp [Passes], rfl⟩

theorem initial_open : (initial requested).closed ≠ true := by simp [initial]

theorem closeSession_passed
    (ended : closing fails { initial requested with closed := true } = .ok () t) :
    (initial requested).closeSession fails =
      { t with called := t.called ++ [.hook], calls := t.calls ++ [.awaitingHook] } := by
  rw [closeSession, if_neg initial_open, ended]

theorem closeSession_stopped {part : Part}
    (ended : closing fails { initial requested with closed := true } = .error part t) :
    (initial requested).closeSession fails =
      { (t.report part).unregister with calls := t.calls ++ [.returned] } := by
  rw [closeSession, if_neg initial_open, ended]

def awaiting (s : Teardown) : Nat := s.calls.countP (· == .awaitingHook)

/-- The connection is open, a call awaits its hook, or it is closed. -/
inductive Phase (fails : Fails) (requested : Bool) (s : Teardown) : Prop
  | fresh : s = initial requested → Phase fails requested s
  | hook : s.closed = true → s.called = parts requested ++ [.hook] → s.awaiting = 1 →
      Phase fails requested s
  | done : s.closed = true → s.called = parts requested ++ [.hook] →
      (fails.hook = true → .hook ∈ s.reported) → s.registered = false → s.awaiting = 0 →
      Phase fails requested s

theorem phase_step {l : Label} (passes : Passes fails requested) (phase : Phase fails requested s)
    (taken : s.step fails l = some t) : Phase fails requested t := by
  cases l with
  | closeSession =>
    cases taken
    -- A call that finds the session closed changes nothing but the list of calls.
    have later (closed : s.closed = true) : (s.closeSession fails) =
        { s with calls := s.calls ++ [.returned] } := if_pos closed
    have waits : awaiting { s with calls := s.calls ++ [.returned] } = s.awaiting := by
      simp [awaiting]
    cases phase with
    | fresh first =>
      subst first
      rcases closing_cases fails requested with ⟨-, ended⟩ | ⟨stops, -⟩
      · show Phase fails requested ((initial requested).closeSession fails)
        rw [closeSession_passed ended]
        exact .hook rfl rfl rfl
      · exact absurd passes stops
    | hook closed called one =>
      rw [later closed]
      exact .hook closed called (waits.trans one)
    | done closed called reported gone none' =>
      rw [later closed]
      exact .done closed called reported gone (waits.trans none')
  | hookEnds k =>
    simp only [step, hookEnds, Option.ite_none_right_eq_some, Option.some.injEq] at taken
    obtain ⟨found, rfl⟩ := taken
    have moved := Pool.countP_set_add (b := CloseCall.returned) (· == .awaitingHook) found
    cases phase with
    | fresh first => subst first; cases found
    | hook closed called one =>
      -- It is the only call that awaits the hook.
      have left : (s.calls.set k .returned).countP (· == .awaitingHook) = 0 := by
        rw [awaiting] at one
        simp at moved
        omega
      refine .done ?_ ?_ (fun fails' => ?_) rfl left
      · cases fails.hook <;> exact closed
      · cases fails.hook <;> exact called
      · simp [unregister, report, fails']
    | done closed called reported gone none' =>
      have never := Pool.none_of_countP_zero none' (Pool.mem_of_read found)
      cases never

theorem phase_reaches (passes : Passes fails requested)
    (reached : (teardown fails requested).Reaches always s) : Phase fails requested s :=
  System.Reaches.preserves (.fresh rfl) (fun _ _ _ phase _ taken => phase_step passes phase taken)
    reached

theorem count_parts (requested : Bool) :
    (parts requested ++ [Part.hook]).count Part.sessionClose = 1 ∧
      (parts requested ++ [Part.hook]).count Part.hook = 1 := by
  cases requested <;> exact ⟨rfl, rfl⟩

theorem passes_at (passes : Passes fails requested) {part : Part} (called : part ∈ parts requested) :
    fails.at part = false := by
  obtain ⟨unsubscribe, closeRTC, sessionClose⟩ := passes
  cases part with
  | unsubscribe => exact unsubscribe
  | closeRTC =>
    cases requested with
    | true => simp [parts] at called
    | false => exact closeRTC rfl
  | sessionClose => exact sessionClose
  | hook => cases requested <;> simp [parts] at called

theorem completes_of_passes (passes : Passes fails requested) : Completes fails requested where
  atMostOnce s reached := by
    obtain ⟨closes, hooks⟩ := count_parts requested
    cases phase_reaches passes reached with
    | fresh first => subst first; exact ⟨Nat.zero_le 1, Nat.zero_le 1⟩
    | hook _ called => rw [called]; exact ⟨Nat.le_of_eq closes, Nat.le_of_eq hooks⟩
    | done _ called => rw [called]; exact ⟨Nat.le_of_eq closes, Nat.le_of_eq hooks⟩
  once s reached some_call returned := by
    obtain ⟨closes, hooks⟩ := count_parts requested
    cases phase_reaches passes reached with
    | fresh first => subst first; exact absurd rfl some_call
    | hook _ _ one =>
      obtain ⟨call, member, waits⟩ := List.countP_pos_iff.mp (Nat.lt_of_lt_of_eq Nat.one_pos one.symm)
      rw [beq_iff_eq] at waits
      exact absurd (waits ▸ member) returned
    | done _ called reported gone =>
      rw [called]
      refine ⟨closes, hooks, fun part member raises => ?_, gone⟩
      rcases List.mem_append.mp member with before | last
      · rw [passes_at passes before] at raises
        cases raises
      · cases List.mem_singleton.mp last
        exact reported raises

end Teardown

/-- The teardown completes exactly when nothing before the hook raises. -/
theorem teardown_completes_iff (fails : Fails) (requested : Bool) :
    Completes fails requested ↔ fails.unsubscribe = false ∧
      (requested = false → fails.closeRTC = false) ∧ fails.sessionClose = false := by
  refine ⟨fun completes => ?_, Teardown.completes_of_passes⟩
  rcases Teardown.closing_cases fails requested with ⟨passes, -⟩ | ⟨-, part, t, ended, skipped, none'⟩
  · exact passes
  · -- The first call stops early and skips the hook.
    have reached := System.reaches_of_run (M := teardown fails requested) [.closeSession] rfl
    have stopped := Teardown.closeSession_stopped ended
    have hooks := (completes.once _ (stopped ▸ reached) (by simp) (by simp [none'])).2.1
    have never : t.called.count .hook = 0 := List.count_eq_zero.mpr skipped
    exact absurd (never.symm.trans hooks) (by decide)

/-- The subscription cannot be cancelled: the session stays open and the hook is not called. -/
theorem teardown_skips :
    (∃ s, (teardown ⟨true, false, false, false⟩ false).Reaches always s ∧
      s.calls = [.returned] ∧ s.called = [.unsubscribe] ∧ s.reported = [.unsubscribe] ∧
      s.registered = false) ∧
    ¬∀ fails requested, Completes fails requested := by
  have reached := System.reaches_of_run (M := teardown ⟨true, false, false, false⟩ false)
    [.closeSession] rfl
  refine ⟨⟨_, reached, rfl, rfl, rfl, rfl⟩, fun completes => ?_⟩
  have once := (completes _ _).once _ reached (by decide) (by decide)
  exact absurd once.1 (by decide)

end VoxRtc.Python.Gateway
