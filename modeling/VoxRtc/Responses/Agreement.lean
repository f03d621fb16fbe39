import VoxRtc.TypeScript.Session.Responses
import VoxRtc.Rust.Session.Responses
import VoxRtc.Go.Session.Responses
import VoxRtc.Python.Session.Responses

/-!
# Four sessions with one ambient generation

Whether the sessions of the four SDKs stamp the same calls alike. They differ in when
`cancel` and `replace` clear the ambient generation, and in what an empty id means.
-/
namespace VoxRtc.Responses

structure Sessions where
  typescript : TypeScript.Session.VoxRtcSession := {}
  rust : Rust.Session.ResponseGeneration := {}
  go : Go.Session.ControlSession := {}
  python : Python.Session.VoxRtcSession := {}

/-- The ids a session stamps its frames with. -/
def stamps {σ : Type} (call : σ → Call → σ × Frame) : σ → List Call → List (Option String)
  | _, [] => []
  | s, c :: cs => (call s c).2.generationId :: stamps call (call s c).1 cs

/-- Every frame carries the same id, or none, in each of the SDKs. -/
def Sessions.Agree (s : Sessions) (calls : List Call) : Prop :=
  stamps (·.call) s.rust calls = stamps (·.call) s.typescript calls ∧
  stamps (·.call) s.go calls = stamps (·.call) s.typescript calls ∧
  stamps (·.call) s.python calls = stamps (·.call) s.typescript calls

/-- What the sessions have in common: the ambient id, or one that only some of them hold. -/
inductive Ambient where
  | agreed (id : Option String)
  /-- `replace` has named an id, which the TypeScript session has kept. -/
  | replaced (id : String)
  /-- `cancel` has named another id, and the TypeScript and Go sessions have kept this one. -/
  | spared (id : String)
  deriving DecidableEq, Repr

namespace Ambient

/-- The call names an id that is not empty, or an ambient id that the sessions agree on. -/
def Accepts : Ambient → Call → Prop
  | agreed _, c => c.explicit ≠ some ""
  | replaced _, c | spared _, c => c.explicit ≠ some "" ∧
    match c.command with
    | .start | .replaceText _ => True
    | .delta _ | .commit | .cancel => c.explicit ≠ none

def next (ambient : Ambient) (c : Call) : Ambient :=
  match c.command, c.explicit with
  | .start, explicit => agreed (some (explicit.getD c.generated.text))
  | .replaceText _, none | .cancel, none => agreed none
  | .replaceText _, some id => replaced id
  | .cancel, some id => match ambient with
    | agreed none => agreed none
    | agreed (some held) => if id = held then agreed none else spared held
    | replaced held | spared held => if id = held then agreed none else ambient
  | .delta _, _ | .commit, _ => ambient

/-- No call relies on an ambient id where the sessions do not agree on it. -/
def Attuned (ambient : Ambient) : List Call → Prop
  | [] => True
  | c :: cs => ambient.Accepts c ∧ (ambient.next c).Attuned cs

/-- What each of the sessions holds. -/
def Holds : Ambient → Sessions → Prop
  | agreed id, s => s.typescript.responseGenerationId = id ∧ s.rust.id = id ∧ s.go.ambient = id ∧
    s.python.responseGenerationId = id
  | replaced id, s => s.typescript.responseGenerationId = some id ∧ s.rust.id = none ∧
    s.go.ambient = none ∧ s.python.responseGenerationId = none
  | spared id, s => s.typescript.responseGenerationId = some id ∧ s.rust.id = none ∧
    s.go.ambient = some id ∧ s.python.responseGenerationId = none

end Ambient

namespace Sessions

def next (s : Sessions) (c : Call) : Sessions where
  typescript := (s.typescript.call c).1
  rust := (s.rust.call c).1
  go := (s.go.call c).1
  python := (s.python.call c).1

/-- The frames of one call carry the same id. -/
def Alike (s : Sessions) (c : Call) : Prop :=
  (s.rust.call c).2.generationId = (s.typescript.call c).2.generationId ∧
  (s.go.call c).2.generationId = (s.typescript.call c).2.generationId ∧
  (s.python.call c).2.generationId = (s.typescript.call c).2.generationId

variable {s : Sessions} {c : Call} {ambient : Ambient}

theorem agree_cons (calls : List Call) :
    s.Agree (c :: calls) ↔ s.Alike c ∧ (s.next c).Agree calls := by
  simp only [Agree, Alike, next, stamps, List.cons.injEq]
  tauto

private theorem rust_explicit : Rust.Session.explicitGeneration c.options =
    c.explicit.filter (· ≠ "") := rfl

private theorem go_explicit : Go.Session.ControlSession.explicit c.options =
    c.explicit.filter (· ≠ "") := by
  unfold Go.Session.ControlSession.explicit Call.explicit
  cases c.options with
  | none => rfl
  | some options =>
    change Go.Session.nonempty (options.generationId.getD "") = options.generationId.filter (· ≠ "")
    cases options.generationId with
    | none => rfl
    | some id =>
      by_cases empty : id = "" <;> simp [Go.Session.nonempty, Option.filter, empty]

private theorem go_ambient_proper : s.go.ambient ≠ some "" := by
  unfold Go.Session.ControlSession.ambient Go.Session.nonempty
  split
  · simp
  · simpa using ‹_›

private theorem explicit_proper (proper : c.explicit ≠ some "") :
    c.explicit.filter (· ≠ "") = c.explicit := by
  cases explicit : c.explicit with
  | none => rfl
  | some id =>
    rw [explicit] at proper
    simpa using proper

/-- An empty id is a generation to two of the sessions, and none to the others. -/
private theorem not_alike_empty (holds : ambient.Holds s) (empty : c.explicit = some "") :
    ¬s.Alike c := by
  rintro ⟨rust, -, -⟩
  rw [Rust.Session.ResponseGeneration.call_stamp, TypeScript.Session.VoxRtcSession.call_stamp,
    rust_explicit, empty] at rust
  have proper : s.rust.id ≠ some "" := by
    cases ambient with
    | agreed id => exact fun absurd => go_ambient_proper (holds.2.2.1.trans (holds.2.1.symm.trans absurd))
    | replaced id | spared id => simp [holds.2.1]
  unfold Call.stamp at rust
  cases command : c.command <;> simp [command] at rust
  case start => exact c.generated.proper rust
  all_goals exact proper rust

/-- The frames agree exactly on what the sessions agree on. -/
theorem alike_iff (holds : ambient.Holds s) : s.Alike c ↔ ambient.Accepts c := by
  by_cases empty : c.explicit = some ""
  · refine iff_of_false (not_alike_empty holds empty) ?_
    cases ambient <;> simp [Ambient.Accepts, empty]
  unfold Alike
  rw [Rust.Session.ResponseGeneration.call_stamp, TypeScript.Session.VoxRtcSession.call_stamp,
    Go.Session.ControlSession.call_stamp, Python.Session.VoxRtcSession.call_stamp, rust_explicit,
    go_explicit, explicit_proper empty]
  cases ambient with
  | agreed id =>
    obtain ⟨typescript, rust, go, python⟩ := holds
    simp [Ambient.Accepts, empty, typescript, rust, go, python]
  | replaced id | spared id =>
    obtain ⟨typescript, rust, go, python⟩ := holds
    simp only [Ambient.Accepts, typescript, rust, go, python, Call.stamp]
    cases explicit : c.explicit with
    | none => cases c.command <;> simp
    | some given =>
      have proper : given ≠ "" := fun absurd => empty (explicit.trans (congrArg some absurd))
      cases c.command <;> simp [proper]

theorem holds_next (holds : ambient.Holds s) (accepts : ambient.Accepts c) :
    (ambient.next c).Holds (s.next c) := by
  have typescript := s.typescript.call_ambient c
  have rust := s.rust.call_ambient c
  have go := s.go.call_ambient c
  have python := s.python.call_ambient c
  have proper : c.explicit ≠ some "" := by
    cases ambient with
    | agreed id => exact accepts
    | replaced id | spared id => exact accepts.1
  rw [rust_explicit, explicit_proper proper] at rust
  rw [go_explicit, explicit_proper proper] at go
  unfold Ambient.next
  cases command : c.command with
  | start => simp_all [Ambient.Holds, next]
  | delta text | commit => cases ambient <;> simp_all [Ambient.Holds, next]
  | replaceText text => cases explicit : c.explicit <;> simp_all [Ambient.Holds, next]
  | cancel =>
    rw [command] at typescript rust go python
    cases explicit : c.explicit with
    | none => simp [Ambient.Holds, next, typescript, rust, go, python, explicit]
    | some id =>
      simp only [explicit, reduceCtorEq, false_or] at typescript go
      cases ambient with
      | agreed held =>
        rw [holds.1] at typescript
        rw [holds.2.2.1] at go
        cases held with
        | none => simp_all [Ambient.Holds, next]
        | some held => by_cases same : id = held <;> simp_all [Ambient.Holds, next]
      | replaced held | spared held =>
        rw [holds.1] at typescript
        rw [holds.2.2.1] at go
        by_cases same : id = held <;> simp_all [Ambient.Holds, next]

theorem agree_iff (calls : List Call) (holds : ambient.Holds s) :
    s.Agree calls ↔ ambient.Attuned calls := by
  induction calls generalizing ambient s with
  | nil => exact iff_of_true ⟨rfl, rfl, rfl⟩ trivial
  | cons c calls ih =>
    rw [agree_cons, Ambient.Attuned, alike_iff holds]
    exact and_congr_right fun accepts => ih (holds_next holds accepts)

end Sessions

/-- The SDKs stamp the same calls alike exactly where no call gives an empty id, or relies on
an ambient id that `replace` has set or `cancel` has spared in some of the sessions only. -/
theorem sessions_agree_iff (calls : List Call) :
    ({} : Sessions).Agree calls ↔ (Ambient.agreed none).Attuned calls :=
  Sessions.agree_iff calls ⟨rfl, rfl, rfl, rfl⟩

/-- A response is started, another one is cancelled, and the text goes on. -/
def sparingCalls : List Call :=
  let generated : GeneratedId := ⟨"generation_1", GeneratedId.first_proper⟩
  [⟨.start, none, generated⟩, ⟨.cancel, some { generationId := some "other" }, generated⟩,
    ⟨.delta "text", none, generated⟩]

/-- Two of the sessions have dropped the ambient id by then. -/
theorem sessions_disagree :
    (stamps (·.call) ({} : Sessions).typescript sparingCalls =
        [some "generation_1", some "other", some "generation_1"] ∧
      stamps (·.call) ({} : Sessions).go sparingCalls =
        [some "generation_1", some "other", some "generation_1"] ∧
      stamps (·.call) ({} : Sessions).rust sparingCalls =
        [some "generation_1", some "other", none] ∧
      stamps (·.call) ({} : Sessions).python sparingCalls =
        [some "generation_1", some "other", none]) ∧
    ¬∀ calls, ({} : Sessions).Agree calls := by
  refine ⟨by decide, fun agree => ?_⟩
  exact absurd (agree sparingCalls).1 (by decide)

end VoxRtc.Responses
