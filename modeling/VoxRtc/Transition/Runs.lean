import Mathlib.Data.List.Basic

/-!
# Labelled transition systems

A system is an initial state and a partial step function: the label carries every
choice the environment or the scheduler makes, and `none` says that the step is
not enabled. Runs may be restricted to steps that meet a condition on the state
they start in; `fun _ _ => True` is the unrestricted case.
-/
namespace Transition

universe u v w

variable {σ : Type u} {ℓ : Type v}

structure System (σ : Type u) (ℓ : Type v) where
  init : σ
  step : σ → ℓ → Option σ

/-- Steps no condition restricts. -/
def always (_ : σ) (_ : ℓ) : Prop := True

namespace System

/-- The state after a list of labels, if each of them is enabled in turn. -/
def run (M : System σ ℓ) : σ → List ℓ → Option σ
  | s, [] => some s
  | s, l :: ls => (M.step s l).bind fun t => run M t ls

/-- Each step of the run starts in a state that meets the condition. -/
def Meets (M : System σ ℓ) (C : σ → ℓ → Prop) : σ → List ℓ → Prop
  | _, [] => True
  | s, l :: ls => C s l ∧ match M.step s l with
    | some t => Meets M C t ls
    | none => True

instance decidableMeets (M : System σ ℓ) (C : σ → ℓ → Prop) [∀ s l, Decidable (C s l)] :
    (s : σ) → (ls : List ℓ) → Decidable (M.Meets C s ls)
  | _, [] => inferInstanceAs (Decidable True)
  | s, l :: ls =>
    let _ : Decidable (match M.step s l with
        | some t => M.Meets C t ls
        | none => True) :=
      match M.step s l with
      | some t => decidableMeets M C t ls
      | none => inferInstanceAs (Decidable True)
    inferInstanceAs (Decidable (_ ∧ _))

/-- States reached from `s` by steps that all meet the condition. -/
inductive Leads (M : System σ ℓ) (C : σ → ℓ → Prop) (s : σ) : σ → Prop
  | here : Leads M C s s
  | step {t u : σ} (l : ℓ) :
      Leads M C s t → C t l → M.step t l = some u → Leads M C s u

/-- States reached from the initial one. -/
def Reaches (M : System σ ℓ) (C : σ → ℓ → Prop) : σ → Prop :=
  M.Leads C M.init

variable {M : System σ ℓ} {C D : σ → ℓ → Prop} {s t u : σ}

theorem Leads.trans (first : M.Leads C s t) (second : M.Leads C t u) : M.Leads C s u := by
  induction second with
  | here => exact first
  | step l _ meets taken ih => exact .step l ih meets taken

theorem Leads.mono (weaker : ∀ a l, C a l → D a l) (run : M.Leads C s t) : M.Leads D s t := by
  induction run with
  | here => exact .here
  | step l _ meets taken ih => exact .step l ih (weaker _ l meets) taken

/-- What a step preserves, a run preserves. -/
theorem Leads.preserves {P : σ → Prop}
    (kept : ∀ a l b, P a → C a l → M.step a l = some b → P b)
    (run : M.Leads C s t) (holds : P s) : P t := by
  induction run with
  | here => exact holds
  | step l _ meets taken ih => exact kept _ l _ ih meets taken

theorem Reaches.mono (weaker : ∀ a l, C a l → D a l) (reached : M.Reaches C s) : M.Reaches D s :=
  Leads.mono weaker reached

theorem Reaches.preserves {P : σ → Prop} (start : P M.init)
    (kept : ∀ a l b, P a → C a l → M.step a l = some b → P b)
    (reached : M.Reaches C s) : P s :=
  Leads.preserves kept reached start

section Simulation

universe x

variable {τ : Type w} {κ : Type x} {N : System τ κ}

/-- Forward simulation: every step is matched by a run of the other system, which may have
gone some way before. -/
theorem Reaches.simulates_from (R : σ → τ → Prop) (start : ∃ y, N.Reaches always y ∧ R M.init y)
    (matched : ∀ a l b y, R a y → C a l → M.step a l = some b → ∃ z, N.Leads always y z ∧ R b z)
    (reached : M.Reaches C s) : ∃ y, N.Reaches always y ∧ R s y := by
  induction reached with
  | here => exact start
  | step l _ meets taken ih =>
    obtain ⟨y, earlier, related⟩ := ih
    obtain ⟨z, later, related'⟩ := matched _ l _ y related meets taken
    exact ⟨z, Leads.trans earlier later, related'⟩

theorem Reaches.simulates (R : σ → τ → Prop) (start : R M.init N.init)
    (matched : ∀ a l b y, R a y → C a l → M.step a l = some b → ∃ z, N.Leads always y z ∧ R b z)
    (reached : M.Reaches C s) : ∃ y, N.Reaches always y ∧ R s y :=
  Reaches.simulates_from R ⟨N.init, .here, start⟩ matched reached

end Simulation

theorem Leads.one (l : ℓ) (taken : M.step s l = some t) : M.Leads always s t :=
  .step l .here trivial taken

theorem leads_of_run (ls : List ℓ) (meets : M.Meets C s ls) (ran : M.run s ls = some t) :
    M.Leads C s t := by
  induction ls generalizing s with
  | nil =>
    cases ran
    exact .here
  | cons l ls ih =>
    simp only [run, Option.bind_eq_some_iff] at ran
    obtain ⟨next, taken, rest⟩ := ran
    simp only [Meets, taken] at meets
    exact Leads.trans (.step l .here meets.1 taken) (ih meets.2 rest)

/-- What a run comes to, where it is computed. -/
theorem run_ends {P : σ → Prop} [DecidablePred P] (ls : List ℓ)
    (ends : (M.run s ls).any (P ·) = true) : ∃ t, M.run s ls = some t ∧ P t := by
  simpa [Option.any_eq_true] using ends

theorem meets_always (ls : List ℓ) : M.Meets always s ls := by
  induction ls generalizing s with
  | nil => trivial
  | cons l ls ih =>
    refine ⟨trivial, ?_⟩
    cases M.step s l with
    | none => trivial
    | some t => exact ih

theorem reaches_of_run (ls : List ℓ) (ran : M.run M.init ls = some s) : M.Reaches always s :=
  leads_of_run ls (meets_always ls) ran

section Records

variable {ε : Type w} {seen : σ → ℓ → List ε}

/-- The system with a record, oldest first, of what its steps bring. -/
def recorded (M : System σ ℓ) (seen : σ → ℓ → List ε) : System (σ × List ε) ℓ where
  init := (M.init, [])
  step s l := (M.step s.1 l).map fun t => (t, s.2 ++ seen s.1 l)

/-- An invariant that relates the state to the record. -/
theorem Reaches.recorded {P : List ε → σ → Prop} {C : σ → ℓ → Prop} {r : σ × List ε}
    (start : P [] M.init)
    (kept : ∀ log a l b, P log a → C a l → M.step a l = some b → P (log ++ seen a l) b)
    (reached : (M.recorded seen).Reaches (fun s => C s.1) r) : P r.2 r.1 := by
  refine Reaches.preserves (P := fun s => P s.2 s.1) start (fun a l b holds meets taken => ?_)
    reached
  obtain ⟨t, moved, rfl⟩ := Option.map_eq_some_iff.mp taken
  exact kept a.2 a.1 l t holds meets moved

/-- Whatever is reached is reached with a record. -/
theorem Reaches.with_record (seen : σ → ℓ → List ε) {C : σ → ℓ → Prop} (reached : M.Reaches C s) :
    ∃ record, (M.recorded seen).Reaches (fun s => C s.1) (s, record) := by
  induction reached with
  | here => exact ⟨[], .here⟩
  | @step a b l _ meets taken ih =>
    obtain ⟨record, earlier⟩ := ih
    have recorded : (M.recorded seen).step (a, record) l = some (b, record ++ seen a l) :=
      Option.map_eq_some_iff.mpr ⟨b, taken, rfl⟩
    exact ⟨record ++ seen a l, .step l earlier meets recorded⟩

end Records

end System

end Transition
