import VoxRtc.Transition.Runs
import Mathlib.Data.List.Basic

/-!
# One resource at a time

A component makes resources, holds at most one of them, and lets it go to make another. A
resource that is active and not held is abandoned: nothing will ever stop it.
-/
namespace Correlation

open Transition

universe u v w

structure Holder (α : Type u) where
  held : Option Nat := none
  made : List α := []

namespace Holder

variable {α : Type u}

/-- The resource that is held; a new one is made if there is none. -/
def ensure (h : Holder α) (new : α) : Holder α × Nat :=
  match h.held with
  | some i => (h, i)
  | none => (⟨some h.made.length, h.made ++ [new]⟩, h.made.length)

def change (h : Holder α) (i : Nat) (f : α → α) : Holder α := { h with made := h.made.modify i f }

def release (h : Holder α) : Holder α := { h with held := none }

/-- The resource is active, and it is not held. -/
def Abandoned (active : α → Prop) (h : Holder α) (i : Nat) : Prop :=
  h.held ≠ some i ∧ ∃ a, h.made[i]? = some a ∧ active a

/-- Nothing is abandoned. -/
def Owned (active : α → Prop) (h : Holder α) : Prop := ∀ i, ¬h.Abandoned active i

/-- What is held has been made. -/
def Within (h : Holder α) : Prop := ∀ i, h.held = some i → i < h.made.length

/-- What is held is not active. -/
def Idle (active : α → Prop) (h : Holder α) : Prop :=
  ∀ i a, h.held = some i → h.made[i]? = some a → ¬active a

variable {active : α → Prop} {h : Holder α} {i j : Nat} {f : α → α} {new : α}

theorem ensure_held : (h.ensure new).1.held = some (h.ensure new).2 := by
  unfold ensure
  split
  next held => exact held
  next => rfl

theorem ensure_made (old : j < h.made.length) : (h.ensure new).1.made[j]? = h.made[j]? := by
  unfold ensure
  split
  · rfl
  · exact List.getElem?_append_left old

theorem ensure_length : h.made.length ≤ (h.ensure new).1.made.length := by
  unfold ensure
  split
  · exact Nat.le_refl _
  · simp

theorem ensure_within (within : h.Within) : (h.ensure new).1.Within := by
  unfold ensure
  split
  · exact within
  next =>
    rintro i held
    cases held
    simp

theorem change_length : (h.change i f).made.length = h.made.length := List.length_modify ..

theorem change_within (within : h.Within) : (h.change i f).Within := by
  intro j held
  rw [change_length]
  exact within j held

theorem release_within : h.release.Within := by
  intro i held
  cases held

theorem ensure_owned (quiet : ¬active new) (owned : h.Owned active) :
    (h.ensure new).1.Owned active := by
  unfold ensure
  split
  · exact owned
  next free =>
    rintro i ⟨other, a, here, acts⟩
    rw [List.getElem?_append] at here
    split at here
    · exact owned i ⟨by rw [free]; exact (Option.some_ne_none i).symm, a, here, acts⟩
    · rw [List.getElem?_singleton, Option.ite_none_right_eq_some] at here
      cases here.2
      exact quiet acts

theorem Abandoned.ensure (lost : h.Abandoned active i) : (h.ensure new).1.Abandoned active i := by
  obtain ⟨other, a, here, acts⟩ := lost
  have old : i < h.made.length := (List.getElem?_eq_some_iff.mp here).1
  refine ⟨?_, a, (ensure_made old).trans here, acts⟩
  unfold Holder.ensure
  split
  · exact other
  · simp only [ne_eq, Option.some.injEq]
    omega

theorem change_made_self {a : α} (here : h.made[i]? = some a) :
    (h.change i f).made[i]? = some (f a) := by
  rw [change, List.getElem?_modify_eq, here]
  rfl

theorem change_made_other (other : i ≠ j) : (h.change i f).made[j]? = h.made[j]? :=
  List.getElem?_modify_ne f h.made other

theorem change_owned (owned : h.Owned active)
    (held : ∀ a, h.made[i]? = some a → active (f a) → active a ∨ h.held = some i) :
    (h.change i f).Owned active := by
  rintro j ⟨other, b, here, acts⟩
  by_cases same : i = j
  · subst same
    cases old : h.made[i]? with
    | none =>
      rw [change, List.getElem?_modify_eq, old] at here
      cases here
    | some a =>
      cases (change_made_self old).symm.trans here
      rcases held a old acts with before | now
      · exact owned i ⟨other, a, old, before⟩
      · exact other now
  · rw [change_made_other same] at here
    exact owned j ⟨other, b, here, acts⟩

theorem Abandoned.change (lost : h.Abandoned active j)
    (kept : ∀ a, h.made[j]? = some a → i = j → active a → active (f a)) :
    (h.change i f).Abandoned active j := by
  obtain ⟨other, a, here, acts⟩ := lost
  by_cases same : i = j
  · subst same
    exact ⟨other, f a, change_made_self here, kept a here rfl acts⟩
  · exact ⟨other, a, (change_made_other same).trans here, acts⟩

/-- To activate a resource that is not held is to lose it. -/
theorem change_abandons {a : α} (here : h.made[i]? = some a) (acts : active (f a))
    (other : h.held ≠ some i) : (h.change i f).Abandoned active i :=
  ⟨other, f a, change_made_self here, acts⟩

theorem release_owned (owned : h.Owned active) (idle : h.Idle active) :
    h.release.Owned active := by
  rintro i ⟨_, a, here, acts⟩
  by_cases held : h.held = some i
  · exact idle i a held here acts
  · exact owned i ⟨held, a, here, acts⟩

theorem Abandoned.release (lost : h.Abandoned active i) : h.release.Abandoned active i :=
  ⟨(Option.some_ne_none i).symm, lost.2⟩

/-- To let go of a resource that is active is to lose it. -/
theorem release_abandons (busy : ¬h.Idle active) : ¬h.release.Owned active := by
  intro owned
  apply busy
  intro i a held here acts
  exact owned i ⟨(Option.some_ne_none i).symm, a, here, acts⟩

end Holder

/-! ## Runs -/

variable {σ : Type v} {ℓ : Type w}

theorem run_append {M : System σ ℓ} {ls ls' : List ℓ} {s t : σ} (first : M.run s ls = some t) :
    M.run s (ls ++ ls') = M.run t ls' := by
  induction ls generalizing s with
  | nil =>
    cases first
    rfl
  | cons l ls ih =>
    obtain ⟨u, stepped, rest⟩ := Option.bind_eq_some_iff.mp first
    rw [List.cons_append, System.run, stepped, Option.bind_some, ih rest]

theorem meets_append {M : System σ ℓ} {C : σ → ℓ → Prop} {ls ls' : List ℓ} {s t : σ}
    (first : M.run s ls = some t) : M.Meets C s (ls ++ ls') ↔ M.Meets C s ls ∧ M.Meets C t ls' := by
  induction ls generalizing s with
  | nil =>
    cases first
    simp [System.Meets]
  | cons l ls ih =>
    obtain ⟨u, stepped, rest⟩ := Option.bind_eq_some_iff.mp first
    rw [List.cons_append, System.Meets, System.Meets, stepped]
    simp only [ih rest]
    exact and_assoc.symm

/-- What a step keeps exactly if it meets the condition, and does not bring back, holds at the
end of a run exactly if it held before and all steps of the run meet the condition. -/
theorem run_iff_meets {M : System σ ℓ} {C : σ → ℓ → Prop} (Sound Good : σ → Prop)
    (each : ∀ s l t, Sound s → M.step s l = some t → Sound t ∧ (Good t ↔ Good s ∧ C s l))
    {ls : List ℓ} {s t : σ} (start : Sound s) (taken : M.run s ls = some t) :
    Good t ↔ Good s ∧ M.Meets C s ls := by
  induction ls generalizing s with
  | nil =>
    cases taken
    simp [System.Meets]
  | cons l ls ih =>
    obtain ⟨u, stepped, rest⟩ := Option.bind_eq_some_iff.mp taken
    obtain ⟨sound, one⟩ := each s l u start stepped
    rw [ih sound rest, one, System.Meets, stepped]
    exact and_assoc

end Correlation
