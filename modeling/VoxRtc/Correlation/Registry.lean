import Mathlib.Data.List.Induction
import Mathlib.Logic.Function.Basic

/-!
# Registrations and their index

Everyone who is registered holds a ticket, and a ticket that lapses ends the registration it
is for. What is meant is one partial map; what is kept are two, so that the holder of a
ticket can be found, and they have to be each other's inverse.
-/
namespace Correlation

universe u v

variable {α : Type u} {β : Type v}

/-- Partial maps that are each other's inverse. -/
def Inverse (f : α → Option β) (g : β → Option α) : Prop := ∀ a b, f a = some b ↔ g b = some a

/-- What may happen to registrations. -/
inductive Signal (α : Type u) (β : Type v) where
  /-- Registers with the ticket `b`, if it is not registered already. -/
  | joins (a : α) (b : β)
  | leaves (a : α)
  | lapses (b : β)

section Operations

variable [DecidableEq α] [DecidableEq β]

def Signal.apply (f : α → Option β) : Signal α β → α → Option β
  | .joins a b => if (f a).isSome then f else Function.update f a (some b)
  | .leaves a => Function.update f a none
  | .lapses b => fun a => if f a = some b then none else f a

/-- Who is registered, with which ticket, after a record with the oldest signal first. -/
def registered (record : List (Signal α β)) : α → Option β :=
  record.foldl Signal.apply fun _ => none

variable {f : α → Option β} {g : β → Option α} {a : α} {b : β}

theorem Inverse.join (inverse : Inverse f g) (out : f a = none) (unused : g b = none) :
    Inverse (Function.update f a (some b)) (Function.update g b (some a)) := by
  intro x y
  -- Both maps change at one key, so the pairs split by whether they meet it.
  by_cases same : x = a <;> by_cases same' : y = b
  · subst same same'
    simp
  · subst same
    rw [Function.update_self, Function.update_of_ne same', ← inverse x y, out]
    simp [Ne.symm same']
  · subst same'
    rw [Function.update_self, Function.update_of_ne same, inverse x y, unused]
    simp [Ne.symm same]
  · rw [Function.update_of_ne same, Function.update_of_ne same']
    exact inverse x y

/-- The entry of a ticket goes with the entry of its holder. -/
theorem Inverse.drop (inverse : Inverse f g) (held : f a = some b) :
    Inverse (Function.update f a none) (Function.update g b none) := by
  have back : g b = some a := (inverse a b).mp held
  intro x y
  -- As for joining, with nothing in the place of the entries.
  by_cases same : x = a <;> by_cases same' : y = b
  · subst same same'
    simp
  · subst same
    rw [Function.update_self, Function.update_of_ne same', ← inverse x y, held]
    simp [Ne.symm same']
  · subst same'
    rw [Function.update_self, Function.update_of_ne same, inverse x y, back]
    simp [Ne.symm same]
  · rw [Function.update_of_ne same, Function.update_of_ne same']
    exact inverse x y

/-- The index finds the one registration that a ticket ends. -/
theorem Inverse.lapses (inverse : Inverse f g) (back : g b = some a) :
    Signal.apply f (.lapses b) = Function.update f a none := by
  funext x
  simp only [Signal.apply, inverse x b, back, Option.some.injEq, Function.update_apply, eq_comm]

theorem Inverse.lapses_unknown (inverse : Inverse f g) (unknown : g b = none) :
    Signal.apply f (.lapses b) = f := by
  funext x
  simp [Signal.apply, inverse x b, unknown]

theorem registered_append (record more : List (Signal α β)) :
    registered (record ++ more) = more.foldl Signal.apply (registered record) := List.foldl_append

/-- The signal ends the registration of `a`. -/
def Signal.Ends (f : α → Option β) (a : α) : Signal α β → Prop
  | .joins .. => False
  | .leaves x => x = a
  | .lapses b => f a = some b

theorem Signal.Ends.apply {e : Signal α β} (ends : e.Ends f a) : Signal.apply f e a = none := by
  cases e with
  | joins x y => cases ends
  | leaves x =>
    cases ends
    simp [Signal.apply]
  | lapses b =>
    have held : f a = some b := ends
    simp [Signal.apply, held]

/-- Only by joining does anyone become registered. -/
theorem Signal.apply_none {e : Signal α β} (out : f a = none) (other : ∀ b, e ≠ .joins a b) :
    Signal.apply f e a = none := by
  cases e with
  | joins x y =>
    have different : a ≠ x := fun same => other y (by rw [same])
    simp only [Signal.apply]
    split
    · exact out
    · rw [Function.update_of_ne different, out]
  | leaves x =>
    by_cases same : a = x
    · rw [same, Signal.apply, Function.update_self]
    · rw [Signal.apply, Function.update_of_ne same, out]
  | lapses b => simp [Signal.apply, out]

/-- A signal has ended the registration of `a`, which has not joined again. -/
def Gone (record : List (Signal α β)) (a : α) : Prop :=
  ∃ before e after, record = before ++ e :: after ∧ e.Ends (registered before) a ∧
    ∀ b, .joins a b ∉ after

/-- Whoever has gone stays away until it joins again. -/
theorem Gone.registered {record : List (Signal α β)} (gone : Gone record a) :
    registered record a = none := by
  obtain ⟨before, e, after, rfl, ends, quiet⟩ := gone
  -- By induction on what came after the end: each signal leaves `a` out.
  induction after using List.reverseRecOn with
  | nil =>
    rw [registered_append]
    exact ends.apply
  | append_singleton after last ih =>
    rw [← List.cons_append, ← List.append_assoc, registered_append]
    refine Signal.apply_none (ih fun b member => ?_) fun b same => ?_
    · exact quiet b (List.mem_append_left _ member)
    · exact quiet b (by rw [same]; simp)

end Operations

end Correlation
