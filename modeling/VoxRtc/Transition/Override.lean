import Mathlib.Data.Option.Basic

/-!
# Overridden values

A value that is overridden for a while. The first override saves the value it finds, a later
one starts again from the saved value, and a release restores it.
-/
namespace Transition

universe u

structure Overridden (α : Type u) where
  current : α
  saved : Option α
  deriving DecidableEq, Repr

namespace Overridden

variable {α : Type u} {o : Overridden α} {f g : α → α}

/-- The value beneath the override. -/
def original (o : Overridden α) : α := o.saved.getD o.current

def engage (o : Overridden α) (f : α → α) : Overridden α := ⟨f o.original, some o.original⟩

def release (o : Overridden α) : Overridden α := ⟨o.original, none⟩

/-- The value is overridden by `f`, or by nothing. -/
def By (o : Overridden α) (f : α → α) : Prop := ∀ v, o.saved = some v → o.current = f v

@[simp] theorem original_engage : (o.engage f).original = o.original := rfl

@[simp] theorem original_release : o.release.original = o.original := rfl

theorem by_engage : (o.engage f).By f := by
  intro v saved
  cases saved
  rfl

theorem by_release : o.release.By f := by
  intro v saved
  cases saved

theorem current_of_free (free : o.saved = none) : o.current = o.original := by
  rw [original, free, Option.getD_none]

end Overridden

end Transition
