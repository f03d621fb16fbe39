import Mathlib.Data.List.Basic

/-!
# Logs

A run's log is a list of what it has done, newest first, and its record is one with the oldest
first.
-/
namespace Transition

universe u

variable {ε : Type u} {P Q : ε → List ε → Prop} {log : List ε}

/-- Every entry is related to the entries before it. -/
def Preceded (Q : ε → List ε → Prop) : List ε → Prop
  | [] => True
  | e :: earlier => Q e earlier ∧ Preceded Q earlier

@[simp] theorem preceded_nil : Preceded Q [] := trivial

@[simp] theorem preceded_cons {e : ε} :
    Preceded Q (e :: log) ↔ Q e log ∧ Preceded Q log := Iff.rfl

/-- What no entry asks for holds of all. -/
theorem preceded_of_forall {P : ε → Prop} (quiet : ∀ e ∈ log, ¬P e) :
    Preceded (fun e earlier => P e → Q e earlier) log := by
  induction log with
  | nil => trivial
  | cons e earlier ih =>
    obtain ⟨first, rest⟩ := List.forall_mem_cons.mp quiet
    exact ⟨fun asks => absurd asks first, ih rest⟩

section Records

variable {start stop : ε → Prop} {record more : List ε} {e : ε}

/-- Something has started it, and nothing after that has stopped it. -/
def Since (start stop : ε → Prop) (record : List ε) : Prop :=
  ∃ before e after, record = before ++ e :: after ∧ start e ∧ ∀ x ∈ after, ¬stop x

theorem since_nil : ¬Since start stop [] := by
  rintro ⟨before, e, after, same, _⟩
  simp at same

/-- What the last entry does is all that counts, unless it does nothing. -/
theorem since_append_one :
    Since start stop (record ++ [e]) ↔ start e ∨ Since start stop record ∧ ¬stop e := by
  constructor
  · rintro ⟨before, d, after, same, starts, quiet⟩
    rcases List.eq_nil_or_concat after with rfl | ⟨earlier, last, rfl⟩
    · obtain ⟨_, last⟩ := List.append_inj' same rfl
      cases last
      exact .inl starts
    · rw [List.concat_eq_append, ← List.cons_append, ← List.append_assoc] at same
      obtain ⟨front, back⟩ := List.append_inj' same rfl
      cases back
      refine .inr ⟨⟨before, d, earlier, front, starts, fun x among => ?_⟩, ?_⟩
      · exact quiet x (by simp [among])
      · exact quiet e (by simp)
  · rintro (starts | ⟨⟨before, d, after, rfl, starts, quiet⟩, continues⟩)
    · exact ⟨record, e, [], rfl, starts, by simp⟩
    · refine ⟨before, d, after ++ [e], by simp, starts, fun x among => ?_⟩
      rcases List.mem_append.mp among with old | new
      · exact quiet x old
      · rw [List.mem_singleton.mp new]
        exact continues

end Records

end Transition
