import Mathlib.Data.List.Basic

/-!
# Broadcasts with a last event

Every event goes to those who are subscribed when it is broadcast. An event that is final
is the last one for all who get it, if nothing is broadcast to them afterwards.
-/
namespace Correlation

universe u v

/-- What has been broadcast, each event with those it went to. -/
abbrev Broadcasts (ε : Type u) (α : Type v) := List (ε × List α)

namespace Broadcasts

variable {ε : Type u} {α : Type v} [DecidableEq α] {final : ε → Prop} {b : Broadcasts ε α}

def delivered (b : Broadcasts ε α) (subscriber : α) : List ε :=
  (b.filter fun entry => subscriber ∈ entry.2).map Prod.fst

/-- A subscriber has had a final event. -/
def Told (final : ε → Prop) (b : Broadcasts ε α) (subscriber : α) : Prop :=
  ∃ e ∈ b.delivered subscriber, final e

instance decidableTold [DecidablePred final] (subscriber : α) :
    Decidable (b.Told final subscriber) :=
  inferInstanceAs (Decidable (∃ e ∈ b.delivered subscriber, final e))

/-- No subscriber has an event after a final one. -/
def Closed (final : ε → Prop) (b : Broadcasts ε α) : Prop :=
  ∀ subscriber before e after, b.delivered subscriber = before ++ e :: after → final e → after = []

theorem delivered_append (e : ε) (audience : List α) (subscriber : α) :
    delivered (b ++ [(e, audience)]) subscriber =
      b.delivered subscriber ++ if subscriber ∈ audience then [e] else [] := by
  by_cases member : subscriber ∈ audience <;>
    simp [delivered, List.filter_append, member]

/-- A final event that some have had does not matter to the others. -/
theorem Closed.append (closed : b.Closed final) {e : ε} {audience : List α}
    (clear : ∀ subscriber ∈ audience, ¬b.Told final subscriber) :
    Closed final (b ++ [(e, audience)]) := by
  intro subscriber before other after split last
  rw [delivered_append] at split
  by_cases member : subscriber ∈ audience
  · rw [if_pos member] at split
    rcases List.eq_nil_or_concat after with rfl | ⟨rest, final, rfl⟩
    · rfl
    · -- A final event before the new one would have been delivered before.
      exfalso
      rw [List.concat_eq_append, ← List.cons_append, ← List.append_assoc] at split
      have earlier := (List.append_inj' split rfl).1
      refine clear subscriber member ⟨other, ?_, last⟩
      rw [earlier]
      exact List.mem_append_right _ (List.mem_cons_self ..)
  · rw [if_neg member, List.append_nil] at split
    exact closed subscriber before other after split last

theorem not_told_of_silent (silent : ∀ entry ∈ b, ¬final entry.1) (subscriber : α) :
    ¬b.Told final subscriber := by
  rintro ⟨e, member, last⟩
  obtain ⟨entry, listed, rfl⟩ := List.mem_map.mp member
  exact silent entry (List.mem_of_mem_filter listed) last

end Broadcasts

end Correlation
