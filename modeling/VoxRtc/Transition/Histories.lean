import VoxRtc.Transition.Pool

/-!
# Histories of processes

A record of a whole run, seen from one process of a pool: what it has brought since that
process began. These are the rules for a property of every process and its history, as
processes begin, move alone, or move together.
-/
namespace Transition.Pool

universe u v

variable {α : Type u} {ε : Type v} {begins : Nat → α → ε} {P : Nat → α → List ε → Prop}
  {record more : List ε} {xs : List α} {i : Nat} {a b : α}

/-- Every process began with an entry of the record, and has the property with what came
after that. -/
def Tracked (begins : Nat → α → ε) (P : Nat → α → List ε → Prop) (record : List ε)
    (xs : List α) : Prop :=
  ∀ i x, xs[i]? = some x → ∃ before after, record = before ++ begins i x :: after ∧ P i x after

theorem tracked_nil : Tracked begins P record [] := by
  intro i x found
  simp at found

/-- A process begins; the others take no notice. -/
theorem Tracked.begin (tracked : Tracked begins P record xs) (new : P xs.length b [])
    (others : ∀ i x after, P i x after → P i x (after ++ [begins xs.length b])) :
    Tracked begins P (record ++ [begins xs.length b]) (xs ++ [b]) := by
  intro i x found
  rcases read_append found with old | ⟨rfl, rfl⟩
  -- The others have one more entry in their history.
  · obtain ⟨before, after, rfl, holds⟩ := tracked i x old
    exact ⟨before, after ++ [begins xs.length b], by simp, others i x after holds⟩
  -- The new process has none.
  · exact ⟨record, [], rfl, new⟩

/-- One process moves. -/
theorem Tracked.set (tracked : Tracked begins P record xs) (old : xs[i]? = some a)
    (same : begins i b = begins i a) (own : ∀ after, P i a after → P i b (after ++ more))
    (others : ∀ j x after, j ≠ i → P j x after → P j x (after ++ more)) :
    Tracked begins P (record ++ more) (xs.set i b) := by
  intro j x found
  rcases read_set found with ⟨rfl, rfl⟩ | ⟨different, kept⟩
  · obtain ⟨before, after, rfl, holds⟩ := tracked j a old
    exact ⟨before, after ++ more, by simp [same], own after holds⟩
  · obtain ⟨before, after, rfl, holds⟩ := tracked j x kept
    exact ⟨before, after ++ more, by simp, others j x after different holds⟩

/-- All processes move. -/
theorem Tracked.map {f : α → α} (tracked : Tracked begins P record xs)
    (same : ∀ i x, begins i (f x) = begins i x)
    (moved : ∀ i x after, P i x after → P i (f x) (after ++ more)) :
    Tracked begins P (record ++ more) (xs.map f) := by
  intro i x found
  rw [List.getElem?_map, Option.map_eq_some_iff] at found
  obtain ⟨y, old, rfl⟩ := found
  obtain ⟨before, after, rfl, holds⟩ := tracked i y old
  exact ⟨before, after ++ more, by simp [same], moved i y after holds⟩

theorem Tracked.property (tracked : Tracked begins P record xs) (here : xs[i]? = some a) :
    ∃ after, P i a after := by
  obtain ⟨_, after, _, holds⟩ := tracked i a here
  exact ⟨after, holds⟩

end Transition.Pool
