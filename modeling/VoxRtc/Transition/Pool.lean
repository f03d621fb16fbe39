import Mathlib.Data.List.Basic

/-!
# Pools of processes

A pool is a list of local states. A step replaces the state at one index or starts
a process at the end; these are the rules for reading, quantifying over and
counting the pool after such a step.
-/
namespace Transition.Pool

universe u

variable {α : Type u} {xs : List α} {i j : Nat} {a b x : α}

theorem read_set (found : (xs.set i b)[j]? = some x) :
    j = i ∧ x = b ∨ j ≠ i ∧ xs[j]? = some x := by
  rw [List.getElem?_set] at found
  split at found
  next equal =>
    split at found
    · exact .inl ⟨equal.symm, (Option.some.inj found).symm⟩
    · cases found
  next different => exact .inr ⟨fun equal => different equal.symm, found⟩

theorem read_set_self (old : xs[i]? = some a) : (xs.set i b)[i]? = some b := by
  rw [List.getElem?_set, if_pos rfl, if_pos (List.getElem?_eq_some_iff.mp old).1]

theorem read_set_other (different : j ≠ i) : (xs.set i b)[j]? = xs[j]? := by
  rw [List.getElem?_set, if_neg (fun equal => different equal.symm)]

theorem read_append (found : (xs ++ [b])[j]? = some x) :
    xs[j]? = some x ∨ j = xs.length ∧ x = b := by
  rw [List.getElem?_append] at found
  split at found
  · exact .inl found
  next outside =>
    obtain ⟨bound, value⟩ := List.getElem?_eq_some_iff.mp found
    simp only [List.length_singleton] at bound
    refine .inr ⟨by omega, ?_⟩
    simpa using value.symm

theorem read_append_old (old : xs[i]? = some a) : (xs ++ [b])[i]? = some a := by
  rw [List.getElem?_append, if_pos (List.getElem?_eq_some_iff.mp old).1, old]

/-- One process moves; what its move keeps, every process keeps. -/
theorem read_set_related {R : α → α → Prop} (old : xs[i]? = some a) (here : xs[j]? = some x)
    (moves : R a b) (stays : R x x) : ∃ y, (xs.set i b)[j]? = some y ∧ R x y := by
  by_cases same : j = i
  · subst same
    cases old.symm.trans here
    exact ⟨b, read_set_self old, moves⟩
  · exact ⟨x, (read_set_other same).trans here, stays⟩

theorem forall_set {P : α → Prop} (all : ∀ y ∈ xs, P y) (new : P b) : ∀ y ∈ xs.set i b, P y := by
  intro y member
  rcases List.mem_or_eq_of_mem_set member with old | rfl
  · exact all y old
  · exact new

theorem forall_append {P : α → Prop} (all : ∀ y ∈ xs, P y) (new : P b) :
    ∀ y ∈ xs ++ [b], P y := by
  intro y member
  rcases List.mem_append.mp member with old | last
  · exact all y old
  · rw [List.mem_singleton.mp last]
    exact new

/-- Another process keeps its state. -/
theorem mem_set_of_ne (old : xs[i]? = some a) (member : x ∈ xs) (different : x ≠ a) :
    x ∈ xs.set i b := by
  obtain ⟨k, found⟩ := List.mem_iff_getElem?.mp member
  have other : k ≠ i := by
    rintro rfl
    exact different (Option.some.inj (found.symm.trans old))
  exact List.mem_iff_getElem?.mpr ⟨k, by rw [read_set_other other, found]⟩

theorem mem_set_self (old : xs[i]? = some a) : b ∈ xs.set i b :=
  List.mem_iff_getElem?.mpr ⟨i, read_set_self old⟩

theorem mem_of_read (old : xs[i]? = some a) : a ∈ xs :=
  List.mem_iff_getElem?.mpr ⟨i, old⟩

/-- What a step leaves alone in one process, it leaves alone in all of them. -/
theorem map_set_same {β : Type u} (f : α → β) (old : xs[i]? = some a) (same : f b = f a) :
    (xs.set i b).map f = xs.map f := by
  apply List.ext_getElem?
  intro j
  rw [List.getElem?_map, List.getElem?_map]
  by_cases equal : j = i
  · rw [equal, read_set_self old, old, Option.map_some, Option.map_some, same]
  · rw [read_set_other equal]

theorem flatMap_set_same {β : Type u} (f : α → List β) (old : xs[i]? = some a) (same : f b = f a) :
    (xs.set i b).flatMap f = xs.flatMap f := by
  rw [List.flatMap_def, List.flatMap_def, map_set_same f old same]

/-- The pool around one process. -/
theorem split_at (old : xs[i]? = some a) :
    ∃ before after, xs = before ++ a :: after ∧ ∀ b, xs.set i b = before ++ b :: after := by
  obtain ⟨bound, value⟩ := List.getElem?_eq_some_iff.mp old
  refine ⟨xs.take i, xs.drop (i + 1), ?_, fun b => List.set_eq_take_append_cons_drop.trans ?_⟩
  · rw [← value, List.getElem_cons_drop, List.take_append_drop]
  · rw [if_pos bound]

/-- A pool without one process. -/
theorem erase_at (old : xs[i]? = some a) :
    ∃ before after, xs = before ++ a :: after ∧ xs.eraseIdx i = before ++ after := by
  obtain ⟨bound, value⟩ := List.getElem?_eq_some_iff.mp old
  refine ⟨xs.take i, xs.drop (i + 1), ?_, List.eraseIdx_eq_take_drop_succ ..⟩
  rw [← value, List.getElem_cons_drop, List.take_append_drop]

theorem countP_set_add (p : α → Bool) (old : xs[i]? = some a) :
    (xs.set i b).countP p + (if p a then 1 else 0) = xs.countP p + (if p b then 1 else 0) := by
  obtain ⟨bound, value⟩ := List.getElem?_eq_some_iff.mp old
  rw [List.countP_set bound, value]
  have positive : p a = true → 0 < xs.countP p := fun holds =>
    List.countP_pos_iff.mpr ⟨a, mem_of_read old, holds⟩
  split
  next holds =>
    have := positive holds
    omega
  · omega

theorem countP_set_same (p : α → Bool) (old : xs[i]? = some a) (same : p b = p a) :
    (xs.set i b).countP p = xs.countP p := by
  have moved := countP_set_add (b := b) p old
  rw [same] at moved
  omega

theorem countP_append_one (p : α → Bool) :
    (xs ++ [b]).countP p = xs.countP p + (if p b then 1 else 0) := by
  rw [List.countP_append, List.countP_singleton]

theorem none_of_countP_zero {p : α → Bool} (zero : xs.countP p = 0) (member : x ∈ xs) :
    p x = false := by
  simpa using List.countP_eq_zero.mp zero x member

end Transition.Pool
