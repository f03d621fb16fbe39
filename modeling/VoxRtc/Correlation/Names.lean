import Mathlib.Data.Nat.Digits.Defs
import Mathlib.Data.List.Basic

/-!
# Names with a number in them

A source of names keeps a counter, and a name has the numeral of the counter in it. Names of
different counts differ, whatever else a name is made of.
-/
namespace Correlation

universe u v

/-- The places of a number, the lowest first. -/
def places (base n : Nat) : List Nat := if n = 0 then [0] else base.digits n

def numeral (base : Nat) (digit : Nat → Char) (n : Nat) : List Char :=
  (places base n).reverse.map digit

section Numerals

variable {base : Nat} {digit : Nat → Char}

theorem ofDigits_places (n : Nat) : Nat.ofDigits base (places base n) = n := by
  unfold places
  split
  next zero => simp [zero]
  next => exact Nat.ofDigits_digits base n

theorem places_lt (based : 1 < base) (n : Nat) : ∀ place ∈ places base n, place < base := by
  intro place among
  unfold places at among
  split at among
  next =>
    rw [List.mem_singleton.mp among]
    omega
  next => exact Nat.digits_lt_base based among

/-- A numeral can be read back, digit by digit. -/
theorem numeral_injective (value : Char → Nat) (based : 1 < base)
    (reads : ∀ place < base, value (digit place) = place) :
    Function.Injective (numeral base digit) := by
  have back (n : Nat) : Nat.ofDigits base (((numeral base digit n).map value).reverse) = n := by
    have same : (places base n).map (value ∘ digit) = places base n :=
      (List.map_congr_left fun place among => reads place (places_lt based n place among)).trans
        (List.map_id' _)
    rw [numeral, List.map_map, ← List.map_reverse, List.reverse_reverse, same]
    exact ofDigits_places n
  intro m n same
  rw [← back m, same, back n]

theorem numeral_solid (based : 1 < base) {separator : Char}
    (solid : ∀ place < base, digit place ≠ separator) (n : Nat) :
    separator ∉ numeral base digit n := by
  intro among
  obtain ⟨place, placed, digits⟩ := List.mem_map.mp among
  exact solid place (places_lt based n place (List.mem_reverse.mp placed)) digits

end Numerals

/-- What comes before the first separator is determined. -/
theorem before_unique {α : Type u} {separator : α} {xs ys xs' ys' : List α}
    (solid : separator ∉ xs) (solid' : separator ∉ ys)
    (same : xs ++ separator :: xs' = ys ++ separator :: ys') : xs = ys := by
  induction xs generalizing ys with
  | nil =>
    cases ys with
    | nil => rfl
    | cons y ys =>
      injection same with first
      exact (solid' (first ▸ List.mem_cons_self)).elim
  | cons x xs ih =>
    rw [List.mem_cons, not_or] at solid
    cases ys with
    | nil =>
      injection same with first
      exact (solid.1 first.symm).elim
    | cons y ys =>
      rw [List.mem_cons, not_or] at solid'
      injection same with first rest
      rw [first, ih solid.2 solid'.2 rest]

/-! ## Sources -/

/-- What a call takes from a source. -/
inductive Draw (ρ : Type u) where
  | pass
  /-- The counter moves on, and no name is made. -/
  | count
  | name (salt : ρ)

/-- How far the counter moves. -/
def Draw.weight {ρ : Type u} : Draw ρ → Nat
  | pass => 0
  | count | name _ => 1

def counted {ρ : Type u} (draws : List (Draw ρ)) : Nat := (draws.map Draw.weight).sum

theorem counted_cons {ρ : Type u} (d : Draw ρ) (ds : List (Draw ρ)) :
    counted (d :: ds) = d.weight + counted ds := by
  rw [counted, List.map_cons, List.sum_cons, counted]

structure Source (ρ : Type u) where
  next : Nat → Nat
  text : Nat → ρ → String

namespace Source

variable {ρ : Type u} (source : Source ρ)

/-- The counter after a number of counts. -/
def counter (n : Nat) : Nat := source.next^[n] 0

def after (c : Nat) : Draw ρ → Nat
  | .pass => c
  | .count | .name _ => source.next c

def made (c : Nat) : Draw ρ → Option String
  | .pass | .count => none
  | .name salt => some (source.text (source.next c) salt)

/-- The names that a run of calls makes, from a counter on. -/
def names : Nat → List (Draw ρ) → List String
  | _, [] => []
  | c, d :: ds => (source.made c d).toList ++ names (source.after c d) ds

/-- As far as the limit, no two counts yield one name. -/
def Apart (limit : Nat) : Prop :=
  ∀ m n salt salt', 0 < m → m ≤ limit → 0 < n → n ≤ limit →
    source.text (source.counter m) salt = source.text (source.counter n) salt' → m = n

variable {source}

theorem counter_succ (k : Nat) : source.counter (k + 1) = source.next (source.counter k) :=
  Function.iterate_succ_apply' source.next k 0

theorem after_counter (k : Nat) (d : Draw ρ) :
    source.after (source.counter k) d = source.counter (k + d.weight) := by
  cases d with
  | pass => rfl
  | count | name => exact (counter_succ k).symm

/-- A name comes from one of the counts of the run. -/
theorem mem_names {k : Nat} {ds : List (Draw ρ)} {x : String}
    (member : x ∈ source.names (source.counter k) ds) :
    ∃ m salt, k < m ∧ m ≤ k + counted ds ∧ x = source.text (source.counter m) salt := by
  induction ds generalizing k with
  | nil => cases member
  | cons d ds ih =>
    rw [names, List.mem_append] at member
    rcases member with now | later
    · cases d with
      | pass | count => cases now
      | name salt =>
        rw [counted_cons]
        refine ⟨k + 1, salt, by omega, by simp [Draw.weight], ?_⟩
        rw [counter_succ]
        exact List.mem_singleton.mp now
    · rw [after_counter] at later
      obtain ⟨m, salt, more, few, same⟩ := ih later
      rw [counted_cons]
      exact ⟨m, salt, by omega, by omega, same⟩

/-- No name comes back as long as the counts stay below the limit. -/
theorem names_nodup {limit : Nat} (apart : source.Apart limit) {k : Nat} {ds : List (Draw ρ)}
    (few : k + counted ds ≤ limit) :
    (source.names (source.counter k) ds).Nodup := by
  induction ds generalizing k with
  | nil => exact List.nodup_nil
  | cons d ds ih =>
    rw [counted_cons] at few
    have later : (source.names (source.counter (k + d.weight)) ds).Nodup := ih (by omega)
    rw [names, after_counter]
    cases d with
    | pass | count => exact later
    | name salt =>
      refine List.nodup_cons.mpr ⟨fun again => ?_, later⟩
      obtain ⟨m, salt', more, within, same⟩ := mem_names again
      rw [← counter_succ] at same
      simp only [Draw.weight] at few more within
      have equal := apart (k + 1) m salt salt' (by omega) (by omega) (by omega) (by omega) same
      omega

end Source

end Correlation
