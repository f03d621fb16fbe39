import Mathlib.Data.List.Basic
import Mathlib.Tactic.Linarith

/-!
# Decoded JSON

The values the gateways read, over the number domain of the language that decoded
them. An object keeps its members in the order of the text.
-/
namespace VoxRtc.Wire

inductive Json (ν : Type) where
  | null
  | bool (b : Bool)
  | num (n : ν)
  | str (s : String)
  | arr (items : List (Json ν))
  | obj (members : List (String × Json ν))
  deriving Repr

abbrev Members (ν : Type) := List (String × Json ν)

variable {ν : Type}

/-- The last member with a key is the one every decoder keeps. -/
def Members.get? (members : Members ν) (key : String) : Option (Json ν) :=
  (members.reverse.find? fun member => member.1 == key).map Prod.snd

namespace Json

def object? : Json ν → Option (Members ν)
  | obj members => some members
  | _ => none

def str? : Json ν → Option String
  | str s => some s
  | _ => none

def isNull : Json ν → Bool
  | null => true
  | _ => false

/-- `value === true` and its counterparts. -/
def isTrue : Json ν → Bool
  | bool b => b
  | _ => false

/-- Induction over a value, through the values inside it. -/
theorem inside {P : Json ν → Prop} (null : P null) (bool : ∀ b, P (bool b))
    (num : ∀ n, P (num n)) (str : ∀ s, P (str s))
    (arr : ∀ items, (∀ item ∈ items, P item) → P (arr items))
    (obj : ∀ members, (∀ member ∈ members, P member.2) → P (obj members)) (value : Json ν) :
    P value := by
  refine @Json.rec ν P (fun items => ∀ item ∈ items, P item)
    (fun members => ∀ member ∈ members, P member.2) (fun member => P member.2)
    null bool num str arr obj ?_ ?_ ?_ ?_ ?_ value
  · simp
  · exact fun item items first rest => List.forall_mem_cons.mpr ⟨first, rest⟩
  · simp
  · exact fun member members first rest => List.forall_mem_cons.mpr ⟨first, rest⟩
  · exact fun _ _ holds => holds

end Json

/-- A finite IEEE 754 double, as mantissa and exponent. -/
structure Finite64 where
  negative : Bool
  mantissa : Nat
  exponent : Int
  bounded : mantissa < 2 ^ 53
  ranged : -1074 ≤ exponent ∧ exponent ≤ 971
  deriving DecidableEq, Repr

inductive Binary64 where
  | finite (x : Finite64)
  | infinity (negative : Bool)
  | nan
  deriving DecidableEq, Repr

namespace Finite64

theorem bounded_zero : 0 < 2 ^ 53 := by decide

theorem bounded_one : 1 < 2 ^ 53 := by decide

theorem bounded_half : 2 ^ 52 < 2 ^ 53 := by decide

theorem ranged_zero : -1074 ≤ (0 : Int) ∧ (0 : Int) ≤ 971 := by decide

def signed (x : Finite64) : Int := if x.negative then -(x.mantissa : Int) else x.mantissa

/-- The numerator over `2 ^ (-exponent)`. -/
def scaled (x : Finite64) : Int := x.signed * 2 ^ x.exponent.toNat

def scale (x : Finite64) : Int := 2 ^ (-x.exponent).toNat

/-- `x < n` for an integer `n`. -/
def ltInt (x : Finite64) (n : Int) : Bool := x.scaled < n * x.scale

def gtInt (x : Finite64) (n : Int) : Bool := n * x.scale < x.scaled

def isIntegral (x : Finite64) : Bool := x.scaled % x.scale == 0

/-- The integer part. -/
def trunc (x : Finite64) : Int := x.scaled.tdiv x.scale

end Finite64

/-- A counter that `+= 1` has raised from zero, as a double. -/
def Binary64.ofCount (n : Nat) : Binary64 :=
  if bounded : n < 2 ^ 53 then .finite ⟨false, n, 0, bounded, Finite64.ranged_zero⟩
  else .finite ⟨false, 2 ^ 52, 1, Finite64.bounded_half, by decide⟩

/-- `===` on numbers. -/
def Binary64.strictEq : Binary64 → Binary64 → Bool
  | .finite x, .finite y => x.scaled * y.scale == y.scaled * x.scale
  | .infinity a, .infinity b => a == b
  | _, _ => false

/-- What a counter counts, as a double. -/
def Binary64.counted (n : Nat) : Int := if n < 2 ^ 53 then n else 2 ^ 53

theorem Binary64.ofCount_finite (n : Nat) :
    ∃ y, ofCount n = .finite y ∧ y.scaled = counted n ∧ y.scale = 1 := by
  unfold ofCount counted
  split
  · exact ⟨_, rfl, by simp [Finite64.scaled, Finite64.signed], rfl⟩
  · exact ⟨_, rfl, rfl, rfl⟩

theorem Binary64.strictEq_ofCount {x : Binary64} {n : Nat} (same : x.strictEq (.ofCount n) = true) :
    ∃ y, x = .finite y ∧ y.scaled = counted n * y.scale := by
  obtain ⟨z, count, scaled, scale⟩ := ofCount_finite n
  rw [count] at same
  cases x with
  | finite y =>
    simp only [strictEq, scaled, scale, mul_one, beq_iff_eq] at same
    exact ⟨y, rfl, same⟩
  | infinity negative => cases same
  | nan => cases same

/-- A number equals one counter at most, as long as the counter is still exact. -/
theorem Binary64.ofCount_unique {x : Binary64} {m n : Nat} (bounded : n < 2 ^ 53)
    (first : x.strictEq (.ofCount m) = true) (second : x.strictEq (.ofCount n) = true) : m = n := by
  obtain ⟨y, rfl, value⟩ := strictEq_ofCount first
  obtain ⟨_, same, value'⟩ := strictEq_ofCount second
  cases same
  have positive : y.scale ≠ 0 := pow_ne_zero _ two_ne_zero
  have counts : counted m = counted n := mul_right_cancel₀ positive (value.symm.trans value')
  rw [counted, counted, if_pos bounded] at counts
  split at counts <;> omega

/-- Numbers as `serde_json` keeps them. -/
inductive SerdeNumber where
  | posInt (n : Nat) (fits : n < 2 ^ 64)
  | negInt (n : Int) (fits : -2 ^ 63 ≤ n ∧ n < 0)
  | float (x : Finite64)
  deriving DecidableEq, Repr

/-- Numbers as `json.loads` yields them. -/
inductive PythonNumber where
  | int (n : Int)
  | float (x : Binary64)
  deriving DecidableEq, Repr

/-- `Number.MAX_SAFE_INTEGER`. -/
def maxSafeInteger : Nat := 9007199254740991

end VoxRtc.Wire
