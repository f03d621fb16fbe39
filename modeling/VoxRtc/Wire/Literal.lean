import VoxRtc.Wire.Json
import Mathlib.Data.Nat.Log
import Mathlib.Data.Rat.Defs
import Mathlib.Algebra.Order.Field.Rat
import Mathlib.Tactic.Ring

/-!
# Numbers of a JSON text

How each language decodes a number as it is written. An integer keeps its value, `-0` is
apart, and a number with a fraction or an exponent stands for the double next to it.
-/
namespace VoxRtc.Wire

variable {ν μ : Type}

inductive Literal where
  | int (n : Int)
  | negativeZero
  | float (x : Finite64)
  /-- Larger than every double. -/
  | overflow (negative : Bool)
  deriving DecidableEq, Repr

namespace Finite64

def zero (negative : Bool) : Finite64 := ⟨negative, 0, 0, bounded_zero, ranged_zero⟩

def largest (negative : Bool) : Finite64 := ⟨negative, 2 ^ 53 - 1, 971, by decide, by decide⟩

def toRat (x : Finite64) : ℚ := x.scaled / x.scale

theorem scale_positive (x : Finite64) : 0 < x.scale := pow_pos (by decide) _

theorem toRat_eq_int {x : Finite64} {n : Int} : x.toRat = n ↔ x.scaled = n * x.scale := by
  have positive : (0 : ℚ) < x.scale := by exact_mod_cast x.scale_positive
  rw [toRat, div_eq_iff positive.ne']
  norm_cast

end Finite64

/-- The first 53 bits of a number, rounded to the nearest, ties to even. -/
def rounded (n shift : Nat) : Nat :=
  let kept := n / 2 ^ shift
  let rest := n % 2 ^ shift
  let half := 2 ^ (shift - 1)
  if half < rest ∨ half = rest ∧ kept % 2 = 1 then kept + 1 else kept

/-- The double next to an integer. -/
def Binary64.ofMagnitude (negative : Bool) (n : Nat) : Binary64 :=
  if exact : n < 2 ^ 53 then .finite ⟨negative, n, 0, exact, Finite64.ranged_zero⟩
  else
    let shift := n.log2 - 52
    let mantissa := rounded n shift
    if fits : mantissa < 2 ^ 53 ∧ shift ≤ 971 then
      .finite ⟨negative, mantissa, shift, fits.1, by omega⟩
    else if fits : shift + 1 ≤ 971 then
      .finite ⟨negative, 2 ^ 52, shift + 1, Finite64.bounded_half, by omega⟩
    else .infinity negative

def Binary64.ofInt (n : Int) : Binary64 := .ofMagnitude (n < 0) n.natAbs

def Binary64.finite? : Binary64 → Option Finite64
  | .finite x => some x
  | _ => none

namespace Literal

/-- A number as `JSON.parse` and `encoding/json` yield it. -/
def double : Literal → Binary64
  | int n => .ofInt n
  | negativeZero => .finite (.zero true)
  | float x => .finite x
  | overflow negative => .infinity negative

/-- `encoding/json` and `serde_json` fail on any other number. -/
def inRange (l : Literal) : Bool := l.double.finite?.isSome

/-- A number as `serde_json` keeps it, when it is in range. -/
def serde : Literal → SerdeNumber
  | int n =>
    if fits : 0 ≤ n ∧ n < 2 ^ 64 then .posInt n.toNat (by omega)
    else if fits : -2 ^ 63 ≤ n ∧ n < 0 then .negInt n fits
    else ofDouble (.ofInt n)
  | l => ofDouble l.double
where
  ofDouble : Binary64 → SerdeNumber
    | .finite x => .float x
    -- Not reached by a number in range.
    | .infinity negative => .float (.largest negative)
    | .nan => .float (.largest false)

/-- A number as `json.loads` yields it. -/
def python : Literal → PythonNumber
  | int n => .int n
  | negativeZero => .int 0
  | float x => .float (.finite x)
  | overflow negative => .float (.infinity negative)

end Literal

/-! The rational that a number stands for, if it is finite. -/

def Binary64.toRat? (x : Binary64) : Option ℚ := x.finite?.map Finite64.toRat

def SerdeNumber.toRat : SerdeNumber → ℚ
  | posInt n _ => n
  | negInt n _ => n
  | float x => x.toRat

def PythonNumber.toRat? : PythonNumber → Option ℚ
  | int n => some n
  | float x => x.toRat?

def Literal.toRat? : Literal → Option ℚ
  | int n => some n
  | negativeZero => some 0
  | float x => some x.toRat
  | overflow _ => none

namespace Json

def mapNumbers (f : ν → μ) : Json ν → Json μ
  | null => null
  | bool b => bool b
  | num n => num (f n)
  | str s => str s
  | arr items => arr (ofItems items)
  | obj members => obj (ofMembers members)
where
  ofItems : List (Json ν) → List (Json μ)
    | [] => []
    | item :: items => mapNumbers f item :: ofItems items
  ofMembers : Members ν → Members μ
    | [] => []
    | (key, value) :: members => (key, mapNumbers f value) :: ofMembers members

/-- Whether all numbers in a value satisfy a test. -/
def allNumbers (p : ν → Bool) : Json ν → Bool
  | num n => p n
  | arr items => ofItems items
  | obj members => ofMembers members
  | _ => true
where
  ofItems : List (Json ν) → Bool
    | [] => true
    | item :: items => allNumbers p item && ofItems items
  ofMembers : Members ν → Bool
    | [] => true
    | (_, value) :: members => allNumbers p value && ofMembers members

def num? : Json ν → Option ν
  | num n => some n
  | _ => none

def arr? : Json ν → Option (List (Json ν))
  | arr items => some items
  | _ => none

variable (f : ν → μ)

theorem ofItems_eq (items : List (Json ν)) :
    mapNumbers.ofItems f items = items.map (mapNumbers f) := by
  induction items with
  | nil => rfl
  | cons item items ih => simp [mapNumbers.ofItems, ih]

theorem ofMembers_eq (members : Members ν) :
    mapNumbers.ofMembers f members = members.map fun member => (member.1, member.2.mapNumbers f) := by
  induction members with
  | nil => rfl
  | cons member members ih => simp [mapNumbers.ofMembers, ih]

@[simp] theorem num?_mapNumbers (value : Json ν) : (value.mapNumbers f).num? = value.num?.map f := by
  cases value <;> rfl

@[simp] theorem str?_mapNumbers (value : Json ν) : (value.mapNumbers f).str? = value.str? := by
  cases value <;> rfl

@[simp] theorem isNull_mapNumbers (value : Json ν) :
    (value.mapNumbers f).isNull = value.isNull := by
  cases value <;> rfl

@[simp] theorem arr?_mapNumbers (value : Json ν) :
    (value.mapNumbers f).arr? = value.arr?.map (·.map (mapNumbers f)) := by
  cases value with
  | arr items => simp [mapNumbers, arr?, ofItems_eq]
  | _ => rfl

@[simp] theorem object?_mapNumbers (value : Json ν) :
    (value.mapNumbers f).object? =
      value.object?.map (·.map fun member => (member.1, member.2.mapNumbers f)) := by
  cases value with
  | obj members => simp [mapNumbers, object?, ofMembers_eq]
  | _ => rfl

end Json

@[simp] theorem Members.get?_mapNumbers (f : ν → μ) (members : Members ν) (key : String) :
    Members.get? (members.map fun member => (member.1, member.2.mapNumbers f)) key =
      (members.get? key).map (Json.mapNumbers f) := by
  simp only [get?, ← List.map_reverse, List.find?_map, Option.map_map]
  rfl

/-! What the double of an integer says about it. -/

section Rounding

variable {negative : Bool} {n : Nat} {x : Finite64}

theorem le_rounded {shift : Nat} : n / 2 ^ shift ≤ rounded n shift := by
  unfold rounded
  dsimp only
  split <;> omega

/-- A number of 54 bits or more keeps its leading bit. -/
theorem leading_bit (wide : 2 ^ 53 ≤ n) :
    53 ≤ n.log2 ∧ 2 ^ 52 ≤ rounded n (n.log2 - 52) := by
  have positive : n ≠ 0 := by omega
  have bits : 53 ≤ n.log2 := (Nat.le_log2 positive).mpr wide
  have leading : 2 ^ n.log2 ≤ n := Nat.log2_self_le positive
  have kept : 2 ^ 52 ≤ n / 2 ^ (n.log2 - 52) := by
    rw [Nat.le_div_iff_mul_le (Nat.two_pow_pos _), ← pow_add]
    have split' : 52 + (n.log2 - 52) = n.log2 := by omega
    rw [split']
    exact leading
  exact ⟨bits, kept.trans le_rounded⟩

theorem ofMagnitude_exact (small : n < 2 ^ 53) :
    Binary64.ofMagnitude negative n = .finite ⟨negative, n, 0, small, by decide⟩ := by
  unfold Binary64.ofMagnitude
  exact dif_pos small

/-- A wide number becomes a wide integer, or an infinity. -/
theorem ofMagnitude_wide (wide : 2 ^ 53 ≤ n)
    (found : Binary64.ofMagnitude negative n = .finite x) :
    x.negative = negative ∧ 0 < x.exponent ∧ 2 ^ 52 ≤ x.mantissa := by
  obtain ⟨bits, leading⟩ := leading_bit wide
  unfold Binary64.ofMagnitude at found
  rw [dif_neg (by omega)] at found
  dsimp only at found
  split at found
  · cases found
    exact ⟨rfl, by dsimp only; omega, leading⟩
  · split at found
    · cases found
      exact ⟨rfl, by dsimp only; omega, le_rfl⟩
    · cases found

end Rounding

/-- The double of an integer is that integer, or it is past the safe integers too. -/
theorem ofInt_cases (n : Int) :
    (n.natAbs < 2 ^ 53 ∧ ∃ x, Binary64.ofInt n = .finite x ∧ x.scaled = n ∧ x.scale = 1) ∨
      (2 ^ 53 ≤ n.natAbs ∧
        ∀ x, Binary64.ofInt n = .finite x → x.scale = 1 ∧ 2 ^ 53 ≤ x.scaled.natAbs) := by
  by_cases small : n.natAbs < 2 ^ 53
  · left
    refine ⟨small, _, ofMagnitude_exact small, ?_, rfl⟩
    simp only [Finite64.scaled, Finite64.signed, Int.toNat_zero, pow_zero, mul_one, decide_eq_true_eq]
    split <;> omega
  · right
    refine ⟨by omega, fun x found => ?_⟩
    obtain ⟨_, exponent, mantissa⟩ := ofMagnitude_wide (by omega) found
    constructor
    · have none' : (-x.exponent).toNat = 0 := by omega
      simp [Finite64.scale, none']
    · obtain ⟨e, shift⟩ : ∃ e, x.exponent.toNat = e + 1 := ⟨x.exponent.toNat - 1, by omega⟩
      have size : x.signed.natAbs = x.mantissa := by
        unfold Finite64.signed
        split <;> omega
      have power : 2 ≤ 2 ^ (e + 1) := by
        have one : 1 ≤ 2 ^ e := Nat.one_le_two_pow
        rw [pow_succ]
        omega
      have large : 2 ^ 52 * 2 ≤ x.mantissa * 2 ^ (e + 1) := Nat.mul_le_mul mantissa power
      simp only [Finite64.scaled, shift, Int.natAbs_mul, size, Int.natAbs_pow]
      exact large

end VoxRtc.Wire
