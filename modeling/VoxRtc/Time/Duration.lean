import Mathlib.Data.List.Basic

/-!
# Durations

Rust's `Duration`: whole seconds in a `u64` and the nanoseconds beyond them. The operations
are those of the standard library, with the machine's own integers and with every panic an
outcome; the lemmas say what they do in nanoseconds.
-/
namespace Time

/-- The panics of the operations below. -/
inductive Panic where
  | multiplyWithOverflow
  | durationNew
  deriving DecidableEq, Repr

namespace Word

/-- `u64::checked_mul` -/
def checkedMul (a b : UInt64) : Option UInt64 :=
  if a.toNat * b.toNat < UInt64.size then some (a * b) else none

/-- `u64::checked_add` -/
def checkedAdd (a b : UInt64) : Option UInt64 :=
  if a.toNat + b.toNat < UInt64.size then some (a + b) else none

/-- `a * b` -/
def mul (a b : UInt64) : Except Panic UInt64 :=
  match checkedMul a b with
  | some product => .ok product
  | none => .error .multiplyWithOverflow

variable {a b c : UInt64}

theorem checkedMul_eq_some : checkedMul a b = some c ↔ c.toNat = a.toNat * b.toNat := by
  unfold checkedMul
  split
  next fits =>
    rw [Option.some.injEq, ← UInt64.toNat_inj, UInt64.toNat_mul, Nat.mod_eq_of_lt fits, eq_comm]
  next overflows =>
    have bound := c.toNat_lt
    simp only [UInt64.size] at overflows
    simp only [reduceCtorEq, false_iff]
    omega

theorem checkedAdd_eq_some : checkedAdd a b = some c ↔ c.toNat = a.toNat + b.toNat := by
  unfold checkedAdd
  split
  next fits =>
    rw [Option.some.injEq, ← UInt64.toNat_inj, UInt64.toNat_add, Nat.mod_eq_of_lt fits, eq_comm]
  next overflows =>
    have bound := c.toNat_lt
    simp only [UInt64.size] at overflows
    simp only [reduceCtorEq, false_iff]
    omega

theorem mul_eq_ok (fits : a.toNat * b.toNat < UInt64.size) : mul a b = .ok (a * b) := by
  simp only [mul, checkedMul, if_pos fits]

end Word

def nanosPerSec : Nat := 1000000000

structure Duration where
  secs : UInt64
  nanos : UInt32
  nanos_lt : nanos.toNat < nanosPerSec
  deriving DecidableEq

namespace Duration

variable {a b d : Duration}

theorem max_nanos_lt : (999999999 : UInt32).toNat < nanosPerSec := by decide

theorem mod_nanos_lt (nanos : UInt32) : (nanos % 1000000000).toNat < nanosPerSec := by
  rw [UInt32.toNat_mod]
  exact Nat.mod_lt _ (by decide)

/-- `Duration::MAX` -/
def max : Duration := ⟨18446744073709551615, 999999999, max_nanos_lt⟩

/-- `Duration::new` -/
def new (secs : UInt64) (nanos : UInt32) : Except Panic Duration :=
  if inside : nanos.toNat < nanosPerSec then .ok ⟨secs, nanos, inside⟩
  else
    match Word.checkedAdd secs (nanos / 1000000000).toUInt64 with
    | some secs => .ok ⟨secs, nanos % 1000000000, mod_nanos_lt nanos⟩
    | none => .error .durationNew

theorem millis_nanos_lt (millis : UInt64) :
    ((millis % 1000).toUInt32 * 1000000).toNat < nanosPerSec := by
  have below : millis.toNat % 1000 < 1000 := Nat.mod_lt _ (by decide)
  have narrow : millis.toNat % 1000 % 2 ^ 32 = millis.toNat % 1000 := Nat.mod_eq_of_lt (by omega)
  simp only [UInt32.toNat_mul, UInt64.toNat_toUInt32, UInt64.toNat_mod, nanosPerSec,
    UInt32.reduceToNat, UInt64.reduceToNat, narrow]
  have kept := Nat.mod_le (millis.toNat % 1000 * 1000000) (2 ^ 32)
  omega

/-- `Duration::from_millis` -/
def fromMillis (millis : UInt64) : Duration :=
  ⟨millis / 1000, (millis % 1000).toUInt32 * 1000000, millis_nanos_lt millis⟩

/-- The derived order: seconds first. -/
instance : LE Duration := ⟨fun a b => a.secs < b.secs ∨ a.secs = b.secs ∧ a.nanos ≤ b.nanos⟩

instance : LT Duration := ⟨fun a b => a.secs < b.secs ∨ a.secs = b.secs ∧ a.nanos < b.nanos⟩

instance (a b : Duration) : Decidable (a ≤ b) :=
  inferInstanceAs (Decidable (a.secs < b.secs ∨ a.secs = b.secs ∧ a.nanos ≤ b.nanos))

instance (a b : Duration) : Decidable (a < b) :=
  inferInstanceAs (Decidable (a.secs < b.secs ∨ a.secs = b.secs ∧ a.nanos < b.nanos))

/-- `Duration::checked_mul` -/
def checkedMul (d : Duration) (rhs : UInt32) : Except Panic (Option Duration) := do
  let totalNanos ← Word.mul d.nanos.toUInt64 rhs.toUInt64
  let extraSecs := totalNanos / 1000000000
  let nanos := (totalNanos % 1000000000).toUInt32
  match (Word.checkedMul d.secs rhs.toUInt64).bind (Word.checkedAdd · extraSecs) with
  | some secs => some <$> new secs nanos
  | none => return none

/-- `Duration::saturating_mul` -/
def saturatingMul (d : Duration) (rhs : UInt32) : Except Panic Duration := do
  match ← d.checkedMul rhs with
  | some product => return product
  | none => return max

def toNanos (d : Duration) : Nat := d.secs.toNat * nanosPerSec + d.nanos.toNat

theorem le_def : a ≤ b ↔ a.secs < b.secs ∨ a.secs = b.secs ∧ a.nanos ≤ b.nanos := Iff.rfl

theorem lt_def : a < b ↔ a.secs < b.secs ∨ a.secs = b.secs ∧ a.nanos < b.nanos := Iff.rfl

/-- The order of the parts is the order of the durations. -/
theorem le_iff : a ≤ b ↔ a.toNanos ≤ b.toNanos := by
  have nanos := a.nanos_lt
  have nanos' := b.nanos_lt
  -- The nanoseconds are less than a second, so the seconds decide first.
  simp only [le_def, toNanos, UInt64.lt_iff_toNat_lt, ← UInt64.toNat_inj, UInt32.le_iff_toNat_le,
    nanosPerSec] at *
  omega

theorem lt_iff : a < b ↔ a.toNanos < b.toNanos := by
  have nanos := a.nanos_lt
  have nanos' := b.nanos_lt
  simp only [lt_def, toNanos, UInt64.lt_iff_toNat_lt, ← UInt64.toNat_inj, UInt32.lt_iff_toNat_lt,
    nanosPerSec] at *
  omega

protected theorem le_refl (d : Duration) : d ≤ d := le_iff.mpr (Nat.le_refl _)

protected theorem le_trans {c : Duration} (first : a ≤ b) (second : b ≤ c) : a ≤ c :=
  le_iff.mpr (Nat.le_trans (le_iff.mp first) (le_iff.mp second))

protected theorem not_lt : ¬a < b ↔ b ≤ a := by
  rw [lt_iff, le_iff, Nat.not_lt]

theorem le_max (d : Duration) : d ≤ max := by
  have nanos := d.nanos_lt
  have secs := d.secs.toNat_lt
  rw [le_iff]
  simp only [toNanos, max, nanosPerSec, UInt64.reduceToNat, UInt32.reduceToNat] at *
  omega

theorem new_eq_ok {secs : UInt64} {nanos : UInt32} (inside : nanos.toNat < nanosPerSec) :
    new secs nanos = .ok ⟨secs, nanos, inside⟩ := dif_pos inside

section Multiplication

variable (d : Duration) (n : UInt32)

/-- The nanoseconds of a second, times any `u32`, are well below `2 ^ 64`. -/
theorem mul_nanos :
    ∃ total, Word.mul d.nanos.toUInt64 n.toUInt64 = .ok total ∧
      total.toNat = d.nanos.toNat * n.toNat := by
  have nanos := d.nanos_lt
  have bound := n.toNat_lt
  have below : d.nanos.toNat * n.toNat ≤ 1000000000 * 2 ^ 32 :=
    Nat.mul_le_mul (Nat.le_of_lt nanos) (Nat.le_of_lt bound)
  have fits : d.nanos.toUInt64.toNat * n.toUInt64.toNat < UInt64.size := by
    simp only [UInt32.toNat_toUInt64, UInt64.size]
    omega
  refine ⟨_, Word.mul_eq_ok fits, ?_⟩
  rw [UInt64.toNat_mul, Nat.mod_eq_of_lt fits, UInt32.toNat_toUInt64, UInt32.toNat_toUInt64]

/-- Seconds and nanoseconds apart, as they are multiplied. -/
theorem toNanos_mul (k : Nat) :
    d.toNanos * k = (d.secs.toNat * k + d.nanos.toNat * k / nanosPerSec) * nanosPerSec +
      d.nanos.toNat * k % nanosPerSec := by
  have split := Nat.div_add_mod (d.nanos.toNat * k) nanosPerSec
  simp only [toNanos, Nat.add_mul, nanosPerSec] at *
  rw [Nat.mul_right_comm d.secs.toNat]
  omega

theorem checkedMul_spec :
    ∃ product, d.checkedMul n = .ok product ∧
      (∀ p ∈ product, p.toNanos = d.toNanos * n.toNat) ∧
      (product = none → max.toNanos < d.toNanos * n.toNat) := by
  obtain ⟨total, multiplied, value⟩ := mul_nanos d n
  have nanos : (total % 1000000000).toUInt32.toNat = total.toNat % 1000000000 := by
    simp only [UInt64.toNat_toUInt32, UInt64.toNat_mod, UInt64.reduceToNat]
    omega
  have inside : (total % 1000000000).toUInt32.toNat < nanosPerSec := by
    rw [nanos]
    exact Nat.mod_lt _ (by decide)
  have extra : (total / 1000000000).toNat = total.toNat / 1000000000 := by
    simp only [UInt64.toNat_div, UInt64.reduceToNat]
  have total_nanos := toNanos_mul d n.toNat
  rw [← value] at total_nanos
  simp only [checkedMul, multiplied, bind, Except.bind]
  split
  -- Both operations on the seconds fit: nothing is lost.
  next secs fits =>
    obtain ⟨whole, scaled, added⟩ := Option.bind_eq_some_iff.mp fits
    have scaled := Word.checkedMul_eq_some.mp scaled
    have added := Word.checkedAdd_eq_some.mp added
    rw [new_eq_ok inside]
    refine ⟨_, rfl, fun p same => ?_, fun absurd => by cases absurd⟩
    cases same
    rw [total_nanos]
    simp only [toNanos, nanos, added, scaled, extra, UInt32.toNat_toUInt64, nanosPerSec]
  -- One of them does not, so the product is longer than any duration.
  next overflows =>
    refine ⟨none, rfl, fun _ absurd => (by cases absurd), fun _ => ?_⟩
    have above : UInt64.size ≤ d.secs.toNat * n.toNat + total.toNat / 1000000000 := by
      by_contra fits
      rw [Nat.not_le] at fits
      have whole : Word.checkedMul d.secs n.toUInt64 = some (d.secs * n.toUInt64) := by
        rw [Word.checkedMul, if_pos]
        rw [UInt32.toNat_toUInt64]
        exact Nat.lt_of_le_of_lt (Nat.le_add_right _ _) fits
      have scaled := Word.checkedMul_eq_some.mp whole
      rw [whole, Option.bind_some, Word.checkedAdd, if_pos] at overflows
      · cases overflows
      · rw [scaled, extra, UInt32.toNat_toUInt64]
        exact fits
    rw [total_nanos]
    simp only [UInt64.size] at above
    simp only [toNanos, max, nanosPerSec, UInt64.reduceToNat, UInt32.reduceToNat]
    omega

/-- Saturation: the product, or the longest duration there is. -/
theorem saturatingMul_spec :
    ∃ product, d.saturatingMul n = .ok product ∧
      product.toNanos = min (d.toNanos * n.toNat) max.toNanos := by
  obtain ⟨product, multiplied, exact, overflows⟩ := checkedMul_spec d n
  cases product with
  | some p =>
    refine ⟨p, by simp only [saturatingMul, multiplied, bind, Except.bind, pure, Except.pure], ?_⟩
    have bound := le_iff.mp (le_max p)
    have value := exact p rfl
    omega
  | none =>
    refine ⟨max, by simp only [saturatingMul, multiplied, bind, Except.bind, pure, Except.pure], ?_⟩
    have bound := overflows rfl
    omega

end Multiplication

end Duration

end Time
