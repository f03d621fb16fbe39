import VoxRtc.Wire.Json

/-!
# Equal JSON values

Two values are the same when they differ in the order of the members of their objects at
most. Values that are the same have the same weight.
-/
namespace VoxRtc.Wire

variable {ν : Type}

mutual

inductive Json.Same : Json ν → Json ν → Prop
  | null : Json.Same .null .null
  | bool (b : Bool) : Json.Same (.bool b) (.bool b)
  | num (n : ν) : Json.Same (.num n) (.num n)
  | str (s : String) : Json.Same (.str s) (.str s)
  | arr {xs ys : List (Json ν)} (items : SameItems xs ys) : Json.Same (.arr xs) (.arr ys)
  | obj {xs ys : Members ν} (members : SameMembers xs ys) : Json.Same (.obj xs) (.obj ys)

inductive SameItems : List (Json ν) → List (Json ν) → Prop
  | nil : SameItems [] []
  | cons {x y : Json ν} {xs ys : List (Json ν)} (first : Json.Same x y) (rest : SameItems xs ys) :
    SameItems (x :: xs) (y :: ys)

inductive SameMembers : Members ν → Members ν → Prop
  | nil : SameMembers [] []
  | cons (key : String) {x y : Json ν} {xs ys : Members ν} (first : Json.Same x y)
    (rest : SameMembers xs ys) : SameMembers ((key, x) :: xs) ((key, y) :: ys)
  | swap (x y : String × Json ν) (rest : Members ν) : SameMembers (x :: y :: rest) (y :: x :: rest)
  | trans {xs ys zs : Members ν} (first : SameMembers xs ys) (second : SameMembers ys zs) :
    SameMembers xs zs

end

namespace Json

/-- How many values there are in a value. -/
def weight : Json ν → Nat
  | arr items => 1 + ofItems items
  | obj members => 1 + ofMembers members
  | _ => 1
where
  ofItems : List (Json ν) → Nat
    | [] => 0
    | item :: items => weight item + ofItems items
  ofMembers : Members ν → Nat
    | [] => 0
    | (_, value) :: members => weight value + ofMembers members

/-- The keys of every object are distinct. -/
def Distinct : Json ν → Prop
  | arr items => ofItems items
  | obj members => (members.map Prod.fst).Nodup ∧ ofMembers members
  | _ => True
where
  ofItems : List (Json ν) → Prop
    | [] => True
    | item :: items => Distinct item ∧ ofItems items
  ofMembers : Members ν → Prop
    | [] => True
    | (_, value) :: members => Distinct value ∧ ofMembers members

/-- The members of every object that are not null. -/
def strip : Json ν → Json ν
  | arr items => arr (ofItems items)
  | obj members => obj (ofMembers members)
  | value => value
where
  ofItems : List (Json ν) → List (Json ν)
    | [] => []
    | item :: items => strip item :: ofItems items
  ofMembers : Members ν → Members ν
    | [] => []
    | (key, value) :: members =>
      if value.isNull then ofMembers members else (key, strip value) :: ofMembers members

/-- No member of an object is null. -/
def Full : Json ν → Prop
  | arr items => ofItems items
  | obj members => ofMembers members
  | _ => True
where
  ofItems : List (Json ν) → Prop
    | [] => True
    | item :: items => Full item ∧ ofItems items
  ofMembers : Members ν → Prop
    | [] => True
    | (_, value) :: members => value.isNull = false ∧ Full value ∧ ofMembers members

variable {a b : Json ν}

theorem Same.refl (value : Json ν) : Same value value := by
  induction value using inside with
  | null => exact .null
  | bool b => exact .bool b
  | num n => exact .num n
  | str s => exact .str s
  | arr items ih =>
    refine .arr ?_
    induction items with
    | nil => exact .nil
    | cons item items rest =>
      rw [List.forall_mem_cons] at ih
      exact .cons ih.1 (rest ih.2)
  | obj members ih =>
    refine .obj ?_
    induction members with
    | nil => exact .nil
    | cons member members rest =>
      rw [List.forall_mem_cons] at ih
      exact .cons member.1 ih.1 (rest ih.2)

theorem Same.weight (same : Same a b) : a.weight = b.weight := by
  refine @Same.rec ν (fun a b _ => a.weight = b.weight)
    (fun xs ys _ => weight.ofItems xs = weight.ofItems ys)
    (fun xs ys _ => weight.ofMembers xs = weight.ofMembers ys)
    rfl (fun _ => rfl) (fun _ => rfl) (fun _ => rfl) ?_ ?_ rfl ?_ rfl ?_ ?_ ?_ a b same
  · intro xs ys _ ih
    rw [Json.weight, Json.weight, ih]
  · intro xs ys _ ih
    rw [Json.weight, Json.weight, ih]
  · intro x y xs ys _ _ first rest
    rw [weight.ofItems, weight.ofItems, first, rest]
  · intro key x y xs ys _ _ first rest
    rw [weight.ofMembers, weight.ofMembers, first, rest]
  · intro x y rest
    simp only [weight.ofMembers]
    omega
  · intro xs ys zs _ _ first second
    exact first.trans second

theorem weight_pos (value : Json ν) : 0 < value.weight := by
  cases value <;> simp [Json.weight]

/-- Stripping makes a value lighter, unless there is nothing to strip. -/
theorem strip_weight (value : Json ν) :
    value.strip.weight ≤ value.weight ∧ (value.strip.weight = value.weight → value.Full) := by
  induction value using inside with
  | null => exact ⟨le_refl _, fun _ => trivial⟩
  | bool => exact ⟨le_refl _, fun _ => trivial⟩
  | num => exact ⟨le_refl _, fun _ => trivial⟩
  | str => exact ⟨le_refl _, fun _ => trivial⟩
  -- The same by induction on the items, each of which is stripped.
  | arr items ih =>
    have all : weight.ofItems (strip.ofItems items) ≤ weight.ofItems items ∧
        (weight.ofItems (strip.ofItems items) = weight.ofItems items → Full.ofItems items) := by
      induction items with
      | nil => exact ⟨le_refl _, fun _ => trivial⟩
      | cons item items rest =>
        rw [List.forall_mem_cons] at ih
        obtain ⟨less, full⟩ := ih.1
        obtain ⟨less', full'⟩ := rest ih.2
        rw [strip.ofItems, weight.ofItems, weight.ofItems]
        refine ⟨by omega, fun same => ⟨full (by omega), full' (by omega)⟩⟩
    rw [strip, Json.weight, Json.weight]
    exact ⟨by omega, fun same => all.2 (by omega)⟩
  | obj members ih =>
    have all : weight.ofMembers (strip.ofMembers members) ≤ weight.ofMembers members ∧
        (weight.ofMembers (strip.ofMembers members) = weight.ofMembers members →
          Full.ofMembers members) := by
      induction members with
      | nil => exact ⟨le_refl _, fun _ => trivial⟩
      | cons member members rest =>
        obtain ⟨key, value⟩ := member
        rw [List.forall_mem_cons] at ih
        obtain ⟨less, full⟩ : value.strip.weight ≤ value.weight ∧
          (value.strip.weight = value.weight → value.Full) := ih.1
        obtain ⟨less', full'⟩ := rest ih.2
        -- A member that is dropped had some weight.
        have positive := weight_pos value
        rw [strip.ofMembers]
        split
        · rw [weight.ofMembers]
          exact ⟨by omega, fun same => by omega⟩
        next present =>
          rw [weight.ofMembers, weight.ofMembers]
          exact ⟨by omega, fun same =>
            ⟨Bool.eq_false_iff.mpr present, full (by omega), full' (by omega)⟩⟩
    rw [strip, Json.weight, Json.weight]
    exact ⟨by omega, fun same => all.2 (by omega)⟩

theorem strip_full (value : Json ν) : value.Full → value.strip = value := by
  induction value using inside with
  | null => exact fun _ => rfl
  | bool => exact fun _ => rfl
  | num => exact fun _ => rfl
  | str => exact fun _ => rfl
  | arr items ih =>
    intro full
    rw [strip, arr.injEq]
    rw [Full] at full
    induction items with
    | nil => rfl
    | cons item items rest =>
      rw [List.forall_mem_cons] at ih
      rw [strip.ofItems, ih.1 full.1, rest ih.2 full.2]
  | obj members ih =>
    intro full
    rw [strip, obj.injEq]
    rw [Full] at full
    induction members with
    | nil => rfl
    | cons member members rest =>
      obtain ⟨key, value⟩ := member
      obtain ⟨present, inside, others⟩ := full
      rw [List.forall_mem_cons] at ih
      rw [strip.ofMembers, present, if_neg Bool.false_ne_true, ih.1 inside, rest ih.2 others]

/-- Stripping changes a value unless no member of an object is null. -/
theorem strip_same_iff (value : Json ν) : Same value.strip value ↔ value.Full := by
  constructor
  · exact fun same => (strip_weight value).2 same.weight
  · intro full
    rw [strip_full value full]
    exact .refl value

end Json

end VoxRtc.Wire
