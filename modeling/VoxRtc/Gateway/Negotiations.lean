import VoxRtc.Gateway.Written

/-!
# The generation of a negotiation frame

Whether the four gateways read the same generation from the data of a frame. JavaScript and
Go look at the double of a number, Rust and Python at how it is written.
-/
namespace VoxRtc.Gateway

open Wire

variable {α : Type}

/-- Something of each gateway. -/
structure Gateways (α : Type) where
  typescript : α
  rust : α
  go : α
  python : α

def Gateways.All (each : Gateways α) (p : α → Prop) : Prop :=
  p each.typescript ∧ p each.rust ∧ p each.go ∧ p each.python

/-- The generation of a frame, as each gateway reads it. -/
def generations (id : FrameId) (negotiation : Negotiation) (data : Members Literal)
    (required : Bool) : Gateways (Except CommandError (Option Nat)) where
  typescript := do
    let message ← TypeScript.Gateway.parseClientMessage (jsonParse (written id negotiation data))
    TypeScript.Gateway.negotiationGeneration message.data message.type required
  rust := do
    let message ← Rust.Gateway.parseMessage (fromStr (written id negotiation data))
    Rust.Gateway.generation message.data message.type required
  go := do
    let message ← Go.Gateway.parseMessage (decoded (written id negotiation data))
    Go.Gateway.parseNegotiationGeneration message.data required message.type
  python := do
    let message ← Python.Gateway.parseText (loads (written id negotiation data))
    Python.Gateway.generation message.data message.type required

/-- All reject it with the code `command_invalid`, all find none, or all find the same one. -/
def SameGeneration (read : Gateways (Except CommandError (Option Nat))) : Prop :=
  (read.All fun r => ∃ message, r = .error (.invalid message)) ∨
  (read.All fun r => r = .ok none) ∨
  ∃ n, 1 ≤ n ∧ n ≤ maxSafeInteger ∧ read.All fun r => r = .ok (some n)

/-! ## Two ways to look at a number -/

/-- A generation, with the integer that is seen in a number. -/
def generationBy (integer? : Literal → Option Nat) (data : Members Literal) (command : String)
    (required : Bool) : Except CommandError (Option Nat) :=
  match data.get? "generation" with
  | none =>
    if required then
      .error (.invalid s!"{command} requires generation for a generated RTC negotiation")
    else .ok none
  | some value => match value.num?.bind integer? with
    | none => .error (.invalid s!"{command} generation must be a positive safe integer")
    | some n => .ok (some n)

/-- The integer that the double of a number is. -/
def valued (l : Literal) : Option Nat := l.double.finite?.bind Finite64.safe?

/-- The integer that a number is written as. -/
def spelled : Literal → Option Nat
  | .int n => if 1 ≤ n ∧ n ≤ maxSafeInteger then some n.toNat else none
  | _ => none

theorem spelled_cases (n : Int) :
    (1 ≤ n ∧ n ≤ maxSafeInteger ∧ spelled (.int n) = some n.toNat) ∨
      (¬(1 ≤ n ∧ n ≤ maxSafeInteger) ∧ spelled (.int n) = none) := by
  by_cases inside : 1 ≤ n ∧ n ≤ maxSafeInteger
  · exact .inl ⟨inside.1, inside.2, if_pos inside⟩
  · exact .inr ⟨inside, if_neg inside⟩

theorem largest_eq : (maxSafeInteger : Int) = 2 ^ 53 - 1 := by decide

/-- An integer is seen alike in both ways. -/
theorem valued_int (n : Int) : valued (.int n) = spelled (.int n) := by
  have largest := largest_eq
  have known (x : Finite64) (one : x.scale = 1) (m : Nat) :
      x.safe? = some m ↔ 1 ≤ m ∧ m ≤ maxSafeInteger ∧ x.scaled = m := by
    have value : x.toRat = m ↔ x.scaled = m * x.scale := by
      exact_mod_cast Finite64.toRat_eq_int (n := m)
    rw [Finite64.safe?_eq_some, value, one, mul_one]
  -- An integer is its own double, or it is out of the safe range and so is its double.
  rcases ofInt_cases n with ⟨_, x, found, value, one⟩ | ⟨wide, past⟩
  · have double : valued (.int n) = x.safe? := by simp [valued, Literal.double, found, Binary64.finite?]
    rw [double]
    rcases spelled_cases n with ⟨low, high, kept⟩ | ⟨outside, lost⟩
    · rw [kept, known x one, value]
      omega
    · rw [lost, Option.eq_none_iff_forall_ne_some]
      intro m seen
      obtain ⟨low, high, same⟩ := (known x one m).mp seen
      omega
  · -- A wide integer stays wide as a double.
    have lost : spelled (.int n) = none := if_neg (by omega)
    rw [lost, valued, Literal.double, Option.eq_none_iff_forall_ne_some]
    intro m seen
    cases found : Binary64.ofInt n with
    | finite x =>
      obtain ⟨one, far⟩ := past x found
      rw [found] at seen
      obtain ⟨low, high, same⟩ := (known x one m).mp seen
      omega
    | infinity negative => simp [found, Binary64.finite?] at seen
    | nan => simp [found, Binary64.finite?] at seen

theorem asU64?_ofDouble (x : Binary64) :
    Rust.Gateway.asU64? (.num (Literal.serde.ofDouble x)) = none := by
  cases x <;> rfl

theorem asU64?_serde (l : Literal) :
    (Rust.Gateway.asU64? (.num l.serde)).filter (fun n => 0 < n && n ≤ maxSafeInteger) =
      spelled l := by
  have largest := largest_eq
  cases l with
  | int n =>
    have natural : Rust.Gateway.asU64? (.num (Literal.int n).serde) =
        if 0 ≤ n ∧ n < 2 ^ 64 then some n.toNat else none := by
      simp only [Literal.serde]
      split
      · rfl
      · split
        · rfl
        · exact asU64?_ofDouble _
    rw [natural]
    -- Every safe integer is a `u64`, and the filter drops the others.
    rcases spelled_cases n with ⟨low, high, kept⟩ | ⟨outside, lost⟩
    · rw [if_pos (by omega), kept, Option.filter_eq_some_iff]
      refine ⟨rfl, ?_⟩
      simp only [Bool.and_eq_true, decide_eq_true_eq]
      omega
    · rw [lost, Option.filter_eq_none_iff]
      intro m seen
      obtain ⟨_, same⟩ := Option.ite_none_right_eq_some.mp seen
      cases same
      simp only [Bool.and_eq_true, decide_eq_true_eq]
      omega
  | negativeZero => rfl
  | float x => rfl
  | overflow negative => rfl

variable (data : Members Literal) (command : String) (required : Bool)

theorem get?_inDomain {ν : Type} (number : Literal → ν) (key : String) :
    (inDomain number data).get? key = (data.get? key).map (Json.mapNumbers number) :=
  Members.get?_mapNumbers number data key

theorem typescript_generation :
    TypeScript.Gateway.negotiationGeneration (inDomain Literal.double data) command required =
      generationBy valued data command required := by
  simp only [TypeScript.Gateway.negotiationGeneration, generationBy, get?_inDomain]
  cases data.get? "generation" with
  | none => rfl
  | some value =>
    cases value with
    | num l =>
      -- JavaScript has the double only.
      have seen := TypeScript.Gateway.safeInteger?_double l.double
      simp only [Option.map_some, Json.mapNumbers, Json.num?, Option.bind_some, valued, ← seen]
      cases TypeScript.Gateway.safeInteger? (.num l.double) with
      | none => rfl
      | some n => by_cases low : n < 1 <;> simp [low]
    | _ => rfl

theorem go_generation :
    Go.Gateway.parseNegotiationGeneration (inDomain finite data) required command =
      generationBy valued data command required := by
  simp only [Go.Gateway.parseNegotiationGeneration, generationBy, get?_inDomain]
  cases data.get? "generation" with
  | none => rfl
  | some value =>
    cases value with
    | num l =>
      have seen : valued l = (finite l).safe? := by
        unfold valued finite
        cases l.double <;> rfl
      simp only [Option.map_some, Json.mapNumbers, Json.num?, Option.bind_some, seen, Finite64.safe?]
      split
      next outside => rw [if_pos (by exact outside)]
      next inside => rw [if_neg (by exact inside)]
    | _ => rfl

theorem rust_generation :
    Rust.Gateway.generation (inDomain Literal.serde data) command required =
      generationBy spelled data command required := by
  simp only [Rust.Gateway.generation, generationBy, get?_inDomain]
  cases data.get? "generation" with
  | none => rfl
  | some value =>
    cases value with
    | num l =>
      cases known : spelled l <;>
        simp only [Option.map_some, Json.mapNumbers, asU64?_serde, Json.num?, Option.bind_some, known]
    | _ => rfl

theorem python_generation :
    Python.Gateway.generation (inDomain Literal.python data) command required =
      generationBy spelled data command required := by
  simp only [Python.Gateway.generation, generationBy, get?_inDomain]
  cases data.get? "generation" with
  | none => rfl
  | some value =>
    cases value with
    | num l =>
      -- Python tells an `int` from a `float` by the way it is written.
      cases l with
      | int n =>
        have largest : (maxSafeInteger : Int) = 9007199254740991 := rfl
        simp only [Option.map_some, Json.mapNumbers, Literal.python, Json.num?, Option.bind_some]
        rcases spelled_cases n with ⟨low, high, kept⟩ | ⟨outside, lost⟩
        · rw [if_neg (by omega), kept]
        · rw [if_pos (by omega), lost]
      | _ => rfl
    | _ => rfl

/-! ## Agreement -/

section Agreement

variable (id : FrameId) (negotiation : Negotiation)

theorem generations_eq : generations id negotiation data required =
    { typescript := generationBy valued data negotiation.type required
      rust := if InRange data then generationBy spelled data negotiation.type required
        else .error (.plain "RTC gateway message must be valid JSON")
      go := if InRange data then generationBy valued data negotiation.type required
        else .error (.plain "RTC gateway message must be valid JSON")
      python := generationBy spelled data negotiation.type required } := by
  unfold generations
  rw [typescript_parses, rust_parses, go_parses, python_parses]
  by_cases ranged : InRange data
  · simp only [if_pos ranged, bind, Except.bind, typescript_generation, rust_generation,
      go_generation, python_generation]
  · simp only [if_neg ranged, bind, Except.bind, typescript_generation, python_generation]

theorem valued_safe {l : Literal} {n : Nat} (seen : valued l = some n) :
    1 ≤ n ∧ n ≤ maxSafeInteger := by
  obtain ⟨x, _, safe⟩ := Option.bind_eq_some_iff.mp seen
  obtain ⟨low, high, _⟩ := Finite64.safe?_eq_some.mp safe
  exact ⟨low, high⟩

theorem generationBy_cases {integer? : Literal → Option Nat}
    (safe : ∀ {l n}, integer? l = some n → 1 ≤ n ∧ n ≤ maxSafeInteger) :
    (∃ message, generationBy integer? data command required = .error (.invalid message)) ∨
      generationBy integer? data command required = .ok none ∨
      ∃ n, 1 ≤ n ∧ n ≤ maxSafeInteger ∧
        generationBy integer? data command required = .ok (some n) := by
  unfold generationBy
  split
  · split
    · exact .inl ⟨_, rfl⟩
    · exact .inr (.inl rfl)
  next value _ =>
    cases seen : value.num?.bind integer? with
    | none => exact .inl ⟨_, rfl⟩
    | some n =>
      obtain ⟨l, _, found⟩ := Option.bind_eq_some_iff.mp seen
      obtain ⟨low, high⟩ := safe found
      exact .inr (.inr ⟨n, low, high, rfl⟩)

/-- A number is seen alike unless it is a safe integer written with a fraction or an exponent. -/
theorem seen_alike (l : Literal) :
    valued l = spelled l ↔
      ∀ x n, l = .float x → 1 ≤ n → n ≤ maxSafeInteger → x.toRat ≠ (n : ℕ) := by
  cases l with
  | int n => simp [valued_int]
  | negativeZero =>
    have same : valued .negativeZero = spelled .negativeZero := rfl
    simp [same]
  | overflow negative =>
    have same : valued (.overflow negative) = spelled (.overflow negative) := rfl
    simp [same]
  -- Read by its value it may be an integer, read by its spelling it never is.
  | float x =>
    have double : valued (.float x) = x.safe? := rfl
    have lost : spelled (.float x) = none := rfl
    rw [double, lost, Option.eq_none_iff_forall_ne_some]
    simp only [ne_eq, Finite64.safe?_eq_some, Literal.float.injEq]
    constructor
    · rintro unsafe' _ n rfl low high whole
      exact unsafe' n ⟨low, high, whole⟩
    · rintro fractional n ⟨low, high, whole⟩
      exact fractional x n rfl low high whole

/-- The generation is not a safe integer written with a fraction or an exponent. -/
def PlainGeneration : Prop :=
  ∀ (x : Finite64) (n : Nat), data.get? "generation" = some (.num (.float x)) →
    1 ≤ n → n ≤ maxSafeInteger → x.toRat ≠ n

theorem plain_iff : PlainGeneration data ↔
    generationBy valued data command required = generationBy spelled data command required := by
  unfold PlainGeneration generationBy
  cases data.get? "generation" with
  | none => simp
  | some value =>
    cases value with
    | num l =>
      have plain : (∀ (x : Finite64) (n : Nat), some (Json.num l) = some (.num (.float x)) →
          1 ≤ n → n ≤ maxSafeInteger → x.toRat ≠ n) ↔ valued l = spelled l := by
        rw [seen_alike]
        simp
      rw [plain]
      simp only [Json.num?, Option.bind_some]
      cases valued l <;> cases spelled l <;> simp
    | _ => simp [Json.num?]

/-- A rejection has one message, whichever way the number is seen. -/
theorem generationBy_error {integer? : Literal → Option Nat} {e : CommandError}
    (rejected : generationBy integer? data command required = .error e) :
    e = .invalid (if (data.get? "generation").isNone then
      s!"{command} requires generation for a generated RTC negotiation"
    else s!"{command} generation must be a positive safe integer") := by
  unfold generationBy at rejected
  cases found : data.get? "generation" with
  | none =>
    rw [found] at rejected
    dsimp only at rejected
    split at rejected <;> cases rejected
    rfl
  | some value =>
    rw [found] at rejected
    dsimp only at rejected
    split at rejected <;> cases rejected
    rfl

/-- The gateways read the same generation exactly when every number of the data is in range and
the generation is not a safe integer written with a fraction or an exponent. -/
theorem generations_agree_iff :
    SameGeneration (generations id negotiation data required) ↔
      InRange data ∧ PlainGeneration data := by
  rw [generations_eq, plain_iff data negotiation.type required]
  by_cases ranged : InRange data
  · simp only [SameGeneration, Gateways.All, ranged, if_true, true_and]
    constructor
    · rintro (⟨⟨_, left⟩, ⟨_, right⟩, _⟩ | ⟨left, right, _⟩ | ⟨n, _, _, left, right, _⟩)
      -- Both ways reject, and a rejection has one message only.
      · rw [left, right, generationBy_error data _ required left,
          generationBy_error data _ required right]
      · exact left.trans right.symm
      · exact left.trans right.symm
    · intro alike
      rw [← alike]
      -- What the first gateway reads is what all of them read.
      rcases generationBy_cases data negotiation.type required valued_safe with
        ⟨message, rejected⟩ | absent | ⟨n, low, high, found⟩
      · rw [rejected]
        exact .inl ⟨⟨_, rfl⟩, ⟨_, rfl⟩, ⟨_, rfl⟩, ⟨_, rfl⟩⟩
      · exact .inr (.inl ⟨absent, absent, absent, absent⟩)
      · exact .inr (.inr ⟨n, low, high, found, found, found, found⟩)
  · -- Rust answers such a frame without a code.
    simp [SameGeneration, Gateways.All, ranged, CommandError.plain, CommandError.invalid]

end Agreement

theorem first_named : ∃ c ∈ "1".toList, ecmaSpace c = false ∧ pythonSpace c = false :=
  ⟨'1', by decide, rfl, rfl⟩

def FrameId.first : FrameId := ⟨"1", first_named⟩

/-- `1.0`. -/
def one : Literal := .float ⟨false, 1, 0, Finite64.bounded_one, Finite64.ranged_zero⟩

/-- An offer with the generation `1.0` is accepted by two gateways and rejected by the others. -/
theorem generation_with_fraction :
    let read := generations .first .offer [("generation", .num one)] false
    read.typescript = .ok (some 1) ∧ read.go = .ok (some 1) ∧
      (read.rust = .error (.invalid "rtc.offer generation must be a positive safe integer") ∧
        read.python = .error (.invalid "rtc.offer generation must be a positive safe integer")) ∧
      ¬SameGeneration read := by
  have typescript : (generations .first .offer [("generation", .num one)] false).typescript =
      .ok (some 1) := by
    rw [generations_eq]
    rfl
  have rust : (generations .first .offer [("generation", .num one)] false).rust =
      .error (.invalid "rtc.offer generation must be a positive safe integer") := by
    rw [generations_eq]
    rfl
  refine ⟨typescript, ?_, ⟨rust, ?_⟩, ?_⟩
  · rw [generations_eq]
    rfl
  · rw [generations_eq]
    rfl
  · simp [SameGeneration, Gateways.All, typescript, rust]

end VoxRtc.Gateway
