import VoxRtc.Correlation.Names
import VoxRtc.TypeScript.Session.Waits
import VoxRtc.Rust.Session.Responses
import VoxRtc.Go.Session.Waits
import VoxRtc.Python.Session.Waits
import VoxRtc.Elixir.Session.Generation

/-!
# Generated ids

A start that names no id gets one from the session: a counter and something random, or, in
Elixir, a number that the virtual machine has not given out before. What acknowledges a start
is told from everything else by this id.
-/
namespace VoxRtc.Responses

open Wire Correlation

/-- A call of a session; `startResponseAndWait` starts too. -/
inductive Request where
  | command (command : Command)
  | startAndWait
  deriving DecidableEq, Repr

def Request.starts : Request → Bool
  | command .start | startAndWait => true
  | command _ => false

/-- A request, its options, and what is drawn at random if it needs an id. -/
structure Asked (ρ : Type) where
  request : Request
  options : Option Options := none
  random : ρ

def decimal : Nat → List Char := numeral 10 fun place => Char.ofNat (48 + place)

/-- The digits above nine are letters, from this one on. -/
def base36 (letter : Nat) : Nat → List Char :=
  numeral 36 fun place => Char.ofNat (if place < 10 then 48 + place else letter - 10 + place)

/-- `generation_`, the numeral and the rest, with a `_` between them. -/
def generationName (digits : Nat → List Char) (n : Nat) (rest : String) : String :=
  "generation_" ++ String.ofList (digits n) ++ "_" ++ rest

theorem decimal_injective : Function.Injective decimal :=
  numeral_injective (fun c => c.toNat - 48) (by decide) (by decide)

theorem base36_lower_injective : Function.Injective (base36 97) :=
  numeral_injective (fun c => if c.toNat < 58 then c.toNat - 48 else c.toNat - 87) (by decide)
    (by decide)

theorem base36_upper_injective : Function.Injective (base36 65) :=
  numeral_injective (fun c => if c.toNat < 58 then c.toNat - 48 else c.toNat - 55) (by decide)
    (by decide)

theorem decimal_solid (n : Nat) : '_' ∉ decimal n :=
  numeral_solid (by decide) (by decide) n

theorem base36_lower_solid (n : Nat) : '_' ∉ base36 97 n :=
  numeral_solid (by decide) (by decide) n

section Names

variable {digits : Nat → List Char}

theorem generationName_proper (n : Nat) (rest : String) : generationName digits n rest ≠ "" := by
  intro empty
  have nothing := congrArg String.toList empty
  simp [generationName] at nothing

/-- Names with different numbers differ, whatever follows the number. -/
theorem generationName_unique (injective : Function.Injective digits)
    (solid : ∀ n, '_' ∉ digits n) {m n : Nat} {rest rest' : String}
    (same : generationName digits m rest = generationName digits n rest') : m = n := by
  have chars := congrArg String.toList same
  simp only [generationName, String.toList_append, String.toList_ofList, List.append_assoc] at chars
  exact injective (before_unique (solid m) (solid n) (List.append_cancel_left chars))

end Names

/-- One more, in 64 bits. -/
def wrapping (n : Nat) : Nat := (n + 1) % 2 ^ 64

/-! ## Sessions that generate ids -/

/-- A session and the counter of its ids. -/
structure Counting (σ : Type) where
  session : σ
  counter : Nat := 0

/-- How the sessions of one SDK come by the ids of their starts. -/
structure Generator (σ ρ : Type) where
  call : σ → Call → σ × Frame
  startAndWait : σ → Option Options → GeneratedId → σ × Frame
  /-- The id that the caller names. -/
  explicit : Option Options → Option String
  /-- A start that names an id moves the counter, too. -/
  always : Bool
  next : Nat → Nat
  text : Nat → ρ → GeneratedId
  start_stamp : ∀ s options generated, (call s ⟨.start, options, generated⟩).2.generationId =
    some ((explicit options).getD generated.text)
  wait_stamp : ∀ s options generated, (startAndWait s options generated).2.generationId =
    some ((explicit options).getD generated.text)

namespace Generator

variable {σ ρ : Type} (g : Generator σ ρ)

/-- A start whose id the session makes up. -/
def names (a : Asked ρ) : Bool := a.request.starts && (g.explicit a.options).isNone

/-- What a request draws from the counter. -/
def draw (a : Asked ρ) : Draw ρ :=
  if g.names a then .name a.random
  else if a.request.starts && g.always then .count
  else .pass

def source : Source ρ := ⟨g.next, fun counter random => (g.text counter random).text⟩

def step (s : Counting σ) (a : Asked ρ) : Counting σ × Frame :=
  let counter := g.source.after s.counter (g.draw a)
  let generated := g.text counter a.random
  let (session, frame) := match a.request with
    | .command command => g.call s.session ⟨command, a.options, generated⟩
    | .startAndWait => g.startAndWait s.session a.options generated
  (⟨session, counter⟩, frame)

/-- The ids of the starts of a run that name none. -/
def startedIds : Counting σ → List (Asked ρ) → List String
  | _, [] => []
  | s, a :: as => (if g.names a then (g.step s a).2.generationId else none).toList ++
      startedIds (g.step s a).1 as

variable {g}

theorem step_stamp (s : Counting σ) (a : Asked ρ) :
    (if g.names a then (g.step s a).2.generationId else none) =
      g.source.made s.counter (g.draw a) := by
  cases named : g.names a with
  | false =>
    cases counts : a.request.starts && g.always <;> simp [draw, named, counts, Source.made]
  | true =>
    obtain ⟨request, options, random⟩ := a
    simp only [names, Bool.and_eq_true, Option.isNone_iff_eq_none] at named
    obtain ⟨starts, absent⟩ := named
    have drawn : g.draw ⟨request, options, random⟩ = .name random := by
      simp [draw, names, starts, absent]
    rw [drawn, if_pos rfl]
    simp only [step, drawn]
    cases request with
    | command command =>
      cases command with
      | start =>
        refine (g.start_stamp s.session options _).trans ?_
        rw [absent]
        rfl
      | _ => cases starts
    | startAndWait =>
      refine (g.wait_stamp s.session options _).trans ?_
      rw [absent]
      rfl

theorem startedIds_eq (s : Counting σ) (as : List (Asked ρ)) :
    g.startedIds s as = g.source.names s.counter (as.map g.draw) := by
  induction as generalizing s with
  | nil => rfl
  | cons a as ih => rw [startedIds, step_stamp, ih, List.map_cons, Source.names, step]

theorem counted_draw (as : List (Asked ρ)) :
    counted (as.map g.draw) ≤ as.countP (·.request.starts) := by
  induction as with
  | nil => exact Nat.le_refl 0
  | cons a as ih =>
    have once : (g.draw a).weight ≤ if a.request.starts then 1 else 0 := by
      by_cases starts : a.request.starts = true
      · rw [if_pos starts]
        cases g.draw a <;> simp [Draw.weight]
      · simp [draw, names, starts, Draw.weight]
    rw [List.map_cons, counted_cons, List.countP_cons]
    omega

/-- A session makes up no id twice, as long as its counts are written apart. -/
theorem unrepeated {limit : Nat} (apart : g.source.Apart limit) (session : σ)
    (as : List (Asked ρ)) (few : as.countP (·.request.starts) ≤ limit) :
    (g.startedIds ⟨session, 0⟩ as).Nodup := by
  have within := counted_draw (g := g) as
  rw [startedIds_eq]
  exact Source.names_nodup (k := 0) apart (by omega)

/-- Names with a number in them are apart as long as the counter does not come back. -/
theorem apart_of_numbered {digits : Nat → List Char} {rest : ρ → String} {limit : Nat}
    (injective : Function.Injective digits) (solid : ∀ n, '_' ∉ digits n)
    (written : ∀ n random, (g.text n random).text = generationName digits n (rest random))
    (onward : ∀ m n, 0 < m → m ≤ limit → 0 < n → n ≤ limit →
      g.source.counter m = g.source.counter n → m = n) : g.source.Apart limit := by
  intro m n random random' m_positive m_within n_positive n_within same
  have names : generationName digits (g.source.counter m) (rest random) =
      generationName digits (g.source.counter n) (rest random') := by
    rw [← written, ← written]
    exact same
  exact onward m n m_positive m_within n_positive n_within
    (generationName_unique injective solid names)

/-- A counter of 64 bits comes back after all its values. -/
theorem wrapping_onward (wraps : g.next = wrapping) (m n : Nat) (m_positive : 0 < m)
    (m_within : m ≤ 2 ^ 64) (n_positive : 0 < n) (n_within : n ≤ 2 ^ 64)
    (same : g.source.counter m = g.source.counter n) : m = n := by
  have wrapped (k : Nat) : g.source.counter k = k % 2 ^ 64 := by
    induction k with
    | zero => rfl
    | succ k ih =>
      have next : g.source.next = wrapping := wraps
      rw [Source.counter_succ, ih, next, wrapping]
      omega
  rw [wrapped m, wrapped n] at same
  omega

end Generator

end VoxRtc.Responses

namespace VoxRtc.TypeScript.Session

open Responses

/-- One more, as doubles add. -/
def increment (n : Nat) : Nat := if n < 2 ^ 53 then n + 1 else n

/-- `#nextGenerationId`, once the counter has moved. -/
def nextGenerationId (counter : Nat) (randomUUID : String) : GeneratedId :=
  ⟨generationName (base36 97) counter randomUUID, generationName_proper counter randomUUID⟩

example : (nextGenerationId 46 "b1946ac9").text = "generation_1a_b1946ac9" := by decide

/-- The start that `startResponseAndWait` makes. -/
def startAndWait (s : VoxRtcSession) (options : Option Options) (generated : GeneratedId) :
    VoxRtcSession × Frame :=
  s.startResponse (some { options.getD {} with
    generationId := some (waitGeneration options generated) }) generated

def generator : Generator VoxRtcSession String where
  call := VoxRtcSession.call
  startAndWait := startAndWait
  explicit options := options.bind (·.generationId)
  always := false
  next := increment
  text := nextGenerationId
  start_stamp s options generated := s.call_stamp ⟨.start, options, generated⟩
  wait_stamp s options generated := s.call_stamp ⟨.start, some { options.getD {} with
    generationId := some (waitGeneration options generated) }, generated⟩

theorem counter_within (n : Nat) (within : n ≤ 2 ^ 53) : generator.source.counter n = n := by
  induction n with
  | zero => rfl
  | succ n ih =>
    rw [Correlation.Source.counter_succ, ih (by omega)]
    exact if_pos (by omega)

theorem generated_apart : generator.source.Apart (2 ^ 53) := by
  apply Generator.apart_of_numbered base36_lower_injective base36_lower_solid (fun _ (_ : String) => rfl)
  intro m n _ m_within _ n_within same
  rwa [counter_within m m_within, counter_within n n_within] at same

end VoxRtc.TypeScript.Session

namespace VoxRtc.Rust.Session

open Responses

/-- The id that `next_response_generation` makes of the counter. -/
def nextResponseGeneration (counter : Nat) (uuid : String) : GeneratedId :=
  ⟨generationName decimal counter uuid, generationName_proper counter uuid⟩

def generator : Generator ResponseGeneration String where
  call := ResponseGeneration.call
  startAndWait := ResponseGeneration.startResponse
  explicit := explicitGeneration
  -- `set_response_generation` counts, too.
  always := true
  next := wrapping
  text := nextResponseGeneration
  start_stamp s options generated := s.call_stamp ⟨.start, options, generated⟩
  wait_stamp s options generated := s.call_stamp ⟨.start, options, generated⟩

theorem generated_apart : generator.source.Apart (2 ^ 64) :=
  Generator.apart_of_numbered decimal_injective decimal_solid (fun _ _ => rfl)
    (Generator.wrapping_onward rfl)

end VoxRtc.Rust.Session

namespace VoxRtc.Go.Session

open Responses

/-- What `rand.Read` yields, or the time when it fails. -/
inductive Random where
  | bytes (hex : String)
  | clock (unixNano : Nat)

def Random.text : Random → String
  | bytes hex => hex
  | clock unixNano => String.ofList (decimal unixNano)

/-- `nextGenerationIDLocked`, once the counter has moved. -/
def nextGenerationIDLocked (counter : Nat) (random : Random) : GeneratedId :=
  ⟨generationName decimal counter random.text, generationName_proper counter random.text⟩

/-- The start that `StartResponseAndWait` makes. -/
def startAndWait (s : ControlSession) (options : Option Options) (generated : GeneratedId) :
    ControlSession × Frame :=
  s.startResponse (some (waitOptions (options.map ResponseOptions.of) generated)) generated

theorem startAndWait_stamp (s : ControlSession) (options : Option Options)
    (generated : GeneratedId) : (startAndWait s options generated).2.generationId =
      some ((ControlSession.explicit options).getD generated.text) := by
  simp only [startAndWait, ControlSession.startResponse, Frame.generationId,
    Wire.Members.get?_insert_self, Option.bind_some, Wire.Json.str?, waitOptions]
  cases options with
  | none => simp [ControlSession.explicit, explicitGenerationID, nonempty, generated.proper]
  | some options =>
    by_cases blank : (ResponseOptions.of options).generationID = "" <;>
      simp [ControlSession.explicit, explicitGenerationID, nonempty, blank, generated.proper]

def generator : Generator ControlSession Random where
  call := ControlSession.call
  startAndWait := startAndWait
  explicit := ControlSession.explicit
  always := false
  next := wrapping
  text := nextGenerationIDLocked
  start_stamp s options generated := s.call_stamp ⟨.start, options, generated⟩
  wait_stamp := startAndWait_stamp

theorem generated_apart : generator.source.Apart (2 ^ 64) :=
  Generator.apart_of_numbered decimal_injective decimal_solid (fun _ _ => rfl)
    (Generator.wrapping_onward rfl)

end VoxRtc.Go.Session

namespace VoxRtc.Python.Session

open Responses

/-- `_next_response_generation_id`, once the counter has moved. -/
def nextResponseGenerationId (counter : Nat) (hex : String) : GeneratedId :=
  ⟨generationName decimal counter hex, generationName_proper counter hex⟩

/-- The start that `start_response_and_wait` makes. -/
def startAndWait (s : VoxRtcSession) (options : Option Options) (generated : GeneratedId) :
    VoxRtcSession × Frame :=
  s.startResponse (some { options.getD {} with
    generationId := some (waitGeneration options generated) }) generated

def generator : Generator VoxRtcSession String where
  call := VoxRtcSession.call
  startAndWait := startAndWait
  explicit options := options.bind (·.generationId)
  always := false
  next := (· + 1)
  text := nextResponseGenerationId
  start_stamp s options generated := s.call_stamp ⟨.start, options, generated⟩
  wait_stamp s options generated := s.call_stamp ⟨.start, some { options.getD {} with
    generationId := some (waitGeneration options generated) }, generated⟩

theorem generated_apart (limit : Nat) : generator.source.Apart limit := by
  apply Generator.apart_of_numbered decimal_injective decimal_solid (fun _ (_ : String) => rfl)
  intro m n _ _ _ _ same
  have counter (k : Nat) : generator.source.counter k = k := by
    induction k with
    | zero => rfl
    | succ k ih => exact Correlation.Source.counter_succ k |>.trans (congrArg (· + 1) ih)
  rwa [counter m, counter n] at same

end VoxRtc.Python.Session

namespace VoxRtc.Elixir.Session

open Responses Correlation

/-- `generation_` and a unique integer of the virtual machine. -/
def uniqueId (unique : Nat) : GeneratedId where
  text := "generation_" ++ String.ofList (base36 65 unique)
  proper empty := by
    have nothing := congrArg String.toList empty
    simp at nothing

/-- The caller names an id. -/
def named (options : Options) : Bool := (options.generationId.filter (· ≠ "")).isSome

/-- The ids that the sessions of a virtual machine make up, one after the other. -/
def startedIds (unique : Nat → Nat) : Nat → List (Session × Options) → List String
  | _, [] => []
  | k, (s, options) :: starts =>
    if named options then startedIds unique k starts
    else
      (s.ensureGeneration options (uniqueId (unique (k + 1)))).1.generationId.toList ++
        startedIds unique (k + 1) starts

def ids (unique : Nat → Nat) : Source Unit := ⟨(· + 1), fun k _ => (uniqueId (unique k)).text⟩

theorem startId_unnamed {options : Options} (names : named options = false)
    (generated : GeneratedId) : startId options generated = generated.text := by
  unfold startId
  split
  next id given =>
    rw [named, given] at names
    simp at names
    simp [names]
  · rfl

theorem startedIds_eq (unique : Nat → Nat) (k : Nat) (starts : List (Session × Options)) :
    startedIds unique k starts = (ids unique).names k
      (starts.map fun start => if named start.2 then .pass else .name ()) := by
  induction starts generalizing k with
  | nil => rfl
  | cons start starts ih =>
    obtain ⟨s, options⟩ := start
    rw [startedIds, List.map_cons, Source.names]
    cases names : named options with
    | true => simp [Source.made, Source.after, ih]
    | false =>
      have made : (s.ensureGeneration options (uniqueId (unique (k + 1)))).1.generationId =
          some (uniqueId (unique (k + 1))).text := by
        rw [ensureGeneration_eq, startId_unnamed names]
      rw [if_neg Bool.false_ne_true, if_neg Bool.false_ne_true, made, ih]
      rfl

theorem startedIds_nodup {unique : Nat → Nat} (increasing : StrictMono unique)
    (starts : List (Session × Options)) : (startedIds unique 0 starts).Nodup := by
  rw [startedIds_eq]
  refine Source.names_nodup (k := 0) (fun m n _ _ _ _ _ _ same => ?_) (Nat.le_refl _)
  have counter (k : Nat) : (ids unique).counter k = k := by
    induction k with
    | zero => rfl
    | succ k ih => exact (Source.counter_succ k).trans (congrArg (· + 1) ih)
  rw [counter m, counter n] at same
  have chars := congrArg String.toList same
  simp only [ids, uniqueId, String.toList_append, String.toList_ofList] at chars
  have numbers := base36_upper_injective (List.append_cancel_left chars)
  exact increasing.injective numbers

end VoxRtc.Elixir.Session

namespace VoxRtc.Responses

/-- No session makes up an id that it has made up before, whatever is drawn at random and
whatever is called in between. -/
structure Unrepeated : Prop where
  typescript : ∀ as, as.countP (·.request.starts) ≤ 2 ^ 53 →
    (TypeScript.Session.generator.startedIds ⟨{}, 0⟩ as).Nodup
  rust : ∀ as, as.countP (·.request.starts) ≤ 2 ^ 64 →
    (Rust.Session.generator.startedIds ⟨{}, 0⟩ as).Nodup
  go : ∀ as, as.countP (·.request.starts) ≤ 2 ^ 64 →
    (Go.Session.generator.startedIds ⟨{}, 0⟩ as).Nodup
  python : ∀ as, (Python.Session.generator.startedIds ⟨{}, 0⟩ as).Nodup
  /-- In Elixir the sessions of a virtual machine do not share an id. -/
  elixir : ∀ unique : Nat → Nat, StrictMono unique → ∀ starts,
    (Elixir.Session.startedIds unique 0 starts).Nodup

theorem ids_unrepeated : Unrepeated where
  typescript := TypeScript.Session.generator.unrepeated TypeScript.Session.generated_apart _
  rust := Generator.unrepeated Rust.Session.generated_apart _
  go := Generator.unrepeated Go.Session.generated_apart _
  python as := Generator.unrepeated (Python.Session.generated_apart _) _ as (Nat.le_refl _)
  elixir _ increasing := Elixir.Session.startedIds_nodup increasing

end VoxRtc.Responses
