import Mathlib.Data.List.Basic

/-!
# Readings with notes

One grammar for several readers. Next to the value, a reading notes every place where the
text departs from what all readers take. A reader takes the text when it tolerates all notes.
-/
namespace VoxRtc.Grammar

variable {α β δ ε ρ : Type}

/-- A value with the notes made on the way to it, or `none` where no reader finds one. -/
def Reading (δ α : Type) : Type := Option (α × List δ)

namespace Reading

def fail : Reading δ α := none

def note (d : δ) : Reading δ Unit := some ((), [d])

def ofOption : Option α → Reading δ α
  | none => none
  | some a => some (a, [])

protected def bind (r : Reading δ α) (f : α → Reading δ β) : Reading δ β :=
  match r with
  | none => none
  | some (a, notes) => match f a with
    | none => none
    | some (b, more) => some (b, notes ++ more)

instance : Monad (Reading δ) where
  pure a := some (a, [])
  bind := Reading.bind

/-- Reads every item of a list. -/
def each (read : α → Reading δ β) : List α → Reading δ (List β)
  | [] => pure []
  | x :: xs => do
    let y ← read x
    let ys ← each read xs
    return y :: ys

def relabel (label : δ → ε) : Reading δ α → Reading ε α
  | none => none
  | some (a, notes) => some (a, notes.map label)

def notes? : Reading δ α → Option (List δ)
  | none => none
  | some (_, notes) => some notes

/-- What a reader makes of the text. -/
def accept (tolerates : δ → Bool) : Reading δ α → Option α
  | none => none
  | some (a, notes) => if notes.all tolerates then some a else none

variable {tolerates : δ → Bool}

@[simp] theorem accept_pure (a : α) : accept tolerates (pure a : Reading δ α) = some a := rfl

@[simp] theorem accept_fail : accept tolerates (fail : Reading δ α) = none := rfl

@[simp] theorem accept_ofOption (a : Option α) : accept tolerates (ofOption a) = a := by
  cases a with
  | none => rfl
  | some a => rfl

@[simp] theorem accept_note (d : δ) :
    accept tolerates (note d) = if tolerates d then some () else none := by
  simp [accept, note]

/-- A reader reads a sequence part by part. -/
@[simp] theorem accept_bind (r : Reading δ α) (f : α → Reading δ β) :
    accept tolerates (r >>= f) = (accept tolerates r).bind fun a => accept tolerates (f a) := by
  change accept tolerates (Reading.bind r f) = _
  cases r with
  | none => rfl
  | some read =>
    obtain ⟨a, notes⟩ := read
    cases rest : f a with
    | none => by_cases taken : notes.all tolerates <;> simp [Reading.bind, accept, taken, rest]
    | some more =>
      by_cases taken : notes.all tolerates <;>
        simp [Reading.bind, accept, taken, rest, List.all_append]

@[simp] theorem accept_map (f : α → β) (r : Reading δ α) :
    accept tolerates (f <$> r) = (accept tolerates r).map f := by
  have spelt : (f <$> r : Reading δ β) = r >>= fun a => pure (f a) := rfl
  rw [spelt, accept_bind]
  cases accept tolerates r with
  | none => rfl
  | some a => rfl

@[simp] theorem accept_ite (c : Prop) [Decidable c] (r s : Reading δ α) :
    accept tolerates (if c then r else s) = if c then accept tolerates r else accept tolerates s :=
  apply_ite ..

theorem accept_each (read : α → Reading δ β) (xs : List α) :
    accept tolerates (each read xs) = xs.mapM fun x => accept tolerates (read x) := by
  induction xs with
  | nil => rfl
  | cons x xs ih => simp [each, ih, List.mapM_cons]

@[simp] theorem accept_relabel (label : δ → ε) (r : Reading δ α) (tolerates : ε → Bool) :
    accept tolerates (relabel label r) = accept (fun d => tolerates (label d)) r := by
  cases r with
  | none => rfl
  | some read => simp [accept, relabel, List.all_map, Function.comp_def]

theorem accept_isSome (tolerates : δ → Bool) (r : Reading δ α) :
    (accept tolerates r).isSome = r.notes?.any (·.all tolerates) := by
  cases r with
  | none => rfl
  | some read =>
    obtain ⟨a, notes⟩ := read
    by_cases taken : notes.all tolerates <;> simp [accept, notes?, taken]

/-- Readers that differ in what they tolerate agree on a text when they all tolerate its
notes, or none of them does. -/
theorem unanimous_iff [Nonempty ρ] (tolerates : ρ → δ → Bool) (r : Reading δ α) :
    ((∀ v, accept (tolerates v) r = none) ∨ ∃ a, ∀ v, accept (tolerates v) r = some a) ↔
      ∀ a notes, r = some (a, notes) →
        (∀ v, ∀ d ∈ notes, tolerates v d = true) ∨ ∀ v, ∃ d ∈ notes, tolerates v d = false := by
  cases r with
  | none =>
    constructor
    · intro _ a notes read
      cases read
    · intro _
      exact .inl fun _ => rfl
  | some read =>
    obtain ⟨a, notes⟩ := read
    constructor
    -- A reader accepts when it tolerates every note, so each side speaks of the notes.
    · rintro (rejected | ⟨b, accepted⟩) a' notes' read
      · cases read
        right
        intro v
        have missed := rejected v
        simpa [accept] using missed
      · cases read
        left
        intro v d here
        by_contra missed
        have taken := accepted v
        rw [accept, if_neg] at taken
        · cases taken
        · intro all
          exact missed (List.all_eq_true.mp all d here)
    · intro uniform
      rcases uniform a notes rfl with taken | missed
      · right
        refine ⟨a, fun v => ?_⟩
        rw [accept, if_pos (List.all_eq_true.mpr (taken v))]
      · left
        intro v
        obtain ⟨d, here, untolerated⟩ := missed v
        rw [accept, if_neg]
        intro all
        rw [List.all_eq_true.mp all d here] at untolerated
        cases untolerated

end Reading

end VoxRtc.Grammar
