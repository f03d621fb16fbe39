import Mathlib.Data.List.Basic

/-!
# Bodies that may throw

A body runs over a state and ends with a value or an exception; an exception undoes
nothing. `Ensures` is the triple of a body: what holds before it, after it, and where it
throws. The rules follow the ways in which bodies are composed. Where the tests of a body are
known, `outcome` computes how it ends.
-/
namespace Program

variable {σ ε α β : Type}

/-- From a state with `P`, the body ends with `Q`, or throws with `E`. -/
def Ensures (P : σ → Prop) (body : EStateM ε σ α) (Q : α → σ → Prop) (E : ε → σ → Prop) : Prop :=
  ∀ s, P s → match body s with
    | .ok a t => Q a t
    | .error e t => E e t

/-- What holds before a body holds after it, however it ends. -/
def Keeps (P : σ → Prop) (body : EStateM ε σ α) : Prop :=
  Ensures P body (fun _ => P) (fun _ => P)

/-- The state a body leaves. -/
def after (body : EStateM ε σ α) (s : σ) : σ :=
  match body s with
  | .ok _ t => t
  | .error _ t => t

variable {P P' : σ → Prop} {Q Q' : α → σ → Prop} {E E' : ε → σ → Prop} {body : EStateM ε σ α}

/-- Either way the body ends in a state with `R`. -/
theorem Ensures.after {R : σ → Prop} {s : σ}
    (ensures : Ensures P body (fun _ => R) (fun _ => R)) (holds : P s) : R (after body s) := by
  have ended := ensures s holds
  unfold Program.after
  revert ended
  cases body s with
  | ok a t => exact id
  | error e t => exact id

section Running

variable {s : σ}

/-- How a body ends, and the state it leaves. -/
def outcome (body : EStateM ε σ α) (s : σ) : EStateM.Result ε σ α := body s

theorem after_outcome (body : EStateM ε σ α) : after body s = match outcome body s with
    | .ok _ t => t
    | .error _ t => t := rfl

@[simp] theorem outcome_pure (a : α) : outcome (pure a : EStateM ε σ α) s = .ok a s := rfl

@[simp] theorem outcome_throw (e : ε) :
    outcome (MonadExcept.throw e : EStateM ε σ α) s = .error e s := rfl

@[simp] theorem outcome_get : outcome (get : EStateM ε σ σ) s = .ok s s := rfl

@[simp] theorem outcome_modify (f : σ → σ) :
    outcome (modify f : EStateM ε σ PUnit) s = .ok ⟨⟩ (f s) := rfl

@[simp] theorem outcome_bind (body : EStateM ε σ α) (next : α → EStateM ε σ β) :
    outcome (body >>= next) s = match outcome body s with
      | .ok a t => outcome (next a) t
      | .error e t => .error e t := by
  change EStateM.bind body next s = _
  unfold EStateM.bind outcome
  cases body s with
  | ok a t => rfl
  | error e t => rfl

@[simp] theorem outcome_cond {c : Prop} [Decidable c] (body other : EStateM ε σ α) :
    outcome (if c then body else other) s = if c then outcome body s else outcome other s := by
  split <;> rfl

@[simp] theorem outcome_handle (body : EStateM ε σ α) (handler : ε → EStateM ε σ α) :
    outcome (tryCatch body handler) s = match outcome body s with
      | .ok a t => .ok a t
      | .error e t => outcome (handler e) t := by
  change EStateM.tryCatch body handler s = _
  unfold EStateM.tryCatch outcome
  cases body s with
  | ok a t => rfl
  | error e t => rfl

end Running

namespace Ensures

theorem weaken (ensures : Ensures P body Q E) (pre : ∀ s, P' s → P s)
    (post : ∀ a s, Q a s → Q' a s) (thrown : ∀ e s, E e s → E' e s) :
    Ensures P' body Q' E' := by
  intro s holds
  have ended := ensures s (pre s holds)
  revert ended
  cases body s with
  | ok a t => exact post a t
  | error e t => exact thrown e t

theorem anything : Ensures P body (fun _ _ => True) (fun _ _ => True) := by
  intro s _
  cases body s <;> trivial

theorem pure {a : α} (holds : ∀ s, P s → Q a s) : Ensures P (Pure.pure a : EStateM ε σ α) Q E :=
  holds

theorem throw {e : ε} (holds : ∀ s, P s → E e s) :
    Ensures P (MonadExcept.throw e : EStateM ε σ α) Q E :=
  holds

theorem update {R : PUnit → σ → Prop} {f : σ → σ} (holds : ∀ s, P s → R ⟨⟩ (f s)) :
    Ensures P (modify f : EStateM ε σ PUnit) R E :=
  holds

theorem bind {R : β → σ → Prop} {next : α → EStateM ε σ β} (first : Ensures P body Q E)
    (rest : ∀ a, Ensures (Q a) (next a) R E) : Ensures P (body >>= next) R E := by
  intro s holds
  have ended := first s holds
  change match EStateM.bind body next s with | .ok b t => R b t | .error e t => E e t
  unfold EStateM.bind
  revert ended
  cases body s with
  | ok a t => exact rest a t
  | error e t => exact id

/-- A triple is a matter of each single state. -/
theorem each (single : ∀ s, P s → Ensures (fun t => t = s) body Q E) : Ensures P body Q E :=
  fun s holds => single s holds s rfl

theorem once_update {R : σ → Prop} {f : σ → σ} {s : σ} (holds : R (f s)) :
    Ensures (fun t => t = s) (modify f : EStateM ε σ PUnit) (fun _ => R) (fun _ => R) :=
  fun _ same => same ▸ holds

theorem once_pure {R : σ → Prop} {a : α} {s : σ} (holds : R s) :
    Ensures (fun t => t = s) (Pure.pure a : EStateM ε σ α) (fun _ => R) (fun _ => R) :=
  fun _ same => same ▸ holds

theorem once_throw {R : σ → Prop} {e : ε} {s : σ} (holds : R s) :
    Ensures (fun t => t = s) (MonadExcept.throw e : EStateM ε σ α) (fun _ => R) (fun _ => R) :=
  fun _ same => same ▸ holds

/-- The rest of a body that has read the state `s`. -/
theorem read {next : σ → EStateM ε σ α}
    (rest : ∀ s, P s → Ensures (fun t => t = s) (next s) Q E) :
    Ensures P (get >>= next) Q E :=
  fun s holds => rest s holds s rfl

theorem cond {c : Prop} [Decidable c] {other : EStateM ε σ α} (yes : c → Ensures P body Q E)
    (no : ¬c → Ensures P other Q E) : Ensures P (if c then body else other) Q E := by
  split
  next holds => exact yes holds
  next fails => exact no fails

/-- The handler takes over where the body throws. -/
theorem handle {F : ε → σ → Prop} {handler : ε → EStateM ε σ α} (first : Ensures P body Q F)
    (rest : ∀ e, Ensures (F e) (handler e) Q E) : Ensures P (tryCatch body handler) Q E := by
  intro s holds
  have ended := first s holds
  change match EStateM.tryCatch body handler s with | .ok a t => Q a t | .error e t => E e t
  unfold EStateM.tryCatch
  revert ended
  cases body s with
  | ok a t => exact id
  | error e t => exact rest e t

end Ensures

end Program
