import VoxRtc.Transition.Runs

/-!
# Fair executions

An execution is an infinite run that may idle. Weak fairness of a set of labels
says that a set that stays enabled is served. The progress rule turns a rank that
the served labels lower, and no step raises, into an eventuality.
-/
namespace Transition

universe u v

variable {σ : Type u} {ℓ : Type v}

namespace System

def Enabled (M : System σ ℓ) (A : ℓ → Prop) (s : σ) : Prop :=
  ∃ l, A l ∧ (M.step s l).isSome = true

structure Execution (M : System σ ℓ) (C : σ → ℓ → Prop) where
  state : Nat → σ
  label : Nat → Option ℓ
  start : state 0 = M.init
  idle : ∀ n, label n = none → state (n + 1) = state n
  meets : ∀ n l, label n = some l → C (state n) l
  taken : ∀ n l, label n = some l → M.step (state n) l = some (state (n + 1))

variable {M : System σ ℓ} {C : σ → ℓ → Prop}

namespace Execution

def WeaklyFair (e : M.Execution C) (A : ℓ → Prop) : Prop :=
  ∀ n, (∀ m, n ≤ m → M.Enabled A (e.state m)) → ∃ m l, n ≤ m ∧ A l ∧ e.label m = some l

/-- The same execution, under a weaker condition. -/
def mono (e : M.Execution C) {D : σ → ℓ → Prop} (weaker : ∀ s l, C s l → D s l) :
    M.Execution D :=
  { e with meets := fun n l found => weaker _ l (e.meets n l found) }

theorem reaches (e : M.Execution C) (n : Nat) : M.Reaches C (e.state n) := by
  induction n with
  | zero =>
    rw [e.start]
    exact .here
  | succ n ih =>
    cases found : e.label n with
    | none =>
      rw [e.idle n found]
      exact ih
    | some l => exact .step l ih (e.meets n l found) (e.taken n l found)

theorem leads (e : M.Execution C) {n m : Nat} (later : n ≤ m) :
    M.Leads C (e.state n) (e.state m) := by
  induction later with
  | refl => exact .here
  | @step m _ ih =>
    cases found : e.label m with
    | none =>
      rw [e.idle m found]
      exact ih
    | some l => exact .step l ih (e.meets m l found) (e.taken m l found)

section Progress

variable {A : ℓ → Prop} {P Q : σ → Prop}

/-- One round: until `Q` holds, `P` persists and the rank does not rise, so the
served label eventually comes and lowers it. -/
private theorem served_once (e : M.Execution C) (rank : σ → Nat) (fair : e.WeaklyFair A)
    (enabled : ∀ s, M.Reaches C s → P s → M.Enabled A s)
    (kept : ∀ s l t, M.Reaches C s → P s → C s l → M.step s l = some t →
      Q t ∨ P t ∧ rank t ≤ rank s)
    (drops : ∀ s l t, M.Reaches C s → P s → A l → C s l → M.step s l = some t →
      Q t ∨ P t ∧ rank t < rank s)
    (n : Nat) (holds : P (e.state n)) :
    ∃ m, n ≤ m ∧ (Q (e.state m) ∨ P (e.state m) ∧ rank (e.state m) < rank (e.state n)) := by
  by_cases reached : ∃ m, n ≤ m ∧ Q (e.state m)
  · obtain ⟨m, later, goal⟩ := reached
    exact ⟨m, later, .inl goal⟩
  · have waiting : ∀ m, n ≤ m → P (e.state m) ∧ rank (e.state m) ≤ rank (e.state n) := by
      intro m later
      induction later with
      | refl => exact ⟨holds, Nat.le_refl _⟩
      | @step m later ih =>
        cases found : e.label m with
        | none =>
          rw [e.idle m found]
          exact ih
        | some l =>
          rcases kept _ l _ (e.reaches m) ih.1 (e.meets m l found) (e.taken m l found) with
            goal | ⟨still, bound⟩
          · exact absurd ⟨m + 1, Nat.le_succ_of_le later, goal⟩ reached
          · exact ⟨still, Nat.le_trans bound ih.2⟩
    obtain ⟨m, l, later, served, found⟩ :=
      fair n fun m later => enabled _ (e.reaches m) (waiting m later).1
    refine ⟨m + 1, Nat.le_succ_of_le later, ?_⟩
    rcases drops _ l _ (e.reaches m) (waiting m later).1 served (e.meets m l found)
      (e.taken m l found) with goal | ⟨still, lower⟩
    · exact .inl goal
    · exact .inr ⟨still, Nat.lt_of_lt_of_le lower (waiting m later).2⟩

theorem eventually_of_rank (e : M.Execution C) (rank : σ → Nat) (fair : e.WeaklyFair A)
    (enabled : ∀ s, M.Reaches C s → P s → M.Enabled A s)
    (kept : ∀ s l t, M.Reaches C s → P s → C s l → M.step s l = some t →
      Q t ∨ P t ∧ rank t ≤ rank s)
    (drops : ∀ s l t, M.Reaches C s → P s → A l → C s l → M.step s l = some t →
      Q t ∨ P t ∧ rank t < rank s)
    (n : Nat) (holds : P (e.state n)) : ∃ m, n ≤ m ∧ Q (e.state m) := by
  induction bound : rank (e.state n) using Nat.strongRecOn generalizing n with
  | ind r ih =>
    obtain ⟨m, later, goal | ⟨still, lower⟩⟩ := served_once e rank fair enabled kept drops n holds
    · exact ⟨m, later, goal⟩
    · obtain ⟨k, after, goal⟩ := ih _ (by rw [← bound]; exact lower) m still rfl
      exact ⟨k, Nat.le_trans later after, goal⟩

end Progress

end Execution

/-- The states of a finite run, the last one repeated for ever. -/
def states (M : System σ ℓ) : σ → List ℓ → Nat → σ
  | s, _, 0 => s
  | s, [], _ + 1 => s
  | s, l :: ls, n + 1 => match M.step s l with
    | some t => states M t ls n
    | none => s

theorem states_succ {s t : σ} (ls : List ℓ) (meets : M.Meets C s ls) (ran : M.run s ls = some t)
    (n : Nat) (l : ℓ) (found : ls[n]? = some l) :
    C (M.states s ls n) l ∧ M.step (M.states s ls n) l = some (M.states s ls (n + 1)) := by
  induction ls generalizing s n with
  | nil => simp at found
  | cons first ls ih =>
    simp only [run, Option.bind_eq_some_iff] at ran
    obtain ⟨next, taken, rest⟩ := ran
    simp only [Meets, taken] at meets
    cases n with
    | zero =>
      simp only [List.getElem?_cons_zero, Option.some.injEq] at found
      subst found
      refine ⟨meets.1, ?_⟩
      cases ls <;> simp [states, taken]
    | succ n =>
      simp only [List.getElem?_cons_succ] at found
      simpa only [states, taken] using ih meets.2 rest n found

theorem states_end {s t : σ} (ls : List ℓ) (ran : M.run s ls = some t) (n : Nat)
    (past : ls.length ≤ n) : M.states s ls n = t := by
  induction ls generalizing s n with
  | nil =>
    cases ran
    cases n <;> rfl
  | cons l ls ih =>
    simp only [run, Option.bind_eq_some_iff] at ran
    obtain ⟨next, taken, rest⟩ := ran
    cases n with
    | zero => simp at past
    | succ n =>
      simp only [states, taken]
      exact ih rest n (by simpa using past)

/-- A finite run that ends where nothing more happens. -/
def Execution.ofRun {t : σ} (ls : List ℓ) (meets : M.Meets C M.init ls)
    (ran : M.run M.init ls = some t) : M.Execution C where
  state := M.states M.init ls
  label n := ls[n]?
  start := by cases ls <;> rfl
  idle n stopped := by
    have past : ls.length ≤ n := by simpa using stopped
    rw [states_end ls ran n past, states_end ls ran (n + 1) (Nat.le_succ_of_le past)]
  meets n l found := (states_succ ls meets ran n l found).1
  taken n l found := (states_succ ls meets ran n l found).2

theorem Execution.ofRun_fair {t : σ} (ls : List ℓ) (meets : M.Meets C M.init ls)
    (ran : M.run M.init ls = some t) {A : ℓ → Prop} (quiet : ¬M.Enabled A t) :
    (Execution.ofRun ls meets ran).WeaklyFair A := by
  intro n enabled
  have last := enabled (max n ls.length) (Nat.le_max_left _ _)
  rw [show (Execution.ofRun ls meets ran).state (max n ls.length) = t from
    states_end ls ran _ (Nat.le_max_right _ _)] at last
  exact absurd last quiet

end System

end Transition
