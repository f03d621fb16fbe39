import VoxRtc.Transition.Runs

/-!
# One request at a time

Requests go out under an id and are answered in the order they went out; the answers
themselves carry no id. A peer that keeps one pending id and forwards nothing while it
is set gives every answer the id of its own request.
-/
namespace Correlation

open Transition

universe u

variable {ι : Type u}

inductive Observation (ι : Type u) where
  | forwarded (id : ι)
  | answered (id : Option ι)
  deriving DecidableEq, Repr

/-- What was forwarded and answered, the latest first. -/
abbrev History (ι : Type u) := List (Observation ι)

namespace History

/-- The requests not answered yet, the oldest first. -/
def outstanding : History ι → List ι
  | [] => []
  | .forwarded id :: earlier => outstanding earlier ++ [id]
  | .answered _ :: earlier => (outstanding earlier).tail

/-- A request is forwarded only when every earlier one has been answered, and an answer
carries the id of the request it answers. -/
def Orderly : History ι → Prop
  | [] => True
  | .forwarded _ :: earlier => outstanding earlier = [] ∧ Orderly earlier
  | .answered id :: earlier => id = (outstanding earlier).head? ∧ Orderly earlier

instance decidableOrderly [DecidableEq ι] : (h : History ι) → Decidable h.Orderly
  | [] => inferInstanceAs (Decidable True)
  | .forwarded _ :: earlier =>
    let _ := decidableOrderly earlier
    inferInstanceAs (Decidable (_ ∧ _))
  | .answered _ :: earlier =>
    let _ := decidableOrderly earlier
    inferInstanceAs (Decidable (_ ∧ _))

end History

/-- The id under which an answer will be sent, and what happened so far. -/
structure Slot (ι : Type u) where
  pending : Option ι
  history : History ι

inductive Move (ι : Type u) where
  | forward (id : ι)
  | answer

namespace Slot

def next (s : Slot ι) : Move ι → Option (Slot ι)
  | .forward id =>
    if s.pending.isNone then some ⟨some id, .forwarded id :: s.history⟩ else none
  | .answer => some ⟨none, .answered s.pending :: s.history⟩

def machine : System (Slot ι) (Move ι) := ⟨⟨none, []⟩, next⟩

theorem machine_forward {s : Slot ι} (id : ι) (free : s.pending = none) :
    machine.Leads always s ⟨some id, .forwarded id :: s.history⟩ :=
  .one (.forward id) (by simp [machine, next, free])

theorem machine_answer (s : Slot ι) :
    machine.Leads always s ⟨none, .answered s.pending :: s.history⟩ :=
  .one .answer rfl

/-- The slot holds exactly the request that is outstanding. -/
structure Faithful (s : Slot ι) : Prop where
  held : s.history.outstanding = s.pending.toList
  orderly : s.history.Orderly

theorem faithful_step {s t : Slot ι} {m : Move ι} (faithful : s.Faithful)
    (taken : s.next m = some t) : t.Faithful := by
  cases m with
  | forward id =>
    simp only [next] at taken
    split at taken
    next free =>
      cases taken
      have empty : s.history.outstanding = [] := by
        simpa [Option.isNone_iff_eq_none.mp free] using faithful.held
      exact ⟨by simp [History.outstanding, empty], empty, faithful.orderly⟩
    · cases taken
  | answer =>
    cases taken
    have held := faithful.held
    constructor
    · cases found : s.pending <;> simp [History.outstanding, held, found]
    · refine ⟨?_, faithful.orderly⟩
      cases found : s.pending <;> simp [held, found]

theorem faithful {s : Slot ι} (reached : machine.Reaches always s) : s.Faithful := by
  have start : (⟨none, []⟩ : Slot ι).Faithful := ⟨rfl, trivial⟩
  exact System.Reaches.preserves start
    (fun _ _ _ faithful _ taken => faithful_step faithful taken) reached

end Slot

end Correlation
