import VoxRtc.Responses.Commands
import VoxRtc.Transition.Fairness
import VoxRtc.Transition.Histories

/-!
# Waits for the start of a response

An application may start a response and wait until the server has said what becomes of it:
the event or the error that bears the generation of the response settles the wait, or its
timeout does, or the failure to send the start. Here is what is expected of the waits of one
session, whichever SDK they are in.
-/
namespace VoxRtc.Responses

open Wire Transition

/-- A member that is a string. -/
def optionalText (payload : Payload) (key : String) : Option String :=
  (payload.get? key).bind Json.str?

/-- The output that a response has, as the server reports it. -/
structure ResponseOutput where
  model : String
  voice : Option String
  language : String
  speed : Binary64
  params : Payload

/-- An output is read, if its speed is a number that the SDK accepts. -/
def readOutput (accepts : Binary64 → Bool) (value : Option Value) : Option ResponseOutput :=
  match value with
  | some (.obj output) =>
    match optionalText output "model", optionalText output "language",
        Members.get? output "speed", Members.get? output "params" with
    | some model, some language, some (.num speed), some (.obj params) =>
      if model ≠ "" ∧ language ≠ "" ∧ accepts speed = true then
        some ⟨model, optionalText output "voice", language, speed, params⟩
      else none
    | _, _, _, _ => none
  | _ => none

/-- What happens to the waits of a session; each has a number. -/
inductive Occurrence where
  | began (i : Nat) (generationId : String)
  | frame (f : Frame)
  | expired (i : Nat)
  /-- The start could not be sent. -/
  | failed (i : Nat)

/-- What a wait has come to, and what it still holds. -/
structure Wait (ρ : Type) where
  generationId : String
  settlement : Option ρ
  /-- Its subscriptions to `response.created` and to `error`. -/
  created : Bool
  error : Bool
  timer : Bool

/-- The waits of a session of one SDK. -/
structure Waits (σ ℓ ρ : Type) where
  system : System σ ℓ
  occurs : σ → ℓ → List Occurrence
  waits : σ → List (Wait ρ)
  /-- What brings the wait itself on: its send returns, its timer expires, it is resumed. -/
  own : Nat → ℓ → Prop

/-- The first occurrence of those that can settle a wait. -/
def First {ρ : Type} (outcome : String → Nat → Occurrence → Option ρ) (generationId : String)
    (i : Nat) (history : List Occurrence) (settlement : Option ρ) : Prop :=
  settlement = history.findSome? (outcome generationId i)

/-- Waits are settled exactly once, by what is `due`, and hold nothing after that. -/
structure WaitsSettle {σ ℓ ρ : Type} (W : Waits σ ℓ ρ) (C : σ → ℓ → Prop)
    (due : String → Nat → List Occurrence → Option ρ → Prop) : Prop where
  by_due : ∀ r, (W.system.recorded W.occurs).Reaches (fun s => C s.1) r →
    ∀ i w, (W.waits r.1)[i]? = some w → ∃ before after,
      r.2 = before ++ .began i w.generationId :: after ∧ due w.generationId i after w.settlement
  once : ∀ s l t, W.system.Reaches C s → C s l → W.system.step s l = some t →
    ∀ (i : Nat) w, (W.waits s)[i]? = some w → ∃ w', (W.waits t)[i]? = some w' ∧
      w'.generationId = w.generationId ∧ (w.settlement.isSome = true → w' = w)
  released : ∀ s, W.system.Reaches C s → ∀ w ∈ W.waits s, w.settlement.isSome = true →
    w.created = false ∧ w.error = false ∧ w.timer = false
  settles : ∀ (e : W.system.Execution C) (n i : Nat) w, e.WeaklyFair (W.own i) →
    (W.waits (e.state n))[i]? = some w → ∃ m w', n ≤ m ∧
      (W.waits (e.state m))[i]? = some w' ∧ w'.settlement.isSome = true

/-! ## Progress -/

namespace Waits

variable {σ ℓ ρ : Type} {W : Waits σ ℓ ρ} {C : σ → ℓ → Prop} {i : Nat} {s : σ} {w : Wait ρ}

/-- The wait is there and has not been settled. -/
def Open (W : Waits σ ℓ ρ) (i : Nat) (s : σ) : Prop :=
  ∃ w, (W.waits s)[i]? = some w ∧ w.settlement = none

def Settled (W : Waits σ ℓ ρ) (i : Nat) (s : σ) : Prop :=
  ∃ w, (W.waits s)[i]? = some w ∧ w.settlement.isSome = true

theorem settled_or_open (here : (W.waits s)[i]? = some w) : W.Settled i s ∨ W.Open i s := by
  cases settlement : w.settlement with
  | none => exact .inr ⟨w, here, settlement⟩
  | some settled => exact .inl ⟨w, here, by rw [settlement, Option.isSome_some]⟩

/-- An open wait can always take a step of its own, and a rank says how many it has to take
at most; the other steps leave the wait where it is. -/
structure Advance (W : Waits σ ℓ ρ) (C : σ → ℓ → Prop) (i : Nat) (rank : σ → Nat) : Prop where
  enabled : ∀ s, W.system.Reaches C s → W.Open i s → W.system.Enabled (W.own i) s
  own : ∀ s l t, W.system.Reaches C s → W.Open i s → C s l → W.own i l →
    W.system.step s l = some t → W.Settled i t ∨ W.Open i t ∧ rank t < rank s
  others : ∀ s l t, W.Open i s → ¬W.own i l → W.system.step s l = some t →
    (∃ w, (W.waits t)[i]? = some w) ∧ rank t = rank s

/-- A wait is settled in the end, where its own steps are not put off for ever. -/
theorem Advance.settles {rank : σ → Nat} (advance : W.Advance C i rank)
    (e : W.system.Execution C) (fair : e.WeaklyFair (W.own i)) (n : Nat)
    (here : (W.waits (e.state n))[i]? = some w) : ∃ m, n ≤ m ∧ W.Settled i (e.state m) := by
  rcases settled_or_open here with settled | opened
  · exact ⟨n, Nat.le_refl n, settled⟩
  · apply e.eventually_of_rank rank fair advance.enabled _ _ n opened
    · intro s l t reached opened holds taken
      -- A step of the wait itself brings it on, any other leaves its rank.
      by_cases own : W.own i l
      · rcases advance.own s l t reached opened holds own taken with settled | ⟨still, nearer⟩
        · exact .inl settled
        · exact .inr ⟨still, Nat.le_of_lt nearer⟩
      · obtain ⟨⟨v, kept⟩, same⟩ := advance.others s l t opened own taken
        rcases settled_or_open kept with settled | still
        · exact .inl settled
        · exact .inr ⟨still, Nat.le_of_eq same⟩
    · intro s l t reached opened own holds taken
      exact advance.own s l t reached opened holds own taken

/-! ## Waits that are seen of a pool -/

section Pool

variable {α : Type} {calls : σ → List α} {view : α → Wait ρ}

theorem read_view (seen : W.waits s = (calls s).map view) (here : (W.waits s)[i]? = some w) :
    ∃ a, (calls s)[i]? = some a ∧ view a = w := by
  rw [seen, List.getElem?_map] at here
  exact Option.map_eq_some_iff.mp here

theorem view_read (seen : W.waits s = (calls s).map view) {a : α}
    (here : (calls s)[i]? = some a) : (W.waits s)[i]? = some (view a) := by
  rw [seen, List.getElem?_map, here, Option.map_some]

/-- The waits of a session are what is seen of its calls, of which each keeps something with
what has occurred since it began. -/
structure Pooled (W : Waits σ ℓ ρ) (C : σ → ℓ → Prop) (calls : σ → List α) (view : α → Wait ρ)
    (Kept : Nat → α → List Occurrence → Prop) : Prop where
  seen : ∀ s, W.waits s = (calls s).map view
  tracked : ∀ r, (W.system.recorded W.occurs).Reaches (fun s => C s.1) r →
    Pool.Tracked (fun i a => .began i (view a).generationId) Kept r.2 (calls r.1)
  stays : ∀ s l t, W.system.Reaches C s → C s l → W.system.step s l = some t →
    ∀ (i : Nat) a, (calls s)[i]? = some a → ∃ a', (calls t)[i]? = some a' ∧
      (view a').generationId = (view a).generationId ∧
      ((view a).settlement.isSome = true → view a' = view a)
  released : ∀ (i : Nat) a history, Kept i a history → (view a).settlement.isSome = true →
    (view a).created = false ∧ (view a).error = false ∧ (view a).timer = false

theorem Pooled.settle {Kept : Nat → α → List Occurrence → Prop}
    {due : String → Nat → List Occurrence → Option ρ → Prop} {rank : Nat → σ → Nat}
    (pooled : W.Pooled C calls view Kept)
    (owed : ∀ i a history, Kept i a history →
      due (view a).generationId i history (view a).settlement)
    (advance : ∀ i, W.Advance C i (rank i)) : WaitsSettle W C due where
  by_due r reached i w here := by
    obtain ⟨a, found, rfl⟩ := read_view (pooled.seen r.1) here
    obtain ⟨before, after, same, kept⟩ := pooled.tracked r reached i a found
    exact ⟨before, after, same, owed i a after kept⟩
  once s l t reached holds taken i w here := by
    obtain ⟨a, found, rfl⟩ := read_view (pooled.seen s) here
    obtain ⟨a', found', same, settled⟩ := pooled.stays s l t reached holds taken i a found
    exact ⟨view a', view_read (pooled.seen t) found', same, settled⟩
  released s reached w member settled := by
    obtain ⟨i, here⟩ := List.mem_iff_getElem?.mp member
    obtain ⟨a, found, rfl⟩ := read_view (pooled.seen s) here
    -- What has occurred before does not matter, so any record of the run will do.
    obtain ⟨record, recorded⟩ := reached.with_record W.occurs
    obtain ⟨history, kept⟩ := (pooled.tracked _ recorded).property found
    exact pooled.released i a history kept settled
  settles e n i w fair here := by
    obtain ⟨m, later, w', found, settled⟩ := (advance i).settles e fair n here
    exact ⟨m, w', later, found, settled⟩

end Pool

end Waits

end VoxRtc.Responses
