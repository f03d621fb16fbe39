import VoxRtc.TypeScript.Client
import VoxRtc.Go.Client
import VoxRtc.Python.Client

/-!
# Who disconnects a socket

Only the socket that a client holds is ever asked to disconnect. Whether a socket that has been
asked to connect is the one that is held depends, in each of the three clients, on the order in
which calls are made; a socket that has been left alone stays so.
-/
namespace VoxRtc.Clients

open Correlation Transition

universe u v

/-- What a client does with its sockets, in every run. -/
structure Holds {σ : Type u} {ℓ : Type v} (M : System σ ℓ) (Proper : σ → ℓ → Prop)
    (sockets : σ → Sockets) : Prop where
  /-- All sockets that have been asked to connect, and not to disconnect since, are held exactly
  if the steps of the run are proper. -/
  owned : ∀ steps c, M.run M.init steps = some c →
    ((sockets c).Owned ↔ M.Meets Proper M.init steps)
  /-- A socket that has been left alone stays so. -/
  lasting : ∀ steps later c d i, M.run M.init steps = some c → M.run c later = some d →
    (sockets c).LeftAlone i → (sockets d).LeftAlone i

/-- The clients of the three server SDKs. -/
structure HoldWhatTheyConnect : Prop where
  typescript : Holds TypeScript.Client.client TypeScript.Client.VoxRtcServerClient.Proper
    (·.sockets)
  go : Holds Go.Server.client Go.Server.Client.Proper (·.sockets)
  python : Holds Python.Client.client Python.Client.VoxRtcServerClient.Proper (·.sockets)

theorem within_initial : Holder.Within (α := Socket) {} := by
  intro i held
  cases held

section Steps

variable {σ : Type u} {ℓ : Type v} {M : System σ ℓ} {Proper : σ → ℓ → Prop} {sockets : σ → Sockets}
  (Sound : σ → Prop)
  (each : ∀ s l t, Sound s → M.step s l = some t →
    Sound t ∧ Sockets.Moves (Proper s l) (sockets s) (sockets t))

include each

theorem leftAlone_run {s t : σ} {steps : List ℓ} {i : Nat} (sound : Sound s)
    (ran : M.run s steps = some t) (lost : (sockets s).LeftAlone i) :
    Sound t ∧ (sockets t).LeftAlone i := by
  induction steps generalizing s with
  | nil =>
    cases ran
    exact ⟨sound, lost⟩
  | cons l steps ih =>
    obtain ⟨u, taken, rest⟩ := Option.bind_eq_some_iff.mp ran
    obtain ⟨kept, moves⟩ := each s l u sound taken
    exact ih kept rest (moves.leftAlone lost)

/-- It is enough that each step makes moves that are proper exactly if the step is. -/
theorem holds_of_moves (start : Sound M.init) (owned : (sockets M.init).Owned) :
    Holds M Proper sockets where
  owned steps c ran := by
    have kept := run_iff_meets (M := M) (C := Proper) Sound (fun s => (sockets s).Owned)
      (fun s l t sound taken => (each s l t sound taken).imp_right Sockets.Moves.owned_iff) start ran
    rw [kept, and_iff_right owned]
  lasting steps later c d i ran more lost := by
    have sound : Sound c := by
      refine (System.leads_of_run steps (System.meets_always steps) ran).preserves ?_ start
      exact fun s l t sound _ taken => (each s l t sound taken).1
    exact (leftAlone_run Sound each sound more lost).2

end Steps

theorem clients_hold_sockets : HoldWhatTheyConnect where
  typescript := holds_of_moves (fun c => c.sockets.Within)
    (fun c l next within taken => by
      have moves := TypeScript.Client.step_moves within taken
      exact ⟨moves.within within, moves⟩) within_initial Sockets.owned_initial
  go := holds_of_moves Go.Server.Client.Sound
    (fun c l next sound taken => by
      have kept := Go.Server.step_kept sound taken
      exact ⟨⟨kept.moves.within sound.held, kept.calls⟩, kept.moves⟩)
    ⟨within_initial, by simp [Go.Server.client]⟩ Sockets.owned_initial
  python := holds_of_moves (fun c => c.sockets.Within)
    (fun c l next within taken => by
      have moves := Python.Client.step_moves within taken
      exact ⟨moves.within within, moves⟩) within_initial Sockets.owned_initial

/-- In TypeScript a listener may call `connect` inside `socket.disconnect()`. -/
example : (TypeScript.Client.client.run {}
    [.connect false, .disconnect, .reports 0 .disconnected, .connect false,
      .disconnected true]).map (·.sockets) =
      some ⟨none, [⟨.disconnected, true⟩]⟩ := rfl

/-- In Go a `Disconnect` may come between the two calls of `Connect`. -/
example : (Go.Server.client.run {}
    [.connect false false, .checks 0, .disconnect, .releases, .calls 0 true]).map (·.sockets) =
      some ⟨none, [⟨.disconnected, true⟩]⟩ := rfl

/-- In Python a second `disconnect` lets go of a socket that it has not disconnected. -/
example : (Python.Client.client.run {}
    [.connect false, .disconnect, .disconnect, .awaited 1 true, .connect false,
      .awaited 2 true]).map (·.sockets) =
      some ⟨none, [⟨.disconnected, false⟩, ⟨.disconnected, true⟩]⟩ := rfl

end VoxRtc.Clients
