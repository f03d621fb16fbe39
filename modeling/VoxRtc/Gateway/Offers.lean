import VoxRtc.Go.Gateway.Offers
import VoxRtc.Python.Gateway.Frames
import VoxRtc.Rust.Gateway.Frames
import VoxRtc.TypeScript.Gateway.Frames

/-!
# One outstanding offer in the four gateways

The error path of a command clears the pending offer id whenever the failing frame
carries it, whatever the frame asks for. Where no frame does that, each gateway keeps
one offer outstanding and its answer carries that offer's id.
-/
namespace VoxRtc.Gateway

open Transition Correlation Wire

theorem offers_correlated {outside : Go.Gateway.Conversion} {t r p : Connection}
    {g : Go.Gateway.GatewaySession}
    (typeScript : TypeScript.Gateway.connection.Reaches
      (Undisturbed TypeScript.Gateway.dialect) t)
    (rust : Rust.Gateway.connection.Reaches (Undisturbed Rust.Gateway.dialect) r)
    (go : (Go.Gateway.connection outside).Reaches Go.Gateway.GatewaySession.Undisturbed g)
    (python : Python.Gateway.connection.Reaches (Undisturbed Python.Gateway.dialect) p) :
    t.history.Orderly ∧ r.history.Orderly ∧ g.history.Orderly ∧ p.history.Orderly :=
  ⟨orderly_of_undisturbed typeScript, orderly_of_undisturbed rust,
    Go.Gateway.orderly_of_undisturbed go,
    orderly_of_undisturbed (Python.Gateway.connection_eq ▸ python)⟩

section Runs

variable {ν : Type}

def commandLabels {ρ : Type} (wrap : Json ν → ρ) (frames : List (Json ν)) : List (Label ρ ν) :=
  frames.map fun frame => .frame (wrap frame) .done true

def answerLabel (ρ ν : Type) : Label ρ ν := .event ⟨"rtc.answer", []⟩ true

/-- An offer, a candidate under the same id, its answer, the next offer. -/
def orderlyRun {ρ : Type} (wrap : Json ν → ρ) : List (Label ρ ν) :=
  commandLabels wrap [offerFrame "a", candidateFrame "a"] ++
    answerLabel ρ ν :: commandLabels wrap [offerFrame "b"]

/-- An offer, an unknown command under the same id, a second offer, one answer. -/
def crossingRun {ρ : Type} (wrap : Json ν → ρ) : List (Label ρ ν) :=
  commandLabels wrap [offerFrame "a", browserFrame "a" "noop" [], offerFrame "b"] ++
    [answerLabel ρ ν]

def goConnection : System Go.Gateway.GatewaySession Go.Gateway.Label :=
  Go.Gateway.connection Go.Gateway.amd64

def goOrderlyRun : List Go.Gateway.Label :=
  [.read (some (offerFrame "a")), .sendOffer, .settle, .read (some (candidateFrame "a")),
    .takeEvent "rtc.answer", .writeAnswer 0, .read (some (offerFrame "b")), .sendOffer]

def goCrossingRun : List Go.Gateway.Label :=
  [.read (some (offerFrame "a")), .sendOffer, .settle, .read (some (browserFrame "a" "noop" [])),
    .clear, .read (some (offerFrame "b")), .sendOffer, .settle, .takeEvent "rtc.answer",
    .writeAnswer 0]

end Runs

def crossed : History String := [.answered (some "b"), .forwarded "b", .forwarded "a"]

theorem offers_correlated_run :
    let inOrder : History String := [.forwarded "b", .answered (some "a"), .forwarded "a"]
    inOrder.Orderly ∧
    (∃ c, TypeScript.Gateway.connection.run TypeScript.Gateway.connection.init (orderlyRun some) =
      some c ∧ c.history = inOrder ∧ c.history.Orderly) ∧
    (∃ c, Rust.Gateway.connection.run Rust.Gateway.connection.init
      (orderlyRun fun frame => .text (some frame)) = some c ∧ c.history = inOrder ∧
        c.history.Orderly) ∧
    (∃ c, goConnection.run goConnection.init goOrderlyRun = some c ∧
      c.history = inOrder ∧ c.history.Orderly) ∧
    (∃ c, Python.Gateway.connection.run Python.Gateway.connection.init
      (orderlyRun fun frame => .text (some frame)) = some c ∧ c.history = inOrder ∧
        c.history.Orderly) := by
  have reachedT := System.leads_of_run (M := TypeScript.Gateway.connection)
    (C := Undisturbed TypeScript.Gateway.dialect) (s := TypeScript.Gateway.connection.init)
    (orderlyRun some) (by decide) rfl
  have reachedR := System.leads_of_run (M := Rust.Gateway.connection)
    (C := Undisturbed Rust.Gateway.dialect) (s := Rust.Gateway.connection.init)
    (orderlyRun fun frame => .text (some frame)) (by decide) rfl
  have reachedG := System.leads_of_run (M := goConnection)
    (C := Go.Gateway.GatewaySession.Undisturbed) (s := goConnection.init)
    goOrderlyRun (by decide) rfl
  have reachedP := System.leads_of_run (M := Python.Gateway.connection)
    (C := Undisturbed Python.Gateway.dialect) (s := Python.Gateway.connection.init)
    (orderlyRun fun frame => .text (some frame)) (by decide) rfl
  obtain ⟨inT, inR, inG, inP⟩ := offers_correlated reachedT reachedR reachedG reachedP
  exact ⟨by decide, ⟨_, rfl, rfl, inT⟩, ⟨_, rfl, rfl, inR⟩, ⟨_, rfl, rfl, inG⟩, ⟨_, rfl, rfl, inP⟩⟩

theorem offers_cross :
    ¬crossed.Orderly ∧
    (∃ c, TypeScript.Gateway.connection.run TypeScript.Gateway.connection.init (crossingRun some) =
      some c ∧ c.history = crossed) ∧
    (∃ c, Rust.Gateway.connection.run Rust.Gateway.connection.init
      (crossingRun fun frame => .text (some frame)) = some c ∧ c.history = crossed) ∧
    (∃ c, goConnection.run goConnection.init goCrossingRun = some c ∧
      c.history = crossed) ∧
    (∃ c, Python.Gateway.connection.run Python.Gateway.connection.init
      (crossingRun fun frame => .text (some frame)) = some c ∧ c.history = crossed) :=
  ⟨by decide, ⟨_, rfl, rfl⟩, ⟨_, rfl, rfl⟩, ⟨_, rfl, rfl⟩, ⟨_, rfl, rfl⟩⟩

end VoxRtc.Gateway
