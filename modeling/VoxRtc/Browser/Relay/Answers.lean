import VoxRtc.Browser.Relay.Go
import VoxRtc.Browser.Relay.Elixir

/-!
# Offers and answers by way of the gateways

The signaling client has the same promise of every gateway: an offer resolves with what Vox has
replied to that offer.
-/
namespace VoxRtc.Browser

open Transition Correlation Wire VoxRtc.Gateway

/-- In every run, each settled offer has been settled on its own account. -/
def SettlesOwn {σ κ ε : Type} (R : Relay σ κ Outgoing ε (Frame Binary64) String AskedOffer)
    (events : Events ε) : Prop :=
  ∀ w, (conversation R events).Reaches always w →
    ∀ s ∈ w.client.settlements, Conversation.Settles events w s.1 s.2

/-- How the numbers that each gateway writes are read by the browser. -/
structure Shown where
  typescript : Binary64 → Binary64
  rust : SerdeNumber → Binary64
  go : Finite64 → Binary64
  python : PythonNumber → Binary64
  elixir : Elixir.Number → Binary64

/-- Through each of the gateways, whatever Vox sends, whichever calls fail and in whatever order
events and messages arrive, an offer is settled by what Vox has replied to it, by the failure of
its own frame, or by no frame. -/
theorem gateways_answer_own (printer : Printer) (shown : Shown) (outside : Go.Gateway.Conversion)
    (lib : Elixir.Libraries) :
    SettlesOwn (dialectRelay TypeScript.Gateway.dialect (fun f => jsonParse (f.text printer))
      shown.typescript) (wireEvents shown.typescript) ∧
    SettlesOwn (dialectRelay Rust.Gateway.dialect (fun f => .text (fromStr (f.text printer)))
      shown.rust) (wireEvents shown.rust) ∧
    SettlesOwn (goRelay outside printer shown.go) (wireEvents shown.go) ∧
    SettlesOwn (dialectRelay Python.Gateway.dialect (fun f => .text (loads (f.text printer)))
      shown.python) (wireEvents shown.python) ∧
    SettlesOwn (elixirRelay lib printer shown.elixir) (elixirEvents shown.elixir) :=
  ⟨fun _ => Conversation.settles_own (dialect_correlates (typescript_reads printer)),
    fun _ => Conversation.settles_own (dialect_correlates (rust_reads printer)),
    fun _ => Conversation.settles_own go_correlates,
    fun _ => Conversation.settles_own (dialect_correlates (python_reads printer)),
    fun _ => Conversation.settles_own elixir_correlates⟩

def readyFrame : Frame Binary64 :=
  ⟨none, "gateway.ready", [("session", .obj [("sessionId", .str "s"), ("iceServers", .arr [])])]⟩

/-- No number matters here. -/
def unseen : Shown := ⟨fun _ => .nan, fun _ => .nan, fun _ => .nan, fun _ => .nan, fun _ => .nan⟩

def elixirTalk := conversation (elixirRelay .small .plain unseen.elixir) (elixirEvents unseen.elixir)

def goTalk := conversation (goRelay Go.Gateway.amd64 .plain unseen.go) (wireEvents unseen.go)

/-- An offer by way of the Elixir gateway, with its answer. -/
def answeredRun : List (ConversationStep (Except Elixir.Term Unit) Elixir.Event) :=
  [.socketOpens, .beyond (.announce readyFrame), .receive 0,
    .exchangeOffer (description "v=0") false, .beyond (.read (.ok ())),
    .beyond (.reply (.answer ⟨"answer", "v=1", none⟩)), .beyond (.hear 0 (.ok ())), .receive 0]

/-- An offer by way of the Go gateway that times out before its answer arrives. -/
def lateRun : List (ConversationStep GoChoice (WireEvent Finite64)) :=
  [.socketOpens, .beyond (.announce readyFrame), .receive 0,
    .exchangeOffer (description "v=0") false, .beyond (.read (.proceed none)),
    .beyond (.move (.sendOffer none)), .beyond (.move .settle),
    .beyond (.reply ⟨"rtc.answer", []⟩), .timeout "offer-1",
    .beyond (.hear 0 (.proceed none)), .receive 0]

theorem answeredRun_settles : (elixirTalk.run elixirTalk.init answeredRun).map
    (·.client.settlements) = some [("offer-1", .resolved "v=1" (.reply "offer-1"))] := rfl

theorem lateRun_settles : (goTalk.run goTalk.init lateRun).map (·.client.settlements) =
    some [("offer-1", .timedOut)] := rfl

theorem gateways_answer_own_run :
    (∃ w, elixirTalk.run elixirTalk.init answeredRun = some w ∧
      ("offer-1", .resolved "v=1" (.reply "offer-1")) ∈ w.client.settlements ∧
      Conversation.Settles (elixirEvents unseen.elixir) w "offer-1"
        (.resolved "v=1" (.reply "offer-1"))) ∧
    ∃ w, goTalk.run goTalk.init lateRun = some w ∧
      ("offer-1", .timedOut) ∈ w.client.settlements ∧
      Conversation.Settles (wireEvents unseen.go) w "offer-1" .timedOut := by
  have own := gateways_answer_own .plain unseen Go.Gateway.amd64 .small
  obtain ⟨v, answered, settled⟩ := Option.map_eq_some_iff.mp answeredRun_settles
  obtain ⟨w, late, timedOut⟩ := Option.map_eq_some_iff.mp lateRun_settles
  have first : ("offer-1", .resolved "v=1" (.reply "offer-1")) ∈ v.client.settlements := by
    rw [settled]
    exact List.mem_singleton_self _
  have second : ("offer-1", .timedOut) ∈ w.client.settlements := by
    rw [timedOut]
    exact List.mem_singleton_self _
  refine ⟨⟨v, answered, first, ?_⟩, w, late, second, ?_⟩
  · exact own.2.2.2.2 v (System.reaches_of_run answeredRun answered) _ first
  · exact own.2.2.1 w (System.reaches_of_run lateRun late) _ second

end VoxRtc.Browser
