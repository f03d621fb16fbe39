import VoxRtc.Browser.Texts

/-!
# What the gateways take the client for

The calls of `GatewaySignalingClient`, and what the five gateways do on the texts of their
frames. The gateways differ in what they hold for blank, so an SDP text or a reason of white
space need not come to the same everywhere.
-/
namespace VoxRtc.Browser

open Wire VoxRtc.Gateway

/-- Integers in digits, and the other numbers as they are. -/
def plainDigits (x : Finite64) : Literal :=
  if x.isIntegral ∧ x.trunc.natAbs < 2 ^ 53 then .int x.trunc else .float x

theorem plainDigits_value (x : Finite64) :
    ∃ y, (plainDigits x).double = .finite y ∧ y.toRat = x.toRat := by
  unfold plainDigits
  split
  next whole =>
    have same := Finite64.isIntegral_iff.mp whole.1
    rcases ofInt_cases x.trunc with ⟨_, y, double, scaled, one⟩ | ⟨wide, _⟩
    · refine ⟨y, double, ?_⟩
      rw [Finite64.toRat_eq_int.mpr same, Finite64.toRat_eq_int, scaled, one, mul_one]
    · omega
  · exact ⟨x, rfl, rfl⟩

theorem plainDigits_counter (n : Nat) (small : n < 2 ^ 53) :
    plainDigits ⟨false, n, 0, small, Finite64.ranged_zero⟩ = .int n := by
  have scaled : Finite64.scaled ⟨false, n, 0, small, Finite64.ranged_zero⟩ = n := by
    simp [Finite64.scaled, Finite64.signed]
  have one : Finite64.scale ⟨false, n, 0, small, Finite64.ranged_zero⟩ = 1 := rfl
  have trunc : Finite64.trunc ⟨false, n, 0, small, Finite64.ranged_zero⟩ = n := by
    rw [Finite64.trunc, scaled, one, Int.tdiv_one]
  have integral : Finite64.isIntegral ⟨false, n, 0, small, Finite64.ranged_zero⟩ = true := by
    rw [Finite64.isIntegral_iff, scaled, trunc, one, mul_one]
  rw [plainDigits, if_pos ⟨integral, by omega⟩, trunc]

def Printer.plain : Printer := ⟨plainDigits, plainDigits_value, plainDigits_counter⟩

def Taken.All (taken : Taken) (p : Except CommandError Meaning → Prop) : Prop :=
  p taken.typescript ∧ p taken.rust ∧ p taken.go ∧ p taken.python ∧ p taken.elixir

/-- What `toJSON` of a candidate yields. -/
structure CandidateInit where
  candidate : String
  sdpMid : Option String
  sdpMLineIndex : Option (Fin (2 ^ 16))
  usernameFragment : Option String

namespace CandidateInit

def textField (s : Option String) : Json Binary64 := (s.map .str).getD .null

def indexField (n : Option (Fin (2 ^ 16))) : Json Binary64 :=
  (n.map fun n => .num (Binary64.ofCount n)).getD .null

def toJSON (c : CandidateInit) : Json Binary64 :=
  .obj [("candidate", .str c.candidate), ("sdpMid", textField c.sdpMid),
    ("sdpMLineIndex", indexField c.sdpMLineIndex),
    ("usernameFragment", textField c.usernameFragment)]

def forwarded (c : CandidateInit) : Forwarded where
  candidate := c.candidate
  sdpMid := .text c.sdpMid
  sdpMLineIndex := .number (c.sdpMLineIndex.map fun (n : Fin _) => some ((n : Nat) : ℚ))
  usernameFragment := .text c.usernameFragment

end CandidateInit

/-- A local description that is an offer. -/
def description (sdp : String) : Json Binary64 := .obj [("type", .str "offer"), ("sdp", .str sdp)]

/-- A call on the client. -/
inductive ClientCall where
  | exchangeOffer (sdp : String) (restart : Bool)
  | sendCandidate (candidate : Option CandidateInit)
  | close (reason : String)

namespace ClientCall

def candidateJson (candidate : Option CandidateInit) : Json Binary64 :=
  (candidate.map CandidateInit.toJSON).getD .null

/-- The frame that a call sends, if it sends one. -/
def sent (c : SignalingClient) : ClientCall → Option Outgoing
  | exchangeOffer sdp restart => (c.exchangeOffer (description sdp) restart).2
  | sendCandidate candidate => (c.sendCandidate (candidateJson candidate)).2
  | close reason => (c.close reason).2

def command : ClientCall → Command
  | exchangeOffer .. => .offer
  | sendCandidate _ => .candidate
  | close _ => .close

/-- The generation that a call is for. -/
def generation (c : SignalingClient) : ClientCall → Nat
  | exchangeOffer .. => c.negotiationGeneration + 1
  | _ => c.negotiationGeneration

def meaning (c : SignalingClient) : ClientCall → Meaning
  | exchangeOffer sdp restart => .offer sdp restart (some (c.negotiationGeneration + 1))
  | sendCandidate candidate =>
    .candidate (candidate.map CandidateInit.forwarded) (some c.negotiationGeneration)
  | close reason => .close reason

def data (c : SignalingClient) : ClientCall → Members Binary64
  | exchangeOffer sdp restart => offerData (description sdp) restart (c.negotiationGeneration + 1)
  | sendCandidate candidate => candidateData (candidateJson candidate) c.negotiationGeneration
  | close reason => [("reason", .str reason)]

/-- What every gateway takes a call for: the SDP text is blank for none of them, the generation
is a safe integer, and the reason is not blank, for which Go has a reason of its own. -/
def Plain (c : SignalingClient) : ClientCall → Prop
  | exchangeOffer sdp _ => c.negotiationGeneration + 1 ≤ maxSafeInteger ∧
      TypeScript.Gateway.trim sdp ≠ "" ∧ Python.Gateway.strip sdp ≠ ""
  | sendCandidate _ => c.negotiationGeneration ≤ maxSafeInteger
  | close reason => Go.Gateway.trimSpace reason ≠ ""

instance (c : SignalingClient) : (call : ClientCall) → Decidable (call.Plain c)
  | exchangeOffer .. => inferInstanceAs (Decidable (_ ∧ _ ∧ _))
  | sendCandidate _ => inferInstanceAs (Decidable (_ ≤ _))
  | close _ => inferInstanceAs (Decidable (_ ≠ _))

/-- A frame has what its call gives it, and a generation from one on. -/
theorem sent_data {c : SignalingClient} {call : ClientCall} {f : Outgoing}
    (frame : call.sent c = some f) :
    f.command = call.command ∧ f.data = call.data c ∧
      (call.command ≠ .close → 1 ≤ call.generation c) := by
  cases call with
  | exchangeOffer sdp restart =>
    simp only [sent, SignalingClient.exchangeOffer] at frame
    split at frame
    · cases frame
      exact ⟨rfl, rfl, fun _ => Nat.succ_pos _⟩
    · cases frame
  | sendCandidate candidate =>
    simp only [sent, SignalingClient.sendCandidate] at frame
    split at frame
    · cases frame
    next offered =>
      simp only [Option.ite_none_right_eq_some, Option.some.injEq] at frame
      obtain ⟨_, rfl⟩ := frame
      exact ⟨rfl, rfl, fun _ => Nat.le_of_not_lt offered⟩
  | close reason =>
    simp only [sent, SignalingClient.close] at frame
    split at frame
    · cases frame
    · split at frame
      · cases frame
        exact ⟨rfl, rfl, fun other => (other rfl).elim⟩
      · cases frame

end ClientCall

/-! ## Members of a text -/

section Members

variable {ν ε α β : Type} {printer : Printer}

theorem bind_eq_ok {x : Except ε α} {f : α → Except ε β} {b : β} :
    x >>= f = .ok b ↔ ∃ a, x = .ok a ∧ f a = .ok b := by
  cases x with
  | error e => simp [bind, Except.bind]
  | ok a => simp [bind, Except.bind]

theorem ok_bind (a : α) (f : α → Except ε β) : Except.ok a >>= f = f a := rfl

theorem get?_text (number : Literal → ν) (data : Members Binary64) (key : String) :
    (inDomain number (printed printer data)).get? key =
      (data.get? key).map fun value => (stringify printer value).mapNumbers number := by
  rw [get?_inDomain, get?_printed, Option.map_map]
  rfl

end Members

section Blank

variable {space : Char → Bool} {s : String}

theorem solid_of_trimmed (kept : trimWith space s ≠ "") : ∃ c ∈ s.toList, space c = false := by
  by_contra none
  apply kept
  have blank : ∀ c ∈ s.toList, space c = true := by
    intro c member
    by_contra solid
    exact none ⟨c, member, by simpa using solid⟩
  rw [trimWith, List.dropWhile_eq_nil_iff.mpr blank]
  rfl

/-- What Python holds for blank is more than what Unicode does. -/
theorem white_of_python (kept : Python.Gateway.strip s ≠ "") : trimWith whiteSpace s ≠ "" := by
  obtain ⟨c, member, solid⟩ := solid_of_trimmed kept
  simp only [pythonSpace, Bool.or_eq_false_iff] at solid
  exact trimWith_ne_empty member solid.2

theorem named_of_trimmed (kept : trimWith space s ≠ "") : s ≠ "" := by
  rintro rfl
  exact kept rfl

end Blank

/-! ## Offers -/

section Offers

variable {ν κ : Type} {outside : Go.Gateway.Conversion} {printer : Printer} {sdp : String}
  {restart : Bool} {generation : Nat}

/-- The members of an offer. -/
theorem offer_members (sdp : String) (restart : Bool) (generation : Nat) :
    let data := offerData (description sdp) restart generation
    data.get? "offer" = some (description sdp) ∧ data.get? "restart" = some (.bool restart) ∧
      data.get? "generation" = some (.num (Binary64.ofCount generation)) := by
  simp [offerData, Members.get?]

/-- The description, whatever numbers are decoded to. -/
theorem description_text (number : Literal → ν) :
    (stringify printer (description sdp)).mapNumbers number =
      .obj [("type", .str "offer"), ("sdp", .str sdp)] := by
  simp [description, stringify, stringify.ofMembers, Json.mapNumbers, Json.mapNumbers.ofMembers]

theorem restart_text (number : Literal → ν) :
    ((stringify printer (.bool restart)).mapNumbers number).isTrue = restart := by
  cases restart <;> rfl

/-- An offer is taken for what is meant if its generation is read and its text is not blank. -/
theorem offer_meant (printer : Printer) (restart : Bool) {integer? : Literal → Option Nat}
    {blank : Prop} [Decidable blank] {error : CommandError} {text : Except CommandError String}
    (positive : 1 ≤ generation)
    (sees : ∀ l n, integer? l = some n → valued l = some n)
    (counts : ∀ n, integer? (.int n) = spelled (.int n))
    (known : text = if blank then .error error else .ok sdp) :
    (do
      let g ← generationBy integer?
        (printed printer (offerData (description sdp) restart generation)) "rtc.offer" false
      let s ← text
      return Meaning.offer s restart g) = .ok (.offer sdp restart (some generation)) ↔
    generation ≤ maxSafeInteger ∧ ¬blank := by
  obtain ⟨_, _, given⟩ := offer_members sdp restart generation
  simp only [bind_eq_ok, generation_iff given positive sees counts]
  constructor
  · rintro ⟨g, ⟨safe, _⟩, s, solid, _⟩
    refine ⟨safe, fun empty => ?_⟩
    rw [known, if_pos empty] at solid
    cases solid
  · rintro ⟨safe, solid⟩
    exact ⟨some generation, ⟨safe, rfl⟩, sdp, known.trans (if_neg solid), rfl⟩

theorem command_offer {ρ : Type} (d : Dialect ρ ν κ) (flag : Bool) (id : String)
    (data : Members ν) : d.command flag ⟨id, "rtc.offer", data⟩ = do
      let generation ← d.generation data "rtc.offer" false
      let text ← d.offer (data.get? "offer")
      return .sendOffer text ((data.get? "restart").any Json.isTrue) generation := by
  simp [Dialect.command]

variable {f : Outgoing} (command : f.command = .offer)
  (data : f.data = offerData (description sdp) restart generation)

section Dialects

include command data

theorem offer_message (number : Literal → ν) : f.message printer number = ⟨f.id, "rtc.offer",
    inDomain number (printed printer (offerData (description sdp) restart generation))⟩ := by
  rw [Outgoing.message, command, data]
  rfl

theorem dialect_offer {ρ : Type} {integer? : Literal → Option Nat} (d : Dialect ρ ν κ)
    (number : Literal → ν) (forwarded : κ → Forwarded) (flag : Bool)
    (numbers : ∀ data, d.generation (inDomain number data) "rtc.offer" false =
      generationBy integer? data "rtc.offer" false) :
    (do
      let call ← d.command flag (f.message printer number)
      return meaningOf forwarded call) = do
      let g ← generationBy integer?
        (printed printer (offerData (description sdp) restart generation)) "rtc.offer" false
      let s ← d.offer (some (.obj [("type", .str "offer"), ("sdp", .str sdp)]))
      return Meaning.offer s restart g := by
  obtain ⟨offer, restarts, _⟩ :=
    offer_members sdp restart generation
  rw [offer_message command data, command_offer, numbers, get?_text, get?_text, offer, restarts]
  simp only [Option.map_some, description_text, Option.any_some, restart_text, bind_assoc,
    pure_bind, meaningOf]

end Dialects

section Gateways

variable (positive : 1 ≤ generation)
include command data positive

theorem typescript_offer (flag : Bool) (lib : Elixir.Libraries) :
    (f.taken printer outside lib flag).typescript = .ok (.offer sdp restart (some generation)) ↔
      generation ≤ maxSafeInteger ∧ TypeScript.Gateway.trim sdp ≠ "" := by
  have text : TypeScript.Gateway.dialect.offer
      (some (.obj [("type", .str "offer"), ("sdp", .str sdp)])) =
      if TypeScript.Gateway.trim sdp = "" then
        .error (.plain "rtc.offer requires a non-empty SDP offer") else .ok sdp := by
    simp [TypeScript.Gateway.dialect, TypeScript.Gateway.sessionDescription, Json.object?,
      Members.get?]
  have numbers : ∀ data, TypeScript.Gateway.dialect.generation (inDomain Literal.double data)
      "rtc.offer" false = generationBy valued data "rtc.offer" false := fun data =>
    typescript_generation data _ _
  rw [Outgoing.taken, typescript_takes, ok_bind,
    dialect_offer command data TypeScript.Gateway.dialect _ _ _ numbers]
  exact offer_meant printer restart positive (fun _ _ seen => seen) valued_int text

theorem rust_offer (flag : Bool) (lib : Elixir.Libraries) :
    (f.taken printer outside lib flag).rust = .ok (.offer sdp restart (some generation)) ↔
      generation ≤ maxSafeInteger ∧ Rust.Gateway.trim sdp ≠ "" := by
  have text : Rust.Gateway.dialect.offer (some (.obj [("type", .str "offer"), ("sdp", .str sdp)])) =
      if Rust.Gateway.trim sdp = "" then
        .error (.plain "rtc.offer requires a non-empty SDP offer") else .ok sdp := by
    simp [Rust.Gateway.dialect, Rust.Gateway.offer, Json.object?, Members.get?, Json.str?]
  have numbers : ∀ data, Rust.Gateway.dialect.generation (inDomain Literal.serde data)
      "rtc.offer" false = generationBy spelled data "rtc.offer" false := fun data =>
    rust_generation data _ _
  rw [Outgoing.taken, rust_takes, ok_bind,
    dialect_offer command data Rust.Gateway.dialect _ _ _ numbers]
  exact offer_meant printer restart positive (fun _ _ => spelled_valued) (fun _ => rfl) text

theorem python_offer (flag : Bool) (lib : Elixir.Libraries) :
    (f.taken printer outside lib flag).python = .ok (.offer sdp restart (some generation)) ↔
      generation ≤ maxSafeInteger ∧ Python.Gateway.strip sdp ≠ "" := by
  have text : Python.Gateway.dialect.offer
      (some (.obj [("type", .str "offer"), ("sdp", .str sdp)])) =
      if Python.Gateway.strip sdp = "" then
        .error (.plain "rtc.offer requires a non-empty SDP offer") else .ok sdp := by
    simp [Python.Gateway.dialect, Python.Gateway.offer, Json.object?, Members.get?]
  have numbers : ∀ data, Python.Gateway.dialect.generation (inDomain Literal.python data)
      "rtc.offer" false = generationBy spelled data "rtc.offer" false := fun data =>
    python_generation data _ _
  rw [Outgoing.taken, python_takes, ok_bind,
    dialect_offer command data Python.Gateway.dialect _ _ _ numbers]
  exact offer_meant printer restart positive (fun _ _ => spelled_valued) (fun _ => rfl) text

theorem go_offer (flag : Bool) (lib : Elixir.Libraries) :
    (f.taken printer outside lib flag).go = .ok (.offer sdp restart (some generation)) ↔
      generation ≤ maxSafeInteger ∧ Go.Gateway.trimSpace sdp ≠ "" := by
  obtain ⟨offer, restarts, _⟩ :=
    offer_members sdp restart generation
  -- The session checks the text, once the generation has been read.
  have text : (Go.Gateway.sendOffer ⟨"offer", sdp, restart, none⟩ >>= fun _ => Except.ok sdp) =
      if Go.Gateway.trimSpace sdp = "" then
        .error (.plain "RTC offer requires a non-empty SDP offer") else .ok sdp := by
    by_cases blank : Go.Gateway.trimSpace sdp = "" <;>
      simp [Go.Gateway.sendOffer, blank, bind, Except.bind]
  rw [Outgoing.taken, go_takes, ok_bind, offer_message command data,
    ← offer_meant printer restart positive (fun _ _ seen => seen)
      valued_int text]
  simp only [goMeaning, if_true, Go.Gateway.parseOffer, go_generation, get?_text, offer, restarts,
    Option.map_some, description_text, Option.bind_some, Json.object?, Option.any_some,
    restart_text, bind_assoc, pure_bind]
  by_cases blank : Go.Gateway.trimSpace sdp = "" <;>
    simp [Members.get?, Json.str?, Go.Gateway.sendOffer, blank] <;> rfl

theorem elixir_offer (flag : Bool) (lib : Elixir.Libraries) :
    (f.taken printer outside lib flag).elixir = .ok (.offer sdp restart (some generation)) ↔
      generation ≤ maxSafeInteger ∧ sdp ≠ "" := by
  obtain ⟨offer, restarts, _⟩ :=
    offer_members sdp restart generation
  have text : Elixir.Gateway.offer (some (.obj [("type", .str "offer"), ("sdp", .str sdp)])) =
      if sdp = "" then .error (.plain "rtc.offer requires a non-empty SDP offer") else .ok sdp := by
    by_cases blank : sdp = "" <;> simp [Elixir.Gateway.offer, Json.object?, Members.get?, blank]
  rw [Outgoing.taken]
  simp only [elixir_takes, ok_bind, offer_message command data]
  rw [← offer_meant printer restart positive
    (fun _ _ => spelled_valued) (fun _ => rfl) text]
  simp [Elixir.Gateway.Socket.command, elixir_generation, get?_text, offer, restarts,
    description_text, restart_text, meaningOf]

end Gateways

end Offers

/-! ## Candidates -/

section Candidates

variable {ν κ : Type} {outside : Go.Gateway.Conversion} {printer : Printer}
  {candidate : Option CandidateInit} {generation : Nat}

theorem candidate_members (candidate : Option CandidateInit) (generation : Nat) :
    let data := candidateData (ClientCall.candidateJson candidate) generation
    data.get? "candidate" = some (ClientCall.candidateJson candidate) ∧
      data.get? "generation" = some (.num (Binary64.ofCount generation)) := by
  simp [candidateData, Members.get?]

/-- The record of a candidate, in a text. -/
def CandidateInit.record (printer : Printer) (c : CandidateInit) : Members Literal :=
  printed printer [("candidate", .str c.candidate), ("sdpMid", textField c.sdpMid),
    ("sdpMLineIndex", indexField c.sdpMLineIndex),
    ("usernameFragment", textField c.usernameFragment)]

theorem stringify_candidate (c : CandidateInit) :
    stringify printer c.toJSON = .obj (c.record printer) := stringify_obj

theorem stringify_text (printer : Printer) (s : Option String) :
    stringify printer (CandidateInit.textField s) = (s.map .str).getD .null := by
  cases s <;> rfl

theorem stringify_index (printer : Printer) (n : Option (Fin (2 ^ 16))) :
    stringify printer (CandidateInit.indexField n) =
      (n.map fun n => .num (.int (n : Nat))).getD .null := by
  cases n with
  | none => rfl
  | some n =>
    have small : (n : Nat) < 2 ^ 53 := by omega
    simp only [CandidateInit.indexField, Option.map_some, Option.getD_some, Binary64.ofCount,
      dif_pos small, stringify, printer.counter n small]

theorem record_members (printer : Printer) (c : CandidateInit) : let record := c.record printer
    record.get? "candidate" = some (.str c.candidate) ∧
      record.get? "sdpMid" = some ((c.sdpMid.map .str).getD .null) ∧
      record.get? "sdpMLineIndex" =
        some ((c.sdpMLineIndex.map fun n => .num (.int (n : Nat))).getD .null) ∧
      record.get? "usernameFragment" = some ((c.usernameFragment.map .str).getD .null) := by
  intro record
  rw [← stringify_text printer c.sdpMid, ← stringify_index printer,
    ← stringify_text printer c.usernameFragment]
  simp only [record, CandidateInit.record, get?_printed]
  simp [Members.get?, stringify]

theorem plain_text (s : Option String) : PlainText (some ((s.map .str).getD .null)) := by
  cases s with
  | none => exact .null
  | some s => exact .text s

theorem plain_index (n : Option (Fin (2 ^ 16))) :
    PlainIndex (some ((n.map fun n => .num (.int (n : Nat))).getD .null)) := by
  cases n with
  | none => exact .null
  | some n => exact .index n (by omega)

theorem normalised_record (c : CandidateInit) :
    normalised c.candidate (c.record printer) = c.forwarded := by
  obtain ⟨_, mid, line, fragment⟩ := record_members printer c
  simp only [normalised, CandidateInit.forwarded, mid, line, fragment, Forwarded.mk.injEq, true_and]
  refine ⟨?_, ?_, ?_⟩
  · cases c.sdpMid <;> rfl
  · cases c.sdpMLineIndex <;> rfl
  · cases c.usernameFragment <;> rfl

/-- What is to become of a candidate. -/
def wanted (candidate : Option CandidateInit) : Decision :=
  match candidate with
  | none => .endOfCandidates
  | some c => .forward c.forwarded

theorem decision_text {missing : Decision} {forwarded : String → Members Literal → Forwarded}
    (same : ∀ c : CandidateInit, forwarded c.candidate (c.record printer) =
      normalised c.candidate (c.record printer)) :
    candidateBy missing forwarded (some (stringify printer (ClientCall.candidateJson candidate))) =
      wanted candidate := by
  cases candidate with
  | none => rfl
  | some c =>
    have shape : stringify printer (ClientCall.candidateJson (some c)) = .obj (c.record printer) :=
      stringify_candidate c
    rw [shape, named_forwarded (record_members printer c).1, same, normalised_record]
    rfl

/-- A candidate is forwarded alike by the gateways that share a decision with others. -/
theorem record_given (outside : Go.Gateway.Conversion) (c : CandidateInit) :
    given givenText typescriptIndex c.candidate (c.record printer) =
        normalised c.candidate (c.record printer) ∧
      given rustRaw rustRaw c.candidate (c.record printer) =
        normalised c.candidate (c.record printer) ∧
      given givenText (goIndex outside) c.candidate (c.record printer) =
        normalised c.candidate (c.record printer) ∧
      given givenText pythonIndex c.candidate (c.record printer) =
        normalised c.candidate (c.record printer) := by
  obtain ⟨_, mid, line, fragment⟩ := record_members printer c
  apply (plain_iff_given outside c.candidate (c.record printer)).mpr
  rw [mid, line, fragment]
  exact ⟨plain_text _, plain_index _, plain_text _⟩

/-- A decision tells what the candidate has been read as. -/
theorem decision_read {forwarded : κ → Forwarded} {parsed : Except CommandError (Option κ)}
    {g : Option Nat}
    (made : decisionOf forwarded (do
      let candidate ← parsed
      return .sendIceCandidate candidate g) = wanted candidate) :
    ∃ x, parsed = .ok x ∧ x.map forwarded = candidate.map CandidateInit.forwarded := by
  cases parsed with
  | error e => cases candidate <;> cases made
  | ok x =>
    refine ⟨x, rfl, ?_⟩
    cases candidate with
    | none =>
      cases x with
      | none => rfl
      | some x => cases made
    | some c =>
      cases x with
      | none => cases made
      | some x =>
        have same : Decision.forward (forwarded x) = .forward c.forwarded := made
        rw [Option.map_some, Option.map_some, Decision.forward.inj same]

/-- A candidate is taken for what is meant if its generation is read. -/
theorem candidate_meant (printer : Printer) {integer? : Literal → Option Nat}
    {forwarded : κ → Forwarded} {parsed : Except CommandError (Option κ)} (flag : Bool)
    (positive : 1 ≤ generation) (sees : ∀ l n, integer? l = some n → valued l = some n)
    (counts : ∀ n, integer? (.int n) = spelled (.int n))
    (known : ∃ x, parsed = .ok x ∧ x.map forwarded = candidate.map CandidateInit.forwarded) :
    (do
      let g ← generationBy integer? (printed printer
        (candidateData (ClientCall.candidateJson candidate) generation)) "rtc.ice_candidate" flag
      let x ← parsed
      return Meaning.candidate (x.map forwarded) g) =
      .ok (.candidate (candidate.map CandidateInit.forwarded) (some generation)) ↔
    generation ≤ maxSafeInteger := by
  obtain ⟨_, given⟩ := candidate_members candidate generation
  obtain ⟨x, rfl, same⟩ := known
  simp only [bind_eq_ok, generation_iff given positive sees counts]
  constructor
  · rintro ⟨g, ⟨safe, _⟩, _⟩
    exact safe
  · intro safe
    exact ⟨some generation, ⟨safe, rfl⟩, x, rfl, by rw [same]; rfl⟩

variable {f : Outgoing} (command : f.command = .candidate)
  (data : f.data = candidateData (ClientCall.candidateJson candidate) generation)

section Dialects

include command data

theorem candidate_message (number : Literal → ν) :
    f.message printer number = ⟨f.id, Negotiation.candidate.type, inDomain number (printed printer
      (candidateData (ClientCall.candidateJson candidate) generation))⟩ := by
  rw [Outgoing.message, command, data]
  rfl

theorem dialect_candidate {ρ : Type} {integer? : Literal → Option Nat} (d : Dialect ρ ν κ)
    (number : Literal → ν) (forwarded : κ → Forwarded) (flag : Bool)
    (numbers : ∀ data, d.generation (inDomain number data) "rtc.ice_candidate" flag =
      generationBy integer? data "rtc.ice_candidate" flag) :
    (do
      let call ← d.command flag (f.message printer number)
      return meaningOf forwarded call) = do
      let g ← generationBy integer? (printed printer
        (candidateData (ClientCall.candidateJson candidate) generation)) "rtc.ice_candidate" flag
      let x ← d.candidate ((some (stringify printer (ClientCall.candidateJson candidate))).map
        (Json.mapNumbers number))
      return Meaning.candidate (x.map forwarded) g := by
  obtain ⟨given, _⟩ := candidate_members candidate generation
  rw [candidate_message command data, command_candidate, numbers, get?_text, given]
  simp only [Option.map_some, bind_assoc, pure_bind, meaningOf]

end Dialects

section Gateways

variable (positive : 1 ≤ generation)
include command data positive

theorem typescript_takes_candidate (flag : Bool) (lib : Elixir.Libraries) :
    (f.taken printer outside lib flag).typescript =
        .ok (.candidate (candidate.map CandidateInit.forwarded) (some generation)) ↔
      generation ≤ maxSafeInteger := by
  have numbers : ∀ data, TypeScript.Gateway.dialect.generation (inDomain Literal.double data)
      "rtc.ice_candidate" flag = generationBy valued data "rtc.ice_candidate" flag := fun data =>
    typescript_generation data _ _
  have made := (typescript_candidate (some generation)
    (some (stringify printer (ClientCall.candidateJson candidate)))).trans
      (decision_text fun c => (record_given outside c).1)
  rw [Outgoing.taken, typescript_takes, ok_bind,
    dialect_candidate command data TypeScript.Gateway.dialect _ _ _ numbers]
  exact candidate_meant printer flag positive (fun _ _ seen => seen) valued_int (decision_read made)

theorem rust_takes_candidate (flag : Bool) (lib : Elixir.Libraries) :
    (f.taken printer outside lib flag).rust =
        .ok (.candidate (candidate.map CandidateInit.forwarded) (some generation)) ↔
      generation ≤ maxSafeInteger := by
  have numbers : ∀ data, Rust.Gateway.dialect.generation (inDomain Literal.serde data)
      "rtc.ice_candidate" flag = generationBy spelled data "rtc.ice_candidate" flag := fun data =>
    rust_generation data _ _
  have made := (rust_candidate (some generation)
    (some (stringify printer (ClientCall.candidateJson candidate)))).trans
      (decision_text fun c => (record_given outside c).2.1)
  rw [Outgoing.taken, rust_takes, ok_bind,
    dialect_candidate command data Rust.Gateway.dialect _ _ _ numbers]
  exact candidate_meant printer flag positive (fun _ _ => spelled_valued) (fun _ => rfl)
    (decision_read made)

theorem python_takes_candidate (flag : Bool) (lib : Elixir.Libraries) :
    (f.taken printer outside lib flag).python =
        .ok (.candidate (candidate.map CandidateInit.forwarded) (some generation)) ↔
      generation ≤ maxSafeInteger := by
  have numbers : ∀ data, Python.Gateway.dialect.generation (inDomain Literal.python data)
      "rtc.ice_candidate" flag = generationBy spelled data "rtc.ice_candidate" flag := fun data =>
    python_generation data _ _
  have made := (python_candidate (some generation)
    (some (stringify printer (ClientCall.candidateJson candidate)))).trans
      (decision_text fun c => (record_given outside c).2.2.2)
  rw [Outgoing.taken, python_takes, ok_bind,
    dialect_candidate command data Python.Gateway.dialect _ _ _ numbers]
  exact candidate_meant printer flag positive (fun _ _ => spelled_valued) (fun _ => rfl)
    (decision_read made)

theorem go_takes_candidate (flag : Bool) (lib : Elixir.Libraries) :
    (f.taken printer outside lib flag).go =
        .ok (.candidate (candidate.map CandidateInit.forwarded) (some generation)) ↔
      generation ≤ maxSafeInteger := by
  obtain ⟨given, _⟩ := candidate_members candidate generation
  have made := (go_candidate outside (some generation)
    (some (stringify printer (ClientCall.candidateJson candidate)))).trans
      (decision_text fun c => (record_given outside c).2.2.1)
  rw [Outgoing.taken, go_takes, ok_bind, candidate_message command data, ← candidate_meant
    printer flag positive (fun _ _ seen => seen) valued_int (decision_read made)]
  simp only [goMeaning, Negotiation.type, Go.Gateway.handleCandidate, go_generation, get?_text,
    given, Option.map_some]
  simp [meaningOf]

omit command data positive in
theorem elixir_candidate (printer : Printer) (candidate : Option CandidateInit) :
    ∃ x, Elixir.Gateway.candidate
        (some ((stringify printer (ClientCall.candidateJson candidate)).mapNumbers jasonNumber)) =
        .ok x ∧ x.map ofElixir = candidate.map CandidateInit.forwarded := by
  cases candidate with
  | none => exact ⟨none, rfl, rfl⟩
  | some c =>
    obtain ⟨named, mid, line, fragment⟩ := record_members printer c
    refine ⟨some ⟨c.candidate, c.sdpMid, c.sdpMLineIndex.map Fin.val, c.usernameFragment, none⟩,
      ?_, ?_⟩
    · have shape : stringify printer (ClientCall.candidateJson (some c)) =
          .obj (c.record printer) := stringify_candidate c
      rw [shape, obj_inDomain]
      simp only [Elixir.Gateway.candidate, Json.object?, Option.getD_some, get?_inDomain, named, mid,
        line, fragment]
      cases c.sdpMid <;> cases c.sdpMLineIndex <;> cases c.usernameFragment <;>
        simp [Json.mapNumbers, jasonNumber, Json.str?]
    · simp only [Option.map_some, ofElixir, CandidateInit.forwarded, Option.map_map]
      rfl

theorem elixir_takes_candidate (flag : Bool) (lib : Elixir.Libraries) :
    (f.taken printer outside lib flag).elixir =
        .ok (.candidate (candidate.map CandidateInit.forwarded) (some generation)) ↔
      generation ≤ maxSafeInteger := by
  obtain ⟨given, _⟩ := candidate_members candidate generation
  have sees : ∀ l n, spelled l = some n → valued l = some n := fun _ _ => spelled_valued
  rw [Outgoing.taken]
  simp only [elixir_takes, ok_bind, candidate_message command data]
  rw [← candidate_meant printer flag positive sees (fun _ => rfl)
    (elixir_candidate printer candidate)]
  simp [Elixir.Gateway.Socket.command, Negotiation.type, elixir_generation, get?_text, given,
    meaningOf]

end Gateways

end Candidates

/-! ## Closing -/

section Closing

variable {ν κ : Type} {outside : Go.Gateway.Conversion} {printer : Printer} {reason : String}
  {f : Outgoing}
  (command : f.command = .close) (data : f.data = [("reason", .str reason)])

include command data

theorem close_message (number : Literal → ν) :
    f.message printer number = ⟨f.id, "rtc.close", [("reason", .str reason)]⟩ := by
  rw [Outgoing.message, command, data]
  rfl

theorem dialect_close {ρ : Type} (d : Dialect ρ ν κ) (number : Literal → ν)
    (forwarded : κ → Forwarded) (flag : Bool) :
    (do
      let call ← d.command flag (f.message printer number)
      return meaningOf forwarded call) = .ok (.close reason) := by
  rw [close_message command data]
  simp [Dialect.command, Members.get?, Json.str?, meaningOf]
  rfl

theorem go_takes_close (flag : Bool) (lib : Elixir.Libraries) :
    (f.taken printer outside lib flag).go = .ok (.close reason) ↔ Go.Gateway.trimSpace reason ≠ "" := by
  have closes : (f.taken printer outside lib flag).go = .ok (.close (goClose reason)) := by
    rw [Outgoing.taken, go_takes, ok_bind, close_message command data]
    simp [goMeaning, Members.get?, Json.str?]
    rfl
  rw [closes, goClose, Except.ok.injEq, Meaning.close.injEq]
  by_cases blank : Go.Gateway.trimSpace reason = ""
  · rw [if_pos blank]
    constructor
    · rintro rfl
      revert blank
      decide
    · intro solid
      exact (solid blank).elim
  · rw [if_neg blank]
    exact ⟨fun _ => blank, fun _ => rfl⟩

theorem elixir_takes_close (flag : Bool) (lib : Elixir.Libraries) :
    (f.taken printer outside lib flag).elixir = .ok (.close reason) := by
  rw [Outgoing.taken]
  simp only [elixir_takes, ok_bind, close_message command data]
  simp [Elixir.Gateway.Socket.command, Members.get?, Json.str?, meaningOf]
  rfl

theorem taken_close (flag : Bool) (lib : Elixir.Libraries) :
    (f.taken printer outside lib flag).All (· = .ok (.close reason)) ↔
      Go.Gateway.trimSpace reason ≠ "" := by
  have typescript : (f.taken printer outside lib flag).typescript = .ok (.close reason) := by
    rw [Outgoing.taken, typescript_takes, ok_bind]
    exact dialect_close command data _ _ _ _
  have rust : (f.taken printer outside lib flag).rust = .ok (.close reason) := by
    rw [Outgoing.taken, rust_takes, ok_bind]
    exact dialect_close command data _ _ _ _
  have python : (f.taken printer outside lib flag).python = .ok (.close reason) := by
    rw [Outgoing.taken, python_takes, ok_bind]
    exact dialect_close command data _ _ _ _
  rw [Taken.All, go_takes_close command data]
  constructor
  · rintro ⟨_, _, solid, _⟩
    exact solid
  · intro solid
    exact ⟨typescript, rust, solid, python, elixir_takes_close command data flag lib⟩

end Closing

/-- Every gateway takes each frame for what its call means exactly when the call is plain. -/
theorem calls_meant (printer : Printer) (outside : Go.Gateway.Conversion) (lib : Elixir.Libraries)
    (flag : Bool) (c : SignalingClient) (call : ClientCall) (f : Outgoing) (frame : call.sent c = some f) :
    (f.taken printer outside lib flag).All (· = .ok (call.meaning c)) ↔ call.Plain c := by
  obtain ⟨command, data, positive⟩ := ClientCall.sent_data frame
  cases call with
  | exchangeOffer sdp restart =>
    have counted := positive nofun
    simp only [Taken.All, ClientCall.meaning, ClientCall.Plain,
      typescript_offer command data counted, rust_offer command data counted,
      go_offer command data counted, python_offer command data counted,
      elixir_offer command data counted]
    constructor
    · rintro ⟨⟨safe, typescript⟩, _, _, ⟨_, python⟩, _⟩
      exact ⟨safe, typescript, python⟩
    · rintro ⟨safe, typescript, python⟩
      have white := white_of_python python
      exact ⟨⟨safe, typescript⟩, ⟨safe, white⟩, ⟨safe, white⟩, ⟨safe, python⟩,
        safe, named_of_trimmed white⟩
  | sendCandidate candidate =>
    have counted := positive nofun
    simp only [Taken.All, ClientCall.meaning, ClientCall.Plain,
      typescript_takes_candidate command data counted, rust_takes_candidate command data counted,
      go_takes_candidate command data counted, python_takes_candidate command data counted,
      elixir_takes_candidate command data counted]
    exact ⟨fun safe => safe.1, fun safe => ⟨safe, safe, safe, safe, safe⟩⟩
  | close reason => exact taken_close command data flag lib

/-- An offer with a text is taken for what is meant; with a byte order mark for its text it is
not, which is blank for JavaScript. -/
theorem calls_meant_run :
    let c : SignalingClient := { SignalingClient.initial with socket := .opened }
    (∃ f, ClientCall.sent c (.exchangeOffer "v=0" false) = some f ∧
      (f.taken .plain Go.Gateway.amd64 .small false).All (· = .ok (.offer "v=0" false (some 1)))) ∧
    ∃ f, ClientCall.sent c (.exchangeOffer "\uFEFF" false) = some f ∧
      ¬(f.taken .plain Go.Gateway.amd64 .small false).All (· = .ok (.offer "\uFEFF" false (some 1))) := by
  intro c
  refine ⟨⟨_, rfl, ?_⟩, _, rfl, ?_⟩
  · exact (calls_meant .plain Go.Gateway.amd64 .small false c (.exchangeOffer "v=0" false) _ rfl).mpr (by decide)
  · intro all
    have plain := (calls_meant .plain Go.Gateway.amd64 .small false c (.exchangeOffer "\uFEFF" false) _ rfl).mp all
    revert plain
    decide

end VoxRtc.Browser
