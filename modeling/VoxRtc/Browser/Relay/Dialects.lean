import VoxRtc.Browser.Conversation
import VoxRtc.Browser.Meant

/-!
# The TypeScript, Rust and Python gateways as relays

A gateway has one place for the id of an offer. Since the client does not use an id twice, no
frame clears the place of another, and each reply finds the id of its own offer.
-/
namespace VoxRtc.Browser

open Transition Correlation Wire VoxRtc.Gateway

variable {ρ ν κ : Type}

/-- A frame as the browser reads it. -/
def shownFrame (shown : ν → Binary64) (frame : Frame ν) : Frame Binary64 :=
  ⟨frame.id, frame.type, frame.data.map fun member => (member.1, member.2.mapNumbers shown)⟩

/-- The events of the TypeScript, Rust, Go and Python gateways. -/
def wireEvents (shown : ν → Binary64) : Events (WireEvent ν) where
  replies e := correlates e.type
  heard e := some (shownFrame shown ⟨none, e.type, e.data⟩)

/-- What Vox has been asked by a frame. -/
def Handled.asked (h : Handled κ) : Option (String × AskedOffer) :=
  match h.call, h.error, h.requestId with
  | some (.sendOffer sdp restart generation), none, some id =>
    some (id, ⟨sdp, restart, generation⟩)
  | _, _, _ => none

/-- The error frame that answers a frame of the browser, if it is written. -/
def Handled.refusal (d : Dialect ρ ν κ) (shown : ν → Binary64) (h : Handled κ) (written : Bool) :
    List (Frame Binary64 × Option String) :=
  match h.error with
  | some error =>
    if written then [(shownFrame shown (errorFrame d h.requestId error), h.requestId)] else []
  | none => []

/-- A gateway that takes one frame or event after the other. The choices are how a call on the
session ends, and whether a frame is written. -/
def dialectRelay (d : Dialect ρ ν κ) (read : Outgoing → ρ) (shown : ν → Binary64) :
    Relay Connection (Outcome × Bool) Outgoing (WireEvent ν) (Frame Binary64) String AskedOffer where
  init := ⟨.initial, [], false⟩
  step c
    | .request f, (outcome, written) => (c.step d (.frame (read f) outcome written)).map fun next =>
      let handled := handleMessage d c.progress (read f) outcome
      { state := next
        offered := Handled.asked handled
        written := Handled.refusal d shown handled (written && outcome != .fatal) }
    | .event e, (_, written) => (c.step d (.event e written)).map fun next =>
      let (_, frame) := forwardEvent d c.progress e
      { state := next, written := if written then [(shownFrame shown frame, none)] else [] }
    | .nothing, _ => none

/-- How a gateway reads the texts of the client. -/
structure Reads (printer : Printer) (number : Literal → ν) (d : Dialect ρ ν κ)
    (read : Outgoing → ρ) : Prop where
  parses : ∀ f, d.parse (read f) = .ok (f.message printer number)
  generation : ∃ integer? : Literal → Option Nat,
    (∀ l n, integer? l = some n → valued l = some n) ∧
    ∀ data command required, d.generation (inDomain number data) command required =
      generationBy integer? data command required
  offer : ∀ value sdp, d.offer value = .ok sdp → sdpOf value = some sdp

section Texts

variable {printer : Printer} {number : Literal → ν}

/-- The SDP text of a description is the one in its text. -/
theorem sdpOf_text (value : Option (Json Binary64)) :
    sdpOf (value.map fun v => (stringify printer v).mapNumbers number) = sdpOf value := by
  cases value with
  | none => rfl
  | some value =>
    cases value with
    | obj members =>
      simp only [sdpOf, Option.map_some, stringify_obj, obj_inDomain, Option.bind_some,
        Json.object?, get?_text]
      cases Members.get? members "sdp" with
      | none => rfl
      | some value =>
        cases value with
        | num n => cases n <;> rfl
        | _ => rfl
    | num n => cases n <;> rfl
    | _ => rfl

theorem isTrue_text (value : Option (Json Binary64)) :
    (value.map fun v => (stringify printer v).mapNumbers number).any Json.isTrue =
      value.any Json.isTrue := by
  cases value with
  | none => rfl
  | some value =>
    cases value with
    | num n => cases n <;> rfl
    | bool b => cases b <;> rfl
    | _ => rfl

theorem offer_of_type {f : Outgoing} (type : f.command.type = "rtc.offer") : f.command = .offer := by
  cases command : f.command with
  | offer => rfl
  | candidate | close =>
    rw [command] at type
    revert type
    decide

/-- An offer that is read asks for what the frame of the client asks for. -/
theorem asks_of_read {generation : Except CommandError (Option Nat)}
    {integer? : Literal → Option Nat} {f : Outgoing} {b : AskedOffer}
    (type : f.command.type = "rtc.offer")
    (sees : ∀ l n, integer? l = some n → valued l = some n)
    (numbers : generation = generationBy integer? (printed printer f.data) "rtc.offer" false)
    (found : generation = .ok b.generation)
    (sdp : sdpOf ((inDomain number (printed printer f.data)).get? "offer") = some b.sdp)
    (restart : ((inDomain number (printed printer f.data)).get? "restart").any Json.isTrue =
      b.restart) : f.Asks b := by
  rw [get?_text, sdpOf_text] at sdp
  rw [get?_text, isTrue_text] at restart
  refine ⟨offer_of_type type, sdp, restart, fun n counted => ?_⟩
  exact generation_given counted sees (numbers.symm.trans found)

theorem Reads.asks {d : Dialect ρ ν κ} {read : Outgoing → ρ} (reads : Reads printer number d read)
    {flag : Bool} {f : Outgoing} {sdp : String} {restart : Bool} {g : Option Nat}
    (command : d.command flag (f.message printer number) = .ok (.sendOffer sdp restart g)) :
    f.Asks ⟨sdp, restart, g⟩ := by
  have type : f.command.type = "rtc.offer" := Dialect.offer_type command
  obtain ⟨integer?, sees, numbers⟩ := reads.generation
  rw [Outgoing.message, type, command_offer] at command
  obtain ⟨n, counted, rest⟩ := bind_eq_ok.mp command
  obtain ⟨text, described, last⟩ := bind_eq_ok.mp rest
  cases last
  exact asks_of_read type sees (numbers _ _ _) counted (reads.offer _ _ described) rfl

end Texts

/-! ## Frames and events in turn -/

/-- The place for an id holds the offer that Vox has, until the connection ends, and only ids of
frames that have been read. -/
structure Place (read : List Outgoing) (c : Connection) (held : Option String) : Prop where
  held : c.ended = false → c.progress.pendingOfferId = held
  known : ∀ id, c.progress.pendingOfferId = some id → id ∈ read.map Outgoing.id

section Handling

variable {d : Dialect ρ ν κ} {p : Progress} {message : ClientMessage ν} {outcome : Outcome}

theorem handled_requestId : (handleCommand d p message outcome).requestId = some message.id := by
  rw [handleCommand]
  split
  · rfl
  · split
    · rfl
    · split <;> rfl

/-- The place is left alone or emptied, or it holds the id of the frame. -/
theorem handled_pending (d : Dialect ρ ν κ) (p : Progress) (message : ClientMessage ν)
    (outcome : Outcome) :
    let after := (handleCommand d p message outcome).progress.pendingOfferId
    after = p.pendingOfferId ∨ after = none ∨ after = some message.id := by
  have rejected (q : Progress) (same : q.pendingOfferId = p.pendingOfferId ∨
      q.pendingOfferId = some message.id) :
      (q.reject message.id).pendingOfferId = p.pendingOfferId ∨
        (q.reject message.id).pendingOfferId = none ∨
        (q.reject message.id).pendingOfferId = some message.id := by
    rw [Progress.reject]
    split
    · exact .inr (.inl rfl)
    · exact same.elim .inl fun own => .inr (.inr own)
  have calling (call : SessionCall κ) :
      (p.calling message.id call).pendingOfferId = p.pendingOfferId ∨
        (p.calling message.id call).pendingOfferId = some message.id := by
    cases call with
    | sendOffer => exact .inr rfl
    | sendIceCandidate | closeRtc => exact .inl rfl
  rw [handleCommand]
  split
  · exact rejected p (.inl rfl)
  · split
    · exact rejected p (.inl rfl)
    next call _ =>
      cases outcome with
      | failed text => exact rejected _ (calling call)
      | fatal => exact (calling call).elim .inl fun own => .inr (.inr own)
      | done =>
        have same : ((p.calling message.id call).called call).pendingOfferId =
            (p.calling message.id call).pendingOfferId := by
          cases call <;> rfl
        dsimp only
        rw [same]
        exact (calling call).elim .inl fun own => .inr (.inr own)

theorem handled_call {call : SessionCall κ}
    (called : (handleCommand d p message outcome).call = some call) :
    d.command p.generatedOffer message = .ok call := by
  rw [handleCommand] at called
  split at called
  · cases called
  · split at called
    · cases called
    next made asked =>
      split at called <;> cases called <;> exact asked

/-- Nothing is known of an offer whose call ends the loop. -/
theorem fatal_offered : (handleCommand d p message .fatal).offered = none := by
  rw [handleCommand]
  split
  · rfl
  · split
    · rfl
    next call _ => cases call <;> rfl

theorem asked_offered (h : Handled κ) : (Handled.asked h).map Prod.fst = h.offered := by
  obtain ⟨progress, requestId, call, error⟩ := h
  cases call with
  | none => rfl
  | some call =>
    cases call with
    | sendOffer => cases error <;> cases requestId <;> rfl
    | sendIceCandidate | closeRtc => cases error <;> cases requestId <;> rfl

theorem asked_call {h : Handled κ} {asked : String × AskedOffer}
    (made : Handled.asked h = some asked) : h.requestId = some asked.1 ∧
      h.call = some (.sendOffer asked.2.sdp asked.2.restart asked.2.generation) := by
  rw [Handled.asked] at made
  split at made
  next called _ named =>
    cases made
    exact ⟨named, called⟩
  · cases made

theorem idField_proper {id : Option String} (proper : ∀ s, id = some s → s ≠ "") :
    d.idField id = id := by
  cases id with
  | none => exact d.idField_none
  | some s => exact d.idField_some s (proper s rfl)

/-- An error frame tells of the frame that it answers. -/
theorem refusal_fails {shown : ν → Binary64} {events : Events (WireEvent ν)} {h : Handled κ}
    {written : Bool} (proper : ∀ s, h.requestId = some s → s ≠ "") :
    ∀ w ∈ Handled.refusal d shown h written, events.labels.Fails w := by
  intro w member
  rw [Handled.refusal] at member
  split at member
  · split at member
    · rw [List.mem_singleton] at member
      rw [member]
      intro id tag
      have named : (d.idField h.requestId).filter (· ≠ "") = some id := tag
      rw [idField_proper proper, Option.filter_eq_some_iff] at named
      exact ⟨named.1, rfl⟩
    · cases member
  · cases member

end Handling

section Dialects

variable {printer : Printer} {number : Literal → ν} {d : Dialect ρ ν κ} {read : Outgoing → ρ}
  {shown : ν → Binary64}

theorem handle_read (reads : Reads printer number d read) (p : Progress) (f : Outgoing)
    (outcome : Outcome) : handleMessage d p (read f) outcome =
      handleCommand d p (f.message printer number) outcome := by
  rw [handleMessage, reads.parses]

/-- A frame is handled while the place holds what Vox has, and its id is a new one. -/
theorem place_request {seen : List Outgoing} {c next : Connection} {held : Option String}
    {f : Outgoing} {outcome : Outcome} {written : Bool} (reads : Reads printer number d read)
    (place : Place seen c held) (fresh : f.id ∉ seen.map Outgoing.id)
    (taken : c.step d (.frame (read f) outcome written) = some next) :
    let handled := handleMessage d c.progress (read f) outcome
    (Handled.asked handled = none → Place (seen ++ [f]) next held) ∧
      ∀ asked, Handled.asked handled = some asked →
        held = none ∧ Place (seen ++ [f]) next (some asked.1) := by
  intro handled
  simp only [Connection.step, Connection.stepBy] at taken
  split at taken
  · cases taken
  next goes =>
    cases taken
    have running : c.ended = false := by
      cases ended : c.ended with
      | false => rfl
      | true => exact (goes (.inl ended)).elim
    have same : handled = handleCommand d c.progress (f.message printer number) outcome :=
      handle_read reads c.progress f outcome
    have other : c.progress.pendingOfferId ≠ some f.id := fun own => fresh (place.known _ own)
    have known : ∀ id, handled.progress.pendingOfferId = some id →
        id ∈ (seen ++ [f]).map Outgoing.id := by
      intro id pending
      rw [List.map_append]
      rcases handled_pending d c.progress (f.message printer number) outcome with
        kept | empty | own
      · exact List.mem_append_left _ (place.known id (kept.symm.trans (same ▸ pending)))
      · rw [same, empty] at pending
        cases pending
      · rw [same, own] at pending
        cases pending
        exact List.mem_append_right _ (List.mem_singleton_self _)
    have offered := asked_offered handled
    by_cases fatal : outcome = .fatal
    -- The loop ends, and nothing more comes of the place.
    · have loops : d.loops = true := by
        refine d.escapes_loops ?_
        cases escapes : d.escapes with
        | true => rfl
        | false => exact (goes (.inr ⟨fatal, escapes⟩)).elim
      rw [same, fatal, fatal_offered, ← fatal, ← same, Option.map_eq_none_iff] at offered
      refine ⟨fun _ => ⟨fun going => ?_, known⟩, fun a asked => ?_⟩
      · simp [loops, fatal] at going
      · cases offered.symm.trans asked
    · have cases' := handleCommand_cases (d := d) (p := c.progress) (f.message printer number) outcome
        fatal fun own => (other own).elim
      rw [← same] at cases'
      rcases cases' with ⟨free, sent, holds⟩ | ⟨silent, kept⟩
      · rw [sent] at offered
        refine ⟨fun unasked => ?_, fun a asked => ?_⟩
        · rw [unasked] at offered
          cases offered
        · rw [asked] at offered
          have named : a.1 = f.id := Option.some.inj offered
          exact ⟨(place.held running).symm.trans free, fun _ => by rw [named]; exact holds, known⟩
      · rw [silent, Option.map_eq_none_iff] at offered
        refine ⟨fun _ => ⟨fun _ => kept.trans (place.held running), known⟩, fun a asked => ?_⟩
        cases offered.symm.trans asked

/-- An event that replies empties the place, and what is written has the id that was there. -/
theorem place_event {seen : List Outgoing} {c next : Connection} {held : Option String}
    {e : WireEvent ν} {written : Bool} (place : Place seen c held)
    (taken : c.step d (.event e written) = some next) :
    Place seen next (if correlates e.type then none else held) ∧
      ∀ id, (forwardEvent d c.progress e).2.id.filter (· ≠ "") = some id →
        correlates e.type = true ∧ held = some id := by
  simp only [Connection.step, Connection.stepBy] at taken
  split at taken
  · cases taken
  next goes =>
    cases taken
    have running : c.ended = false := by simpa using goes
    have proper : ∀ s, c.progress.pendingOfferId = some s → s ≠ "" := by
      intro s pending
      obtain ⟨f, _, rfl⟩ := List.mem_map.mp (place.known s pending)
      exact id_named
    simp only [forwardEvent]
    cases reply : correlates e.type with
    | true =>
      have absent : ∀ id, none = some id → id ∈ seen.map Outgoing.id := fun _ pending => by cases pending
      refine ⟨⟨fun _ => rfl, absent⟩, fun id tag => ⟨rfl, ?_⟩⟩
      simp only [if_true, idField_proper proper, Option.filter_eq_some_iff] at tag
      exact (place.held running).symm.trans tag.1
    | false =>
      refine ⟨⟨fun _ => place.held running, place.known⟩, fun id tag => ?_⟩
      simp [d.idField_none] at tag

/-- A gateway that takes frames and events in turn correlates replies with offers. -/
theorem dialect_correlates (reads : Reads printer number d read) :
    (dialectRelay d read shown).Correlates (wireEvents shown).labels Place where
  start := ⟨fun _ => rfl, nofun⟩
  request := by
    intro seen c held f k m place fresh taken
    obtain ⟨outcome, written⟩ := k
    obtain ⟨next, stepped, rfl⟩ := Option.map_eq_some_iff.mp taken
    obtain ⟨quiet, offered⟩ := place_request reads place fresh stepped
    refine ⟨quiet, fun a asked => ?_, ?_⟩
    · obtain ⟨free, holds⟩ := offered a asked
      obtain ⟨named, called⟩ := asked_call asked
      rw [handle_read reads] at named called
      refine ⟨free, holds, f, List.mem_append_right _ (List.mem_singleton_self f), ?_, ?_⟩
      · rw [handled_requestId] at named
        exact Option.some.inj named
      · exact reads.asks (handled_call called)
    · refine refusal_fails fun s named => ?_
      rw [handle_read reads, handled_requestId] at named
      cases named
      exact id_named
  move := by
    intro seen c held k m place taken
    cases taken
  event := by
    intro seen c held e k m place expected taken
    obtain ⟨outcome, written⟩ := k
    obtain ⟨next, stepped, rfl⟩ := Option.map_eq_some_iff.mp taken
    obtain ⟨after, tags⟩ := place_event place stepped
    refine ⟨rfl, after, fun w member => ?_⟩
    dsimp only at member
    split at member
    · rw [List.mem_singleton] at member
      rw [member]
      refine ⟨rfl, fun id tag => ?_⟩
      obtain ⟨reply, holds⟩ := tags id tag
      exact ⟨reply, holds, reply, rfl⟩
    · cases member

end Dialects

section Readers

variable (printer : Printer)

theorem typescript_sdp (value : Option TypeScript.Gateway.Value) (sdp : String)
    (read : TypeScript.Gateway.sessionDescription value = .ok sdp) : sdpOf value = some sdp := by
  simp only [TypeScript.Gateway.sessionDescription] at read
  split at read
  next described =>
    split at read
    · cases read
    · cases read
      simp [sdpOf, described, Json.str?]
  · cases read

theorem typescript_reads : Reads printer Literal.double TypeScript.Gateway.dialect
    fun f => jsonParse (f.text printer) where
  parses f := by
    have parse : TypeScript.Gateway.dialect.parse = TypeScript.Gateway.parseClientMessage := rfl
    rw [parse, typescript_takes]
  generation := by
    refine ⟨valued, fun _ _ seen => seen, fun data command required => ?_⟩
    exact typescript_generation data command required
  offer := typescript_sdp

theorem rust_sdp (value : Option Rust.Gateway.Value) (sdp : String)
    (read : Rust.Gateway.offer value = .ok sdp) : sdpOf value = some sdp := by
  simp only [Rust.Gateway.offer] at read
  split at read
  · cases read
  next object found =>
    split at read
    · cases read
    next solid =>
      cases read
      simp only [not_or] at solid
      simp only [sdpOf, found, Option.bind_some]
      cases text : (object.get? "sdp").bind Json.str? with
      | some sdp => rfl
      | none =>
        rw [text] at solid
        exact (solid.2 rfl).elim

theorem rust_reads : Reads printer Literal.serde Rust.Gateway.dialect
    fun f => .text (fromStr (f.text printer)) where
  parses _ := rust_takes
  generation := ⟨spelled, fun _ _ => spelled_valued, rust_generation⟩
  offer := rust_sdp

theorem python_sdp (value : Option Python.Gateway.Value) (sdp : String)
    (read : Python.Gateway.offer value = .ok sdp) : sdpOf value = some sdp := by
  simp only [Python.Gateway.offer] at read
  split at read
  next described =>
    split at read
    · cases read
    · cases read
      simp [sdpOf, described, Json.str?]
  · cases read

theorem python_reads : Reads printer Literal.python Python.Gateway.dialect
    fun f => .text (loads (f.text printer)) where
  parses f := by
    have parse : Python.Gateway.dialect.parse = Python.Gateway.readMessage := rfl
    rw [parse, Python.Gateway.readMessage, python_takes]
  generation := by
    refine ⟨spelled, fun _ _ => spelled_valued, fun data command required => ?_⟩
    exact python_generation data command required
  offer := python_sdp

end Readers

end VoxRtc.Browser
