import VoxRtc.Browser.Relay.Dialects
import VoxRtc.Go.Gateway.Offers

/-!
# The Go gateway as a relay

The reader reserves the place before the offer goes out, and clears it when that fails, while
the callbacks take it for the replies of Vox.
-/
namespace VoxRtc.Browser

open Transition Correlation Wire VoxRtc.Gateway

/-- What happens at a Go gateway: a session call may fail, and frames may not be written. -/
inductive GoChoice where
  | proceed (failure : Option CommandError)
  | sendOffer (failure : Option CommandError)
  | settle
  | clear
  | writeAnswer (callback : Nat)

/-- The frame of `gatewayErrorPayload`. -/
def goError (id : String) (error : CommandError) : Frame Finite64 :=
  ⟨Go.Gateway.idField id, "gateway.error",
    ("message", .str error.message) ::
      if error.typed then [("code", .str "command_invalid")] else []⟩

section Go

open Go.Gateway (GatewaySession)

/-- A candidate that the session does not take. -/
def failCandidate (s : GatewaySession) (f : Outgoing) : Option CommandError → GatewaySession
  | some error =>
    if f.command = .candidate ∧ s.reader = .idle then
      { s with reader := .failing f.id false error }
    else s
  | none => s

/-- The reader goroutine and the event callbacks. A frame is given to the writer when its event
is taken, since it may be late from then on. -/
def goRelay (outside : Go.Gateway.Conversion) (printer : Printer) (shown : Finite64 → Binary64) :
    Relay GatewaySession GoChoice Outgoing (WireEvent Finite64) (Frame Binary64) String
      AskedOffer where
  init := .initial
  step s
    | .request f, .proceed failure =>
      (s.step outside (.read (decoded (f.text printer)))).map fun next =>
        { state := failCandidate next f failure }
    | .event e, .proceed _ => (s.step outside (.takeEvent e.type)).map fun next =>
      let id := if correlates e.type then Go.Gateway.idField s.pendingOfferID else none
      { state := next, written := [(shownFrame shown ⟨id, e.type, e.data⟩, none)] }
    | .nothing, .sendOffer failure => match s.reader, failure with
      | .reserved id _, some error => some { state := { s with reader := .failing id true error } }
      | .reserved id offer, none => (s.step outside .sendOffer).map fun next =>
        { state := next
          offered := match Go.Gateway.sendOffer offer with
            | .ok _ => some (id, ⟨offer.sdp, offer.restart, offer.generation⟩)
            | .error _ => none }
      | _, _ => none
    | .nothing, .settle => (s.step outside .settle).map fun next => { state := next }
    | .nothing, .clear => match s.reader with
      | .failing id _ error => (s.step outside .clear).map fun next =>
        { state := next, written := [(shownFrame shown (goError id error), some id)] }
      | _ => none
    | .nothing, .writeAnswer k => (s.step outside (.writeAnswer k)).map fun next => { state := next }
    | _, _ => none

/-- The place of the Go gateway: what Vox has, unless it is reserved for an offer that has not
been sent. -/
structure GoPlace (seen : List Outgoing) (s : GatewaySession) (held : Option String) : Prop where
  held : held = if s.reader.reservation = none then Go.Gateway.idField s.pendingOfferID else none
  reserved : ∀ id, s.reader.reservation = some id → s.pendingOfferID = id ∧ id ≠ ""
  known : s.pendingOfferID ≠ "" → s.pendingOfferID ∈ seen.map Outgoing.id
  rejected : ∀ id, s.reader.rejected = some id → id ∈ seen.map Outgoing.id ∧ s.pendingOfferID ≠ id
  asks : ∀ id offer, s.reader = .reserved id offer → Go.Gateway.sendOffer offer = .ok () →
    ∃ f ∈ seen, f.id = id ∧ f.Asks ⟨offer.sdp, offer.restart, offer.generation⟩

variable {outside : Go.Gateway.Conversion} {printer : Printer} {shown : Finite64 → Binary64} {seen : List Outgoing}
  {s next : GatewaySession} {held : Option String} {f : Outgoing}

namespace GoPlace

theorem more (place : GoPlace seen s held) (later : List Outgoing) :
    GoPlace (seen ++ later) s held where
  held := place.held
  reserved := place.reserved
  known proper := by
    rw [List.map_append]
    exact List.mem_append_left _ (place.known proper)
  rejected id failing := by
    rw [List.map_append]
    exact ⟨List.mem_append_left _ (place.rejected id failing).1, (place.rejected id failing).2⟩
  asks id offer reserved sends := by
    obtain ⟨f, member, same⟩ := place.asks id offer reserved sends
    exact ⟨f, List.mem_append_left later member, same⟩

/-- A reader that moves without touching the place, and has reserved nothing. -/
theorem reader (place : GoPlace seen s held) (pending : next.pendingOfferID = s.pendingOfferID)
    (before : s.reader.reservation = none) (after : next.reader.reservation = none)
    (rejected : ∀ id, next.reader.rejected = some id →
      id ∈ seen.map Outgoing.id ∧ s.pendingOfferID ≠ id) : GoPlace seen next held where
  held := by
    rw [if_pos after, pending]
    simpa [before] using place.held
  reserved id reserved := by
    rw [after] at reserved
    cases reserved
  known := by
    rw [pending]
    exact place.known
  rejected := by
    rw [pending]
    exact rejected
  asks id offer reserved := by
    rw [reserved] at after
    cases after

theorem proper {id : String} (member : id ∈ seen.map Outgoing.id) : id ≠ "" := by
  obtain ⟨f, _, rfl⟩ := List.mem_map.mp member
  exact id_named

end GoPlace

/-- An offer that the session sends is one that the frame asks for. -/
theorem go_asks {offer : Go.Gateway.Offer} (type : f.command.type = "rtc.offer")
    (parsed : Go.Gateway.parseOffer (inDomain finite (printed printer f.data)) = .ok offer)
    (sends : Go.Gateway.sendOffer offer = .ok ()) :
    f.Asks ⟨offer.sdp, offer.restart, offer.generation⟩ := by
  obtain ⟨generation, counted, rest⟩ := bind_eq_ok.mp parsed
  have solid : offer.sdp ≠ "" := by
    intro empty
    have blank : Go.Gateway.trimSpace offer.sdp = "" := by
      rw [empty]
      rfl
    rw [Go.Gateway.sendOffer, if_pos (.inr blank)] at sends
    cases sends
  split at rest
  · cases rest
  next members found =>
    cases rest
    refine asks_of_read type (fun _ _ seen => seen) (go_generation _ _ _) counted ?_ rfl
    dsimp only at solid ⊢
    simp only [sdpOf, found, Option.bind_some]
    cases text : (members.get? "sdp").bind Json.str? with
    | some sdp => rfl
    | none =>
      rw [text] at solid
      exact (solid rfl).elim

/-- A frame that fails has not got the place. -/
theorem go_failing (place : GoPlace seen s held) (idle : s.reader = .idle)
    (listed : f.id ∈ seen.map Outgoing.id) (other : s.pendingOfferID ≠ f.id)
    (error : CommandError) :
    GoPlace seen { s with reader := .failing f.id false error } held := by
  have before : s.reader.reservation = none := by rw [idle]; rfl
  refine place.reader rfl before rfl fun id failing => ?_
  cases failing
  exact ⟨listed, other⟩

theorem go_failCandidate (place : GoPlace seen s held) (listed : f.id ∈ seen.map Outgoing.id)
    (other : s.reader = .idle → s.pendingOfferID ≠ f.id) (failure : Option CommandError) :
    GoPlace seen (failCandidate s f failure) held := by
  cases failure with
  | none => exact place
  | some error =>
    rw [failCandidate]
    split
    next own => exact go_failing place own.2 listed (other own.2) error
    · exact place

section Reading

variable (place : GoPlace seen s held) (idle : s.reader = .idle)
  (fresh : f.id ∉ seen.map Outgoing.id)
include place

theorem go_other (fresh : f.id ∉ seen.map Outgoing.id) : s.pendingOfferID ≠ f.id := by
  intro own
  have proper : s.pendingOfferID ≠ "" := own ▸ id_named
  exact fresh (own ▸ place.known proper)

include idle fresh

/-- An offer takes the place if it is empty, and is refused otherwise. -/
theorem go_readOffer (type : f.command.type = "rtc.offer") :
    GoPlace (seen ++ [f]) (s.readOffer (f.message printer finite)) held := by
  have before : s.reader.reservation = none := by rw [idle]; rfl
  have listed : f.id ∈ (seen ++ [f]).map Outgoing.id := by simp
  have refused := go_failing (place.more [f]) idle listed (go_other place fresh)
  rw [GatewaySession.readOffer]
  split
  · exact refused _
  next offer parsed =>
    split
    · exact refused _
    next free =>
      simp only [ne_eq, not_not] at free
      constructor
      · have settled := place.held
        rw [if_pos before, free] at settled
        exact settled
      · intro id reserved
        cases reserved
        exact ⟨rfl, id_named⟩
      · exact fun _ => listed
      · intro id failing
        cases failing
      · intro id made reserved sends
        cases reserved
        exact ⟨f, List.mem_append_right _ (List.mem_singleton_self f), rfl,
          go_asks type parsed sends⟩

theorem go_readMessage (printer : Printer) :
    GoPlace (seen ++ [f]) (s.readMessage outside (decoded (f.text printer))) held ∧
      ((s.readMessage outside (decoded (f.text printer))).reader = .idle →
        (s.readMessage outside (decoded (f.text printer))).pendingOfferID ≠ f.id) := by
  have listed : f.id ∈ (seen ++ [f]).map Outgoing.id := by simp
  have other := go_other place fresh
  have refused := go_failing (place.more [f]) idle listed other
  have type : (f.message printer finite).type = f.command.type := rfl
  rw [GatewaySession.readMessage, go_takes]
  simp only [type]
  cases command : f.command with
  | offer =>
    have named : f.command.type = "rtc.offer" := by rw [command]; rfl
    rw [Command.type, if_pos rfl]
    refine ⟨go_readOffer place idle fresh named, fun done => ?_⟩
    rw [GatewaySession.readOffer] at done ⊢
    split at done
    · cases done
    · split at done <;> cases done
  | candidate =>
    rw [Command.type, if_neg (by decide), if_pos rfl]
    split
    · refine ⟨refused _, fun done => ?_⟩
      cases done
    · exact ⟨place.more [f], fun _ => other⟩
  | close =>
    rw [Command.type, if_neg (by decide), if_neg (by decide), if_pos rfl]
    have more := place.more [f]
    exact ⟨⟨more.held, more.reserved, more.known, more.rejected, more.asks⟩, fun _ => other⟩

theorem go_read (failure : Option CommandError) : GoPlace (seen ++ [f])
    (failCandidate (s.readMessage outside (decoded (f.text printer))) f failure) held := by
  obtain ⟨after, other⟩ := go_readMessage place idle fresh printer
  exact go_failCandidate after (by simp) other failure

end Reading

/-- An event that replies empties the place, and its frame has the id that was there. -/
theorem go_event {e : WireEvent Finite64} (place : GoPlace seen s held)
    (expected : correlates e.type = true → held.isSome = true)
    (taken : s.step outside (.takeEvent e.type) = some next) :
    GoPlace seen next (if correlates e.type then none else held) ∧
      (correlates e.type = true → Go.Gateway.idField s.pendingOfferID = held) := by
  simp only [GatewaySession.step, Option.some.injEq] at taken
  cases reply : correlates e.type with
  | true =>
    rw [reply, if_pos rfl] at taken
    subst taken
    -- Vox replies to what it has, so that nothing is reserved.
    have free : s.reader.reservation = none := by
      by_contra taken
      have absent := place.held
      rw [if_neg taken] at absent
      have present := expected reply
      rw [absent] at present
      cases present
    have holds := place.held
    rw [if_pos free] at holds
    refine ⟨?_, fun _ => holds.symm⟩
    constructor
    · simp [free, Go.Gateway.idField]
    · intro id reserved
      have absent : s.reader.reservation = some id := reserved
      rw [free] at absent
      cases absent
    · exact fun absent => (absent rfl).elim
    · intro id failing
      obtain ⟨listed, _⟩ := place.rejected id failing
      exact ⟨listed, (GoPlace.proper listed).symm⟩
    · exact place.asks
  | false =>
    rw [reply, if_neg Bool.false_ne_true] at taken
    subst taken
    refine ⟨⟨place.held, place.reserved, place.known, place.rejected, place.asks⟩, fun replied => ?_⟩
    cases replied

/-- An offer that is not sent keeps the place until it is cleared. -/
theorem go_unsent {id : String} {offer : Go.Gateway.Offer} (place : GoPlace seen s held)
    (reserved : s.reader = .reserved id offer) (error : CommandError) :
    GoPlace seen { s with reader := .failing id true error } held := by
  have own : s.reader.reservation = some id := by rw [reserved]; rfl
  constructor
  · have unsent := place.held
    rw [if_neg (by rw [own]; exact Option.some_ne_none id)] at unsent
    exact unsent
  · intro other same
    cases same
    exact place.reserved id own
  · exact place.known
  · intro id failing
    cases failing
  · intro id made reserved
    cases reserved

/-- An offer that is sent is the one that Vox has. -/
theorem go_sent {id : String} {offer : Go.Gateway.Offer} (place : GoPlace seen s held)
    (reserved : s.reader = .reserved id offer) :
    held = none ∧ GoPlace seen
      { s with reader := .sent offer.generation, history := .forwarded id :: s.history }
      (some id) := by
  have own : s.reader.reservation = some id := by rw [reserved]; rfl
  obtain ⟨pending, proper⟩ := place.reserved id own
  have unsent := place.held
  rw [if_neg (by rw [own]; exact Option.some_ne_none id)] at unsent
  refine ⟨unsent, ?_⟩
  constructor
  · simp [Go.Gateway.Reader.reservation, Go.Gateway.idField, pending, proper]
  · intro id reserved
    cases reserved
  · exact place.known
  · intro id failing
    cases failing
  · intro id made reserved
    cases reserved

theorem go_settle (place : GoPlace seen s held) (taken : s.step outside .settle = some next) :
    GoPlace seen next held := by
  simp only [GatewaySession.step] at taken
  split at taken
  next generation sent =>
    cases taken
    refine place.reader rfl (by rw [sent]; rfl) rfl fun id failing => ?_
    cases failing
  · cases taken

/-- What fails clears the place if it has reserved it, and leaves that of another. -/
theorem go_clear {id : String} {own : Bool} {error : CommandError} (place : GoPlace seen s held)
    (failing : s.reader = .failing id own error) (taken : s.step outside .clear = some next) :
    GoPlace seen next held := by
  simp only [GatewaySession.step, failing, Option.some.injEq] at taken
  subst taken
  cases own with
  | true =>
    have reserved : s.reader.reservation = some id := by rw [failing]; rfl
    have unsent := place.held
    rw [if_neg (by rw [reserved]; exact Option.some_ne_none id)] at unsent
    rw [if_pos (place.reserved id reserved).1]
    constructor
    · exact unsent
    · intro id reserved
      cases reserved
    · exact fun absent => (absent rfl).elim
    · intro id failing
      cases failing
    · intro id made reserved
      cases reserved
  | false =>
    have rejected : s.reader.rejected = some id := by rw [failing]; rfl
    have other := (place.rejected id rejected).2
    rw [if_neg other]
    refine place.reader rfl (by rw [failing]; rfl) rfl fun id failing => ?_
    cases failing

theorem go_writeAnswer {k : Nat} (place : GoPlace seen s held)
    (taken : s.step outside (.writeAnswer k) = some next) : GoPlace seen next held := by
  simp only [GatewaySession.step, Option.bind_eq_bind, Option.bind_eq_some_iff, Option.pure_def,
    Option.some.injEq] at taken
  obtain ⟨id, _, rfl⟩ := taken
  exact ⟨place.held, place.reserved, place.known, place.rejected, place.asks⟩

/-- Something that the relay does of its own accord, and that asks nothing of Vox. -/
theorem go_quiet {events : Events (WireEvent Finite64)}
    {m : Moved GatewaySession (Frame Binary64) String AskedOffer}
    (place : GoPlace seen m.state held) (unasked : m.offered = none)
    (written : ∀ w ∈ m.written, events.labels.Fails w) :
    Relay.Offers events.labels GoPlace seen held m where
  quiet _ := place
  offered asked made := by
    rw [unasked] at made
    cases made
  written := written

theorem goError_fails {events : Events (WireEvent Finite64)} (id : String) (error : CommandError) :
    events.labels.Fails (shownFrame shown (goError id error), some id) := by
  intro other tag
  have named : (Go.Gateway.idField id).filter (· ≠ "") = some other := tag
  rw [Option.filter_eq_some_iff, Go.Gateway.idField, Option.ite_none_left_eq_some] at named
  exact ⟨named.1.2, rfl⟩

theorem go_move {k : GoChoice}
    {m : Moved GatewaySession (Frame Binary64) String AskedOffer} (place : GoPlace seen s held)
    (taken : (goRelay outside printer shown).step s .nothing k = some m) :
    Relay.Offers (wireEvents shown).labels GoPlace seen held m := by
  cases k with
  | proceed failure => cases taken
  | sendOffer failure =>
    simp only [goRelay] at taken
    split at taken
    next id offer error reserved =>
      cases taken
      exact go_quiet (go_unsent place reserved error) rfl (List.forall_mem_nil _)
    next id offer reserved =>
      obtain ⟨next, stepped, rfl⟩ := Option.map_eq_some_iff.mp taken
      simp only [GatewaySession.step, reserved, Option.some.injEq] at stepped
      cases sends : Go.Gateway.sendOffer offer with
      | error error =>
        rw [sends] at stepped
        subst stepped
        exact go_quiet (go_unsent place reserved error) (by simp) (List.forall_mem_nil _)
      | ok done =>
        rw [sends] at stepped
        subst stepped
        obtain ⟨free, holds⟩ := go_sent place reserved
        refine ⟨fun unasked => ?_, fun asked made => ?_, List.forall_mem_nil _⟩
        · simp at unasked
        · simp only [Option.some.injEq] at made
          subst made
          obtain ⟨f, read, named, asks⟩ := place.asks id offer reserved sends
          exact ⟨free, holds, f, read, named, asks⟩
    · cases taken
  | settle =>
    obtain ⟨next, stepped, rfl⟩ := Option.map_eq_some_iff.mp taken
    exact go_quiet (go_settle place stepped) rfl (List.forall_mem_nil _)
  | clear =>
    simp only [goRelay] at taken
    split at taken
    next id own error failing =>
      obtain ⟨next, stepped, rfl⟩ := Option.map_eq_some_iff.mp taken
      refine go_quiet (go_clear place failing stepped) rfl fun w member => ?_
      rw [List.mem_singleton] at member
      rw [member]
      exact goError_fails id error
    · cases taken
  | writeAnswer callback =>
    obtain ⟨next, stepped, rfl⟩ := Option.map_eq_some_iff.mp taken
    exact go_quiet (go_writeAnswer place stepped) rfl (List.forall_mem_nil _)

/-- The Go gateway correlates replies with offers. -/
theorem go_correlates : (goRelay outside printer shown).Correlates (wireEvents shown).labels GoPlace where
  start := by
    constructor
    · rfl
    · intro id reserved
      cases reserved
    · exact fun absent => (absent rfl).elim
    · intro id failing
      cases failing
    · intro id made reserved
      cases reserved
  request := by
    intro seen s held f k m place fresh taken
    cases k with
    | proceed failure =>
      obtain ⟨next, stepped, rfl⟩ := Option.map_eq_some_iff.mp taken
      simp only [GatewaySession.step] at stepped
      split at stepped
      next idle =>
        cases stepped
        exact go_quiet (go_read place idle fresh failure) rfl (List.forall_mem_nil _)
      · cases stepped
    | _ => cases taken
  move := go_move
  event := by
    intro seen s held e k m place expected taken
    cases k with
    | proceed failure =>
      simp only [goRelay, Option.map_eq_some_iff] at taken
      obtain ⟨next, stepped, rfl⟩ := taken
      obtain ⟨after, same⟩ := go_event place expected stepped
      refine ⟨rfl, after, fun w member => ?_⟩
      rw [List.mem_singleton] at member
      rw [member]
      refine ⟨rfl, fun id tag => ?_⟩
      have named : (if correlates e.type then Go.Gateway.idField s.pendingOfferID
          else none).filter (· ≠ "") = some id := tag
      cases reply : correlates e.type with
      | true =>
        rw [reply, if_pos rfl, same reply, Option.filter_eq_some_iff] at named
        exact ⟨reply, named.1, reply, rfl⟩
      | false =>
        rw [reply, if_neg Bool.false_ne_true] at named
        cases named
    | _ => cases taken

end Go

end VoxRtc.Browser
