import VoxRtc.Browser.Relay.Dialects
import VoxRtc.Browser.Settlement
import VoxRtc.Elixir.Gateway.Offers

/-!
# The Elixir gateway as a relay

The callbacks of the socket run one after the other. An event whose frame is no envelope for the
browser still takes the place for an offer.
-/
namespace VoxRtc.Browser

open Transition Correlation Wire VoxRtc.Gateway

section Elixir

open Elixir (Libraries Number)
open Elixir.Gateway (answersOffer wireEvent)

variable (lib : Libraries) (printer : Printer) (shown : Number → Binary64)

/-- A frame of the socket as the browser reads it. -/
def heardFrame (frame : Json Number) : Option (Frame Binary64) :=
  (parseEvent (.text (some (frame.mapNumbers shown)))).toOption

def elixirEvents : Events Elixir.Event where
  replies e := (wireEvent e).any fun wire => answersOffer wire.1
  heard e := do
    let (type, data) ← wireEvent e
    let frame ← Elixir.Gateway.text type data none
    heardFrame shown frame

/-- What Vox is asked by a call that the session takes. -/
def callAsks (id : String) : Elixir.Gateway.Call → Option (String × AskedOffer)
  | .sendOffer sdp restart generation => some (id, ⟨sdp, restart, generation⟩)
  | _ => none

def elixirAsked (s : Elixir.Gateway.Socket) (lib : Libraries) (answer : Except Elixir.Term Unit) :
    Option (String × AskedOffer) :=
  match s.asks lib (.text ""), answer with
  | some (message, call), .ok () => callAsks message.id call
  | _, _ => none

/-- The frames that a callback pushes. -/
def pushes (shown : Number → Binary64) (result : Option Elixir.Gateway.Result) :
    List (Frame Binary64) :=
  (result.toList.flatMap Elixir.Gateway.Result.frames).filterMap (heardFrame shown)

/-- The socket; the choice is what the session answers to a call. -/
def elixirRelay : Relay Elixir.Gateway.Connection (Except Elixir.Term Unit) Outgoing Elixir.Event
    (Frame Binary64) String AskedOffer where
  init := { socket := { session := 0 } }
  step c
    | .request f, answer =>
      let lib := reading lib ((f.text printer).mapNumbers jasonNumber)
      let label := .frame (.text "") answer
      (c.step lib label).map fun next =>
        { state := next
          offered := elixirAsked c.socket lib answer
          written := (pushes shown (c.result lib label)).map fun frame => (frame, some f.id) }
    | .event e, _ =>
      let label := .info (.voxRtc c.socket.session e)
      (c.step lib label).map fun next =>
        { state := next
          written := (pushes shown (c.result lib label)).map fun frame => (frame, none) }
    | .nothing, _ => none

structure ElixirPlace (seen : List Outgoing) (c : Elixir.Gateway.Connection)
    (held : Option String) : Prop where
  held : c.socket.pendingOfferId = held
  known : ∀ id, c.socket.pendingOfferId = some id → id ∈ seen.map Outgoing.id

variable {lib printer shown} {seen : List Outgoing} {c next : Elixir.Gateway.Connection}
  {held : Option String} {f : Outgoing}

theorem heardFrame_filled (type : String) (id : Option String) (value : Json Number) :
    heardFrame shown (.obj (Elixir.Gateway.header type id ++ [("data", value)])) =
      (value.mapNumbers shown).object?.map fun members => ⟨id, type, members⟩ := by
  cases id <;> cases mapped : value.mapNumbers shown <;>
    simp [heardFrame, Elixir.Gateway.header, parseEvent, Json.mapNumbers,
      Json.mapNumbers.ofMembers, Json.object?, envelope, Members.get?, Json.str?, Except.toOption,
      mapped]

theorem heardFrame_empty (type : String) (id : Option String) :
    heardFrame shown (.obj (Elixir.Gateway.header type id)) = none := by
  cases id <;>
    simp [heardFrame, Elixir.Gateway.header, parseEvent, Json.mapNumbers,
      Json.mapNumbers.ofMembers, Json.object?, envelope, Members.get?, Except.toOption]

/-- A frame is heard with its type and its id, and short of the id it is the frame without one. -/
theorem heardFrame_text {type : String} {data : Elixir.Term} {id : Option String}
    {frame : Json Number} {heard : Frame Binary64}
    (written : Elixir.Gateway.text type data id = some frame)
    (read : heardFrame shown frame = some heard) :
    heard.id = id ∧ heard.type = type ∧ ∃ bare, Elixir.Gateway.text type data none = some bare ∧
      heardFrame shown bare = some { heard with id := none } := by
  rw [Elixir.Gateway.text_eq] at written ⊢
  split at written
  · cases written
    rw [heardFrame_empty] at read
    cases read
  next filled =>
    obtain ⟨value, encoded, rfl⟩ := Option.map_eq_some_iff.mp written
    rw [heardFrame_filled, Option.map_eq_some_iff] at read
    obtain ⟨members, found, rfl⟩ := read
    refine ⟨rfl, rfl, _, by rw [if_neg filled, encoded, Option.map_some], ?_⟩
    rw [heardFrame_filled, found, Option.map_some]

theorem elixir_sdp {value : Option (Json Number)} {sdp : String}
    (read : Elixir.Gateway.offer value = .ok sdp) : sdpOf value = some sdp := by
  simp only [Elixir.Gateway.offer] at read
  split at read
  next described =>
    split at read
    · cases read
      cases object : value.bind Json.object? with
      | none => simp [object, Members.get?] at described
      | some members =>
        rw [object, Option.getD_some] at described
        simp [sdpOf, object, described, Json.str?]
    · cases read
  · cases read

/-- An offer that the socket makes of a frame is the one that the frame asks for. -/
theorem elixir_asks {s : Elixir.Gateway.Socket} {sdp : String} {restart : Bool} {g : Option Nat}
    (command : s.command (f.message printer jasonNumber) = .ok (.sendOffer sdp restart g)) :
    f.Asks ⟨sdp, restart, g⟩ := by
  have typed : (f.message printer jasonNumber).type = f.command.type := rfl
  have data : (f.message printer jasonNumber).data = inDomain jasonNumber (printed printer f.data) :=
    rfl
  have free := Elixir.Gateway.command_offer command
  rw [Elixir.Gateway.Socket.command, typed, data] at command
  split at command
  next type =>
    simp only [free, Option.isSome_none, Bool.false_eq_true, if_false] at command
    obtain ⟨n, counted, rest⟩ := bind_eq_ok.mp command
    obtain ⟨text, described, last⟩ := bind_eq_ok.mp rest
    cases last
    exact asks_of_read type (fun _ _ => spelled_valued) (elixir_generation _ _ _) counted
      (elixir_sdp described) rfl
  · split at command
    · obtain ⟨_, _, rest⟩ := bind_eq_ok.mp command
      obtain ⟨_, _, last⟩ := bind_eq_ok.mp rest
      cases last
    · split at command <;> cases command

/-- Where the socket still runs, the state after a step is that of its result. -/
theorem elixir_step {l : Elixir.Gateway.Label} (taken : c.step lib l = some next) :
    ∃ result, c.result lib l = some result ∧ next.socket = result.socket := by
  rw [Elixir.Gateway.Connection.step] at taken
  split at taken
  · obtain ⟨result, made, rfl⟩ := Option.map_eq_some_iff.mp taken
    exact ⟨result, made, rfl⟩
  · cases taken

theorem mem_pushes {result : Elixir.Gateway.Result} {frame : Json Number} {heard : Frame Binary64}
    (frames : result.frames = [frame]) (member : heard ∈ pushes shown (some result)) :
    heardFrame shown frame = some heard := by
  simpa [pushes, frames] using member

theorem elixir_parses (lib : Libraries) (printer : Printer) (f : Outgoing) : Elixir.Gateway.parseMessage
    (reading lib ((f.text printer).mapNumbers jasonNumber)) "" =
      .ok (f.message printer jasonNumber) :=
  elixir_takes lib ""

/-- A refusal changes nothing, and is heard as an error with its id. -/
theorem elixir_refuse (shown : Number → Binary64) {s : Elixir.Gateway.Socket} {id : Option String}
    {error : Elixir.Term × Elixir.Term} {result : Elixir.Gateway.Result}
    (refused : s.refuse id error = some result) : result.socket = s ∧
      ∀ heard ∈ pushes shown (some result), heard.type = "gateway.error" ∧ heard.id = id := by
  obtain ⟨frame, written, rfl⟩ := Option.map_eq_some_iff.mp refused
  refine ⟨rfl, fun heard member => ?_⟩
  obtain ⟨same, typed, _⟩ := heardFrame_text written (mem_pushes rfl member)
  exact ⟨typed, same⟩

/-- The socket rejects a frame, and nothing changes, or the session takes what it asks for. -/
theorem elixir_frame (shown : Number → Binary64) {answer : Except Elixir.Term Unit}
    {result : Elixir.Gateway.Result}
    (handled : c.socket.handleIn (reading lib ((f.text printer).mapNumbers jasonNumber))
      (fun _ => some answer) (.text "") = some result) :
    (result.socket = c.socket ∧ (∀ heard ∈ pushes shown (some result),
        heard.type = "gateway.error" ∧ ∀ id, heard.id = some id → id = f.id) ∧
      elixirAsked c.socket (reading lib ((f.text printer).mapNumbers jasonNumber)) answer = none) ∨
    ∃ call, c.socket.command (f.message printer jasonNumber) = .ok call ∧ answer = .ok () ∧
      result = .ok (c.socket.called f.id call) := by
  have parsed := elixir_parses lib printer f
  simp only [Elixir.Gateway.Socket.handleIn, parsed, Elixir.Gateway.Socket.handleMessage] at handled
  cases asked : c.socket.command (f.message printer jasonNumber) with
  | error error =>
    rw [asked] at handled
    obtain ⟨same, pushed⟩ := elixir_refuse shown handled
    refine .inl ⟨same, fun heard member => ?_, ?_⟩
    · obtain ⟨typed, named⟩ := pushed heard member
      refine ⟨typed, fun id found => ?_⟩
      cases named.symm.trans found
      rfl
    · simp [elixirAsked, Elixir.Gateway.Socket.asks, parsed, asked, Except.toOption]
  | ok call =>
    rw [asked] at handled
    cases answer with
    | error reason =>
      obtain ⟨same, pushed⟩ := elixir_refuse shown handled
      refine .inl ⟨same, fun heard member => ?_, ?_⟩
      · obtain ⟨typed, named⟩ := pushed heard member
        refine ⟨typed, fun id found => ?_⟩
        rw [named] at found
        cases call <;> cases found <;> rfl
      · simp [elixirAsked]
    | ok done =>
      cases handled
      exact .inr ⟨call, rfl, rfl, rfl⟩

theorem elixirAsked_taken (lib : Libraries) {call : Elixir.Gateway.Call}
    (asked : c.socket.command (f.message printer jasonNumber) = .ok call) :
    elixirAsked c.socket (reading lib ((f.text printer).mapNumbers jasonNumber)) (.ok ()) =
      callAsks f.id call := by
  have asks : c.socket.asks (reading lib ((f.text printer).mapNumbers jasonNumber)) (.text "") =
      some (f.message printer jasonNumber, call) := by
    rw [Elixir.Gateway.Socket.asks, elixir_parses]
    simp [Except.toOption, asked]
  simp only [elixirAsked, asks]
  rfl

/-- A frame is handled while the place holds what Vox has. -/
theorem elixir_request {answer : Except Elixir.Term Unit}
    {m : Moved Elixir.Gateway.Connection (Frame Binary64) String AskedOffer}
    (place : ElixirPlace seen c held)
    (taken : (elixirRelay lib printer shown).step c (.request f) answer = some m) :
    Relay.Offers (elixirEvents shown).labels ElixirPlace (seen ++ [f]) held m := by
  have listed : f.id ∈ (seen ++ [f]).map Outgoing.id := by simp
  have more : ∀ id, c.socket.pendingOfferId = some id → id ∈ (seen ++ [f]).map Outgoing.id := by
    intro id pending
    rw [List.map_append]
    exact List.mem_append_left _ (place.known id pending)
  simp only [elixirRelay, Option.map_eq_some_iff] at taken
  obtain ⟨next, stepped, rfl⟩ := taken
  obtain ⟨result, made, socket⟩ := elixir_step stepped
  rw [made]
  rcases elixir_frame shown made with ⟨same, pushed, unasked⟩ | ⟨call, asked, rfl, rfl⟩
  · rw [same] at socket
    refine ⟨fun _ => ⟨by rw [socket]; exact place.held, by rw [socket]; exact more⟩,
      fun a asked => ?_, fun w member => ?_⟩
    · cases unasked.symm.trans asked
    · obtain ⟨heard, among, rfl⟩ := List.mem_map.mp member
      obtain ⟨typed, named⟩ := pushed heard among
      intro id tag
      have found := (Option.filter_eq_some_iff.mp tag).1
      rw [named id found]
      refine ⟨rfl, ?_⟩
      show correlates heard.type = false
      rw [typed]
      rfl
  · have silent : pushes shown (some (.ok (c.socket.called f.id call))) = [] := rfl
    have sent := elixirAsked_taken lib asked
    rw [silent, List.map_nil]
    cases call with
    | sendOffer sdp restart g =>
      have pending : next.socket.pendingOfferId = some f.id := by rw [socket]; rfl
      refine ⟨fun unasked => ?_, fun a made => ?_, nofun⟩
      · cases sent.symm.trans unasked
      · cases sent.symm.trans made
        refine ⟨place.held.symm.trans (Elixir.Gateway.command_offer asked),
          ⟨pending, fun id own => ?_⟩, f, List.mem_append_right _ (List.mem_singleton_self f), rfl,
          elixir_asks asked⟩
        cases pending.symm.trans own
        exact listed
    | sendIceCandidate | closeRtc =>
      have pending : next.socket.pendingOfferId = c.socket.pendingOfferId := by rw [socket]; rfl
      refine ⟨fun _ => ⟨pending.trans place.held, fun id own => more id (pending.symm.trans own)⟩,
        fun a made => ?_, nofun⟩
      cases sent.symm.trans made

/-- The Elixir gateway correlates replies with offers. -/
theorem elixir_correlates :
    (elixirRelay lib printer shown).Correlates (elixirEvents shown).labels ElixirPlace where
  start := ⟨rfl, nofun⟩
  request := fun place _ taken => elixir_request place taken
  move := by
    intro seen c held k m place taken
    cases taken
  event := by
    intro seen c held e k m place expected taken
    simp only [elixirRelay, Option.map_eq_some_iff] at taken
    obtain ⟨next, stepped, rfl⟩ := taken
    obtain ⟨result, made, socket⟩ := elixir_step stepped
    have handled : c.socket.handleEvent lib e = some result := by
      simpa [Elixir.Gateway.Connection.result, Elixir.Gateway.Socket.handleInfo] using made
    obtain ⟨type, data, frame, wire, written, frames, pending, _⟩ :=
      Elixir.Gateway.handleEvent_cases handled
    have replies : (elixirEvents shown).labels.replies e = answersOffer type := by
      show (wireEvent e).any _ = _
      rw [wire]
      rfl
    rw [replies, made]
    refine ⟨rfl, ?_, fun w member => ?_⟩
    · have place' := place.held
      cases reply : answersOffer type with
      | true =>
        have empty : next.socket.pendingOfferId = none := by
          rw [socket, pending, Elixir.Gateway.Socket.answered, if_pos reply]
        exact ⟨empty, fun id own => by cases empty.symm.trans own⟩
      | false =>
        have same : next.socket.pendingOfferId = c.socket.pendingOfferId := by
          rw [socket, pending, Elixir.Gateway.Socket.answered, reply, if_neg Bool.false_ne_true]
        exact ⟨same.trans place', fun id own => place.known id (same.symm.trans own)⟩
    · obtain ⟨heard, among, rfl⟩ := List.mem_map.mp member
      obtain ⟨named, typed, bare, plain, short⟩ := heardFrame_text written (mem_pushes frames among)
      refine ⟨rfl, fun id tag => ?_⟩
      have found := (Option.filter_eq_some_iff.mp tag).1
      rw [named, Elixir.Gateway.Socket.requestId] at found
      cases reply : answersOffer type with
      | true =>
        rw [reply, if_pos rfl] at found
        refine ⟨rfl, place.held.symm.trans found, ?_, ?_⟩
        · show correlates heard.type = true
          rw [typed]
          simpa [answersOffer, correlates] using reply
        · show (elixirEvents shown).heard e = _
          simp [elixirEvents, wire, plain, short]
      | false =>
        rw [reply, if_neg Bool.false_ne_true] at found
        cases found

end Elixir

end VoxRtc.Browser
