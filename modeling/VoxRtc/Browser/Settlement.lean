import VoxRtc.Browser.Signaling
import VoxRtc.Correlation.Desk
import VoxRtc.Transition.Runs

/-!
# Offers of the signaling client

`GatewaySignalingClient` of `typescript/vox-rtc-client/src/signaling.ts` with the timers
and the promises of its offers. `#pending` is a desk: a promise waits under the id of its
frame, the alarm is its timer, and a reply is a call of `resolve` or `reject`.

`close` rejects the offers last. `WebSocket.close` throws before that if the reason is too
long, and a second `close` does nothing.
-/
namespace VoxRtc.Browser

open Transition Correlation Wire VoxRtc.Gateway

/-- A call of `resolve` or `reject`. -/
inductive Reply where
  | resolved (sdp : String)
  | rejected (message : String)
  deriving DecidableEq, Repr

/-- A message of the socket; `none` stands for a text that is no JSON. -/
inductive RawMessage where
  | binary
  | text (value : Option (Json Binary64))

def envelope (record : Members Binary64) : Except String (Frame Binary64) :=
  match record.get? "type", (record.get? "data").bind Json.object? with
  | some (.str type), some data => .ok ⟨(record.get? "id").bind Json.str?, type, data⟩
  | _, _ => .error "RTC gateway sent an invalid event envelope"

def parseEvent : RawMessage → Except String (Frame Binary64)
  | .binary => .error "RTC gateway messages must be text JSON"
  | .text none => .error "RTC gateway sent invalid JSON"
  | .text (some value) => match value.object? with
    | none => .error "RTC gateway sent an invalid event envelope"
    | some record => envelope record

structure GatewaySignalingClient where
  /-- `#socket`, which is null where it is `gone`. -/
  socket : Socket
  /-- Its handlers have not been detached. -/
  attached : Bool
  /-- The flag and the timer of the last `connect`. -/
  settled : Bool
  connecting : Bool
  queued : List (Frame Binary64)
  /-- What is left of the loop over `queued`. -/
  draining : List (Frame Binary64)
  pending : Desk String Reply
  /-- As in `SignalingClient`, exact below 2^53 only. -/
  nextId : Nat
  negotiationGeneration : Nat
  closed : Bool

namespace GatewaySignalingClient

def initial : GatewaySignalingClient :=
  ⟨.gone, false, false, false, [], [], ⟨∅, [], [], [], [], 0, 0⟩, 0, 0, false⟩

/-- `rejectReady`. -/
def rejectReady (c : GatewaySignalingClient) : GatewaySignalingClient :=
  if c.settled then c else { c with settled := true, connecting := false }

def rejectPending (c : GatewaySignalingClient) (message : String) : GatewaySignalingClient :=
  { c with pending := c.pending.answerAll fun _ => .rejected message }

/-- `connect` throws while there is a socket. -/
def connect (c : GatewaySignalingClient) : Option GatewaySignalingClient :=
  if c.socket = .gone then
    some { c with
      socket := .connecting, attached := true, settled := false, connecting := true, queued := [] }
  else none

/-- `sends` tells whether `socket.send` returns. -/
def exchangeOffer (c : GatewaySignalingClient) (sends : Bool) : GatewaySignalingClient :=
  let id := frameId "offer" (c.nextId + 1)
  let waiting := { c with
    negotiationGeneration := c.negotiationGeneration + 1
    nextId := c.nextId + 1
    pending := c.pending.call.enter id c.pending.calls }
  if c.socket = .opened ∧ sends then waiting
  else { waiting with
    pending := waiting.pending.answer id (.rejected "RTC gateway signaling is not ready") }

def sendCandidate (c : GatewaySignalingClient) : GatewaySignalingClient :=
  if c.negotiationGeneration < 1 then c else { c with nextId := c.nextId + 1 }

/-- `WebSocket.close` refuses a reason of more than 123 bytes. -/
def CloseThrows (c : GatewaySignalingClient) (reason : String) : Prop :=
  c.socket ≠ .gone ∧ 123 < reason.utf8ByteSize

instance (c : GatewaySignalingClient) (reason : String) : Decidable (c.CloseThrows reason) :=
  inferInstanceAs (Decidable (_ ∧ _))

/-- `close`, up to `socket.close`. -/
def closing (c : GatewaySignalingClient) : GatewaySignalingClient :=
  let nextId := if c.socket = .opened then c.nextId + 1 else c.nextId
  { c with closed := true, nextId := nextId, attached := false }

def close (c : GatewaySignalingClient) (reason : String) : GatewaySignalingClient :=
  if c.closed then c
  else if c.CloseThrows reason then c.closing
  else { c.closing with socket := .gone }.rejectPending s!"RTC gateway closed: {reason}"

/-- What an offer hears from a frame with its id. -/
def reply (event : Frame Binary64) : Reply :=
  if event.type = "rtc.answer" then
    match SignalingClient.answerDescription event.data with
    | some sdp => .resolved sdp
    | none => .rejected "RTC gateway returned an invalid answer"
  else .rejected (SignalingClient.gatewayError event.data)

def stale (c : GatewaySignalingClient) (event : Frame Binary64) : Bool :=
  event.type == "rtc.ice_candidate" && !SignalingClient.carries event c.negotiationGeneration

def dispatch (c : GatewaySignalingClient) (event : Frame Binary64) : GatewaySignalingClient :=
  if c.stale event then c
  else match event.id with
    | none => c
    | some id =>
      if id ≠ "" ∧ SignalingClient.settles event.type then
        { c with pending := c.pending.answer id (reply event) }
      else c

/-- A message that parses. -/
def receive (c : GatewaySignalingClient) (event : Frame Binary64) : GatewaySignalingClient :=
  if c.settled then c.dispatch event
  else if event.type = "gateway.error" then c.rejectReady
  else if event.type ≠ "gateway.ready" then { c with queued := c.queued ++ [event] }
  else if SignalingClient.validReady event.data then
    { c with
      settled := true, connecting := false, draining := c.draining ++ c.queued, queued := [] }
  -- The offers sent so far keep their timers here.
  else { c.rejectReady with socket := .gone, attached := false }

/-- A message that does not. -/
def malformed (c : GatewaySignalingClient) (message : String) : GatewaySignalingClient :=
  { c.rejectReady.rejectPending message with socket := .gone, attached := false }

def socketClosed (c : GatewaySignalingClient) (reason : String) : GatewaySignalingClient :=
  { c.rejectReady.rejectPending s!"RTC gateway closed: {reason}" with
    socket := .gone, attached := false }

/-- The callback of an offer's timer. -/
def offerTimedOut (c : GatewaySignalingClient) (v : Visit String) : GatewaySignalingClient :=
  { c with
    pending := c.pending.leave v.key v.caller (.rejected "RTC gateway offer timed out")
      (c.pending.set.erase v.alarm) c.pending.rung }

end GatewaySignalingClient

/-- What happens to a client. What a callback of the client calls is a step of its own. -/
inductive SignalingStep where
  | connect
  | readyState (socket : Socket)
  | exchangeOffer (sends : Bool)
  | sendCandidate
  | close (reason : String)
  | message (raw : RawMessage)
  | drain
  | offerTimer (v : Visit String)
  | connectTimer
  | socketError
  | socketClose (reason : String)

namespace GatewaySignalingClient

def step (c : GatewaySignalingClient) : SignalingStep → Option GatewaySignalingClient
  | .connect => c.connect
  | .readyState socket =>
    if c.socket = .gone ∨ socket = .gone then none else some { c with socket := socket }
  | .exchangeOffer sends => some (c.exchangeOffer sends)
  | .sendCandidate => some c.sendCandidate
  | .close reason => some (c.close reason)
  | .message raw =>
    if c.attached then
      match parseEvent raw with
      | .error message => some (c.malformed message)
      | .ok event => some (c.receive event)
    else none
  | .drain => match c.draining with
    | [] => none
    | event :: rest => some ({ c with draining := rest }.dispatch event)
  | .offerTimer v =>
    if v ∈ c.pending.visits ∧ v.alarm ∈ c.pending.set then some (c.offerTimedOut v) else none
  | .connectTimer =>
    if c.connecting then some { c.rejectReady with connecting := false, socket :=
      if c.socket = .gone then .gone else .closing }
    else none
  | .socketError => if c.attached then some c.rejectReady else none
  | .socketClose reason => if c.attached then some (c.socketClosed reason) else none

end GatewaySignalingClient

def offers : System GatewaySignalingClient SignalingStep :=
  ⟨.initial, GatewaySignalingClient.step⟩

namespace GatewaySignalingClient

/-- The step handles this frame: it has just come in or it was queued. -/
def Handles (c : GatewaySignalingClient) (event : Frame Binary64) : SignalingStep → Prop
  | .message raw => parseEvent raw = .ok event
  | .drain => c.draining.head? = some event
  | _ => False

/-- The step ends the connection for all offers. -/
def Ends : SignalingStep → Prop
  | .close _ | .socketClose _ => True
  | .message raw => ¬(parseEvent raw).isOk
  | _ => False

/-- Where the offers stand. -/
structure Settled (c : GatewaySignalingClient) : Prop where
  /-- An offer is settled by one call, or it is in the map with its timer running. -/
  once : ∀ v ∈ c.pending.visits,
    (c.pending.answers v = 1 ∧ v.key ∉ c.pending.waiting) ∨
      (c.pending.answers v = 0 ∧ c.pending.waiting.lookup v.key = some v.ticket ∧
        v.alarm ∈ c.pending.set)
  /-- The map holds the unsettled offers. -/
  map : ∀ id ticket, c.pending.waiting.lookup id = some ticket ↔
    ∃ v ∈ c.pending.visits, v.key = id ∧ v.ticket = ticket ∧ c.pending.answers v = 0
  ids : (c.pending.visits.map Visit.key).Nodup
  /-- A timer that runs belongs to an offer in the map. -/
  timers : ∀ alarm ∈ c.pending.set, ∃ v ∈ c.pending.visits, v.alarm = alarm ∧
    c.pending.waiting.lookup v.key = some v.ticket

/-- What a step does to the offers there are. -/
structure Settles (c : GatewaySignalingClient) (l : SignalingStep) (d : GatewaySignalingClient) :
    Prop where
  offers : c.pending.visits.Sublist d.pending.visits
  /-- A frame settles the offer whose id it carries, and no other. -/
  frame : ∀ event, c.Handles event l → ∀ v ∈ c.pending.visits,
    d.pending.answers v ≠ c.pending.answers v → event.id = some v.key

/-- The map is empty, and no timer of an offer runs. -/
def Emptied (c : GatewaySignalingClient) : Prop := c.pending.waiting = ∅ ∧ c.pending.set = []

/-- `close` gets a reason that the socket takes, and `connect` is not called after it. -/
def Fits (c : GatewaySignalingClient) : SignalingStep → Prop
  | .connect => c.closed = false
  | .close reason => ¬c.CloseThrows reason
  | _ => True

instance (c : GatewaySignalingClient) : ∀ l, Decidable (c.Fits l)
  | .connect => inferInstanceAs (Decidable (c.closed = false))
  | .close reason => inferInstanceAs (Decidable (¬c.CloseThrows reason))
  | .readyState _ | .exchangeOffer _ | .sendCandidate | .message _ | .drain | .offerTimer _
  | .connectTimer | .socketError | .socketClose _ => isTrue trivial

/-- A step that ends the connection gets as far as `#rejectPending`, or there is no offer left
to reject. -/
def Completes (c : GatewaySignalingClient) : SignalingStep → Prop
  | .close reason => c.closed = false ∧ ¬c.CloseThrows reason ∨ c.pending.waiting = ∅
  | _ => True

variable {c d : GatewaySignalingClient} {l : SignalingStep}

@[simp] theorem rejectReady_pending : c.rejectReady.pending = c.pending := by
  unfold rejectReady
  split <;> rfl

@[simp] theorem rejectReady_nextId : c.rejectReady.nextId = c.nextId := by
  unfold rejectReady
  split <;> rfl

@[simp] theorem rejectReady_closed : c.rejectReady.closed = c.closed := by
  unfold rejectReady
  split <;> rfl

@[simp] theorem rejectReady_socket : c.rejectReady.socket = c.socket := by
  unfold rejectReady
  split <;> rfl

/-- The fields that do not say where the offers stand. -/
structure Apart (c : GatewaySignalingClient) (l : SignalingStep) (d : GatewaySignalingClient) :
    Prop where
  nextId : c.nextId ≤ d.nextId
  closed : d.closed = c.closed
  gone : c.Fits l → c.closed = true → c.socket = .gone → d.socket = .gone

/-- Every way a step can deal with the offers. -/
inductive Acts (c : GatewaySignalingClient) : SignalingStep → GatewaySignalingClient → Prop
  | idle {l : SignalingStep} {d : GatewaySignalingClient} (apart : Apart c l d)
      (pending : d.pending = c.pending) (goesOn : ¬Ends l) : Acts c l d
  /-- A second `close` does nothing. -/
  | again (reason : String) (closed : c.closed = true) : Acts c (.close reason) c
  | breaks (reason : String) (first : c.closed = false) (throws : c.CloseThrows reason) :
      Acts c (.close reason) c.closing
  | offers (sends : Bool) : Acts c (.exchangeOffer sends) (c.exchangeOffer sends)
  | answers {l : SignalingStep} {d : GatewaySignalingClient} (apart : Apart c l d) (id : String)
      (reply : Reply) (pending : d.pending = c.pending.answer id reply)
      (own : ∀ event, c.Handles event l → event.id = some id) (goesOn : ¬Ends l) : Acts c l d
  | expires (v : Visit String) (visit : v ∈ c.pending.visits) (still : v.alarm ∈ c.pending.set) :
      Acts c (.offerTimer v) (c.offerTimedOut v)
  | rejects {l : SignalingStep} {d : GatewaySignalingClient} (message : String)
      (nextId : c.nextId ≤ d.nextId) (gone : d.socket = .gone)
      (pending : d.pending = c.pending.answerAll fun _ => .rejected message)
      (unheard : ∀ event, ¬c.Handles event l) (completes : c.Completes l) : Acts c l d

theorem closing_nextId : c.nextId ≤ c.closing.nextId := by
  dsimp only [closing]
  split <;> omega

theorem acts_dispatch {event : Frame Binary64} {e : GatewaySignalingClient}
    (apart : Apart c l e) (pending : e.pending = c.pending)
    (own : ∀ other, c.Handles other l → other = event) (goesOn : ¬Ends l) :
    Acts c l (e.dispatch event) := by
  unfold dispatch
  split
  · exact .idle apart pending goesOn
  · cases id : event.id with
    | none => exact .idle apart pending goesOn
    | some text =>
      dsimp only
      split
      · refine .answers ⟨apart.nextId, apart.closed, apart.gone⟩ text (reply event) ?_ ?_ goesOn
        · rw [← pending]
        · intro other handles
          rw [own other handles, id]
      · exact .idle apart pending goesOn

theorem acts_receive {event : Frame Binary64} (own : ∀ other, c.Handles other l → other = event)
    (goesOn : ¬Ends l) : Acts c l (c.receive event) := by
  have here : Apart c l c := ⟨Nat.le_refl _, rfl, fun _ _ gone => gone⟩
  have rejected : Apart c l c.rejectReady := by
    constructor
    · rw [rejectReady_nextId]
    · rw [rejectReady_closed]
    · intro _ _ gone
      rw [rejectReady_socket, gone]
  unfold receive
  split
  · exact acts_dispatch here rfl own goesOn
  · split
    · exact .idle rejected rejectReady_pending goesOn
    · split
      · exact .idle ⟨Nat.le_refl _, rfl, fun _ _ gone => gone⟩ rfl goesOn
      · split
        · exact .idle ⟨Nat.le_refl _, rfl, fun _ _ gone => gone⟩ rfl goesOn
        · exact .idle ⟨rejected.nextId, rejected.closed, fun _ _ _ => rfl⟩ rejectReady_pending
            goesOn

theorem close_of_throws {reason : String} (first : c.closed = false)
    (throws : c.CloseThrows reason) : c.close reason = c.closing := by
  rw [close, first, if_neg Bool.false_ne_true, if_pos throws]

theorem acts_close (reason : String) : Acts c (.close reason) (c.close reason) := by
  unfold close
  split
  next closed => exact .again reason closed
  next first =>
    have first : c.closed = false := Bool.eq_false_of_not_eq_true first
    split
    next throws => exact .breaks reason first throws
    next returns =>
      exact .rejects _ closing_nextId rfl rfl (fun _ handles => handles) (.inl ⟨first, returns⟩)

theorem acts_of_step (taken : c.step l = some d) : Acts c l d := by
  have here : Apart c l c := ⟨Nat.le_refl _, rfl, fun _ _ gone => gone⟩
  cases l with
  | connect =>
    simp only [step, connect, Option.ite_none_right_eq_some, Option.some.injEq] at taken
    obtain ⟨_, rfl⟩ := taken
    refine .idle ⟨Nat.le_refl _, rfl, fun still closed => ?_⟩ rfl id
    cases closed.symm.trans still
  | readyState socket =>
    simp only [step, Option.ite_none_left_eq_some, Option.some.injEq, not_or] at taken
    obtain ⟨⟨present, _⟩, rfl⟩ := taken
    exact .idle ⟨Nat.le_refl _, rfl, fun _ _ gone => absurd gone present⟩ rfl id
  | exchangeOffer sends =>
    cases taken
    exact .offers sends
  | sendCandidate =>
    cases taken
    unfold sendCandidate
    split
    · exact .idle here rfl id
    · exact .idle ⟨Nat.le_succ _, rfl, fun _ _ gone => gone⟩ rfl id
  | close reason =>
    cases taken
    exact acts_close reason
  | message raw =>
    simp only [step, Option.ite_none_right_eq_some] at taken
    obtain ⟨_, taken⟩ := taken
    cases parsed : parseEvent raw with
    -- A frame that cannot be read ends the client, and nobody has answered.
    | error message =>
      simp only [parsed, Option.some.injEq] at taken
      subst taken
      refine .rejects message ?_ rfl ?_ ?_ trivial
      · exact Nat.le_of_eq rejectReady_nextId.symm
      · simp only [malformed, rejectPending, rejectReady_pending]
      · intro event handles
        rw [Handles, parsed] at handles
        cases handles
    | ok event =>
      simp only [parsed, Option.some.injEq] at taken
      subst taken
      refine acts_receive (fun other handles => ?_) ?_
      · rw [Handles, parsed] at handles
        cases handles
        rfl
      · simp [Ends, parsed, Except.isOk, Except.toBool]
  | drain =>
    simp only [step] at taken
    cases left : c.draining with
    | nil =>
      rw [left] at taken
      cases taken
    | cons event rest =>
      simp only [left, Option.some.injEq] at taken
      subst taken
      refine acts_dispatch ⟨Nat.le_refl _, rfl, fun _ _ gone => gone⟩ rfl
        (fun other handles => ?_) id
      rw [Handles, left] at handles
      cases handles
      rfl
  -- The timer of one offer concerns no other.
  | offerTimer v =>
    simp only [step, Option.ite_none_right_eq_some, Option.some.injEq] at taken
    obtain ⟨⟨visit, still⟩, rfl⟩ := taken
    exact .expires v visit still
  | connectTimer =>
    simp only [step, Option.ite_none_right_eq_some, Option.some.injEq] at taken
    obtain ⟨_, rfl⟩ := taken
    refine .idle ⟨?_, ?_, fun _ _ gone => if_pos gone⟩ rejectReady_pending id
    · exact Nat.le_of_eq rejectReady_nextId.symm
    · exact rejectReady_closed
  | socketError =>
    simp only [step, Option.ite_none_right_eq_some, Option.some.injEq] at taken
    obtain ⟨_, rfl⟩ := taken
    refine .idle ⟨?_, ?_, fun _ _ gone => ?_⟩ rejectReady_pending id
    · exact Nat.le_of_eq rejectReady_nextId.symm
    · exact rejectReady_closed
    · rw [rejectReady_socket, gone]
  -- All who wait are rejected.
  | socketClose reason =>
    simp only [step, Option.ite_none_right_eq_some, Option.some.injEq] at taken
    obtain ⟨_, rfl⟩ := taken
    refine .rejects s!"RTC gateway closed: {reason}" ?_ rfl ?_ (fun _ handles => handles) trivial
    · exact Nat.le_of_eq rejectReady_nextId.symm
    · simp only [socketClosed, rejectPending, rejectReady_pending]

/-- What holds at all times. Timers of offers ring and are heard at once. -/
structure Inv (c : GatewaySignalingClient) : Prop where
  good : c.pending.Good
  punctual : c.pending.Punctual
  heard : c.pending.rung = []
  ids : (c.pending.visits.map Visit.key).Nodup
  numbered : ∀ v ∈ c.pending.visits, ∃ n, v.key = frameId "offer" n ∧ n ≤ c.nextId

/-- Nobody waits at a client that has been closed. -/
def Quiet (c : GatewaySignalingClient) : Prop :=
  c.closed = true → c.socket = .gone ∧ ∀ v, ¬c.pending.Waits v

theorem inv_initial : Inv initial := by
  constructor
  · constructor <;> simp [initial, Desk.Waits]
  · constructor <;> simp [initial]
  · rfl
  · simp [initial]
  · simp [initial]

/-- The id of the next offer is new. -/
theorem fresh_id (inv : Inv c) : ∀ v ∈ c.pending.visits, v.key ≠ frameId "offer" (c.nextId + 1) := by
  intro v visit same
  obtain ⟨n, named, early⟩ := inv.numbered v visit
  have numbers := congrArg idNumber (named.symm.trans same)
  rw [idNumber_frameId, idNumber_frameId] at numbers
  omega

theorem fresh_lookup (inv : Inv c) :
    c.pending.call.waiting.lookup (frameId "offer" (c.nextId + 1)) = none := by
  by_contra found
  obtain ⟨ticket, found⟩ := Option.ne_none_iff_exists'.mp found
  have visit := inv.good.known _ ticket found
  exact fresh_id inv _ visit rfl

/-- The desk of a client whose offers are `visits`, after a step that adds none. -/
theorem Inv.of_desk (inv : Inv c) (good : d.pending.Good) (punctual : d.pending.Punctual)
    (heard : d.pending.rung = []) (visits : d.pending.visits = c.pending.visits)
    (nextId : c.nextId ≤ d.nextId) : Inv d := by
  refine ⟨good, punctual, heard, visits ▸ inv.ids, ?_⟩
  intro v visit
  obtain ⟨n, named, early⟩ := inv.numbered v (visits ▸ visit)
  exact ⟨n, named, early.trans nextId⟩

/-- The promise of an offer enters with its timer. -/
theorem enter_inv (inv : Inv c) :
    let desk := c.pending.call.enter (frameId "offer" (c.nextId + 1)) c.pending.calls
    desk.Good ∧ desk.Punctual := by
  have free := fresh_lookup inv
  have called := inv.good.call
  constructor
  · refine called.enter free (Nat.lt_succ_self _) ?_ ?_
    · intro v visit
      exact Nat.ne_of_lt (inv.good.early v visit).1
    · intro r replied
      exact Nat.ne_of_lt (inv.good.replied r replied)
  · refine inv.punctual.call.enter called free ?_
    intro alarm rung
    have silent : c.pending.call.rung = [] := inv.heard
    rw [silent] at rung
    cases rung

/-- Numbers increase, so no offer had this id before. -/
theorem enter_ids (inv : Inv c) :
    ((c.pending.call.enter (frameId "offer" (c.nextId + 1)) c.pending.calls).visits.map
      Visit.key).Nodup := by
  rw [Desk.enter, List.map_append, List.map_singleton, ← List.concat_eq_append]
  refine inv.ids.concat fun member => ?_
  obtain ⟨v, visit, same⟩ := List.mem_map.mp member
  exact fresh_id inv v visit same

theorem answer_visits {κ ρ : Type} [DecidableEq κ] (desk : Desk κ ρ) (key : κ) (reply : ρ) :
    (desk.answer key reply).visits = desk.visits := by
  unfold Desk.answer
  split <;> rfl

theorem answer_rung {κ ρ : Type} [DecidableEq κ] (desk : Desk κ ρ) (key : κ) (reply : ρ) :
    (desk.answer key reply).rung = desk.rung := by
  unfold Desk.answer
  split <;> rfl

/-- What `exchangeOffer` leaves: the desk with the offer, which has left it again if the
frame was not sent. -/
theorem exchangeOffer_cases (c : GatewaySignalingClient) (sends : Bool) :
    let id := frameId "offer" (c.nextId + 1)
    let desk := c.pending.call.enter id c.pending.calls
    let d := c.exchangeOffer sends
    d.nextId = c.nextId + 1 ∧ d.closed = c.closed ∧ d.socket = c.socket ∧
      (d.pending = desk ∧ c.socket = .opened ∨ ∃ reply, d.pending = desk.answer id reply) := by
  dsimp only [exchangeOffer]
  split
  next opened => exact ⟨rfl, rfl, rfl, .inl ⟨rfl, opened.1⟩⟩
  · exact ⟨rfl, rfl, rfl, .inr ⟨_, rfl⟩⟩

theorem exchangeOffer_inv (inv : Inv c) (sends : Bool) : Inv (c.exchangeOffer sends) := by
  obtain ⟨nextId, closed, socket, left⟩ := exchangeOffer_cases c sends
  obtain ⟨good, punctual⟩ := enter_inv inv
  -- Whether or not it could be sent, the offer has been entered under a new id.
  have visits : (c.exchangeOffer sends).pending.visits =
      (c.pending.call.enter (frameId "offer" (c.nextId + 1)) c.pending.calls).visits := by
    rcases left with ⟨same, _⟩ | ⟨reply, same⟩
    · rw [same]
    · rw [same, answer_visits]
  constructor
  · rcases left with ⟨same, _⟩ | ⟨reply, same⟩
    · exact same ▸ good
    · exact same ▸ good.answer
  · rcases left with ⟨same, _⟩ | ⟨reply, same⟩
    · exact same ▸ punctual
    · exact same ▸ punctual.answer
  · rcases left with ⟨same, _⟩ | ⟨reply, same⟩
    · rw [same]
      exact inv.heard
    · rw [same, answer_rung]
      exact inv.heard
  · rw [visits]
    exact enter_ids inv
  · intro v visit
    rw [visits] at visit
    rw [nextId]
    rcases List.mem_append.mp visit with old | new
    · obtain ⟨n, named, early⟩ := inv.numbered v old
      exact ⟨n, named, Nat.le_succ_of_le early⟩
    · rw [List.mem_singleton.mp new]
      exact ⟨c.nextId + 1, rfl, Nat.le_refl _⟩
theorem inv_step (inv : Inv c) (taken : c.step l = some d) : Inv d := by
  cases acts_of_step taken with
  | idle apart pending goesOn =>
    refine inv.of_desk ?_ ?_ ?_ ?_ apart.nextId
    · exact pending ▸ inv.good
    · exact pending ▸ inv.punctual
    · exact pending ▸ inv.heard
    · rw [pending]
  -- A client that is closed already.
  | again reason closed => exact inv
  | breaks reason first throws =>
    exact inv.of_desk inv.good inv.punctual inv.heard rfl closing_nextId
  | offers sends => exact exchangeOffer_inv inv sends
  | answers apart id reply pending own goesOn =>
    refine inv.of_desk ?_ ?_ ?_ ?_ apart.nextId
    · exact pending ▸ inv.good.answer
    · exact pending ▸ inv.punctual.answer
    · rw [pending, answer_rung]
      exact inv.heard
    · rw [pending, answer_visits]
  | expires v visit still =>
    -- The timer rings, and what it does is to take its own entry out.
    have rings : (c.pending.ring v.alarm).expire v.alarm (.rejected "RTC gateway offer timed out") =
        (c.offerTimedOut v).pending := inv.punctual.ring_expire inv.good inv.heard visit still
    refine inv.of_desk ?_ ?_ inv.heard rfl (Nat.le_refl _)
    · rw [← rings]
      exact (inv.good.ring v.alarm).expire
    · rw [← rings]
      exact (inv.punctual.ring inv.good still).expire (List.mem_append_right _ (List.mem_singleton_self _))
  -- Nobody waits any more, and the timers have been cleared.
  | rejects message nextId gone pending unheard completes =>
    refine inv.of_desk ?_ ?_ ?_ ?_ nextId
    · exact pending ▸ inv.good.answerAll _
    · exact pending ▸ inv.punctual.answerAll _
    · rw [pending]
      exact inv.heard
    · rw [pending]
      rfl

theorem invariant (reached : offers.Reaches always c) : Inv c :=
  System.Reaches.preserves inv_initial (fun _ _ _ inv _ taken => inv_step inv taken) reached

/-- A closed client has no socket, so that an offer has left again when it is made. -/
theorem exchangeOffer_quiet (inv : Inv c) (quiet : c.Quiet) (sends : Bool) :
    (c.exchangeOffer sends).Quiet := by
  obtain ⟨_, closed, socket, left⟩ := exchangeOffer_cases c sends
  intro isClosed
  obtain ⟨gone, nobody⟩ := quiet (closed ▸ isClosed)
  refine ⟨socket.trans gone, fun v waits => ?_⟩
  rcases left with ⟨_, opened⟩ | ⟨reply, same⟩
  · rw [gone] at opened
    cases opened
  · rw [same, Desk.waits_answer, Desk.waits_enter (fresh_lookup inv)] at waits
    obtain ⟨rfl | old, other⟩ := waits
    · exact other rfl
    · exact nobody v old

theorem quiet_step (inv : Inv c) (quiet : c.Quiet) (fits : c.Fits l) (taken : c.step l = some d) :
    d.Quiet := by
  cases acts_of_step taken with
  | idle apart pending goesOn =>
    intro closed
    rw [apart.closed] at closed
    obtain ⟨gone, nobody⟩ := quiet closed
    exact ⟨apart.gone fits closed gone, pending ▸ nobody⟩
  | again reason closed => exact quiet
  | breaks reason first throws => exact absurd throws fits
  | offers sends => exact exchangeOffer_quiet inv quiet sends
  | answers apart id reply pending own goesOn =>
    intro closed
    rw [apart.closed] at closed
    obtain ⟨gone, nobody⟩ := quiet closed
    refine ⟨apart.gone fits closed gone, fun v waits => nobody v ?_⟩
    rw [pending, Desk.waits_answer] at waits
    exact waits.1
  | expires v visit still =>
    intro closed
    exact absurd (inv.punctual.waits inv.good visit still) ((quiet closed).2 v)
  | rejects message nextId gone pending unheard completes =>
    refine fun _ => ⟨gone, fun v waits => ?_⟩
    rw [pending] at waits
    cases waits

theorem quiet_reaches (reached : offers.Reaches Fits c) : Inv c ∧ c.Quiet := by
  induction reached with
  | here =>
    refine ⟨inv_initial, fun closed => ?_⟩
    cases closed
  | step l _ fits taken ih => exact ⟨inv_step ih.1 taken, quiet_step ih.1 ih.2 fits taken⟩

theorem Inv.settled (inv : Inv c) : c.Settled := by
  -- Two offers with one id are one.
  have same {v w : Visit String} (visit : v ∈ c.pending.visits) (other : w ∈ c.pending.visits)
      (key : v.key = w.key) : v = w := List.inj_on_of_nodup_map inv.ids visit other key
  have absent {v : Visit String} (visit : v ∈ c.pending.visits) (gone : ¬c.pending.Waits v) :
      v.key ∉ c.pending.waiting := by
    intro member
    obtain ⟨ticket, found⟩ := Option.isSome_iff_exists.mp (AList.lookup_isSome.mpr member)
    have known := inv.good.known _ ticket found
    have equal := same visit known rfl
    apply gone
    rw [Desk.Waits, found, equal]
    rfl
  constructor
  · intro v visit
    rcases inv.good.once v visit with ⟨waits, unanswered⟩ | ⟨gone, answered⟩
    · right
      refine ⟨unanswered, waits, ?_⟩
      rcases inv.good.alarmed v waits with still | rung
      · exact still
      · rw [inv.heard] at rung
        cases rung
    · exact .inl ⟨answered, absent visit gone⟩
  · intro id ticket
    constructor
    · intro found
      have known := inv.good.known id ticket found
      refine ⟨_, known, rfl, rfl, ?_⟩
      rcases inv.good.once _ known with ⟨_, unanswered⟩ | ⟨gone, _⟩
      · exact unanswered
      · exact absurd found gone
    · rintro ⟨v, visit, rfl, rfl, unanswered⟩
      rcases inv.good.once v visit with ⟨waits, _⟩ | ⟨_, answered⟩
      · exact waits
      · rw [unanswered] at answered
        cases answered
  · exact inv.ids
  · intro alarm still
    obtain ⟨v, waits, rfl⟩ := inv.punctual.live alarm still
    exact ⟨v, inv.good.visit_of_waits waits, rfl, waits⟩

/-- Whom a step answers. -/
theorem Inv.settles (inv : Inv c) (taken : c.step l = some d) : c.Settles l d := by
  cases acts_of_step taken with
  | idle apart pending goesOn =>
    constructor
    · rw [pending]
    · intro event _ v _ changed
      rw [pending] at changed
      exact absurd rfl changed
  | again reason closed =>
    constructor
    · rfl
    · intro event _ v _ changed
      exact absurd rfl changed
  | breaks reason first throws =>
    constructor
    · rfl
    · intro event handles
      cases handles
  | offers sends =>
    obtain ⟨_, _, _, left⟩ := exchangeOffer_cases c sends
    constructor
    · rcases left with ⟨same, _⟩ | ⟨reply, same⟩
      · rw [same]
        exact List.sublist_append_left _ _
      · rw [same, answer_visits]
        exact List.sublist_append_left _ _
    · intro event handles
      cases handles
  | answers apart id reply pending own goesOn =>
    constructor
    · rw [pending, answer_visits]
    · intro event handles v visit changed
      rw [own event handles]
      -- An answer with another id cannot have changed it.
      by_contra other
      apply changed
      rw [pending]
      refine (Desk.Gives.answer inv.good).answers visit ?_
      rintro r ⟨key, _⟩
      exact other (congrArg some key.symm)
  | expires v visit still =>
    constructor
    · rfl
    · intro event handles
      cases handles
  | rejects message nextId gone pending unheard completes =>
    constructor
    · rw [pending]
      rfl
    · intro event handles
      exact absurd handles (unheard event)

theorem Inv.emptied_iff (inv : Inv c) : c.Emptied ↔ c.pending.waiting = ∅ := by
  refine ⟨And.left, fun empty => ⟨empty, Desk.set_nil inv.punctual fun v waits => ?_⟩⟩
  rw [Desk.Waits, empty] at waits
  cases waits

/-- The end of the connection leaves no offer exactly if it gets as far as `#rejectPending`. -/
theorem Inv.ends (inv : Inv c) (taken : c.step l = some d) (ends : Ends l) :
    d.Emptied ↔ c.Completes l := by
  rw [(inv_step inv taken).emptied_iff]
  cases acts_of_step taken with
  | idle apart pending goesOn => exact absurd ends goesOn
  | again reason closed => simp [Completes, closed]
  | breaks reason first throws =>
    rw [Completes, or_iff_right (fun returns => returns.2 throws)]
    rfl
  | offers sends => cases ends
  | answers apart id reply pending own goesOn => exact absurd ends goesOn
  | expires v visit still => cases ends
  | rejects message nextId gone pending unheard completes =>
    rw [pending]
    exact iff_of_true rfl completes

theorem Quiet.completes (quiet : c.Quiet) (fits : c.Fits l) : c.Completes l := by
  cases l with
  | close reason =>
    cases closed : c.closed with
    | false => exact .inl ⟨closed, fits⟩
    | true => exact .inr (Desk.waiting_empty (quiet closed).2)
  | _ => trivial

end GatewaySignalingClient

open GatewaySignalingClient in
/-- Offers are settled once, by their own answer, error, timer or failure, or with all the
others when the connection ends, in runs whose steps all meet `C`. -/
structure OffersSettled (C : GatewaySignalingClient → SignalingStep → Prop) : Prop where
  settled : ∀ c, offers.Reaches always c → c.Settled
  settles : ∀ c, offers.Reaches always c → ∀ l d, c.step l = some d → c.Settles l d
  /-- No offer is left when the connection ends. -/
  emptied : ∀ c, offers.Reaches C c → ∀ l d, C c l → c.step l = some d → Ends l → d.Emptied
  /-- In any other run as well, exactly if the step completes. -/
  exactly : ∀ c, offers.Reaches always c → ∀ l d, c.step l = some d → Ends l →
    (d.Emptied ↔ c.Completes l)

theorem offers_settled {C : GatewaySignalingClient → SignalingStep → Prop}
    (fits : ∀ c l, C c l → c.Fits l) : OffersSettled C where
  settled _ reached := (GatewaySignalingClient.invariant reached).settled
  settles _ reached _ _ taken := (GatewaySignalingClient.invariant reached).settles taken
  emptied c reached l d met taken ends := by
    obtain ⟨inv, quiet⟩ := GatewaySignalingClient.quiet_reaches (reached.mono fits)
    exact (inv.ends taken ends).mpr (quiet.completes (fits c l met))
  exactly _ reached _ _ taken := (GatewaySignalingClient.invariant reached).ends taken

/-- Three offers: the second is answered, the third cannot be sent. -/
def settlingRun : List SignalingStep :=
  let answer : Json Binary64 := .obj [("id", .str "offer-2"), ("type", .str "rtc.answer"),
    ("data", .obj [("answer", .obj [("type", .str "answer"), ("sdp", .str "v=0")])])]
  [.connect, .readyState .opened, .exchangeOffer true, .exchangeOffer true, .socketError,
    .message (.text (some answer)), .exchangeOffer false]

/-- The first of them meets `close`. -/
theorem offers_settled_run : ∃ c d, offers.run offers.init settlingRun = some c ∧
    c.Settled ∧ c.pending.waiting.lookup "offer-1" = some ⟨0, 0⟩ ∧
      c.step (.close "done") = some d ∧ d.Emptied ∧
        d.pending.visits.length = 3 ∧ d.pending.replies.map Prod.fst = [1, 2, 0] := by
  have held := offers_settled (C := GatewaySignalingClient.Fits) fun _ _ => id
  have reached := System.leads_of_run (M := offers) (C := GatewaySignalingClient.Fits)
    (s := offers.init) settlingRun (by decide) rfl
  have settled := held.settled _ (reached.mono fun _ _ _ => trivial)
  have emptied := held.emptied _ reached (.close "done") _ (by decide) rfl trivial
  exact ⟨_, _, rfl, settled, rfl, rfl, emptied, rfl, rfl⟩

/-- 124 bytes, where `WebSocket.close` takes 123. -/
def longReason : String := String.ofList (List.replicate 124 'x')

theorem longReason_throws {c : GatewaySignalingClient} (present : c.socket ≠ .gone) :
    c.CloseThrows longReason := ⟨present, by decide +kernel⟩

/-- An offer waits, and `close` throws before it rejects it. -/
theorem offer_outlives_close : ∃ c,
    offers.run offers.init [.connect, .readyState .opened, .exchangeOffer true] = some c ∧
      ∃ d, c.step (.close longReason) = some d ∧ d.closed = true ∧
        d.pending.waiting.lookup "offer-1" = some ⟨0, 0⟩ ∧ d.pending.set = [⟨0, "offer-1"⟩] := by
  have present : Socket.opened ≠ .gone := by decide
  exact ⟨_, rfl, _, congrArg some (GatewaySignalingClient.close_of_throws rfl
    (longReason_throws present)), rfl, rfl, rfl⟩

end VoxRtc.Browser
