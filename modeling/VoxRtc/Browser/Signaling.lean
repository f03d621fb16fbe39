import VoxRtc.Gateway.Commands
import VoxRtc.Wire.Text

/-!
# The browser's signaling client

`GatewaySignalingClient` of `typescript/vox-rtc-client/src/signaling.ts` over one
socket: the frames it sends under ids of its own making, and the map of offers that
wait for an answer.
-/
namespace VoxRtc.Browser

open Wire VoxRtc.Gateway

inductive Command where
  | offer
  | candidate
  | close
  deriving DecidableEq, Repr

def Command.stem : Command → String
  | offer => "offer"
  | candidate => "candidate"
  | close => "close"

def Command.type : Command → String
  | offer => "rtc.offer"
  | candidate => "rtc.ice_candidate"
  | close => "rtc.close"

/-- `#id`, for a counter that has reached `n`. -/
def frameId (stem : String) (n : Nat) : String := s!"{stem}-{n}"

/-- A frame on its way to the gateway. -/
structure Outgoing where
  command : Command
  number : Nat
  data : Members Binary64
  deriving Repr

namespace Outgoing

def id (f : Outgoing) : String := frameId f.command.stem f.number

/-- `JSON.stringify({ id, type, data })`, as the gateway reads it back. -/
def render (f : Outgoing) : Json Binary64 :=
  .obj [("id", .str f.id), ("type", .str f.command.type), ("data", .obj f.data)]

end Outgoing

/-- What a frame to the browser was made for: the offer Vox replies to, the frame that
failed, or nothing in particular. -/
inductive Origin where
  | reply (offer : String)
  | failure (frame : String)
  | none
  deriving DecidableEq, Repr

structure Delivered where
  frame : Frame Binary64
  origin : Origin
  deriving Repr

/-- How an `exchangeOffer` promise settles. -/
inductive Settlement where
  | resolved (sdp : String) (origin : Origin)
  | refused (type message : String) (origin : Origin)
  | timedOut
  | unsent
  | closed
  deriving DecidableEq, Repr

inductive Socket where
  | connecting
  | opened
  | closing
  | gone
  deriving DecidableEq, Repr

/-- The promise of `connect`. -/
inductive Handshake where
  | awaiting
  | ready
  | failed
  deriving DecidableEq, Repr

structure SignalingClient where
  socket : Socket
  handshake : Handshake
  queued : List Delivered
  /-- The keys of `#pending`, each with its timer running. -/
  pending : List String
  /-- A counter of JavaScript is exact below 2^53 only; the model has no bound on it. -/
  nextId : Nat
  negotiationGeneration : Nat
  closed : Bool
  settlements : List (String × Settlement)
  deriving Repr

namespace SignalingClient

def initial : SignalingClient := ⟨.connecting, .awaiting, [], [], 0, 0, false, []⟩

def settle (c : SignalingClient) (id : String) (settlement : Settlement) : SignalingClient :=
  { c with
    pending := c.pending.erase id, settlements := (id, settlement) :: c.settlements }

/-- `#rejectPending`. -/
def rejectPending (c : SignalingClient) : SignalingClient :=
  { c with
    pending := [], settlements := c.pending.map (fun id => (id, .closed)) ++ c.settlements }

def exchangeOffer (c : SignalingClient) (offer : Json Binary64) (restart : Bool) :
    SignalingClient × Option Outgoing :=
  let generation := c.negotiationGeneration + 1
  let number := c.nextId + 1
  let frame : Outgoing := ⟨.offer, number, [("offer", offer), ("restart", .bool restart),
    ("generation", .num (Binary64.ofCount generation))]⟩
  let waiting := { c with
    negotiationGeneration := generation, nextId := number, pending := c.pending ++ [frame.id] }
  if c.socket = .opened then (waiting, some frame) else (waiting.settle frame.id .unsent, none)

/-- `sendCandidate` throws before the first offer, without taking an id. -/
def sendCandidate (c : SignalingClient) (candidate : Json Binary64) :
    SignalingClient × Option Outgoing :=
  if c.negotiationGeneration < 1 then (c, none)
  else
    let number := c.nextId + 1
    let frame : Outgoing := ⟨.candidate, number, [("candidate", candidate),
      ("generation", .num (Binary64.ofCount c.negotiationGeneration))]⟩
    ({ c with nextId := number }, if c.socket = .opened then some frame else none)

def close (c : SignalingClient) (reason : String) : SignalingClient × Option Outgoing :=
  if c.closed then (c, none)
  else if c.socket = .opened then
    let number := c.nextId + 1
    ({ c with closed := true, nextId := number, socket := .gone }.rejectPending,
      some ⟨.close, number, [("reason", .str reason)]⟩)
  else ({ c with closed := true, socket := .gone }.rejectPending, none)

/-- An offer's timer fires. -/
def timeout (c : SignalingClient) (id : String) : Option SignalingClient :=
  if id ∈ c.pending then some (c.settle id .timedOut) else none

/-- The timer of `connect` fires. -/
def connectTimeout (c : SignalingClient) : Option SignalingClient :=
  if c.handshake = .awaiting then
    some { c with handshake := .failed, socket := if c.socket = .gone then .gone else .closing }
  else none

/-- `socket.onclose`. -/
def socketClosed (c : SignalingClient) : Option SignalingClient :=
  if c.socket = .gone then none
  else
    let handshake := if c.handshake = .awaiting then .failed else c.handshake
    some { c with handshake := handshake, socket := .gone }.rejectPending

def gatewayError (data : Members Binary64) : String :=
  ((data.get? "message").bind Json.str?).getD "RTC gateway request failed"

/-- The SDP text of a well-formed answer. -/
def answerDescription (data : Members Binary64) : Option String :=
  let record := (data.get? "answer").bind Json.object?
  match record.bind (·.get? "type"), record.bind (·.get? "sdp") with
  | some (.str "answer"), some (.str sdp) => some sdp
  | _, _ => none

def settlementOf (d : Delivered) : Settlement :=
  if d.frame.type = "rtc.answer" then
    match answerDescription d.frame.data with
    | some sdp => .resolved sdp d.origin
    | none => .refused d.frame.type "RTC gateway returned an invalid answer" d.origin
  else .refused d.frame.type (gatewayError d.frame.data) d.origin

def settles (type : String) : Bool := correlates type || type == "gateway.error"

/-- `#dispatch`, as far as it settles an offer. A stale candidate returns early, but a
candidate settles nothing anyway. -/
def dispatch (c : SignalingClient) (d : Delivered) : SignalingClient :=
  match d.frame.id with
  | some id =>
    if id ≠ "" ∧ id ∈ c.pending ∧ settles d.frame.type then c.settle id (settlementOf d) else c
  | none => c

/-- `data.generation` is the number `n`. -/
def carries (frame : Frame Binary64) (n : Nat) : Bool :=
  match frame.data.get? "generation" with
  | some (.num generation) => generation.strictEq (Binary64.ofCount n)
  | _ => false

/-- A candidate of another generation. -/
def stale (c : SignalingClient) (frame : Frame Binary64) : Bool :=
  frame.type == "rtc.ice_candidate" && !carries frame c.negotiationGeneration

/-- `#dispatch` hands a frame on to `onEvent` unless it is stale or settles an offer. -/
def passesOn (c : SignalingClient) (frame : Frame Binary64) : Bool :=
  !c.stale frame && !frame.id.any fun id => id != "" && id ∈ c.pending && settles frame.type

/-- `normalizeReady` accepts the bootstrap. -/
def validReady (data : Members Binary64) : Bool :=
  match (data.get? "session").bind Json.object? with
  | none => false
  | some session =>
    ((session.get? "sessionId").bind Json.str?).any (· ≠ "") &&
      match session.get? "iceServers" with
      | some (.arr _) => true
      | _ => false

/-- `socket.onmessage`. The events queued before `gateway.ready` are dispatched one by
one afterwards. -/
def receive (c : SignalingClient) (d : Delivered) : SignalingClient :=
  match c.handshake with
  | .awaiting =>
    if d.frame.type = "gateway.error" then { c with handshake := .failed }
    else if d.frame.type ≠ "gateway.ready" then { c with queued := c.queued ++ [d] }
    else if validReady d.frame.data then { c with handshake := .ready }
    else { c with handshake := .failed, socket := .gone }
  | _ => c.dispatch d

end SignalingClient

section Ids

variable {stem : String} {n : Nat}

/-- The number at the end of an id. -/
def idNumber (s : String) : Nat :=
  Nat.ofDigitChars 10 (s.toList.reverse.takeWhile Char.isDigit).reverse 0

theorem frameId_toList : (frameId stem n).toList = stem.toList ++ '-' :: Nat.toDigits 10 n := by
  simp [frameId, toString, Nat.toList_repr]

theorem idNumber_frameId : idNumber (frameId stem n) = n := by
  have digits : ∀ c ∈ (Nat.toDigits 10 n).reverse, c.isDigit = true := fun c member =>
    Nat.isDigit_of_mem_toDigits (by decide) (by decide) (List.mem_reverse.mp member)
  have ends : (frameId stem n).toList.reverse.takeWhile Char.isDigit =
      (Nat.toDigits 10 n).reverse := by
    rw [frameId_toList]
    simp only [List.reverse_append, List.reverse_cons, List.append_assoc, List.singleton_append]
    rw [List.takeWhile_append_of_pos digits, List.takeWhile_cons_of_neg (by decide)]
    simp
  rw [idNumber, ends, List.reverse_reverse, Nat.ofDigitChars_ten_toDigits]

theorem Outgoing.id_ne {f g : Outgoing} (apart : f.number ≠ g.number) : f.id ≠ g.id := by
  intro same
  apply apart
  have numbers := congrArg idNumber same
  simpa only [Outgoing.id, idNumber_frameId] using numbers

end Ids

end VoxRtc.Browser
