import VoxRtc.Browser.Signaling
import VoxRtc.TypeScript.Gateway.Frames

/-!
# The signaling client with the TypeScript gateway and Vox

Four channels, each first in first out. Vox replies to each forwarded offer once and in
order; whatever else it sends is not a reply. Each reply and each frame to the browser
carries the origin it was made for, which the code does not have.
-/
namespace VoxRtc.Browser

open Transition Wire VoxRtc.Gateway

/-- An event of Vox; it has an origin exactly when it replies to an offer. -/
structure VoxMessage where
  event : WireEvent Binary64
  offer : Option String
  paired : offer.isSome = correlates event.type

structure World where
  client : SignalingClient
  toGateway : List (Json Binary64)
  gateway : Progress
  toBrowser : List Delivered
  /-- The offers Vox has not replied to, named by their frames. -/
  toVox : List String
  fromVox : List VoxMessage

inductive Label where
  | socketOpens
  | exchangeOffer (offer : Json Binary64) (restart : Bool)
  | sendCandidate (candidate : Json Binary64)
  | close (reason : String)
  | timeout (id : String)
  | connectTimeout
  | socketCloses
  | deliver
  | dispatchQueued
  | gatewayReads (outcome : Outcome) (written : Bool)
  | gatewayForwards (written : Bool)
  | gatewaySends (ready : Bool) (data : Members Binary64)
  | voxReplies (type : String) (data : Members Binary64)
  | voxSends (type : String) (data : Members Binary64)

namespace World

def initial : World := ⟨.initial, [], .initial, [], [], []⟩

/-- The client acts, and what it sends enters the channel. -/
def act (w : World) (result : SignalingClient × Option Outgoing) : World :=
  { w with client := result.1, toGateway := w.toGateway ++ result.2.toList.map Outgoing.render }

/-- The error frame that answers a frame of the browser. -/
def failed (requestId : Option String) (error : CommandError) : Delivered :=
  ⟨errorFrame TypeScript.Gateway.dialect requestId error, match requestId with
    | some id => .failure id
    | none => .none⟩

/-- The gateway handles one browser frame. -/
def gatewayReads (w : World) (raw : Json Binary64) (rest : List (Json Binary64))
    (outcome : Outcome) (written : Bool) : World :=
  let handled := TypeScript.Gateway.handleMessage w.gateway (some raw) outcome
  { w with
    toGateway := rest
    gateway := handled.progress
    toVox := w.toVox ++ handled.offered.toList
    toBrowser := match handled.error with
      | some error =>
        if written then w.toBrowser ++ [failed handled.requestId error] else w.toBrowser
      | none => w.toBrowser }

/-- The gateway forwards one event of Vox. -/
def gatewayForwards (w : World) (message : VoxMessage) (rest : List VoxMessage)
    (written : Bool) : World :=
  let (progress, frame) := TypeScript.Gateway.forwardEvent w.gateway message.event
  let origin := match message.offer with
    | some offer => .reply offer
    | none => .none
  { w with
    fromVox := rest
    gateway := progress
    toBrowser := if written then w.toBrowser ++ [⟨frame, origin⟩] else w.toBrowser }

def step (w : World) : Label → Option World
  | .socketOpens =>
    if w.client.socket = .connecting then
      some { w with client := { w.client with socket := .opened } }
    else none
  | .exchangeOffer offer restart => some (w.act (w.client.exchangeOffer offer restart))
  | .sendCandidate candidate => some (w.act (w.client.sendCandidate candidate))
  | .close reason => some (w.act (w.client.close reason))
  | .timeout id => (w.client.timeout id).map fun client => { w with client := client }
  | .connectTimeout => w.client.connectTimeout.map fun client => { w with client := client }
  | .socketCloses => w.client.socketClosed.map fun client => { w with client := client }
  | .deliver => match w.toBrowser with
    | [] => none
    | d :: rest =>
      if w.client.socket = .opened ∨ w.client.socket = .closing then
        some { w with client := w.client.receive d, toBrowser := rest }
      else none
  | .dispatchQueued => match w.client.queued with
    | [] => none
    | d :: rest =>
      if w.client.handshake = .ready then
        some { w with client := { w.client with queued := rest }.dispatch d }
      else none
  | .gatewayReads outcome written => match w.toGateway with
    | [] => none
    | raw :: rest =>
      if outcome = .fatal then none else some (w.gatewayReads raw rest outcome written)
  | .gatewayForwards written => match w.fromVox with
    | [] => none
    | message :: rest => some (w.gatewayForwards message rest written)
  | .gatewaySends ready data =>
    let type := if ready then "gateway.ready" else "gateway.error"
    some { w with toBrowser := w.toBrowser ++ [⟨⟨none, type, data⟩, .none⟩] }
  | .voxReplies type data => match w.toVox with
    | [] => none
    | offer :: rest =>
      if reply : correlates type = true then
        some { w with
          toVox := rest, fromVox := w.fromVox ++ [⟨⟨type, data⟩, some offer, reply.symm⟩] }
      else none
  | .voxSends type data =>
    if other : correlates type = false then
      some { w with fromVox := w.fromVox ++ [⟨⟨type, data⟩, none, other.symm⟩] }
    else none

/-- Offers forwarded and not answered by the gateway, the oldest first. -/
def unanswered (w : World) : List String := w.fromVox.filterMap VoxMessage.offer ++ w.toVox

end World

def world : System World Label := ⟨.initial, World.step⟩

/-- The id of a frame is that of its origin. -/
def Delivered.Tagged (d : Delivered) : Prop :=
  ∀ id, d.frame.id = some id →
    (correlates d.frame.type = true → d.origin = .reply id) ∧
    (d.frame.type = "gateway.error" → d.origin = .failure id)

/-- A promise settled by a frame is settled by one that was made for its own offer. -/
def Settlement.Own (id : String) : Settlement → Prop
  | .resolved _ origin => origin = .reply id
  | .refused type _ origin =>
    (correlates type = true → origin = .reply id) ∧ (type = "gateway.error" → origin = .failure id)
  | _ => True

/-- Frames on their way to the gateway carry increasing numbers, all after the number of
the pending offer. -/
structure Numbered (sent : List Outgoing) (w : World) : Prop where
  rendered : w.toGateway = sent.map Outgoing.render
  increasing : sent.Pairwise fun f g => f.number < g.number
  counted : ∀ f ∈ sent, f.number ≤ w.client.nextId
  pending : ∀ id, w.gateway.pendingOfferId = some id →
    ∃ f : Outgoing, f.id = id ∧ f.number ≤ w.client.nextId ∧ ∀ g ∈ sent, f.number < g.number

theorem Numbered.move {sent : List Outgoing} {w w' : World} (numbered : Numbered sent w)
    (toGateway : w'.toGateway = w.toGateway) (counted : w'.client.nextId = w.client.nextId)
    (pending : w'.gateway.pendingOfferId = w.gateway.pendingOfferId) : Numbered sent w' := by
  constructor
  · rw [toGateway]
    exact numbered.rendered
  · exact numbered.increasing
  · rw [counted]
    exact numbered.counted
  · rw [counted, pending]
    exact numbered.pending

structure Inv (w : World) : Prop where
  numbered : ∃ sent, Numbered sent w
  unanswered : w.unanswered = w.gateway.pendingOfferId.toList
  tagged : ∀ d ∈ w.toBrowser, d.Tagged
  queued : ∀ d ∈ w.client.queued, d.Tagged
  own : ∀ s ∈ w.client.settlements, s.2.Own s.1

section Frames

private theorem digit_space {c : Char} (digit : c.isDigit = true) : ecmaSpace c = false := by
  simp only [Char.isDigit, ge_iff_le, Bool.and_eq_true, decide_eq_true_eq, UInt32.le_iff_toNat_le]
    at digit
  obtain ⟨low, high⟩ := digit
  have least : 48 ≤ c.toNat := low
  have most : c.toNat ≤ 57 := high
  simp only [ecmaSpace, whiteSpace, Bool.or_eq_false_iff, Bool.and_eq_false_iff, beq_eq_false_iff_ne,
    decide_eq_false_iff_not]
  omega

/-- The gateway's trimming leaves the client's ids as they are. -/
private theorem trim_id (f : Outgoing) : TypeScript.Gateway.trim f.id = f.id := by
  refine trimWith_eq (fun c first => ?_) fun c last => ?_
  · rw [Outgoing.id, frameId_toList] at first
    cases command : f.command <;> rw [command] at first <;> cases first <;> decide
  · rw [Outgoing.id, frameId_toList, List.getLast?_append_cons] at last
    have nonempty : Nat.toDigits 10 f.number ≠ [] := Nat.toDigits_ne_nil
    have member : c ∈ Nat.toDigits 10 f.number := by
      rw [List.getLast?_cons_of_ne_nil nonempty] at last
      exact List.mem_of_getLast? last
    exact digit_space (Nat.isDigit_of_mem_toDigits (by decide) (by decide) member)

private theorem id_ne_empty (f : Outgoing) : f.id ≠ "" := by
  intro empty
  have chars := congrArg String.toList empty
  rw [Outgoing.id, frameId_toList] at chars
  simp at chars

/-- The gateway reads a frame of the client back. -/
theorem parse_render (f : Outgoing) :
    TypeScript.Gateway.parseClientMessage (some f.render) = .ok ⟨f.id, f.command.type, f.data⟩ := by
  have type : TypeScript.Gateway.trim f.command.type = f.command.type := by
    cases f.command <;> decide
  have named : f.command.type ≠ "" := by cases f.command <;> decide
  have id : TypeScript.Gateway.trimmed (Members.get?
      [("id", .str f.id), ("type", .str f.command.type), ("data", .obj f.data)] "id") = f.id :=
    trim_id f
  have kind : TypeScript.Gateway.trimmed (Members.get?
      [("id", .str f.id), ("type", .str f.command.type), ("data", .obj f.data)] "type") =
        f.command.type := type
  show clientMessage _ _ (some f.data) = _
  rw [id, kind]
  simp [clientMessage, id_ne_empty f, named]

private theorem idField_id {requestId : Option String} {id : String}
    (written : TypeScript.Gateway.idField requestId = some id) : requestId = some id := by
  simp only [TypeScript.Gateway.idField, Option.filter_eq_some_iff] at written
  exact written.1

private theorem error_tagged (requestId : Option String) (error : CommandError) :
    (World.failed requestId error).Tagged := by
  intro id written
  obtain rfl : requestId = some id := idField_id written
  exact ⟨nofun, fun _ => rfl⟩

end Frames

namespace SignalingClient

/-- What a call on the client does: a frame it sends takes the next number, and the
promises it settles are settled by no frame. -/
structure Acts (c : SignalingClient) (r : SignalingClient × Option Outgoing) : Prop where
  counted : c.nextId ≤ r.1.nextId
  fresh : ∀ f ∈ r.2, c.nextId < f.number ∧ f.number ≤ r.1.nextId
  queued : r.1.queued = c.queued
  own : ∀ s ∈ r.1.settlements, s ∈ c.settlements ∨ s.2.Own s.1

variable {c : SignalingClient}

private theorem rejectPending_own {s : String × Settlement}
    (member : s ∈ c.rejectPending.settlements) : s ∈ c.settlements ∨ s.2.Own s.1 := by
  rcases List.mem_append.mp member with closed | old
  · obtain ⟨id, _, rfl⟩ := List.mem_map.mp closed
    exact .inr trivial
  · exact .inl old

theorem exchangeOffer_acts (offer : Json Binary64) (restart : Bool) :
    c.Acts (c.exchangeOffer offer restart) := by
  unfold exchangeOffer
  split
  · refine ⟨Nat.le_succ _, fun f sent => ?_, rfl, fun _ => .inl⟩
    cases sent
    exact ⟨Nat.lt_succ_self _, Nat.le_refl _⟩
  · refine ⟨Nat.le_succ _, nofun, rfl, fun s member => ?_⟩
    rcases List.mem_cons.mp member with rfl | old
    · exact .inr trivial
    · exact .inl old

theorem sendCandidate_acts (candidate : Json Binary64) : c.Acts (c.sendCandidate candidate) := by
  unfold sendCandidate
  split
  · exact ⟨Nat.le_refl _, nofun, rfl, fun _ => .inl⟩
  · refine ⟨Nat.le_succ _, fun f sent => ?_, rfl, fun _ => .inl⟩
    simp only [Option.mem_def, Option.ite_none_right_eq_some, Option.some.injEq] at sent
    obtain ⟨_, rfl⟩ := sent
    exact ⟨Nat.lt_succ_self _, Nat.le_refl _⟩

theorem close_acts (reason : String) : c.Acts (c.close reason) := by
  unfold close
  split
  · exact ⟨Nat.le_refl _, nofun, rfl, fun _ => .inl⟩
  · split
    · refine ⟨Nat.le_succ _, fun f sent => ?_, rfl, fun _ => rejectPending_own⟩
      cases sent
      exact ⟨Nat.lt_succ_self _, Nat.le_refl _⟩
    · exact ⟨Nat.le_refl _, nofun, rfl, fun _ => rejectPending_own⟩

theorem timeout_acts {id : String} {c' : SignalingClient} (fired : c.timeout id = some c') :
    c.Acts (c', none) := by
  simp only [timeout, Option.ite_none_right_eq_some, Option.some.injEq] at fired
  obtain ⟨_, rfl⟩ := fired
  refine ⟨Nat.le_refl _, nofun, rfl, fun s member => ?_⟩
  rcases List.mem_cons.mp member with rfl | old
  · exact .inr trivial
  · exact .inl old

theorem connectTimeout_acts {c' : SignalingClient} (fired : c.connectTimeout = some c') :
    c.Acts (c', none) := by
  simp only [connectTimeout, Option.ite_none_right_eq_some, Option.some.injEq] at fired
  obtain ⟨_, rfl⟩ := fired
  exact ⟨Nat.le_refl _, nofun, rfl, fun _ => .inl⟩

theorem socketClosed_acts {c' : SignalingClient} (fired : c.socketClosed = some c') :
    c.Acts (c', none) := by
  simp only [socketClosed, Option.ite_none_left_eq_some, Option.some.injEq] at fired
  obtain ⟨_, rfl⟩ := fired
  exact ⟨Nat.le_refl _, nofun, rfl, fun _ => rejectPending_own⟩

/-- A frame settles a promise of the id it carries, so its tag is the promise's. -/
theorem settlementOf_own {d : Delivered} {id : String} (tagged : d.Tagged)
    (carried : d.frame.id = some id) : (settlementOf d).Own id := by
  have origins := tagged id carried
  unfold settlementOf
  split
  next answer =>
    split
    · exact origins.1 (by rw [answer]; rfl)
    · exact origins
  · exact origins

theorem dispatch_own {d : Delivered} (tagged : d.Tagged)
    (own : ∀ s ∈ c.settlements, s.2.Own s.1) :
    ∀ s ∈ (c.dispatch d).settlements, s.2.Own s.1 := by
  unfold dispatch
  split
  next id carried =>
    split
    · intro s member
      rcases List.mem_cons.mp member with rfl | old
      · exact settlementOf_own tagged carried
      · exact own s old
    · exact own
  · exact own

@[simp] theorem dispatch_nextId (d : Delivered) : (c.dispatch d).nextId = c.nextId := by
  unfold dispatch
  split
  · split <;> rfl
  · rfl

@[simp] theorem dispatch_queued (d : Delivered) : (c.dispatch d).queued = c.queued := by
  unfold dispatch
  split
  · split <;> rfl
  · rfl

theorem receive_own {d : Delivered} (tagged : d.Tagged)
    (own : ∀ s ∈ c.settlements, s.2.Own s.1) :
    ∀ s ∈ (c.receive d).settlements, s.2.Own s.1 := by
  unfold receive
  split
  · split
    · exact own
    · split
      · exact own
      · split <;> exact own
  · exact dispatch_own tagged own

theorem receive_queued {d e : Delivered} (member : e ∈ (c.receive d).queued) :
    e ∈ c.queued ∨ e = d := by
  unfold receive at member
  split at member
  · split at member
    · exact .inl member
    · split at member
      · simpa using member
      · split at member <;> exact .inl member
  · rw [dispatch_queued] at member
    exact .inl member

theorem receive_nextId (d : Delivered) : (c.receive d).nextId = c.nextId := by
  unfold receive
  split
  · split
    · rfl
    · split
      · rfl
      · split <;> rfl
  · exact dispatch_nextId d

end SignalingClient

section Steps

variable {w : World}

theorem inv_initial : Inv .initial :=
  ⟨⟨[], rfl, .nil, nofun, nofun⟩, rfl, nofun, nofun, nofun⟩

/-- A call on the client leaves the gateway alone and sends under a new number. -/
private theorem inv_act {r : SignalingClient × Option Outgoing} (inv : Inv w)
    (acts : w.client.Acts r) : Inv (w.act r) := by
  obtain ⟨sent, numbered⟩ := inv.numbered
  refine ⟨⟨sent ++ r.2.toList, ?_⟩, inv.unanswered, inv.tagged, ?_, ?_⟩
  · have beyond : ∀ f ∈ sent, ∀ g ∈ r.2.toList, f.number < g.number := fun f member g new =>
      Nat.lt_of_le_of_lt (numbered.counted f member) (acts.fresh g (Option.mem_toList.mp new)).1
    constructor
    · simp [World.act, numbered.rendered]
    · refine List.pairwise_append.mpr ⟨numbered.increasing, ?_, beyond⟩
      cases r.2 <;> simp
    · intro f member
      rcases List.mem_append.mp member with old | new
      · exact Nat.le_trans (numbered.counted f old) acts.counted
      · exact (acts.fresh f (Option.mem_toList.mp new)).2
    · intro id pending
      obtain ⟨f, named, counted, before⟩ := numbered.pending id pending
      refine ⟨f, named, Nat.le_trans counted acts.counted, fun g member => ?_⟩
      rcases List.mem_append.mp member with old | new
      · exact before g old
      · exact Nat.lt_of_le_of_lt counted (acts.fresh g (Option.mem_toList.mp new)).1
  · intro d member
    exact inv.queued d (acts.queued ▸ member)
  · intro s member
    rcases acts.own s member with old | own
    · exact inv.own s old
    · exact own

private theorem act_none {c : SignalingClient} : w.act (c, none) = { w with client := c } := by
  simp [World.act]

/-- A delivered frame settles at most the promise it was made for. -/
private theorem inv_deliver {c : SignalingClient} {rest : List Delivered} (inv : Inv w)
    (counted : c.nextId = w.client.nextId) (tagged : ∀ d ∈ rest, d.Tagged)
    (queued : ∀ d ∈ c.queued, d.Tagged) (own : ∀ s ∈ c.settlements, s.2.Own s.1) :
    Inv { w with client := c, toBrowser := rest } := by
  obtain ⟨sent, numbered⟩ := inv.numbered
  exact ⟨⟨sent, numbered.move rfl counted rfl⟩, inv.unanswered, tagged, queued, own⟩

private theorem tagged_append {ds : List Delivered} {d : Delivered} (tagged : ∀ e ∈ ds, e.Tagged)
    (last : d.Tagged) : ∀ e ∈ ds ++ [d], e.Tagged := by
  intro e member
  rcases List.mem_append.mp member with old | new
  · exact tagged e old
  · rw [List.mem_singleton] at new
    exact new ▸ last

private theorem dialect_parse :
    TypeScript.Gateway.dialect.parse = TypeScript.Gateway.parseClientMessage := rfl

/-- The gateway reads a frame: its id is not the pending one, because numbers increase. -/
private theorem inv_gatewayReads {raw : Json Binary64} {rest : List (Json Binary64)}
    {outcome : Outcome} {written : Bool} (inv : Inv w) (next : w.toGateway = raw :: rest)
    (caught : outcome ≠ .fatal) : Inv (w.gatewayReads raw rest outcome written) := by
  obtain ⟨sent, numbered⟩ := inv.numbered
  obtain ⟨f, later, rfl, rendered, listed⟩ :
      ∃ f later, f.render = raw ∧ later.map Outgoing.render = rest ∧ sent = f :: later := by
    have rendered := numbered.rendered
    rw [next] at rendered
    cases sent with
    | nil => cases rendered
    | cons f later =>
      simp only [List.map_cons, List.cons.injEq] at rendered
      exact ⟨f, later, rendered.1.symm, rendered.2.symm, rfl⟩
  -- The frame has the number that comes next, and the pending offer has an earlier one.
  have increasing := numbered.increasing
  rw [listed, List.pairwise_cons] at increasing
  have counted : ∀ g ∈ f :: later, g.number ≤ w.client.nextId := listed ▸ numbered.counted
  have fresh : w.gateway.pendingOfferId ≠ some f.id := by
    intro pending
    obtain ⟨g, named, _, before⟩ := numbered.pending f.id pending
    exact Outgoing.id_ne (Nat.ne_of_lt (before f (by simp [listed]))) named
  have parsed : TypeScript.Gateway.dialect.parse (some f.render) =
      .ok ⟨f.id, f.command.type, f.data⟩ := by
    rw [dialect_parse, parse_render]
  have cases := handleCommand_cases (d := TypeScript.Gateway.dialect) (p := w.gateway)
    ⟨f.id, f.command.type, f.data⟩ outcome caught (fun repeated => absurd repeated fresh)
  have read : TypeScript.Gateway.handleMessage w.gateway (some f.render) outcome =
      handleCommand TypeScript.Gateway.dialect w.gateway ⟨f.id, f.command.type, f.data⟩ outcome := by
    simp only [TypeScript.Gateway.handleMessage, handleMessage, parsed]
  rw [← read] at cases
  unfold World.gatewayReads
  generalize TypeScript.Gateway.handleMessage w.gateway (some f.render) outcome = handled at cases ⊢
  refine ⟨⟨later, rendered.symm, increasing.2, fun g member => counted g (.tail _ member), ?_⟩,
    ?_, ?_, inv.queued, inv.own⟩
  · intro id pending
    rcases cases with ⟨_, _, held⟩ | ⟨_, same⟩
    · cases held.symm.trans pending
      exact ⟨f, rfl, counted f (.head _), increasing.1⟩
    · obtain ⟨g, named, bound, before⟩ := numbered.pending id (same.symm.trans pending)
      exact ⟨g, named, bound, fun h member => before h (by simp [listed, member])⟩
  · have unanswered := inv.unanswered
    simp only [World.unanswered, ← List.append_assoc] at unanswered ⊢
    rw [unanswered]
    rcases cases with ⟨free, offered, held⟩ | ⟨silent, same⟩
    · simp [free, offered, held]
    · simp [silent, same]
  · dsimp only
    split
    · split
      · exact tagged_append inv.tagged (error_tagged _ _)
      · exact inv.tagged
    · exact inv.tagged

/-- The gateway forwards an event: a reply finds its own offer pending. -/
private theorem inv_gatewayForwards {message : VoxMessage} {rest : List VoxMessage}
    {written : Bool} (inv : Inv w) (next : w.fromVox = message :: rest) :
    Inv (w.gatewayForwards message rest written) := by
  obtain ⟨sent, numbered⟩ := inv.numbered
  have unanswered := inv.unanswered
  simp only [World.unanswered, next] at unanswered
  have tagged_written {d : Delivered} (tagged : d.Tagged) :
      ∀ e ∈ (if written then w.toBrowser ++ [d] else w.toBrowser), e.Tagged := by
    split
    · exact tagged_append inv.tagged tagged
    · exact inv.tagged
  obtain ⟨event, offer, paired⟩ := message
  cases offer with
  | none =>
    have other : correlates event.type = false := paired.symm
    simp only [World.gatewayForwards, TypeScript.Gateway.forwardEvent, forwardEvent, other,
      Bool.false_eq_true, if_false]
    exact ⟨⟨sent, numbered.move rfl rfl rfl⟩, unanswered, tagged_written (fun _ absurd => by cases absurd), inv.queued, inv.own⟩
  | some offer =>
    have reply : correlates event.type = true := paired.symm
    simp only [World.gatewayForwards, TypeScript.Gateway.forwardEvent, forwardEvent, reply, if_true]
    simp only [List.filterMap_cons, List.cons_append] at unanswered
    have pending : w.gateway.pendingOfferId = some offer := by
      cases held : w.gateway.pendingOfferId with
      | none => simp [held] at unanswered
      | some id =>
        simp only [held, Option.toList_some, List.cons.injEq] at unanswered
        rw [unanswered.1]
    rw [pending, Option.toList_some, List.cons.injEq] at unanswered
    refine ⟨⟨sent, numbered.rendered, numbered.increasing, numbered.counted, (fun _ absurd => by cases absurd)⟩,
      unanswered.2, tagged_written ?_, inv.queued, inv.own⟩
    intro id carried
    have same := idField_id carried
    rw [pending] at same
    cases same
    refine ⟨fun _ => rfl, fun failure => ?_⟩
    change event.type = "gateway.error" at failure
    rw [failure] at reply
    cases reply

private theorem inv_client {c : SignalingClient} (inv : Inv w) (acts : w.client.Acts (c, none)) :
    Inv { w with client := c } := by
  have acted := inv_act inv acts
  rwa [act_none] at acted

theorem inv_step {w' : World} {l : Label} (inv : Inv w) (taken : w.step l = some w') : Inv w' := by
  obtain ⟨sent, numbered⟩ := inv.numbered
  cases l with
  | socketOpens =>
    simp only [World.step, Option.ite_none_right_eq_some, Option.some.injEq] at taken
    obtain ⟨_, rfl⟩ := taken
    exact inv_client inv ⟨Nat.le_refl _, nofun, rfl, fun _ => .inl⟩
  | exchangeOffer offer restart =>
    cases taken
    exact inv_act inv (SignalingClient.exchangeOffer_acts offer restart)
  | sendCandidate candidate =>
    cases taken
    exact inv_act inv (SignalingClient.sendCandidate_acts candidate)
  | close reason =>
    cases taken
    exact inv_act inv (SignalingClient.close_acts reason)
  | timeout id =>
    simp only [World.step, Option.map_eq_some_iff] at taken
    obtain ⟨c, fired, rfl⟩ := taken
    exact inv_client inv (SignalingClient.timeout_acts fired)
  | connectTimeout =>
    simp only [World.step, Option.map_eq_some_iff] at taken
    obtain ⟨c, fired, rfl⟩ := taken
    exact inv_client inv (SignalingClient.connectTimeout_acts fired)
  | socketCloses =>
    simp only [World.step, Option.map_eq_some_iff] at taken
    obtain ⟨c, fired, rfl⟩ := taken
    exact inv_client inv (SignalingClient.socketClosed_acts fired)
  | deliver =>
    simp only [World.step] at taken
    split at taken
    · cases taken
    next d rest next =>
      simp only [Option.ite_none_right_eq_some, Option.some.injEq] at taken
      obtain ⟨_, rfl⟩ := taken
      -- Frames arrive in the order in which they were sent.
      have tagged := inv.tagged
      simp only [next, List.mem_cons, forall_eq_or_imp] at tagged
      refine inv_deliver inv (SignalingClient.receive_nextId d) tagged.2 ?_
        (SignalingClient.receive_own tagged.1 inv.own)
      intro e member
      rcases SignalingClient.receive_queued member with old | rfl
      · exact inv.queued e old
      · exact tagged.1
  | dispatchQueued =>
    simp only [World.step] at taken
    split at taken
    · cases taken
    next d rest next =>
      simp only [Option.ite_none_right_eq_some, Option.some.injEq] at taken
      obtain ⟨_, rfl⟩ := taken
      -- A frame that was buffered is dispatched later, with the same id.
      have queued := inv.queued
      simp only [next, List.mem_cons, forall_eq_or_imp] at queued
      refine inv_deliver inv (SignalingClient.dispatch_nextId d) inv.tagged ?_
        (SignalingClient.dispatch_own queued.1 inv.own)
      rw [SignalingClient.dispatch_queued]
      exact queued.2
  | gatewayReads outcome written =>
    simp only [World.step] at taken
    split at taken
    · cases taken
    next raw rest next =>
      simp only [Option.ite_none_left_eq_some, Option.some.injEq] at taken
      obtain ⟨caught, rfl⟩ := taken
      exact inv_gatewayReads inv next caught
  | gatewayForwards written =>
    simp only [World.step] at taken
    split at taken
    · cases taken
    next message rest next =>
      cases taken
      exact inv_gatewayForwards inv next
  | gatewaySends ready data =>
    cases taken
    exact ⟨⟨sent, numbered.move rfl rfl rfl⟩, inv.unanswered, tagged_append inv.tagged nofun, inv.queued, inv.own⟩
  | voxReplies type data =>
    simp only [World.step] at taken
    split at taken
    · cases taken
    next offer rest next =>
      split at taken
      next reply =>
        cases taken
        refine ⟨⟨sent, numbered.move rfl rfl rfl⟩, ?_, inv.tagged, inv.queued, inv.own⟩
        -- Vox answers its offers in their order.
        have unanswered := inv.unanswered
        simp only [World.unanswered, next] at unanswered
        simpa [World.unanswered] using unanswered
      · cases taken
  | voxSends type data =>
    simp only [World.step] at taken
    split at taken
    next other =>
      cases taken
      refine ⟨⟨sent, numbered.move rfl rfl rfl⟩, ?_, inv.tagged, inv.queued, inv.own⟩
      simpa [World.unanswered] using inv.unanswered
    · cases taken

end Steps

/-- An offer's promise resolves only with Vox's answer to that offer, and rejects with an
error frame only if the error was made for that offer. -/
theorem answers_settle_own_offer {w : World} (reached : world.Reaches always w) :
    (∀ id sdp origin, (id, .resolved sdp origin) ∈ w.client.settlements → origin = .reply id) ∧
    ∀ id type message origin, (id, .refused type message origin) ∈ w.client.settlements →
      (correlates type = true → origin = .reply id) ∧
        (type = "gateway.error" → origin = .failure id) := by
  have inv : Inv w := System.Reaches.preserves inv_initial
    (fun _ _ _ inv _ taken => inv_step inv taken) reached
  exact ⟨fun id sdp origin member => inv.own _ member,
    fun id type message origin member => inv.own _ member⟩

/-- The first offer times out before its answer comes back, the second meets the first at
the gateway, the third is answered. -/
def lateAnswer : List Label :=
  let offer := .obj [("type", .str "offer"), ("sdp", .str "v=0")]
  let answer sdp := [("answer", .obj [("type", .str "answer"), ("sdp", .str sdp)])]
  let bootstrap := [("session", .obj [("sessionId", .str "s"), ("iceServers", .arr [])])]
  [.socketOpens, .gatewaySends true bootstrap, .deliver, .exchangeOffer offer false,
    .timeout "offer-1", .exchangeOffer offer true, .gatewayReads .done true,
    .gatewayReads .done true, .voxReplies "rtc.answer" (answer "first"), .gatewayForwards true,
    .deliver, .deliver, .exchangeOffer offer true, .gatewayReads .done true,
    .voxReplies "rtc.answer" (answer "third"), .gatewayForwards true, .deliver]

theorem answers_settle_own_offer_late :
    ∃ w, world.run world.init lateAnswer = some w ∧
      w.client.settlements = [("offer-3", .resolved "third" (.reply "offer-3")),
        ("offer-2", .refused "gateway.error" "An RTC offer is already pending" (.failure "offer-2")),
        ("offer-1", .timedOut)] ∧
      ∀ id sdp origin, (id, .resolved sdp origin) ∈ w.client.settlements → origin = .reply id :=
  ⟨_, rfl, rfl, (answers_settle_own_offer (System.reaches_of_run lateAnswer rfl)).1⟩

end VoxRtc.Browser
