import VoxRtc.Correlation.Relay
import VoxRtc.Browser.EndToEnd
import VoxRtc.Browser.Texts

/-!
# The signaling client behind a relay

`GatewaySignalingClient` with a gateway of which no more is known than that it correlates
replies with requests. Messages to the client come in any order, or not at all.
-/
namespace VoxRtc.Browser

open Transition Correlation Wire VoxRtc.Gateway

/-- What Vox is asked with an offer. -/
structure AskedOffer where
  sdp : String
  restart : Bool
  generation : Option Nat
  deriving DecidableEq, Repr

/-- The SDP text of a description. -/
def sdpOf {ν : Type} (description : Option (Json ν)) : Option String :=
  ((description.bind Json.object?).bind (·.get? "sdp")).bind Json.str?

/-- A frame asks for its own offer, under its own generation. -/
structure Outgoing.Asks (f : Outgoing) (b : AskedOffer) : Prop where
  command : f.command = .offer
  sdp : sdpOf (f.data.get? "offer") = some b.sdp
  restart : (f.data.get? "restart").any Json.isTrue = b.restart
  generation : ∀ n, f.data.get? "generation" = some (.num (Binary64.ofCount n)) →
    b.generation = some n

/-- The events of Vox as the browser sees them: whether one replies to an offer, and the frame
that it becomes, short of an id. -/
structure Events (ε : Type) where
  replies : ε → Bool
  heard : ε → Option (Frame Binary64)

def Events.labels {ε : Type} (events : Events ε) :
    Labelling Outgoing ε (Frame Binary64) String AskedOffer where
  name := Outgoing.id
  replies := events.replies
  tag frame := frame.id.filter (· ≠ "")
  answers frame := correlates frame.type
  asks := Outgoing.Asks
  tells e frame := events.heard e = some { frame with id := none }

def ofCorrelation : Correlation.Origin String → Origin
  | .reply request => .reply request
  | .failure request => .failure request
  | .other => .none

/-- A call of `exchangeOffer`. -/
structure MadeOffer where
  id : String
  description : Json Binary64
  restart : Bool
  generation : Nat

structure Conversation (σ ε : Type) where
  client : SignalingClient
  circuit : Circuit σ Outgoing ε (Frame Binary64) String AskedOffer
  offers : List MadeOffer := []

inductive ConversationStep (κ ε : Type) where
  | socketOpens
  | exchangeOffer (description : Json Binary64) (restart : Bool)
  | sendCandidate (candidate : Json Binary64)
  | close (reason : String)
  | timeout (id : String)
  | connectTimeout
  /-- The socket closes, or a message comes that is no event. -/
  | socketCloses
  | receive (i : Nat)
  | dispatchQueued
  /-- A step beyond the client; a message that arrives in one is lost. -/
  | beyond (l : CircuitStep κ Outgoing ε (Frame Binary64))

variable {σ κ ε : Type}

namespace SignalingClient

/-- The id of an offer that is made now. -/
def offerId (c : SignalingClient) : String := frameId "offer" (c.nextId + 1)

end SignalingClient

namespace Conversation

def initial (R : Relay σ κ Outgoing ε (Frame Binary64) String AskedOffer) : Conversation σ ε :=
  ⟨.initial, .initial R, []⟩

/-- The client acts, and what it sends is on its way to the relay. -/
def act (w : Conversation σ ε) (result : SignalingClient × Option Outgoing) : Conversation σ ε :=
  { w with
    client := result.1
    circuit := { w.circuit with requests := w.circuit.requests ++ result.2.toList } }

def step (R : Relay σ κ Outgoing ε (Frame Binary64) String AskedOffer) (events : Events ε)
    (w : Conversation σ ε) : ConversationStep κ ε → Option (Conversation σ ε)
  | .socketOpens =>
    if w.client.socket = .connecting then
      some { w with client := { w.client with socket := .opened } }
    else none
  | .exchangeOffer description restart =>
    some { w.act (w.client.exchangeOffer description restart) with
      offers := w.offers ++
        [⟨w.client.offerId, description, restart, w.client.negotiationGeneration + 1⟩] }
  | .sendCandidate candidate => some (w.act (w.client.sendCandidate candidate))
  | .close reason => some (w.act (w.client.close reason))
  | .timeout id => (w.client.timeout id).map fun client => { w with client := client }
  | .connectTimeout => w.client.connectTimeout.map fun client => { w with client := client }
  | .socketCloses => w.client.socketClosed.map fun client => { w with client := client }
  | .receive i => do
    let (frame, origin) ← w.circuit.messages[i]?
    if w.client.socket = .opened ∨ w.client.socket = .closing then
      some { w with
        client := w.client.receive ⟨frame, ofCorrelation origin⟩
        circuit := { w.circuit with messages := w.circuit.messages.eraseIdx i } }
    else none
  | .dispatchQueued => match w.client.queued with
    | [] => none
    | d :: rest =>
      if w.client.handshake = .ready then
        some { w with client := { w.client with queued := rest }.dispatch d }
      else none
  | .beyond (.request _) => none
  | .beyond l => (w.circuit.step R events.labels l).map fun circuit => { w with circuit := circuit }

end Conversation

/-- The conversations of a client with Vox, by way of a relay. Vox replies at most once to an
offer, and never unasked. -/
def conversation (R : Relay σ κ Outgoing ε (Frame Binary64) String AskedOffer)
    (events : Events ε) : System (Conversation σ ε) (ConversationStep κ ε) :=
  ⟨.initial R, Conversation.step R events⟩

/-! ## What settles an offer -/

/-- A frame that has an id was made for the offer with that id: it is what Vox has replied to
that offer, or it tells that the frame with the offer has failed. -/
def Sound (events : Events ε) (c : Circuit σ Outgoing ε (Frame Binary64) String AskedOffer)
    (d : Delivered) : Prop :=
  ∀ id, d.frame.id.filter (· ≠ "") = some id →
    if correlates d.frame.type then
      d.origin = .reply id ∧ ∃ e, Circuit.Replied events.labels c id e ∧
        events.heard e = some { d.frame with id := none }
    else d.origin = .failure id

/-- Why an offer has settled as it has. -/
inductive Cause (events : Events ε) (c : Circuit σ Outgoing ε (Frame Binary64) String AskedOffer)
    (id : String) : Settlement → Prop
  | reply (e : ε) (frame : Frame Binary64) (replied : Circuit.Replied events.labels c id e)
      (heard : events.heard e = some frame) (correlated : correlates frame.type = true) :
      Cause events c id (SignalingClient.settlementOf ⟨frame, .reply id⟩)
  | failure (frame : Frame Binary64) (error : frame.type = "gateway.error") :
      Cause events c id (SignalingClient.settlementOf ⟨frame, .failure id⟩)
  | timedOut : Cause events c id .timedOut
  | unsent : Cause events c id .unsent
  | closed : Cause events c id .closed

section Causes

variable {events : Events ε} {c d : Circuit σ Outgoing ε (Frame Binary64) String AskedOffer}
  {id : String}

theorem Sound.grows {x : Delivered} (sound : Sound events c x) (grows : c.Grows d) :
    Sound events d x := by
  intro id tag
  have before := sound id tag
  split at before
  next answers =>
    obtain ⟨origin, e, replied, heard⟩ := before
    rw [if_pos answers]
    exact ⟨origin, e, replied.grows grows, heard⟩
  next other =>
    rw [if_neg other]
    exact before

theorem Cause.grows {s : Settlement} (cause : Cause events c id s) (grows : c.Grows d) :
    Cause events d id s := by
  cases cause with
  | reply e frame replied heard correlated =>
    exact .reply e frame (replied.grows grows) heard correlated
  | failure frame error => exact .failure frame error
  | timedOut => exact .timedOut
  | unsent => exact .unsent
  | closed => exact .closed

/-- A message that is tagged in the circuit is sound for the client. -/
theorem sound_of_tagged {m : Frame Binary64 × Correlation.Origin String}
    (tagged : Circuit.Tagged events.labels c m) : Sound events c ⟨m.1, ofCorrelation m.2⟩ := by
  intro id tag
  have before := tagged id tag
  split at before
  next answers =>
    obtain ⟨origin, e, replied, tells⟩ := before
    rw [if_pos (by exact answers), origin]
    exact ⟨rfl, e, replied, tells⟩
  next other =>
    rw [if_neg (by exact other), before]
    rfl

/-- A frame settles the offer with its id, for its own cause. -/
theorem cause_of_sound {x : Delivered} (sound : Sound events c x)
    (tag : x.frame.id.filter (· ≠ "") = some id)
    (settles : SignalingClient.settles x.frame.type = true) :
    Cause events c id (SignalingClient.settlementOf x) := by
  have made := sound id tag
  obtain ⟨frame, origin⟩ := x
  split at made
  next answers =>
    obtain ⟨rfl, e, replied, heard⟩ := made
    exact .reply e { frame with id := none } replied heard answers
  next other =>
    cases made
    refine .failure { frame with id := none } ?_
    simpa [SignalingClient.settles, other] using settles

end Causes

/-- No frame has made an offer settle so. -/
def Settlement.unheard : Settlement → Bool
  | .timedOut | .unsent | .closed => true
  | _ => false

theorem cause_of_unheard {events : Events ε}
    {c : Circuit σ Outgoing ε (Frame Binary64) String AskedOffer} {id : String} {s : Settlement}
    (unheard : s.unheard = true) : Cause events c id s := by
  cases s with
  | timedOut => exact .timedOut
  | unsent => exact .unsent
  | closed => exact .closed
  | resolved | refused => cases unheard

namespace SignalingClient

variable {c d : SignalingClient} {s : String × Settlement}

/-- What settles is settled by no frame. -/
def Unheard (c d : SignalingClient) : Prop :=
  ∀ s ∈ d.settlements, s ∈ c.settlements ∨ s.2.unheard = true

theorem rejectPending_unheard : c.Unheard c.rejectPending := by
  intro s member
  rcases List.mem_append.mp member with closed | old
  · obtain ⟨id, _, rfl⟩ := List.mem_map.mp closed
    exact .inr rfl
  · exact .inl old

theorem settle_unheard {id : String} {settlement : Settlement}
    (unheard : settlement.unheard = true) : c.Unheard (c.settle id settlement) := by
  intro s member
  rcases List.mem_cons.mp member with rfl | old
  · exact .inr unheard
  · exact .inl old

theorem exchangeOffer_unheard (offer : Json Binary64) (restart : Bool) :
    c.Unheard (c.exchangeOffer offer restart).1 := by
  rw [exchangeOffer]
  split
  · exact fun s => .inl
  · exact settle_unheard rfl

theorem sendCandidate_unheard (candidate : Json Binary64) :
    c.Unheard (c.sendCandidate candidate).1 := by
  rw [sendCandidate]
  split <;> exact fun s => .inl

theorem close_unheard (reason : String) : c.Unheard (c.close reason).1 := by
  rw [close]
  split
  · exact fun s => .inl
  · split <;> exact rejectPending_unheard

theorem timeout_unheard {id : String} (fired : c.timeout id = some d) : c.Unheard d := by
  simp only [timeout, Option.ite_none_right_eq_some, Option.some.injEq] at fired
  obtain ⟨_, rfl⟩ := fired
  exact settle_unheard rfl

theorem connectTimeout_unheard (fired : c.connectTimeout = some d) : c.Unheard d := by
  simp only [connectTimeout, Option.ite_none_right_eq_some, Option.some.injEq] at fired
  obtain ⟨_, rfl⟩ := fired
  exact fun s => .inl

theorem socketClosed_unheard (closed : c.socketClosed = some d) : c.Unheard d := by
  simp only [socketClosed, Option.ite_none_left_eq_some, Option.some.injEq] at closed
  obtain ⟨_, rfl⟩ := closed
  exact rejectPending_unheard

/-- A frame that is dispatched settles the offer with its id, if it settles one. -/
theorem dispatch_settles {x : Delivered} (member : s ∈ (c.dispatch x).settlements) :
    s ∈ c.settlements ∨ ∃ id, x.frame.id.filter (· ≠ "") = some id ∧
      settles x.frame.type = true ∧ s = (id, settlementOf x) := by
  rw [dispatch] at member
  split at member
  next id carried =>
    split at member
    next own =>
      obtain ⟨proper, _, settling⟩ := own
      rcases List.mem_cons.mp member with rfl | old
      · exact .inr ⟨id, by simp [carried, proper], settling, rfl⟩
      · exact .inl old
    · exact .inl member
  · exact .inl member

theorem receive_settles {x : Delivered} (member : s ∈ (c.receive x).settlements) :
    s ∈ c.settlements ∨ ∃ id, x.frame.id.filter (· ≠ "") = some id ∧
      settles x.frame.type = true ∧ s = (id, settlementOf x) := by
  rw [receive] at member
  split at member
  · split at member
    · exact .inl member
    · split at member
      · exact .inl member
      · split at member <;> exact .inl member
  · exact dispatch_settles member

end SignalingClient

/-! ## Steps -/

namespace Conversation

/-- Every settlement has a cause in the circuit, and the frames on their way are those of the
calls. -/
structure Inv (events : Events ε) (Keeps : List Outgoing → σ → Option String → Prop)
    (w : Conversation σ ε) : Prop where
  circuit : Circuit.Inv events.labels Keeps w.circuit
  counted : ∀ f ∈ w.circuit.read ++ w.circuit.requests, f.number ≤ w.client.nextId
  offers : ∀ f ∈ w.circuit.read ++ w.circuit.requests, f.command = .offer →
    ∃ o ∈ w.offers, o.id = f.id ∧ f.data = offerData o.description o.restart o.generation
  queued : ∀ d ∈ w.client.queued, Sound events w.circuit d
  caused : ∀ s ∈ w.client.settlements, Cause events w.circuit s.1 s.2

section Steps

variable {R : Relay σ κ Outgoing ε (Frame Binary64) String AskedOffer} {events : Events ε}
  {Keeps : List Outgoing → σ → Option String → Prop} {w w' : Conversation σ ε}

theorem inv_initial (correlates : R.Correlates events.labels Keeps) :
    Inv events Keeps (initial R) where
  circuit := Circuit.inv_initial correlates
  counted := by simp [initial, Circuit.initial]
  offers := by simp [initial, Circuit.initial]
  queued := by simp [initial, SignalingClient.initial]
  caused := by simp [initial, SignalingClient.initial]

/-- A request that has a number of its own is a fresh one. -/
theorem inv_request {r : SignalingClient × Option Outgoing}
    (correlates : R.Correlates events.labels Keeps) (inv : Inv events Keeps w)
    (acts : w.client.Acts r) : Circuit.Inv events.labels Keeps (w.act r).circuit := by
  cases sent : r.2 with
  | none => simpa [act, sent] using inv.circuit
  | some f =>
    have fresh : Circuit.Fresh (κ := κ) events.labels w.circuit (.request f) := by
      intro taken
      obtain ⟨g, member, same⟩ := List.mem_map.mp taken
      have before := inv.counted g member
      have after := (acts.fresh f sent).1
      exact Outgoing.id_ne (by omega) same
    have requested := Circuit.inv_step correlates inv.circuit fresh rfl
    simpa [act, sent] using requested

theorem inv_act {r : SignalingClient × Option Outgoing} (more : List MadeOffer)
    (correlates : R.Correlates events.labels Keeps) (inv : Inv events Keeps w)
    (acts : w.client.Acts r) (unheard : w.client.Unheard r.1)
    (made : ∀ f ∈ r.2, f.command = .offer → ∃ o ∈ more, o.id = f.id ∧
      f.data = offerData o.description o.restart o.generation) :
    Inv events Keeps { w.act r with offers := w.offers ++ more } := by
  have grows : w.circuit.Grows (w.act r).circuit := .same rfl rfl
  refine ⟨inv_request correlates inv acts, ?_, ?_, ?_, ?_⟩
  · intro f member
    rcases List.mem_append.mp (List.append_assoc .. ▸ member) with old | new
    · exact (inv.counted f old).trans acts.counted
    · exact (acts.fresh f (Option.mem_toList.mp new)).2
  · intro f member offer
    rcases List.mem_append.mp (List.append_assoc .. ▸ member) with old | new
    · obtain ⟨o, listed, same⟩ := inv.offers f old offer
      exact ⟨o, List.mem_append_left more listed, same⟩
    · obtain ⟨o, listed, same⟩ := made f (Option.mem_toList.mp new) offer
      exact ⟨o, List.mem_append_right _ listed, same⟩
  · intro d member
    exact (inv.queued d (acts.queued ▸ member)).grows grows
  · intro s member
    rcases unheard s member with old | quiet
    · exact (inv.caused s old).grows grows
    · exact cause_of_unheard quiet

theorem act_none {c : SignalingClient} : w.act (c, none) = { w with client := c } := by
  simp [act]

/-- A call that makes no offer. -/
theorem inv_call {r : SignalingClient × Option Outgoing}
    (correlates : R.Correlates events.labels Keeps) (inv : Inv events Keeps w)
    (acts : w.client.Acts r) (unheard : w.client.Unheard r.1)
    (other : ∀ f ∈ r.2, f.command ≠ .offer) : Inv events Keeps (w.act r) := by
  have acted := inv_act [] correlates inv acts unheard fun f sent offer =>
    (other f sent offer).elim
  rw [List.append_nil] at acted
  exact acted

/-- A step of the client alone. -/
theorem inv_client {c : SignalingClient} (correlates : R.Correlates events.labels Keeps)
    (inv : Inv events Keeps w) (acts : w.client.Acts (c, none)) (unheard : w.client.Unheard c) :
    Inv events Keeps { w with client := c } := by
  have called := inv_call correlates inv acts unheard nofun
  rwa [act_none] at called

theorem sound_receive {settlements : List (String × Settlement)} {x : Delivered}
    {s : String × Settlement} (sound : Sound events w.circuit x)
    (caused : ∀ s ∈ settlements, Cause events w.circuit s.1 s.2)
    (settled : s ∈ settlements ∨ ∃ id, x.frame.id.filter (· ≠ "") = some id ∧
      SignalingClient.settles x.frame.type = true ∧
      s = (id, SignalingClient.settlementOf x)) : Cause events w.circuit s.1 s.2 := by
  rcases settled with old | ⟨id, tag, settles, rfl⟩
  · exact caused s old
  · exact cause_of_sound sound tag settles

/-- A message that arrives settles only the offer that it was made for. -/
theorem inv_receive {i : Nat} {frame : Frame Binary64} {origin : Correlation.Origin String}
    (correlates : R.Correlates events.labels Keeps) (inv : Inv events Keeps w)
    (found : w.circuit.messages[i]? = some (frame, origin)) :
    Inv events Keeps { w with
      client := w.client.receive ⟨frame, ofCorrelation origin⟩
      circuit := { w.circuit with messages := w.circuit.messages.eraseIdx i } } := by
  have inside : i < w.circuit.messages.length := (List.getElem?_eq_some_iff.mp found).1
  have arrived := Circuit.inv_step (l := .arrive i) correlates inv.circuit trivial (if_pos inside)
  have grows : w.circuit.Grows { w.circuit with messages := w.circuit.messages.eraseIdx i } :=
    .same rfl rfl
  have sound : Sound events w.circuit ⟨frame, ofCorrelation origin⟩ :=
    sound_of_tagged (inv.circuit.tagged _ (Pool.mem_of_read found))
  refine ⟨arrived, ?_, inv.offers, ?_, ?_⟩
  · intro f member
    rw [SignalingClient.receive_nextId]
    exact inv.counted f member
  · intro d member
    rcases SignalingClient.receive_queued member with old | rfl
    · exact (inv.queued d old).grows grows
    · exact sound.grows grows
  · intro s member
    exact (sound_receive sound inv.caused (SignalingClient.receive_settles member)).grows grows

/-- A message that was queued is dispatched later, as the one that it was. -/
theorem inv_dispatchQueued {d : Delivered} {rest : List Delivered} (inv : Inv events Keeps w)
    (next : w.client.queued = d :: rest) :
    Inv events Keeps { w with client := { w.client with queued := rest }.dispatch d } := by
  have queued := inv.queued
  simp only [next, List.mem_cons, forall_eq_or_imp] at queued
  refine ⟨inv.circuit, ?_, inv.offers, ?_, ?_⟩
  · intro f member
    rw [SignalingClient.dispatch_nextId]
    exact inv.counted f member
  · rw [SignalingClient.dispatch_queued]
    exact queued.2
  · intro s member
    have settled := SignalingClient.dispatch_settles member
    exact sound_receive queued.1 inv.caused settled

/-- Beyond the client, the requests only move on. -/
theorem requests_step {l : CircuitStep κ Outgoing ε (Frame Binary64)}
    {c d : Circuit σ Outgoing ε (Frame Binary64) String AskedOffer}
    (own : ∀ r, l ≠ .request r) (taken : c.step R events.labels l = some d) :
    d.read ++ d.requests = c.read ++ c.requests := by
  cases l with
  | request r => exact (own r rfl).elim
  | read k =>
    simp only [Circuit.step] at taken
    split at taken
    · cases taken
    next r rest next =>
      obtain ⟨m, _, rfl⟩ := Option.map_eq_some_iff.mp taken
      simp [Circuit.moved, next]
  | hear i k =>
    simp only [Circuit.step, Option.bind_eq_bind, Option.bind_eq_some_iff, Option.pure_def,
      Option.some.injEq] at taken
    obtain ⟨_, _, m, _, rfl⟩ := taken
    rfl
  | move k =>
    obtain ⟨m, _, rfl⟩ := Option.map_eq_some_iff.mp taken
    rfl
  | reply e =>
    simp only [Circuit.step] at taken
    split at taken
    · cases taken
    · simp only [Option.ite_none_right_eq_some, Option.some.injEq] at taken
      obtain ⟨_, rfl⟩ := taken
      rfl
  | speak e =>
    simp only [Circuit.step, Option.ite_none_left_eq_some, Option.some.injEq] at taken
    obtain ⟨_, rfl⟩ := taken
    rfl
  | announce f | arrive i =>
    simp only [Circuit.step, Option.ite_none_right_eq_some, Option.some.injEq] at taken
    obtain ⟨_, rfl⟩ := taken
    rfl

theorem inv_beyond {l : CircuitStep κ Outgoing ε (Frame Binary64)}
    {d : Circuit σ Outgoing ε (Frame Binary64) String AskedOffer}
    (correlates : R.Correlates events.labels Keeps) (inv : Inv events Keeps w)
    (own : ∀ r, l ≠ .request r) (taken : w.circuit.step R events.labels l = some d) :
    Inv events Keeps { w with circuit := d } := by
  have fresh : Circuit.Fresh events.labels w.circuit l := by
    cases l with
    | request r => exact (own r rfl).elim
    | _ => trivial
  have grows := Circuit.step_grows taken
  have same := requests_step own taken
  refine ⟨Circuit.inv_step correlates inv.circuit fresh taken, ?_, ?_, ?_, ?_⟩
  · rw [same]
    exact inv.counted
  · rw [same]
    exact inv.offers
  · exact fun d member => (inv.queued d member).grows grows
  · exact fun s member => (inv.caused s member).grows grows

theorem inv_step {l : ConversationStep κ ε} (correlates : R.Correlates events.labels Keeps)
    (inv : Inv events Keeps w) (taken : w.step R events l = some w') : Inv events Keeps w' := by
  cases l with
  | socketOpens =>
    simp only [step, Option.ite_none_right_eq_some, Option.some.injEq] at taken
    obtain ⟨_, rfl⟩ := taken
    exact inv_client correlates inv ⟨Nat.le_refl _, nofun, rfl, fun _ => .inl⟩ fun _ => .inl
  | exchangeOffer description restart =>
    cases taken
    refine inv_act _ correlates inv (SignalingClient.exchangeOffer_acts description restart)
      (SignalingClient.exchangeOffer_unheard description restart) fun f sent offer => ?_
    simp only [SignalingClient.exchangeOffer] at sent
    split at sent
    · cases sent
      exact ⟨_, List.mem_singleton_self _, rfl, rfl⟩
    · cases sent
  | sendCandidate candidate =>
    cases taken
    refine inv_call correlates inv (SignalingClient.sendCandidate_acts candidate)
      (SignalingClient.sendCandidate_unheard candidate) fun f sent => ?_
    simp only [SignalingClient.sendCandidate] at sent
    split at sent
    · cases sent
    · simp only [Option.mem_def, Option.ite_none_right_eq_some, Option.some.injEq] at sent
      obtain ⟨_, rfl⟩ := sent
      exact nofun
  | close reason =>
    cases taken
    refine inv_call correlates inv (SignalingClient.close_acts reason)
      (SignalingClient.close_unheard reason) fun f sent => ?_
    simp only [SignalingClient.close] at sent
    split at sent
    · cases sent
    · split at sent
      · cases sent
        exact nofun
      · cases sent
  | timeout id =>
    obtain ⟨c, fired, rfl⟩ := Option.map_eq_some_iff.mp taken
    exact inv_client correlates inv (SignalingClient.timeout_acts fired)
      (SignalingClient.timeout_unheard fired)
  | connectTimeout =>
    obtain ⟨c, fired, rfl⟩ := Option.map_eq_some_iff.mp taken
    exact inv_client correlates inv (SignalingClient.connectTimeout_acts fired)
      (SignalingClient.connectTimeout_unheard fired)
  | socketCloses =>
    obtain ⟨c, closed, rfl⟩ := Option.map_eq_some_iff.mp taken
    exact inv_client correlates inv (SignalingClient.socketClosed_acts closed)
      (SignalingClient.socketClosed_unheard closed)
  | receive i =>
    simp only [step, Option.bind_eq_bind, Option.bind_eq_some_iff,
      Option.ite_none_right_eq_some, Option.some.injEq] at taken
    obtain ⟨⟨frame, origin⟩, found, _, rfl⟩ := taken
    exact inv_receive correlates inv found
  | dispatchQueued =>
    simp only [step] at taken
    split at taken
    · cases taken
    next d rest next =>
      simp only [Option.ite_none_right_eq_some, Option.some.injEq] at taken
      obtain ⟨_, rfl⟩ := taken
      exact inv_dispatchQueued inv next
  | beyond l =>
    cases l with
    | request r => cases taken
    | _ =>
      obtain ⟨d, moved, rfl⟩ := Option.map_eq_some_iff.mp taken
      exact inv_beyond correlates inv (fun r same => by cases same) moved

end Steps

/-- Vox has replied to an offer: to its description, its restart and its generation. The frame
is what the reply comes to in the browser. -/
structure Heard (events : Events ε) (w : Conversation σ ε) (id : String) (frame : Frame Binary64) :
    Prop where
  heard : ∃ o ∈ w.offers, o.id = id ∧ ∃ text, sdpOf (some o.description) = some text ∧
    ∃ e, ((id, ⟨text, o.restart, some o.generation⟩), e) ∈ w.circuit.replied ∧
      events.heard e = some frame

section Replies

variable {events : Events ε} {Keeps : List Outgoing → σ → Option String → Prop}
  {w : Conversation σ ε} {id : String}

/-- What backs an offer is the frame with its id, which has what the call gave it. -/
theorem heard_of_replied {e : ε} {frame : Frame Binary64} (inv : Inv events Keeps w)
    (replied : Circuit.Replied events.labels w.circuit id e)
    (heard : events.heard e = some frame) : w.Heard events id frame := by
  obtain ⟨⟨sdp, restart, generation⟩, member, f, read, named, asks⟩ := replied
  obtain ⟨o, listed, same, data⟩ := inv.offers f (List.mem_append_left _ read) asks.command
  have offered : f.data.get? "offer" = some o.description := by simp [data, offerData, Members.get?]
  have restarts : (f.data.get? "restart").any Json.isTrue = o.restart := by
    cases given : o.restart <;> simp [data, offerData, Members.get?, given, Json.isTrue]
  have counted : f.data.get? "generation" = some (.num (Binary64.ofCount o.generation)) := by
    simp [data, offerData, Members.get?]
  have text := asks.sdp
  have flag := asks.restart
  have number := asks.generation o.generation counted
  rw [offered] at text
  rw [restarts] at flag
  simp only at text flag number
  rw [← flag, number] at member
  exact ⟨o, listed, same.trans named, sdp, text, e, member, heard⟩

end Replies

/-- Why an offer has settled: by what Vox has replied to that very offer, by the failure of its
own frame, or by no frame. -/
inductive Settles (events : Events ε) (w : Conversation σ ε) (id : String) : Settlement → Prop
  | answered (sdp : String) (frame : Frame Binary64) (heard : w.Heard events id frame)
      (answer : frame.type = "rtc.answer")
      (described : SignalingClient.answerDescription frame.data = some sdp) :
      Settles events w id (.resolved sdp (.reply id))
  | refused (frame : Frame Binary64) (message : String) (heard : w.Heard events id frame)
      (correlated : correlates frame.type = true) :
      Settles events w id (.refused frame.type message (.reply id))
  | failed (message : String) : Settles events w id (.refused "gateway.error" message (.failure id))
  | unheard (s : Settlement) (unheard : s.unheard = true) : Settles events w id s

section Runs

variable {R : Relay σ κ Outgoing ε (Frame Binary64) String AskedOffer} {events : Events ε}
  {Keeps : List Outgoing → σ → Option String → Prop} {w : Conversation σ ε} {id : String}

theorem settles_of_cause {s : Settlement} (inv : Inv events Keeps w)
    (cause : Cause events w.circuit id s) : Settles events w id s := by
  cases cause with
  | reply e frame replied heard correlated =>
    have own := heard_of_replied inv replied heard
    simp only [SignalingClient.settlementOf]
    split
    next answer =>
      split
      next sdp described => exact .answered sdp frame own answer described
      · exact .refused frame _ own correlated
    · exact .refused frame _ own correlated
  | failure frame error =>
    simp only [SignalingClient.settlementOf, error]
    exact .failed _
  | timedOut | unsent | closed => exact .unheard _ rfl

/-- Whatever the relay does, and in whatever order messages arrive, an offer is settled by its
own reply, or by its own failure, or by no frame. -/
theorem settles_own (correlates : R.Correlates events.labels Keeps)
    (reached : (conversation R events).Reaches always w) :
    ∀ s ∈ w.client.settlements, Settles events w s.1 s.2 := by
  have inv : Inv events Keeps w := System.Reaches.preserves (inv_initial correlates)
    (fun _ _ _ inv _ taken => inv_step correlates inv taken) reached
  exact fun s member => settles_of_cause inv (inv.caused s member)

end Runs

end Conversation

end VoxRtc.Browser
