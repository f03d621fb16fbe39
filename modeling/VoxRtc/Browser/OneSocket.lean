import VoxRtc.Browser.Conversation
import VoxRtc.Browser.Negotiation
import VoxRtc.Browser.Settlement
import Mathlib.Logic.Relation

/-!
# The signaling client over one socket

`SignalingClient` is `GatewaySignalingClient` from the return of `connect` on: it has the ids
that wait where the other has a desk with callers and timers, and it has what came of each
offer where the other has the calls of `resolve` and `reject`. Whatever the first does, the
second does with the same effect, wherever the first is at work: with a gateway and Vox, in a
conversation, and in `BrowserClient`.
-/
namespace VoxRtc.Browser

open Transition Correlation Wire VoxRtc.Gateway

/-- The call that settles a promise so. -/
def Settlement.Tells : Settlement → Reply → Prop
  | .resolved sdp _, r => r = .resolved sdp
  | .refused _ message _, r => r = .rejected message
  | .timedOut, r => r = .rejected "RTC gateway offer timed out"
  | .unsent, r => r = .rejected "RTC gateway signaling is not ready"
  | .closed, r => ∃ message, r = .rejected message

theorem settlementOf_tells (d : Delivered) :
    (SignalingClient.settlementOf d).Tells (GatewaySignalingClient.reply d.frame) := by
  unfold SignalingClient.settlementOf GatewaySignalingClient.reply
  by_cases answer : d.frame.type = "rtc.answer"
  · rw [if_pos answer, if_pos answer]
    cases SignalingClient.answerDescription d.frame.data <;> rfl
  · rw [if_neg answer, if_neg answer]
    rfl

/-- The lists of the client say what the desk says: who waits, who has come, and what each of
those who do not wait has been told. -/
structure Listed (c : SignalingClient) (desk : Desk String Reply) : Prop where
  pending : ∀ id, id ∈ c.pending ↔ id ∈ desk.waiting
  offers : (c.settlements.map Prod.fst ++ c.pending).Perm (desk.visits.map Visit.key)
  told : ∀ s ∈ c.settlements, ∃ v ∈ desk.visits, v.key = s.1 ∧
    ∃ reply, (v.caller, reply) ∈ desk.replies ∧ s.2.Tells reply

namespace Listed

variable {c d : SignalingClient} {desk : Desk String Reply} {id : String} {s : Settlement}
  {reply : Reply}

/-- Nothing but the lists matters. -/
theorem same (listed : Listed c desk) (pending : d.pending = c.pending)
    (settlements : d.settlements = c.settlements) : Listed d desk := by
  constructor
  · rw [pending]
    exact listed.pending
  · rw [pending, settlements]
    exact listed.offers
  · rw [settlements]
    exact listed.told

theorem distinct (listed : Listed c desk) (ids : (desk.visits.map Visit.key).Nodup) :
    (c.settlements.map Prod.fst ++ c.pending).Nodup := listed.offers.nodup_iff.mpr ids

/-- One who waits leaves with an answer. -/
theorem leave (listed : Listed c desk) (good : desk.Good)
    (ids : (desk.visits.map Visit.key).Nodup) {ticket : Ticket} {set rung : List (Alarm String)}
    (found : desk.waiting.lookup id = some ticket) (tells : s.Tells reply) :
    Listed (c.settle id s) (desk.leave id ticket.caller reply set rung) := by
  have member : id ∈ c.pending := by
    rw [listed.pending, ← AList.lookup_isSome, found]
    rfl
  have apart := List.Nodup.of_append_right (listed.distinct ids)
  constructor
  · intro other
    rw [SignalingClient.settle, apart.mem_erase_iff, listed.pending, Desk.leave, AList.mem_erase]
  · refine List.Perm.trans ?_ listed.offers
    -- The id goes from the one list to the other.
    rw [SignalingClient.settle, List.map_cons, List.cons_append]
    exact List.perm_middle.symm.trans (List.Perm.append_left _ (List.perm_cons_erase member).symm)
  · intro t settled
    rcases List.mem_cons.mp settled with rfl | old
    · exact ⟨_, good.known id ticket found, rfl, reply,
        List.mem_append_right _ (List.mem_singleton_self _), tells⟩
    · obtain ⟨v, visit, key, r, replied, told⟩ := listed.told t old
      exact ⟨v, visit, key, r, List.mem_append_left _ replied, told⟩

theorem answer (listed : Listed c desk) (good : desk.Good)
    (ids : (desk.visits.map Visit.key).Nodup) (member : id ∈ c.pending)
    (tells : s.Tells reply) : Listed (c.settle id s) (desk.answer id reply) := by
  obtain ⟨ticket, found⟩ := Option.isSome_iff_exists.mp
    (AList.lookup_isSome.mpr ((listed.pending id).mp member))
  rw [Desk.answer, found]
  exact listed.leave good ids found tells

/-- Nobody waits under the id, and nobody is answered. -/
theorem unanswered (listed : Listed c desk) (missing : id ∉ c.pending) :
    desk.answer id reply = desk := by
  have absent := AList.lookup_eq_none.mpr fun waits => missing ((listed.pending id).mpr waits)
  rw [Desk.answer, absent]

theorem reject (listed : Listed c desk) (good : desk.Good) (message : String) :
    Listed c.rejectPending (desk.answerAll fun _ => .rejected message) := by
  constructor
  · intro other
    constructor
    · intro member
      cases member
    · intro member
      cases member
  · refine List.Perm.trans ?_ listed.offers
    simp only [SignalingClient.rejectPending, List.map_append, List.map_map, List.append_nil]
    exact (List.perm_append_comm).trans (by simp [Function.comp_def])
  · intro t settled
    rcases List.mem_append.mp settled with rejected | old
    -- Everyone on the list has a ticket, under which the message goes out.
    · obtain ⟨id, member, rfl⟩ := List.mem_map.mp rejected
      obtain ⟨ticket, found⟩ := Option.isSome_iff_exists.mp
        (AList.lookup_isSome.mpr ((listed.pending id).mp member))
      refine ⟨_, good.known id ticket found, rfl, .rejected message,
        List.mem_append_right _ (List.mem_map.mpr ?_), message, rfl⟩
      exact ⟨⟨id, ticket⟩, AList.mem_lookup_iff.mp found, rfl⟩
    · obtain ⟨v, visit, key, r, replied, told⟩ := listed.told t old
      exact ⟨v, visit, key, r, List.mem_append_left _ replied, told⟩

/-- An offer comes under a new id. -/
theorem enter (listed : Listed c desk) (pending : d.pending = c.pending ++ [id])
    (settlements : d.settlements = c.settlements) :
    Listed d (desk.call.enter id desk.calls) := by
  constructor
  · intro other
    rw [pending, List.mem_append, List.mem_singleton, listed.pending, Desk.enter,
      AList.mem_insert, or_comm]
    rfl
  · rw [pending, settlements, ← List.append_assoc, Desk.enter, List.map_append]
    exact listed.offers.append_right [id]
  · intro t settled
    rw [settlements] at settled
    obtain ⟨v, visit, key, rest⟩ := listed.told t settled
    exact ⟨v, List.mem_append_left _ visit, key, rest⟩

end Listed

/-- The client after `connect`, in the two models. -/
structure Views (c : SignalingClient) (g : GatewaySignalingClient) : Prop where
  socket : g.socket = c.socket
  attached : c.socket ≠ .gone → g.attached = true
  settled : g.settled = (c.handshake != .awaiting)
  connecting : g.connecting = (c.handshake == .awaiting)
  /-- A queue is emptied by the loop over it as soon as the client is ready. -/
  held : g.draining ++ g.queued = c.queued.map Delivered.frame
  draining : c.handshake ≠ .ready → g.draining = []
  queued : c.handshake = .ready → g.queued = []
  nextId : g.nextId = c.nextId
  negotiationGeneration : g.negotiationGeneration = c.negotiationGeneration
  closed : g.closed = c.closed
  listed : Listed c g.pending

/-- `socket.close` takes the reason, if there is a socket. -/
def SignalingClient.Returns (c : SignalingClient) (reason : String) : Prop :=
  c.socket = .gone ∨ reason.utf8ByteSize ≤ 123

/-- What the client does in a conversation, one step at a time. -/
inductive SignalingClient.Moves (c : SignalingClient) : SignalingClient → Prop
  | stays : c.Moves c
  | opens (connecting : c.socket = .connecting) : c.Moves { c with socket := .opened }
  | exchangeOffer (offer : Json Binary64) (restart : Bool) :
      c.Moves (c.exchangeOffer offer restart).1
  | sendCandidate (candidate : Json Binary64) : c.Moves (c.sendCandidate candidate).1
  | close (reason : String) (returns : c.Returns reason) : c.Moves (c.close reason).1
  | timeout {d : SignalingClient} (id : String) (fires : c.timeout id = some d) : c.Moves d
  | connectTimeout {d : SignalingClient} (fires : c.connectTimeout = some d) : c.Moves d
  | socketClosed {d : SignalingClient} (gone : c.socketClosed = some d) : c.Moves d
  | receive (d : Delivered) (present : c.socket ≠ .gone) : c.Moves (c.receive d)
  | drain {d : Delivered} {rest : List Delivered} (queue : c.queued = d :: rest)
      (ready : c.handshake = .ready) : c.Moves ({ c with queued := rest }.dispatch d)

namespace Views

open GatewaySignalingClient

variable {c d : SignalingClient} {g h : GatewaySignalingClient}

theorem exchangeOffer (views : Views c g) (inv : g.Inv) (offer : Json Binary64) (restart : Bool) :
    Views (c.exchangeOffer offer restart).1 (g.exchangeOffer true) := by
  have entered : Listed
      { c with
        negotiationGeneration := c.negotiationGeneration + 1
        nextId := c.nextId + 1
        pending := c.pending ++ [frameId "offer" (c.nextId + 1)] }
      (g.pending.call.enter (frameId "offer" (c.nextId + 1)) g.pending.calls) :=
    views.listed.enter rfl rfl
  have good := (enter_inv inv).1
  have ids := enter_ids inv
  rw [views.nextId] at good ids
  unfold SignalingClient.exchangeOffer GatewaySignalingClient.exchangeOffer
  dsimp only
  rw [views.socket, views.nextId, views.negotiationGeneration]
  by_cases opened : c.socket = .opened
  · rw [if_pos opened, if_pos ⟨opened, rfl⟩]
    exact { views with
      socket := rfl, nextId := rfl, negotiationGeneration := rfl, listed := entered }
  · rw [if_neg opened, if_neg fun sent => opened sent.1]
    refine { views with socket := rfl, nextId := rfl, negotiationGeneration := rfl, listed := ?_ }
    exact entered.answer good ids (List.mem_append_right _ (List.mem_singleton_self _)) rfl

theorem sendCandidate (views : Views c g) (candidate : Json Binary64) :
    Views (c.sendCandidate candidate).1 g.sendCandidate := by
  unfold SignalingClient.sendCandidate GatewaySignalingClient.sendCandidate
  rw [views.negotiationGeneration]
  by_cases early : c.negotiationGeneration < 1
  · rw [if_pos early, if_pos early]
    exact views
  · rw [if_neg early, if_neg early]
    exact { views with
      nextId := congrArg (· + 1) views.nextId
      negotiationGeneration := rfl
      listed := views.listed.same rfl rfl }

theorem close (views : Views c g) (inv : g.Inv) {reason : String} (returns : c.Returns reason) :
    Views (c.close reason).1 (g.close reason) := by
  have returns : ¬g.CloseThrows reason := by
    rintro ⟨present, long⟩
    rw [views.socket] at present
    rcases returns with gone | short
    · exact present gone
    · omega
  have rejected := views.listed.reject inv.good s!"RTC gateway closed: {reason}"
  unfold SignalingClient.close GatewaySignalingClient.close
  rw [if_neg returns, views.closed]
  by_cases closed : c.closed = true
  · rw [if_pos closed, if_pos closed]
    exact views
  · rw [if_neg closed, if_neg closed, GatewaySignalingClient.closing, views.socket, views.nextId]
    by_cases opened : c.socket = .opened
    · rw [if_pos opened, if_pos opened]
      exact { views with
        socket := rfl, attached := fun present => absurd rfl present, nextId := rfl, closed := rfl
        listed := rejected.same rfl rfl }
    · rw [if_neg opened, if_neg opened]
      exact { views with
        socket := rfl, attached := fun present => absurd rfl present, nextId := rfl, closed := rfl
        listed := rejected.same rfl rfl }

theorem dispatch (views : Views c g) (inv : g.Inv) (d : Delivered) :
    Views (c.dispatch d) (g.dispatch d.frame) := by
  unfold SignalingClient.dispatch GatewaySignalingClient.dispatch
  by_cases stale : g.stale d.frame = true
  · -- A candidate settles nothing.
    rw [if_pos stale]
    simp only [GatewaySignalingClient.stale, Bool.and_eq_true, beq_iff_eq] at stale
    have settles : SignalingClient.settles d.frame.type = false := by
      rw [stale.1]
      decide
    cases d.frame.id <;> simpa [settles] using views
  · rw [if_neg stale]
    cases d.frame.id with
    | none => exact views
    | some id =>
      dsimp only
      by_cases settles : id ≠ "" ∧ SignalingClient.settles d.frame.type = true
      · rw [if_pos settles]
        by_cases member : id ∈ c.pending
        · rw [if_pos ⟨settles.1, member, settles.2⟩]
          exact { views with
            listed := views.listed.answer inv.good inv.ids member (settlementOf_tells d) }
        · rw [if_neg fun own => member own.2.1, views.listed.unanswered member]
          exact views
      · rw [if_neg settles, if_neg fun own => settles ⟨own.1, own.2.2⟩]
        exact views

theorem receive (views : Views c g) (inv : g.Inv) (d : Delivered) :
    Views (c.receive d) (g.receive d.frame) := by
  unfold SignalingClient.receive GatewaySignalingClient.receive
  cases handshake : c.handshake with
  | ready | failed =>
    have settled : g.settled = true := by rw [views.settled, handshake]; rfl
    rw [if_pos settled]
    exact views.dispatch inv d
  | awaiting =>
    have open_ : ¬g.settled = true := by
      rw [views.settled, handshake]
      decide
    have draining : g.draining = [] := views.draining (by rw [handshake]; decide)
    have rejects : g.rejectReady = { g with settled := true, connecting := false } :=
      if_neg open_
    rw [if_neg open_]
    dsimp only
    by_cases error : d.frame.type = "gateway.error"
    · rw [if_pos error, if_pos error, rejects]
      exact { views with
        settled := rfl
        connecting := rfl
        draining := fun _ => draining
        queued := fun ready => by cases ready
        listed := views.listed.same rfl rfl }
    · rw [if_neg error, if_neg error]
      by_cases other : d.frame.type ≠ "gateway.ready"
      · -- It waits until the client is ready.
        rw [if_pos other, if_pos other]
        refine { views with
          settled := views.settled.trans (by rw [handshake])
          connecting := views.connecting.trans (by rw [handshake])
          held := ?_
          draining := fun _ => draining
          queued := ?_
          listed := views.listed.same rfl rfl }
        · rw [List.map_append, ← views.held, List.append_assoc]
          rfl
        · intro ready
          cases ready
      · rw [if_neg other, if_neg other]
        by_cases valid : SignalingClient.validReady d.frame.data = true
        · rw [if_pos valid, if_pos valid]
          refine { views with
            settled := rfl
            connecting := rfl
            held := ?_
            draining := fun early => absurd rfl early
            queued := fun _ => rfl
            listed := views.listed.same rfl rfl }
          rw [List.append_nil]
          exact views.held
        · rw [if_neg valid, if_neg valid, rejects]
          exact { views with
            socket := rfl
            attached := fun present => absurd rfl present
            settled := rfl
            connecting := rfl
            draining := fun _ => draining
            queued := fun ready => by cases ready
            listed := views.listed.same rfl rfl }

/-- Who waits has a timer that runs, and is told what the timer tells. -/
theorem timeout (views : Views c g) (inv : g.Inv) {id : String} (fires : c.timeout id = some d) :
    ∃ v h, g.step (.offerTimer v) = some h ∧ Views d h := by
  obtain ⟨member, made⟩ := Option.ite_none_right_eq_some.mp fires
  cases made
  obtain ⟨ticket, found⟩ := Option.isSome_iff_exists.mp
    (AList.lookup_isSome.mpr ((views.listed.pending id).mp member))
  let v : Visit String := ⟨ticket.caller, id, ticket.timer⟩
  have visit : v ∈ g.pending.visits := inv.good.known id ticket found
  have still : v.alarm ∈ g.pending.set := by
    rcases inv.good.alarmed v found with still | rung
    · exact still
    · rw [inv.heard] at rung
      cases rung
  refine ⟨v, g.offerTimedOut v, if_pos ⟨visit, still⟩, ?_⟩
  exact { views with listed := views.listed.leave inv.good inv.ids found rfl }

theorem connectTimeout (views : Views c g) (fires : c.connectTimeout = some d) :
    ∃ h, g.step .connectTimer = some h ∧ Views d h := by
  obtain ⟨awaiting, made⟩ := Option.ite_none_right_eq_some.mp fires
  cases made
  have connecting : g.connecting = true := by rw [views.connecting, awaiting]; rfl
  have rejects : g.rejectReady = { g with settled := true, connecting := false } := by
    rw [GatewaySignalingClient.rejectReady, views.settled, awaiting]
    rfl
  refine ⟨_, if_pos connecting, ?_⟩
  rw [rejects, views.socket]
  exact { views with
    socket := rfl
    attached := fun present => views.attached fun gone => present (if_pos gone)
    settled := rfl
    connecting := rfl
    draining := fun _ => views.draining (by rw [awaiting]; decide)
    queued := fun ready => by cases ready
    listed := views.listed.same rfl rfl }

theorem socketClosed (views : Views c g) (inv : g.Inv) (gone : c.socketClosed = some d)
    (reason : String) : ∃ h, g.step (.socketClose reason) = some h ∧ Views d h := by
  obtain ⟨present, made⟩ := Option.ite_none_left_eq_some.mp gone
  cases made
  refine ⟨_, if_pos (views.attached present), ?_⟩
  have rejected := views.listed.reject inv.good s!"RTC gateway closed: {reason}"
  unfold GatewaySignalingClient.socketClosed GatewaySignalingClient.rejectReady
  rw [views.settled]
  cases handshake : c.handshake with
  | awaiting =>
    rw [if_pos rfl, if_neg (by decide)]
    exact { views with
      socket := rfl
      attached := fun present => absurd rfl present
      settled := rfl
      connecting := rfl
      draining := fun _ => views.draining (by rw [handshake]; decide)
      queued := fun ready => by cases ready
      listed := rejected.same rfl rfl }
  | ready | failed =>
    rw [if_neg (by decide), if_pos (by decide)]
    exact { views with
      socket := rfl
      attached := fun present => absurd rfl present
      settled := views.settled.trans (by rw [handshake]; rfl)
      connecting := views.connecting.trans (by rw [handshake]; rfl)
      draining := fun early => views.draining (by rwa [handshake])
      queued := fun ready => views.queued (handshake.trans ready)
      listed := rejected.same rfl rfl }

/-- What `parseEvent` reads as a frame. -/
theorem parse_frame (frame : Frame Binary64) : ∃ raw, parseEvent raw = .ok frame := by
  obtain ⟨id, type, data⟩ := frame
  cases id with
  | none => exact ⟨.text (some (.obj [("type", .str type), ("data", .obj data)])), rfl⟩
  | some id =>
    exact ⟨.text (some (.obj [("id", .str id), ("type", .str type), ("data", .obj data)])), rfl⟩

/-- What one model of the client does, the other does as well. -/
theorem matched (views : Views c g) (inv : g.Inv) (moves : c.Moves d) :
    ∃ h, offers.Leads always g h ∧ Views d h := by
  cases moves with
  | stays => exact ⟨g, .here, views⟩
  | opens connecting =>
    have present : g.socket ≠ .gone := by
      rw [views.socket, connecting]
      decide
    refine ⟨{ g with socket := .opened }, .one (.readyState .opened) (if_neg ?_), ?_⟩
    · exact not_or.mpr ⟨present, by decide⟩
    · exact { views with
        socket := rfl
        attached := fun _ => views.attached (by rw [connecting]; decide)
        listed := views.listed.same rfl rfl }
  | exchangeOffer offer restart =>
    exact ⟨_, .one (.exchangeOffer true) rfl, views.exchangeOffer inv offer restart⟩
  | sendCandidate candidate => exact ⟨_, .one .sendCandidate rfl, views.sendCandidate candidate⟩
  | close reason returns => exact ⟨_, .one (.close reason) rfl, views.close inv returns⟩
  | timeout id fires =>
    obtain ⟨v, h, taken, after⟩ := views.timeout inv fires
    exact ⟨h, .one (.offerTimer v) taken, after⟩
  | connectTimeout fires =>
    obtain ⟨h, taken, after⟩ := views.connectTimeout fires
    exact ⟨h, .one .connectTimer taken, after⟩
  | socketClosed gone =>
    obtain ⟨h, taken, after⟩ := views.socketClosed inv gone ""
    exact ⟨h, .one (.socketClose "") taken, after⟩
  | receive d present =>
    obtain ⟨raw, parsed⟩ := parse_frame d.frame
    refine ⟨_, .one (.message raw) ?_, views.receive inv d⟩
    simp only [offers, step, views.attached present, if_true, parsed]
  | @drain d rest queue ready =>
    have queued := views.queued ready
    have held := views.held
    rw [queued, List.append_nil, queue, List.map_cons] at held
    refine ⟨({ g with draining := rest.map Delivered.frame }).dispatch d.frame, .one .drain ?_, ?_⟩
    · simp only [offers, step, held]
    · refine Views.dispatch (c := { c with queued := rest }) ?_ ?_ d
      · refine { views with held := ?_, draining := ?_, listed := views.listed.same rfl rfl }
        · rw [queued, List.append_nil]
        · exact fun early => absurd ready early
      · exact { inv with }

end Views

/-! ## Where the client is at work -/

/-- The client of `connect`, whose socket is still connecting. -/
def GatewaySignalingClient.connected : GatewaySignalingClient :=
  { GatewaySignalingClient.initial with
    socket := .connecting, attached := true, connecting := true }

theorem views_connected : Views .initial .connected := by
  constructor <;> try rfl
  · exact fun _ => rfl
  · exact fun _ => rfl
  · exact fun _ => rfl
  · constructor
    · intro id
      exact iff_of_false List.not_mem_nil (AList.notMem_empty id)
    · exact .nil
    · exact List.forall_mem_nil _

/-- What the client can become, `GatewaySignalingClient` can. -/
theorem views_of_moves {c : SignalingClient}
    (moved : Relation.ReflTransGen SignalingClient.Moves .initial c) :
    ∃ g, offers.Reaches always g ∧ Views c g := by
  induction moved with
  | refl => exact ⟨.connected, .one .connect rfl, views_connected⟩
  | tail _ moves ih =>
    obtain ⟨g, earlier, before⟩ := ih
    obtain ⟨h, later, after⟩ := before.matched (GatewaySignalingClient.invariant earlier) moves
    exact ⟨h, System.Leads.trans earlier later, after⟩

/-- A system in which a client is at work, from its `connect` on. -/
structure Hosts {σ ℓ : Type} (M : System σ ℓ) (C : σ → ℓ → Prop) (client : σ → SignalingClient) :
    Prop where
  start : Relation.ReflTransGen SignalingClient.Moves .initial (client M.init)
  moves : ∀ s l t, C s l → M.step s l = some t →
    Relation.ReflTransGen SignalingClient.Moves (client s) (client t)

namespace Hosts

variable {σ ℓ : Type} {M : System σ ℓ} {C : σ → ℓ → Prop} {client : σ → SignalingClient} {s : σ}

theorem views (hosts : Hosts M C client) (reached : M.Reaches C s) :
    ∃ g, offers.Reaches always g ∧ Views (client s) g :=
  views_of_moves (System.Reaches.preserves
    (P := fun s => Relation.ReflTransGen SignalingClient.Moves .initial (client s)) hosts.start
    (fun s l t before holds taken => before.trans (hosts.moves s l t holds taken)) reached)

/-- An offer is settled once, and does not wait when it has been settled. -/
theorem settles_once (hosts : Hosts M C client) (reached : M.Reaches C s) :
    ((client s).settlements.map Prod.fst ++ (client s).pending).Nodup := by
  obtain ⟨g, reached', views⟩ := hosts.views reached
  exact views.listed.distinct (GatewaySignalingClient.invariant reached').ids

end Hosts

/-! ## With a gateway -/

/-- The calls of `close` return. -/
def World.Returns (w : World) : Label → Prop
  | .close reason => w.client.Returns reason
  | _ => True

theorem world_hosts : Hosts world World.Returns World.client where
  start := .refl
  moves w l t returns taken := by
    refine .single ?_
    change w.step l = some t at taken
    cases l with
    | socketOpens =>
      obtain ⟨connecting, made⟩ := Option.ite_none_right_eq_some.mp taken
      cases made
      exact .opens connecting
    | exchangeOffer offer restart =>
      cases taken
      exact .exchangeOffer offer restart
    | sendCandidate candidate =>
      cases taken
      exact .sendCandidate candidate
    | close reason =>
      cases taken
      exact .close reason returns
    | timeout id =>
      obtain ⟨c, fires, rfl⟩ := Option.map_eq_some_iff.mp taken
      exact .timeout id fires
    | connectTimeout =>
      obtain ⟨c, fires, rfl⟩ := Option.map_eq_some_iff.mp taken
      exact .connectTimeout fires
    | socketCloses =>
      obtain ⟨c, gone, rfl⟩ := Option.map_eq_some_iff.mp taken
      exact .socketClosed gone
    | deliver =>
      simp only [World.step] at taken
      split at taken
      · cases taken
      next d rest next =>
        obtain ⟨present, made⟩ := Option.ite_none_right_eq_some.mp taken
        cases made
        exact .receive d fun gone => by simp [gone] at present
    | dispatchQueued =>
      simp only [World.step] at taken
      split at taken
      · cases taken
      next d rest queue =>
        obtain ⟨ready, made⟩ := Option.ite_none_right_eq_some.mp taken
        cases made
        exact .drain queue ready
    -- What happens beyond the client.
    | gatewayReads outcome written =>
      simp only [World.step] at taken
      split at taken
      · cases taken
      · obtain ⟨_, made⟩ := Option.ite_none_left_eq_some.mp taken
        cases made
        exact .stays
    | gatewayForwards written =>
      simp only [World.step] at taken
      split at taken
      · cases taken
      · cases taken
        exact .stays
    | gatewaySends ready data =>
      cases taken
      exact .stays
    | voxReplies type data =>
      simp only [World.step] at taken
      split at taken
      · cases taken
      · split at taken <;> cases taken
        exact .stays
    | voxSends type data =>
      simp only [World.step] at taken
      split at taken <;> cases taken
      exact .stays

section Conversations

variable {σ κ ε : Type} {R : Relay σ κ Outgoing ε (Frame Binary64) String AskedOffer}
  {events : Events ε}

def Conversation.Returns (w : Conversation σ ε) : ConversationStep κ ε → Prop
  | .close reason => w.client.Returns reason
  | _ => True

theorem conversation_hosts :
    Hosts (conversation R events) Conversation.Returns Conversation.client where
  start := .refl
  moves w l t returns taken := by
    refine .single ?_
    change w.step R events l = some t at taken
    cases l with
    | socketOpens =>
      obtain ⟨connecting, made⟩ := Option.ite_none_right_eq_some.mp taken
      cases made
      exact .opens connecting
    | exchangeOffer description restart =>
      cases taken
      exact .exchangeOffer description restart
    | sendCandidate candidate =>
      cases taken
      exact .sendCandidate candidate
    | close reason =>
      cases taken
      exact .close reason returns
    | timeout id =>
      obtain ⟨c, fires, rfl⟩ := Option.map_eq_some_iff.mp taken
      exact .timeout id fires
    | connectTimeout =>
      obtain ⟨c, fires, rfl⟩ := Option.map_eq_some_iff.mp taken
      exact .connectTimeout fires
    | socketCloses =>
      obtain ⟨c, gone, rfl⟩ := Option.map_eq_some_iff.mp taken
      exact .socketClosed gone
    | receive i =>
      simp only [Conversation.step, Option.bind_eq_bind, Option.bind_eq_some_iff] at taken
      obtain ⟨⟨frame, origin⟩, here, taken⟩ := taken
      obtain ⟨present, made⟩ := Option.ite_none_right_eq_some.mp taken
      cases made
      exact .receive _ fun gone => by simp [gone] at present
    | dispatchQueued =>
      simp only [Conversation.step] at taken
      split at taken
      · cases taken
      next d rest queue =>
        obtain ⟨ready, made⟩ := Option.ite_none_right_eq_some.mp taken
        cases made
        exact .drain queue ready
    | beyond l =>
      cases l with
      | request r => cases taken
      | _ =>
        obtain ⟨circuit, _, made⟩ := Option.map_eq_some_iff.mp taken
        cases made
        exact .stays

end Conversations

/-! ## In the browser client -/

namespace SignalingClient

variable {c : SignalingClient}

theorem exchangeOffer_socket (offer : Json Binary64) (restart : Bool) :
    (c.exchangeOffer offer restart).1.handshake = c.handshake ∧
      (c.exchangeOffer offer restart).1.socket = c.socket := by
  unfold exchangeOffer
  split <;> exact ⟨rfl, rfl⟩

theorem sendCandidate_socket (candidate : Json Binary64) :
    (c.sendCandidate candidate).1.handshake = c.handshake ∧
      (c.sendCandidate candidate).1.socket = c.socket := by
  unfold sendCandidate
  split <;> exact ⟨rfl, rfl⟩

theorem dispatch_socket (d : Delivered) :
    (c.dispatch d).handshake = c.handshake ∧ (c.dispatch d).socket = c.socket := by
  unfold dispatch
  split
  · split <;> exact ⟨rfl, rfl⟩
  · exact ⟨rfl, rfl⟩

theorem close_handshake (reason : String) : (c.close reason).1.handshake = c.handshake := by
  unfold close
  split
  · rfl
  · split <;> rfl

end SignalingClient

namespace BrowserClient

variable {c c' : BrowserClient} {d : SignalingClient}

/-- The signaling client has gone through its own steps only, and has its socket as long as
the client is open. -/
structure Signals (c : BrowserClient) : Prop where
  moved : Relation.ReflTransGen SignalingClient.Moves .initial c.signaling
  ready : c.signaling.handshake = .ready
  present : c.isOpen = true → c.signaling.socket ≠ .gone

namespace Signals

theorem quiet (signals : c.Signals) (same : c'.signaling = c.signaling)
    (opened : c'.isOpen = true → c.isOpen = true) : c'.Signals where
  moved := same ▸ signals.moved
  ready := same ▸ signals.ready
  present now := same ▸ signals.present (opened now)

theorem moves (signals : c.Signals) (moves : c.signaling.Moves c'.signaling)
    (socket : c'.signaling.handshake = c.signaling.handshake ∧
      c'.signaling.socket = c.signaling.socket)
    (opened : c'.isOpen = true → c.isOpen = true) : c'.Signals where
  moved := signals.moved.tail moves
  ready := socket.1.trans signals.ready
  present now := socket.2 ▸ signals.present (opened now)

theorem cleanup (signals : c.Signals) {reason : String} (short : reason.utf8ByteSize ≤ 123) :
    (c.cleanup reason).Signals where
  moved := signals.moved.tail (.close reason (.inr short))
  ready := (SignalingClient.close_handshake reason).trans signals.ready
  present opened := by cases opened

theorem disconnect (signals : c.Signals) : c.disconnect.Signals := signals.cleanup (by decide)

theorem restartIce (signals : c.Signals) : c.restartIce.1.Signals := by
  unfold BrowserClient.restartIce
  split
  · cases started : c.negotiate true with
    | none => exact signals
    | some c' =>
      simp only [negotiate, Option.ite_none_left_eq_some, Option.some.injEq] at started
      obtain ⟨-, rfl⟩ := started
      exact signals.quiet rfl id
  · exact signals

theorem emit (signals : c.Signals) (calls : List Call) : (c.emit calls).1.Signals := by
  unfold BrowserClient.emit
  generalize false = refused
  induction calls generalizing c refused with
  | nil => exact signals
  | cons made calls ih =>
    rw [List.foldl_cons]
    cases made with
    | restartIce => exact ih signals.restartIce _
    | disconnect => exact ih signals.disconnect _

theorem taskEnds (signals : c.Signals) (refused : Bool) : (c.taskEnds refused).Signals := by
  cases refused
  · exact signals
  · exact signals.disconnect

theorem signalingEvent (signals : c.Signals) (frame : Frame Binary64)
    (produced : Nat) : (c.signalingEvent frame produced).Signals := by
  unfold BrowserClient.signalingEvent serverCandidate
  split
  · split
    · split <;> exact signals.quiet rfl id
    · exact signals
  · split
    · exact signals.cleanup (by decide)
    · exact signals

theorem sendLocalCandidate (signals : c.Signals) (g : Gathered) :
    (c.sendLocalCandidate g).Signals := by
  unfold BrowserClient.sendLocalCandidate
  split
  · exact signals
  · exact signals.moves (.sendCandidate g.candidate) (SignalingClient.sendCandidate_socket _) id

theorem localCandidate (signals : c.Signals) (g : Gathered) : (c.localCandidate g).Signals := by
  unfold BrowserClient.localCandidate
  split
  · exact signals.quiet rfl id
  · exact signals.sendLocalCandidate g

theorem sendAll (signals : c.Signals) (pending : List Gathered) :
    (pending.foldl BrowserClient.sendLocalCandidate c).Signals := by
  induction pending generalizing c with
  | nil => exact signals
  | cons g pending ih => exact ih (signals.sendLocalCandidate g)

theorem localSet (signals : c.Signals) (offer : Json Binary64) (restart : Bool) :
    (c.localSet offer restart).Signals := by
  refine sendAll ?_ _
  exact signals.moves (.exchangeOffer offer restart) (SignalingClient.exchangeOffer_socket _ _) id

theorem flush (signals : c.Signals) (rest : List Produced) : (c.flush rest).Signals := by
  cases rest with
  | nil => exact signals.quiet rfl id
  | cons p rest => exact signals.quiet rfl id

theorem fails (signals : c.Signals) : (c.fails c.failReason).Signals := by
  have short : c.failReason.utf8ByteSize ≤ 123 := by
    unfold failReason
    split <;> decide
  have finished : c.finishes.Signals := signals.quiet rfl id
  exact finished.cleanup short

theorem resume (signals : c.Signals) {e : Event} (taken : c.resume e = some c') : c'.Signals := by
  cases e with
  | offerCreated | localApplied | remoteApplied =>
    simp only [BrowserClient.resume] at taken
    split at taken <;> cases taken
    exact signals.quiet rfl id
  | localSet offer =>
    simp only [BrowserClient.resume] at taken
    split at taken <;> cases taken
    exact signals.localSet offer _
  | answered =>
    simp only [BrowserClient.resume] at taken
    split at taken
    · split at taken <;> cases taken
      · exact signals.quiet rfl id
      · exact signals.fails
    · cases taken
  | remoteSet =>
    simp only [BrowserClient.resume] at taken
    split at taken <;> cases taken
    unfold BrowserClient.remoteSet
    split
    · exact signals.quiet rfl id
    · refine Signals.flush ?_ _
      exact signals.quiet rfl id
  | candidateAdded =>
    simp only [BrowserClient.resume] at taken
    split at taken <;> cases taken
    exact signals.flush _
  | rejects =>
    simp only [BrowserClient.resume] at taken
    split at taken <;> cases taken
    exact signals.fails
  | _ => cases taken

end Signals

/-- The client only has its signaling client take the steps that it has. -/
theorem signals_step {e : Event} (signals : c.Signals) (taken : negotiations.step c e = some c') :
    c'.Signals := by
  change c.step e = some c' at taken
  cases e with
  | connects =>
    simp only [step, Option.ite_none_right_eq_some, Option.some.injEq] at taken
    obtain ⟨⟨connecting, -⟩, rfl⟩ := taken
    exact signals.quiet rfl fun _ => by simp [isOpen, connecting]
  | mediaFails =>
    simp only [step, Option.ite_none_right_eq_some, Option.some.injEq] at taken
    obtain ⟨-, rfl⟩ := taken
    exact signals.cleanup (by decide)
  | restartIce =>
    cases taken
    exact signals.restartIce.taskEnds _
  | disconnect =>
    cases taken
    exact signals.disconnect
  | iceCandidate candidate calls =>
    simp only [step, Option.ite_none_right_eq_some, Option.some.injEq] at taken
    obtain ⟨-, rfl⟩ := taken
    exact ((signals.emit calls).localCandidate _).taskEnds _
  | receive d produced calls =>
    simp only [step, Option.ite_none_right_eq_some, Option.some.injEq] at taken
    obtain ⟨⟨opened, -⟩, rfl⟩ := taken
    have receives : c.signaling.Moves (c.signaling.dispatch d) := by
      have receives := SignalingClient.Moves.receive d (signals.present opened)
      simpa only [SignalingClient.receive, signals.ready] using receives
    have dispatched : (c.dispatched d).Signals :=
      signals.moves receives (SignalingClient.dispatch_socket d) id
    unfold receive
    split
    · exact ((dispatched.emit calls).signalingEvent d.frame produced).taskEnds _
    · exact dispatched
  | offerTimeout id =>
    obtain ⟨signaling, fires, rfl⟩ := Option.map_eq_some_iff.mp taken
    refine signals.moves (.timeout id fires) ?_ fun opened => opened
    obtain ⟨-, made⟩ := Option.ite_none_right_eq_some.mp fires
    cases made
    exact ⟨rfl, rfl⟩
  | socketCloses =>
    simp only [step, Option.ite_none_right_eq_some] at taken
    obtain ⟨signaling, gone, rfl⟩ := Option.map_eq_some_iff.mp taken.2
    refine ⟨(signals.moved.tail (.socketClosed gone)).tail (.close _ (.inr (by decide))), ?_,
      fun opened => by cases opened⟩
    obtain ⟨-, made⟩ := Option.ite_none_left_eq_some.mp gone
    cases made
    refine (SignalingClient.close_handshake _).trans ?_
    change (if c.signaling.handshake = .awaiting then .failed else c.signaling.handshake) = _
    rw [signals.ready]
    rfl
  | _ =>
    simp only [step] at taken
    exact signals.resume taken

/-- The bootstrap that `initial` has received. -/
def bootstrap : Delivered :=
  ⟨⟨none, "gateway.ready", [("session", .obj [("sessionId", .str "s"), ("iceServers", .arr [])])]⟩,
    .none⟩

theorem signals_initial : BrowserClient.initial.Signals where
  moved := .tail (.single (.opens rfl)) (.receive bootstrap Socket.noConfusion)
  ready := rfl
  present := fun _ => Socket.noConfusion

end BrowserClient

theorem negotiations_views {C : BrowserClient → Event → Prop} {c : BrowserClient}
    (reached : negotiations.Reaches C c) : ∃ g, offers.Reaches always g ∧ Views c.signaling g := by
  have signals : c.Signals := reached.preserves BrowserClient.signals_initial
    fun _ _ _ signals _ taken => BrowserClient.signals_step signals taken
  exact views_of_moves signals.moved

end VoxRtc.Browser
