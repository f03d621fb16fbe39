import Mathlib.Data.List.Induction
import VoxRtc.Correlation.Lossy
import VoxRtc.Transition.Fairness
import VoxRtc.Transition.Pool
import VoxRtc.Wire.Json

/-!
# Events of the Rust session

From the event subscription of the pond channel through the mirror task of
`RawSocketChannel::new` in `rust/rtcserver/src/socket.rs` to the loops of `on_event` and
`on` in `session.rs`, over the two broadcast channels between them.
-/
namespace VoxRtc.Rust.Session

open Wire Transition Correlation

abbrev EventData := Members SerdeNumber

/-- A message by its event name, as `map_channel_event` makes it. -/
abbrev Message := String × EventData

inductive ChannelEvent where
  | message (event : String) (payload : EventData)
  | presence

def mapChannelEvent : ChannelEvent → Option Message
  | .message event payload => some (event, payload)
  | .presence => none

/-- `ControlFlow`: what a loop does with the result of `recv`. -/
inductive ControlFlow (α : Type) where
  | break
  | continue (value : Option α)

def nextMessage {α : Type} : Except RecvError α → ControlFlow α
  | .ok message => .continue (some message)
  | .error (.lagged _) => .continue none
  | .error .closed => .break

/-- A message on its second channel, with its place on the pond channel. -/
structure Mirrored where
  place : Nat
  message : Message

/-- A listener: the loop of `on`, or that of `on_event` where no name is given. -/
structure Handler where
  event : Option String
  next : Nat
  running : Bool
  /-- The listener has not been dropped. -/
  registered : Bool
  /-- What the handler has been called with. -/
  delivered : List Mirrored
  /-- What the receiver has lost. -/
  overrun : List Mirrored
  /-- Where the two channels were at the registration. -/
  since : Nat
  start : Nat

namespace Handler

def wants (h : Handler) (message : Message) : Bool :=
  match h.event with
  | none => true
  | some name => message.1 == name

/-- One turn of the loop. -/
def turn (h : Handler) (messages : Lossy Mirrored) (result : Except RecvError Mirrored)
    (next : Nat) : Handler :=
  match nextMessage result with
  | .break => { h with running := false }
  | .continue none => { h with next := next, overrun := h.overrun ++ messages.lost h.next }
  | .continue (some m) =>
    { h with next := next, delivered := if h.wants m.message then h.delivered ++ [m] else h.delivered }

end Handler

structure Pipeline where
  pond : Lossy ChannelEvent
  /-- The receiver of the mirror task, until the task ends. -/
  mirror : Option Nat
  /-- The places on the pond channel that the mirror has lost. -/
  overrun : List Nat
  messages : Lossy Mirrored
  /-- The `RawSocketChannel` holds a sender of the second channel. -/
  held : Bool
  handlers : List Handler

inductive PipelineStep where
  | publish (event : ChannelEvent)
  | closePond
  | mirror
  | drop
  | on (event : Option String)
  | handle (k : Nat)
  | unregister (k : Nat)

namespace Pipeline

def initial (capacity : Nat) : Pipeline :=
  ⟨.empty capacity, some 0, [], .empty 1024, true, []⟩

/-- The mirror task: `while let Ok(event) = pond_events.recv().await`. -/
def mirrorTurn (s : Pipeline) (next : Nat) (result : Except RecvError ChannelEvent)
    (after : Nat) : Pipeline :=
  match result with
  | .ok event =>
    { s with
      mirror := some after
      messages := match mapChannelEvent event with
        | some message => s.messages.send ⟨next, message⟩
        | none => s.messages }
  -- A lag ends the task as the end of the channel does.
  | .error error =>
    { s with
      mirror := none
      overrun := s.overrun ++
        if error = .closed then [] else List.range' next (s.pond.oldest - next)
      messages := { s.messages with closed := !s.held } }

def step (s : Pipeline) : PipelineStep → Option Pipeline
  | .publish event => if s.pond.closed then none else some { s with pond := s.pond.send event }
  | .closePond => some { s with pond := { s.pond with closed := true } }
  | .mirror => do
    let next ← s.mirror
    let (result, after) ← s.pond.recv next
    return s.mirrorTurn next result after
  | .drop => some { s with
      held := false, messages := { s.messages with closed := s.mirror.isNone } }
  | .on event => some { s with
      handlers := s.handlers ++ [⟨event, s.messages.sent.length, true, true, [], [],
        s.pond.sent.length, s.messages.sent.length⟩] }
  | .handle k => do
    let h ← s.handlers[k]?
    let (result, next) ← s.messages.recv h.next
    if h.running then
      some { s with handlers := s.handlers.set k (h.turn s.messages result next) }
    else none
  | .unregister k => do
    let h ← s.handlers[k]?
    return { s with handlers := s.handlers.set k { h with running := false, registered := false } }

end Pipeline

/-- The pipeline over a pond channel of the given capacity. -/
def events (capacity : Nat) : System Pipeline PipelineStep :=
  ⟨.initial capacity, Pipeline.step⟩

namespace Pipeline

/-- Handler `k` is to get what was published at `place` after its registration. -/
def Due (s : Pipeline) (k place : Nat) : Prop :=
  ∃ h ∈ s.handlers[k]?, h.since ≤ place ∧
    ∃ event ∈ s.pond.sent[place]?, ∃ message ∈ mapChannelEvent event, h.wants message = true

/-- Handler `k` has got it, or it was overrun, or the listener is gone. -/
def Served (s : Pipeline) (k place : Nat) : Prop :=
  ∃ h ∈ s.handlers[k]?, (∃ m ∈ h.delivered, m.place = place) ∨
    place ∈ s.overrun ∨ (∃ m ∈ h.overrun, m.place = place) ∨ h.registered = false

/-- A handler's deliveries are messages of the pond channel, in their order and once. -/
structure Ordered (s : Pipeline) (h : Handler) : Prop where
  increasing : h.delivered.Pairwise fun m n => m.place < n.place
  published : ∀ m ∈ h.delivered, ∃ event ∈ s.pond.sent[m.place]?,
    mapChannelEvent event = some m.message ∧ h.wants m.message = true

def isMirror : PipelineStep → Prop
  | .mirror => True
  | _ => False

def isHandle (k : Nat) : PipelineStep → Prop
  | .handle j => j = k
  | _ => False

end Pipeline

open Pipeline in
/-- The pipeline survives lag in all runs whose steps meet the condition: whatever is
published for a handler reaches it, unless a buffer has lost the very message. -/
structure SurvivesLag (capacity : Nat) (C : Pipeline → PipelineStep → Prop) : Prop where
  ordered : ∀ s, (events capacity).Reaches C s → ∀ h ∈ s.handlers, s.Ordered h
  delivered : ∀ e : (events capacity).Execution C, e.WeaklyFair isMirror →
    (∀ k, e.WeaklyFair (isHandle k)) →
    ∀ n k place, (e.state n).Due k place → ∃ m, n ≤ m ∧ (e.state m).Served k place

/-- What the mirror makes of a beginning of the pond channel. -/
def mirrored (sent : List ChannelEvent) : List Mirrored :=
  sent.zipIdx.filterMap fun entry => (mapChannelEvent entry.1).map (⟨entry.2, ·⟩)

theorem mirrored_append (sent : List ChannelEvent) (event : ChannelEvent) :
    mirrored (sent ++ [event]) =
      mirrored sent ++ ((mapChannelEvent event).map (⟨sent.length, ·⟩)).toList := by
  unfold mirrored
  rw [List.zipIdx_append, List.filterMap_append]
  cases mapped : mapChannelEvent event <;> simp [mapped]

theorem mem_mirrored {sent : List ChannelEvent} {m : Mirrored} : m ∈ mirrored sent ↔
    ∃ event, sent[m.place]? = some event ∧ mapChannelEvent event = some m.message := by
  unfold mirrored
  rw [List.mem_filterMap]
  constructor
  · rintro ⟨⟨event, i⟩, member, made⟩
    obtain ⟨message, mapped, rfl⟩ := Option.map_eq_some_iff.mp made
    exact ⟨event, List.mem_zipIdx_iff_getElem?.mp member, mapped⟩
  · rintro ⟨event, here, mapped⟩
    exact ⟨(event, m.place), List.mem_zipIdx_iff_getElem?.mpr here, by simp [mapped]⟩

theorem mirrored_place {sent : List ChannelEvent} {m : Mirrored} (member : m ∈ mirrored sent) :
    m.place < sent.length := by
  obtain ⟨event, here, _⟩ := mem_mirrored.mp member
  exact (List.getElem?_eq_some_iff.mp here).1

theorem mirrored_increasing (sent : List ChannelEvent) :
    (mirrored sent).Pairwise fun m n => m.place < n.place := by
  induction sent using List.reverseRecOn with
  | nil => exact .nil
  | append_singleton sent event ih =>
    rw [mirrored_append, List.pairwise_append]
    refine ⟨ih, ?_, ?_⟩
    · cases mapChannelEvent event <;> simp
    · intro m member n last
      obtain ⟨message, _, rfl⟩ := Option.map_eq_some_iff.mp (Option.mem_toList.mp last)
      exact mirrored_place member

namespace Pipeline

variable {s t : Pipeline} {h : Handler} {l : PipelineStep}

/-- The mirror task does not receive a lag. -/
def Kept (s : Pipeline) : PipelineStep → Prop
  | .mirror => ∀ next ∈ s.mirror, s.pond.lags next = false
  | _ => True

instance (s : Pipeline) : (l : PipelineStep) → Decidable (s.Kept l)
  | .mirror => inferInstanceAs (Decidable (∀ next ∈ s.mirror, s.pond.lags next = false))
  | .publish _ | .closePond | .drop | .on _ | .handle _ | .unregister _ =>
    inferInstanceAs (Decidable True)

/-- A handler has dealt with all messages from its registration to where it stands. -/
structure Follows (s : Pipeline) (h : Handler) : Prop where
  start : h.start ≤ h.next ∧ h.next ≤ s.messages.sent.length
  early : ∀ m ∈ s.messages.sent.take h.start, m.place < h.since
  seen : ∀ i m, h.start ≤ i → i < h.next → s.messages.sent[i]? = some m →
    h.wants m.message = true → m ∈ h.delivered ∨ m ∈ h.overrun
  delivered : h.delivered.Sublist (s.messages.sent.take h.next)
  wanted : ∀ m ∈ h.delivered, h.wants m.message = true
  loops : h.registered = true →
    h.running = true ∨ s.messages.closed = true ∧ s.messages.sent.length ≤ h.next

/-- While the mirror has met no lag, its channel holds all of the pond channel that it has
read. -/
structure Inv (s : Pipeline) : Prop where
  place : ∀ next ∈ s.mirror, next ≤ s.pond.sent.length ∧
    s.messages.sent = mirrored (s.pond.sent.take next)
  gone : s.mirror = none → s.pond.closed = true ∧ s.messages.sent = mirrored s.pond.sent
  closed : s.messages.closed = true → s.mirror = none
  handlers : ∀ h ∈ s.handlers, s.Follows h

theorem inv_initial (capacity : Nat) : Inv (initial capacity) := by
  constructor
  · intro next here
    cases here
    exact ⟨Nat.le_refl _, rfl⟩
  · intro absurd
    cases absurd
  · intro absurd
    cases absurd
  · intro h member
    cases member

/-- The second channel grows, which it does not do once it is closed. -/
theorem Follows.append {more : List Mirrored} (follows : s.Follows h)
    (sent : t.messages.sent = s.messages.sent ++ more)
    (still : s.messages.closed = true → t.messages.closed = true ∧ more = []) : t.Follows h := by
  obtain ⟨start, within⟩ := follows.start
  constructor
  · rw [sent, List.length_append]
    omega
  · rw [sent, List.take_append_of_le_length (start.trans within)]
    exact follows.early
  · intro i m after before here
    rw [sent, List.getElem?_append_left (by omega)] at here
    exact follows.seen i m after before here
  · rw [sent, List.take_append_of_le_length within]
    exact follows.delivered
  · exact follows.wanted
  · intro registered
    rcases follows.loops registered with running | ⟨closed, last⟩
    · exact .inl running
    · obtain ⟨closed', none⟩ := still closed
      right
      rw [sent, none, List.append_nil]
      exact ⟨closed', last⟩

theorem Follows.same (follows : s.Follows h) (sent : t.messages.sent = s.messages.sent)
    (still : s.messages.closed = true → t.messages.closed = true) : t.Follows h := by
  have sent' : t.messages.sent = s.messages.sent ++ [] := by rw [sent, List.append_nil]
  exact follows.append sent' fun closed => ⟨still closed, rfl⟩

theorem mem_lost {next i : Nat} {m : Mirrored} {messages : Lossy Mirrored} (after : next ≤ i)
    (before : i < messages.oldest) (here : messages.sent[i]? = some m) : m ∈ messages.lost next := by
  unfold Lossy.lost
  rw [List.mem_iff_getElem?]
  refine ⟨i - next, ?_⟩
  rw [List.getElem?_take_of_lt (by omega), List.getElem?_drop, Nat.add_sub_cancel' after]
  exact here

/-- One turn of a handler's loop. -/
theorem follows_turn {result : Except RecvError Mirrored} {next : Nat} (follows : s.Follows h)
    (receives : s.messages.Receives h.next result next) (running : h.running = true) :
    s.Follows (h.turn s.messages result next) := by
  obtain ⟨start, within⟩ := follows.start
  obtain ⟨onward, bound⟩ := receives.le within
  cases receives with
  -- The next message: it is delivered, if the handler wants it.
  | ok value here kept =>
    have grown : s.messages.sent.take (h.next + 1) = s.messages.sent.take h.next ++ [value] := by
      rw [List.take_add_one, here]
      rfl
    constructor
    · exact ⟨start.trans onward, bound⟩
    · exact follows.early
    · intro i m after before at_ wanted
      have new : m ∈ (h.turn s.messages (.ok value) (h.next + 1)).delivered ∨ m ∈ h.overrun := by
        by_cases last : i = h.next
        · rw [last, here] at at_
          cases at_
          have wanted : h.wants value.message = true := wanted
          left
          dsimp only [Handler.turn, nextMessage]
          rw [if_pos wanted]
          exact List.mem_append_right _ (List.mem_singleton_self _)
        · have earlier : i < h.next := by
            dsimp only [Handler.turn, nextMessage] at before
            omega
          rcases follows.seen i m after earlier at_ wanted with got | lost
          · left
            dsimp only [Handler.turn, nextMessage]
            split
            · exact List.mem_append_left _ got
            · exact got
          · exact .inr lost
      exact new
    · dsimp only [Handler.turn, nextMessage]
      rw [grown]
      split
      · exact follows.delivered.append (List.Sublist.refl _)
      · exact follows.delivered.trans (List.sublist_append_left _ _)
    · dsimp only [Handler.turn, nextMessage]
      split
      next wanted =>
        intro m member
        rcases List.mem_append.mp member with old | new
        · exact follows.wanted m old
        · rw [List.mem_singleton.mp new]
          exact wanted
      · exact follows.wanted
    · exact fun _ => .inl running
  -- What was overwritten counts as overrun, up to where the handler goes on.
  | lagged behind =>
    constructor
    · exact ⟨start.trans onward, bound⟩
    · exact follows.early
    · intro i m after before at_ wanted
      by_cases earlier : i < h.next
      · rcases follows.seen i m after earlier at_ wanted with got | lost
        · exact .inl got
        · exact .inr (List.mem_append_left _ lost)
      · exact .inr (List.mem_append_right _ (mem_lost (Nat.le_of_not_lt earlier) before at_))
    · exact follows.delivered.trans (List.take_sublist_take_left onward)
    · exact follows.wanted
    · exact fun _ => .inl running
  -- The sender is gone and everything has been read.
  | closed gone end_ =>
    exact ⟨follows.start, follows.early, follows.seen, follows.delivered, follows.wanted,
      fun _ => .inr ⟨gone, end_⟩⟩

theorem step_mirror (taken : s.step .mirror = some t) : ∃ next result after,
    s.mirror = some next ∧ s.pond.Receives next result after ∧
      t = s.mirrorTurn next result after := by
  simp only [step, Option.bind_eq_bind, Option.bind_eq_some_iff, Option.pure_def,
    Option.some.injEq] at taken
  obtain ⟨next, here, ⟨result, after⟩, returned, rfl⟩ := taken
  exact ⟨next, result, after, here, Lossy.receives returned, rfl⟩

theorem step_handle {k : Nat} (taken : s.step (.handle k) = some t) : ∃ h result next,
    s.handlers[k]? = some h ∧ h.running = true ∧ s.messages.Receives h.next result next ∧
      t = { s with handlers := s.handlers.set k (h.turn s.messages result next) } := by
  simp only [step, Option.bind_eq_bind, Option.bind_eq_some_iff, Option.ite_none_right_eq_some,
    Option.some.injEq] at taken
  obtain ⟨h, found, ⟨result, next⟩, returned, running, rfl⟩ := taken
  exact ⟨h, result, next, found, running, Lossy.receives returned, rfl⟩

theorem step_unregister {k : Nat} (taken : s.step (.unregister k) = some t) : ∃ h,
    s.handlers[k]? = some h ∧
      t = { s with handlers := s.handlers.set k { h with running := false, registered := false } } := by
  simp only [step, Option.bind_eq_bind, Option.bind_eq_some_iff, Option.pure_def,
    Option.some.injEq] at taken
  obtain ⟨h, found, rfl⟩ := taken
  exact ⟨h, found, rfl⟩

/-- The mirror forwards what it reads, or stops at the end of the pond channel. -/
theorem inv_mirror {next after : Nat} {result : Except RecvError ChannelEvent} (inv : Inv s)
    (here : s.mirror = some next) (receives : s.pond.Receives next result after)
    (kept : s.pond.lags next = false) : Inv (s.mirrorTurn next result after) := by
  obtain ⟨within, sent⟩ := inv.place next here
  have open_ : s.messages.closed = true → False := fun closed => by
    rw [inv.closed closed] at here
    cases here
  cases receives with
  -- What the mirror has sent is the image of what it has read.
  | ok event at_ _ =>
    have ahead : next < s.pond.sent.length := (List.getElem?_eq_some_iff.mp at_).1
    have grown : s.pond.sent.take (next + 1) = s.pond.sent.take next ++ [event] := by
      rw [List.take_add_one, at_]
      rfl
    have forwarded : (s.mirrorTurn next (.ok event) (next + 1)).messages.sent =
        s.messages.sent ++ ((mapChannelEvent event).map (⟨next, ·⟩)).toList := by
      cases mapped : mapChannelEvent event <;> simp [mirrorTurn, mapped, Lossy.send]
    constructor
    · intro place same
      cases same
      refine ⟨ahead, ?_⟩
      rw [forwarded, sent]
      change _ = mirrored (s.pond.sent.take (next + 1))
      rw [grown, mirrored_append, List.length_take_of_le within]
    · intro absurd
      cases absurd
    · intro closed
      dsimp only [mirrorTurn] at closed
      split at closed <;> exact (open_ closed).elim
    · intro h member
      exact (inv.handlers h member).append forwarded fun closed => (open_ closed).elim
  -- The condition excludes a mirror that lags.
  | lagged behind =>
    have lags : s.pond.lags next = true := by simpa [Lossy.lags] using behind
    rw [lags] at kept
    cases kept
  -- It has read everything, and its end closes the messages.
  | closed gone end_ =>
    constructor
    · intro place absurd
      cases absurd
    · intro _
      refine ⟨gone, ?_⟩
      change s.messages.sent = _
      rw [sent, List.take_of_length_le end_]
      rfl
    · exact fun _ => rfl
    · intro h member
      exact (inv.handlers h member).same rfl fun closed => (open_ closed).elim

/-- The registration sees what is there already, and none of it was published later. -/
theorem follows_new (inv : Inv s) (event : Option String) :
    s.Follows ⟨event, s.messages.sent.length, true, true, [], [], s.pond.sent.length,
      s.messages.sent.length⟩ := by
  constructor
  · exact ⟨Nat.le_refl _, Nat.le_refl _⟩
  · intro m member
    have earlier := List.mem_of_mem_take member
    cases here : s.mirror with
    | none =>
      rw [(inv.gone here).2] at earlier
      exact mirrored_place earlier
    | some next =>
      rw [(inv.place next here).2] at earlier
      have early := mirrored_place earlier
      rw [List.length_take] at early
      exact Nat.lt_of_lt_of_le early (Nat.min_le_right _ _)
  · intro i m after before
    exact absurd after (Nat.not_le_of_lt before)
  · exact List.nil_sublist _
  · intro m absurd
    cases absurd
  · exact fun _ => .inl rfl

theorem inv_step (inv : Inv s) (kept : s.Kept l) (taken : s.step l = some t) : Inv t := by
  cases l with
  | publish event =>
    simp only [step, Option.ite_none_left_eq_some, Option.some.injEq] at taken
    obtain ⟨open_, rfl⟩ := taken
    refine ⟨?_, ?_, inv.closed, ?_⟩
    · intro next here
      obtain ⟨within, sent⟩ := inv.place next here
      dsimp only [Lossy.send]
      rw [List.length_append, List.take_append_of_le_length within]
      exact ⟨Nat.le_add_right_of_le within, sent⟩
    · intro none
      exact absurd (inv.gone none).1 open_
    · exact fun h member => (inv.handlers h member).same rfl id
  | closePond =>
    cases taken
    refine ⟨inv.place, fun none => ⟨rfl, (inv.gone none).2⟩, inv.closed, ?_⟩
    exact fun h member => (inv.handlers h member).same rfl id
  | mirror =>
    obtain ⟨next, result, after, here, receives, rfl⟩ := step_mirror taken
    exact inv_mirror inv here receives (kept next here)
  | drop =>
    cases taken
    refine ⟨inv.place, inv.gone, fun closed => by simpa using closed, ?_⟩
    intro h member
    refine (inv.handlers h member).same rfl fun closed => ?_
    simp [inv.closed closed]
  | on event =>
    cases taken
    refine ⟨inv.place, inv.gone, inv.closed, Pool.forall_append ?_ ?_⟩
    · exact fun h member => (inv.handlers h member).same rfl id
    · exact (follows_new inv event).same rfl id
  | handle k =>
    obtain ⟨h, result, next, found, running, receives, rfl⟩ := step_handle taken
    refine ⟨inv.place, inv.gone, inv.closed, Pool.forall_set ?_ ?_⟩
    · exact fun h member => (inv.handlers h member).same rfl id
    · have turned := follows_turn (inv.handlers h (Pool.mem_of_read found)) receives running
      exact turned.same rfl id
  | unregister k =>
    obtain ⟨h, found, rfl⟩ := step_unregister taken
    refine ⟨inv.place, inv.gone, inv.closed, Pool.forall_set ?_ ?_⟩
    · exact fun h member => (inv.handlers h member).same rfl id
    · have follows := inv.handlers h (Pool.mem_of_read found)
      exact ⟨follows.start, follows.early, follows.seen, follows.delivered, follows.wanted,
        fun absurd => (by cases absurd)⟩

theorem invariant {capacity : Nat} {C : Pipeline → PipelineStep → Prop}
    (kept : ∀ s l, C s l → s.Kept l) (reached : (events capacity).Reaches C s) : Inv s :=
  System.Reaches.preserves (inv_initial capacity)
    (fun _ _ _ inv meets taken => inv_step inv (kept _ _ meets) taken) reached

/-- All messages on the second channel come from the pond channel, in its order. -/
theorem Inv.messages (inv : Inv s) :
    (s.messages.sent.Pairwise fun m n => m.place < n.place) ∧
      ∀ m ∈ s.messages.sent, m ∈ mirrored s.pond.sent := by
  cases here : s.mirror with
  | none =>
    rw [(inv.gone here).2]
    exact ⟨mirrored_increasing _, fun m member => member⟩
  | some next =>
    rw [(inv.place next here).2]
    refine ⟨mirrored_increasing _, fun m member => ?_⟩
    obtain ⟨event, at_, mapped⟩ := mem_mirrored.mp member
    refine mem_mirrored.mpr ⟨event, ?_, mapped⟩
    have early : m.place < next := by
      have bound := mirrored_place member
      rw [List.length_take] at bound
      omega
    rwa [List.getElem?_take_of_lt early] at at_

theorem Inv.ordered (inv : Inv s) (member : h ∈ s.handlers) : s.Ordered h := by
  have follows := inv.handlers h member
  obtain ⟨increasing, published⟩ := inv.messages
  have within := follows.delivered.trans (List.take_sublist _ _)
  constructor
  · exact increasing.sublist within
  · intro m got
    obtain ⟨event, here, mapped⟩ := mem_mirrored.mp (published m (within.subset got))
    exact ⟨event, here, mapped, follows.wanted m got⟩

/-- What is never taken back: publications, messages, and what a handler is after. -/
structure Later (s t : Pipeline) : Prop where
  pond : ∀ (i : Nat) event, s.pond.sent[i]? = some event → t.pond.sent[i]? = some event
  messages : ∀ (i : Nat) m, s.messages.sent[i]? = some m → t.messages.sent[i]? = some m
  handlers : ∀ (k : Nat) h, s.handlers[k]? = some h → ∃ h', t.handlers[k]? = some h' ∧
    h'.event = h.event ∧ h'.since = h.since ∧ h'.start = h.start

theorem read_append {α : Type} {xs ys : List α} {i : Nat} {x : α} (here : xs[i]? = some x) :
    (xs ++ ys)[i]? = some x := by
  rw [List.getElem?_append_left (List.getElem?_eq_some_iff.mp here).1]
  exact here

theorem turn_same (messages : Lossy Mirrored) (result : Except RecvError Mirrored) (next : Nat) :
    (h.turn messages result next).event = h.event ∧
      (h.turn messages result next).since = h.since ∧
      (h.turn messages result next).start = h.start ∧
      (h.turn messages result next).registered = h.registered := by
  unfold Handler.turn
  split <;> exact ⟨rfl, rfl, rfl, rfl⟩

/-- One handler changes, and is after the same as before. -/
theorem handlers_set {k : Nat} {old new : Handler} (found : s.handlers[k]? = some old)
    (event : new.event = old.event) (since : new.since = old.since)
    (start : new.start = old.start) (j : Nat) (h : Handler)
    (here : s.handlers[j]? = some h) : ∃ h', (s.handlers.set k new)[j]? = some h' ∧
      h'.event = h.event ∧ h'.since = h.since ∧ h'.start = h.start := by
  by_cases same : j = k
  · subst same
    rw [found] at here
    cases here
    exact ⟨new, Pool.read_set_self found, event, since, start⟩
  · rw [Pool.read_set_other same]
    exact ⟨h, here, rfl, rfl, rfl⟩

theorem later_step (taken : s.step l = some t) : Later s t := by
  cases l with
  | publish event =>
    simp only [step, Option.ite_none_left_eq_some, Option.some.injEq] at taken
    obtain ⟨_, rfl⟩ := taken
    exact ⟨fun _ _ => read_append, fun _ _ => id, fun _ h here => ⟨h, here, rfl, rfl, rfl⟩⟩
  | closePond =>
    cases taken
    exact ⟨fun _ _ => id, fun _ _ => id, fun _ h here => ⟨h, here, rfl, rfl, rfl⟩⟩
  | mirror =>
    obtain ⟨next, result, after, _, _, rfl⟩ := step_mirror taken
    cases result with
    | error error => exact ⟨fun _ _ => id, fun _ _ => id, fun _ h here => ⟨h, here, rfl, rfl, rfl⟩⟩
    | ok event =>
      refine ⟨fun _ _ => id, fun i m here => ?_, fun _ h here => ⟨h, here, rfl, rfl, rfl⟩⟩
      dsimp only [mirrorTurn]
      split
      · exact read_append here
      · exact here
  | drop =>
    cases taken
    exact ⟨fun _ _ => id, fun _ _ => id, fun _ h here => ⟨h, here, rfl, rfl, rfl⟩⟩
  | on event =>
    cases taken
    exact ⟨fun _ _ => id, fun _ _ => id, fun _ h here => ⟨h, read_append here, rfl, rfl, rfl⟩⟩
  | handle k =>
    obtain ⟨h, result, next, found, _, _, rfl⟩ := step_handle taken
    obtain ⟨event, since, start, _⟩ := turn_same (h := h) s.messages result next
    exact ⟨fun _ _ => id, fun _ _ => id, handlers_set found event since start⟩
  | unregister k =>
    obtain ⟨h, found, rfl⟩ := step_unregister taken
    exact ⟨fun _ _ => id, fun _ _ => id, handlers_set found rfl rfl rfl⟩

theorem wants_same {h h' : Handler} (event : h'.event = h.event) (message : Message) :
    h'.wants message = h.wants message := by
  unfold Handler.wants
  rw [event]

theorem due_step {k place : Nat} (due : s.Due k place) (taken : s.step l = some t) :
    t.Due k place := by
  obtain ⟨h, found, since, event, here, message, mapped, wanted⟩ := due
  have later := later_step taken
  obtain ⟨h', found', same, same', _⟩ := later.handlers k h found
  refine ⟨h', found', same' ▸ since, event, later.pond place event here, message, mapped, ?_⟩
  rw [wants_same same]
  exact wanted

section Liveness

variable {k place i : Nat} {m : Mirrored}

/-- The mirror has yet to read the message. -/
def Ahead (k place : Nat) (s : Pipeline) : Prop :=
  s.Due k place ∧ ∃ next, s.mirror = some next ∧ next ≤ place

/-- The mirror has read it, or has come to its end. -/
def Passed (k place : Nat) (s : Pipeline) : Prop :=
  s.Due k place ∧ ∀ next ∈ s.mirror, place < next

def distance (place : Nat) (s : Pipeline) : Nat := place + 1 - s.mirror.getD 0

theorem ahead_enabled {capacity : Nat} (ahead : Ahead k place s) :
    (events capacity).Enabled isMirror s := by
  obtain ⟨⟨h, _, _, event, here, _⟩, next, at_, before⟩ := ahead
  have within : place < s.pond.sent.length := (List.getElem?_eq_some_iff.mp here).1
  obtain ⟨⟨result, after⟩, returned⟩ :=
    Option.isSome_iff_exists.mp (s.pond.recv_isSome (Nat.lt_of_le_of_lt before within))
  exact ⟨.mirror, trivial, by simp [events, step, at_, returned]⟩

/-- Only the mirror task moves the mirror. -/
theorem mirror_kept (taken : s.step l = some t) (other : ¬isMirror l) : t.mirror = s.mirror := by
  cases l with
  | publish event =>
    simp only [step, Option.ite_none_left_eq_some, Option.some.injEq] at taken
    obtain ⟨_, rfl⟩ := taken
    rfl
  | mirror => exact absurd trivial other
  | closePond | drop | on event =>
    cases taken
    rfl
  | handle k =>
    obtain ⟨h, result, next, _, _, _, rfl⟩ := step_handle taken
    rfl
  | unregister k =>
    obtain ⟨h, _, rfl⟩ := step_unregister taken
    rfl

theorem ahead_mirror (ahead : Ahead k place s) (taken : s.step .mirror = some t) :
    Passed k place t ∨ Ahead k place t ∧ distance place t < distance place s := by
  obtain ⟨due, next, at_, before⟩ := ahead
  have due' := due_step due taken
  obtain ⟨place', result, after, here, receives, rfl⟩ := step_mirror taken
  rw [at_] at here
  cases here
  cases receives with
  | ok event _ _ =>
    by_cases last : next = place
    · left
      refine ⟨due', fun other same => ?_⟩
      cases same
      omega
    · right
      refine ⟨⟨due', next + 1, rfl, by omega⟩, ?_⟩
      simp only [distance, at_, mirrorTurn, Option.getD_some]
      omega
  | lagged _ | closed _ _ =>
    left
    exact ⟨due', fun other absurd => by cases absurd⟩

theorem ahead_step (ahead : Ahead k place s) (taken : s.step l = some t) :
    Passed k place t ∨ Ahead k place t ∧ distance place t ≤ distance place s := by
  by_cases served : isMirror l
  · cases l with
    | mirror => exact (ahead_mirror ahead taken).imp_right fun kept => ⟨kept.1, Nat.le_of_lt kept.2⟩
    | _ => cases served
  · have same := mirror_kept taken served
    obtain ⟨due, next, at_, before⟩ := ahead
    right
    refine ⟨⟨due_step due taken, next, same.trans at_, before⟩, ?_⟩
    rw [distance, distance, same]

/-- A message that the mirror has read is on the second channel, after the place where the
handler has begun. -/
theorem Inv.arrived (inv : Inv s) (passed : Passed k place s) : ∃ i m,
    s.messages.sent[i]? = some m ∧ m.place = place ∧ ∃ h, s.handlers[k]? = some h ∧
      h.start ≤ i ∧ h.wants m.message = true := by
  obtain ⟨⟨h, found, since, event, here, message, mapped, wanted⟩, read⟩ := passed
  have listed : ⟨place, message⟩ ∈ s.messages.sent := by
    cases at_ : s.mirror with
    | none =>
      rw [(inv.gone at_).2]
      exact mem_mirrored.mpr ⟨event, here, mapped⟩
    | some next =>
      rw [(inv.place next at_).2]
      refine mem_mirrored.mpr ⟨event, ?_, mapped⟩
      rw [List.getElem?_take_of_lt (read next at_)]
      exact here
  obtain ⟨i, at_⟩ := List.mem_iff_getElem?.mp listed
  refine ⟨i, ⟨place, message⟩, at_, rfl, h, found, ?_, wanted⟩
  -- What was there at the registration was published before it.
  by_contra earlier
  have follows := inv.handlers h (Pool.mem_of_read found)
  have old : ⟨place, message⟩ ∈ s.messages.sent.take h.start := by
    rw [List.mem_iff_getElem?]
    exact ⟨i, by rw [List.getElem?_take_of_lt (Nat.lt_of_not_le earlier), at_]⟩
  exact absurd since (Nat.not_le_of_lt (follows.early _ old))

/-- The handler has yet to come to the message. -/
def Waiting (k i : Nat) (m : Mirrored) (s : Pipeline) : Prop :=
  s.messages.sent[i]? = some m ∧
    ∃ h, s.handlers[k]? = some h ∧ h.registered = true ∧ h.next ≤ i

/-- It has come past it, or the listener is gone. -/
def Read (k i : Nat) (s : Pipeline) : Prop :=
  ∃ h, s.handlers[k]? = some h ∧ (h.registered = false ∨ i < h.next)

def gap (k i : Nat) (s : Pipeline) : Nat := i + 1 - (s.handlers[k]?.elim 0 Handler.next)

theorem waiting_enabled {capacity : Nat} (inv : Inv s) (waiting : Waiting k i m s) :
    (events capacity).Enabled (isHandle k) s := by
  obtain ⟨here, h, found, registered, before⟩ := waiting
  have within : i < s.messages.sent.length := (List.getElem?_eq_some_iff.mp here).1
  have running : h.running = true := by
    rcases (inv.handlers h (Pool.mem_of_read found)).loops registered with running | ⟨_, last⟩
    · exact running
    · omega
  obtain ⟨⟨result, after⟩, returned⟩ :=
    Option.isSome_iff_exists.mp (s.messages.recv_isSome (Nat.lt_of_le_of_lt before within))
  exact ⟨.handle k, rfl, by simp [events, step, found, returned, running]⟩

theorem turn_next {result : Except RecvError Mirrored} {next : Nat} (messages : Lossy Mirrored)
    (receives : messages.Receives h.next result next) :
    (h.turn messages result next).next = next := by
  cases receives <;> rfl

theorem waiting_handle (waiting : Waiting k i m s) (taken : s.step (.handle k) = some t) :
    Read k i t ∨ Waiting k i m t ∧ gap k i t < gap k i s := by
  have later := later_step taken
  obtain ⟨here, h, found, registered, before⟩ := waiting
  have within : i < s.messages.sent.length := (List.getElem?_eq_some_iff.mp here).1
  obtain ⟨h', result, next, found', _, receives, rfl⟩ := step_handle taken
  rw [found] at found'
  cases found'
  have onward := receives.advances (Nat.lt_of_le_of_lt before within)
  have stands := turn_next s.messages receives
  have read := Pool.read_set_self (b := h.turn s.messages result next) found
  by_cases past : i < next
  · refine .inl ⟨_, read, .inr ?_⟩
    rw [stands]
    exact past
  · right
    refine ⟨⟨here, _, read, ?_, ?_⟩, ?_⟩
    · rw [(turn_same s.messages result next).2.2.2]
      exact registered
    · omega
    · simp only [gap, read, found, Option.elim_some, stands]
      omega

/-- Only its own loop moves a handler that stays registered. -/
theorem waiting_step (waiting : Waiting k i m s) (taken : s.step l = some t) :
    Read k i t ∨ Waiting k i m t ∧ gap k i t ≤ gap k i s := by
  have here' := (later_step taken).messages i m waiting.1
  obtain ⟨here, h, found, registered, before⟩ := waiting
  have same (found' : t.handlers[k]? = some h) :
      Read k i t ∨ Waiting k i m t ∧ gap k i t ≤ gap k i s := by
    refine .inr ⟨⟨here', h, found', registered, before⟩, ?_⟩
    rw [gap, gap, found, found']
  cases l with
  | publish event =>
    simp only [step, Option.ite_none_left_eq_some, Option.some.injEq] at taken
    obtain ⟨_, rfl⟩ := taken
    exact same found
  | closePond | drop =>
    cases taken
    exact same found
  | mirror =>
    obtain ⟨next, result, after, _, _, rfl⟩ := step_mirror taken
    cases result <;> exact same found
  | on event =>
    cases taken
    exact same (read_append found)
  | handle j =>
    -- A handler moves alone.
    by_cases own : j = k
    · subst own
      exact (waiting_handle ⟨here, h, found, registered, before⟩ taken).imp_right
        fun kept => ⟨kept.1, Nat.le_of_lt kept.2⟩
    · obtain ⟨h', result, next, found', _, _, rfl⟩ := step_handle taken
      exact same ((Pool.read_set_other (Ne.symm own)).trans found)
  | unregister j =>
    obtain ⟨h', found', rfl⟩ := step_unregister taken
    by_cases own : j = k
    · subst own
      exact .inl ⟨_, Pool.read_set_self found', .inl rfl⟩
    · exact same ((Pool.read_set_other (Ne.symm own)).trans found)

/-- What a handler has come past it has been called with, or has lost. -/
theorem Inv.served (inv : Inv s) {h : Handler} (found : s.handlers[k]? = some h)
    (here : s.messages.sent[i]? = some m) (after : h.start ≤ i) (wanted : h.wants m.message = true)
    (read : h.registered = false ∨ i < h.next) : s.Served k m.place := by
  refine ⟨h, found, ?_⟩
  rcases read with gone | past
  · exact .inr (.inr (.inr gone))
  · rcases (inv.handlers h (Pool.mem_of_read found)).seen i m after past here wanted with got | lost
    · exact .inl ⟨m, got, rfl⟩
    · exact .inr (.inr (.inl ⟨m, lost, rfl⟩))

section Executions

variable {capacity : Nat} {C : Pipeline → PipelineStep → Prop}
  (e : (events capacity).Execution C)

theorem eventually_passed (fair : e.WeaklyFair isMirror) {n : Nat}
    (due : (e.state n).Due k place) : ∃ j, n ≤ j ∧ Passed k place (e.state j) := by
  by_cases read : ∀ next ∈ (e.state n).mirror, place < next
  · exact ⟨n, Nat.le_refl _, due, read⟩
  · have ahead : Ahead k place (e.state n) := by
      refine ⟨due, ?_⟩
      push Not at read
      exact read
    refine e.eventually_of_rank (distance place) fair ?_ ?_ ?_ n ahead
    · exact fun s _ ahead => ahead_enabled ahead
    · exact fun s l t _ ahead _ taken => ahead_step ahead taken
    · intro s l t _ ahead served _ taken
      cases l with
      | mirror => exact ahead_mirror ahead taken
      | _ => cases served

theorem eventually_read (kept : ∀ s l, C s l → s.Kept l) (fair : e.WeaklyFair (isHandle k))
    {n : Nat} {h : Handler} (found : (e.state n).handlers[k]? = some h)
    (here : (e.state n).messages.sent[i]? = some m) : ∃ j, n ≤ j ∧ Read k i (e.state j) := by
  by_cases read : h.registered = false ∨ i < h.next
  · exact ⟨n, Nat.le_refl _, h, found, read⟩
  · simp only [not_or, Bool.not_eq_false, Nat.not_lt] at read
    have waiting : Waiting k i m (e.state n) := ⟨here, h, found, read⟩
    refine e.eventually_of_rank (gap k i) fair ?_ ?_ ?_ n waiting
    · exact fun s reached waiting => waiting_enabled (invariant kept reached) waiting
    · exact fun s l t _ waiting _ taken => waiting_step waiting taken
    · intro s l t _ waiting served _ taken
      cases l with
      | handle j =>
        cases served
        exact waiting_handle waiting taken
      | _ => cases served

/-- What the later state says of a handler and of a message. -/
theorem later_execution {n j : Nat} (later : n ≤ j) : Later (e.state n) (e.state j) := by
  refine (e.leads later).preserves (P := Later (e.state n)) ?_ ?_
  · intro a l b first _ taken
    have second := later_step taken
    refine ⟨fun i event here => second.pond i event (first.pond i event here),
      fun i m here => second.messages i m (first.messages i m here), fun k h found => ?_⟩
    obtain ⟨h', found', event, since, start⟩ := first.handlers k h found
    obtain ⟨h'', found'', event', since', start'⟩ := second.handlers k h' found'
    exact ⟨h'', found'', event'.trans event, since'.trans since, start'.trans start⟩
  · exact ⟨fun _ _ => id, fun _ _ => id, fun _ h found => ⟨h, found, rfl, rfl, rfl⟩⟩

end Executions

end Liveness

end Pipeline

/-- As long as the mirror task meets no lag, handlers survive every lag of their own. -/
theorem survives_lag {capacity : Nat} {C : Pipeline → PipelineStep → Prop}
    (kept : ∀ s l, C s l → s.Kept l) : SurvivesLag capacity C := by
  constructor
  · intro s reached h member
    exact (Pipeline.invariant kept reached).ordered member
  · intro e mirrors handles n k place due
    obtain ⟨j, after, passed⟩ := Pipeline.eventually_passed e mirrors due
    have inv := Pipeline.invariant kept (e.reaches j)
    obtain ⟨i, m, here, rfl, h, found, start, wanted⟩ := inv.arrived passed
    obtain ⟨j', after', read⟩ := Pipeline.eventually_read e kept (handles k) found here
    refine ⟨j', after.trans after', ?_⟩
    -- Where the handler has read past it, the message is where it was.
    have later := Pipeline.later_execution e after'
    obtain ⟨h', found', event, _, start'⟩ := later.handlers k h found
    obtain ⟨h'', found'', past⟩ := read
    rw [found'] at found''
    cases found''
    have wanted' : h'.wants m.message = true := (Pipeline.wants_same event m.message).trans wanted
    exact (Pipeline.invariant kept (e.reaches j')).served found' (later.messages i m here)
      (start' ▸ start) wanted' past

section Runs

def started : ChannelEvent := .message "turn.started" []

/-- Two messages with a presence event between them, read as they come. -/
def keptRun : List PipelineStep :=
  [.on none, .publish started, .mirror, .publish .presence, .publish started, .mirror, .mirror,
    .handle 0, .handle 0]

theorem survives_lag_run : ∃ s, (events 2).run (events 2).init keptRun = some s ∧
    s.handlers.map (fun h => h.delivered.map Mirrored.place) = [[0, 2]] ∧
    ∀ h ∈ s.handlers, s.Ordered h := by
  refine ⟨_, rfl, rfl, ?_⟩
  have survives : SurvivesLag 2 Pipeline.Kept := survives_lag fun _ _ kept => kept
  have reached := System.leads_of_run (M := events 2) (C := Pipeline.Kept)
    (s := (events 2).init) keptRun (by decide) rfl
  exact survives.ordered _ reached

/-- Three messages before the mirror task reads one, where two fit; then one more. -/
def laggedRun : List PipelineStep :=
  [.on none, .publish started, .publish started, .publish started, .mirror, .publish started]

/-- What the run leads to: the mirror is gone and the channel still open. -/
def stranded : Pipeline :=
  { pond := ⟨2, [started, started, started, started], false⟩
    mirror := none
    overrun := [0]
    messages := .empty 1024
    held := true
    handlers := [⟨none, 0, true, true, [], [], 0, 0⟩] }

theorem stranded_reads : ¬(events 2).Enabled Pipeline.isMirror stranded ∧
    ∀ k, ¬(events 2).Enabled (Pipeline.isHandle k) stranded := by
  constructor
  · rintro ⟨l, served, enabled⟩
    cases l with
    | mirror => cases enabled
    | _ => cases served
  · rintro k ⟨l, served, enabled⟩
    cases l with
    | handle j =>
      cases j with
      | zero => cases enabled
      | succ j => cases enabled
    | _ => cases served

/-- The message published last is lost in no buffer, and nobody will ever get it. -/
theorem lag_ends_events :
    (events 2).run (events 2).init laggedRun = some stranded ∧ ¬SurvivesLag 2 always := by
  have ran : (events 2).run (events 2).init laggedRun = some stranded := rfl
  refine ⟨ran, fun survives => ?_⟩
  obtain ⟨quiet, silent⟩ := stranded_reads
  have meets := System.meets_always (M := events 2) (s := (events 2).init) laggedRun
  have final (n : Nat) (past : 6 ≤ n) :
      (System.Execution.ofRun laggedRun meets ran).state n = stranded :=
    System.states_end laggedRun ran n past
  have due : stranded.Due 0 3 :=
    ⟨_, rfl, Nat.zero_le _, started, rfl, _, rfl, rfl⟩
  obtain ⟨n, past, h, found, served⟩ := survives.delivered
    (System.Execution.ofRun laggedRun meets ran) (System.Execution.ofRun_fair _ meets ran quiet)
    (fun k => System.Execution.ofRun_fair _ meets ran (silent k)) 6 0 3 (by
      rw [final 6 (Nat.le_refl _)]
      exact due)
  rw [final n past] at found served
  cases found
  simp [stranded] at served

end Runs

end VoxRtc.Rust.Session
