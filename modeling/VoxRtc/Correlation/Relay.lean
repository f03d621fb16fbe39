import VoxRtc.Transition.Pool
import VoxRtc.Transition.Runs

/-!
# Relays

A relay stands between a client and a server. Requests come to it under ids, and it sends some
of them on; the replies of the server carry no id, and the relay gives each reply one. These
are the rules by which every reply gets the id of its own request, whatever the relay does in
between, in whatever order it takes the events of the server, and in whatever order the
messages that it writes arrive.
-/
namespace Correlation

open Transition

/-- What a message to the client is about: a reply of the server, a request that has failed at
the relay, or nothing that was asked for. -/
inductive Origin (ι : Type) where
  | reply (request : ι)
  | failure (request : ι)
  | other
  deriving DecidableEq, Repr

/-- What a step takes in. -/
inductive Input (ρ ε : Type) where
  | request (r : ρ)
  | event (e : ε)
  | nothing

/-- What a step comes to: a request may go to the server, as `β` has it, and messages to the
client, each with the request that has failed if it says so. -/
structure Moved (σ φ ι β : Type) where
  state : σ
  offered : Option (ι × β) := none
  written : List (φ × Option ι) := []

/-- A relay; `κ` are the choices that its environment makes for it. -/
structure Relay (σ κ ρ ε φ ι β : Type) where
  init : σ
  step : σ → Input ρ ε → κ → Option (Moved σ φ ι β)

/-- How requests, events and messages are told apart. -/
structure Labelling (ρ ε φ ι β : Type) where
  name : ρ → ι
  replies : ε → Bool
  /-- The id that a message has. -/
  tag : φ → Option ι
  /-- The message is one that a reply becomes. -/
  answers : φ → Bool
  /-- What a request asks of the server. -/
  asks : ρ → β → Prop
  /-- What an event tells the client. -/
  tells : ε → φ → Prop

variable {σ κ ρ ε φ ι β : Type}

namespace Labelling

variable (labels : Labelling ρ ε φ ι β)

/-- A message has an id only if it says that the request with that id has failed. -/
def Fails (written : φ × Option ι) : Prop :=
  ∀ id, labels.tag written.1 = some id → written.2 = some id ∧ labels.answers written.1 = false

/-- Something is asked of the server because a request asks it. -/
def Backed (read : List ρ) (asked : ι × β) : Prop :=
  ∃ r ∈ read, labels.name r = asked.1 ∧ labels.asks r asked.2

theorem Backed.more {read : List ρ} {asked : ι × β} (backed : labels.Backed read asked)
    (more : List ρ) : labels.Backed (read ++ more) asked := by
  obtain ⟨r, member, same⟩ := backed
  exact ⟨r, List.mem_append_left more member, same⟩

end Labelling

namespace Relay

/-- A step leaves the request that the server has, or offers it one when it has none. -/
structure Offers (labels : Labelling ρ ε φ ι β) (Keeps : List ρ → σ → Option ι → Prop)
    (read : List ρ) (held : Option ι) (m : Moved σ φ ι β) : Prop where
  quiet : m.offered = none → Keeps read m.state held
  offered : ∀ asked, m.offered = some asked →
    held = none ∧ Keeps read m.state (some asked.1) ∧ labels.Backed read asked
  written : ∀ w ∈ m.written, labels.Fails w

/-- `Keeps read s held` says that the relay has read the requests `read`, and that `held` is the
one that the server has not replied to as far as the relay has heard. -/
structure Correlates (R : Relay σ κ ρ ε φ ι β) (labels : Labelling ρ ε φ ι β)
    (Keeps : List ρ → σ → Option ι → Prop) : Prop where
  start : Keeps [] R.init none
  request : ∀ {read s held r k m}, Keeps read s held → labels.name r ∉ read.map labels.name →
    R.step s (.request r) k = some m → Offers labels Keeps (read ++ [r]) held m
  move : ∀ {read s held k m}, Keeps read s held → R.step s .nothing k = some m →
    Offers labels Keeps read held m
  /-- The server replies only where it has a request. -/
  event : ∀ {read s held e k m}, Keeps read s held →
    (labels.replies e = true → held.isSome = true) → R.step s (.event e) k = some m →
    m.offered = none ∧ Keeps read m.state (if labels.replies e then none else held) ∧
    ∀ w ∈ m.written, w.2 = none ∧ ∀ id, labels.tag w.1 = some id →
      labels.replies e = true ∧ held = some id ∧ labels.answers w.1 = true ∧ labels.tells e w.1

end Relay

/-- A relay between its client and its server. The server replies at most once to each request
that has been sent on to it, the oldest first, and never unasked. -/
structure Circuit (σ ρ ε φ ι β : Type) where
  relay : σ
  /-- The requests that the relay has read. -/
  read : List ρ := []
  /-- On their way to the relay, in their order. -/
  requests : List ρ := []
  /-- What the server has not replied to, the oldest first. -/
  asked : List (ι × β) := []
  /-- The replies that the server has made. -/
  replied : List ((ι × β) × ε) := []
  /-- On their way from the server; a reply has the id of its request. -/
  events : List (ε × Option ι) := []
  /-- On their way to the client. -/
  messages : List (φ × Origin ι) := []

inductive CircuitStep (κ ρ ε φ : Type) where
  | request (r : ρ)
  | read (k : κ)
  | hear (i : Nat) (k : κ)
  | move (k : κ)
  /-- The server replies to the oldest request. -/
  | reply (e : ε)
  /-- The server sends something that is no reply. -/
  | speak (e : ε)
  /-- A message that has no id. -/
  | announce (f : φ)
  /-- A message arrives, or is lost. -/
  | arrive (i : Nat)

namespace Circuit

/-- What a message is about, given the request of the event it was made of. -/
def about (replied failed : Option ι) : Origin ι :=
  match failed, replied with
  | some id, _ => .failure id
  | none, some id => .reply id
  | none, none => .other

def initial (R : Relay σ κ ρ ε φ ι β) : Circuit σ ρ ε φ ι β := { relay := R.init }

/-- The relay has moved, and what it gives off enters the channels. -/
def moved (c : Circuit σ ρ ε φ ι β) (replied : Option ι) (m : Moved σ φ ι β) :
    Circuit σ ρ ε φ ι β :=
  { c with
    relay := m.state
    asked := c.asked ++ m.offered.toList
    messages := c.messages ++ m.written.map fun w => (w.1, about replied w.2) }

def step (R : Relay σ κ ρ ε φ ι β) (labels : Labelling ρ ε φ ι β) (c : Circuit σ ρ ε φ ι β) :
    CircuitStep κ ρ ε φ → Option (Circuit σ ρ ε φ ι β)
  | .request r => some { c with requests := c.requests ++ [r] }
  | .read k => match c.requests with
    | [] => none
    | r :: rest => (R.step c.relay (.request r) k).map fun m =>
      { c with requests := rest, read := c.read ++ [r] }.moved none m
  | .hear i k => do
    let (e, replied) ← c.events[i]?
    let m ← R.step c.relay (.event e) k
    return { c with events := c.events.eraseIdx i }.moved replied m
  | .move k => (R.step c.relay .nothing k).map fun m => c.moved none m
  | .reply e => match c.asked with
    | [] => none
    | asked :: rest =>
      if labels.replies e then some { c with
        asked := rest
        replied := c.replied ++ [(asked, e)]
        events := c.events ++ [(e, some asked.1)] }
      else none
  | .speak e =>
    if labels.replies e then none else some { c with events := c.events ++ [(e, none)] }
  | .announce f =>
    if (labels.tag f).isNone then some { c with messages := c.messages ++ [(f, .other)] } else none
  | .arrive i =>
    if i < c.messages.length then some { c with messages := c.messages.eraseIdx i } else none

/-- The client does not use an id twice. -/
def Fresh (labels : Labelling ρ ε φ ι β) (c : Circuit σ ρ ε φ ι β) : CircuitStep κ ρ ε φ → Prop
  | .request r => labels.name r ∉ (c.read ++ c.requests).map labels.name
  | _ => True

/-- An event is a reply that the server has made to a request, as that request asked. -/
def Replied (labels : Labelling ρ ε φ ι β) (c : Circuit σ ρ ε φ ι β) (id : ι) (e : ε) : Prop :=
  ∃ b, ((id, b), e) ∈ c.replied ∧ labels.Backed c.read (id, b)

/-- A message that has an id is about the request with that id, and tells what the server has
replied to it. -/
def Tagged (labels : Labelling ρ ε φ ι β) (c : Circuit σ ρ ε φ ι β) (m : φ × Origin ι) : Prop :=
  ∀ id, labels.tag m.1 = some id →
    if labels.answers m.1 then
      m.2 = .reply id ∧ ∃ e, Replied labels c id e ∧ labels.tells e m.1
    else m.2 = .failure id

/-- Requests that have been offered and whose replies the relay has not heard. -/
def unheard (c : Circuit σ ρ ε φ ι β) : List ι :=
  c.events.filterMap (·.2) ++ c.asked.map Prod.fst

structure Inv (labels : Labelling ρ ε φ ι β) (Keeps : List ρ → σ → Option ι → Prop)
    (c : Circuit σ ρ ε φ ι β) : Prop where
  distinct : ((c.read ++ c.requests).map labels.name).Nodup
  keeps : ∃ held, Keeps c.read c.relay held ∧ c.unheard = held.toList
  asked : ∀ a ∈ c.asked, labels.Backed c.read a
  events : ∀ x ∈ c.events, x.2.isSome = labels.replies x.1 ∧
    ∀ id, x.2 = some id → Replied labels c id x.1
  tagged : ∀ m ∈ c.messages, Tagged labels c m

section Steps

variable {R : Relay σ κ ρ ε φ ι β} {labels : Labelling ρ ε φ ι β}
  {Keeps : List ρ → σ → Option ι → Prop} {c d : Circuit σ ρ ε φ ι β} {l : CircuitStep κ ρ ε φ}

/-- What the server has replied, and what has been read, only becomes more. -/
structure Grows (c d : Circuit σ ρ ε φ ι β) : Prop where
  read : ∃ more, d.read = c.read ++ more
  replied : ∃ more, d.replied = c.replied ++ more

theorem Grows.same (read : d.read = c.read) (replied : d.replied = c.replied) : c.Grows d :=
  ⟨⟨[], by rw [read, List.append_nil]⟩, ⟨[], by rw [replied, List.append_nil]⟩⟩

theorem Replied.grows {id : ι} {e : ε} (replied : Replied labels c id e) (grows : c.Grows d) :
    Replied labels d id e := by
  obtain ⟨b, member, backed⟩ := replied
  obtain ⟨⟨read, same⟩, ⟨more, longer⟩⟩ := grows
  refine ⟨b, ?_, ?_⟩
  · rw [longer]
    exact List.mem_append_left more member
  · rw [same]
    exact backed.more _ read

theorem Tagged.grows {m : φ × Origin ι} (tagged : Tagged labels c m) (grows : c.Grows d) :
    Tagged labels d m := by
  intro id tag
  have before := tagged id tag
  split at before
  next answers =>
    obtain ⟨origin, e, replied, tells⟩ := before
    rw [if_pos answers]
    exact ⟨origin, e, replied.grows grows, tells⟩
  next other =>
    rw [if_neg other]
    exact before

theorem inv_initial (correlates : R.Correlates labels Keeps) : Inv labels Keeps (initial R) where
  distinct := List.nodup_nil
  keeps := ⟨none, correlates.start, rfl⟩
  asked := by simp [initial]
  events := by simp [initial]
  tagged := by simp [initial]

/-- A message that tells of a failure is about the request that has failed. -/
theorem fails_tagged {w : φ × Option ι} (fails : labels.Fails w) :
    Tagged labels c (w.1, about none w.2) := by
  intro id tag
  obtain ⟨failed, answers⟩ := fails id tag
  simp [about, failed, answers]

/-- A step on a request, or of the relay's own; `c` has the request among those read. -/
theorem inv_offers {held : Option ι} {m : Moved σ φ ι β}
    (distinct : ((c.read ++ c.requests).map labels.name).Nodup)
    (unheard : c.unheard = held.toList) (asked : ∀ a ∈ c.asked, labels.Backed c.read a)
    (events : ∀ x ∈ c.events, x.2.isSome = labels.replies x.1 ∧
      ∀ id, x.2 = some id → Replied labels c id x.1)
    (tagged : ∀ m ∈ c.messages, Tagged labels c m)
    (offers : Relay.Offers labels Keeps c.read held m) : Inv labels Keeps (c.moved none m) where
  distinct := distinct
  keeps := by
    cases offered : m.offered with
    | none =>
      refine ⟨held, offers.quiet offered, ?_⟩
      simpa [moved, offered, Circuit.unheard] using unheard
    | some a =>
      obtain ⟨free, keeps, _⟩ := offers.offered a offered
      refine ⟨some a.1, keeps, ?_⟩
      rw [free] at unheard
      simp only [Circuit.unheard, Option.toList_none, List.append_eq_nil_iff,
        List.map_eq_nil_iff] at unheard
      simp [moved, offered, Circuit.unheard, unheard.1, unheard.2]
  asked := by
    intro a member
    rcases List.mem_append.mp member with old | new
    · exact asked a old
    · exact (offers.offered a (Option.mem_toList.mp new)).2.2
  events := events
  tagged := by
    intro message member
    rcases List.mem_append.mp member with old | new
    · exact tagged message old
    · obtain ⟨w, among, rfl⟩ := List.mem_map.mp new
      exact fails_tagged (offers.written w among)

/-- A step on an event: if it is a reply, then it is to the one request that the server had. -/
theorem inv_hear {i : Nat} {e : ε} {replied : Option ι} {k : κ} {m : Moved σ φ ι β}
    (correlates : R.Correlates labels Keeps) (inv : Inv labels Keeps c)
    (found : c.events[i]? = some (e, replied)) (taken : R.step c.relay (.event e) k = some m) :
    Inv labels Keeps ({ c with events := c.events.eraseIdx i }.moved replied m) := by
  obtain ⟨held, keeps, unheard⟩ := inv.keeps
  obtain ⟨paired, made⟩ := inv.events _ (Pool.mem_of_read found)
  obtain ⟨before, after, events, erased⟩ := Pool.erase_at found
  simp only [Circuit.unheard, events, List.filterMap_append, List.filterMap_cons] at unheard
  -- The server replies to one request at most, which is the one that is held.
  have only : ∀ id, replied = some id → held = some id ∧
      before.filterMap (·.2) ++ after.filterMap (·.2) ++ c.asked.map Prod.fst = [] := by
    rintro id rfl
    cases held with
    | none => simp at unheard
    | some other =>
      have length := congrArg List.length unheard
      simp only [Option.toList_some, List.length_append, List.length_cons, List.length_nil] at length
      have first : before.filterMap (·.2) = [] := List.eq_nil_of_length_eq_zero (by omega)
      have second : after.filterMap (·.2) = [] := List.eq_nil_of_length_eq_zero (by omega)
      have third : c.asked.map Prod.fst = [] := List.eq_nil_of_length_eq_zero (by omega)
      simp only [first, second, third, List.nil_append, List.append_nil, Option.toList_some,
        List.cons.injEq, and_true] at unheard
      exact ⟨by rw [unheard], by rw [first, second, third]; rfl⟩
  have expected : labels.replies e = true → held.isSome = true := by
    intro reply
    obtain ⟨id, same⟩ := Option.isSome_iff_exists.mp (paired.trans reply)
    rw [(only id same).1, Option.isSome_some]
  obtain ⟨quiet, kept, written⟩ := correlates.event keeps expected taken
  constructor
  · exact inv.distinct
  · refine ⟨_, kept, ?_⟩
    simp only [Circuit.unheard, moved, quiet, Option.toList_none, List.append_nil, erased,
      List.filterMap_append]
    cases replied with
    | none =>
      have other : labels.replies e = false := by rw [← paired, Option.isSome_none]
      simpa [other] using unheard
    | some id =>
      have reply : labels.replies e = true := by rw [← paired, Option.isSome_some]
      rw [if_pos reply, Option.toList_none]
      exact (only id rfl).2
  · simpa [moved, quiet] using inv.asked
  · intro event member
    exact inv.events event (List.mem_of_mem_eraseIdx member)
  · intro message member
    rcases List.mem_append.mp member with old | new
    · exact inv.tagged message old
    · obtain ⟨w, among, rfl⟩ := List.mem_map.mp new
      obtain ⟨sound, tags⟩ := written w among
      intro id tag
      obtain ⟨reply, same, answers, tells⟩ := tags id tag
      obtain ⟨other, target⟩ := Option.isSome_iff_exists.mp (paired.trans reply)
      have own : other = id := by
        have first := (only other target).1
        rw [same] at first
        exact (Option.some.inj first).symm
      rw [own] at target
      rw [if_pos answers]
      have source : replied = some id := target
      exact ⟨by rw [sound, source]; rfl, e, made id target, tells⟩

theorem step_grows (taken : c.step R labels l = some d) : c.Grows d := by
  cases l with
  | request r =>
    cases taken
    exact .same rfl rfl
  | read k =>
    simp only [step] at taken
    split at taken
    · cases taken
    next r rest next =>
      obtain ⟨m, _, rfl⟩ := Option.map_eq_some_iff.mp taken
      exact ⟨⟨[r], rfl⟩, ⟨[], (List.append_nil _).symm⟩⟩
  | hear i k =>
    simp only [step, Option.bind_eq_bind, Option.bind_eq_some_iff, Option.pure_def,
      Option.some.injEq] at taken
    obtain ⟨_, _, m, _, rfl⟩ := taken
    exact .same rfl rfl
  | move k =>
    obtain ⟨m, _, rfl⟩ := Option.map_eq_some_iff.mp taken
    exact .same rfl rfl
  | reply e =>
    simp only [step] at taken
    split at taken
    · cases taken
    next a rest next =>
      simp only [Option.ite_none_right_eq_some, Option.some.injEq] at taken
      obtain ⟨_, rfl⟩ := taken
      exact ⟨⟨[], (List.append_nil _).symm⟩, ⟨[(a, e)], rfl⟩⟩
  | speak e =>
    simp only [step, Option.ite_none_left_eq_some, Option.some.injEq] at taken
    obtain ⟨_, rfl⟩ := taken
    exact .same rfl rfl
  | announce f | arrive i =>
    simp only [step, Option.ite_none_right_eq_some, Option.some.injEq] at taken
    obtain ⟨_, rfl⟩ := taken
    exact .same rfl rfl

theorem inv_step (correlates : R.Correlates labels Keeps) (inv : Inv labels Keeps c)
    (fresh : Fresh labels c l) (taken : c.step R labels l = some d) : Inv labels Keeps d := by
  obtain ⟨held, keeps, unheard⟩ := inv.keeps
  have grows := step_grows taken
  cases l with
  | request r =>
    cases taken
    refine ⟨?_, ⟨held, keeps, unheard⟩, inv.asked, inv.events, inv.tagged⟩
    rw [← List.append_assoc, List.map_append]
    exact List.nodup_append.mpr ⟨inv.distinct, List.nodup_cons.mpr (by simp), fun a old b new => by
      rw [List.mem_singleton.mp new]
      rintro rfl
      exact fresh old⟩
  | read k =>
    simp only [step] at taken
    split at taken
    · cases taken
    next r rest next =>
      obtain ⟨m, moves, rfl⟩ := Option.map_eq_some_iff.mp taken
      have distinct := inv.distinct
      rw [next, List.map_append, List.map_cons] at distinct
      have unread : labels.name r ∉ c.read.map labels.name := fun old =>
        (List.nodup_append.mp distinct).2.2 _ old _ List.mem_cons_self rfl
      have more : c.Grows { c with requests := rest, read := c.read ++ [r] } :=
        ⟨⟨[r], rfl⟩, ⟨[], (List.append_nil _).symm⟩⟩
      refine inv_offers ?_ unheard (fun a member => (inv.asked a member).more _ [r])
        (fun x member => ⟨(inv.events x member).1, fun id same =>
          ((inv.events x member).2 id same).grows more⟩)
        (fun message member => (inv.tagged message member).grows more)
        (correlates.request keeps unread moves)
      simpa using distinct
  | hear i k =>
    simp only [step, Option.bind_eq_bind, Option.bind_eq_some_iff, Option.pure_def,
      Option.some.injEq] at taken
    obtain ⟨⟨e, replied⟩, found, m, moves, rfl⟩ := taken
    exact inv_hear correlates inv found moves
  | move k =>
    obtain ⟨m, moves, rfl⟩ := Option.map_eq_some_iff.mp taken
    exact inv_offers inv.distinct unheard inv.asked inv.events inv.tagged
      (correlates.move keeps moves)
  | reply e =>
    simp only [step] at taken
    split at taken
    · cases taken
    next a rest next =>
      simp only [Option.ite_none_right_eq_some, Option.some.injEq] at taken
      obtain ⟨reply, rfl⟩ := taken
      rw [Circuit.unheard, next] at unheard
      constructor
      · exact inv.distinct
      · exact ⟨held, keeps, by simpa [Circuit.unheard] using unheard⟩
      · intro other member
        exact inv.asked other (by rw [next]; exact List.mem_cons_of_mem a member)
      · refine Pool.forall_append (fun x member => ⟨(inv.events x member).1, fun id same =>
          ((inv.events x member).2 id same).grows grows⟩) ⟨by rw [reply, Option.isSome_some], ?_⟩
        intro id same
        cases same
        exact ⟨a.2, List.mem_append_right _ (by simp), inv.asked a (by simp [next])⟩
      · exact fun message member => (inv.tagged message member).grows grows
  | speak e =>
    simp only [step, Option.ite_none_left_eq_some, Option.some.injEq] at taken
    obtain ⟨other, rfl⟩ := taken
    refine ⟨inv.distinct, ⟨held, keeps, ?_⟩, inv.asked, ?_, inv.tagged⟩
    · simpa [Circuit.unheard] using unheard
    · exact Pool.forall_append inv.events ⟨by simpa using other, by simp⟩
  | announce f =>
    simp only [step, Option.ite_none_right_eq_some, Option.some.injEq] at taken
    obtain ⟨untagged, rfl⟩ := taken
    refine ⟨inv.distinct, ⟨held, keeps, unheard⟩, inv.asked, inv.events, ?_⟩
    refine Pool.forall_append inv.tagged fun id tag => ?_
    rw [tag] at untagged
    cases untagged
  | arrive i =>
    simp only [step, Option.ite_none_right_eq_some, Option.some.injEq] at taken
    obtain ⟨_, rfl⟩ := taken
    exact ⟨inv.distinct, ⟨held, keeps, unheard⟩, inv.asked, inv.events, fun message member =>
      inv.tagged message (List.mem_of_mem_eraseIdx member)⟩

end Steps

end Circuit

end Correlation
