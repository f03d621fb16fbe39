import VoxRtc.Elixir.Session.Subscribers
import VoxRtc.Elixir.Session.Tenure
import VoxRtc.Transition.Fairness
import VoxRtc.Transition.Pool

/-!
# The Elixir client and its sessions

`VoxRtcServer.Client`: one process that creates sessions and owns them, under a dynamic
supervisor. While the client waits for a session, the sessions go on; any process may be
killed at any time, and the client may end in the middle of what it does. Whatever the
order, no session runs that nobody knows of, and none outlives its client.
-/
namespace VoxRtc.Elixir

open Transition Responses

namespace Vox

structure RtcIceServer where
  urls : List String
  username : String
  credential : String

structure RtcSessionBootstrap where
  sessionId : String
  expiresAt : String
  iceServers : List RtcIceServer
  attachTtlSeconds : Nat

end Vox

structure IceServer where
  urls : List String
  username : Option String
  credential : Option String

structure Bootstrap where
  sessionId : String
  expiresAt : String
  attachTtlSeconds : Nat
  iceServers : List IceServer

def Protocol.bootstrap (value : Vox.RtcSessionBootstrap) : Bootstrap where
  sessionId := value.sessionId
  expiresAt := value.expiresAt
  attachTtlSeconds := value.attachTtlSeconds
  iceServers := value.iceServers.map fun server =>
    ⟨server.urls, Protocol.emptyToNil server.username, Protocol.emptyToNil server.credential⟩

namespace Client

/-- What `create_controlled_session/2` returns; sessions are numbered. -/
inductive Created where
  | ok (bootstrap : Bootstrap) (session : Nat)
  | error (reason : Term)

def Created.session : Created → Option Nat
  | ok _ session => some session
  | error _ => none

/-- What the client is doing. -/
inductive Phase where
  | idle
  /-- `create_session` of the transport, or `start_child/2`, has been called. -/
  | creating
  /-- `await_session/3`, and the number of its call once the session has handled it. -/
  | awaiting (bootstrap : Bootstrap) (session : Nat) (call : Option Nat)
  /-- `terminate_child/2`, and the error that is the reply after it. -/
  | terminating (session : Nat) (reason : Term)
  /-- `close`, and the sessions that are still to be closed. -/
  | closing (left : List Nat)
  | stopped

namespace Phase

/-- The session that is being created. -/
def session : Phase → Option Nat
  | awaiting _ session _ | terminating session _ => some session
  | idle | creating | closing _ | stopped => none

def isStopped : Phase → Bool
  | stopped => true
  | _ => false

end Phase

/-- The client, the session processes it has started, and its monitors of them. -/
structure Service where
  phase : Phase := .idle
  /-- `sessions`: the sessions by their monitors. -/
  sessions : Map Nat Nat := ∅
  references : Nat := 0
  processes : List Session := []
  /-- The monitors whose `:DOWN` the client has not handled. -/
  monitors : List (Nat × Nat) := []
  /-- The replies to the calls that create sessions, in their order. -/
  replies : List Created := []
  /-- `close` has been replied to. -/
  closed : Bool := false
  disconnects : Nat := 0

inductive Act where
  /-- A session handles a message; the `:DOWN` of its owner comes when the client is down. -/
  | process (session : Nat) (message : Message)
  | kill (session : Nat)
  | create
  /-- The transport, or the start of the session, returns an error. -/
  | refused (reason : Term)
  | started (value : Vox.RtcSessionBootstrap) (subscriber : Option Nat)
  /-- The session handles `:await_attached`. -/
  | asked
  | replied
  /-- The session is down before it has replied. -/
  | lost (reason : Term)
  | timeout
  | terminated
  | close
  /-- The next session handles the close, or is down. -/
  | closes
  | closed
  | down (monitor : Nat)
  /-- The client ends in the middle of what it does; `terminate/2` may run or not. -/
  | fails (terminate : Bool)

/-- The `:DOWN` of the owner, whose monitor is the first. -/
def ownerDown : Message → Bool
  | .down monitor => monitor == 0
  | _ => false

/-- No start generates an id in these calls. -/
def generated : GeneratedId := ⟨"generation_1", Responses.GeneratedId.first_proper⟩

/-- The reply that a call has had. -/
def replyTo (process : Session) (call : Nat) : Option Reply :=
  (process.replies.find? (·.1 = call)).map Prod.snd

namespace Service

def running (s : Service) (session : Nat) : Bool := (s.processes[session]?).any (·.running)

def move (s : Service) (lib : Libraries) (session : Nat) (message : Message) : Option Service :=
  (s.processes[session]?).bind fun process => (process.step lib message).map fun next =>
    { s with processes := s.processes.set session next }

def kill (s : Service) (session : Nat) : Option Service :=
  (s.processes[session]?).map fun process =>
    { s with processes := s.processes.set session { process with running := false } }

/-- `{:reply, {:error, reason}, state}`. -/
def fail (s : Service) (reason : Term) : Service :=
  { s with phase := .idle, replies := s.replies ++ [.error reason] }

/-- The session is started, and `await_attached/2` called. -/
def start (s : Service) (value : Vox.RtcSessionBootstrap) (subscriber : Option Nat) : Service :=
  let bootstrap := Protocol.bootstrap value
  { s with
    phase := .awaiting bootstrap s.processes.length none
    processes := s.processes ++ [.initial bootstrap.sessionId subscriber] }

def ask (s : Service) (lib : Libraries) (bootstrap : Bootstrap) (session : Nat) :
    Option Service :=
  (s.processes[session]?).bind fun process =>
    (s.move lib session (.call .awaitAttached true generated)).map fun next =>
      { next with phase := .awaiting bootstrap session (some process.calls) }

/-- The session is monitored, and returned. -/
def register (s : Service) (bootstrap : Bootstrap) (session : Nat) : Service :=
  { s with
    phase := .idle
    sessions := s.sessions.insert s.references session
    monitors := s.monitors ++ [(s.references, session)]
    references := s.references + 1
    replies := s.replies ++ [.ok bootstrap session] }

/-- The client is down; `terminate/2` disconnects the transport. -/
def stop (s : Service) (terminated : Bool) : Service :=
  { s with phase := .stopped, disconnects := s.disconnects + if terminated then 1 else 0 }

/-- `await_session/3` after the reply to its call. -/
def answered (s : Service) (bootstrap : Bootstrap) (session : Nat) : Reply → Service
  | .ok => s.register bootstrap session
  | .error reason => { s with phase := .terminating session reason }
  -- No clause of the `case` matches.
  | .sessionId _ | .ack _ | .rejected _ => s.stop true

/-- `Session.close/2`, whose exit is caught when the session is down. -/
def closeNext (s : Service) (lib : Libraries) (session : Nat) (rest : List Nat) :
    Option Service :=
  let s := { s with phase := .closing rest }
  if s.running session then s.move lib session (.call (.close "client_closed") true generated)
  else some s

def demonitor (s : Service) (monitor : Nat) : Service :=
  { s with
    sessions := s.sessions.erase monitor
    monitors := s.monitors.filter (·.1 ≠ monitor) }

def step (lib : Libraries) (s : Service) (act : Act) : Option Service :=
  match act, s.phase with
  | .process session message, _ =>
    if ownerDown message = true ∧ s.phase.isStopped = false then none
    else s.move lib session message
  | .kill session, _ => s.kill session
  | .create, .idle => some { s with phase := .creating }
  | .refused reason, .creating => some (s.fail reason)
  | .started value subscriber, .creating => some (s.start value subscriber)
  | .asked, .awaiting bootstrap session none => s.ask lib bootstrap session
  | .replied, .awaiting bootstrap session (some call) =>
    (s.processes[session]?).bind fun process =>
      (replyTo process call).map (s.answered bootstrap session)
  | .lost reason, .awaiting _ session call =>
    if s.running session = false ∧ ((s.processes[session]?).bind fun process =>
        call.bind (replyTo process)).isNone then
      some { s with phase := .terminating session (.tuple [.atom "attach_failed", reason]) }
    else none
  | .timeout, .awaiting _ session _ =>
    some { s with phase := .terminating session (.atom "attach_timeout") }
  | .terminated, .terminating session reason =>
    if s.running session then none else some (s.fail reason)
  | .close, .idle => some { s with phase := .closing (s.sessions.entries.map (·.2)) }
  | .closes, .closing (session :: rest) => s.closeNext lib session rest
  | .closed, .closing [] => some { s.stop true with closed := true, sessions := ∅ }
  | .down monitor, .idle =>
    (s.monitors.find? (·.1 = monitor)).bind fun found =>
      if s.running found.2 then none else some (s.demonitor monitor)
  | .fails terminate, _ => if s.phase.isStopped then none else some (s.stop terminate)
  | _, _ => none

end Service

def service (lib : Libraries) : System Service Act := ⟨{}, Service.step lib⟩

/-! ## What a step is -/

section Steps

variable {lib : Libraries} {s t : Service}

/-- What an act makes of the client and its sessions. -/
inductive Moves (lib : Libraries) (s : Service) : Act → Service → Prop
  | process {p : Nat} {a b : Session} {message : Message} (here : s.processes[p]? = some a)
      (taken : a.step lib message = some b)
      (owner : ownerDown message = true → s.phase.isStopped = true) :
      Moves lib s (.process p message) { s with processes := s.processes.set p b }
  | kill {p : Nat} {a : Session} (here : s.processes[p]? = some a) :
      Moves lib s (.kill p) { s with processes := s.processes.set p { a with running := false } }
  | create (idle : s.phase = .idle) : Moves lib s .create { s with phase := .creating }
  | refused (reason : Term) (creating : s.phase = .creating) :
      Moves lib s (.refused reason) (s.fail reason)
  | started (value : Vox.RtcSessionBootstrap) (subscriber : Option Nat)
      (creating : s.phase = .creating) :
      Moves lib s (.started value subscriber) (s.start value subscriber)
  | asked {bootstrap : Bootstrap} {p : Nat} {a b : Session}
      (awaiting : s.phase = .awaiting bootstrap p none) (here : s.processes[p]? = some a)
      (taken : a.step lib (.call .awaitAttached true generated) = some b) :
      Moves lib s .asked { s with
        processes := s.processes.set p b, phase := .awaiting bootstrap p (some a.calls) }
  | replied {bootstrap : Bootstrap} {p call : Nat} {a : Session} {reply : Reply}
      (awaiting : s.phase = .awaiting bootstrap p (some call)) (here : s.processes[p]? = some a)
      (found : replyTo a call = some reply) : Moves lib s .replied (s.answered bootstrap p reply)
  | lost {bootstrap : Bootstrap} {p : Nat} {call : Option Nat} (reason : Term)
      (awaiting : s.phase = .awaiting bootstrap p call) (down : s.running p = false) :
      Moves lib s (.lost reason)
        { s with phase := .terminating p (.tuple [.atom "attach_failed", reason]) }
  | timeout {bootstrap : Bootstrap} {p : Nat} {call : Option Nat}
      (awaiting : s.phase = .awaiting bootstrap p call) :
      Moves lib s .timeout { s with phase := .terminating p (.atom "attach_timeout") }
  | terminated {p : Nat} {reason : Term} (terminating : s.phase = .terminating p reason)
      (down : s.running p = false) : Moves lib s .terminated (s.fail reason)
  | close (idle : s.phase = .idle) :
      Moves lib s .close { s with phase := .closing (s.sessions.entries.map (·.2)) }
  | closes {p : Nat} {rest : List Nat} {a b : Session} (closing : s.phase = .closing (p :: rest))
      (here : s.processes[p]? = some a)
      (taken : a.step lib (.call (.close "client_closed") true generated) = some b) :
      Moves lib s .closes { s with phase := .closing rest, processes := s.processes.set p b }
  | skips {p : Nat} {rest : List Nat} (closing : s.phase = .closing (p :: rest))
      (down : s.running p = false) : Moves lib s .closes { s with phase := .closing rest }
  | closed (closing : s.phase = .closing []) :
      Moves lib s .closed { s.stop true with closed := true, sessions := ∅ }
  | down {monitor p : Nat} (idle : s.phase = .idle) (set : (monitor, p) ∈ s.monitors)
      (down : s.running p = false) : Moves lib s (.down monitor) (s.demonitor monitor)
  | fails (terminate : Bool) (going : s.phase.isStopped = false) :
      Moves lib s (.fails terminate) (s.stop terminate)

theorem moves_of_move {p : Nat} {message : Message} (moved : s.move lib p message = some t) :
    ∃ a b, s.processes[p]? = some a ∧ a.step lib message = some b ∧
      t = { s with processes := s.processes.set p b } := by
  obtain ⟨a, here, rest⟩ := Option.bind_eq_some_iff.mp moved
  obtain ⟨b, taken, rfl⟩ := Option.map_eq_some_iff.mp rest
  exact ⟨a, b, here, taken, rfl⟩

theorem step_moves {act : Act} (taken : s.step lib act = some t) : Moves lib s act t := by
  unfold Service.step at taken
  split at taken
  next p message =>
    obtain ⟨going, moved⟩ := Option.ite_none_left_eq_some.mp taken
    obtain ⟨a, b, here, stepped, rfl⟩ := moves_of_move moved
    exact .process here stepped fun owner => by simpa [owner] using going
  next p =>
    obtain ⟨a, here, rfl⟩ := Option.map_eq_some_iff.mp taken
    exact .kill here
  next idle =>
    cases taken
    exact .create idle
  next reason creating =>
    cases taken
    exact .refused reason creating
  next value subscriber creating =>
    cases taken
    exact .started value subscriber creating
  next bootstrap p awaiting =>
    obtain ⟨a, here, rest⟩ := Option.bind_eq_some_iff.mp taken
    obtain ⟨u, moved, rfl⟩ := Option.map_eq_some_iff.mp rest
    obtain ⟨a', b, here', stepped, rfl⟩ := moves_of_move moved
    cases here.symm.trans here'
    exact .asked awaiting here stepped
  next bootstrap p call awaiting =>
    obtain ⟨a, here, rest⟩ := Option.bind_eq_some_iff.mp taken
    obtain ⟨reply, found, rfl⟩ := Option.map_eq_some_iff.mp rest
    exact .replied awaiting here found
  next reason bootstrap p call awaiting =>
    obtain ⟨⟨down, -⟩, rest⟩ := Option.ite_none_right_eq_some.mp taken
    cases rest
    exact .lost reason awaiting down
  next bootstrap p call awaiting =>
    cases taken
    exact .timeout awaiting
  next p reason terminating =>
    obtain ⟨down, rest⟩ := Option.ite_none_left_eq_some.mp taken
    cases rest
    exact .terminated terminating (Bool.eq_false_iff.mpr down)
  next idle =>
    cases taken
    exact .close idle
  next p rest closing =>
    simp only [Service.closeNext] at taken
    split at taken
    · obtain ⟨a, b, here, stepped, rfl⟩ := moves_of_move taken
      exact .closes closing here stepped
    next down =>
      cases taken
      exact .skips closing (Bool.eq_false_iff.mpr down)
  next closing =>
    cases taken
    exact .closed closing
  next monitor idle =>
    obtain ⟨⟨ref, p⟩, found, rest⟩ := Option.bind_eq_some_iff.mp taken
    obtain ⟨down, rest⟩ := Option.ite_none_left_eq_some.mp rest
    cases rest
    obtain rfl : ref = monitor := by simpa using List.find?_some found
    exact .down idle (List.mem_of_find?_eq_some found) (Bool.eq_false_iff.mpr down)
  next terminate =>
    obtain ⟨going, rest⟩ := Option.ite_none_left_eq_some.mp taken
    cases rest
    exact .fails terminate (Bool.eq_false_iff.mpr going)
  next => cases taken

end Steps

/-! ## Where the sessions are -/

namespace Service

/-- The session is in the map of the client. -/
def Registered (s : Service) (session : Nat) : Prop := ∃ monitor, s.sessions.get monitor = some session

/-- The sessions that have been returned. -/
def returned (s : Service) : List Nat := s.replies.filterMap Created.session

/-- The client accounts for the sessions it has started. -/
structure Accounts (s : Service) : Prop where
  /-- A session that runs is in the map, or is being created. -/
  known : s.phase.isStopped = false → ∀ p a, s.processes[p]? = some a → a.running = true →
    s.Registered p ∨ s.phase.session = some p
  /-- A session that has been returned is the one of its bootstrap, and has been attached. -/
  attached : ∀ bootstrap p, .ok bootstrap p ∈ s.replies → ∃ a, s.processes[p]? = some a ∧
    a.sessionId = bootstrap.sessionId ∧ a.attached = true
  /-- Every caller has a session of its own. -/
  own : s.returned.Nodup
  mapped : ∀ p, s.Registered p → p ∈ s.returned
  /-- The map has those sessions whose `:DOWN` has not been handled, each once. -/
  mirrored : s.phase.isStopped = false →
    ∀ monitor p, s.sessions.get monitor = some p ↔ (monitor, p) ∈ s.monitors
  once : ∀ monitor other p, s.sessions.get monitor = some p → s.sessions.get other = some p →
    monitor = other
  /-- When the client has been closed, every session has ended. -/
  ended : s.closed = true → ∀ a ∈ s.processes, a.ended = true
  disconnected : s.disconnects ≤ 1 ∧ (s.closed = true → s.disconnects = 1)

/-- What holds while the client does what it does. -/
def PhaseSound (s : Service) : Prop :=
  match s.phase with
  | .awaiting bootstrap p call => p ∉ s.returned ∧ ∃ a, s.processes[p]? = some a ∧
      a.sessionId = bootstrap.sessionId ∧ ∀ caller ∈ call, caller ∈ a.attachers
  | .closing left => ∀ p a, s.processes[p]? = some a → a.ended = true ∨ p ∈ left
  | .idle | .creating | .terminating .. | .stopped => True

structure Inv (s : Service) : Prop where
  accounts : s.Accounts
  kept : ∀ a ∈ s.processes, a.Kept
  fresh : ∀ monitor p, s.sessions.get monitor = some p → monitor < s.references
  phase : s.PhaseSound
  going : s.phase.isStopped = false → s.closed = false ∧ s.disconnects = 0

end Service

section Invariant

variable {lib : Libraries} {s t : Service} {p : Nat} {a b : Session}

theorem running_eq (here : s.processes[p]? = some a) : s.running p = a.running := by
  simp [Service.running, here]

theorem mem_returned (s : Service) (p : Nat) :
    p ∈ s.returned ↔ ∃ bootstrap, .ok bootstrap p ∈ s.replies := by
  rw [Service.returned, List.mem_filterMap]
  constructor
  · rintro ⟨created, member, named⟩
    cases created with
    | ok bootstrap session =>
      cases named
      exact ⟨bootstrap, member⟩
    | error reason => cases named
  · rintro ⟨bootstrap, member⟩
    exact ⟨_, member, rfl⟩

/-- One session goes on, and the client does nothing. -/
theorem Service.Inv.moves (inv : s.Inv) (here : s.processes[p]? = some a) (succeeds : a.Succeeds b) :
    Service.Inv { s with processes := s.processes.set p b } := by
  have related {q : Nat} {x : Session} (found : s.processes[q]? = some x) :
      ∃ y, (s.processes.set p b)[q]? = some y ∧ x.Succeeds y :=
    Pool.read_set_related here found succeeds (.refl x)
  have earlier {q : Nat} {y : Session} (found : (s.processes.set p b)[q]? = some y) :
      ∃ x, s.processes[q]? = some x ∧ x.Succeeds y := by
    rcases Pool.read_set found with ⟨rfl, rfl⟩ | ⟨-, old⟩
    · exact ⟨a, here, succeeds⟩
    · exact ⟨y, old, .refl y⟩
  have member {y : Session} (found : y ∈ s.processes.set p b) :
      ∃ x ∈ s.processes, x.Succeeds y := by
    obtain ⟨q, read⟩ := List.mem_iff_getElem?.mp found
    obtain ⟨x, old, onward⟩ := earlier read
    exact ⟨x, Pool.mem_of_read old, onward⟩
  have accounts := inv.accounts
  refine ⟨?_, ?_, inv.fresh, ?_, inv.going⟩
  · refine ⟨?_, ?_, accounts.own, accounts.mapped, accounts.mirrored, accounts.once, ?_,
      accounts.disconnected⟩
    · intro going q y found running
      obtain ⟨x, old, onward⟩ := earlier found
      exact accounts.known going q x old (onward.running running)
    · intro bootstrap q replied
      obtain ⟨x, old, same, attached⟩ := accounts.attached bootstrap q replied
      obtain ⟨y, found, onward⟩ := related old
      exact ⟨y, found, onward.id.trans same, onward.attached attached⟩
    · intro closed y found
      obtain ⟨x, old, onward⟩ := member found
      exact onward.ended (accounts.ended closed x old)
  · intro y found
    obtain ⟨x, old, onward⟩ := member found
    exact onward.kept (inv.kept x old)
  · have sound := inv.phase
    unfold Service.PhaseSound at sound ⊢
    split at sound
    next bootstrap q call awaiting =>
      obtain ⟨apart, x, old, same, waits⟩ := sound
      obtain ⟨y, found, onward⟩ := related old
      rw [awaiting]
      exact ⟨apart, y, found, onward.id.trans same,
        fun caller asked => onward.awaits (waits caller asked)⟩
    next left closing =>
      rw [closing]
      intro q y found
      obtain ⟨x, old, onward⟩ := earlier found
      exact (sound q x old).imp_left onward.ended
    all_goals
      next phase =>
      rw [phase]
      trivial

/-- The client goes on to something else. -/
theorem Service.Inv.turns (inv : s.Inv) (phase : Phase) (going : s.phase.isStopped = false)
    (known : ∀ p a, s.processes[p]? = some a → a.running = true → s.Registered p ∨
      phase.session = some p)
    (sound : Service.PhaseSound { s with phase := phase }) :
    Service.Inv { s with phase := phase } := by
  have accounts := inv.accounts
  refine ⟨?_, inv.kept, inv.fresh, sound, fun _ => inv.going going⟩
  exact ⟨fun _ => known, accounts.attached, accounts.own, accounts.mapped,
    fun _ => accounts.mirrored going, accounts.once, accounts.ended, accounts.disconnected⟩

/-- An error is the reply, where no session is left that the client does not know. -/
theorem Service.Inv.fails (inv : s.Inv) (reason : Term) (going : s.phase.isStopped = false)
    (known : ∀ p a, s.processes[p]? = some a → a.running = true → s.Registered p) :
    (s.fail reason).Inv := by
  have turned := inv.turns .idle going (fun p a here running =>
    .inl (known p a here running)) trivial
  have same : (s.fail reason).returned = s.returned := by
    simp [Service.returned, Service.fail, Created.session]
  have accounts := turned.accounts
  refine ⟨⟨accounts.known, ?_, ?_, ?_, accounts.mirrored, accounts.once, accounts.ended,
    accounts.disconnected⟩, turned.kept, turned.fresh, trivial, turned.going⟩
  · intro bootstrap p replied
    refine accounts.attached bootstrap p ?_
    rcases List.mem_append.mp replied with old | last
    · exact old
    · cases List.mem_singleton.mp last
  · rw [same]
    exact accounts.own
  · rw [same]
    exact accounts.mapped

/-- Nothing runs that is neither in the map nor being created. -/
theorem Service.Inv.registered (inv : s.Inv) (going : s.phase.isStopped = false)
    (none : ∀ p, s.phase.session = some p → s.running p = false) :
    ∀ p a, s.processes[p]? = some a → a.running = true → s.Registered p := by
  intro p a here running
  rcases inv.accounts.known going p a here running with known | current
  · exact known
  · have down := none p current
    rw [running_eq here, running] at down
    cases down

theorem inv_start (inv : s.Inv) (creating : s.phase = .creating) (value : Vox.RtcSessionBootstrap)
    (subscriber : Option Nat) : (s.start value subscriber).Inv := by
  have going : s.phase.isStopped = false := by rw [creating]; rfl
  have registered := inv.registered going (fun p current => by rw [creating] at current; cases current)
  have accounts := inv.accounts
  have fresh : s.processes.length ∉ s.returned := by
    intro member
    obtain ⟨bootstrap, replied⟩ := (mem_returned s _).mp member
    obtain ⟨a, here, -⟩ := accounts.attached bootstrap _ replied
    simp at here
  refine ⟨⟨?_, ?_, accounts.own, accounts.mapped, fun _ => accounts.mirrored going, accounts.once,
    ?_, accounts.disconnected⟩, ?_, inv.fresh, ?_, fun _ => inv.going going⟩
  · intro _ p a here running
    rcases Pool.read_append here with old | ⟨rfl, -⟩
    · exact .inl (registered p a old running)
    · exact .inr rfl
  · intro bootstrap p replied
    obtain ⟨a, here, rest⟩ := accounts.attached bootstrap p replied
    exact ⟨a, Pool.read_append_old here, rest⟩
  · intro closed
    cases (inv.going going).1.symm.trans closed
  · exact Pool.forall_append inv.kept (Session.kept_initial _ _)
  · refine ⟨fresh, .initial value.sessionId subscriber, by simp [Service.start, Protocol.bootstrap], ?_, nofun⟩
    have post := Session.post_initial value.sessionId subscriber
    exact congrArg Prod.fst post

theorem attachers_of_asked (taken : a.step lib (.call .awaitAttached true generated) = some b) :
    a.calls ∈ b.attachers := by
  obtain ⟨_, handled⟩ := Session.step_handled taken
  cases handled with
  | call request sent generated =>
    simp only [Session.handleCall, Session.awaitAttached]
    split
    · exact List.mem_append_right _ (List.mem_singleton_self _)
    · split <;> exact List.mem_append_right _ (List.mem_singleton_self _)

/-- The reply to one who awaits the session says that it is attached only where it is. -/
theorem attached_of_reply {call : Nat} (kept : a.Kept) (awaits : call ∈ a.attachers)
    (found : replyTo a call = some .ok) : a.attached = true := by
  obtain ⟨⟨caller, reply⟩, first, rfl⟩ := Option.map_eq_some_iff.mp found
  have same : caller = call := by simpa using List.find?_some first
  refine kept.honest.attached awaits (List.mem_map.mpr ⟨(caller, .ok), ?_, same⟩)
  exact List.mem_filter.mpr ⟨List.mem_of_find?_eq_some first, rfl⟩

theorem inv_register (inv : s.Inv) {bootstrap : Bootstrap} {call : Option Nat}
    (awaiting : s.phase = .awaiting bootstrap p call) (here : s.processes[p]? = some a)
    (attached : a.attached = true) : (s.register bootstrap p).Inv := by
  have going : s.phase.isStopped = false := by rw [awaiting]; rfl
  have accounts := inv.accounts
  have sound := inv.phase
  rw [Service.PhaseSound, awaiting] at sound
  obtain ⟨apart, x, read, same, -⟩ := sound
  cases here.symm.trans read
  have returned : (s.register bootstrap p).returned = s.returned ++ [p] := by
    simp [Service.returned, Service.register, Created.session]
  have sessions : (s.register bootstrap p).sessions.get =
      Function.update s.sessions.get s.references (some p) := Session.get_insert _ _ _
  -- The new monitor is none of those that are in the map.
  have new : (s.register bootstrap p).sessions.get s.references = some p := by
    rw [sessions, Function.update_self]
  have others {monitor : Nat} (other : monitor ≠ s.references) :
      (s.register bootstrap p).sessions.get monitor = s.sessions.get monitor := by
    rw [sessions, Function.update_of_ne other]
  have held {monitor q : Nat} (found : (s.register bootstrap p).sessions.get monitor = some q) :
      monitor = s.references ∧ q = p ∨ monitor ≠ s.references ∧ s.sessions.get monitor = some q := by
    by_cases last : monitor = s.references
    · rw [last, new] at found
      exact .inl ⟨last, (Option.some.inj found).symm⟩
    · rw [others last] at found
      exact .inr ⟨last, found⟩
  have unregistered {monitor : Nat} (found : s.sessions.get monitor = some p) : False :=
    apart (accounts.mapped p ⟨monitor, found⟩)
  refine ⟨⟨?_, ?_, ?_, ?_, ?_, ?_, ?_, accounts.disconnected⟩, inv.kept, ?_, trivial,
    fun _ => inv.going going⟩
  · intro _ q x read running
    rcases accounts.known going q x read running with ⟨monitor, found⟩ | current
    · refine .inl ⟨monitor, ?_⟩
      rwa [others (Nat.ne_of_lt (inv.fresh monitor q found))]
    · rw [awaiting] at current
      cases current
      exact .inl ⟨s.references, new⟩
  · intro other q replied
    rcases List.mem_append.mp replied with old | last
    · exact accounts.attached other q old
    · cases List.mem_singleton.mp last
      exact ⟨a, here, same, attached⟩
  · rw [returned]
    refine List.nodup_append.mpr ⟨accounts.own, List.nodup_singleton p, fun q member r last is => ?_⟩
    rw [is, List.mem_singleton.mp last] at member
    exact apart member
  · rw [returned]
    rintro q ⟨monitor, found⟩
    rcases held found with ⟨-, rfl⟩ | ⟨-, old⟩
    · exact List.mem_append_right _ (List.mem_singleton_self _)
    · exact List.mem_append_left _ (accounts.mapped q ⟨monitor, old⟩)
  · intro _ monitor q
    have mirrored := accounts.mirrored going monitor q
    constructor
    · intro found
      rcases held found with ⟨rfl, rfl⟩ | ⟨-, old⟩
      · exact List.mem_append_right _ (List.mem_singleton_self _)
      · exact List.mem_append_left _ (mirrored.mp old)
    · intro set
      rcases List.mem_append.mp set with old | last
      · have found := mirrored.mpr old
        rwa [others (Nat.ne_of_lt (inv.fresh monitor q found))]
      · cases List.mem_singleton.mp last
        exact new
  · intro monitor other q found found'
    rcases held found with ⟨rfl, rfl⟩ | ⟨-, old⟩
    · rcases held found' with ⟨rfl, -⟩ | ⟨-, old'⟩
      · rfl
      · exact absurd old' unregistered
    · rcases held found' with ⟨rfl, rfl⟩ | ⟨-, old'⟩
      · exact absurd old unregistered
      · exact accounts.once monitor other q old old'
  · intro closed
    cases (inv.going going).1.symm.trans closed
  · intro monitor q found
    rcases held found with ⟨rfl, -⟩ | ⟨-, old⟩
    · exact Nat.lt_succ_self _
    · exact Nat.lt_succ_of_lt (inv.fresh monitor q old)

/-- The client is down, closed or not. -/
theorem inv_stop (inv : s.Inv) (going : s.phase.isStopped = false) (terminate : Bool) :
    (s.stop terminate).Inv := by
  have accounts := inv.accounts
  obtain ⟨opened, never⟩ := inv.going going
  refine ⟨⟨nofun, accounts.attached, accounts.own, accounts.mapped, nofun, accounts.once,
    accounts.ended, ?_, ?_⟩, inv.kept, inv.fresh, trivial, nofun⟩
  · simp only [Service.stop, never]
    split <;> omega
  · intro closed
    cases opened.symm.trans closed

theorem inv_closed (inv : s.Inv) (closing : s.phase = .closing []) :
    Service.Inv { s.stop true with closed := true, sessions := ∅ } := by
  have accounts := inv.accounts
  have sound := inv.phase
  rw [Service.PhaseSound, closing] at sound
  have going : s.phase.isStopped = false := by rw [closing]; rfl
  have empty (monitor : Nat) : Map.get (∅ : Map Nat Nat) monitor = none := AList.lookup_empty monitor
  refine ⟨⟨nofun, accounts.attached, accounts.own, ?_, nofun, ?_, ?_, ?_⟩, inv.kept, ?_, trivial,
    nofun⟩
  · rintro p ⟨monitor, found⟩
    cases (empty monitor).symm.trans found
  · intro monitor _ p found
    cases (empty monitor).symm.trans found
  · intro _ a member
    obtain ⟨p, here⟩ := List.mem_iff_getElem?.mp member
    rcases sound p a here with ended | left
    · exact ended
    · cases left
  · simp [Service.stop, (inv.going going).2]
  · intro monitor p found
    cases (empty monitor).symm.trans found

theorem inv_down (inv : s.Inv) (idle : s.phase = .idle) {monitor : Nat}
    (set : (monitor, p) ∈ s.monitors) (down : s.running p = false) : (s.demonitor monitor).Inv := by
  have accounts := inv.accounts
  have going : s.phase.isStopped = false := by rw [idle]; rfl
  have sessions : (s.demonitor monitor).sessions.get =
      Function.update s.sessions.get monitor none := Session.get_erase _ _
  have gone : s.sessions.get monitor = some p := (accounts.mirrored going monitor p).mpr set
  have held {other q : Nat} (found : (s.demonitor monitor).sessions.get other = some q) :
      other ≠ monitor ∧ s.sessions.get other = some q := by
    by_cases same : other = monitor
    · rw [same, sessions, Function.update_self] at found
      cases found
    · rw [sessions, Function.update_of_ne same] at found
      exact ⟨same, found⟩
  have kept {other q : Nat} (found : s.sessions.get other = some q) (different : other ≠ monitor) :
      (s.demonitor monitor).sessions.get other = some q := by
    rwa [sessions, Function.update_of_ne different]
  refine ⟨⟨?_, accounts.attached, accounts.own, ?_, ?_, ?_, accounts.ended,
    accounts.disconnected⟩, inv.kept, ?_, ?_, fun _ => inv.going going⟩
  · intro _ q x here running
    rcases accounts.known going q x here running with ⟨other, found⟩ | current
    · refine .inl ⟨other, kept found ?_⟩
      -- The session whose monitor this is does not run.
      rintro rfl
      cases gone.symm.trans found
      rw [running_eq (s := s) here, running] at down
      cases down
    · rw [idle] at current
      cases current
  · rintro q ⟨other, found⟩
    exact accounts.mapped q ⟨other, (held found).2⟩
  · intro _ other q
    have mirrored := accounts.mirrored going other q
    constructor
    · intro found
      obtain ⟨different, old⟩ := held found
      exact List.mem_filter.mpr ⟨mirrored.mp old, by simpa using different⟩
    · intro member
      obtain ⟨old, different⟩ := List.mem_filter.mp member
      exact kept (mirrored.mpr old) (by simpa using different)
  · intro one other q found found'
    exact accounts.once one other q (held found).2 (held found').2
  · intro other q found
    exact inv.fresh other q (held found).2
  · rw [Service.PhaseSound, show (s.demonitor monitor).phase = .idle from idle]
    trivial

/-- The session is being created, whatever becomes of the wait for it. -/
theorem Service.Inv.terminates (inv : s.Inv) {bootstrap : Bootstrap} {call : Option Nat}
    (awaiting : s.phase = .awaiting bootstrap p call) (reason : Term) :
    Service.Inv { s with phase := .terminating p reason } := by
  have going : s.phase.isStopped = false := by rw [awaiting]; rfl
  refine inv.turns _ going (fun q x here running => ?_) trivial
  have known := inv.accounts.known going q x here running
  rwa [awaiting] at known

theorem inv_replied (inv : s.Inv) {bootstrap : Bootstrap} {call : Nat} {reply : Reply}
    (awaiting : s.phase = .awaiting bootstrap p (some call)) (here : s.processes[p]? = some a)
    (found : replyTo a call = some reply) : (s.answered bootstrap p reply).Inv := by
  have going : s.phase.isStopped = false := by rw [awaiting]; rfl
  have sound := inv.phase
  rw [Service.PhaseSound, awaiting] at sound
  obtain ⟨-, x, read, -, waits⟩ := sound
  cases here.symm.trans read
  cases reply with
  | ok =>
    have kept := inv.kept a (Pool.mem_of_read here)
    exact inv_register inv awaiting here (attached_of_reply kept (waits call rfl) found)
  | error reason => exact inv.terminates awaiting reason
  | sessionId | ack | rejected => exact inv_stop inv going true

theorem inv_closes (inv : s.Inv) {rest : List Nat} (closing : s.phase = .closing (p :: rest))
    (gone : ∀ a, s.processes[p]? = some a → a.ended = true) :
    Service.Inv { s with phase := .closing rest } := by
  have going : s.phase.isStopped = false := by rw [closing]; rfl
  have sound := inv.phase
  rw [Service.PhaseSound, closing] at sound
  refine inv.turns _ going (fun q x here running => ?_) fun q x here => ?_
  · have known := inv.accounts.known going q x here running
    rwa [closing] at known
  · rcases sound q x here with ended | left
    · exact .inl ended
    · rcases List.mem_cons.mp left with rfl | later
      · exact .inl (gone x here)
      · exact .inr later

theorem inv_step {act : Act} (inv : s.Inv) (taken : s.step lib act = some t) : t.Inv := by
  cases step_moves taken with
  | process here stepped _ => exact inv.moves here (Session.succeeds_step stepped)
  | kill here => exact inv.moves here Session.succeeds_kill
  | create idle =>
    have going : s.phase.isStopped = false := by rw [idle]; rfl
    have registered := inv.registered going fun p current => by rw [idle] at current; cases current
    exact inv.turns _ going (fun p a here running => .inl (registered p a here running)) trivial
  | refused reason creating =>
    have going : s.phase.isStopped = false := by rw [creating]; rfl
    have registered := inv.registered going fun p current => by
      rw [creating] at current
      cases current
    exact inv.fails reason going registered
  | started value subscriber creating => exact inv_start inv creating value subscriber
  | @asked bootstrap p a b awaiting here stepped =>
    have moved := inv.moves here (Session.succeeds_step stepped)
    have going : s.phase.isStopped = false := by rw [awaiting]; rfl
    have sound := moved.phase
    rw [Service.PhaseSound, show Service.phase { s with .. } = _ from awaiting] at sound
    obtain ⟨apart, x, read, same, -⟩ := sound
    cases (Pool.read_set_self here).symm.trans read
    -- The caller is among those who await the session, now that its call has been handled.
    refine moved.turns _ going (fun q y found running => ?_) ⟨apart, b, read, same, ?_⟩
    · have known := moved.accounts.known going q y found running
      rwa [show Service.phase { s with .. } = _ from awaiting] at known
    · intro caller asked
      cases asked
      exact attachers_of_asked stepped
  | replied awaiting here found => exact inv_replied inv awaiting here found
  | lost reason awaiting _ => exact inv.terminates awaiting _
  | timeout awaiting => exact inv.terminates awaiting _
  | @terminated p reason terminating down =>
    have going : s.phase.isStopped = false := by rw [terminating]; rfl
    have registered := inv.registered going fun q current => by
      rw [terminating] at current
      cases current
      exact down
    exact inv.fails reason going registered
  | close idle =>
    have going : s.phase.isStopped = false := by rw [idle]; rfl
    have registered := inv.registered going fun p current => by rw [idle] at current; cases current
    refine inv.turns _ going (fun p a here running => .inl (registered p a here running)) ?_
    -- Whoever runs is in the map, and will be closed.
    intro p a here
    cases running : a.running with
    | false => exact .inl (by simp [Session.ended, running])
    | true =>
      obtain ⟨monitor, found⟩ := registered p a here running
      exact .inr (List.mem_map.mpr ⟨⟨monitor, p⟩, AList.mem_lookup_iff.mp found, rfl⟩)
  | @closes p rest a b closing here stepped =>
    have moved := inv.moves here (Session.succeeds_step stepped)
    refine inv_closes moved closing fun x read => ?_
    cases (Pool.read_set_self here).symm.trans read
    exact Session.close_ended (inv.kept a (Pool.mem_of_read here)).marked stepped
  | skips closing down =>
    refine inv_closes inv closing fun x read => ?_
    rw [running_eq read] at down
    simp [Session.ended, down]
  | closed closing => exact inv_closed inv closing
  | down idle set down => exact inv_down inv idle set down
  | fails terminate going => exact inv_stop inv going terminate

theorem inv_init : Service.Inv {} := by
  have empty (monitor : Nat) : Map.get (∅ : Map Nat Nat) monitor = none := AList.lookup_empty monitor
  constructor
  · constructor
    · intro _ p a here
      cases here
    · intro bootstrap p replied
      cases replied
    · exact List.nodup_nil
    · rintro p ⟨monitor, found⟩
      cases (empty monitor).symm.trans found
    · intro _ monitor p
      constructor
      · intro found
        cases (empty monitor).symm.trans found
      · intro set
        cases set
    · intro monitor _ p found
      cases (empty monitor).symm.trans found
    · intro closed
      cases closed
    · exact ⟨Nat.zero_le 1, nofun⟩
  · intro a member
    cases member
  · intro monitor p found
    cases (empty monitor).symm.trans found
  · trivial
  · exact fun _ => ⟨rfl, rfl⟩

theorem reachable_inv (reached : (service lib).Reaches always s) : s.Inv :=
  System.Reaches.preserves inv_init (fun _ _ _ inv _ taken => inv_step inv taken) reached

/-- Whatever the order of things, the client accounts for its sessions. -/
theorem client_accounts (reached : (service lib).Reaches always s) : s.Accounts :=
  (reachable_inv reached).accounts

/-- A session is created, attached and returned, and then the client is closed. -/
theorem client_accounts_run :
    ∃ s, (service .small).Reaches always s ∧ s.closed = true ∧ s.returned = [0] ∧ s.Accounts := by
  have reached := System.reaches_of_run (M := service .small)
    [.create, .started ⟨"s", "2026-07-16T22:00:00Z", [], 30⟩ (some 7), .asked,
      .process 0 Session.serverAttached, .replied, .close, .closes, .closed] rfl
  exact ⟨_, reached, rfl, rfl, client_accounts reached⟩

end Invariant

/-! ## How it ends -/

section Endings

variable {lib : Libraries} {s t : Service} {p : Nat}

/-- What brings a create to its end: the wait times out, the supervisor ends the session, and
the client learns that it is down. -/
def Settles (p : Nat) (act : Act) : Prop :=
  act = .timeout ∨ act = .process p .exit ∨ act = .terminated

/-- The steps that are left until the create is answered. -/
def Service.left (s : Service) (p : Nat) : Nat :=
  (match s.phase with
    | .awaiting .. => 2
    | _ => 0) + if s.running p then 1 else 0

theorem running_iff : s.running p = true ↔ ∃ a, s.processes[p]? = some a ∧ a.running = true := by
  simp [Service.running, Option.any_eq_true]

theorem running_set {q : Nat} {a b : Session} (here : s.processes[q]? = some a)
    (running : b.running = true → a.running = true) :
    Service.running { s with processes := s.processes.set q b } p = true → s.running p = true := by
  intro still
  obtain ⟨y, found, runs⟩ := running_iff.mp still
  rcases Pool.read_set found with ⟨rfl, rfl⟩ | ⟨-, old⟩
  · exact (running_eq here).trans (running runs)
  · exact (running_eq old).trans runs

theorem left_set {q : Nat} {a b : Session} (here : s.processes[q]? = some a)
    (running : b.running = true → a.running = true) :
    Service.left { s with processes := s.processes.set q b } p ≤ s.left p := by
  have down := running_set (p := p) here running
  simp only [Service.left]
  grind

theorem exit_stops {a b : Session} (taken : a.step lib .exit = some b) :
    a.running = true ∧ b.running = false := by
  obtain ⟨running, handled⟩ := Session.step_handled taken
  cases handled with
  | exit => exact ⟨running, rfl⟩

/-- The process of the supervisor's exit stops. -/
theorem left_exit {a b : Session} (here : s.processes[p]? = some a)
    (taken : a.step lib .exit = some b) :
    Service.left { s with processes := s.processes.set p b } p < s.left p := by
  obtain ⟨running, stopped⟩ := exit_stops taken
  have before : s.running p = true := (running_eq here).trans running
  have after : Service.running { s with processes := s.processes.set p b } p = false :=
    (running_eq (Pool.read_set_self here)).trans stopped
  simp only [Service.left, before, after]
  simp

/-- What an act leaves to do while a session is being created. -/
inductive Remains (s t : Service) (p : Nat) (act : Act) : Prop
  /-- The client is down, or the create has been answered. -/
  | ended (settled : t.phase.isStopped = true ∨ s.replies.length < t.replies.length)
  | on (current : t.phase.session = some p) (replies : t.replies = s.replies)
      (left : t.left p ≤ s.left p) (less : Settles p act → t.left p < s.left p)

theorem remains_terminating {reason : Term} {act : Act} {bootstrap : Bootstrap} {call : Option Nat}
    (awaiting : s.phase = .awaiting bootstrap p call) :
    Remains s { s with phase := .terminating p reason } p act := by
  have less : Service.left { s with phase := .terminating p reason } p < s.left p := by
    have same : Service.running { s with phase := .terminating p reason } p = s.running p := rfl
    simp only [Service.left, awaiting, same]
    omega
  exact .on rfl rfl (Nat.le_of_lt less) fun _ => less

theorem creating_step {act : Act} (current : s.phase.session = some p)
    (taken : s.step lib act = some t) : Remains s t p act := by
  -- Of the phases of the client only two have a session that is being created.
  have other {phase : Phase} (now : s.phase = phase) (none : phase.session = none) : False := by
    rw [now, none] at current
    cases current
  cases step_moves taken with
  | @process q a b message here stepped owner =>
    refine .on current rfl (left_set here fun _ => (Session.step_handled stepped).1) ?_
    rintro (timeout | exit | terminated)
    · cases timeout
    · cases exit
      exact left_exit here stepped
    · cases terminated
  | kill here =>
    refine .on current rfl (left_set here fun running => absurd running Bool.false_ne_true) ?_
    rintro (timeout | exit | terminated) <;> contradiction
  | create idle | close idle | down idle _ _ => exact (other idle rfl).elim
  | refused _ creating | started _ _ creating => exact (other creating rfl).elim
  | @asked bootstrap q a b awaiting here stepped =>
    rw [awaiting] at current
    cases current
    have fewer := left_set (p := p) (b := b) here fun _ => (Session.step_handled stepped).1
    simp only [Service.left, awaiting] at fewer
    refine .on rfl rfl ?_ ?_
    · simp only [Service.left, awaiting]
      exact fewer
    · rintro (timeout | exit | terminated) <;> contradiction
  | @replied bootstrap q call a reply awaiting here found =>
    rw [awaiting] at current
    cases current
    cases reply with
    | ok => exact .ended (.inr (by simp [Service.answered, Service.register]))
    | error reason => exact remains_terminating awaiting
    | sessionId | ack | rejected => exact .ended (.inl rfl)
  | lost reason awaiting _ =>
    rw [awaiting] at current
    cases current
    exact remains_terminating awaiting
  | timeout awaiting =>
    rw [awaiting] at current
    cases current
    exact remains_terminating awaiting
  | terminated => exact .ended (.inr (by simp [Service.fail]))
  | closes closing | skips closing | closed closing => exact (other closing rfl).elim
  | fails => exact .ended (.inl rfl)

/-- As long as it is not over, something can bring the create to its end. -/
theorem settles_enabled (current : s.phase.session = some p) :
    (service lib).Enabled (Settles p) s := by
  cases phase : s.phase with
  | awaiting bootstrap q call =>
    rw [phase] at current
    cases current
    exact ⟨.timeout, .inl rfl, by simp [service, Service.step, phase]⟩
  | terminating q reason =>
    rw [phase] at current
    cases current
    cases running : s.running p with
    | true =>
      obtain ⟨a, here, runs⟩ := running_iff.mp running
      refine ⟨.process p .exit, .inr (.inl rfl), ?_⟩
      simp [service, Service.step, Service.move, ownerDown, here, Session.step, runs,
        Session.handle]
    | false => exact ⟨.terminated, .inr (.inr rfl), by simp [service, Service.step, phase, running]⟩
  | idle | creating | closing | stopped =>
    rw [phase] at current
    cases current

/-- Every create whose session has been started is answered, and no session outlives its
client, if the timeout, the supervisor and the monitors do their part. -/
structure Ends (lib : Libraries) : Prop where
  answers : ∀ (e : (service lib).Execution always) (n p : Nat), e.WeaklyFair (Settles p) →
    (e.state n).phase.session = some p → ∃ m, n ≤ m ∧
      ((e.state m).phase.isStopped = true ∨ (e.state n).replies.length < (e.state m).replies.length)
  outlives : ∀ (e : (service lib).Execution always) (n p : Nat),
    e.WeaklyFair (· = .process p (.down 0)) → (e.state n).phase.isStopped = true →
      ∃ m, n ≤ m ∧ (e.state m).running p = false

theorem stopped_step {act : Act} (stopped : s.phase.isStopped = true)
    (taken : s.step lib act = some t) :
    t.phase.isStopped = true ∧ (t.running p = true → s.running p = true) := by
  have other {phase : Phase} (now : s.phase = phase) (going : phase.isStopped = false) : False := by
    rw [now, going] at stopped
    cases stopped
  cases step_moves taken with
  | process here stepped _ =>
    exact ⟨stopped, running_set here fun _ => (Session.step_handled stepped).1⟩
  | kill here =>
    exact ⟨stopped, running_set here fun running => absurd running Bool.false_ne_true⟩
  | create phase | close phase | down phase _ _ | refused _ phase | started _ _ phase
  | closes phase | skips phase | closed phase | asked phase | replied phase | lost _ phase
  | timeout phase | terminated phase => exact (other phase rfl).elim
  | fails _ going => cases going.symm.trans stopped

theorem client_ends (lib : Libraries) : Ends lib where
  answers e n p fair current := by
    refine e.eventually_of_rank
      (P := fun s => s.phase.session = some p ∧ s.replies = (e.state n).replies)
      (Q := fun s => s.phase.isStopped = true ∨ (e.state n).replies.length < s.replies.length)
      (Service.left · p) fair ?_ ?_ ?_ n ⟨current, rfl⟩
    · exact fun s _ holds => settles_enabled holds.1
    · intro s act t _ holds _ taken
      rcases creating_step holds.1 taken with ended | ⟨current, replies, left, _⟩
      · rw [holds.2] at ended
        exact .inl ended
      · exact .inr ⟨⟨current, replies.trans holds.2⟩, left⟩
    · intro s act t _ holds settles _ taken
      rcases creating_step holds.1 taken with ended | ⟨current, replies, _, less⟩
      · rw [holds.2] at ended
        exact .inl ended
      · exact .inr ⟨⟨current, replies.trans holds.2⟩, less settles⟩
  outlives e n p fair stopped := by
    cases running : (e.state n).running p with
    | false => exact ⟨n, Nat.le_refl n, running⟩
    | true =>
      refine e.eventually_of_rank
        (P := fun s => s.phase.isStopped = true ∧ s.running p = true)
        (Q := fun s => s.running p = false) (fun _ => 0) fair ?_ ?_ ?_ n ⟨stopped, running⟩
      · rintro s reached ⟨stopped, running⟩
        obtain ⟨a, here, runs⟩ := running_iff.mp running
        have kept := (reachable_inv reached).kept a (Pool.mem_of_read here)
        obtain ⟨b, taken, -⟩ : ∃ b, a.step lib (.down 0) = some b ∧ b.running = false :=
          Session.owner_down kept runs
        refine ⟨_, rfl, ?_⟩
        simp [service, Service.step, Service.move, ownerDown, stopped, here, taken]
      · intro s act t _ holds _ taken
        obtain ⟨still, _⟩ := stopped_step (p := p) holds.1 taken
        cases runs : t.running p with
        | false => exact .inl rfl
        | true => exact .inr ⟨⟨still, rfl⟩, Nat.le_refl 0⟩
      · rintro s act t reached holds rfl _ taken
        -- The session handles the `:DOWN` of its owner, and stops.
        have handled : s.step lib (.process p (.down 0)) = some t := taken
        cases step_moves handled with
        | @process _ a b _ here stepped _ =>
          have kept := (reachable_inv reached).kept a (Pool.mem_of_read here)
          have runs := (Session.step_handled stepped).1
          obtain ⟨c, stops, down⟩ : ∃ c, a.step lib (.down 0) = some c ∧ c.running = false :=
            Session.owner_down kept runs
          cases stepped.symm.trans stops
          exact .inl ((running_eq (Pool.read_set_self here)).trans down)

/-- A session is started and never attached. -/
def timedOut : List Act :=
  [.create, .started ⟨"s", "2026-07-16T22:00:00Z", [], 30⟩ (some 7), .timeout, .process 0 .exit,
    .terminated]

/-- The client ends while it waits for its session. -/
def orphaned : List Act :=
  [.create, .started ⟨"s", "2026-07-16T22:00:00Z", [], 30⟩ (some 7), .fails false,
    .process 0 (.down 0)]

theorem client_ends_run :
    (∃ e : (service .small).Execution always, (e.state 2).phase.session = some 0 ∧
      (e.state 2).replies = [] ∧ ∃ m, 2 ≤ m ∧
        ((e.state m).phase.isStopped = true ∨ 0 < (e.state m).replies.length)) ∧
    ∃ e : (service .small).Execution always, (e.state 3).running 0 = true ∧
      ∃ m, 3 ≤ m ∧ (e.state m).running 0 = false := by
  constructor
  · have ran : (service .small).run (service .small).init timedOut = some _ := rfl
    refine ⟨.ofRun timedOut (System.meets_always _) ran, rfl, rfl, ?_⟩
    refine (client_ends .small).answers _ 2 0 (System.Execution.ofRun_fair _ _ ran ?_) rfl
    -- The reply has been sent, and the session is down.
    rintro ⟨act, rfl | rfl | rfl, enabled⟩ <;> cases enabled
  · have ran : (service .small).run (service .small).init orphaned = some _ := rfl
    refine ⟨.ofRun orphaned (System.meets_always _) ran, rfl, ?_⟩
    refine (client_ends .small).outlives _ 3 0 (System.Execution.ofRun_fair _ _ ran ?_) rfl
    rintro ⟨act, rfl, enabled⟩
    cases enabled

end Endings

end Client

end VoxRtc.Elixir
