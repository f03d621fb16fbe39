import VoxRtc.Clients.Sockets
import VoxRtc.Transition.Pool

/-!
# The Go client

`Connect`, `Disconnect`, `OnConnectionChange` and `AttachSession` of `go/rtcserver/client.go`,
as far as they concern the socket. `Connect` calls the socket without the client's mutex;
`Disconnect` holds the mutex from its call of the socket to the end.
-/
namespace VoxRtc.Go.Server

open Clients Correlation Transition

/-- How far a goroutine is with `Connect`. -/
inductive Progress where
  /-- `ensureSocket` has returned. -/
  | ensured
  /-- `GetState` has returned false, and the handler is subscribed. -/
  | calling
  | waiting
  | returned (ok : Bool)
  /-- `AttachSession` has gone on. -/
  | resumed
  deriving DecidableEq, Repr

/-- A call of `Connect`, which `AttachSession` may have made. -/
structure ConnectCall where
  socket : Nat
  attaching : Bool
  progress : Progress
  deriving DecidableEq, Repr

structure Client where
  sockets : Sockets := {}
  calls : List ConnectCall := []
  /-- A `Disconnect` holds the mutex, and has called the socket. -/
  disconnecting : Bool := false

/-- A factory that fails makes no socket. -/
inductive ClientStep where
  | connect (attaching factoryFails : Bool)
  | checks (k : Nat)
  | calls (k : Nat) (ok : Bool)
  | settles (k : Nat) (ok : Bool)
  | resumes (k : Nat) (factoryFails : Bool)
  /-- `OnConnectionChange` -/
  | listen (factoryFails : Bool)
  | disconnect
  | releases
  | reports (socket : Nat) (state : ConnectionState)
  deriving DecidableEq, Repr

namespace Client

/-- `ensureSocket`, unless the mutex is held. -/
def ensureSocket (c : Client) (factoryFails : Bool) : Option (Sockets × Option Nat) :=
  if c.disconnecting then none
  else match c.sockets.held with
    | some socket => some (c.sockets, some socket)
    | none =>
      if factoryFails then some (c.sockets, none)
      else
        let (sockets, socket) := c.sockets.ensure {}
        some (sockets, some socket)

/-- A goroutine moves on. -/
def advance (c : Client) (k : Nat) (call : ConnectCall) (progress : Progress) : Client :=
  { c with calls := c.calls.set k { call with progress := progress } }

def step (c : Client) : ClientStep → Option Client
  | .connect attaching factoryFails => do
    let (sockets, socket) ← c.ensureSocket factoryFails
    let begun := socket.toList.map fun socket => ⟨socket, attaching, .ensured⟩
    some { c with sockets, calls := c.calls ++ begun }
  | .checks k => do
    let call ← c.calls[k]?
    if call.progress = .ensured then
      some (c.advance k call
        (if c.sockets.made[call.socket]?.map (·.state) = some .connected then .returned true
        else .calling))
    else none
  | .calls k ok => do
    let call ← c.calls[k]?
    if call.progress = .calling then
      let c := { c with sockets := c.sockets.change call.socket Socket.connect }
      some (c.advance k call (if ok then .waiting else .returned false))
    else none
  | .settles k ok => do
    let call ← c.calls[k]?
    if call.progress = .waiting then some (c.advance k call (.returned ok)) else none
  | .resumes k factoryFails => do
    let call ← c.calls[k]?
    if call.attaching ∧ call.progress = .returned true then
      let (sockets, _) ← c.ensureSocket factoryFails
      some ({ c with sockets }.advance k call .resumed)
    else none
  | .listen factoryFails => do
    let (sockets, _) ← c.ensureSocket factoryFails
    some { c with sockets }
  | .disconnect =>
    if c.disconnecting then none
    else match c.sockets.held with
      | some socket => some { c with
          sockets := c.sockets.change socket Socket.disconnect
          disconnecting := true }
      | none => some c
  | .releases =>
    if c.disconnecting then some { c with sockets := c.sockets.release, disconnecting := false }
    else none
  | .reports socket state => some { c with
      sockets := c.sockets.change socket (Socket.reports state) }

/-- A goroutine asks the socket that the client holds, and `Disconnect` lets go of a socket
that it has just asked to disconnect. -/
def Proper (c : Client) : ClientStep → Prop
  | .calls k _ => ∀ call, c.calls[k]? = some call → c.sockets.held = some call.socket
  | .releases => Holder.Idle Socket.Asked c.sockets
  | _ => True

/-- Sockets are known by numbers that have been given out. -/
structure Sound (c : Client) : Prop where
  held : c.sockets.Within
  calls : ∀ call ∈ c.calls, call.socket < c.sockets.made.length

end Client

def client : System Client ClientStep := ⟨{}, Client.step⟩

variable {c next : Client}

/-- What `ensureSocket` does, and which socket it returns. -/
theorem ensureSocket_moves {factoryFails : Bool} {sockets : Sockets} {socket : Option Nat}
    (within : c.sockets.Within)
    (ensured : c.ensureSocket factoryFails = some (sockets, socket)) :
    Sockets.Moves True c.sockets sockets ∧ c.sockets.made.length ≤ sockets.made.length ∧
      ∀ i ∈ socket, i < sockets.made.length := by
  simp only [Client.ensureSocket] at ensured
  split at ensured
  · cases ensured
  · split at ensured
    next i held =>
      cases ensured
      refine ⟨Sockets.moves_none, Nat.le_refl _, fun j same => ?_⟩
      cases same
      exact within i held
    · split at ensured
      · cases ensured
        refine ⟨Sockets.moves_none, Nat.le_refl _, fun j same => ?_⟩
        cases same
      · cases ensured
        refine ⟨Sockets.moves_one (m := .ensure) rfl, Holder.ensure_length, fun j same => ?_⟩
        cases same
        exact Holder.ensure_within within _ Holder.ensure_held

/-- What a step does with the sockets is proper exactly if the step is. -/
structure Kept (c next : Client) (proper : Prop) : Prop where
  moves : Sockets.Moves proper c.sockets next.sockets
  calls : ∀ call ∈ next.calls, call.socket < next.sockets.made.length

theorem kept_advance (sound : c.Sound) {k : Nat} {call : ConnectCall} (progress : Progress)
    (here : c.calls[k]? = some call) : Kept c (c.advance k call progress) True where
  moves := Sockets.moves_none
  calls := Pool.forall_set sound.calls (sound.calls call (Pool.mem_of_read here))

theorem step_kept {l : ClientStep} (sound : c.Sound) (taken : c.step l = some next) :
    Kept c next (c.Proper l) := by
  cases l with
  | connect attaching factoryFails =>
    obtain ⟨⟨sockets, socket⟩, ensured, taken⟩ := Option.bind_eq_some_iff.mp taken
    cases taken
    obtain ⟨moves, more, made⟩ := ensureSocket_moves sound.held ensured
    refine ⟨moves, fun call member => ?_⟩
    rcases List.mem_append.mp member with old | new
    · exact Nat.lt_of_lt_of_le (sound.calls call old) more
    · obtain ⟨i, given, rfl⟩ := List.mem_map.mp new
      exact made i (Option.mem_toList.mp given)
  | checks k =>
    obtain ⟨call, here, taken⟩ := Option.bind_eq_some_iff.mp taken
    obtain ⟨_, same⟩ := Option.ite_none_right_eq_some.mp taken
    cases same
    exact kept_advance sound _ here
  | calls k ok =>
    obtain ⟨call, here, taken⟩ := Option.bind_eq_some_iff.mp taken
    obtain ⟨_, same⟩ := Option.ite_none_right_eq_some.mp taken
    cases same
    have made := sound.calls call (Pool.mem_of_read here)
    have asked := Sockets.moves_one (s := c.sockets) (m := .connect call.socket) (if_pos made)
    constructor
    · apply asked.cast
      simp [Sockets.Proper, Client.Proper, here]
    · rw [Client.advance, Holder.change_length]
      exact Pool.forall_set sound.calls made
  | settles k ok =>
    obtain ⟨call, here, taken⟩ := Option.bind_eq_some_iff.mp taken
    obtain ⟨_, same⟩ := Option.ite_none_right_eq_some.mp taken
    cases same
    exact kept_advance sound _ here
  | resumes k factoryFails =>
    obtain ⟨call, here, taken⟩ := Option.bind_eq_some_iff.mp taken
    obtain ⟨_, taken⟩ := Option.ite_none_right_eq_some.mp taken
    obtain ⟨⟨sockets, socket⟩, ensured, same⟩ := Option.bind_eq_some_iff.mp taken
    cases same
    obtain ⟨moves, more, _⟩ := ensureSocket_moves sound.held ensured
    refine ⟨moves, ?_⟩
    have before : ∀ call ∈ c.calls, call.socket < sockets.made.length :=
      fun call old => Nat.lt_of_lt_of_le (sound.calls call old) more
    exact Pool.forall_set before (before call (Pool.mem_of_read here))
  | listen factoryFails =>
    obtain ⟨⟨sockets, socket⟩, ensured, taken⟩ := Option.bind_eq_some_iff.mp taken
    cases taken
    obtain ⟨moves, more, _⟩ := ensureSocket_moves sound.held ensured
    exact ⟨moves, fun call old => Nat.lt_of_lt_of_le (sound.calls call old) more⟩
  | disconnect =>
    obtain ⟨_, taken⟩ := Option.ite_none_left_eq_some.mp taken
    split at taken
    next i held =>
      cases taken
      constructor
      · exact Sockets.moves_one (m := .disconnect) (by rw [Sockets.move, held]; rfl)
      · rw [Holder.change_length]
        exact sound.calls
    · cases taken
      exact ⟨Sockets.moves_none, sound.calls⟩
  | releases =>
    obtain ⟨_, same⟩ := Option.ite_none_right_eq_some.mp taken
    cases same
    exact ⟨Sockets.moves_one (m := .release) rfl, sound.calls⟩
  | reports socket state =>
    cases taken
    constructor
    · exact Sockets.moves_one (m := .reports socket state) rfl
    · rw [Holder.change_length]
      exact sound.calls

end VoxRtc.Go.Server
