import VoxRtc.Clients.Sockets
import VoxRtc.Transition.Pool

/-!
# The TypeScript client

`connect`, `disconnect`, `onConnectionChange` and `attachSession` of
`typescript/vox-rtc-server/src/client.ts`, as far as they concern the socket. What runs
between two `await`s is one step, except that listeners run inside `socket.disconnect()`, and
may call the client before `#socket = null`. The socket factory does not call the client.
-/
namespace VoxRtc.TypeScript.Client

open Clients Correlation Transition

inductive Progress where
  | waiting
  | resolved
  | rejected
  /-- `attachSession` has gone on. -/
  | resumed
  deriving DecidableEq, Repr

/-- A call of `connect`, which `attachSession` may have made. -/
structure ConnectCall where
  socket : Nat
  attaching : Bool
  progress : Progress
  deriving DecidableEq, Repr

structure VoxRtcServerClient where
  sockets : Sockets := {}
  calls : List ConnectCall := []
  /-- The calls of `socket.disconnect()` on the stack. -/
  disconnecting : Nat := 0

inductive ClientStep where
  | connect (attaching : Bool)
  /-- `onConnectionChange` -/
  | listen
  | disconnect
  /-- The innermost `socket.disconnect()` returns or, if a listener does, throws. -/
  | disconnected (ok : Bool)
  | reports (socket : Nat) (state : ConnectionState)
  /-- The socket of a call fails, or its timer ends. -/
  | fails (k : Nat)
  | resumes (k : Nat)
  deriving DecidableEq, Repr

/-- A state that a socket reports settles the calls that wait for it. -/
def ConnectCall.reported (socket : Nat) (state : ConnectionState) (call : ConnectCall) :
    ConnectCall :=
  if call.socket = socket ∧ call.progress = .waiting ∧ state = .connected then
    { call with progress := .resolved }
  else call

namespace VoxRtcServerClient

/-- `connect`, up to where it waits. -/
def connect (c : VoxRtcServerClient) (attaching : Bool) : VoxRtcServerClient :=
  let (sockets, socket) := c.sockets.ensure {}
  let state := (sockets.made[socket]?.map (·.state)).getD .disconnected
  match state with
  | .connected => { c with sockets, calls := c.calls ++ [⟨socket, attaching, .resolved⟩] }
  | .connecting => { c with sockets, calls := c.calls ++ [⟨socket, attaching, .waiting⟩] }
  | .disconnected =>
    { c with
      sockets := sockets.change socket Socket.connect
      calls := c.calls ++ [⟨socket, attaching, .waiting⟩] }

/-- `disconnect`, up to the listeners of `socket.disconnect()`. -/
def disconnect (c : VoxRtcServerClient) : VoxRtcServerClient :=
  match c.sockets.held with
  | some socket => { c with
      sockets := c.sockets.change socket Socket.disconnect
      disconnecting := c.disconnecting + 1 }
  | none => c

/-- The rest of `disconnect`: `#socket = null`, unless `socket.disconnect()` has thrown. -/
def disconnected (c : VoxRtcServerClient) (ok : Bool) : VoxRtcServerClient := { c with
  sockets := if ok then c.sockets.release else c.sockets
  disconnecting := c.disconnecting - 1 }

def step (c : VoxRtcServerClient) : ClientStep → Option VoxRtcServerClient
  | .connect attaching => some (c.connect attaching)
  | .listen => some { c with sockets := (c.sockets.ensure {}).1 }
  | .disconnect => some c.disconnect
  | .disconnected ok => if 0 < c.disconnecting then some (c.disconnected ok) else none
  | .reports socket state => some { c with
      sockets := c.sockets.change socket (Socket.reports state)
      calls := c.calls.map (ConnectCall.reported socket state) }
  | .fails k => do
    let call ← c.calls[k]?
    if call.progress = .waiting then
      some { c with calls := c.calls.set k { call with progress := .rejected } }
    else none
  | .resumes k => do
    let call ← c.calls[k]?
    -- A promise goes on only once the stack is empty.
    if call.attaching ∧ call.progress = .resolved ∧ c.disconnecting = 0 then
      some { c with
        sockets := (c.sockets.ensure {}).1
        calls := c.calls.set k { call with progress := .resumed } }
    else none

/-- No listener that runs inside `socket.disconnect()` has asked for a connection of the socket
that the client holds when it returns. -/
def Proper (c : VoxRtcServerClient) : ClientStep → Prop
  | .disconnected true => c.sockets.Idle Socket.Asked
  | _ => True

end VoxRtcServerClient

def client : System VoxRtcServerClient ClientStep := ⟨{}, VoxRtcServerClient.step⟩

variable {c next : VoxRtcServerClient}

theorem connect_moves (within : c.sockets.Within) (attaching : Bool) :
    Sockets.Moves True c.sockets (c.connect attaching).sockets := by
  have made : (c.sockets.ensure {}).2 < (c.sockets.ensure {}).1.made.length :=
    Holder.ensure_within within _ Holder.ensure_held
  have ensured : Sockets.Moves True c.sockets (c.sockets.ensure {}).1 :=
    Sockets.moves_one (m := .ensure) rfl
  simp only [VoxRtcServerClient.connect]
  split
  · exact ensured
  · exact ensured
  · have asked := Sockets.moves_one (s := (c.sockets.ensure {}).1)
      (m := .connect (c.sockets.ensure {}).2) (if_pos made)
    exact (ensured.trans asked).cast (by simp [Sockets.Proper, Holder.ensure_held])

theorem disconnect_moves : Sockets.Moves True c.sockets c.disconnect.sockets := by
  simp only [VoxRtcServerClient.disconnect]
  split
  next socket held => exact Sockets.moves_one (m := .disconnect) (by rw [Sockets.move, held]; rfl)
  · exact Sockets.moves_none

theorem disconnected_moves (ok : Bool) :
    Sockets.Moves (c.Proper (.disconnected ok)) c.sockets (c.disconnected ok).sockets := by
  cases ok with
  | true => exact Sockets.moves_one (m := .release) rfl
  | false => exact Sockets.moves_none

/-- What a step does with the sockets is proper exactly if the step is. -/
theorem step_moves {l : ClientStep} (within : c.sockets.Within) (taken : c.step l = some next) :
    Sockets.Moves (c.Proper l) c.sockets next.sockets := by
  cases l with
  | connect attaching =>
    cases taken
    exact connect_moves within attaching
  | listen =>
    cases taken
    exact Sockets.moves_one (m := .ensure) rfl
  | disconnect =>
    cases taken
    exact disconnect_moves
  | disconnected ok =>
    obtain ⟨_, same⟩ := Option.ite_none_right_eq_some.mp taken
    cases same
    exact disconnected_moves ok
  | reports socket state =>
    cases taken
    exact Sockets.moves_one (m := .reports socket state) rfl
  | fails k =>
    obtain ⟨call, _, taken⟩ := Option.bind_eq_some_iff.mp taken
    obtain ⟨_, same⟩ := Option.ite_none_right_eq_some.mp taken
    cases same
    exact Sockets.moves_none
  | resumes k =>
    obtain ⟨call, _, taken⟩ := Option.bind_eq_some_iff.mp taken
    obtain ⟨_, same⟩ := Option.ite_none_right_eq_some.mp taken
    cases same
    exact Sockets.moves_one (m := .ensure) rfl

end VoxRtc.TypeScript.Client
