import VoxRtc.Clients.Sockets
import VoxRtc.Transition.Pool

/-!
# The Python client

`connect`, `disconnect`, `on_connection_change`, `on_error` and `attach_session` of
`python/vox-rtc-server/src/vox_rtc_server/client.py`, as far as they concern the socket. What
a task does between two `await`s is one step.
-/
namespace VoxRtc.Python.Client

open Clients Correlation Transition

inductive Task where
  /-- `connect` awaits the socket; `attach_session` may have called it. -/
  | connecting (attaching : Bool)
  | connected (attaching : Bool)
  | disconnecting
  | done
  deriving DecidableEq, Repr

structure VoxRtcServerClient where
  sockets : Sockets := {}
  tasks : List Task := []

inductive ClientStep where
  | connect (attaching : Bool)
  /-- `on_connection_change` and `on_error` -/
  | listen
  | disconnect
  /-- What the task awaits returns, or raises. -/
  | awaited (k : Nat) (ok : Bool)
  /-- `attach_session` goes on after its `connect`. -/
  | resumes (k : Nat)
  | reports (socket : Nat) (state : ConnectionState)
  deriving DecidableEq, Repr

namespace VoxRtcServerClient

/-- `connect`, up to its `await`. -/
def connect (c : VoxRtcServerClient) (attaching : Bool) : VoxRtcServerClient :=
  let (sockets, socket) := c.sockets.ensure {}
  if sockets.made[socket]?.map (·.state) = some .connected then
    { c with sockets, tasks := c.tasks ++ [.connected attaching] }
  else
    { c with
      sockets := sockets.change socket Socket.connect
      tasks := c.tasks ++ [.connecting attaching] }

/-- `disconnect`, up to its `await`. -/
def disconnect (c : VoxRtcServerClient) : VoxRtcServerClient :=
  match c.sockets.held with
  | some socket => { c with
      sockets := c.sockets.change socket Socket.disconnect
      tasks := c.tasks ++ [.disconnecting] }
  | none => c

def step (c : VoxRtcServerClient) : ClientStep → Option VoxRtcServerClient
  | .connect attaching => some (c.connect attaching)
  | .listen => some { c with sockets := (c.sockets.ensure {}).1 }
  | .disconnect => some c.disconnect
  | .awaited k ok =>
    match c.tasks[k]? with
    | some (.connecting attaching) =>
      some { c with tasks := c.tasks.set k (if ok then .connected attaching else .done) }
    | some .disconnecting => some { c with
        -- A call that raises leaves the socket where it is.
        sockets := if ok then c.sockets.release else c.sockets
        tasks := c.tasks.set k .done }
    | _ => none
  | .resumes k =>
    match c.tasks[k]? with
    | some (.connected true) => some { c with
        sockets := (c.sockets.ensure {}).1
        tasks := c.tasks.set k .done }
    | _ => none
  | .reports socket state => some { c with
      sockets := c.sockets.change socket (Socket.reports state) }

/-- A `disconnect` that returns finds no socket that has been asked to connect meanwhile. -/
def Proper (c : VoxRtcServerClient) : ClientStep → Prop
  | .awaited k true => c.tasks[k]? = some .disconnecting → c.sockets.Idle Socket.Asked
  | _ => True

end VoxRtcServerClient

def client : System VoxRtcServerClient ClientStep := ⟨{}, VoxRtcServerClient.step⟩

variable {c next : VoxRtcServerClient}

theorem connect_moves (within : c.sockets.Within) (attaching : Bool) :
    Sockets.Moves True c.sockets (c.connect attaching).sockets := by
  have made : (c.sockets.ensure {}).2 < (c.sockets.ensure {}).1.made.length :=
    Holder.ensure_within within _ Holder.ensure_held
  have ensured : Sockets.Moves True c.sockets (c.sockets.ensure {}).1 :=
    Sockets.moves_one (m := .ensure) rfl
  simp only [VoxRtcServerClient.connect]
  split
  · exact ensured
  · have asked := Sockets.moves_one (s := (c.sockets.ensure {}).1)
      (m := .connect (c.sockets.ensure {}).2) (if_pos made)
    exact (ensured.trans asked).cast (by simp [Sockets.Proper, Holder.ensure_held])

theorem disconnect_moves : Sockets.Moves True c.sockets c.disconnect.sockets := by
  simp only [VoxRtcServerClient.disconnect]
  split
  next socket held =>
    exact Sockets.moves_one (m := .disconnect) (by rw [Sockets.move, held]; rfl)
  · exact Sockets.moves_none

/-- What a step does with the sockets is proper exactly if the step is. -/
theorem step_moves {l : ClientStep} (within : c.sockets.Within) (taken : c.step l = some next) :
    Sockets.Moves (c.Proper l) c.sockets next.sockets := by
  cases l with
  | connect attaching =>
    cases taken
    exact connect_moves within attaching
  | listen =>
    cases taken
    exact Sockets.moves_one (m := .ensure) rfl
  | disconnect =>
    cases taken
    exact disconnect_moves
  | awaited k ok =>
    simp only [VoxRtcServerClient.step] at taken
    split at taken
    next attaching here =>
      cases taken
      apply Sockets.moves_none.cast
      cases ok <;> simp [VoxRtcServerClient.Proper, here]
    next here =>
      cases taken
      cases ok with
      | true =>
        have released := Sockets.moves_one (s := c.sockets) (m := .release) rfl
        exact released.cast (by simp [VoxRtcServerClient.Proper, Sockets.Proper, here])
      | false => exact Sockets.moves_none
    · cases taken
  | resumes k =>
    simp only [VoxRtcServerClient.step] at taken
    split at taken
    · cases taken
      exact Sockets.moves_one (m := .ensure) rfl
    · cases taken
  | reports socket state =>
    cases taken
    exact Sockets.moves_one (m := .reports socket state) rfl

end VoxRtc.Python.Client
