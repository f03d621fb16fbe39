import VoxRtc.Correlation.Holder

/-!
# The sockets of a client

A client keeps one PondSocket client at a time: it makes one when it needs one, and lets go of
it when it disconnects. What state a socket reports is left open.
-/
namespace VoxRtc.Clients

open Correlation Transition

inductive ConnectionState where
  | disconnected
  | connecting
  | connected
  deriving DecidableEq, Repr

structure Socket where
  state : ConnectionState := .disconnected
  /-- It has been asked to connect, and not to disconnect since. -/
  asked : Bool := false
  deriving DecidableEq, Repr

namespace Socket

def connect (s : Socket) : Socket := { s with asked := true }

def disconnect (s : Socket) : Socket := { s with asked := false }

def reports (state : ConnectionState) (s : Socket) : Socket := { s with state := state }

def Asked (s : Socket) : Prop := s.asked = true

instance (s : Socket) : Decidable s.Asked := inferInstanceAs (Decidable (_ = true))

end Socket

abbrev Sockets := Correlation.Holder Socket

/-- What the methods of a client do with its sockets. -/
inductive Move where
  /-- `ensureSocket` -/
  | ensure
  | connect (socket : Nat)
  /-- The socket that is held is asked to disconnect. -/
  | disconnect
  | release
  | reports (socket : Nat) (state : ConnectionState)
  deriving DecidableEq, Repr

namespace Sockets

def move (s : Sockets) : Move → Option Sockets
  | .ensure => some (s.ensure {}).1
  | .connect i => if i < s.made.length then some (s.change i Socket.connect) else none
  | .disconnect => s.held.map fun i => s.change i Socket.disconnect
  | .release => some s.release
  | .reports i state => some (s.change i (Socket.reports state))

/-- The socket that is held is asked to connect, and one that has been asked is not let go. -/
def Proper (s : Sockets) : Move → Prop
  | .connect i => s.held = some i
  | .release => s.Idle Socket.Asked
  | _ => True

/-- A socket has been asked to connect, and then been left alone. -/
abbrev LeftAlone (s : Sockets) (i : Nat) : Prop := Holder.Abandoned Socket.Asked s i

/-- No socket has been asked to connect and then been left alone. -/
abbrev Owned (s : Sockets) : Prop := Holder.Owned Socket.Asked s

end Sockets

def sockets : System Sockets Move := ⟨{}, Sockets.move⟩

namespace Sockets

variable {s t : Sockets} {i : Nat}

/-- No move brings a socket back that has been left alone: only the held one is ever asked to
disconnect. -/
theorem LeftAlone.move {m : Move} (taken : s.move m = some t) (lost : s.LeftAlone i) :
    t.LeftAlone i := by
  cases m with
  | ensure =>
    cases taken
    exact lost.ensure
  | connect j =>
    obtain ⟨_, same⟩ := Option.ite_none_right_eq_some.mp taken
    cases same
    exact lost.change fun _ _ _ _ => rfl
  | disconnect =>
    obtain ⟨j, held, rfl⟩ := Option.map_eq_some_iff.mp taken
    exact lost.change fun _ _ same => (lost.1 (held.trans (congrArg some same))).elim
  | release =>
    cases taken
    exact lost.release
  | reports j state =>
    cases taken
    exact lost.change fun _ _ _ asked => asked

theorem owned_back {m : Move} (taken : s.move m = some t) (owned : t.Owned) : s.Owned :=
  fun i lost => owned i (LeftAlone.move taken lost)

theorem connect_iff (made : i < s.made.length) :
    Owned (s.change i Socket.connect) ↔ s.Owned ∧ s.held = some i := by
  constructor
  · intro owned
    refine ⟨owned_back (m := .connect i) (if_pos made) owned, ?_⟩
    by_contra other
    exact owned i (Holder.change_abandons (List.getElem?_eq_getElem made) rfl other)
  · exact fun ⟨owned, held⟩ => Holder.change_owned owned fun _ _ _ => .inr held

theorem release_iff : Owned s.release ↔ s.Owned ∧ s.Idle Socket.Asked := by
  constructor
  · intro owned
    refine ⟨owned_back (m := .release) rfl owned, ?_⟩
    by_contra busy
    exact Holder.release_abandons busy owned
  · exact fun ⟨owned, idle⟩ => Holder.release_owned owned idle

theorem move_iff {m : Move} (taken : s.move m = some t) : t.Owned ↔ s.Owned ∧ s.Proper m := by
  cases m with
  | ensure =>
    simp only [Proper, and_true]
    refine ⟨owned_back taken, fun owned => ?_⟩
    cases taken
    exact Holder.ensure_owned Bool.false_ne_true owned
  | connect i =>
    obtain ⟨made, same⟩ := Option.ite_none_right_eq_some.mp taken
    cases same
    exact connect_iff made
  | disconnect =>
    simp only [Proper, and_true]
    refine ⟨owned_back taken, fun owned => ?_⟩
    obtain ⟨i, held, rfl⟩ := Option.map_eq_some_iff.mp taken
    exact Holder.change_owned owned fun _ _ asked => (Bool.false_ne_true asked).elim
  | release =>
    cases taken
    exact release_iff
  | reports i state =>
    simp only [Proper, and_true]
    refine ⟨owned_back taken, fun owned => ?_⟩
    cases taken
    exact Holder.change_owned owned fun _ _ asked => .inl asked

/-- At the end of some moves nothing is left alone exactly if all of them have been proper. -/
theorem moves_iff {moves : List Move} (taken : sockets.run s moves = some t) :
    t.Owned ↔ s.Owned ∧ sockets.Meets Proper s moves :=
  run_iff_meets (fun _ => True) Owned (fun _ _ _ _ moved => ⟨trivial, move_iff moved⟩) trivial taken

theorem move_within {m : Move} (within : s.Within) (taken : s.move m = some t) : t.Within := by
  cases m with
  | ensure =>
    cases taken
    exact Holder.ensure_within within
  | connect i =>
    obtain ⟨made, same⟩ := Option.ite_none_right_eq_some.mp taken
    cases same
    exact Holder.change_within within
  | disconnect =>
    obtain ⟨i, held, rfl⟩ := Option.map_eq_some_iff.mp taken
    exact Holder.change_within within
  | release =>
    cases taken
    exact Holder.release_within
  | reports i state =>
    cases taken
    exact Holder.change_within within

theorem moves_within {moves : List Move} (within : s.Within)
    (taken : sockets.run s moves = some t) : t.Within := by
  induction moves generalizing s with
  | nil =>
    cases taken
    exact within
  | cons m moves ih =>
    obtain ⟨u, moved, rest⟩ := Option.bind_eq_some_iff.mp taken
    exact ih (move_within within moved) rest

theorem moves_leftAlone {moves : List Move} (taken : sockets.run s moves = some t)
    (lost : s.LeftAlone i) : t.LeftAlone i := by
  induction moves generalizing s with
  | nil =>
    cases taken
    exact lost
  | cons m moves ih =>
    obtain ⟨u, moved, rest⟩ := Option.bind_eq_some_iff.mp taken
    exact ih rest (lost.move moved)

/-- Some moves lead from one state of the sockets to another, and all of them are proper
exactly under a condition. -/
def Moves (proper : Prop) (s t : Sockets) : Prop :=
  ∃ moves, sockets.run s moves = some t ∧ (sockets.Meets Proper s moves ↔ proper)

theorem moves_none : Moves True s s := ⟨[], rfl, Iff.rfl⟩

theorem moves_one {m : Move} (taken : s.move m = some t) : Moves (s.Proper m) s t := by
  have stepped : sockets.step s m = some t := taken
  refine ⟨[m], ?_, ?_⟩
  · rw [System.run, stepped]
    rfl
  · simp [System.Meets, stepped]

namespace Moves

variable {p q : Prop} {u : Sockets}

theorem cast (same : p ↔ q) (moves : Moves p s t) : Moves q s t := by
  obtain ⟨list, taken, proper⟩ := moves
  exact ⟨list, taken, proper.trans same⟩

theorem trans (first : Moves p s t) (second : Moves q t u) : Moves (p ∧ q) s u := by
  obtain ⟨moves, taken, proper⟩ := first
  obtain ⟨moves', taken', proper'⟩ := second
  exact ⟨moves ++ moves', (run_append taken).trans taken',
    (meets_append taken).trans (and_congr proper proper')⟩

theorem owned_iff (moves : Moves p s t) : t.Owned ↔ s.Owned ∧ p := by
  obtain ⟨list, taken, proper⟩ := moves
  rw [moves_iff taken, proper]

theorem within (moves : Moves p s t) (before : s.Within) : t.Within := by
  obtain ⟨list, taken, _⟩ := moves
  exact moves_within before taken

theorem leftAlone (moves : Moves p s t) (lost : s.LeftAlone i) : t.LeftAlone i := by
  obtain ⟨list, taken, _⟩ := moves
  exact moves_leftAlone taken lost

end Moves

theorem owned_initial : Owned {} := by
  rintro i ⟨_, a, here, _⟩
  cases here

end Sockets

end VoxRtc.Clients
