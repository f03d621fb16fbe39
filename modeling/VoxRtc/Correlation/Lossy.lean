import Mathlib.Data.List.Basic

/-!
# Bounded broadcast channels

A channel keeps the last values that fit in it. A receiver has a place in the sequence of
all values sent; one that has fallen out of the buffer is told so once and goes on with the
oldest value left. The end of the channel comes after everything that was sent.
-/
namespace Correlation

universe u

inductive RecvError where
  | lagged (missed : Nat)
  | closed
  deriving DecidableEq, Repr

structure Lossy (α : Type u) where
  capacity : Nat
  /-- Everything that has been sent, also what the buffer has lost. -/
  sent : List α
  /-- No sender is left. -/
  closed : Bool
  deriving DecidableEq, Repr

namespace Lossy

variable {α : Type u} {r : Lossy α} {next : Nat}

def empty (capacity : Nat) : Lossy α := ⟨capacity, [], false⟩

def send (r : Lossy α) (value : α) : Lossy α := { r with sent := r.sent ++ [value] }

/-- Where the buffer begins. -/
def oldest (r : Lossy α) : Nat := r.sent.length - r.capacity

/-- The receiver would be told that it has lagged. -/
def lags (r : Lossy α) (next : Nat) : Bool := next < r.oldest

/-- What `recv` returns and where the receiver stands then; `none` while it waits. -/
def recv (r : Lossy α) (next : Nat) : Option (Except RecvError α × Nat) :=
  if r.lags next then some (.error (.lagged (r.oldest - next)), r.oldest)
  else match r.sent[next]? with
    | some value => some (.ok value, next + 1)
    | none => if r.closed then some (.error .closed, next) else none

/-- The values a receiver that lags will not see. -/
def lost (r : Lossy α) (next : Nat) : List α := (r.sent.drop next).take (r.oldest - next)

/-- Every result of `recv`. -/
inductive Receives (r : Lossy α) (next : Nat) : Except RecvError α → Nat → Prop
  | ok (value : α) (here : r.sent[next]? = some value) (kept : r.lags next = false) :
      Receives r next (.ok value) (next + 1)
  | lagged (behind : next < r.oldest) : Receives r next (.error (.lagged (r.oldest - next))) r.oldest
  | closed (gone : r.closed = true) (end_ : r.sent.length ≤ next) :
      Receives r next (.error .closed) next

theorem receives {result : Except RecvError α} {after : Nat}
    (returned : r.recv next = some (result, after)) : r.Receives next result after := by
  unfold recv at returned
  split at returned
  next behind =>
    cases returned
    exact .lagged (by simpa [lags] using behind)
  next kept =>
    split at returned
    next value here =>
      cases returned
      exact .ok value here (by simpa using kept)
    next missing =>
      split at returned
      next gone =>
        cases returned
        exact .closed gone (List.getElem?_eq_none_iff.mp missing)
      · cases returned

/-- Whoever has something ahead does not wait. -/
theorem recv_isSome (ahead : next < r.sent.length) : (r.recv next).isSome = true := by
  unfold recv
  split
  · rfl
  · rw [List.getElem?_eq_getElem ahead]
    rfl

theorem oldest_le : r.oldest ≤ r.sent.length := Nat.sub_le _ _

theorem Receives.le {result : Except RecvError α} {after : Nat}
    (receives : r.Receives next result after) (within : next ≤ r.sent.length) :
    next ≤ after ∧ after ≤ r.sent.length := by
  cases receives with
  | ok value here kept =>
    have ahead : next < r.sent.length := (List.getElem?_eq_some_iff.mp here).1
    omega
  | lagged behind =>
    have bound := r.oldest_le
    omega
  | closed => omega

/-- A receiver that has something ahead gets on. -/
theorem Receives.advances {result : Except RecvError α} {after : Nat}
    (receives : r.Receives next result after) (ahead : next < r.sent.length) : next < after := by
  cases receives with
  | ok value here kept => omega
  | lagged behind => exact behind
  | closed gone end_ => omega

end Lossy

end Correlation
