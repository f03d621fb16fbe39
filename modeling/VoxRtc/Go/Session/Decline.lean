import VoxRtc.Responses.Commands
import VoxRtc.Transition.Fairness
import VoxRtc.Transition.Pool
import Mathlib.Data.List.Nodup

/-!
# Declines of a Go channel

`rawSocketChannel` of `go/rtcserver/socket.go`: handlers are registered under a mutex, the
frame that declines the join calls a snapshot of them outside of it, and a handler that is
registered later is called by its own registration. Each goroutine moves by one section under
the mutex or one call at a time.
-/
namespace VoxRtc.Go.Session

open Wire Responses Transition

/-- A string type; the texts below are its constants. -/
structure ChannelState where
  text : String
  deriving DecidableEq, Repr

namespace ChannelState

def idle : ChannelState := ⟨"IDLE"⟩
def joining : ChannelState := ⟨"JOINING"⟩
def joined : ChannelState := ⟨"JOINED"⟩
def closed : ChannelState := ⟨"CLOSED"⟩
def declined : ChannelState := ⟨"DECLINED"⟩

end ChannelState

/-- `pondsocket.ChannelState`. -/
inductive PondState where
  | joining
  | joined
  | closed
  | idle
  | declined
  | other (text : String)
  deriving DecidableEq, Repr

def mapChannelState : PondState → ChannelState
  | .joining => .joining
  | .joined => .joined
  | .closed => .closed
  | .idle => .idle
  | .declined => .declined
  | .other text => ⟨text⟩

/-- The event of a frame. -/
inductive PondEvent where
  | unauthorized
  | notFound
  | other (event : String)
  deriving DecidableEq, Repr

def PondEvent.declines : PondEvent → Bool
  | unauthorized | notFound => true
  | other _ => false

def declineReason (payload : Payload) : String :=
  match payload.get? "message" with
  | some (.str message) => message
  | _ => ""

/-- Where a call of `OnChannelStateChange` stands. It is subscribed to the underlying channel
after its section, with what it has read of `declined` there. -/
inductive Stage where
  | subscribing (declined : Bool)
  | replaying
  | returned
  deriving DecidableEq, Repr

/-- It still has to call its handler itself. -/
def Stage.owes : Stage → Bool
  | subscribing declined => declined
  | replaying => true
  | returned => false

structure Registration where
  id : Nat
  stage : Stage
  deriving DecidableEq, Repr

/-- A call of a handler, and what `JoinError` returns when it is made. -/
structure HandlerCall where
  handler : Nat
  state : ChannelState
  joinError : String
  deriving DecidableEq, Repr

structure RawSocketChannel where
  declined : Bool
  joinError : String
  /-- The keys of the map. -/
  stateHandlers : List Nat
  nextHandlerID : Nat
  registrations : List Registration
  /-- The handlers that each frame has still to call. -/
  deliveries : List (List Nat)
  calls : List HandlerCall
  deriving DecidableEq, Repr

inductive ChannelStep where
  | register
  | subscribed (k : Nat)
  | replay (k : Nat)
  /-- The function that the registration has returned is called. -/
  | unregister (k : Nat)
  /-- The underlying channel reports a state to the registration. -/
  | notify (k : Nat) (state : PondState)
  /-- A frame, up to the end of its section, and the order in which it finds the handlers. -/
  | frame (event : PondEvent) (payload : Payload) (handlers : List Nat)
  | deliver (k : Nat)

namespace RawSocketChannel

def initial : RawSocketChannel := ⟨false, "", [], 0, [], [], []⟩

/-- A handler is called. -/
def call (s : RawSocketChannel) (handler : Nat) (state : ChannelState) : RawSocketChannel :=
  { s with calls := s.calls ++ [⟨handler, state, s.joinError⟩] }

/-- The section of `OnChannelStateChange`. -/
def register (s : RawSocketChannel) : RawSocketChannel :=
  { s with
    nextHandlerID := s.nextHandlerID + 1
    stateHandlers := s.nextHandlerID :: s.stateHandlers
    registrations := s.registrations ++ [⟨s.nextHandlerID, .subscribing s.declined⟩] }

/-- The section of `watchDecline`. -/
def decline (s : RawSocketChannel) (payload : Payload) (handlers : List Nat) : RawSocketChannel :=
  { s with
    declined := true
    joinError := declineReason payload
    deliveries := s.deliveries ++ [handlers] }

def goTo (s : RawSocketChannel) (k : Nat) (g : Registration) (stage : Stage) : RawSocketChannel :=
  { s with registrations := s.registrations.set k { g with stage := stage } }

def step (s : RawSocketChannel) : ChannelStep → Option RawSocketChannel
  | .register => some s.register
  | .subscribed k => do
    let g ← s.registrations[k]?
    match g.stage with
    | .subscribing declined => return s.goTo k g (if declined then .replaying else .returned)
    | _ => none
  | .replay k => do
    let g ← s.registrations[k]?
    if g.stage = .replaying then return (s.goTo k g .returned).call g.id .declined else none
  | .unregister k => do
    let g ← s.registrations[k]?
    if g.stage = .returned then return { s with stateHandlers := s.stateHandlers.erase g.id }
    else none
  | .notify k state => do
    let g ← s.registrations[k]?
    return if mapChannelState state = .declined then s else s.call g.id (mapChannelState state)
  | .frame event payload handlers =>
    if event.declines && !s.declined then
      if handlers.Perm s.stateHandlers then some (s.decline payload handlers) else none
    else some s
  | .deliver k => do
    match ← s.deliveries[k]? with
    | [] => none
    | handler :: rest =>
      return { s with deliveries := s.deliveries.set k rest }.call handler .declined

end RawSocketChannel

def declining : System RawSocketChannel ChannelStep := ⟨.initial, RawSocketChannel.step⟩

namespace RawSocketChannel

variable {s t : RawSocketChannel} {l : ChannelStep} {i : Nat}

/-- How often a handler has been called with the declined state. -/
def declinedCalls (s : RawSocketChannel) (i : Nat) : Nat :=
  s.calls.countP fun c => c.handler = i ∧ c.state = .declined

/-- The step records the decline while `i` is registered, or registers `i` after that. -/
def Owes (s : RawSocketChannel) (i : Nat) : ChannelStep → Prop
  | .frame event _ _ => event.declines = true ∧ s.declined = false ∧ i ∈ s.stateHandlers
  | .register => s.declined = true ∧ i = s.nextHandlerID
  | _ => False

/-- The reason of the decline that a step records. -/
def reasons (s : RawSocketChannel) : ChannelStep → List String
  | .frame event payload _ => if event.declines && !s.declined then [declineReason payload] else []
  | _ => []

end RawSocketChannel

/-- Every goroutine that has something to call goes on. -/
structure Served (e : declining.Execution always) : Prop where
  deliveries : ∀ k, e.WeaklyFair (· = .deliver k)
  registrations : ∀ k, e.WeaklyFair fun l => l = .subscribed k ∨ l = .replay k

/-- Every handler that the decline is owed to is called with it once, with the reason at hand. -/
structure DeclineDelivered : Prop where
  never_twice : ∀ s, declining.Reaches always s → ∀ i, s.declinedCalls i ≤ 1
  reported : ∀ r, (declining.recorded RawSocketChannel.reasons).Reaches always r →
    ∀ l t, r.1.step l = some t → ∃ more, t.calls = r.1.calls ++ more ∧
      ∀ c ∈ more, c.state = .declined → r.2 = [c.joinError]
  once : ∀ e : declining.Execution always, Served e → ∀ n l i, e.label n = some l →
    (e.state n).Owes i l → ∃ m, n ≤ m ∧ ∀ k, m ≤ k → (e.state k).declinedCalls i = 1

namespace RawSocketChannel

variable {s t : RawSocketChannel} {l : ChannelStep} {i : Nat}

/-- What a step makes of a channel. -/
inductive Moves (s : RawSocketChannel) : ChannelStep → RawSocketChannel → Prop
  | register : Moves s .register s.register
  | subscribed {k : Nat} {g : Registration} {declined : Bool}
      (here : s.registrations[k]? = some g) (stage : g.stage = .subscribing declined) :
      Moves s (.subscribed k) (s.goTo k g (if declined then .replaying else .returned))
  | replay {k : Nat} {g : Registration} (here : s.registrations[k]? = some g)
      (stage : g.stage = .replaying) :
      Moves s (.replay k) ((s.goTo k g .returned).call g.id .declined)
  | unregister {k : Nat} {g : Registration} (here : s.registrations[k]? = some g)
      (stage : g.stage = .returned) :
      Moves s (.unregister k) { s with stateHandlers := s.stateHandlers.erase g.id }
  | filtered {k : Nat} {state : PondState} (declined : mapChannelState state = .declined) :
      Moves s (.notify k state) s
  | notify {k : Nat} {g : Registration} {state : PondState}
      (here : s.registrations[k]? = some g) (other : mapChannelState state ≠ .declined) :
      Moves s (.notify k state) (s.call g.id (mapChannelState state))
  | decline {event : PondEvent} {payload : Payload} {handlers : List Nat}
      (declines : event.declines = true) (first : s.declined = false)
      (found : handlers.Perm s.stateHandlers) :
      Moves s (.frame event payload handlers) (s.decline payload handlers)
  | frame {event : PondEvent} {payload : Payload} {handlers : List Nat}
      (later : (event.declines && !s.declined) = false) : Moves s (.frame event payload handlers) s
  | deliver {k handler : Nat} {rest : List Nat} (here : s.deliveries[k]? = some (handler :: rest)) :
      Moves s (.deliver k)
        ({ s with deliveries := s.deliveries.set k rest }.call handler .declined)

theorem moves_of_step (taken : s.step l = some t) : Moves s l t := by
  cases l with
  | register =>
    cases taken
    exact .register
  | subscribed k =>
    simp only [step, Option.bind_eq_bind, Option.bind_eq_some_iff] at taken
    obtain ⟨g, here, taken⟩ := taken
    split at taken
    next declined stage =>
      cases taken
      exact .subscribed here stage
    next => cases taken
  | replay k =>
    simp only [step, Option.bind_eq_bind, Option.bind_eq_some_iff, Option.pure_def,
      Option.ite_none_right_eq_some, Option.some.injEq] at taken
    obtain ⟨g, here, stage, rfl⟩ := taken
    exact .replay here stage
  | unregister k =>
    simp only [step, Option.bind_eq_bind, Option.bind_eq_some_iff, Option.pure_def,
      Option.ite_none_right_eq_some, Option.some.injEq] at taken
    obtain ⟨g, here, stage, rfl⟩ := taken
    exact .unregister here stage
  | notify k state =>
    simp only [step, Option.bind_eq_bind, Option.bind_eq_some_iff, Option.pure_def,
      Option.some.injEq] at taken
    obtain ⟨g, here, rfl⟩ := taken
    split
    next declined => exact .filtered declined
    next other => exact .notify here other
  | frame event payload handlers =>
    simp only [step] at taken
    split at taken
    next first =>
      simp only [Bool.and_eq_true, Bool.not_eq_true'] at first
      simp only [Option.ite_none_right_eq_some, Option.some.injEq] at taken
      obtain ⟨found, rfl⟩ := taken
      exact .decline first.1 first.2 found
    next later =>
      cases taken
      exact .frame (by simpa using later)
  | deliver k =>
    simp only [step, Option.bind_eq_bind, Option.bind_eq_some_iff] at taken
    obtain ⟨pending, here, taken⟩ := taken
    cases pending with
    | nil => cases taken
    | cons handler rest =>
      cases taken
      exact .deliver here

/-! ## What a handler has had and will have -/

/-- The calls that deliveries have still to make of a handler. -/
def pending (s : RawSocketChannel) (i : Nat) : Nat := (s.deliveries.map (·.count i)).sum

/-- The registrations that have still to call their handler. -/
def replays (s : RawSocketChannel) (i : Nat) : Nat :=
  s.registrations.countP fun g => g.id = i ∧ g.stage.owes = true

def total (s : RawSocketChannel) (i : Nat) : Nat := s.declinedCalls i + s.pending i + s.replays i

/-- What a step adds to it. -/
def gain (s : RawSocketChannel) (i : Nat) : ChannelStep → Nat
  | .register => if s.declined = true ∧ i = s.nextHandlerID then 1 else 0
  | .frame event _ handlers => if event.declines && !s.declined then handlers.count i else 0
  | _ => 0

theorem declinedCalls_call (handler : Nat) (state : ChannelState) :
    (s.call handler state).declinedCalls i =
      s.declinedCalls i + if handler = i ∧ state = .declined then 1 else 0 := by
  simp [declinedCalls, call, List.countP_append, List.countP_singleton]

theorem sum_set {xs : List (List Nat)} {k handler : Nat} {rest : List Nat}
    (here : xs[k]? = some (handler :: rest)) :
    ((xs.set k rest).map (·.count i)).sum + (if handler = i then 1 else 0) =
      (xs.map (·.count i)).sum := by
  obtain ⟨before, after, rfl, changed⟩ := Pool.split_at here
  rw [changed]
  simp only [List.map_append, List.map_cons, List.sum_append, List.sum_cons, List.count_cons,
    beq_iff_eq]
  omega

theorem replays_goTo {k : Nat} {g : Registration} (here : s.registrations[k]? = some g)
    (stage : Stage) :
    (s.goTo k g stage).replays i + (if g.id = i ∧ g.stage.owes = true then 1 else 0) =
      s.replays i + if g.id = i ∧ stage.owes = true then 1 else 0 := by
  have total := Pool.countP_set_add (b := { g with stage := stage })
    (fun g => decide (g.id = i ∧ g.stage.owes = true)) here
  simpa only [replays, goTo, decide_eq_true_eq] using total

/-- One step. -/
theorem moves_total (moves : Moves s l t) : t.total i = s.total i + s.gain i l := by
  cases moves with
  -- A handler that is registered after the decline is owed its replay.
  | register =>
    have appended : s.register.replays i =
        s.replays i + if s.declined = true ∧ i = s.nextHandlerID then 1 else 0 := by
      simp only [replays, register, Pool.countP_append_one, Stage.owes]
      simp only [decide_eq_true_eq, and_comm, eq_comm (a := i)]
    simp only [total, gain, appended]
    exact (Nat.add_assoc _ _ _).symm
  -- The registration has read the flag in its section; it owes what it owed.
  | @subscribed k g declined here stage =>
    have moved := replays_goTo (i := i) here (if declined then .replaying else .returned)
    have same : (if declined then Stage.replaying else .returned).owes = g.stage.owes := by
      rw [stage]
      cases declined <;> rfl
    rw [same] at moved
    have kept : (s.goTo k g (if declined then .replaying else .returned)).replays i = s.replays i := by
      omega
    simp only [total, gain, kept]
    rfl
  -- The registration owes one call less, and its handler has had one more.
  | @replay k g here stage =>
    have moved := replays_goTo (i := i) here .returned
    have called := declinedCalls_call (s := s.goTo k g .returned) (i := i) g.id .declined
    have pending : ((s.goTo k g .returned).call g.id .declined).pending i = s.pending i := rfl
    have replays : ((s.goTo k g .returned).call g.id .declined).replays i =
      (s.goTo k g .returned).replays i := rfl
    have before : (s.goTo k g .returned).declinedCalls i = s.declinedCalls i := rfl
    simp only [stage, Stage.owes, and_true, and_false, Bool.false_eq_true, if_false] at moved called
    simp only [total, gain, called, pending, replays, before]
    omega
  | unregister | filtered | frame later => simp_all [total, gain, declinedCalls, pending, replays]
  -- A state that is passed on is not the declined one.
  | @notify k g state here other =>
    have called := declinedCalls_call (s := s) (i := i) g.id (mapChannelState state)
    rw [if_neg (fun both => other both.2)] at called
    simp only [total, gain, called]
    rfl
  -- The snapshot is owed to everybody in it.
  | @decline event payload handlers declines first found =>
    have appended : (s.decline payload handlers).pending i = s.pending i + handlers.count i := by
      simp [pending, RawSocketChannel.decline]
    have calls : (s.decline payload handlers).declinedCalls i = s.declinedCalls i := rfl
    have replays : (s.decline payload handlers).replays i = s.replays i := rfl
    simp only [total, gain, declines, first, appended, calls, replays, Bool.not_false,
      Bool.and_self, if_true]
    omega
  -- The delivery owes one call less, and its handler has had one more.
  | @deliver k handler rest here =>
    have popped := sum_set (i := i) here
    have called := declinedCalls_call (s := { s with deliveries := s.deliveries.set k rest })
      (i := i) handler .declined
    simp only [and_true] at called
    have before : declinedCalls { s with deliveries := s.deliveries.set k rest } i =
      s.declinedCalls i := rfl
    have replays : ({ s with deliveries := s.deliveries.set k rest }.call handler .declined).replays
      i = s.replays i := rfl
    have pending : ({ s with deliveries := s.deliveries.set k rest }.call handler .declined).pending
      i = ((s.deliveries.set k rest).map (·.count i)).sum := rfl
    simp only [total, gain, called, before, replays, pending]
    simp only [RawSocketChannel.pending]
    omega

/-- Handlers that are not registered yet have had nothing, and nobody has before the decline
is recorded. -/
structure Inv (s : RawSocketChannel) : Prop where
  nodup : s.stateHandlers.Nodup
  fresh : ∀ i, s.nextHandlerID ≤ i → i ∉ s.stateHandlers ∧ s.total i = 0
  quiet : s.declined = false → ∀ i, s.total i = 0
  once : ∀ i, s.total i ≤ 1

theorem inv_initial : Inv initial := by
  constructor
  · exact .nil
  · exact fun _ _ => ⟨List.not_mem_nil, rfl⟩
  · exact fun _ _ => rfl
  · exact fun _ => Nat.zero_le 1

/-- What a step that adds nothing to any handler keeps. -/
theorem Inv.move (inv : Inv s) (same : ∀ i, t.total i = s.total i)
    (handlers : t.stateHandlers.Sublist s.stateHandlers)
    (next : t.nextHandlerID = s.nextHandlerID) (declined : t.declined = s.declined) : Inv t := by
  constructor
  · exact inv.nodup.sublist handlers
  · intro i above
    obtain ⟨absent, none⟩ := inv.fresh i (by omega)
    exact ⟨fun member => absent (handlers.subset member), by rw [same, none]⟩
  · intro waiting i
    rw [same]
    exact inv.quiet (declined ▸ waiting) i
  · intro i
    rw [same]
    exact inv.once i

theorem inv_register (inv : Inv s) : Inv s.register := by
  have added := fun i => moves_total (i := i) (Moves.register (s := s))
  constructor
  -- The identifier has not been given away.
  · exact List.nodup_cons.mpr ⟨(inv.fresh _ (Nat.le_refl _)).1, inv.nodup⟩
  · intro i above
    have later : s.nextHandlerID + 1 ≤ i := above
    obtain ⟨absent, none⟩ := inv.fresh i (by omega)
    refine ⟨fun member => ?_, ?_⟩
    · rcases List.mem_cons.mp member with rfl | old
      · omega
      · exact absent old
    · rw [added, gain, none, if_neg]
      omega
  · intro waiting i
    have waiting' : s.declined = false := waiting
    rw [added, gain, inv.quiet waiting', if_neg]
    simp [waiting']
  · intro i
    rw [added, gain]
    split
    next new =>
      rw [new.2, (inv.fresh _ (Nat.le_refl _)).2]
    next => exact inv.once i

theorem inv_decline {event : PondEvent} {payload : Payload} {handlers : List Nat} (inv : Inv s)
    (declines : event.declines = true) (first : s.declined = false)
    (found : handlers.Perm s.stateHandlers) : Inv (s.decline payload handlers) := by
  have moves : Moves s (.frame event payload handlers) (s.decline payload handlers) :=
    .decline declines first found
  have added := fun i => moves_total (i := i) moves
  simp only [gain, declines, first, Bool.not_false, Bool.and_self, if_true] at added
  constructor
  · exact inv.nodup
  · intro i above
    obtain ⟨absent, none⟩ := inv.fresh i above
    refine ⟨absent, ?_⟩
    rw [added, none, found.count_eq, List.count_eq_zero.mpr absent]
  · intro absurd
    cases absurd
  · intro i
    -- Nobody was due before, and the snapshot has each handler at most once.
    rw [added, inv.quiet first i, found.count_eq, Nat.zero_add]
    exact List.nodup_iff_count_le_one.mp inv.nodup i

theorem inv_step (inv : Inv s) (taken : s.step l = some t) : Inv t := by
  have moves := moves_of_step taken
  have same := fun i => moves_total (i := i) moves
  cases moves with
  | register => exact inv_register inv
  | decline declines first found => exact inv_decline inv declines first found
  | unregister => exact inv.move same List.erase_sublist rfl rfl
  | frame later =>
    exact inv
  | filtered => exact inv
  | subscribed | replay | notify | deliver => exact inv.move same (.refl _) rfl rfl

theorem invariant {C : RawSocketChannel → ChannelStep → Prop} (reached : declining.Reaches C s) :
    Inv s :=
  System.Reaches.preserves inv_initial (fun _ _ _ inv _ taken => inv_step inv taken) reached

/-- A handler that the decline is owed to has it before it, or has had it. -/
theorem total_of_owes (inv : Inv s) (owes : s.Owes i l) (taken : s.step l = some t) :
    t.total i = 1 := by
  have moves := moves_of_step taken
  have added := moves_total (i := i) moves
  cases l with
  | register =>
    obtain ⟨declined, rfl⟩ := owes
    rw [added, gain, if_pos ⟨declined, rfl⟩, (inv.fresh _ (Nat.le_refl _)).2]
  | frame event payload handlers =>
    obtain ⟨declines, first, member⟩ := owes
    simp only [gain, declines, first, Bool.not_false, Bool.and_self, if_true] at added
    have found : handlers.Perm s.stateHandlers := by
      cases moves with
      | decline _ _ found => exact found
      | frame later => simp [declines, first] at later
    -- The snapshot has the handler, and has it once.
    rw [added, inv.quiet first i, found.count_eq, Nat.zero_add]
    exact List.count_eq_one_of_mem inv.nodup member
  | _ => cases owes

theorem declined_of_total (inv : Inv s) (due : 0 < s.total i) : s.declined = true := by
  by_contra waiting
  rw [Bool.not_eq_true] at waiting
  have none := inv.quiet waiting i
  omega

/-! ## The reason at hand -/

/-- What has been recorded is what `JoinError` returns. -/
def Reported (record : List String) (s : RawSocketChannel) : Prop :=
  record = if s.declined then [s.joinError] else []

theorem reported_step {record : List String} (reported : Reported record s)
    (taken : s.step l = some t) : Reported (record ++ s.reasons l) t := by
  cases moves_of_step taken with
  | decline declines first found =>
    simp only [Reported, first, Bool.false_eq_true, if_false] at reported
    simp [Reported, reasons, RawSocketChannel.decline, reported, declines, first]
  | frame later => simpa [Reported, reasons, later] using reported
  | _ =>
    have silent : Reported (record ++ []) s := by rwa [List.append_nil]
    exact silent

/-- Who is called with the declined state is called after it was recorded. -/
theorem calls_step (inv : Inv s) (taken : s.step l = some t) : ∃ more, t.calls = s.calls ++ more ∧
    ∀ c ∈ more, c.state = .declined → s.declined = true ∧ c.joinError = s.joinError := by
  have moves := moves_of_step taken
  cases moves with
  | @replay k g here stage =>
    refine ⟨_, rfl, fun c member _ => ?_⟩
    rw [List.mem_singleton.mp member]
    refine ⟨declined_of_total (i := g.id) inv ?_, rfl⟩
    -- The registration owes the call, so the decline has been recorded.
    have counted : 0 < s.replays g.id :=
      List.countP_pos_iff.mpr ⟨g, Pool.mem_of_read here, by simp [stage, Stage.owes]⟩
    rw [total]
    omega
  | @deliver k handler rest here =>
    refine ⟨_, rfl, fun c member _ => ?_⟩
    rw [List.mem_singleton.mp member]
    refine ⟨declined_of_total (i := handler) inv ?_, rfl⟩
    -- So it has if a delivery owes it.
    have popped := sum_set (i := handler) here
    simp only [if_true] at popped
    rw [total, pending]
    omega
  | @notify k g state here other =>
    refine ⟨_, rfl, fun c member state => ?_⟩
    rw [List.mem_singleton.mp member] at state
    exact absurd state other
  | _ => exact ⟨[], (List.append_nil _).symm, by simp⟩

/-! ## Calls that are still to be made -/

theorem called_once (inv : Inv t) (called : 0 < t.declinedCalls i) : t.declinedCalls i = 1 := by
  have bound := inv.once i
  rw [total] at bound
  omega

/-- Other steps leave a delivery as it is. -/
theorem delivery_kept {k : Nat} {rest : List Nat} (other : l ≠ .deliver k)
    (here : s.deliveries[k]? = some rest) (taken : s.step l = some t) :
    t.deliveries[k]? = some rest := by
  cases moves_of_step taken with
  | decline => exact Pool.read_append_old here
  | @deliver j =>
    have different : k ≠ j := fun same => other (by rw [same])
    exact (Pool.read_set_other different).trans here
  | _ => exact here

/-- How many handlers a delivery has still to call. -/
def left (s : RawSocketChannel) (k : Nat) : Nat := (s.deliveries[k]?.getD []).length

/-- A delivery has still to call a handler. -/
def Delivers (s : RawSocketChannel) (k i : Nat) : Prop :=
  ∃ rest, s.deliveries[k]? = some rest ∧ i ∈ rest

theorem delivery_step {k : Nat} (delivers : s.Delivers k i) (inv : Inv t)
    (taken : s.step (.deliver k) = some t) :
    t.declinedCalls i = 1 ∨ t.Delivers k i ∧ t.left k < s.left k := by
  obtain ⟨rest, here, member⟩ := delivers
  cases moves_of_step taken with
  | @deliver _ handler tail found =>
    rw [found] at here
    cases here
    -- The handlers of a delivery are called one after another.
    by_cases own : handler = i
    · refine .inl (called_once inv ?_)
      rw [declinedCalls_call, if_pos ⟨own, rfl⟩]
      omega
    · have still : i ∈ tail := by
        rcases List.mem_cons.mp member with rfl | later
        · exact absurd rfl own
        · exact later
      have popped : (s.deliveries.set k tail)[k]? = some tail := Pool.read_set_self found
      refine .inr ⟨⟨tail, popped, still⟩, ?_⟩
      simp [left, call, popped, found]

theorem delivery_served {e : declining.Execution always} {k n : Nat}
    (fair : e.WeaklyFair (· = .deliver k)) (delivers : (e.state n).Delivers k i) :
    ∃ m, n ≤ m ∧ (e.state m).declinedCalls i = 1 := by
  refine e.eventually_of_rank (P := (·.Delivers k i)) (Q := (·.declinedCalls i = 1)) (·.left k) fair
    ?_ ?_ ?_ n delivers
  · rintro s - ⟨rest, here, member⟩
    cases rest with
    | nil => cases member
    | cons handler rest => exact ⟨.deliver k, rfl, by simp [declining, step, here]⟩
  · intro s l t reached delivers _ taken
    by_cases own : l = .deliver k
    · subst own
      rcases delivery_step delivers (invariant (.step _ reached trivial taken)) taken with
        called | ⟨still, fewer⟩
      · exact .inl called
      · exact .inr ⟨still, Nat.le_of_lt fewer⟩
    · obtain ⟨rest, here, member⟩ := delivers
      have kept := delivery_kept own here taken
      refine .inr ⟨⟨rest, kept, member⟩, ?_⟩
      rw [left, left, kept, here]
  · rintro s l t reached delivers rfl _ taken
    exact delivery_step delivers (invariant (.step _ reached trivial taken)) taken

/-- How far a registration is from the call of its handler. -/
def behind (s : RawSocketChannel) (k : Nat) : Nat :=
  if (s.registrations[k]?.map Registration.stage) = some .replaying then 0 else 1

/-- A registration has still to call its handler. -/
def Replays (s : RawSocketChannel) (k i : Nat) : Prop :=
  ∃ g, s.registrations[k]? = some g ∧ g.id = i ∧ g.stage.owes = true

/-- Other steps leave a registration as it is. -/
theorem registration_kept {k : Nat} {g : Registration} (first : l ≠ .subscribed k)
    (second : l ≠ .replay k) (here : s.registrations[k]? = some g) (taken : s.step l = some t) :
    t.registrations[k]? = some g := by
  cases moves_of_step taken with
  | register => exact Pool.read_append_old here
  | @subscribed j =>
    have different : k ≠ j := fun same => first (by rw [same])
    exact (Pool.read_set_other different).trans here
  | @replay j =>
    have different : k ≠ j := fun same => second (by rw [same])
    exact (Pool.read_set_other different).trans here
  | _ => exact here

theorem replay_step {k : Nat} (replays : s.Replays k i) (inv : Inv t)
    (own : l = .subscribed k ∨ l = .replay k) (taken : s.step l = some t) :
    t.declinedCalls i = 1 ∨ t.Replays k i ∧ t.behind k < s.behind k := by
  obtain ⟨g, here, rfl, owes⟩ := replays
  rcases own with rfl | rfl
  · cases moves_of_step taken with
    | @subscribed _ g' declined found stage =>
      rw [found] at here
      cases here
      rw [stage, Stage.owes] at owes
      have moved : (s.registrations.set k { g with stage := .replaying })[k]? =
        some { g with stage := .replaying } := Pool.read_set_self found
      simp only [owes, if_true]
      refine .inr ⟨⟨_, moved, rfl, rfl⟩, ?_⟩
      simp [behind, goTo, moved, found, stage]
  · cases moves_of_step taken with
    | @replay _ g' found stage =>
      rw [found] at here
      cases here
      refine .inl (called_once inv ?_)
      rw [declinedCalls_call, if_pos ⟨rfl, rfl⟩]
      omega

theorem replay_served {e : declining.Execution always} {k n : Nat}
    (fair : e.WeaklyFair fun l => l = .subscribed k ∨ l = .replay k)
    (replays : (e.state n).Replays k i) : ∃ m, n ≤ m ∧ (e.state m).declinedCalls i = 1 := by
  refine e.eventually_of_rank (P := (·.Replays k i)) (Q := (·.declinedCalls i = 1)) (·.behind k) fair
    ?_ ?_ ?_ n replays
  · rintro s - ⟨g, here, -, owes⟩
    cases stage : g.stage with
    | subscribing declined => exact ⟨.subscribed k, .inl rfl, by simp [declining, step, here, stage]⟩
    | replaying => exact ⟨.replay k, .inr rfl, by simp [declining, step, here, stage]⟩
    | returned =>
      rw [stage] at owes
      cases owes
  · intro s l t reached replays _ taken
    by_cases own : l = .subscribed k ∨ l = .replay k
    · rcases replay_step replays (invariant (.step _ reached trivial taken)) own taken with
        called | ⟨still, closer⟩
      · exact .inl called
      · exact .inr ⟨still, Nat.le_of_lt closer⟩
    · obtain ⟨g, here, same, owes⟩ := replays
      have kept := registration_kept (fun first => own (.inl first)) (fun second => own (.inr second))
        here taken
      refine .inr ⟨⟨g, kept, same, owes⟩, ?_⟩
      rw [behind, behind, kept, here]
  · intro s l t reached replays own _ taken
    exact replay_step replays (invariant (.step _ reached trivial taken)) own taken

/-- Whoever is due has been called, or one goroutine has still to do it. -/
theorem due_cases (due : s.total i = 1) :
    s.declinedCalls i = 1 ∨ (∃ k, s.Delivers k i) ∨ ∃ k, s.Replays k i := by
  -- The total is one: whoever has not been called is in a delivery or in a registration.
  by_cases called : s.declinedCalls i = 1
  · exact .inl called
  · by_cases replays : s.replays i = 0
    · have pending : 0 < s.pending i := by
        rw [total] at due
        omega
      obtain ⟨_, among, counted⟩ := List.sum_pos_iff_exists_pos_nat.mp pending
      obtain ⟨rest, member, rfl⟩ := List.mem_map.mp among
      obtain ⟨k, here⟩ := List.mem_iff_getElem?.mp member
      exact .inr (.inl ⟨k, rest, here, List.count_pos_iff.mp counted⟩)
    · obtain ⟨g, member, owes⟩ := List.countP_pos_iff.mp (Nat.pos_of_ne_zero replays)
      obtain ⟨k, here⟩ := List.mem_iff_getElem?.mp member
      simp only [decide_eq_true_eq] at owes
      exact .inr (.inr ⟨k, g, here, owes.1, owes.2⟩)

theorem due_served {e : declining.Execution always} {n : Nat} (served : Served e)
    (due : (e.state n).total i = 1) : ∃ m, n ≤ m ∧ (e.state m).declinedCalls i = 1 := by
  rcases due_cases due with called | ⟨k, delivers⟩ | ⟨k, replays⟩
  · exact ⟨n, Nat.le_refl n, called⟩
  · exact delivery_served (served.deliveries k) delivers
  · exact replay_served (served.registrations k) replays

/-- Calls are not taken back. -/
theorem declinedCalls_grows (run : declining.Leads always s t) :
    s.declinedCalls i ≤ t.declinedCalls i := by
  induction run with
  | here => exact Nat.le_refl _
  | step l _ _ taken ih =>
    have grown := moves_of_step taken
    refine Nat.le_trans ih ?_
    cases grown with
    | replay | notify | deliver =>
      rw [declinedCalls_call]
      exact Nat.le_add_right _ _
    | _ => exact Nat.le_refl _

end RawSocketChannel

/-- A decline is delivered exactly once. -/
theorem decline_delivered : DeclineDelivered := by
  constructor
  · intro s reached i
    have bound := (RawSocketChannel.invariant reached).once i
    rw [RawSocketChannel.total] at bound
    omega
  -- A call is reported with the text that is at hand, and that is the recorded one.
  · intro r reached l t taken
    have both : RawSocketChannel.Inv r.1 ∧ RawSocketChannel.Reported r.2 r.1 := by
      refine System.Reaches.recorded (M := declining) (C := always)
        (P := fun record s => RawSocketChannel.Inv s ∧ RawSocketChannel.Reported record s)
        ⟨RawSocketChannel.inv_initial, rfl⟩ ?_ reached
      intro record a l b holds _ taken
      exact ⟨RawSocketChannel.inv_step holds.1 taken, RawSocketChannel.reported_step holds.2 taken⟩
    obtain ⟨inv, reported⟩ := both
    obtain ⟨more, calls, told⟩ := RawSocketChannel.calls_step inv taken
    refine ⟨more, calls, fun c member declined => ?_⟩
    obtain ⟨recorded, reason⟩ := told c member declined
    rw [reported, if_pos recorded, reason]
  -- Once due, a handler is served by a goroutine, and its count does not change again.
  · intro e served n l i found owes
    have inv := RawSocketChannel.invariant (e.reaches n)
    have due := RawSocketChannel.total_of_owes inv owes (e.taken n l found)
    obtain ⟨m, later, called⟩ := RawSocketChannel.due_served served due
    refine ⟨m, by omega, fun k after => ?_⟩
    have grown := RawSocketChannel.declinedCalls_grows (i := i) (e.leads after)
    exact RawSocketChannel.called_once (RawSocketChannel.invariant (e.reaches k)) (by omega)

/-- The decline comes between the section of a registration and its return, and again. -/
def declinedTwice : List ChannelStep :=
  [.register, .frame .unauthorized [] [0], .subscribed 0, .register, .deliver 0,
    .frame .notFound [] [], .subscribed 1, .replay 1]

/-- What the run leads to: both handlers have been called. -/
def bothTold : RawSocketChannel where
  declined := true
  joinError := ""
  stateHandlers := [1, 0]
  nextHandlerID := 2
  registrations := [⟨0, .returned⟩, ⟨1, .returned⟩]
  deliveries := [[]]
  calls := [⟨0, .declined, ""⟩, ⟨1, .declined, ""⟩]

theorem served_declinedTwice (ran : declining.run .initial declinedTwice = some bothTold) :
    Served (.ofRun declinedTwice (System.meets_always _) ran) := by
  constructor
  · refine fun k => System.Execution.ofRun_fair _ _ ran ?_
    rintro ⟨_, rfl, enabled⟩
    rcases k with _ | k <;> cases enabled
  · refine fun k => System.Execution.ofRun_fair _ _ ran ?_
    rintro ⟨_, rfl | rfl, enabled⟩ <;> rcases k with _ | _ | k <;> cases enabled

theorem decline_delivered_run :
    ∃ e : declining.Execution always,
      (∃ m, 1 ≤ m ∧ ∀ k, m ≤ k → (e.state k).declinedCalls 0 = 1) ∧
      ∃ m, 3 ≤ m ∧ ∀ k, m ≤ k → (e.state k).declinedCalls 1 = 1 := by
  have ran : declining.run .initial declinedTwice = some bothTold := by decide
  have served := served_declinedTwice ran
  refine ⟨.ofRun declinedTwice (System.meets_always _) ran, ?_, ?_⟩
  · exact decline_delivered.once _ served 1 _ 0 rfl ⟨rfl, rfl, List.mem_singleton_self 0⟩
  · exact decline_delivered.once _ served 3 _ 1 rfl ⟨rfl, rfl⟩

end VoxRtc.Go.Session
