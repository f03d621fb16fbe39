import VoxRtc.Go.Gateway.Frames

/-!
# Offers and answers of the Go gateway

The reader goroutine and the event callbacks of one connection share `pendingOfferID`
under a mutex. Each mutex-protected section is one step, and so is each frame an event
callback writes.
-/
namespace VoxRtc.Go.Gateway

open Transition Correlation Wire VoxRtc.Gateway

/-- Where the reader goroutine stands in `handleMessage`. `own` failures are those of a
`SendOffer` whose reservation the frame made itself. -/
inductive Reader where
  | idle
  | reserved (id : String) (offer : Offer)
  | sent (generation : Option Nat)
  | failing (id : String) (own : Bool) (error : CommandError)
  deriving DecidableEq, Repr

/-- The id the reader has reserved and not handed to Vox. -/
def Reader.reservation : Reader → Option String
  | reserved id _ => some id
  | failing id true _ => some id
  | _ => none

/-- The id of a frame that fails without having reserved the slot. -/
def Reader.rejected : Reader → Option String
  | failing id false _ => some id
  | _ => none

structure GatewaySession where
  pendingOfferID : String
  generatedOffer : Bool
  rtcCloseRequested : Bool
  reader : Reader
  /-- Ids that event callbacks have taken for answers they still have to write. -/
  answering : List String
  history : History String
  deriving DecidableEq, Repr

inductive Label where
  | read (raw : Option Value)
  | sendOffer
  | settle
  | clear
  | takeEvent (type : String)
  | writeAnswer (callback : Nat)

/-- The id a frame is written with. -/
def idField (id : String) : Option String := if id = "" then none else some id

namespace GatewaySession

def initial : GatewaySession := ⟨"", false, false, .idle, [], []⟩

def readOffer (s : GatewaySession) (message : ClientMessage Finite64) : GatewaySession :=
  match parseOffer message.data with
  | .error error => { s with reader := .failing message.id false error }
  | .ok offer =>
    if s.pendingOfferID ≠ "" then
      { s with reader := .failing message.id false (.plain "an RTC offer is already pending") }
    else { s with pendingOfferID := message.id, reader := .reserved message.id offer }

def readMessage (outside : Conversion) (s : GatewaySession) (raw : Option Value) :
    GatewaySession :=
  match parseMessage raw with
  | .error _ => s
  | .ok message =>
    if message.type = "rtc.offer" then s.readOffer message
    else if message.type = "rtc.ice_candidate" then
      match handleCandidate outside s.generatedOffer message.data with
      | .error error => { s with reader := .failing message.id false error }
      | .ok _ => s
    else if message.type = "rtc.close" then { s with rtcCloseRequested := true }
    else
      let type := message.type
      let error := .plain s!"unsupported RTC gateway message type: {type}"
      { s with reader := .failing message.id false error }

def step (outside : Conversion) (s : GatewaySession) : Label → Option GatewaySession
  | .read raw => match s.reader with
    | .idle => some (s.readMessage outside raw)
    | _ => none
  | .sendOffer => match s.reader with
    | .reserved id offer => some <| match VoxRtc.Go.Gateway.sendOffer offer with
      | .error error => { s with reader := .failing id true error }
      | .ok _ => { s with reader := .sent offer.generation, history := .forwarded id :: s.history }
    | _ => none
  | .settle => match s.reader with
    | .sent generation => some { s with reader := .idle, generatedOffer := generation.isSome }
    | _ => none
  | .clear => match s.reader with
    | .failing id _ _ => some { s with
        reader := .idle
        pendingOfferID := if s.pendingOfferID = id then "" else s.pendingOfferID }
    | _ => none
  | .takeEvent type => some <|
    if correlates type then
      { s with pendingOfferID := "", answering := s.answering ++ [s.pendingOfferID] }
    else { s with rtcCloseRequested := s.rtcCloseRequested || type == "rtc.session.closed" }
  | .writeAnswer k => do
    let id ← s.answering[k]?
    return { s with
      answering := s.answering.eraseIdx k, history := .answered (idField id) :: s.history }

/-- A failing frame does not carry the outstanding offer's id, an answer is taken only
for an offer that went out, and no offer goes out while an answer is still unwritten. -/
def Undisturbed (s : GatewaySession) : Label → Prop
  | .clear => ∀ id ∈ s.reader.rejected, s.pendingOfferID ≠ id
  | .takeEvent type => correlates type = true → s.reader.reservation = none ∧ s.answering = []
  | .sendOffer => s.answering = []
  | _ => True

instance (s : GatewaySession) : (l : Label) → Decidable (s.Undisturbed l)
  | .clear => inferInstanceAs (Decidable (∀ id ∈ s.reader.rejected, _))
  | .takeEvent _ => inferInstanceAs (Decidable (_ → _ ∧ _))
  | .sendOffer => inferInstanceAs (Decidable (_ = _))
  | .read _ | .settle | .writeAnswer _ => inferInstanceAs (Decidable True)

/-- The abstract slot holds the id until its answer is written, and a reservation only
once Vox has the offer. -/
structure Keeps (c : GatewaySession) (s : Slot String) : Prop where
  history : s.history = c.history
  reserved : ∀ id, c.reader.reservation = some id → c.pendingOfferID = id
  settled : c.answering = [] →
    s.pending = if c.reader.reservation = none then idField c.pendingOfferID else none
  answering : ∀ id rest, c.answering = id :: rest → rest = [] ∧ s.pending = idField id ∧
    (c.reader.reservation = none → c.pendingOfferID = "")
  proper : ∀ id offer, c.reader = .reserved id offer → id ≠ ""

variable {outside : Conversion} {c c' : GatewaySession} {s : Slot String}

private theorem keeps_initial : Keeps initial (Slot.machine (ι := String)).init :=
  ⟨rfl, nofun, fun _ => rfl, nofun, nofun⟩

private theorem Keeps.unsent {id : String} (keeps : Keeps c s)
    (reservation : c.reader.reservation = some id) (empty : c.answering = []) :
    s.pending = none := by
  rw [keeps.settled empty, if_neg]
  rw [reservation]
  exact nofun

/-- A reader that moves without touching the slot. -/
private theorem keeps_reader (keeps : Keeps c s) (history : c'.history = c.history)
    (pending : c'.pendingOfferID = c.pendingOfferID) (answering : c'.answering = c.answering)
    (before : c.reader.reservation = none) (after : c'.reader.reservation = none) :
    Keeps c' s := by
  constructor
  · rw [history]
    exact keeps.history
  · intro id reserved
    rw [after] at reserved
    cases reserved
  · intro empty
    simpa [before, after, pending] using keeps.settled (answering ▸ empty)
  · intro id rest found
    have kept := keeps.answering id rest (answering ▸ found)
    exact ⟨kept.1, kept.2.1, fun _ => pending.trans (kept.2.2 before)⟩
  · intro id offer reserved
    rw [reserved] at after
    cases after

private theorem keeps_readOffer (keeps : Keeps c s) (idle : c.reader = .idle)
    {message : ClientMessage Finite64} (proper : message.id ≠ "") :
    Keeps (c.readOffer message) s := by
  have before : c.reader.reservation = none := by rw [idle]; rfl
  unfold readOffer
  split
  · exact keeps_reader keeps rfl rfl rfl before rfl
  next offer _ =>
    split
    · exact keeps_reader keeps rfl rfl rfl before rfl
    next free =>
      simp only [ne_eq, not_not] at free
      constructor
      · exact keeps.history
      · intro id reserved
        cases reserved
        rfl
      · intro empty
        have settled := keeps.settled empty
        rw [if_pos before, free] at settled
        exact settled
      · intro id rest found
        have kept := keeps.answering id rest found
        exact ⟨kept.1, kept.2.1, nofun⟩
      · intro id offer reserved
        cases reserved
        exact proper

private theorem keeps_read (keeps : Keeps c s) (idle : c.reader = .idle) (raw : Option Value) :
    Keeps (c.readMessage outside raw) s := by
  have before : c.reader.reservation = none := by rw [idle]; rfl
  unfold readMessage
  split
  · exact keeps
  next message parsed =>
    split
    · exact keeps_readOffer keeps idle (parse_id parsed)
    · split
      · split
        · exact keeps_reader keeps rfl rfl rfl before rfl
        · exact keeps
      · split <;> exact keeps_reader keeps rfl rfl rfl before (by first | rfl | exact before)

private theorem keeps_send {id : String} {offer : Offer} (keeps : Keeps c s)
    (reserved : c.reader = .reserved id offer) (empty : c.answering = []) :
    Keeps { c with reader := .sent offer.generation, history := .forwarded id :: c.history }
      ⟨some id, .forwarded id :: s.history⟩ := by
  have held := keeps.reserved id (by rw [reserved]; rfl)
  constructor
  · rw [keeps.history]
  · nofun
  · intro _
    simp [Reader.reservation, held, idField, keeps.proper id offer reserved]
  · intro other rest found
    rw [empty] at found
    cases found
  · nofun

private theorem keeps_clear {id : String} {own : Bool} {error : CommandError} (keeps : Keeps c s)
    (failing : c.reader = .failing id own error)
    (undisturbed : ∀ other ∈ c.reader.rejected, c.pendingOfferID ≠ other) :
    Keeps { c with
      reader := .idle
      pendingOfferID := if c.pendingOfferID = id then "" else c.pendingOfferID } s := by
  cases reservation : c.reader.reservation with
  | none =>
    have rejected : c.reader.rejected = some id := by
      rw [failing] at reservation ⊢
      cases own with
      | false => rfl
      | true => cases reservation
    have other := undisturbed id rejected
    exact keeps_reader keeps rfl (by simp [other]) rfl reservation rfl
  | some held =>
    have same : held = id := by
      rw [failing] at reservation
      cases own <;> simp [Reader.reservation] at reservation
      exact reservation.symm
    subst same
    have pending := keeps.reserved held reservation
    constructor
    · exact keeps.history
    · nofun
    · intro empty
      simp [keeps.unsent reservation empty, pending, idField]
    · intro other rest found
      have kept := keeps.answering other rest found
      exact ⟨kept.1, kept.2.1, fun _ => by simp [pending]⟩
    · nofun

private theorem keeps_take (keeps : Keeps c s) (free : c.reader.reservation = none)
    (empty : c.answering = []) :
    Keeps { c with pendingOfferID := "", answering := c.answering ++ [c.pendingOfferID] } s := by
  have pending := keeps.settled empty
  rw [if_pos free] at pending
  constructor
  · exact keeps.history
  · intro id reserved
    rw [free] at reserved
    cases reserved
  · simp
  · intro id rest found
    simp only [empty, List.nil_append, List.cons.injEq] at found
    obtain ⟨rfl, rfl⟩ := found
    exact ⟨rfl, pending, fun _ => rfl⟩
  · intro id offer reserved
    rw [reserved] at free
    cases free

private theorem keeps_write {k : Nat} {id : String} (keeps : Keeps c s)
    (found : c.answering[k]? = some id) :
    Keeps { c with
      answering := c.answering.eraseIdx k, history := .answered (idField id) :: c.history }
      ⟨none, .answered s.pending :: s.history⟩ := by
  -- There is only one answer to write.
  cases listed : c.answering with
  | nil => simp [listed] at found
  | cons first rest =>
    obtain ⟨rfl, pending, cleared⟩ := keeps.answering first rest listed
    rcases k with _ | k
    · simp only [listed, List.getElem?_cons_zero, Option.some.injEq] at found
      subst found
      constructor
      · rw [keeps.history, pending]
      · exact keeps.reserved
      · intro _
        by_cases free : c.reader.reservation = none
        · simp [free, cleared free, idField]
        · simp [free]
      · simp
      · exact keeps.proper
    · simp [listed] at found

theorem keeps_step {l : Label} (keeps : Keeps c s) (undisturbed : c.Undisturbed l)
    (taken : c.step outside l = some c') : ∃ t, Slot.machine.Leads always s t ∧ Keeps c' t := by
  cases l with
  | read raw =>
    simp only [step] at taken
    split at taken
    next idle =>
      cases taken
      exact ⟨s, .here, keeps_read keeps idle raw⟩
    · cases taken
  | sendOffer =>
    simp only [step] at taken
    split at taken
    next id offer reserved =>
      have held := keeps.reserved id (by rw [reserved]; rfl)
      cases sent : VoxRtc.Go.Gateway.sendOffer offer with
      -- The offer was not sent, so the reservation is still to be cleared.
      | error error =>
        simp only [sent, Option.some.injEq] at taken
        subst taken
        have same : c.reader.reservation = some id := by rw [reserved]; rfl
        refine ⟨s, .here, keeps.history, ?_, ?_, ?_, nofun⟩
        · intro other own
          cases own
          exact held
        · exact keeps.unsent same
        · intro other rest found
          have kept := keeps.answering other rest found
          exact ⟨kept.1, kept.2.1, nofun⟩
      -- The slot is free: the offers before were answered, as the run is undisturbed.
      | ok _ =>
        simp only [sent, Option.some.injEq] at taken
        subst taken
        have free : s.pending = none := by
          have settled := keeps.settled undisturbed
          rwa [reserved] at settled
        exact ⟨_, Slot.machine_forward id free, keeps_send keeps reserved undisturbed⟩
    · cases taken
  | settle =>
    simp only [step] at taken
    split at taken
    next generation sent =>
      cases taken
      exact ⟨s, .here, keeps_reader keeps rfl rfl rfl (by rw [sent]; rfl) rfl⟩
    · cases taken
  | clear =>
    simp only [step] at taken
    split at taken
    next id own error failing =>
      cases taken
      exact ⟨s, .here, keeps_clear keeps failing undisturbed⟩
    · cases taken
  | takeEvent type =>
    simp only [step, Option.some.injEq] at taken
    split at taken
    -- An answer is taken while nothing else is on its way.
    next answer =>
      subst taken
      obtain ⟨free, empty⟩ := undisturbed answer
      exact ⟨s, .here, keeps_take keeps free empty⟩
    · subst taken
      exact ⟨s, .here, keeps.history, keeps.reserved, keeps.settled, keeps.answering, keeps.proper⟩
  | writeAnswer k =>
    simp only [step, Option.bind_eq_bind, Option.bind_eq_some_iff, Option.pure_def,
      Option.some.injEq] at taken
    obtain ⟨id, found, rfl⟩ := taken
    exact ⟨_, Slot.machine_answer s, keeps_write keeps found⟩

end GatewaySession

def connection (outside : Conversion) : System GatewaySession Label :=
  ⟨.initial, GatewaySession.step outside⟩

theorem orderly_of_undisturbed {outside : Conversion} {c : GatewaySession}
    (reached : (connection outside).Reaches GatewaySession.Undisturbed c) : c.history.Orderly := by
  obtain ⟨s, steps, keeps⟩ := System.Reaches.simulates GatewaySession.Keeps
    GatewaySession.keeps_initial
    (fun _ _ _ _ keeps undisturbed taken => GatewaySession.keeps_step keeps undisturbed taken)
    reached
  rw [← keeps.history]
  exact (Slot.faithful steps).orderly

end VoxRtc.Go.Gateway
