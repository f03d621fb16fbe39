import VoxRtc.Rust.Gateway.Frames

/-!
# Negotiation generations of the Rust gateway

The generation of a browser frame on its way to Vox: `generation` of
`rust/rtcserver/src/gateway.rs` reads it, and `send_offer` and `send_ice_candidate` of
`session.rs` write it into the message for the channel.
-/
namespace VoxRtc.Rust.Gateway

open Transition Wire VoxRtc.Gateway

/-- `Value::from` of a `u64`. -/
def ofU64 (n : Nat) : Value := .num (.posInt (n % 2 ^ 64) (Nat.mod_lt _ (by decide)))

/-- What `payload.insert` adds for a generation. -/
def generationField : Option Nat → Data
  | none => []
  | some n => [("generation", ofU64 n)]

def candidateValue : Option Candidate → Value
  | none => .null
  | some c => .obj [("candidate", .str c.candidate), ("sdpMid", c.sdpMid),
      ("sdpMLineIndex", c.sdpMLineIndex), ("usernameFragment", c.usernameFragment)]

/-- `send_offer`, `send_ice_candidate` and `close_rtc`, down to `send_control`. -/
def controlMessage : SessionCall Candidate → String × Data
  | .sendOffer sdp restart generation =>
    ("rtc.offer", ("offer", .obj [("type", .str "offer"), ("sdp", .str sdp)]) ::
      ("restart", .bool restart) :: generationField generation)
  | .sendIceCandidate candidate generation =>
    ("rtc.ice_candidate", ("candidate", candidateValue candidate) :: generationField generation)
  | .closeRtc reason => ("rtc.close", [("reason", .str reason)])

/-- A message Vox has received, with the `data` of the frame it was sent for. -/
structure Forwarded where
  frame : Data
  event : String
  payload : Data

namespace Forwarded

def isOffer (f : Forwarded) : Bool := f.event == "rtc.offer"

def isCandidate (f : Forwarded) : Bool := f.event == "rtc.ice_candidate"

def generation (f : Forwarded) : Option Value := f.payload.get? "generation"

/-- An offer or a candidate has the generation of its frame, which is a safe integer. -/
structure Faithful (f : Forwarded) : Prop where
  own : f.generation = f.frame.get? "generation"
  safe : ∀ value, f.generation = some value →
    ∃ n fits, value = .num (.posInt n fits) ∧ 1 ≤ n ∧ n ≤ 2 ^ 53 - 1

end Forwarded

/-- What a frame sends to Vox. A call that fails finds the channel closed and sends
nothing. -/
def forwards (p : Progress) (raw : Message) (outcome : Outcome) : Option Forwarded :=
  match readMessage raw, handleMessage p raw outcome with
  | .ok message, ⟨_, _, some call, none⟩ =>
    let (event, payload) := controlMessage call
    some ⟨message.data, event, payload⟩
  | _, _ => none

structure Negotiation where
  connection : Connection
  /-- Newest first. -/
  forwarded : List Forwarded

namespace Negotiation

def sends (s : Negotiation) : VoxRtc.Gateway.Label Message SerdeNumber → Option Forwarded
  | .frame raw outcome _ => forwards s.connection.progress raw outcome
  | .event _ _ => none

def step (s : Negotiation) (l : VoxRtc.Gateway.Label Message SerdeNumber) : Option Negotiation :=
  (s.connection.step dialect l).map fun connection =>
    ⟨connection, (s.sends l).toList ++ s.forwarded⟩

/-- Every offer and candidate is faithful, and after an offer with a generation no
candidate goes without one before the next offer. -/
structure Preserved (s : Negotiation) : Prop where
  faithful : ∀ f ∈ s.forwarded, f.isOffer ∨ f.isCandidate → f.Faithful
  governed : ∀ later candidate between offer earlier,
    s.forwarded = later ++ candidate :: (between ++ offer :: earlier) →
    candidate.isCandidate → offer.isOffer → (∀ f ∈ between, ¬f.isOffer) →
    offer.generation.isSome → candidate.generation.isSome

/-- The frame is answered by an error. -/
def Rejects (s : Negotiation) (raw : Message) (outcome : Outcome) : Prop :=
  (handleMessage s.connection.progress raw outcome).error.isSome

/-- Vox has received the same messages, and whatever frame comes next asks for the same
call, generation included. -/
structure SameDemands (s t : Negotiation) : Prop where
  forwarded : t.forwarded = s.forwarded
  commands : ∀ message, dialect.command t.connection.progress.generatedOffer message =
    dialect.command s.connection.progress.generatedOffer message

end Negotiation

def negotiation : System Negotiation (VoxRtc.Gateway.Label Message SerdeNumber) :=
  ⟨⟨connection.init, []⟩, Negotiation.step⟩

theorem asU64?_eq {value : Value} {n : Nat} (read : asU64? value = some n) :
    value = ofU64 n := by
  unfold asU64? at read
  split at read
  next m fits =>
    cases read
    simp only [ofU64, Nat.mod_eq_of_lt fits]
  · cases read

/-- What the parser has read is what the frame builder writes. -/
theorem generation_spec {data : Data} {command : String} {required : Bool} {g : Option Nat}
    (read : generation data command required = .ok g) :
    data.get? "generation" = g.map ofU64 ∧ (∀ n ∈ g, 1 ≤ n ∧ n ≤ maxSafeInteger) ∧
      (required → g.isSome) := by
  unfold generation at read
  cases found : data.get? "generation" with
  | none =>
    cases required with
    | true =>
      simp only [found, if_true] at read
      cases read
    | false =>
      simp only [found, Bool.false_eq_true, if_false] at read
      cases read
      simp
  | some value =>
    simp only [found] at read
    split at read
    · cases read
    next n kept =>
      cases read
      simp only [Option.filter_eq_some_iff, Bool.and_eq_true, decide_eq_true_eq] at kept
      -- A number that is kept is a `u64` of at most 2^53 - 1, written as one.
      obtain ⟨isU64, positive, bounded⟩ := kept
      rw [asU64?_eq isU64]
      simp [Nat.succ_le_of_lt positive, bounded]

theorem ofU64_safe {n : Nat} (bounded : n ≤ maxSafeInteger) :
    ∃ fits, ofU64 n = .num (.posInt n fits) := by
  have fits : n < 2 ^ 64 := Nat.lt_of_le_of_lt bounded (by decide)
  exact ⟨fits, by simp only [ofU64, Nat.mod_eq_of_lt fits]⟩

/-- Every way a frame can be handled, by what reaches Vox. -/
inductive Handles (p : Progress) (raw : Message) (outcome : Outcome) : Prop
  | rejected (error : (handleMessage p raw outcome).error.isSome)
      (nothing : forwards p raw outcome = none)
      (same : (handleMessage p raw outcome).progress.generatedOffer = p.generatedOffer)
  | forwarded (message : ClientMessage SerdeNumber) (call : SessionCall Candidate)
      (asks : dialect.Asks p.generatedOffer message call)
      (accepted : (handleMessage p raw outcome).error = none)
      (sent : forwards p raw outcome =
        some ⟨message.data, (controlMessage call).1, (controlMessage call).2⟩)
      (mode : (handleMessage p raw outcome).progress.generatedOffer =
        (p.called call).generatedOffer)

@[simp] theorem reject_generatedOffer (p : Progress) (id : Option String) :
    (p.reject id).generatedOffer = p.generatedOffer := by
  unfold Progress.reject
  split <;> rfl

@[simp] theorem calling_generatedOffer (p : Progress) (id : String)
    (call : SessionCall Candidate) : (p.calling id call).generatedOffer = p.generatedOffer := by
  cases call <;> rfl

theorem called_calling_generatedOffer (p : Progress) (id : String)
    (call : SessionCall Candidate) :
    ((p.calling id call).called call).generatedOffer = (p.called call).generatedOffer := by
  cases call <;> rfl

theorem handles (p : Progress) (raw : Message) (outcome : Outcome) :
    Handles p raw outcome := by
  cases read : readMessage raw with
  | error e =>
    have handled : handleMessage p raw outcome = ⟨p, none, none, some e⟩ := by
      simp only [handleMessage, VoxRtc.Gateway.handleMessage, dialect, read]
    exact .rejected (by simp [handled]) (by simp [forwards, read]) (by simp [handled])
  | ok message =>
    have handled : handleMessage p raw outcome = handleCommand dialect p message outcome := by
      simp only [handleMessage, VoxRtc.Gateway.handleMessage, dialect, read]
    -- A second offer is refused before it is read any further.
    by_cases second : message.type = "rtc.offer" ∧ p.pendingOfferId.isSome
    · simp only [handleCommand, second, and_self, if_true] at handled
      exact .rejected (by simp [handled]) (by simp [forwards, read, handled]) (by simp [handled])
    · simp only [handleCommand, second, if_false] at handled
      cases asked : dialect.command p.generatedOffer message with
      | error e =>
        simp only [asked] at handled
        exact .rejected (by simp [handled]) (by simp [forwards, read, handled])
          (by simp [handled])
      | ok call =>
        simp only [asked] at handled
        -- The call is made; what Vox receives depends on how it goes.
        cases outcome with
        | done =>
          exact .forwarded message call (dialect.asks asked) (by simp [handled])
            (by simp [forwards, read, handled])
            (by rw [handled]; exact called_calling_generatedOffer p message.id call)
        | failed text =>
          exact .rejected (by simp [handled]) (by simp [forwards, read, handled])
            (by simp [handled])
        | fatal =>
          exact .rejected (by simp [handled]) (by simp [forwards, read, handled])
            (by simp [handled])

theorem offer_generation (sdp : String) (restart : Bool) (g : Option Nat) :
    (controlMessage (.sendOffer sdp restart g)).2.get? "generation" = g.map ofU64 := by
  cases g <;> simp [controlMessage, generationField, Members.get?]

theorem candidate_generation (c : Option Candidate) (g : Option Nat) :
    (controlMessage (.sendIceCandidate c g)).2.get? "generation" = g.map ofU64 := by
  cases g <;> simp [controlMessage, generationField, Members.get?]

theorem faithful_of_read {f : Forwarded} {command : String} {required : Bool} {g : Option Nat}
    (read : generation f.frame command required = .ok g) (carried : f.generation = g.map ofU64) :
    f.Faithful := by
  obtain ⟨own, bounds, _⟩ := generation_spec read
  constructor
  · rw [carried, own]
  · intro value found
    rw [carried, Option.map_eq_some_iff] at found
    obtain ⟨n, given, rfl⟩ := found
    obtain ⟨positive, bounded⟩ := bounds n given
    obtain ⟨fits, same⟩ := ofU64_safe bounded
    exact ⟨n, fits, same, positive, bounded⟩

/-- The mode is the presence of a generation in the last offer Vox has received. -/
def lastGenerated (forwarded : List Forwarded) : Bool :=
  match forwarded.find? Forwarded.isOffer with
  | some offer => offer.generation.isSome
  | none => false

theorem generated_cons_offer {f : Forwarded} (fs : List Forwarded) (offer : f.isOffer) :
    lastGenerated (f :: fs) = f.generation.isSome := by
  simp only [lastGenerated, List.find?_cons_of_pos offer]

theorem generated_cons_other {f : Forwarded} (fs : List Forwarded) (other : ¬f.isOffer) :
    lastGenerated (f :: fs) = lastGenerated fs := by
  simp only [lastGenerated, List.find?_cons_of_neg other]

theorem generated_between {between earlier : List Forwarded} {offer : Forwarded}
    (others : ∀ f ∈ between, ¬f.isOffer) (isOffer : offer.isOffer) :
    lastGenerated (between ++ offer :: earlier) = offer.generation.isSome := by
  -- No message in between is an offer, so the search goes past each of them.
  induction between with
  | nil => exact generated_cons_offer earlier isOffer
  | cons f fs ih =>
    obtain ⟨other, rest⟩ := List.forall_mem_cons.mp others
    exact (generated_cons_other _ other).trans (ih rest)

/-- What a message adds to the ones Vox has: it is faithful, it sets the mode when it is
an offer and obeys the mode when it is a candidate. -/
structure Continues (fs : List Forwarded) (generated : Bool) (f : Forwarded) : Prop where
  faithful : f.isOffer ∨ f.isCandidate → f.Faithful
  mode : generated = lastGenerated (f :: fs)
  obeys : f.isCandidate → lastGenerated fs → f.generation.isSome

theorem continues_of_asks {p : Progress} {fs : List Forwarded}
    {message : ClientMessage SerdeNumber} {call : SessionCall Candidate}
    (asks : dialect.Asks p.generatedOffer message call) (current : p.generatedOffer = lastGenerated fs) :
    Continues fs (p.called call).generatedOffer
      ⟨message.data, (controlMessage call).1, (controlMessage call).2⟩ := by
  cases asks with
  | offer sdp restart g type read =>
    have carried := offer_generation sdp restart g
    constructor
    · intro _
      exact faithful_of_read read carried
    -- An offer is the last one from here on.
    · rw [generated_cons_offer _ rfl]
      simp only [Forwarded.generation, carried, Option.isSome_map]
      rfl
    · intro isCandidate
      cases isCandidate
  | candidate c g type read =>
    have carried := candidate_generation c g
    constructor
    · intro _
      exact faithful_of_read read carried
    · rw [generated_cons_other _ (by simp [Forwarded.isOffer, controlMessage])]
      exact current
    -- The mode is that of the last offer, so a generation was required.
    · intro _ generated
      simp only [Forwarded.generation, carried, Option.isSome_map]
      exact (generation_spec read).2.2 (current.trans generated)
  | close reason type =>
    constructor
    · intro named
      rcases named with named | named <;> cases named
    · rw [generated_cons_other _ (by simp [Forwarded.isOffer, controlMessage])]
      exact current
    · intro isCandidate
      cases isCandidate

namespace Negotiation

variable {s t : Negotiation} {l : VoxRtc.Gateway.Label Message SerdeNumber}

theorem step_connection (taken : s.step l = some t) :
    s.connection.step dialect l = some t.connection ∧
      t.forwarded = (s.sends l).toList ++ s.forwarded := by
  simp only [step, Option.map_eq_some_iff] at taken
  obtain ⟨c, moved, rfl⟩ := taken
  exact ⟨moved, rfl⟩

theorem step_frame {raw : Message} {outcome : Outcome} {written : Bool}
    (taken : s.step (.frame raw outcome written) = some t) :
    t.connection.progress = (handleMessage s.connection.progress raw outcome).progress ∧
      t.forwarded = (forwards s.connection.progress raw outcome).toList ++ s.forwarded := by
  obtain ⟨moved, sent⟩ := step_connection taken
  refine ⟨?_, sent⟩
  simp only [Connection.step, Connection.stepBy] at moved
  split at moved
  · cases moved
  · simp only [Option.some.injEq] at moved
    exact moved ▸ rfl

theorem step_event {event : WireEvent SerdeNumber} {written : Bool}
    (taken : s.step (.event event written) = some t) :
    t.connection.progress.generatedOffer = s.connection.progress.generatedOffer ∧
      t.forwarded = s.forwarded := by
  obtain ⟨moved, sent⟩ := step_connection taken
  refine ⟨?_, sent⟩
  simp only [Connection.step, Connection.stepBy] at moved
  split at moved
  · cases moved
  · simp only [Option.some.injEq] at moved
    rw [← moved]
    simp only [VoxRtc.Gateway.forwardEvent]
    split <;> rfl

/-- The invariant: the mode the gateway keeps is that of the messages Vox has. -/
structure Ordered (s : Negotiation) : Prop where
  mode : s.connection.progress.generatedOffer = lastGenerated s.forwarded
  preserved : s.Preserved

theorem preserved_cons {f : Forwarded} {fs : List Forwarded} {c d : Connection}
    {generated : Bool} (kept : Preserved ⟨c, fs⟩) (next : Continues fs generated f) :
    Preserved ⟨d, f :: fs⟩ := by
  constructor
  · intro g member
    rcases List.mem_cons.mp member with rfl | old
    · exact next.faithful
    · exact kept.faithful g old
  · intro later candidate between offer earlier split isCandidate isOffer others carries
    cases later with
    | nil =>
      obtain ⟨rfl, rest⟩ := List.cons.inj split
      -- The candidate is the new message, and the offer the last one before it.
      refine next.obeys isCandidate ?_
      rw [rest, generated_between others isOffer, carries]
    | cons g gs =>
      obtain ⟨rfl, rest⟩ := List.cons.inj split
      exact kept.governed gs candidate between offer earlier rest isCandidate isOffer others
        carries

theorem step_ordered (ordered : s.Ordered) (taken : s.step l = some t) : t.Ordered := by
  obtain ⟨c, fs⟩ := t
  cases l with
  | event event written =>
    obtain ⟨same, rfl⟩ := step_event taken
    exact ⟨same.trans ordered.mode, ordered.preserved.faithful, ordered.preserved.governed⟩
  | frame raw outcome written =>
    obtain ⟨progress, rfl⟩ := step_frame taken
    cases handles s.connection.progress raw outcome with
    | rejected error nothing same =>
      -- Nothing reaches Vox, and the mode stays as it was.
      simp only [nothing, Option.toList_none, List.nil_append]
      refine ⟨?_, ordered.preserved.faithful, ordered.preserved.governed⟩
      rw [progress]
      exact same.trans ordered.mode
    | forwarded message call asks accepted sent mode =>
      -- The message has been read under the mode that the invariant speaks of.
      have next := continues_of_asks asks ordered.mode
      simp only [sent, Option.toList_some, List.singleton_append]
      refine ⟨?_, preserved_cons (c := s.connection) ordered.preserved next⟩
      rw [progress, mode]
      exact next.mode

theorem ordered (reached : negotiation.Reaches always s) : s.Ordered := by
  refine System.Reaches.preserves ?_ (fun _ _ _ kept _ taken => step_ordered kept taken) reached
  constructor
  · rfl
  · constructor
    · intro f member
      cases member
    · intro later candidate between offer earlier split
      cases later <;> cases split

end Negotiation

/-- Generations reach Vox as the browser sent them, and a rejected frame changes neither
what candidates need nor what later frames carry. -/
theorem generations_preserved {s : Negotiation} (reached : negotiation.Reaches always s) :
    s.Preserved ∧ ∀ raw outcome written t, s.step (.frame raw outcome written) = some t →
      s.Rejects raw outcome → s.SameDemands t := by
  refine ⟨(Negotiation.ordered reached).preserved, ?_⟩
  intro raw outcome written t taken rejects
  obtain ⟨progress, sent⟩ := Negotiation.step_frame taken
  cases handles s.connection.progress raw outcome with
  | rejected error nothing same =>
    constructor
    · rw [sent, nothing]
      rfl
    · intro message
      rw [progress, same]
  | forwarded message call asks accepted =>
    rw [Negotiation.Rejects, accepted] at rejects
    cases rejects

/-- An offer and a candidate of generation 7, then a candidate without one. -/
def generatedRun : List (VoxRtc.Gateway.Label Message SerdeNumber) :=
  let seven : Value := .num (.posInt 7 (by decide))
  let offer : Value := .obj [("type", .str "offer"), ("sdp", .str "v=0")]
  [.frame (.text (some (browserFrame "a" "rtc.offer"
      [("offer", offer), ("generation", seven)]))) .done true,
    .frame (.text (some (browserFrame "b" "rtc.ice_candidate"
      [("candidate", .null), ("generation", seven)]))) .done true,
    .frame (.text (some (candidateFrame "c"))) .done true]

theorem generations_preserved_run :
    ∃ s, negotiation.run negotiation.init generatedRun = some s ∧ s.forwarded.length = 2 ∧
      s.Preserved := by
  refine ⟨_, rfl, rfl, ?_⟩
  exact (generations_preserved (System.reaches_of_run generatedRun rfl)).1

end VoxRtc.Rust.Gateway
