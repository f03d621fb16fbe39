import VoxRtc.Gateway.Negotiations

/-!
# The candidate of an `rtc.ice_candidate` frame

Whether the four gateways do the same with a candidate. TypeScript needs the member to be
there, Rust forwards the optional fields as they come, and Go and Python each take only some
of the numbers for an index.
-/
namespace VoxRtc.Gateway

open Wire

variable {ν κ : Type}

/-- A value as it is forwarded; a number stands for a rational if it is finite. -/
abbrev Field := Json (Option ℚ)

/-- A candidate as it is forwarded, in terms that the languages share. -/
structure Forwarded where
  candidate : String
  sdpMid : Field
  sdpMLineIndex : Field
  usernameFragment : Field

/-- What becomes of a frame. -/
inductive Decision where
  | reject
  | endOfCandidates
  | forward (candidate : Forwarded)

def Field.text (s : Option String) : Field := (s.map .str).getD .null

def Field.number (n : Option (Option ℚ)) : Field := (n.map .num).getD .null

def ofTypescript (c : TypeScript.Gateway.IceCandidate) : Forwarded :=
  ⟨c.candidate, .text c.sdpMid, .number (c.sdpMLineIndex.map Binary64.toRat?),
    .text c.usernameFragment⟩

def ofRust (c : Rust.Gateway.Candidate) : Forwarded :=
  let raw (value : Rust.Gateway.Value) : Field := value.mapNumbers fun n => some n.toRat
  ⟨c.candidate, raw c.sdpMid, raw c.sdpMLineIndex, raw c.usernameFragment⟩

def ofGo (c : Go.Gateway.RTCIceCandidate) : Forwarded :=
  ⟨c.candidate, .text c.sdpMid, .number (c.sdpMLineIndex.map fun n => some n),
    .text c.usernameFragment⟩

def ofPython (c : Python.Gateway.Candidate) : Forwarded :=
  ⟨c.candidate, .text c.sdpMid, .number (c.sdpMLineIndex.map fun n => some n),
    .text c.usernameFragment⟩

/-- The decision behind the session call of a frame. -/
def decisionOf (forwarded : κ → Forwarded) : Except CommandError (SessionCall κ) → Decision
  | .ok (.sendIceCandidate (some candidate) _) => .forward (forwarded candidate)
  | .ok (.sendIceCandidate none _) => .endOfCandidates
  | _ => .reject

/-- What each gateway makes of an `rtc.ice_candidate` frame. -/
def decisions (outside : Go.Gateway.Conversion) (id : FrameId) (data : Members Literal)
    (required : Bool) : Gateways Decision where
  typescript := decisionOf ofTypescript do
    let message ← TypeScript.Gateway.parseClientMessage (jsonParse (written id .candidate data))
    TypeScript.Gateway.dialect.command required message
  rust := decisionOf ofRust do
    let message ← Rust.Gateway.parseMessage (fromStr (written id .candidate data))
    Rust.Gateway.dialect.command required message
  go := decisionOf ofGo do
    let message ← Go.Gateway.parseMessage (decoded (written id .candidate data))
    Go.Gateway.handleCandidate outside required message.data
  python := decisionOf ofPython do
    let message ← Python.Gateway.parseText (loads (written id .candidate data))
    Python.Gateway.dialect.command required message

/-- The candidate with a text, as it is given: strings and a number, and otherwise null. -/
def normalised (candidate : String) (record : Members Literal) : Forwarded where
  candidate
  sdpMid := .text ((record.get? "sdpMid").bind Json.str?)
  sdpMLineIndex := .number (((record.get? "sdpMLineIndex").bind Json.num?).map Literal.toRat?)
  usernameFragment := .text ((record.get? "usernameFragment").bind Json.str?)

/-- All gateways reject the frame, all forward the end of candidates, or all forward the candidate
as it is given. -/
def SameDecision (data : Members Literal) (made : Gateways Decision) : Prop :=
  (made.All fun d => d = .reject) ∨ (made.All fun d => d = .endOfCandidates) ∨
  ∃ (record : Members Literal) (candidate : String), data.get? "candidate" = some (.obj record) ∧
    record.get? "candidate" = some (.str candidate) ∧
    made.All fun d => d = .forward (normalised candidate record)

/-! ## The candidate of a gateway -/

/-- A candidate with a text, by what becomes of its other members. -/
def given (texts index : Option (Json Literal) → Field) (candidate : String)
    (record : Members Literal) : Forwarded :=
  ⟨candidate, texts (record.get? "sdpMid"), index (record.get? "sdpMLineIndex"),
    texts (record.get? "usernameFragment")⟩

/-- A decision on a candidate, by what becomes of a missing one and of one with a text. -/
def candidateBy (missing : Decision) (forwarded : String → Members Literal → Forwarded) :
    Option (Json Literal) → Decision
  | none => missing
  | some .null => .endOfCandidates
  | some (.obj record) => match Members.get? record "candidate" with
    | some (.str candidate) => .forward (forwarded candidate record)
    | _ => .reject
  | some _ => .reject

def givenText (field : Option (Json Literal)) : Field := .text (field.bind Json.str?)

def givenNumber (field : Option (Json Literal)) : Field :=
  .number ((field.bind Json.num?).map Literal.toRat?)

theorem normalised_eq (candidate : String) (record : Members Literal) :
    normalised candidate record = given givenText givenNumber candidate record := rfl

def typescriptIndex (field : Option (Json Literal)) : Field :=
  .number ((field.bind Json.num?).map fun l => l.double.toRat?)

def rustRaw (field : Option (Json Literal)) : Field :=
  ((field.map (Json.mapNumbers Literal.serde)).getD .null).mapNumbers fun n => some n.toRat

def goIndex (outside : Go.Gateway.Conversion) (field : Option (Json Literal)) : Field :=
  .number ((field.bind Json.num?).bind fun l =>
    if (finite l).ltInt 0 then none else some (some (Go.Gateway.uint32 outside (finite l))))

def pythonIndex (field : Option (Json Literal)) : Field :=
  .number ((field.bind Json.num?).bind fun l => match l with
    | .int n => some (some n)
    | .negativeZero => some (some 0)
    | _ => none)

theorem str?_field (number : Literal → ν) (field : Option (Json Literal)) :
    (field.map (Json.mapNumbers number)).bind Json.str? = field.bind Json.str? := by
  cases field <;> simp

theorem obj_inDomain (number : Literal → ν) (record : Members Literal) :
    (Json.obj record).mapNumbers number = .obj (inDomain number record) := by
  simp [Json.mapNumbers, Json.ofMembers_eq, inDomain]

theorem typescript_candidate (generation : Option Nat) (field : Option (Json Literal)) :
    decisionOf ofTypescript (do
      let candidate ← TypeScript.Gateway.iceCandidate (field.map (Json.mapNumbers Literal.double))
      return .sendIceCandidate candidate generation) =
    candidateBy .reject (given givenText typescriptIndex) field := by
  cases field with
  | none => rfl
  | some value =>
    cases value with
    | obj record =>
      simp only [Option.map_some, obj_inDomain, TypeScript.Gateway.iceCandidate, Option.any_some,
        Json.isNull, Bool.false_eq_true, if_false, Option.bind_some, Json.object?, get?_inDomain,
        candidateBy]
      cases Members.get? record "candidate" with
      | none => rfl
      | some value =>
        cases value with
        | str candidate =>
          simp only [Option.map_some, Json.mapNumbers, str?_field, given, givenText, typescriptIndex]
          cases Members.get? record "sdpMLineIndex" with
          | none => rfl
          | some value => cases value <;> rfl
        | _ => rfl
    | _ => rfl

theorem rust_candidate (generation : Option Nat) (field : Option (Json Literal)) :
    decisionOf ofRust (do
      let candidate ← Rust.Gateway.candidate (field.map (Json.mapNumbers Literal.serde))
      return .sendIceCandidate candidate generation) =
    candidateBy .endOfCandidates (given rustRaw rustRaw) field := by
  cases field with
  | none => rfl
  | some value =>
    cases value with
    | obj record =>
      simp only [Option.map_some, obj_inDomain, Rust.Gateway.candidate, Json.isNull,
        Bool.false_eq_true, if_false, Json.object?, get?_inDomain, str?_field, candidateBy]
      cases Members.get? record "candidate" with
      | none => rfl
      | some value => cases value <;> rfl
    | _ => rfl

theorem go_candidate (outside : Go.Gateway.Conversion) (generation : Option Nat)
    (field : Option (Json Literal)) :
    decisionOf ofGo (do
      let candidate ← Go.Gateway.parseCandidate outside (field.map (Json.mapNumbers finite))
      return .sendIceCandidate candidate generation) =
    candidateBy .endOfCandidates (given givenText (goIndex outside)) field := by
  cases field with
  | none => rfl
  | some value =>
    cases value with
    | obj record =>
      simp only [Option.map_some, obj_inDomain, Go.Gateway.parseCandidate, Json.isNull,
        Bool.false_eq_true, if_false, Json.object?, get?_inDomain, str?_field, candidateBy]
      cases Members.get? record "candidate" with
      | none => rfl
      | some value =>
        cases value with
        | str candidate =>
          simp only [Option.bind_some, Json.str?, given, givenText, goIndex]
          cases Members.get? record "sdpMLineIndex" with
          | none => rfl
          | some value =>
            cases value with
            | num l =>
              simp only [Option.map_some, Json.mapNumbers, Option.bind_some, Json.num?]
              split <;> rfl
            | _ => rfl
        | _ => rfl
    | _ => rfl

theorem python_candidate (generation : Option Nat) (field : Option (Json Literal)) :
    decisionOf ofPython (do
      let candidate ← Python.Gateway.candidate (field.map (Json.mapNumbers Literal.python))
      return .sendIceCandidate candidate generation) =
    candidateBy .endOfCandidates (given givenText pythonIndex) field := by
  cases field with
  | none => rfl
  | some value =>
    cases value with
    | obj record =>
      simp only [Option.map_some, obj_inDomain, Python.Gateway.candidate, Json.isNull,
        Bool.false_eq_true, if_false, Json.object?, Option.bind_some, get?_inDomain, candidateBy]
      cases Members.get? record "candidate" with
      | none => rfl
      | some value =>
        cases value with
        | str candidate =>
          simp only [Option.map_some, Json.mapNumbers, get?_inDomain, str?_field, given, givenText,
            pythonIndex]
          cases Members.get? record "sdpMLineIndex" with
          | none => rfl
          | some value =>
            cases value with
            | num l => cases l <;> rfl
            | _ => rfl
        | _ => rfl
    | _ => rfl

/-! ## Fields that all forward alike -/

/-- A text that every gateway forwards as it is given, or as null. -/
inductive PlainText : Option (Json Literal) → Prop
  | absent : PlainText none
  | null : PlainText (some .null)
  | text (s : String) : PlainText (some (.str s))

/-- An index that every gateway forwards as it is given, or as null. -/
inductive PlainIndex : Option (Json Literal) → Prop
  | absent : PlainIndex none
  | null : PlainIndex (some .null)
  | negativeZero : PlainIndex (some (.num .negativeZero))
  | index (n : Nat) (fits : n < 2 ^ 32) : PlainIndex (some (.num (.int n)))

theorem text_alike (field : Option (Json Literal)) :
    rustRaw field = givenText field ↔ PlainText field := by
  constructor
  · intro same
    cases field with
    | none => exact .absent
    | some value =>
      cases value with
      | null => exact .null
      | str s => exact .text s
      | _ => cases same
  · intro plain
    cases plain <;> rfl

/-- A small integer is exact as a double. -/
theorem double_index (outside : Go.Gateway.Conversion) {n : Nat} (fits : n < 2 ^ 32) :
    ∃ x, (Literal.int n).double = .finite x ∧ x.toRat = n ∧ x.ltInt 0 = false ∧
      Go.Gateway.uint32 outside x = n := by
  rcases ofInt_cases n with ⟨_, x, found, value, one⟩ | ⟨wide, _⟩
  · refine ⟨x, found, ?_, ?_, ?_⟩
    · rw [Finite64.toRat, value, one]
      simp
    · simp [Finite64.ltInt, value]
    · have whole : x.trunc = n := by rw [Finite64.trunc, value, one, Int.tdiv_one]
      rw [Go.Gateway.uint32, whole, Int.toNat_natCast, if_pos (by omega)]
  · omega

theorem index_alike (outside : Go.Gateway.Conversion) (field : Option (Json Literal)) :
    (typescriptIndex field = givenNumber field ∧ rustRaw field = givenNumber field ∧
      goIndex outside field = givenNumber field ∧ pythonIndex field = givenNumber field) ↔
    PlainIndex field := by
  constructor
  · rintro ⟨_, rust, go, python⟩
    cases field with
    | none => exact .absent
    | some value =>
      cases value with
      | null => exact .null
      | num l =>
        cases l with
        | int n =>
          -- Whatever it is given, Go forwards an integer below 2 ^ 32.
          by_cases past : (finite (.int n)).ltInt 0
          · have null : goIndex outside (some (.num (.int n))) = .null := by
              simp [goIndex, Json.num?, past, Field.number]
            rw [null] at go
            cases go
          · have forwarded : goIndex outside (some (.num (.int n))) =
                .num (some (Go.Gateway.uint32 outside (finite (.int n)) : ℚ)) := by
              simp [goIndex, Json.num?, past, Field.number]
            rw [forwarded] at go
            have number : (.num (some (Go.Gateway.uint32 outside (finite (.int n)) : ℚ)) : Field) =
                .num (some (n : ℚ)) := go
            simp only [Json.num.injEq, Option.some.injEq] at number
            have whole : (Go.Gateway.uint32 outside (finite (.int n)) : Int) = n := by exact_mod_cast number
            rw [← whole]
            exact .index _ Go.Gateway.uint32_lt
        -- Every language has it for zero.
        | negativeZero => exact .negativeZero
        | float x => cases python
        | overflow negative => cases python
      | _ => cases rust
  · intro plain
    cases plain with
    | absent => exact ⟨rfl, rfl, rfl, rfl⟩
    | null => exact ⟨rfl, rfl, rfl, rfl⟩
    | negativeZero =>
      have zero : (Finite64.zero true).toRat = 0 := by
        simp [Finite64.toRat, Finite64.zero, Finite64.scaled, Finite64.signed]
      have serde : Literal.negativeZero.serde = .float (.zero true) := rfl
      have double : Literal.negativeZero.double = .finite (.zero true) := rfl
      refine ⟨?_, ?_, ?_, rfl⟩
      · simp [typescriptIndex, givenNumber, Json.num?, double, Binary64.toRat?, Binary64.finite?,
          zero, Literal.toRat?]
      · simp [rustRaw, givenNumber, Json.mapNumbers, Json.num?, serde, SerdeNumber.toRat, zero,
          Literal.toRat?, Field.number]
      · have positive : (finite .negativeZero).ltInt 0 = false := rfl
        have uint32 : Go.Gateway.uint32 outside (finite .negativeZero) = 0 := rfl
        simp [goIndex, givenNumber, Json.num?, positive, uint32, Literal.toRat?]
    | index n fits =>
      obtain ⟨x, found, value, positive, uint32⟩ := double_index outside fits
      have decoded : finite (.int n) = x := by simp [finite, found, Binary64.finite?]
      -- An index is a `u64` for serde.
      have natural : ∃ wide, Literal.serde (.int n) = .posInt n wide := by
        have inside : 0 ≤ (n : Int) ∧ (n : Int) < 2 ^ 64 := by omega
        refine ⟨by omega, ?_⟩
        simp only [Literal.serde]
        rw [dif_pos inside]
        simp only [Int.toNat_natCast]
      obtain ⟨wide, serde⟩ := natural
      refine ⟨?_, ?_, ?_, rfl⟩
      · simp [typescriptIndex, givenNumber, Json.num?, found, Binary64.toRat?, Binary64.finite?,
          value, Literal.toRat?]
      · simp [rustRaw, givenNumber, Json.mapNumbers, Json.num?, serde, SerdeNumber.toRat,
          Literal.toRat?, Field.number]
      · simp [goIndex, givenNumber, Json.num?, decoded, positive, uint32, Literal.toRat?]

/-! ## Agreement -/

/-- No integer is seen in the generation, or a generation is required and missing. -/
def noGeneration (integer? : Literal → Option Nat) (data : Members Literal) (required : Bool) :
    Bool :=
  match data.get? "generation" with
  | none => required
  | some value => (value.num?.bind integer?).isNone

theorem generationBy_refuses {integer? : Literal → Option Nat} {data : Members Literal}
    {required : Bool} (refused : noGeneration integer? data required = true) (command : String) :
    ∃ e, generationBy integer? data command required = .error e := by
  unfold noGeneration at refused
  unfold generationBy
  split
  next absent =>
    rw [absent] at refused
    exact ⟨_, if_pos refused⟩
  next value present =>
    rw [present] at refused
    rw [Option.isNone_iff_eq_none.mp refused]
    exact ⟨_, rfl⟩

theorem generationBy_accepts {integer? : Literal → Option Nat} {data : Members Literal}
    {required : Bool} (found : noGeneration integer? data required = false) (command : String) :
    ∃ g, generationBy integer? data command required = .ok g := by
  unfold noGeneration at found
  unfold generationBy
  split
  next absent =>
    rw [absent] at found
    exact ⟨none, if_neg (by simp [found])⟩
  next value present =>
    rw [present] at found
    obtain ⟨n, seen⟩ := Option.isSome_iff_exists.mp (Option.isNone_eq_false_iff.mp found)
    rw [seen]
    exact ⟨some n, rfl⟩

/-- A frame without its generation is rejected; otherwise the candidate decides. -/
theorem decision_generation (forwarded : κ → Forwarded) {integer? : Literal → Option Nat}
    {data : Members Literal} {command : String} {required : Bool} {decision : Decision}
    {rest : Option Nat → Except CommandError (SessionCall κ)}
    (after : ∀ g, decisionOf forwarded (rest g) = decision) :
    decisionOf forwarded (generationBy integer? data command required >>= rest) =
      if noGeneration integer? data required then .reject else decision := by
  cases known : noGeneration integer? data required with
  | true =>
    obtain ⟨e, refused⟩ := generationBy_refuses known command
    rw [refused]
    rfl
  | false =>
    obtain ⟨g, found⟩ := generationBy_accepts known command
    rw [found]
    exact after g

theorem command_candidate {ρ : Type} (d : Dialect ρ ν κ) (required : Bool) (id : String)
    (data : Members ν) : d.command required ⟨id, Negotiation.candidate.type, data⟩ = do
      let generation ← d.generation data "rtc.ice_candidate" required
      let candidate ← d.candidate (data.get? "candidate")
      return .sendIceCandidate candidate generation := by
  simp [Dialect.command, Negotiation.type]

/-- A candidate that is neither null nor an object with a text. -/
def Unusable (value : Json Literal) : Prop :=
  value.isNull = false ∧ (value.object?.bind (·.get? "candidate")).bind Json.str? = none

/-- A candidate that all gateways normalise alike. -/
inductive Plain : Json Literal → Prop
  | null : Plain .null
  | object (record : Members Literal) (candidate : String)
      (named : record.get? "candidate" = some (.str candidate))
      (mid : PlainText (record.get? "sdpMid")) (line : PlainIndex (record.get? "sdpMLineIndex"))
      (fragment : PlainText (record.get? "usernameFragment")) : Plain (.obj record)

/-- The frames that the gateways decide alike. They all reject an unusable candidate, and a
generation that JavaScript and Go find wrong. They all take a plain candidate with a generation
that Rust and Python find right, when the numbers are in range. -/
def DecidedAlike (data : Members Literal) (required : Bool) : Prop :=
  (∃ value, data.get? "candidate" = some value ∧ Unusable value) ∨
  noGeneration valued data required ∨
  -- TypeScript misses the candidate, Python the generation, and the others a number.
  (data.get? "candidate" = none ∧ noGeneration spelled data required ∧ ¬InRange data) ∨
  (InRange data ∧ noGeneration spelled data required = false ∧
    ∃ value, data.get? "candidate" = some value ∧ Plain value)

section Decisions

variable (outside : Go.Gateway.Conversion) (id : FrameId) (data : Members Literal)
  (required : Bool)

theorem typescript_decision (id : String) :
    decisionOf ofTypescript (TypeScript.Gateway.dialect.command required
      ⟨id, Negotiation.candidate.type, inDomain Literal.double data⟩) =
    if noGeneration valued data required then .reject
    else candidateBy .reject (given givenText typescriptIndex) (data.get? "candidate") := by
  have generation : TypeScript.Gateway.dialect.generation (inDomain Literal.double data)
      "rtc.ice_candidate" required = generationBy valued data "rtc.ice_candidate" required :=
    typescript_generation data _ required
  rw [command_candidate, get?_inDomain, generation]
  exact decision_generation ofTypescript fun g => typescript_candidate g _

theorem rust_decision (id : String) :
    decisionOf ofRust (Rust.Gateway.dialect.command required
      ⟨id, Negotiation.candidate.type, inDomain Literal.serde data⟩) =
    if noGeneration spelled data required then .reject
    else candidateBy .endOfCandidates (given rustRaw rustRaw) (data.get? "candidate") := by
  have generation : Rust.Gateway.dialect.generation (inDomain Literal.serde data)
      "rtc.ice_candidate" required = generationBy spelled data "rtc.ice_candidate" required :=
    rust_generation data _ required
  rw [command_candidate, get?_inDomain, generation]
  exact decision_generation ofRust fun g => rust_candidate g _

theorem go_decision :
    decisionOf ofGo (Go.Gateway.handleCandidate outside required (inDomain finite data)) =
    if noGeneration valued data required then .reject
    else candidateBy .endOfCandidates (given givenText (goIndex outside)) (data.get? "candidate") := by
  rw [Go.Gateway.handleCandidate, get?_inDomain, go_generation]
  exact decision_generation ofGo fun g => go_candidate outside g _

theorem python_decision (id : String) :
    decisionOf ofPython (Python.Gateway.dialect.command required
      ⟨id, Negotiation.candidate.type, inDomain Literal.python data⟩) =
    if noGeneration spelled data required then .reject
    else candidateBy .endOfCandidates (given givenText pythonIndex) (data.get? "candidate") := by
  have generation : Python.Gateway.dialect.generation (inDomain Literal.python data)
      "rtc.ice_candidate" required = generationBy spelled data "rtc.ice_candidate" required :=
    python_generation data _ required
  rw [command_candidate, get?_inDomain, generation]
  exact decision_generation ofPython fun g => python_candidate g _

theorem decisions_eq : decisions outside id data required =
    { typescript := if noGeneration valued data required then .reject
        else candidateBy .reject (given givenText typescriptIndex) (data.get? "candidate")
      rust := if InRange data then
          if noGeneration spelled data required then .reject
          else candidateBy .endOfCandidates (given rustRaw rustRaw) (data.get? "candidate")
        else .reject
      go := if InRange data then
          if noGeneration valued data required then .reject
          else candidateBy .endOfCandidates (given givenText (goIndex outside)) (data.get? "candidate")
        else .reject
      python := if noGeneration spelled data required then .reject
        else candidateBy .endOfCandidates (given givenText pythonIndex)
          (data.get? "candidate") } := by
  unfold decisions
  rw [typescript_parses, rust_parses, go_parses, python_parses]
  by_cases ranged : InRange data
  · simp only [if_pos ranged, bind, Except.bind, typescript_decision, rust_decision, go_decision,
      python_decision]
  · simp only [if_neg ranged, bind, Except.bind, typescript_decision, python_decision]
    rfl

theorem noGeneration_weaker (refused : noGeneration valued data required = true) :
    noGeneration spelled data required = true := by
  unfold noGeneration at *
  split
  next absent =>
    rw [absent] at refused
    exact refused
  next value present =>
    rw [present] at refused
    simp only [Option.isNone_iff_eq_none] at refused ⊢
    cases value with
    | num l =>
      cases l with
      | int n => exact (valued_int n).symm.trans refused
      | _ => rfl
    | _ => rfl

/-- A candidate is one of three kinds. -/
theorem usable_cases (value : Json Literal) : Unusable value ∨ value = .null ∨
    ∃ (record : Members Literal) (candidate : String),
      value = .obj record ∧ record.get? "candidate" = some (.str candidate) := by
  cases value with
  | null => exact .inr (.inl rfl)
  | obj record =>
    cases found : Members.get? record "candidate" with
    | none => exact .inl ⟨rfl, by simp [Json.object?, found]⟩
    | some member =>
      cases member with
      | str candidate => exact .inr (.inr ⟨record, candidate, rfl, found⟩)
      | _ => exact .inl ⟨rfl, by simp [Json.object?, found, Json.str?]⟩
  | _ => exact .inl ⟨rfl, rfl⟩

theorem unusable_rejected {value : Json Literal} (unusable : Unusable value) (missing : Decision)
    (forwarded : String → Members Literal → Forwarded) :
    candidateBy missing forwarded (some value) = .reject := by
  obtain ⟨present, nameless⟩ := unusable
  cases value with
  | null => cases present
  | obj record =>
    simp only [Json.object?, Option.bind_some] at nameless
    simp only [candidateBy]
    split
    next candidate found => simp [found, Json.str?] at nameless
    · rfl
  | _ => rfl

/-- The gateways forward a candidate with a text as it is given when its fields are plain. -/
theorem plain_iff_given (candidate : String) (record : Members Literal) :
    (given givenText typescriptIndex candidate record = normalised candidate record ∧
      given rustRaw rustRaw candidate record = normalised candidate record ∧
      given givenText (goIndex outside) candidate record = normalised candidate record ∧
      given givenText pythonIndex candidate record = normalised candidate record) ↔
    PlainText (record.get? "sdpMid") ∧ PlainIndex (record.get? "sdpMLineIndex") ∧
      PlainText (record.get? "usernameFragment") := by
  rw [← text_alike, ← index_alike outside, ← text_alike]
  simp only [normalised_eq, given, Forwarded.mk.injEq, true_and, and_true]
  constructor
  · rintro ⟨typescript, ⟨mid, rust, fragment⟩, go, python⟩
    exact ⟨mid, ⟨typescript, rust, go, python⟩, fragment⟩
  · rintro ⟨mid, ⟨typescript, rust, go, python⟩, fragment⟩
    exact ⟨typescript, ⟨mid, rust, fragment⟩, go, python⟩

theorem plain_object {candidate : String} {record : Members Literal}
    (named : record.get? "candidate" = some (.str candidate)) :
    Plain (.obj record) ↔ PlainText (record.get? "sdpMid") ∧
      PlainIndex (record.get? "sdpMLineIndex") ∧ PlainText (record.get? "usernameFragment") := by
  constructor
  · rintro (_ | ⟨_, _, _, mid, line, fragment⟩)
    exact ⟨mid, line, fragment⟩
  · rintro ⟨mid, line, fragment⟩
    exact .object record candidate named mid line fragment

theorem named_usable {candidate : String} {record : Members Literal}
    (named : record.get? "candidate" = some (.str candidate)) : ¬Unusable (.obj record) := by
  rintro ⟨_, nameless⟩
  simp [Json.object?, named, Json.str?] at nameless

theorem named_forwarded {candidate : String} {record : Members Literal}
    (named : record.get? "candidate" = some (.str candidate)) (missing : Decision)
    (forwarded : String → Members Literal → Forwarded) :
    candidateBy missing forwarded (some (.obj record)) = .forward (forwarded candidate record) := by
  simp only [candidateBy, named]

/-- The gateways make the same decision on a frame, and forward the same candidate, exactly when
the frame is one that they decide alike. -/
theorem decisions_agree_iff :
    SameDecision data (decisions outside id data required) ↔ DecidedAlike data required := by
  have weaker := noGeneration_weaker data required
  rw [decisions_eq]
  unfold DecidedAlike SameDecision Gateways.All
  cases found : data.get? "candidate" with
  | none =>
    cases double : noGeneration valued data required <;>
      cases integer : noGeneration spelled data required <;>
      by_cases ranged : InRange data <;> simp_all [candidateBy]
  | some value =>
    -- A candidate is unusable, null, or a record with the name that is forwarded.
    rcases usable_cases value with unusable | rfl | ⟨record, candidate, rfl, named⟩
    · simp [unusable_rejected unusable, unusable]
    · have usable : ¬Unusable .null := fun unusable => by cases unusable.1
      cases double : noGeneration valued data required <;>
        cases integer : noGeneration spelled data required <;>
        by_cases ranged : InRange data <;> simp_all [candidateBy, Plain.null]
    · simp only [named_forwarded named]
      cases double : noGeneration valued data required with
      | true => simp [weaker double]
      | false =>
        have usable := named_usable named
        cases integer : noGeneration spelled data required with
        | true => simp [usable]
        | false =>
          by_cases ranged : InRange data
          · simp only [ranged, if_true, Bool.false_eq_true, if_false, Decision.forward.injEq,
              reduceCtorEq, false_and, and_false, false_or, Option.some.injEq, exists_eq_left',
              usable, true_and, plain_object named, ← plain_iff_given outside candidate]
            constructor
            · rintro ⟨record', candidate', same, named', forwarded⟩
              cases same
              cases named.symm.trans named'
              exact forwarded
            · exact fun forwarded => ⟨record, candidate, rfl, named, forwarded⟩
          · simp [ranged, usable]

end Decisions

/-- A candidate with the index -1. -/
def negativeIndex : Members Literal :=
  [("candidate", .obj [("candidate", .str ""), ("sdpMLineIndex", .num (.int (-1)))])]

/-- Only TypeScript rejects a frame without a candidate, and only Go drops an index of -1. -/
theorem decisions_differ :
    ((decisions Go.Gateway.amd64 .first [] false).typescript = .reject ∧
      (decisions Go.Gateway.amd64 .first [] false).rust = .endOfCandidates ∧
      ¬SameDecision [] (decisions Go.Gateway.amd64 .first [] false)) ∧
    ((decisions Go.Gateway.amd64 .first negativeIndex false).go = .forward ⟨"", .null, .null, .null⟩ ∧
      (decisions Go.Gateway.amd64 .first negativeIndex false).python =
        .forward ⟨"", .null, .num (some (-1 : Int)), .null⟩ ∧
      ¬SameDecision negativeIndex (decisions Go.Gateway.amd64 .first negativeIndex false)) := by
  have typescript : (decisions Go.Gateway.amd64 .first [] false).typescript = .reject := by
    rw [decisions_eq]
    rfl
  have rust : (decisions Go.Gateway.amd64 .first [] false).rust = .endOfCandidates := by
    rw [decisions_eq]
    rfl
  have go : (decisions Go.Gateway.amd64 .first negativeIndex false).go = .forward ⟨"", .null, .null, .null⟩ := by
    rw [decisions_eq]
    rfl
  have python : (decisions Go.Gateway.amd64 .first negativeIndex false).python =
      .forward ⟨"", .null, .num (some (-1 : Int)), .null⟩ := by
    rw [decisions_eq]
    rfl
  refine ⟨⟨typescript, rust, ?_⟩, go, python, ?_⟩
  · simp [SameDecision, Gateways.All, typescript, rust]
  · rintro (⟨_, _, rejected, _⟩ | ⟨_, _, ended, _⟩ | ⟨_, _, _, _, _, _, first, second⟩)
    · cases go.symm.trans rejected
    · cases go.symm.trans ended
    · cases go.symm.trans (first.trans (second.symm.trans python))

end VoxRtc.Gateway
