import VoxRtc.Browser.Signaling
import VoxRtc.Gateway.Candidates
import VoxRtc.Elixir.Gateway.Socket

/-!
# The frames of the signaling client as texts

What `JSON.stringify` makes of a frame of `GatewaySignalingClient`, and the message that each
gateway takes the text for.
-/
namespace VoxRtc.Browser

open Wire VoxRtc.Gateway

/-- How numbers are written: they keep their value, and a counter is written in digits. -/
structure Printer where
  digits : Finite64 → Literal
  value : ∀ x, ∃ y, (digits x).double = .finite y ∧ y.toRat = x.toRat
  counter : ∀ n (small : n < 2 ^ 53),
    digits ⟨false, n, 0, small, Finite64.ranged_zero⟩ = .int n

/-- `JSON.stringify`; a number that is not finite becomes `null`. -/
def stringify (printer : Printer) : Json Binary64 → Json Literal
  | .null => .null
  | .bool b => .bool b
  | .num (.finite x) => .num (printer.digits x)
  | .num _ => .null
  | .str s => .str s
  | .arr items => .arr (ofItems items)
  | .obj members => .obj (ofMembers members)
where
  ofItems : List (Json Binary64) → List (Json Literal)
    | [] => []
    | item :: items => stringify printer item :: ofItems items
  ofMembers : Members Binary64 → Members Literal
    | [] => []
    | (key, value) :: members => (key, stringify printer value) :: ofMembers members

def printed (printer : Printer) (members : Members Binary64) : Members Literal :=
  members.map fun member => (member.1, stringify printer member.2)

def Outgoing.text (printer : Printer) (f : Outgoing) : Json Literal := stringify printer f.render

/-- The message of a frame, with its numbers as a language decodes them. -/
def Outgoing.message {ν : Type} (printer : Printer) (number : Literal → ν) (f : Outgoing) :
    ClientMessage ν :=
  ⟨f.id, f.command.type, inDomain number (printed printer f.data)⟩

/-- A number as `Jason.decode/1` yields it; a number that is too large raises. -/
def jasonNumber : Literal → Elixir.Number
  | .int n => .int n
  | .negativeZero => .int 0
  | .float x => .float x
  | .overflow negative => .float (.largest negative)

/-- Libraries for which a text is read as a value. -/
def reading (lib : Elixir.Libraries) (value : Json Elixir.Number) : Elixir.Libraries :=
  { lib with decode := fun _ => .ok value }

section Printing

variable {printer : Printer} {members : Members Binary64}

theorem stringify_items (items : List (Json Binary64)) :
    stringify.ofItems printer items = items.map (stringify printer) := by
  induction items with
  | nil => rw [stringify.ofItems, List.map_nil]
  | cons item items ih => rw [stringify.ofItems, ih, List.map_cons]

theorem stringify_members : stringify.ofMembers printer members = printed printer members := by
  induction members with
  | nil => rw [stringify.ofMembers, printed, List.map_nil]
  | cons member members ih => rw [stringify.ofMembers, ih, printed, printed, List.map_cons]

theorem stringify_obj : stringify printer (.obj members) = .obj (printed printer members) := by
  rw [stringify, stringify_members]

theorem get?_printed (key : String) :
    (printed printer members).get? key = (members.get? key).map (stringify printer) := by
  simp only [Members.get?, printed, ← List.map_reverse, List.find?_map, Option.map_map]
  rfl

theorem allNumbers_items (p : Literal → Bool) (items : List (Json Literal)) :
    Json.allNumbers.ofItems p items = items.all (Json.allNumbers p) := by
  induction items with
  | nil => rw [Json.allNumbers.ofItems, List.all_nil]
  | cons item items ih => rw [Json.allNumbers.ofItems, ih, List.all_cons]

theorem allNumbers_members (p : Literal → Bool) (members : Members Literal) :
    Json.allNumbers.ofMembers p members = members.all fun member => member.2.allNumbers p := by
  induction members with
  | nil => rw [Json.allNumbers.ofMembers, List.all_nil]
  | cons member members ih => rw [Json.allNumbers.ofMembers, ih, List.all_cons]

/-- No number of a text is out of range, since each stands for a double. -/
theorem stringify_inRange (value : Json Binary64) :
    (stringify printer value).allNumbers Literal.inRange = true := by
  induction value using Json.inside with
  | null | bool | str => rfl
  | num n =>
    cases n with
    | finite x =>
      obtain ⟨y, double, _⟩ := printer.value x
      rw [stringify, Json.allNumbers, Literal.inRange, double]
      rfl
    | infinity | nan => rfl
  | arr items ih =>
    rw [stringify, stringify_items, Json.allNumbers, allNumbers_items, List.all_map]
    exact List.all_eq_true.mpr ih
  | obj members ih =>
    rw [stringify_obj, Json.allNumbers, allNumbers_members, printed, List.all_map]
    exact List.all_eq_true.mpr ih

end Printing

/-! ## The message of a text -/

section Messages

variable {ν : Type} {printer : Printer} {f : Outgoing}

theorem text_eq : f.text printer = .obj [("id", .str f.id), ("type", .str f.command.type),
    ("data", .obj (printed printer f.data))] := by
  rw [Outgoing.text, Outgoing.render, stringify_obj]
  simp [printed, stringify, stringify_members]

theorem text_domain (number : Literal → ν) : (f.text printer).mapNumbers number =
    .obj [("id", .str f.id), ("type", .str f.command.type),
      ("data", .obj (inDomain number (printed printer f.data)))] := by
  rw [text_eq]
  simp [Json.mapNumbers, Json.mapNumbers.ofMembers, Json.ofMembers_eq, inDomain]

theorem text_inRange : (f.text printer).allNumbers Literal.inRange = true :=
  stringify_inRange f.render

/-- An id of the client begins with a letter and ends with a digit. -/
theorem trim_solid (space : Char → Bool) (o : space 'o' = false) (c : space 'c' = false)
    (digits : ∀ d : Char, d.isDigit = true → space d = false) : trimWith space f.id = f.id := by
  apply trimWith_eq
  · intro first head
    rw [Outgoing.id, frameId_toList] at head
    cases command : f.command <;> rw [command] at head <;> cases head <;> assumption
  · intro last tail
    rw [Outgoing.id, frameId_toList, List.getLast?_append_cons] at tail
    have nonempty : Nat.toDigits 10 f.number ≠ [] := Nat.toDigits_ne_nil
    rw [List.getLast?_cons_of_ne_nil nonempty] at tail
    have member := List.mem_of_getLast? tail
    exact digits last (Nat.isDigit_of_mem_toDigits (by decide) (by decide) member)

theorem trim_type (space : Char → Bool) (r : space 'r' = false) (e : space 'e' = false) :
    trimWith space f.command.type = f.command.type := by
  apply trimWith_eq
  · intro first head
    cases command : f.command <;> rw [command] at head <;> cases head <;> exact r
  · intro last tail
    cases command : f.command <;> rw [command] at tail <;> cases tail <;> assumption

theorem digit_solid {d : Char} (digit : d.isDigit = true) :
    whiteSpace d = false ∧ ecmaSpace d = false ∧ pythonSpace d = false := by
  simp only [Char.isDigit, ge_iff_le, Bool.and_eq_true, decide_eq_true_eq, UInt32.le_iff_toNat_le]
    at digit
  obtain ⟨low, high⟩ := digit
  have least : 48 ≤ d.toNat := low
  have most : d.toNat ≤ 57 := high
  have white : whiteSpace d = false := by
    simp only [whiteSpace, Bool.or_eq_false_iff, Bool.and_eq_false_iff, beq_eq_false_iff_ne,
      decide_eq_false_iff_not]
    omega
  refine ⟨white, ?_, ?_⟩
  · simp only [ecmaSpace, white, Bool.false_and, Bool.or_false, beq_eq_false_iff_ne]
    omega
  · simp only [pythonSpace, white, Bool.or_false, Bool.and_eq_false_iff, decide_eq_false_iff_not]
    omega

theorem id_named : f.id ≠ "" := by
  intro empty
  have chars := congrArg String.toList empty
  rw [Outgoing.id, frameId_toList] at chars
  simp at chars

theorem type_named : f.command.type ≠ "" := by
  cases f.command <;> decide

/-- A header that no trimming changes. -/
theorem trimmed_message (number : Literal → ν) {id type : String} (sameId : id = f.id)
    (sameType : type = f.command.type) :
    clientMessage id type (some (inDomain number (printed printer f.data))) =
      .ok (f.message printer number) := by
  rw [sameId, sameType]
  exact clientMessage_written id_named type_named

theorem typescript_takes :
    TypeScript.Gateway.parseClientMessage (jsonParse (f.text printer)) =
      .ok (f.message printer Literal.double) := by
  obtain ⟨idMember, typeMember, dataMember⟩ := frame_members (.str f.id) (.str f.command.type)
    (.obj (inDomain Literal.double (printed printer f.data)))
  simp only [jsonParse, text_domain, TypeScript.Gateway.parseClientMessage, Json.object?, idMember,
    typeMember, dataMember, TypeScript.Gateway.trimmed, Option.bind_some, Json.str?,
    Option.map_some, Option.getD_some]
  exact trimmed_message _ (trim_solid ecmaSpace rfl rfl fun d digit => (digit_solid digit).2.1)
    (trim_type ecmaSpace rfl rfl)

theorem rust_takes : Rust.Gateway.parseMessage (fromStr (f.text printer)) =
    .ok (f.message printer Literal.serde) := by
  obtain ⟨idMember, typeMember, dataMember⟩ := frame_members (.str f.id) (.str f.command.type)
    (.obj (inDomain Literal.serde (printed printer f.data)))
  simp only [fromStr, text_inRange, if_true, text_domain, Rust.Gateway.parseMessage, Json.object?,
    idMember, typeMember, dataMember, Rust.Gateway.trimmed, Option.bind_some, Json.str?,
    Option.map_some, Option.getD_some]
  exact trimmed_message _ (trim_solid whiteSpace rfl rfl fun d digit => (digit_solid digit).1)
    (trim_type whiteSpace rfl rfl)

theorem go_takes : Go.Gateway.parseMessage (decoded (f.text printer)) =
    .ok (f.message printer finite) := by
  simp only [decoded, text_inRange, if_true, text_domain, Go.Gateway.parseMessage,
    unmarshal_members]
  exact trimmed_message _ (trim_solid whiteSpace rfl rfl fun d digit => (digit_solid digit).1)
    (trim_type whiteSpace rfl rfl)

theorem python_takes : Python.Gateway.parseText (loads (f.text printer)) =
    .ok (f.message printer Literal.python) := by
  obtain ⟨idMember, typeMember, dataMember⟩ := frame_members (.str f.id) (.str f.command.type)
    (.obj (inDomain Literal.python (printed printer f.data)))
  simp only [loads, text_domain, Python.Gateway.parseText, Json.object?, idMember, typeMember,
    dataMember, Python.Gateway.stripped, Option.bind_some, Json.str?, Option.map_some,
    Option.getD_some]
  exact trimmed_message _ (trim_solid pythonSpace rfl rfl fun d digit => (digit_solid digit).2.2)
    (trim_type pythonSpace rfl rfl)

theorem elixir_takes (lib : Elixir.Libraries) (payload : String) :
    Elixir.Gateway.parseMessage (reading lib ((f.text printer).mapNumbers jasonNumber)) payload =
      .ok (f.message printer jasonNumber) := by
  obtain ⟨idMember, typeMember, dataMember⟩ := frame_members (.str f.id) (.str f.command.type)
    (.obj (inDomain jasonNumber (printed printer f.data)))
  have id : Elixir.Gateway.trim f.id = f.id :=
    trim_solid whiteSpace rfl rfl fun d digit => (digit_solid digit).1
  have type : Elixir.Gateway.trim f.command.type = f.command.type := trim_type whiteSpace rfl rfl
  simp only [Elixir.Gateway.parseMessage, reading, text_domain, Json.object?, Option.getD_some,
    idMember, typeMember, dataMember, Option.bind_some, Json.str?]
  rw [if_neg (not_or.mpr ⟨id_named, type_named⟩), id, type]
  rfl

end Messages

/-! ## What a frame asks for -/

/-- What a call on a control session is to do. -/
inductive Meaning where
  | offer (sdp : String) (restart : Bool) (generation : Option Nat)
  | candidate (candidate : Option Forwarded) (generation : Option Nat)
  | close (reason : String)

def meaningOf {κ : Type} (forwarded : κ → Forwarded) : SessionCall κ → Meaning
  | .sendOffer sdp restart generation => .offer sdp restart generation
  | .sendIceCandidate candidate generation => .candidate (candidate.map forwarded) generation
  | .closeRtc reason => .close reason

def ofElixir (c : Elixir.IceCandidate) : Forwarded :=
  ⟨c.candidate, .text c.sdpMid, .number (c.sdpMLineIndex.map fun (n : Nat) => some (n : ℚ)),
    .text c.usernameFragment⟩

/-- `CloseRTC`. -/
def goClose (reason : String) : String :=
  if Go.Gateway.trimSpace reason = "" then "client_closed" else reason

/-- `handleMessage` of the Go gateway, when no offer is pending. -/
def goMeaning (outside : Go.Gateway.Conversion) (generatedOffer : Bool)
    (message : ClientMessage Finite64) :
    Except CommandError Meaning :=
  if message.type = "rtc.offer" then do
    let offer ← Go.Gateway.parseOffer message.data
    Go.Gateway.sendOffer offer
    return .offer offer.sdp offer.restart offer.generation
  else if message.type = "rtc.ice_candidate" then do
    let call ← Go.Gateway.handleCandidate outside generatedOffer message.data
    return meaningOf ofGo call
  else if message.type = "rtc.close" then
    return .close (goClose (((message.data.get? "reason").bind Json.str?).getD ""))
  else
    let type := message.type
    .error (.plain s!"unsupported RTC gateway message type: {type}")

/-- What each gateway takes a frame for, when no offer is pending. -/
structure Taken where
  typescript : Except CommandError Meaning
  rust : Except CommandError Meaning
  go : Except CommandError Meaning
  python : Except CommandError Meaning
  elixir : Except CommandError Meaning

def Outgoing.taken (printer : Printer) (outside : Go.Gateway.Conversion) (lib : Elixir.Libraries)
    (generatedOffer : Bool) (f : Outgoing) : Taken where
  typescript := do
    let message ← TypeScript.Gateway.parseClientMessage (jsonParse (f.text printer))
    let call ← TypeScript.Gateway.dialect.command generatedOffer message
    return meaningOf ofTypescript call
  rust := do
    let message ← Rust.Gateway.parseMessage (fromStr (f.text printer))
    let call ← Rust.Gateway.dialect.command generatedOffer message
    return meaningOf ofRust call
  go := do
    let message ← Go.Gateway.parseMessage (decoded (f.text printer))
    goMeaning outside generatedOffer message
  python := do
    let message ← Python.Gateway.parseText (loads (f.text printer))
    let call ← Python.Gateway.dialect.command generatedOffer message
    return meaningOf ofPython call
  elixir := do
    let lib := reading lib ((f.text printer).mapNumbers jasonNumber)
    let message ← Elixir.Gateway.parseMessage lib ""
    let call ← Elixir.Gateway.Socket.command { session := 0, generatedOffer := generatedOffer } message
    return meaningOf ofElixir call

/-- The members of a frame that `exchangeOffer` sends. -/
def offerData (offer : Json Binary64) (restart : Bool) (generation : Nat) : Members Binary64 :=
  [("offer", offer), ("restart", .bool restart),
    ("generation", .num (Binary64.ofCount generation))]

def candidateData (candidate : Json Binary64) (generation : Nat) : Members Binary64 :=
  [("candidate", candidate), ("generation", .num (Binary64.ofCount generation))]

/-! ## The generation -/

section Generations

variable {printer : Printer} {data : Members Binary64} {generation : Nat}

/-- The double that a number is written for is the one that is seen in it. -/
theorem valued_digits (x : Finite64) : valued (printer.digits x) = x.safe? := by
  obtain ⟨y, double, same⟩ := printer.value x
  rw [valued, double, Binary64.finite?, Option.bind_some]
  cases known : x.safe? with
  | some n =>
    obtain ⟨low, high, value⟩ := Finite64.safe?_eq_some.mp known
    exact Finite64.safe?_eq_some.mpr ⟨low, high, same.trans value⟩
  | none =>
    cases other : y.safe? with
    | none => rfl
    | some n =>
      obtain ⟨low, high, value⟩ := Finite64.safe?_eq_some.mp other
      rw [Finite64.safe?_eq_some.mpr ⟨low, high, same.symm.trans value⟩] at known
      cases known

/-- What is seen in the digits is seen in the double as well. -/
theorem spelled_valued {l : Literal} {n : Nat} (seen : spelled l = some n) : valued l = some n := by
  cases l with
  | int m => rw [valued_int, seen]
  | negativeZero | float | overflow => cases seen

theorem counter_safe {n : Nat} (seen : valued (printer.digits ⟨false, 2 ^ 52, 1,
    Finite64.bounded_half, by decide⟩) = some n) : False := by
  rw [valued_digits] at seen
  cases seen

theorem generation_written (small : generation < 2 ^ 53)
    (given : data.get? "generation" = some (.num (Binary64.ofCount generation))) :
    (printed printer data).get? "generation" = some (.num (.int generation)) := by
  rw [get?_printed, given, Option.map_some, Binary64.ofCount, dif_pos small, stringify,
    printer.counter generation small]

theorem seen_counter (positive : 1 ≤ generation) (safe : generation ≤ maxSafeInteger) :
    spelled (.int generation) = some generation ∧ valued (.int generation) = some generation := by
  have inside : 1 ≤ (generation : Int) ∧ (generation : Int) ≤ maxSafeInteger := by omega
  have seen : spelled (.int generation) = some generation := by
    rw [spelled, if_pos inside, Int.toNat_natCast]
  exact ⟨seen, spelled_valued seen⟩

/-- A generation that is a safe integer is read as it is. -/
theorem generation_read {integer? : Literal → Option Nat} {command : String} {required : Bool}
    (given : data.get? "generation" = some (.num (Binary64.ofCount generation)))
    (safe : generation ≤ maxSafeInteger)
    (seen : integer? (.int generation) = some generation) :
    generationBy integer? (printed printer data) command required = .ok (some generation) := by
  have small : generation < 2 ^ 53 := by
    have bound : maxSafeInteger = 2 ^ 53 - 1 := rfl
    omega
  rw [generationBy, generation_written small given]
  simp only [Json.num?, Option.bind_some, seen]

/-- A generation that is read is the one that is given. -/
theorem generation_given {integer? : Literal → Option Nat} {command : String} {required : Bool}
    {g : Option Nat} (given : data.get? "generation" = some (.num (Binary64.ofCount generation)))
    (sees : ∀ l n, integer? l = some n → valued l = some n)
    (read : generationBy integer? (printed printer data) command required = .ok g) :
    g = some generation := by
  by_cases small : generation < 2 ^ 53
  · rw [generationBy, generation_written small given] at read
    simp only [Json.num?, Option.bind_some] at read
    split at read
    · cases read
    next n seen =>
      cases read
      have value := sees _ _ seen
      rw [valued_int, spelled] at value
      split at value
      · rw [Int.toNat_natCast] at value
        rw [value]
      · cases value
  · rw [generationBy, get?_printed, given, Option.map_some, Binary64.ofCount, dif_neg small,
      stringify] at read
    simp only [Json.num?, Option.bind_some] at read
    split at read
    · cases read
    next n seen => exact (counter_safe (sees _ _ seen)).elim

/-- Exactly the safe integers are read, each as it is. -/
theorem generation_iff {integer? : Literal → Option Nat} {command : String} {required : Bool}
    {g : Option Nat} (given : data.get? "generation" = some (.num (Binary64.ofCount generation)))
    (positive : 1 ≤ generation) (sees : ∀ l n, integer? l = some n → valued l = some n)
    (counts : ∀ n, integer? (.int n) = spelled (.int n)) :
    generationBy integer? (printed printer data) command required = .ok g ↔
      generation ≤ maxSafeInteger ∧ g = some generation := by
  constructor
  · intro read
    have same := generation_given given sees read
    refine ⟨?_, same⟩
    subst same
    have range : ∀ {l n}, integer? l = some n → 1 ≤ n ∧ n ≤ maxSafeInteger := fun seen =>
      valued_safe (sees _ _ seen)
    rcases generationBy_cases (printed printer data) command required range with
      ⟨message, refused⟩ | absent | ⟨n, _, high, found⟩
    · cases refused.symm.trans read
    · cases absent.symm.trans read
    · cases found.symm.trans read
      exact high
  · rintro ⟨safe, rfl⟩
    exact generation_read given safe ((counts generation).trans (seen_counter positive safe).1)

theorem elixir_generation (data : Members Literal) (command : String) (required : Bool) :
    Elixir.Gateway.generation (inDomain jasonNumber data) command required =
      generationBy spelled data command required := by
  simp only [Elixir.Gateway.generation, generationBy, get?_inDomain]
  cases data.get? "generation" with
  | none => rfl
  | some value =>
    cases value with
    | num l =>
      cases l with
      | int n =>
        simp only [Option.map_some, Json.mapNumbers, jasonNumber, Json.num?, Option.bind_some]
        rcases spelled_cases n with ⟨low, high, kept⟩ | ⟨outside, lost⟩
        · rw [if_pos (by omega), kept]
        · rw [if_neg (by omega), lost]
      | _ => rfl
    | _ => rfl

end Generations

end VoxRtc.Browser
