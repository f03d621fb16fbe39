import VoxRtc.TypeScript.Gateway.Frames
import VoxRtc.Rust.Gateway.Frames
import VoxRtc.Go.Gateway.Frames
import VoxRtc.Python.Gateway.Frames
import VoxRtc.Wire.Literal

/-!
# Negotiation frames as they are written

An `rtc.offer` or `rtc.ice_candidate` frame before its numbers are decoded, and the message
each gateway takes it for. `serde_json` and `encoding/json` fail on a frame with a number
that no double comes close to. How deep a text may nest is left out.
-/
namespace VoxRtc.Gateway

open Wire

variable {ν : Type}

inductive Negotiation where
  | offer
  | candidate
  deriving DecidableEq, Repr

def Negotiation.type : Negotiation → String
  | offer => "rtc.offer"
  | candidate => "rtc.ice_candidate"

/-- An id that no gateway takes for blank. -/
structure FrameId where
  text : String
  named : ∃ c ∈ text.toList, ecmaSpace c = false ∧ pythonSpace c = false

def written (id : FrameId) (negotiation : Negotiation) (data : Members Literal) : Json Literal :=
  .obj [("id", .str id.text), ("type", .str negotiation.type), ("data", .obj data)]

/-- `JSON.parse`. -/
def jsonParse (text : Json Literal) : Option TypeScript.Gateway.Value :=
  some (text.mapNumbers Literal.double)

/-- `serde_json::from_str`. -/
def fromStr (text : Json Literal) : Option Rust.Gateway.Value :=
  if text.allNumbers Literal.inRange then some (text.mapNumbers Literal.serde) else none

/-- The double that a number in range is decoded to. -/
def finite (l : Literal) : Finite64 := l.double.finite?.getD (.zero false)

/-- `encoding/json`. -/
def decoded (text : Json Literal) : Option Go.Gateway.Value :=
  if text.allNumbers Literal.inRange then some (text.mapNumbers finite) else none

/-- `json.loads`. -/
def loads (text : Json Literal) : Option Python.Gateway.Value :=
  some (text.mapNumbers Literal.python)

/-- The data of a frame in the number domain of a gateway. -/
def inDomain (number : Literal → ν) (data : Members Literal) : Members ν :=
  data.map fun member => (member.1, member.2.mapNumbers number)

def InRange (data : Members Literal) : Prop := (Json.obj data).allNumbers Literal.inRange

instance (data : Members Literal) : Decidable (InRange data) :=
  inferInstanceAs (Decidable (_ = true))

/-! ## The messages -/

theorem trimWith_ne_empty {space : Char → Bool} {s : String} {c : Char} (among : c ∈ s.toList)
    (solid : space c = false) : trimWith space s ≠ "" := by
  intro empty
  have nothing : (s.toList.dropWhile space).rdropWhile space = [] := by
    simpa [trimWith] using congrArg String.toList empty
  have blank := List.rdropWhile_eq_nil_iff.mp nothing
  -- The first character that is kept is not white space.
  rw [← List.takeWhile_append_dropWhile (p := space) (l := s.toList), List.mem_append] at among
  rcases among with skipped | kept
  · have white := List.mem_takeWhile_imp skipped
    simp [solid] at white
  · have white := blank c kept
    simp [solid] at white

variable (id : FrameId) (negotiation : Negotiation) (data : Members Literal)

theorem written_domain (number : Literal → ν) : (written id negotiation data).mapNumbers number =
    .obj [("id", .str id.text), ("type", .str negotiation.type),
      ("data", .obj (inDomain number data))] := by
  simp [written, Json.mapNumbers, Json.mapNumbers.ofMembers, Json.ofMembers_eq, inDomain]

theorem written_inRange : (written id negotiation data).allNumbers Literal.inRange ↔ InRange data := by
  simp [written, InRange, Json.allNumbers, Json.allNumbers.ofMembers]

theorem clientMessage_written {id type : String} {data : Members ν} (named : id ≠ "")
    (typed : type ≠ "") : clientMessage id type (some data) = .ok ⟨id, type, data⟩ := by
  simp [clientMessage, named, typed]

theorem ecma_named : TypeScript.Gateway.trim id.text ≠ "" := by
  obtain ⟨c, among, solid, _⟩ := id.named
  exact trimWith_ne_empty among solid

theorem python_named : Python.Gateway.strip id.text ≠ "" := by
  obtain ⟨c, among, _, solid⟩ := id.named
  exact trimWith_ne_empty among solid

theorem unicode_named : trimWith whiteSpace id.text ≠ "" := by
  obtain ⟨c, among, _, solid⟩ := id.named
  simp only [pythonSpace, Bool.or_eq_false_iff] at solid
  exact trimWith_ne_empty among solid.2

/-- The members of a frame. -/
theorem frame_members (id type data : Json ν) :
    Members.get? [("id", id), ("type", type), ("data", data)] "id" = some id ∧
    Members.get? [("id", id), ("type", type), ("data", data)] "type" = some type ∧
    Members.get? [("id", id), ("type", type), ("data", data)] "data" = some data := by
  simp [Members.get?]

/-- Both types begin with an `r`; they end with an `r` and an `e`. -/
theorem type_kept (space : Char → Bool) (r : space 'r' = false) (e : space 'e' = false) :
    trimWith space negotiation.type = negotiation.type := by
  apply trimWith_eq
  · intro c first
    cases negotiation <;> cases first <;> exact r
  · intro c last
    cases negotiation <;> cases last
    · exact r
    · exact e

theorem type_named : negotiation.type ≠ "" := by cases negotiation <;> decide

theorem typescript_parses :
    TypeScript.Gateway.parseClientMessage (jsonParse (written id negotiation data)) =
      .ok ⟨TypeScript.Gateway.trim id.text, negotiation.type, inDomain Literal.double data⟩ := by
  obtain ⟨idMember, typeMember, dataMember⟩ := frame_members (.str id.text)
    (.str negotiation.type) (.obj (inDomain Literal.double data))
  have type : TypeScript.Gateway.trim negotiation.type = negotiation.type :=
    type_kept negotiation ecmaSpace rfl rfl
  simp only [jsonParse, written_domain, TypeScript.Gateway.parseClientMessage, Json.object?,
    idMember, typeMember, dataMember, TypeScript.Gateway.trimmed, Option.bind_some, Json.str?,
    Option.map_some, Option.getD_some, type]
  exact clientMessage_written (ecma_named id) (type_named negotiation)

theorem rust_parses :
    Rust.Gateway.parseMessage (fromStr (written id negotiation data)) =
      if InRange data then
        .ok ⟨Rust.Gateway.trim id.text, negotiation.type, inDomain Literal.serde data⟩
      else .error (.plain "RTC gateway message must be valid JSON") := by
  simp only [fromStr, written_inRange, written_domain]
  by_cases ranged : InRange data
  · obtain ⟨idMember, typeMember, dataMember⟩ := frame_members (.str id.text)
      (.str negotiation.type) (.obj (inDomain Literal.serde data))
    have type : Rust.Gateway.trim negotiation.type = negotiation.type :=
      type_kept negotiation whiteSpace rfl rfl
    simp only [if_pos ranged, Rust.Gateway.parseMessage, Json.object?, idMember, typeMember,
      dataMember, Rust.Gateway.trimmed, Option.bind_some, Json.str?, Option.map_some,
      Option.getD_some, type]
    exact clientMessage_written (unicode_named id) (type_named negotiation)
  · rw [if_neg ranged, if_neg ranged]
    rfl

/-- The members of a frame are unmarshalled in the order of the text. -/
theorem unmarshal_members (id type : String) (data : Go.Gateway.Data) :
    Go.Gateway.unmarshal (some (.obj [("id", .str id), ("type", .str type), ("data", .obj data)])) =
      some ⟨id, type, some data⟩ := by
  have first : Go.Gateway.unmarshalMember ⟨"", "", none⟩ "id" (.str id) = some ⟨id, "", none⟩ := by
    unfold Go.Gateway.unmarshalMember
    rw [if_pos (by decide)]
  have second : Go.Gateway.unmarshalMember ⟨id, "", none⟩ "type" (.str type) =
      some ⟨id, type, none⟩ := by
    unfold Go.Gateway.unmarshalMember
    rw [if_neg (by decide), if_pos (by decide)]
  have third : Go.Gateway.unmarshalMember ⟨id, type, none⟩ "data" (.obj data) =
      some ⟨id, type, some data⟩ := by
    unfold Go.Gateway.unmarshalMember
    rw [if_neg (by decide), if_neg (by decide), if_pos (by decide)]
    rfl
  simp only [Go.Gateway.unmarshal, List.foldlM_cons, List.foldlM_nil, first, second, third,
    Option.bind_eq_bind, Option.bind_some, Option.pure_def]

theorem go_parses :
    Go.Gateway.parseMessage (decoded (written id negotiation data)) =
      if InRange data then
        .ok ⟨Go.Gateway.trimSpace id.text, negotiation.type, inDomain finite data⟩
      else .error (.plain "RTC gateway message must be valid JSON") := by
  simp only [decoded, written_inRange, written_domain]
  by_cases ranged : InRange data
  · have type : Go.Gateway.trimSpace negotiation.type = negotiation.type :=
      type_kept negotiation whiteSpace rfl rfl
    simp only [if_pos ranged, Go.Gateway.parseMessage, unmarshal_members, type]
    exact clientMessage_written (unicode_named id) (type_named negotiation)
  · rw [if_neg ranged, if_neg ranged]
    rfl

theorem python_parses :
    Python.Gateway.parseText (loads (written id negotiation data)) =
      .ok ⟨Python.Gateway.strip id.text, negotiation.type, inDomain Literal.python data⟩ := by
  obtain ⟨idMember, typeMember, dataMember⟩ := frame_members (.str id.text)
    (.str negotiation.type) (.obj (inDomain Literal.python data))
  have type : Python.Gateway.strip negotiation.type = negotiation.type :=
    type_kept negotiation pythonSpace rfl rfl
  simp only [loads, written_domain, Python.Gateway.parseText, Json.object?, idMember, typeMember,
    dataMember, Python.Gateway.stripped, Option.bind_some, Json.str?, Option.map_some,
    Option.getD_some, type]
  exact clientMessage_written (python_named id) (type_named negotiation)

end VoxRtc.Gateway
