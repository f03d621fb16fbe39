import VoxRtc.Wire.Json

/-!
# Response commands

The calls by which an application streams a response through a server session, and the
frames they become. A session stamps its frames with a generation id: the one the caller
chose, or the ambient one of the last `response.start`.
-/
namespace VoxRtc.Wire.Members

variable {ν : Type} {members : Members ν} {key other : String} {value : Json ν}

/-- A member is set: an old one of the same name goes. -/
def insert (members : Members ν) (key : String) (value : Json ν) : Members ν :=
  members.filter (·.1 ≠ key) ++ [(key, value)]

/-- A member is set where there is a value. -/
def insertOpt (members : Members ν) (key : String) : Option (Json ν) → Members ν
  | none => members
  | some value => members.insert key value

@[simp] theorem get?_nil : Members.get? ([] : Members ν) key = none := rfl

@[simp] theorem get?_singleton :
    Members.get? [(key, value)] other = if key = other then some value else none := by
  by_cases same : key = other <;> simp [get?, same]

@[simp] theorem get?_insert_self : (members.insert key value).get? key = some value := by
  simp [get?, insert]

@[simp] theorem get?_insert_other (different : other ≠ key) :
    (members.insert key value).get? other = members.get? other := by
  unfold get? insert
  rw [List.reverse_append, List.reverse_singleton, List.singleton_append,
    List.find?_cons_of_neg (by simpa using different.symm), ← List.filter_reverse, List.find?_filter]
  congr 2
  funext member
  by_cases same : member.1 = other
  · simp [same, different]
  · simp [same]

@[simp] theorem get?_insertOpt_self {value : Option (Json ν)} (missing : members.get? key = none) :
    (members.insertOpt key value).get? key = value := by
  cases value with
  | none => exact missing
  | some value => exact get?_insert_self

@[simp] theorem get?_insertOpt_other {value : Option (Json ν)} (different : other ≠ key) :
    (members.insertOpt key value).get? other = members.get? other := by
  cases value with
  | none => rfl
  | some value => exact get?_insert_other different

end VoxRtc.Wire.Members

namespace VoxRtc.Responses

open Wire

abbrev Value := Json Binary64
abbrev Payload := Members Binary64

/-- The output a response is asked to have. -/
structure OutputOptions where
  model : Option String := none
  voice : Option String := none
  language : Option String := none
  speed : Option Binary64 := none
  params : Option Payload := none
  deriving Repr

structure Options where
  allowInterruptions : Option Bool := none
  generationId : Option String := none
  supersedesGenerationId : Option String := none
  output : Option OutputOptions := none
  deriving Repr

/-- A generated id: `generation_`, a counter and something random. -/
structure GeneratedId where
  text : String
  proper : text ≠ ""
  deriving Repr

theorem GeneratedId.first_proper : "generation_1" ≠ "" := by decide

theorem GeneratedId.short_proper : "h" ≠ "" := by decide

inductive Command where
  | start
  | delta (text : String)
  | commit
  | cancel
  | replaceText (text : String)
  deriving DecidableEq, Repr

/-- A call, with the id the session generates where it needs one. -/
structure Call where
  command : Command
  options : Option Options := none
  generated : GeneratedId
  deriving Repr

def Call.explicit (c : Call) : Option String := c.options.bind (·.generationId)

/-- The stamp of a frame, given the id that counts as explicit and the ambient one. -/
def Call.stamp (c : Call) (explicit ambient : Option String) : Option String :=
  match c.command with
  | .start => some (explicit.getD c.generated.text)
  | .replaceText _ => explicit
  | .delta _ | .commit | .cancel => explicit.or ambient

structure Frame where
  event : String
  payload : Payload
  deriving Repr

/-- The id a frame is stamped with. -/
def Frame.generationId (f : Frame) : Option String :=
  (f.payload.get? "generation_id").bind Json.str?

@[simp] theorem str?_map (id : Option String) : (id.map (Json.str (ν := Binary64))).bind Json.str? = id := by
  cases id <;> rfl

end VoxRtc.Responses
