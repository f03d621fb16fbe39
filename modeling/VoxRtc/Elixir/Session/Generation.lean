import VoxRtc.Elixir.Session.Process
import Mathlib.Data.List.Induction

/-!
# The ambient generation of an Elixir session

The slot of the session against the history of what it has sent and received: the ambient
generation is the one of the last start, unless something has ended it since.
-/
namespace VoxRtc.Elixir

open Wire Responses Transition

/-- The generation that a command is stamped with; `""` is none. -/
def ClientMessage.generationId : ClientMessage → String
  | responseStart _ id .. => id
  | responseDelta _ _ id => id
  | responseCommit id => id
  | responseCancel id => id
  | responseReplaceText .. => ""

namespace Entry

/-- The generation that a start has started. -/
def starts : Entry → Option String
  | command _ (.responseStart _ id ..) => some id
  | _ => none

/-- A generation is no longer the ambient one after this. -/
def Ends (id : String) : Entry → Prop
  | command _ (.responseStart ..) => True
  | command given (.responseCancel _) => given = none ∨ given = some id
  | command _ (.responseReplaceText ..) => True
  | command _ _ => False
  | .event received => Session.finishes received = some id

/-- What an entry makes of the slot. -/
def ambient (slot : Option String) : Entry → Option String
  | command _ (.responseStart _ id ..) => some id
  | command given (.responseCancel _) => if given = none ∨ given = slot then none else slot
  | command _ (.responseReplaceText ..) => none
  | command _ _ => slot
  | .event received => if Session.finishes received = slot then none else slot

end Entry

/-- The last start of a history was for this generation, and nothing has ended it since. -/
def Ambient (log : List Entry) (id : String) : Prop :=
  ∃ before start after, log = before ++ start :: after ∧ start.starts = some id ∧
    ∀ e ∈ after, ¬e.Ends id

namespace Session

variable {lib : Libraries} {s t : Session}

/-- The history of a session, and its slot. -/
def ambience (s : Session) : List Entry × Option String := (s.log, s.responseGenerationId)

/-- A step adds at most one entry, and the slot follows it. No start is without an id. -/
def Follows (s t : Session) : Prop :=
  t.ambience = s.ambience ∨ ∃ e, e.starts ≠ some "" ∧
    t.ambience = (s.log ++ [e], e.ambient s.responseGenerationId)

theorem Aside.ambience (aside : s.Aside t) : t.ambience = s.ambience := congrArg Prod.fst aside

/-- The id of a start: the caller's, or a generated one. -/
def startId (options : Options) (generated : GeneratedId) : String :=
  match options.generationId with
  | some id => if id = "" then generated.text else id
  | none => generated.text

theorem ensureGeneration_eq (options : Options) (generated : GeneratedId) :
    s.ensureGeneration options generated =
      ({ options with generationId := some (startId options generated) },
        { s with responseGenerationId := some (startId options generated) }) := by
  obtain ⟨allowInterruptions, given, supersedes, output⟩ := options
  cases given with
  | none => rfl
  | some id => by_cases empty : id = "" <;> simp [ensureGeneration, startId, empty]

/-- Of the state, a command changes the slot only. -/
theorem buildResponseCommand_frame (command : Command) (options : Options)
    (generated : GeneratedId) :
    ∃ slot, (s.buildResponseCommand command options generated).2 =
      { s with responseGenerationId := slot } := by
  cases command with
  | start => exact ⟨_, by simp only [buildResponseCommand, ensureGeneration_eq]; rfl⟩
  | cancel =>
    simp only [buildResponseCommand]
    split
    · exact ⟨_, rfl⟩
    · exact ⟨_, rfl⟩
  | _ => exact ⟨_, rfl⟩

variable {sessionId : String} {subscriber : Option Nat}

/-- Whether a start with these options would meet one that waits. -/
def Awaits (s : Session) (options : Options) (generated : GeneratedId) : Prop :=
  (s.responseWaiters.get (startId options generated)).isSome

end Session

end VoxRtc.Elixir
