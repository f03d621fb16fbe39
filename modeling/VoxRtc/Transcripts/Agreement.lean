import VoxRtc.TypeScript.Session.SpeechContext
import VoxRtc.Rust.Session.SpeechContext
import VoxRtc.Go.Session.SpeechContext
import VoxRtc.Python.Session.SpeechContext

/-!
# Four validators of one format

Whether the validators of the four SDKs deliver the same for the same JSON value. Each of
them reads the format with the deviations that it tolerates, so what two of them deliver is
never different; they disagree when only one of them delivers anything.
-/
namespace VoxRtc.Transcripts

open Wire Grammar

variable {v w : Validator} {doc : Json Literal}

/-- What an SDK delivers as the speech context of a transcript. -/
def Validator.deliver : Validator → Json Literal → Option SpeechContext
  | typescript => TypeScript.Session.speechContext
  | rust => Rust.Session.speechContext
  | go => Go.Session.speechContext
  | python => Python.Session.speechContext

/-- All validators reject the value, or they all deliver the same speech context. -/
def Agree (doc : Json Literal) : Prop :=
  (∀ v : Validator, v.deliver doc = none) ∨ ∃ context, ∀ v : Validator, v.deliver doc = some context

/-- The value is no speech context in any form, or it is one in the common form, or every
validator meets a deviation that it does not tolerate. -/
def Uniform (doc : Json Literal) : Prop :=
  ∀ context deviations, Format.speechContext doc = some (context, deviations) →
    deviations = [] ∨ ∀ v : Validator, ∃ d ∈ deviations, v.tolerates d = false

theorem deliver_eq (v : Validator) (doc : Json Literal) :
    v.deliver doc = (Format.speechContext doc).accept v.tolerates := by
  cases v with
  | typescript => exact TypeScript.Session.speechContext_reads doc
  | rust => exact Rust.Session.speechContext_reads doc
  | go => exact Go.Session.speechContext_reads doc
  | python => exact Python.Session.speechContext_reads doc

/-- Every deviation is rejected somewhere. -/
theorem Deviation.rejected (d : Deviation) : ∃ v : Validator, v.tolerates d = false := by
  cases d with
  | form f =>
    cases f with
    | sequence | tagged | wideTime | hugeTime => exact ⟨.typescript, rfl⟩
    | floatVersion | floatTime | negativeZeroTime => exact ⟨.rust, rfl⟩
  | overflow => exact ⟨.rust, rfl⟩
  | nullUnavailable => exact ⟨.typescript, rfl⟩
  | leftover read => exact ⟨.rust, rfl⟩

theorem common_iff (deviations : List Deviation) :
    (∀ v : Validator, ∀ d ∈ deviations, v.tolerates d = true) ↔ deviations = [] := by
  constructor
  · intro tolerated
    cases deviations with
    | nil => rfl
    | cons d rest =>
      obtain ⟨v, rejected⟩ := d.rejected
      have taken := tolerated v d (List.mem_cons_self ..)
      rw [rejected] at taken
      cases taken
  · rintro rfl v d here
    cases here

/-- Two validators never deliver different contexts. -/
theorem delivered_same {c c' : SpeechContext} (first : v.deliver doc = some c)
    (second : w.deliver doc = some c') : c = c' := by
  rw [deliver_eq] at first second
  cases read : Format.speechContext doc with
  | none =>
    rw [read] at first
    cases first
  | some found =>
    rw [read] at first second
    simp only [Reading.accept, Option.ite_none_right_eq_some, Option.some.injEq] at first second
    exact first.2.symm.trans second.2

instance : Nonempty Validator := ⟨.typescript⟩

theorem validators_agree_iff (doc : Json Literal) : Agree doc ↔ Uniform doc := by
  unfold Agree Uniform
  simp only [deliver_eq]
  have unanimous := Reading.unanimous_iff Validator.tolerates (Format.speechContext doc)
  simp only [common_iff] at unanimous
  exact unanimous

/-- A complete context that says so by `"unavailable": null`. -/
def nullUnavailable : Json Literal :=
  .obj [("schema_version", .num (.int 2)), ("status", .str "complete"), ("emotions", .arr []),
    ("vocal", .arr []), ("sounds", .arr []), ("unavailable", .null)]

theorem nullUnavailable_divides :
    Validator.go.deliver nullUnavailable = some ⟨.complete, some [], some [], some [], none⟩ ∧
      Validator.typescript.deliver nullUnavailable = none ∧ ¬Agree nullUnavailable := by
  have go : Validator.go.deliver nullUnavailable =
      some ⟨.complete, some [], some [], some [], none⟩ := by decide
  have typescript : Validator.typescript.deliver nullUnavailable = none := by decide
  refine ⟨go, typescript, ?_⟩
  rintro (rejected | ⟨context, accepted⟩)
  · rw [rejected .go] at go
    cases go
  · rw [accepted .typescript] at typescript
    cases typescript

end VoxRtc.Transcripts
