import VoxRtc.Python.Session.Waits
import VoxRtc.TypeScript.Session.Waits

/-!
# Waits for acknowledgements

The two SDKs in which an application can wait for its response to be acknowledged. A task of
the Python SDK releases what it holds however it ends; the TypeScript SDK releases it where a
result is reached, and a send that throws is no result.
-/
namespace VoxRtc.Responses

open Transition

/-- The waits of both SDKs settle once, by what is due, and are released: those of the
TypeScript SDK in exactly the runs in which no send throws under an open wait, and those of
the Python SDK in all. -/
theorem waits_settle
    (C : TypeScript.Session.ControlSession → TypeScript.Session.WaitStep → Prop)
    (D : Python.Session.ControlSession → Python.Session.WaitStep → Prop) :
    (WaitsSettle TypeScript.Session.responseWaits C (First TypeScript.Session.outcome) ↔
      TypeScript.Session.AllSendsHold C) ∧
    WaitsSettle Python.Session.responseWaits D Python.Session.Due := by
  refine ⟨⟨?_, ?_⟩, Python.Session.tasks_settle⟩
  · intro settles
    exact TypeScript.Session.allSendsHold_of_settle settles
  · intro sends
    exact TypeScript.Session.responseWaits_settle sends

/-- A response is started, and the send throws before the server has said anything. -/
theorem subscriptions_leak :
    ¬(WaitsSettle TypeScript.Session.responseWaits always (First TypeScript.Session.outcome) ∧
      WaitsSettle Python.Session.responseWaits always Python.Session.Due) := by
  rintro ⟨settles, _⟩
  have reached := System.reaches_of_run (M := TypeScript.Session.responseWaits.system)
    [.start (some { generationId := some "gen" }) ⟨"h", GeneratedId.short_proper⟩, .sent 0 false] rfl
  -- The promise of the one wait has been rejected.
  obtain ⟨created, _, _⟩ := settles.released _ reached _ (List.mem_singleton.mpr rfl) rfl
  cases created

end VoxRtc.Responses
