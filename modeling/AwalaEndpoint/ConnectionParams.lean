import AwalaEndpoint.Http
import AwalaEndpoint.InternetEndpoint

namespace AwalaEndpoint

open Awaiting LabelledRuns

/-!
# The connection parameters route

The route of the PoHTTP server at which private endpoints find the parameters
they need in order to reach this endpoint.
-/

namespace ConnectionParams

/-- The content type of serialised connection parameters. -/
def derContentType : String := "application/vnd.etsi.tsl.der"

/-- A reply with a payload and its content type. -/
structure DerReply where
  code : Nat
  contentType : String
  payload : Buffer
  deriving Repr, DecidableEq

/-- The handler of the route. -/
def handler
    (libraries : Libraries)
    (endpoint : InternetEndpoint) : Promise DerReply := do
  let connectionParams ← endpoint.getConnectionParams libraries
  return ⟨HttpStatusCodes.ok, derContentType, connectionParams⟩

/-- How the handler settles once the initial session key was looked for. -/
def answer
    (libraries : Libraries)
    (endpoint : InternetEndpoint) :
    Except Failure (Option SessionKey) → Except Failure DerReply
  | .error failure => .error failure
  | .ok none =>
      .error (.thrown .error "Initial session key id is missing")
  | .ok (some key) =>
      .ok ⟨HttpStatusCodes.ok, derContentType,
        libraries.serializeConnectionParams (publishedParams endpoint key)⟩

variable {libraries : Libraries}
  {endpoint : InternetEndpoint}
  {trace : List Call}

/-- The handler looks for the initial session key once, and answers what it found. -/
theorem handler_runs_iff
    {result : Except Failure DerReply} :
    Runs (handler libraries endpoint) trace result ↔
      ∃ outcome,
        trace = [keyCheck endpoint outcome] ∧
          result = answer libraries endpoint outcome := by
  constructor
  · intro runs
    obtain ⟨checked, rest, rfl, afterCheck⟩ := runs_await_iff.mp runs
    refine ⟨checked, ?_⟩
    rcases checked with failure | _ | key
    · obtain ⟨rfl, rfl⟩ := runs_settled_iff.mp afterCheck
      exact ⟨rfl, rfl⟩
    · obtain ⟨rfl, rfl⟩ := runs_settled_iff.mp afterCheck
      exact ⟨rfl, rfl⟩
    · obtain ⟨rfl, rfl⟩ := runs_settled_iff.mp afterCheck
      exact ⟨rfl, rfl⟩
  · rintro ⟨outcome, rfl, rfl⟩
    refine runs_await_iff.mpr ⟨outcome, [], rfl, ?_⟩
    rcases outcome with failure | _ | key
    · exact runs_settled_iff.mpr ⟨rfl, rfl⟩
    · exact runs_settled_iff.mpr ⟨rfl, rfl⟩
    · exact runs_settled_iff.mpr ⟨rfl, rfl⟩

/-- Whatever the handler has done is to look for the initial session key. -/
theorem handler_steps
    {remaining : Promise DerReply}
    (steps : Steps (handler libraries endpoint) trace remaining) :
    ∀ call ∈ trace, ∃ outcome, call = keyCheck endpoint outcome := by
  obtain ⟨rest, result, runs, -⟩ :=
    exists_runs_of_steps (Failure.unavailable "") steps
  obtain ⟨outcome, shape, -⟩ := handler_runs_iff.mp runs
  intro call member
  have inRun : call ∈ trace ++ rest := List.mem_append_left rest member
  rw [shape, List.mem_singleton] at inRun
  exact ⟨outcome, inRun⟩

end ConnectionParams

end AwalaEndpoint
