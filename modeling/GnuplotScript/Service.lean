import GnuplotScript.Engine.Execution

/-!
# The service

Over HTTP the program takes a request with form expressions and answers with the script, the
path of the output or what the engine printed. Faults of the request, of the installation and
of the engine have answers of their own; other faults are left to the server. Which bodies are
requests is up to the framework that receives them.

## Main definitions

* `ScriptRequest` — a request
* `Answer` — the answers, and `Answer.status` — their status codes
* `Workplace.serve` — the answer to a request
* `Workplace.handle` — the answer to a body
-/

namespace GnuplotScript

/-- A request: form expressions, and whether the script is only shown. -/
structure ScriptRequest where
  forms : List Datum
  dryRun : Bool

/-- The answers of the service. -/
inductive Answer where
  /-- The script, shown only. -/
  | script (text : String)
  /-- The path that the script's output went to. -/
  | outputPath (path : String)
  /-- What the engine printed. -/
  | captured (text : String)
  /-- A fault of the request. -/
  | badRequest (detail : String)
  /-- A body that is no request. -/
  | invalid
  /-- An engine that failed. -/
  | badGateway (output : String) (status : Int)
  /-- An engine that is missing. -/
  | unavailable (detail : String)
  deriving DecidableEq, Repr

namespace Answer

/-- The status code of an answer. -/
def status : Answer → Nat
  | script _ => 200
  | outputPath _ => 200
  | captured _ => 200
  | badRequest _ => 400
  | invalid => 422
  | badGateway _ _ => 502
  | unavailable _ => 503

/-- The answer for an outcome. -/
def ofOutcome : Outcome → Answer
  | .script text => script text
  | .outputPath path => outputPath path
  | .captured text => captured text
  | .failed text status => badGateway text status

/-- The answer for a fault, where there is one. -/
def ofFault [Text.Halves] (fault : Fault) : Except Fault Answer :=
  match fault.family with
  | .form => .ok (badRequest fault.message)
  | .value => .ok (badRequest fault.message)
  | .installation => .ok (unavailable fault.message)
  -- An engine that failed is an outcome here, and no fault.
  | _ => .error fault

end Answer

section Halves

variable [Text.Halves]

namespace Workplace

/-- The answer to a request, with the calls of the engine that it took. -/
def serve (place : Workplace) (request : ScriptRequest) : Run Answer :=
  let run := place.execute (.options (.bool request.dryRun)) (.list request.forms)
  ⟨run.calls, run.log,
    match run.result with
    | .ok outcome => .ok (.ofOutcome outcome)
    | .error fault => Answer.ofFault fault⟩

/-- The answer to a body, with the calls of the engine that it took, where the framework finds the
given requests in bodies. -/
def handle (place : Workplace) (request? : Datum → Option ScriptRequest) (body : Datum) :
    Run Answer :=
  match request? body with
  | some request => place.serve request
  | none => ⟨[], [], .ok .invalid⟩

end Workplace

end Halves

end GnuplotScript
