import RevSync.Service.Stateless
import RevSync.Service.Certificates
import RevSync.Service.Wire
import RevSync.Json.Read
import RevSync.Service.Script

/-!
# The command service

One request in, one answer out. A request is a JSON object whose `op` names the operation; an
answer is a JSON value. A request that cannot be understood (unknown operation, missing or
mistyped field) is answered `{"error": "bad_input"}`.
-/

namespace RevSync

namespace Service

/-- The answer to one request. -/
def answer (req : Json) : Json :=
  let result : Read Json := do
    let op ← text req "op"
    match statelessAnswer op req with
    | some r => r
    | none =>
    match wireAnswer op req with
    | some r => r
    | none =>
    match certificateAnswer op req with
    | some r => r
    | none =>
    if op == "script" then scriptAnswer req else unreadable
  match result with
  | .ok j => j
  | .error () => badInput

/-- The answer to one line of text: a request, or bad input when it is not JSON. -/
def answerLine (line : String) : String :=
  match Json.parse line with
  | .ok req => (answer req).compact
  | .error _ => badInput.compact

end Service

end RevSync
