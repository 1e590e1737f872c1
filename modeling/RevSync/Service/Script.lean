import RevSync.Service.Replicators
import RevSync.Service.Serving
import RevSync.Service.Continuous
import RevSync.Service.Listeners
import RevSync.Service.Fixtures
import RevSync.Service.Cli

/-!
# Scripts

A script is a list of steps run in order on one world that starts empty. Each step answers
one value; a step that cannot be read answers `bad_input`, changes nothing, and the script goes
on.
-/

namespace RevSync

namespace Service

/-- The steps that work on the world alone. -/
def worldStepFor (op : String) (s : Json) : Option (Step Json) :=
  if op == "resolve" then some (resolveStep s)
  else (replicatorStepFor op s).orElse fun _ => (listenerStepFor op s).orElse fun _ =>
    (identityStep op s).orElse fun _ => (fixtureStep op s).orElse fun _ =>
    (cliStepFor op s).orElse fun _ => databaseStep op s

/-- Runs a step on the world; a step that cannot be read answers `bad_input` and changes
nothing. -/
def guarded (m : String → Json → Option (Step Json)) (s : Json) : Step Json := fun w =>
  let attempt : Step Json := do
    match m (← reading (text s "do")) s with
    | some m => m
    | none => reading unreadable
  match attempt.run w with
  | .ok (j, w') => .ok (j, w')
  | .error () => .ok (badInput, w)

/-- The step a request names. -/
def stepFor (op : String) (s : Json) : Option (Step Json) :=
  if op == "passive" then some (passiveStep (guarded worldStepFor) s)
  else if op == "run_continuous" then some (runContinuousStep (guarded worldStepFor) s)
  else worldStepFor op s

/-- Runs one step: its answer and the world after it. -/
def runStep (w : World) (s : Json) : Json × World :=
  match (guarded stepFor s).run w with
  | .ok (j, w') => (j, w')
  | .error () => (badInput, w)

/-- Runs the steps in order, collecting their answers. -/
def runSteps (w : World) : List Json → List Json
  | [] => []
  | s :: rest =>
    let (j, w') := runStep w s
    j :: runSteps w' rest

/-- The answer to a script. -/
def scriptAnswer (req : Json) : Read Json := do
  let steps ← list req "steps"
  pure (Json.object [("results", .arr (runSteps {} steps))])

end Service

end RevSync
