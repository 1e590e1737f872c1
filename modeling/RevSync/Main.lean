import RevSync.Service.Tool

/-!
# The `docsync` program

Runs the tool once with the program's arguments on a fresh world: no files, no databases. A
command that serves until interrupted is interrupted as soon as it has printed its lines.
-/

/-- Runs the tool with the given arguments, printing what it prints; its exit code. -/
def main (args : List String) : IO UInt32 := do
  match (RevSync.Service.runTool args (some 0)).run {} with
  | .ok (run, _) =>
    for line in run.stdout do IO.println line
    for line in run.stderr do IO.eprintln line
    pure (run.code.getD 1).toUInt32
  | .error () => pure 1
