import RevSync.Service.Tool

/-!
# Command-line steps

A `cli` step runs the command-line tool on the script's files. Its words may name the script's
directory as `$DIR` and the port of a running listener of the script as `$PORT(<name>)`. The
tool runs as a process of its own: of what it does, only the files it writes (and the
identifiers it draws) outlive it.

Its output is cleaned line by line before it is answered: system errors become `$os_error`, a
panic's first line `$panic`; in other lines listener ports become `$PORT`, UUIDs `$uuid` and
dates near the clock `$time`.
-/

namespace RevSync

namespace Service

/-- Replaces every `$PORT(<name>)` in a word by the port of that running listener. -/
def substitutePorts (w : World) (word : String) : Read String :=
  go (word.splitOn "$PORT(") |>.map String.join
where
  go : List String → Read (List String)
    | [] => .ok []
    | first :: rest => do
      let tail ← rest.mapM fun piece => do
        match piece.splitOn ")" with
        | name :: after =>
          let i ← need (w.listenerNames.get? name)
          let b ← need (w.listeners.getD i default).running
          pure (toString b.port ++ String.intercalate ")" after)
        | [] => unreadable
      pure (first :: tail)

/-- Whether characters are lowercase hexadecimal digits. -/
def allHex (cs : List Char) : Bool := cs.all fun c => c.isDigit || ('a' ≤ c && c ≤ 'f')

/-- Whether text starts with a lowercase hyphenated UUID. -/
def startsWithUuid (cs : List Char) : Bool :=
  cs.length ≥ 36 &&
    [(0, 8), (9, 4), (14, 4), (19, 4), (24, 12)].all (fun (at_, n) => allHex ((cs.drop at_).take n)) &&
    [8, 13, 18, 23].all fun i => cs.getD i ' ' == '-'

/-- Writes every lowercase hyphenated UUID as `$uuid`. -/
def maskAnyUuid (s : String) : String :=
  String.ofList (go s.toList)
where
  go : List Char → List Char
    | [] => []
    | c :: rest =>
      if startsWithUuid (c :: rest) then "$uuid".toList ++ go (rest.drop 35) else c :: go rest
  termination_by cs => cs.length

/-- Writes the port after every `127.0.0.1:` as `$PORT`. -/
def maskLoopbackPorts (s : String) : String :=
  match s.splitOn "127.0.0.1:" with
  | [] => s
  | first :: rest =>
    first ++ String.join (rest.map fun piece =>
      let digits := piece.toList.takeWhile Char.isDigit
      if digits.isEmpty then "127.0.0.1:" ++ piece
      else "127.0.0.1:$PORT" ++ String.ofList (piece.toList.drop digits.length))

/-- Cleans one line of output. -/
def cleanLine (w : World) (isError : Bool) (line : String) : String :=
  if isError && ((line.splitOn "(os error ").length > 1 || (line.splitOn "Os \x7b").length > 1) then
    "$os_error"
  else if line.startsWith panicHeader then "$panic"
  else
    let ported := w.listenerPorts.foldl (fun acc p => acc.replace (":" ++ toString p) ":$PORT") line
    maskNearDates (maskAnyUuid (maskLoopbackPorts ported))

/-- Runs the tool; only its files and drawn identifiers are kept. -/
def cliStep (s : Json) : Step Json := do
  let args ← reading (field s "args" >>= texts)
  let interrupt ← reading (nat? s "sigint_after")
  let before ← get
  let words ← reading (args.mapM (substitutePorts before))
  let run ← runTool words interrupt
  let after ← get
  set { before with
    host := { after.host with databases := before.host.databases, channels := before.host.channels },
    seed := after.seed }
  let code := match run.code with
    | some c => Json.ofNat c
    | none => .null
  let fields := [("code", code),
    ("stdout", .arr (run.stdout.map fun l => .str (cleanLine before false l))),
    ("stderr", .arr (run.stderr.map fun l => .str (cleanLine before true l)))]
  pure (Json.object (if run.timedOut then fields ++ [("timeout", .bool true)] else fields))

/-- The command-line steps. -/
def cliStepFor (op : String) (s : Json) : Option (Step Json) :=
  if op == "cli" then some (cliStep s) else none

end Service

end RevSync
