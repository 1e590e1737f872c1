import RevSync.CommandLine.Grammar

/-!
# Usage lines

A usage line names the command, then `[OPTIONS]` when it has switches that may be left out,
then the arguments that must be given (switches first, then positional arguments in order), then
`<COMMAND>` when a subcommand must follow.

An argument may require others. What must be given is the command's required arguments and,
for each argument given, everything it requires, directly or through what those require. Usage
lines shown with an error also name the arguments that were given.
-/

namespace RevSync.CommandLine

namespace Command

/-- A bound on the work of unrolling requirements: one step per requirement, and one more. -/
def requireFuel (c : Command) : Nat := c.args.foldl (fun n a => n + a.requires.length) 2

/-- The arguments `id` requires, directly or through others, in the order found: each argument
is expanded once, and only arguments that require something are expanded. -/
def unrollRequires (c : Command) (id : String) : List String :=
  go c.requireFuel [id] [] []
where
  go : Nat → List String → List String → List String → List String
    | 0, _, _, found => found
    | _, [], _, found => found
    | n + 1, x :: stack, done, found =>
      if done.contains x then go n stack done found
      else
        let reqs := ((c.find? x).map (·.requires)).getD []
        let expand := reqs.filter fun r => ((c.find? r).map (!·.requires.isEmpty)).getD false
        go n (expand.reverse ++ stack) (x :: done) (found ++ reqs)

/-- The ids of the command's required arguments. -/
def requiredIds (c : Command) : List String := (c.args.filter (·.required)).map (·.id)

/-- Adds ids to a list, skipping those already in it. -/
def addNew (xs ys : List String) : List String :=
  ys.foldl (fun acc y => if acc.contains y then acc else acc ++ [y]) xs

/-- What must be given once the arguments `given` are: the required arguments and what each
given argument requires. -/
def mustGive (c : Command) (given : List String) : List String :=
  given.foldl (fun acc g => addNew acc (c.unrollRequires g)) (addNew [] c.requiredIds)

/-- The index of a positional argument among the command's positional arguments. -/
def positionIndex (c : Command) (id : String) : Option Nat :=
  c.positionals.findIdx? (·.id == id)

/-- The usage words of the arguments in `required` (each preceded by what it requires) and in
`extra`, leaving out those in `given`: switches in first-seen order, then positional arguments
in order. -/
def requiredWordsFrom (c : Command) (required extra given : List String) : List String :=
  let unrolled := required.foldl (fun acc r => acc ++ c.unrollRequires r ++ [r]) []
  let items := (unrolled ++ extra).filter (!given.contains ·)
  let step := fun (acc : List String × List (Nat × String)) (id : String) =>
    match c.find? id with
    | none => acc
    | some a =>
      if a.positional then
        let i := (c.positionIndex id).getD 0
        (acc.1, (i, a.display) :: acc.2.filter (·.1 != i))
      else if acc.1.contains a.display then acc
      else (acc.1 ++ [a.display], acc.2)
  let (opts, poss) := items.foldl step ([], [])
  let ordered := (List.range c.positionals.length).filterMap fun i => (poss.find? (·.1 == i)).map (·.2)
  opts ++ ordered

/-- Whether the usage line shows `[OPTIONS]`: some switch other than help and version may be
left out. -/
def needsOptionsTag (c : Command) : Bool :=
  c.switches.any fun a => a.action != .help && a.action != .version && !a.required

/-- The optional positional arguments, as the usage line shows them. -/
def optionalWords (c : Command) : List String :=
  (c.positionals.filter (!·.required)).map Arg.display

/-- The command's full usage line, as help shows it. -/
def helpUsage (c : Command) : String :=
  c.usageName ++ (if c.needsOptionsTag then " [OPTIONS]" else "") ++
    String.join ((c.requiredWordsFrom c.requiredIds [] [] ++ c.optionalWords).map (" " ++ ·)) ++
    (if c.needsSubcommand then " <COMMAND>" else "")

/-- The usage line shown with an error once the arguments `used` are known: what must be given
and what was given. -/
def usageWith (c : Command) (required used : List String) : String :=
  if used.isEmpty then c.helpUsage
  else
    c.usageName ++ String.join ((c.requiredWordsFrom required used []).map (" " ++ ·)) ++
      (if c.needsSubcommand then " <COMMAND>" else "")

end Command

end RevSync.CommandLine
