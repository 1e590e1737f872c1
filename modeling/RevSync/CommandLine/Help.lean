import RevSync.CommandLine.Usage

/-!
# Help text

A command's help is its description, its usage line, and then its subcommands, positional
arguments and switches, each under a heading. Entries are laid out for a terminal 100 columns
wide: each description starts in a column shared by the whole listing, unless the listing is
too wide for that, in which case descriptions go on the line after their argument, indented.

`-h` asks for the summary. `--help` and the `help` subcommand ask for the full help, which
differs for commands whose arguments say more than their summary: there every description goes
on its own line, entries are separated by blank lines, and the accepted values of an argument
are listed one per line with their descriptions.
-/

namespace RevSync.CommandLine

/-- The width help is laid out for. -/
def helpWidth : Nat := 100

/-- The indentation of descriptions written below their argument. -/
def belowIndent : String := "          "

/-- Spaces. -/
def spaces (n : Nat) : String := String.ofList (List.replicate n ' ')

/-- The bracketed notes after a description: the default and the accepted values. The values
are not noted when the full help lists them. -/
def notes (a : Arg) (full : Bool) : List String :=
  let default := match a.default with
    | some d => ["[default: " ++ (if d.any Char.isWhitespace then "\"" ++ d ++ "\"" else d) ++ "]"]
    | none => []
  let values := if a.choices.isEmpty || (full && a.hasLongHelp) then []
    else ["[possible values: " ++ String.intercalate ", " a.choices ++ "]"]
  default ++ values

/-- The width an argument takes before its description: its name, and the room kept for a
short switch. -/
def nameWidth (a : Arg) : Nat := a.display.length + (if a.positional then 0 else 4)

/-- Whether an entry's description goes below it: always in the full help, and in the summary
when the names take over 40 columns and the description does not fit after them. -/
def goesBelow (full : Bool) (widest : Nat) (a : Arg) : Bool :=
  full ||
    let taken := widest + 4 + (if a.positional then 0 else 4)
    let notesWidth := match notes a full with
      | [] => 0
      | ns => (String.intercalate " " ns).length
    helpWidth ≥ taken && 10 * taken > 4 * helpWidth &&
      a.help.length + notesWidth > helpWidth - taken

/-- The lines listing an argument's accepted values with their descriptions. -/
def choiceLines (a : Arg) : String :=
  match a.kind with
  | .choice vs =>
    let widest := vs.foldl (fun n v => max n v.1.length) 0
    "\n\n" ++ belowIndent ++ "Possible values:" ++ String.join (vs.map fun v =>
      "\n" ++ belowIndent ++ "- " ++ v.1 ++
        (if v.2.isEmpty then "" else ": " ++ spaces (widest - v.1.length) ++ v.2))
  | _ => ""

/-- Indents every line after the first. -/
def indentRest (indent text : String) : String :=
  String.intercalate ("\n" ++ indent) (text.splitOn "\n")

/-- One argument's entry. -/
def argEntry (full below : Bool) (widest : Nat) (a : Arg) : String :=
  let switch := if a.positional then a.display
    else
      let short := match a.short with
        | some c => "-" ++ c.toString
        | none => if a.long.isSome then "    " else ""
      let long := match a.long with
        | some l => (if a.short.isSome then ", " else "") ++ "--" ++ l
        | none => ""
      short ++ long ++ (if a.takesValue then " <" ++ a.valueName ++ ">" else "")
  let about := if full then a.longHelp.getD a.help else a.help
  let listed := full && a.hasLongHelp
  let ns := notes a full
  let noteText := String.intercalate (if full then "\n" else " ") ns
  let sep := if full then "\n\n" else " "
  let tail := if ns.isEmpty then "" else if about.isEmpty then noteText else sep ++ noteText
  if below then
    let values := if listed then choiceLines a else ""
    "  " ++ switch ++ "\n" ++ belowIndent ++ indentRest belowIndent about ++ values ++
      indentRest belowIndent tail
  else
    let pad := if a.positional then widest + 2 - a.display.length
      else if a.long.isSome then widest + 2 - (a.display.length + 4)
      else widest + 6 - (a.display.length + 4)
    "  " ++ switch ++ spaces pad ++ about ++ tail

/-- Orders switches by their listing key, keeping the declared order among equal keys. -/
def sortSwitches (args : List Arg) : List Arg :=
  args.foldl (fun acc a => insertSwitch a acc) []
where
  insertSwitch (a : Arg) : List Arg → List Arg
    | [] => [a]
    | b :: rest =>
      let ka := a.sortKey
      let kb := b.sortKey
      if ka.1 < kb.1 || (ka.1 == kb.1 && ka.2 < kb.2) then a :: b :: rest
      else b :: insertSwitch a rest

/-- A listing of arguments. -/
def argSection (full : Bool) (args : List Arg) : String :=
  let widest := args.foldl (fun n a => max n (nameWidth a)) 2
  let below := args.any (goesBelow full widest)
  let sepr := if below && full then "\n\n" else "\n"
  String.intercalate sepr (args.map (argEntry full below widest))

/-- The listing of subcommands. -/
def commandSection (subs : List Command) : String :=
  let widest := subs.foldl (fun n s => max n s.name.length) 2
  let taken := widest + 4
  let below := subs.any fun s =>
    helpWidth ≥ taken && 10 * taken > 4 * helpWidth && s.about.length > helpWidth - taken
  String.intercalate "\n" (subs.map fun s =>
    if below then "  " ++ s.name ++ "\n" ++ belowIndent ++ s.about
    else "  " ++ s.name ++ spaces (widest + 2 - s.name.length) ++ s.about)

/-- The command's help: the summary, or with `full` the full help where it differs. -/
def Command.helpText (c : Command) (full : Bool) : String :=
  let full := full && c.hasLongHelp
  let sections :=
    (if c.subcommands.isEmpty then [] else ["Commands:\n" ++ commandSection c.subcommands]) ++
    (if c.positionals.isEmpty then [] else ["Arguments:\n" ++ argSection full c.positionals]) ++
    (if c.switches.isEmpty then [] else
      ["Options:\n" ++ argSection full (sortSwitches c.switches)])
  let head := (if c.about.isEmpty then "" else c.about ++ "\n\n") ++ "Usage: " ++ c.helpUsage
  String.intercalate "\n\n" (head :: sections) ++ "\n"

end RevSync.CommandLine
