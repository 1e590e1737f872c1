/-!
# Command grammars

A command line is read against a tree of commands. Each command has a name, a one-line
description, its arguments and its subcommands. An argument is either a switch (a long name
`--name`, a short letter `-n`, or both), which is a flag or takes one value, or a positional
argument filled by the words that are not switches, in order.

Arguments marked global are also accepted by every subcommand below the one declaring them.
`Command.complete` turns a declared tree into the one that is read: it adds `--help` to every
command, `--version` where a version is given and a `help` subcommand where there are
subcommands, copies global arguments downwards, and numbers switches for help listings.
-/

namespace RevSync.CommandLine

/-- What values an argument accepts. -/
inductive ValueKind where
  /-- Any text. -/
  | text
  /-- A file system path: any text but the empty one. -/
  | path
  /-- A whole number in the closed range. -/
  | integer (lo hi : Int)
  /-- One of the listed names, each with its description. -/
  | choice (values : List (String × String))
  deriving Inhabited, BEq

/-- What an argument does when it is given. -/
inductive Action where
  /-- Stores its one value. -/
  | set
  /-- Records that the flag was given. -/
  | flag
  /-- Shows the command's help. -/
  | help
  /-- Shows the program's version. -/
  | version
  /-- Collects any number of values. -/
  | collect
  deriving Inhabited, BEq, DecidableEq

/-- One argument of a command. -/
structure Arg where
  id : String
  help : String := ""
  short : Option Char := none
  long : Option String := none
  /-- The name standing for the value in listings, upper case by convention. -/
  valueName : String := ""
  action : Action := .set
  positional : Bool := false
  required : Bool := false
  /-- Arguments that must be given whenever this one is. -/
  requires : List String := []
  default : Option String := none
  kind : ValueKind := .text
  global : Bool := false
  /-- Place in the options listing; ties are broken by the switch's name. -/
  order : Nat := 999
  /-- The description shown by `--help` where it differs from the one shown by `-h`. -/
  longHelp : Option String := none
  deriving Inhabited

/-- A command: its arguments and subcommands. -/
structure Command where
  name : String
  about : String := ""
  version : Option String := none
  args : List Arg := []
  subcommands : List Command := []
  /-- The words naming this command in usage lines: the parents' names and required arguments. -/
  usageName : String := ""
  /-- The words naming this command in messages: the parents' names and its own. -/
  binName : String := ""
  deriving Inhabited

namespace Arg

/-- Whether the argument is followed by a value. -/
def takesValue (a : Arg) : Bool := a.action == .set || a.action == .collect

/-- The argument as messages name it: `--long <VALUE>`, `-s`, `<NAME>` or `[NAME]...`. -/
def display (a : Arg) : String :=
  if a.positional then
    let name := if a.required then "<" ++ a.valueName ++ ">" else "[" ++ a.valueName ++ "]"
    if a.action == .collect then name ++ "..." else name
  else
    let switch := match a.long, a.short with
      | some l, _ => "--" ++ l
      | none, some c => "-" ++ c.toString
      | none, none => ""
    if a.takesValue then switch ++ " <" ++ a.valueName ++ ">" else switch

/-- The names of the values a choice accepts, none for other kinds. -/
def choices (a : Arg) : List String :=
  match a.kind with
  | .choice vs => vs.map Prod.fst
  | _ => []

/-- Whether `--help` shows more about the argument than `-h`. -/
def hasLongHelp (a : Arg) : Bool :=
  a.longHelp.isSome ||
    match a.kind with
    | .choice vs => vs.any fun v => !v.2.isEmpty
    | _ => false

/-- The key options are listed by: the place, then the short letter (lower case first) or the
long name. -/
def sortKey (a : Arg) : Nat × String :=
  let key := match a.short, a.long with
    | some c, _ => c.toLower.toString ++ (if c.isLower then "0" else "1")
    | none, some l => l
    | none, none => "\x7b" ++ a.id
  (a.order, key)

end Arg

/-- The switch that shows help. When the command has more to say under `--help` than under
`-h`, each of the two says so. -/
def helpArg (more : Bool) : Arg :=
  { id := "help", short := some 'h', long := some "help", action := .help,
    help := if more then "Print help (see more with '--help')" else "Print help",
    longHelp := if more then some "Print help (see a summary with '-h')" else none }

/-- The switch that shows the version. -/
def versionArg : Arg :=
  { id := "version", short := some 'V', long := some "version", action := .version,
    help := "Print version" }

/-- The `help` subcommand, which shows the help of the command named by its words. -/
def helpCommand : Command :=
  { name := "help", about := "Print this message or the help of the given subcommand(s)",
    args := [{ id := "subcommand", valueName := "COMMAND", positional := true,
               action := .collect, help := "Print help for the subcommand(s)" }] }

namespace Command

/-- The command's positional arguments, in order. -/
def positionals (c : Command) : List Arg := c.args.filter (·.positional)

/-- The command's switches. -/
def switches (c : Command) : List Arg := c.args.filter (!·.positional)

/-- The argument with the given id. -/
def find? (c : Command) (id : String) : Option Arg := c.args.find? (·.id == id)

/-- The subcommand with the given name. -/
def findSub? (c : Command) (name : String) : Option Command :=
  c.subcommands.find? (·.name == name)

/-- Whether `--help` shows more than `-h`. -/
def hasLongHelp (c : Command) : Bool := c.args.any Arg.hasLongHelp

/-- Whether a subcommand must be given: the case for every command that has some. -/
def needsSubcommand (c : Command) : Bool := !c.subcommands.isEmpty

/-- Numbers the switches among `args` from zero, in the order given. -/
def numberSwitches (args : List Arg) : List Arg :=
  go args 0
where
  go : List Arg → Nat → List Arg
    | [], _ => []
    | a :: rest, n =>
      if a.positional then a :: go rest n else { a with order := n } :: go rest (n + 1)

/-- The required arguments of a command as its usage line shows them, for the name of its
subcommands. -/
def requiredWords (c : Command) : List String :=
  (c.switches.filter (·.required)).map Arg.display ++
    (c.positionals.filter (·.required)).map Arg.display

/-- Completes a declared command below parents whose global arguments are `inherited`. A
subcommand's usage name is its parent's words, the parent's required arguments and its own
name. Switches are numbered, inherited arguments the command does not declare itself are added
after its own, then `--help` and, with a version, `--version`; a `help` subcommand is added
after the declared ones, and the subcommands are completed in turn. The `help` subcommand
inherits nothing. -/
def complete (c : Command) (inherited : List Arg) (usageName binName : String) : Command :=
  let own := numberSwitches c.args
  let added := inherited.filter fun g => !own.any (·.id == g.id)
  let withHelp := own ++ added ++ [helpArg (own.any Arg.hasLongHelp)]
  let args := match c.version with
    | some _ => withHelp ++ [versionArg]
    | none => withHelp
  let passed := added ++ own.filter (·.global)
  let reading : Command := { c with args, subcommands := [], usageName, binName }
  let parentWords := binName ++ " " ++ String.join (reading.requiredWords.map (· ++ " "))
  let subs := c.subcommands.map fun s =>
    s.complete passed (parentWords ++ s.name) (binName ++ " " ++ s.name)
  let help := if c.subcommands.isEmpty then []
    else [{ helpCommand with usageName := parentWords ++ "help", binName := binName ++ " help" }]
  { reading with subcommands := subs ++ help }
termination_by c
decreasing_by
  have := List.sizeOf_lt_of_mem ‹_›
  cases c
  simp_all
  omega

/-- Completes a program's top command. -/
def completeTop (c : Command) : Command := c.complete [] c.name c.name

end Command

end RevSync.CommandLine
