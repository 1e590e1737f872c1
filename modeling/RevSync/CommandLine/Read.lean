import RevSync.CommandLine.Help
import RevSync.CommandLine.Value
import RevSync.CommandLine.Error
import RevSync.CommandLine.Similar

/-!
# Reading a command line

The words of a command line are read against a completed command tree, left to right:

* a word naming a subcommand hands the rest of the words to it (the `help` subcommand shows the
  help of the commands named after it);
* `--` makes every later word positional;
* `--name` and `--name=value` are long switches, `-abc` a group of short ones, where a short
  switch taking a value takes the rest of the group (`-pvalue`, `-p=value`) or the next word;
* any other word is the value of the switch before it, if that one still needs its value, and
  otherwise fills the next positional argument.

A value is checked when its argument is complete: when the next switch or positional argument
is met, or when the words end. Once a command's words are read, its subcommand is read first,
then the command's own arguments are checked: that a subcommand was given where one is needed
and that every required argument was given.

Global arguments are given to any command below the one declaring them; the value given
deepest wins.
-/

namespace RevSync.CommandLine

/-- What a command line asks for: the commands named, outermost first, the values given and
the defaults of those not given. Flags that were given have the value `true`. -/
structure Invocation where
  path : List String
  given : List (String × String)
  defaults : List (String × String)
  deriving Inhabited

namespace Invocation

/-- The value of an argument: given, else its default. -/
def value? (inv : Invocation) (id : String) : Option String :=
  match inv.given.lookup id with
  | some v => some v
  | none => inv.defaults.lookup id

/-- Whether a flag was given. -/
def flag (inv : Invocation) (id : String) : Bool := (inv.given.lookup id).isSome

end Invocation

/-- Why reading stops without an invocation. -/
inductive Stop where
  /-- Help or the version was asked for; the text goes to standard output. -/
  | shown (text : String)
  /-- The command line is refused; the text goes to standard error. -/
  | refused (text : String)
  deriving Inhabited

/-- An argument whose values are collected but not yet checked. -/
structure Pending where
  arg : Arg
  values : List String
  deriving Inhabited

/-- The state of reading one command's words. -/
structure Reading where
  /-- Checked values, in the order their arguments were completed. -/
  given : List (String × String) := []
  pending : Option Pending := none
  /-- Whether the pending switch still needs its value. -/
  awaiting : Bool := false
  /-- How many positional arguments are filled. -/
  position : Nat := 0
  /-- Whether `--` was met. -/
  trailing : Bool := false
  deriving Inhabited

namespace Command

/-- How the command's error messages point to more help. -/
def helpSwitch (c : Command) : Option String :=
  if c.args.any (·.action == .help) then some "--help"
  else if !c.subcommands.isEmpty then some "help"
  else none

/-- Refuses the command line with an error of this command. -/
def refuse (c : Command) (e : ArgError) : Stop := .refused (e.render c.helpSwitch)

/-- The version text. -/
def versionText (c : Command) : String := c.name ++ " " ++ c.version.getD "" ++ "\n"

/-- The long names of the command's switches, in declared order. -/
def longNames (c : Command) : List String := c.args.filterMap (·.long)

/-- Checks and records the values of a completed argument. -/
def store (c : Command) (r : Reading) (a : Arg) (values : List String) : Except Stop Reading :=
  if a.takesValue && values.isEmpty then .error (c.refuse (.missingValue a.display a.choices))
  else if (r.given.lookup a.id).isSome then
    .error (c.refuse (.repeated a.display c.helpUsage))
  else if !a.takesValue then .ok { r with given := r.given ++ [(a.id, "true")] }
  else
    let v := values.headD ""
    match checkValue a.kind v with
    | .ok s => .ok { r with given := r.given ++ [(a.id, s)] }
    | .error .missing => .error (c.refuse (.missingValue a.display a.choices))
    | .error .notChoice =>
      .error (c.refuse (.invalidValue a.display v a.choices (mostSimilar? v a.choices)))
    | .error (.invalid shown reason) => .error (c.refuse (.refusedValue a.display shown reason))

/-- Completes the pending argument, if any. -/
def settle (c : Command) (r : Reading) : Except Stop Reading :=
  match r.pending with
  | none => .ok r
  | some p => c.store { r with pending := none, awaiting := false } p.arg p.values

/-- Completes the pending argument on the way to another error: its error is dropped, but an
argument with a value still counts as given. -/
def settleQuietly (c : Command) (r : Reading) : Reading :=
  match c.settle r with
  | .ok r' => r'
  | .error _ =>
    match r.pending with
    | some p =>
      if p.values.isEmpty || (r.given.lookup p.arg.id).isSome then
        { r with pending := none, awaiting := false }
      else
        { r with pending := none, awaiting := false,
                 given := r.given ++ [(p.arg.id, p.values.headD "")] }
    | none => r

/-- The given arguments shown in an error's usage line: those not required anyway. -/
def shownGiven (c : Command) (given : List String) : List String :=
  given.filter (!c.requiredIds.contains ·)

/-- Runs a switch that takes no value: shows help or the version, or records the flag. -/
def runFlag (c : Command) (r : Reading) (a : Arg) (long : Bool) : Except Stop Reading := do
  let r ← c.settle r
  match a.action with
  | .help => .error (.shown (c.helpText long))
  | .version => .error (.shown c.versionText)
  | _ => c.store r a []

/-- Takes a switch's value: checks it now when attached, else waits for the next word. -/
def takeValue (c : Command) (r : Reading) (a : Arg) (attached : Option String) :
    Except Stop Reading :=
  match attached with
  | some v => do
    let r ← c.settle r
    c.store r a [v]
  | none => do
    let r ← c.settle r
    .ok { r with pending := some ⟨a, []⟩, awaiting := true }

/-- The switch of a later subcommand close to an unknown long name: the one whose name comes
first among the remaining words. -/
def similarElsewhere (c : Command) (name : String) (rest : List String) :
    Option (String × String) :=
  let found := c.subcommands.filterMap fun s =>
    match mostSimilar? name s.longNames, rest.idxOf? s.name with
    | some flag, some i => some (i, ("--" ++ flag, s.name))
    | _, _ => none
  let best := found.foldl (fun acc x => match acc with
    | some y => if x.1 < y.1 then some x else some y
    | none => some x) none
  best.map (·.2)

/-- Refuses an unknown long switch, suggesting a close one. -/
def unknownLong (c : Command) (r : Reading) (name : String) (rest : List String) : Stop :=
  let r := c.settleQuietly r
  let similar := mostSimilar? name c.longNames
  let elsewhere := if similar.isSome then none else c.similarElsewhere name rest
  let started := match similar with
    | some l => (c.args.find? (·.long == some l)).map (·.id) |>.toList
    | none => []
  let used := c.shownGiven (r.given.map (·.1) ++ started)
  let asValue := elsewhere.isNone && similar.isNone && !r.trailing && !c.positionals.isEmpty
  c.refuse (.unexpectedArgument ("--" ++ name) (similar.map ("--" ++ ·)) elsewhere asValue
    (c.usageWith c.requiredIds used))

/-- Reads a long switch `--name` or `--name=value`. -/
def readLong (c : Command) (r : Reading) (word : String) (rest : List String) :
    Except Stop Reading :=
  let body := String.ofList (word.toList.drop 2)
  let (name, attached) := match body.splitOn "=" with
    | [n] => (n, none)
    | n :: vs => (n, some (String.intercalate "=" vs))
    | [] => ("", none)
  match c.args.find? (·.long == some name) with
  | none => .error (c.unknownLong r name rest)
  | some a =>
    if a.takesValue then c.takeValue r a attached
    else match attached with
      | some v =>
        let used := c.shownGiven (r.given.map (·.1)) ++ [a.id]
        .error (c.refuse (.unexpectedValue a.display v (c.usageWith c.requiredIds used)))
      | none => c.runFlag r a true

/-- Reads a group of short switches. -/
def readShorts (c : Command) (r : Reading) : List Char → Except Stop Reading
  | [] => .ok r
  | ch :: more =>
    match c.args.find? (·.short == some ch) with
    | none =>
      let _r := c.settleQuietly r
      .error (c.refuse (.unexpectedArgument ("-" ++ ch.toString) none none
        (!r.trailing && !c.positionals.isEmpty) c.helpUsage))
    | some a =>
      if a.takesValue then
        let attached := String.ofList more
        let value := if attached.startsWith "=" then some (String.ofList (more.drop 1))
          else if attached.isEmpty then none else some attached
        c.takeValue r a value
      else do
        let r ← c.runFlag r a false
        c.readShorts r more

/-- Refuses a word that fills no positional argument. -/
def unplaced (c : Command) (r : Reading) (word : String) : Stop :=
  let _r := c.settleQuietly r
  if c.subcommands.isEmpty then
    c.refuse (.unexpectedArgument word none none false c.helpUsage)
  else
    let similar := similarNames word (c.subcommands.map (·.name))
    c.refuse (.unrecognizedSubcommand word similar c.helpUsage)

/-- Fills the next positional argument with a word. -/
def readPositional (c : Command) (r : Reading) (word : String) : Except Stop Reading :=
  match c.positionals[r.position]? with
  | none => .error (c.unplaced r word)
  | some p => do
    let r ← c.settle r
    .ok { r with pending := some ⟨p, [word]⟩, position := r.position + 1 }

/-- The help of the command named by the words, below this one. -/
def helpOf (c : Command) : List String → Stop
  | [] => .shown (c.helpText true)
  | w :: rest =>
    match c.subcommands.attach.find? (·.1.name == w) with
    | some ⟨s, _⟩ => s.helpOf rest
    | none => c.refuse (.unrecognizedSubcommand w [] c.helpUsage)
termination_by c
decreasing_by
  have := List.sizeOf_lt_of_mem ‹_›
  cases c
  simp_all
  omega

/-- Reads this command's words up to the end or to a subcommand, which is returned with the
words after it. -/
def readWords (c : Command) : List String → Reading →
    Except Stop (Reading × Option (Command × List String))
  | [], r => .ok (r, none)
  | w :: rest, r =>
    let sub := if r.trailing then none else c.findSub? w
    match sub with
    | some s =>
      if s.name == "help" && s.args.all (·.action != .help) then .error (c.helpOf rest)
      else .ok (r, some (s, rest))
    | none =>
      if r.trailing then do
        let r ← c.readPositional r w
        c.readWords rest r
      else if w == "--" then c.readWords rest { r with trailing := true }
      else if w.startsWith "--" then do
        let r ← c.readLong r w rest
        c.readWords rest r
      else if w.startsWith "-" && w != "-" then do
        let r ← c.readShorts r (w.toList.drop 1)
        c.readWords rest r
      else if r.awaiting then
        match r.pending with
        | some p =>
          let filled : Pending := ⟨p.arg, p.values ++ [w]⟩
          c.readWords rest { r with pending := some filled, awaiting := false }
        | none => c.readWords rest { r with awaiting := false }
      else do
        let r ← c.readPositional r w
        c.readWords rest r

/-- Checks a command's own arguments once its words, and its subcommand's, are read. -/
def validate (c : Command) (r : Reading) (hasSub : Bool) : Except Stop Unit :=
  if !hasSub && c.needsSubcommand && r.given.isEmpty then .error (.refused (c.helpText false))
  else if !hasSub && c.needsSubcommand then
    .error (c.refuse (.missingSubcommand c.binName (c.subcommands.map (·.name)) c.helpUsage))
  else
    let givenIds := r.given.map (·.1)
    let required := c.mustGive givenIds
    let missing := required.filter (!givenIds.contains ·)
    if missing.isEmpty then .ok ()
    else .error (c.refuse (.missingRequired (c.requiredWordsFrom required missing givenIds)
      (c.usageWith required (givenIds ++ missing))))

/-- Merges values given below a command into the command's: the deeper value wins. -/
def mergeValues (outer inner : List (String × String)) : List (String × String) :=
  inner ++ outer.filter fun p => (inner.lookup p.1).isNone

/-- Reads a command's words. `depth` bounds the nesting of subcommands; each level takes at
least one word, so the number of words suffices. -/
def readWith (c : Command) (words : List String) : Nat → Except Stop Invocation
  | 0 => .ok { path := [c.name], given := [], defaults := [] }
  | depth + 1 => do
    let (r, sub) ← c.readWords words {}
    let inner ← match sub with
      | some (s, rest) => (s.readWith rest depth).map some
      | none => .ok none
    let r ← c.settle r
    c.validate r inner.isSome
    let defaults := (c.args.filter fun a => (r.given.lookup a.id).isNone).filterMap fun a =>
      a.default.map (a.id, ·)
    match inner with
    | some i =>
      let given := mergeValues r.given i.given
      .ok { path := c.name :: i.path, given, defaults := mergeValues defaults i.defaults }
    | none => .ok { path := [c.name], given := r.given, defaults }

/-- Reads a command line against a completed command tree. -/
def read (c : Command) (words : List String) : Except Stop Invocation :=
  c.readWith words (words.length + 1)

end Command

end RevSync.CommandLine
