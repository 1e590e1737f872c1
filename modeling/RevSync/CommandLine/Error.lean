/-!
# Command-line errors

Every way a command line can be refused, and the message shown for it. A message is the error
line, then suggestions each on a line of its own (`tip: ...`), then the usage line the error
calls for, and last, for commands that have a help switch, where to look for more.
-/

namespace RevSync.CommandLine

/-- Why a command line is refused. -/
inductive ArgError where
  /-- A switch or word the command does not take. `similar` is a switch of the command close to
  it; `elsewhere` is a switch of a later subcommand close to it, with that subcommand's name;
  `asValue` suggests passing the word after `--`. -/
  | unexpectedArgument (arg : String) (similar : Option String)
      (elsewhere : Option (String × String)) (asValue : Bool) (usage : String)
  /-- A word where a subcommand is needed, with the subcommands close to it. -/
  | unrecognizedSubcommand (name : String) (similar : List String) (usage : String)
  /-- A value that is none of the accepted names. -/
  | invalidValue (arg value : String) (possible : List String) (similar : Option String)
  /-- No value, or an empty one, for an argument that needs one. -/
  | missingValue (arg : String) (possible : List String)
  /-- A value refused for a reason. -/
  | refusedValue (arg value reason : String)
  /-- A value attached to a flag. -/
  | unexpectedValue (arg value usage : String)
  /-- An argument given twice. -/
  | repeated (arg usage : String)
  /-- Required arguments that were not given. -/
  | missingRequired (missing : List String) (usage : String)
  /-- A command that needs a subcommand was given none. -/
  | missingSubcommand (name : String) (subcommands : List String) (usage : String)
  deriving Inhabited

namespace ArgError

/-- The first line of the message. -/
def headline : ArgError → String
  | .unexpectedArgument arg .. => "unexpected argument '" ++ arg ++ "' found"
  | .unrecognizedSubcommand name .. => "unrecognized subcommand '" ++ name ++ "'"
  | .invalidValue arg value .. => "invalid value '" ++ value ++ "' for '" ++ arg ++ "'"
  | .missingValue arg _ => "a value is required for '" ++ arg ++ "' but none was supplied"
  | .refusedValue arg value reason =>
    "invalid value '" ++ value ++ "' for '" ++ arg ++ "': " ++ reason
  | .unexpectedValue arg value _ =>
    "unexpected value '" ++ value ++ "' for '" ++ arg ++ "' found; no more were expected"
  | .repeated arg _ => "the argument '" ++ arg ++ "' cannot be used multiple times"
  | .missingRequired missing _ =>
    "the following required arguments were not provided:" ++
      String.join (missing.map ("\n  " ++ ·))
  | .missingSubcommand name _ _ =>
    "'" ++ name ++ "' requires a subcommand but one was not provided"

/-- A value written in a list: quoted when it holds white space. -/
def listed (v : String) : String :=
  if v.any Char.isWhitespace then "\"" ++ v ++ "\"" else v

/-- The line listing the accepted values or subcommands, if there are any. -/
def valueList (title : String) (values : List String) : String :=
  if values.isEmpty then ""
  else "\n  [" ++ title ++ ": " ++ String.intercalate ", " (values.map listed) ++ "]"

/-- What follows the first line before the suggestions. -/
def detail : ArgError → String
  | .invalidValue _ _ possible _ => valueList "possible values" possible
  | .missingValue _ possible => valueList "possible values" possible
  | .missingSubcommand _ subs _ => valueList "subcommands" subs
  | _ => ""

/-- A suggestion of one or more names. -/
def similarTip (what : String) : List String → String
  | [n] => "  tip: a similar " ++ what ++ " exists: '" ++ n ++ "'"
  | ns => "  tip: some similar " ++ what ++ "s exist: " ++
      String.intercalate ", " (ns.map fun n => "'" ++ n ++ "'")

/-- The suggestion lines, in the order they are shown. -/
def tips : ArgError → List String
  | .unexpectedArgument arg similar elsewhere asValue _ =>
    (match similar with
      | some s => [similarTip "argument" [s]]
      | none => []) ++
    (if asValue then ["  tip: to pass '" ++ arg ++ "' as a value, use '-- " ++ arg ++ "'"]
      else []) ++
    (match elsewhere with
      | some (flag, sub) => ["  tip: '" ++ sub ++ " " ++ flag ++ "' exists"]
      | none => [])
  | .unrecognizedSubcommand _ similar _ => if similar.isEmpty then [] else [similarTip "subcommand" similar]
  | .invalidValue _ _ _ (some s) => [similarTip "value" [s]]
  | _ => []

/-- The usage line the error shows, if any. -/
def usage? : ArgError → Option String
  | .unexpectedArgument _ _ _ _ u => some u
  | .unrecognizedSubcommand _ _ u => some u
  | .unexpectedValue _ _ u => some u
  | .repeated _ u => some u
  | .missingRequired _ u => some u
  | .missingSubcommand _ _ u => some u
  | _ => none

/-- The whole message. `helpSwitch` is how the command asks for help, if it can. -/
def render (e : ArgError) (helpSwitch : Option String) : String :=
  let tipText := match e.tips with
    | [] => ""
    | ts => "\n" ++ String.join (ts.map ("\n" ++ ·))
  let usageText := match e.usage? with
    | some u => "\n\nUsage: " ++ u
    | none => ""
  let more := match helpSwitch with
    | some h => "\n\nFor more information, try '" ++ h ++ "'.\n"
    | none => "\n"
  "error: " ++ e.headline ++ e.detail ++ tipText ++ usageText ++ more

end ArgError

end RevSync.CommandLine
