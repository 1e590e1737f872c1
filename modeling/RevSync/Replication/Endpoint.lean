import RevSync.Replication.Error
import RevSync.Text.Quoted

/-!
# Endpoint URLs

A remote database is named by `ws://host[:port]/database` or, over TLS, `wss://…`. The scheme's
case does not matter; the port defaults to 4984; a host that holds a colon is written in
brackets. Reading is deliberately simple: the authority ends at the first `/`, trailing slashes
of the path are dropped and what is left must be one non-empty segment; without brackets the
port is whatever follows the last colon.
-/

namespace RevSync

/-- The port used when a URL names none. -/
def defaultPort : UInt16 := 4984

/-- A remote database's address. -/
structure EndpointUrl where
  tls : Bool
  host : String
  port : UInt16
  database : String
  deriving DecidableEq, Repr, Inhabited

namespace EndpointUrl

/-- `host:port`, with the host in brackets when it holds a colon. -/
def authority (u : EndpointUrl) : String :=
  if u.host.contains ':' then "[" ++ u.host ++ "]:" ++ toString u.port.toNat
  else u.host ++ ":" ++ toString u.port.toNat

/-- The URL's text, with the port always written. -/
def toText (u : EndpointUrl) : String :=
  (if u.tls then "wss" else "ws") ++ "://" ++ u.authority ++ "/" ++ u.database

/-- Splits at the first occurrence of `sep`, which must not be empty. -/
def splitFirst (s sep : String) : Option (String × String) :=
  if sep.isEmpty then none else go [] s.toList
where
  /-- Looks for `sep` at the start of the text left, `before` holding what was passed, reversed. -/
  go (before : List Char) : List Char → Option (String × String)
    | [] => none
    | c :: rest =>
      if sep.toList.isPrefixOf (c :: rest) then
        some (String.ofList before.reverse, String.ofList ((c :: rest).drop sep.length))
      else go (c :: before) rest

/-- Splits at the last occurrence of `sep`. -/
def splitLast (s : String) (sep : Char) : Option (String × String) :=
  match (s.toList.reverse.span (· != sep)) with
  | (after, _ :: before) => some (String.ofList before.reverse, String.ofList after.reverse)
  | _ => none

/-- A decimal 16-bit port with an optional leading `+`. -/
def parsePort (s : String) : Option UInt16 :=
  let digits := match s.toList with
    | '+' :: rest => rest
    | cs => cs
  if digits.isEmpty || !digits.all fun c => '0' ≤ c && c ≤ '9' then none
  else
    let n : Nat := digits.foldl (fun acc c => acc * 10 + (c.toNat - 48)) 0
    if n < Nat.pow 2 16 then some n.toUInt16 else none

/-- Drops every trailing `/`. -/
def dropTrailingSlashes (s : String) : String :=
  String.ofList (s.toList.reverse.dropWhile (· == '/')).reverse

/-- Host and optional port text of an authority. -/
def splitAuthority (authority : String) (invalid : String → ReplicationError) :
    Except ReplicationError (String × Option String) :=
  match authority.toList with
  | '[' :: bracketed =>
    match bracketed.span (· != ']') with
    | (host, ']' :: after) =>
      match after with
      | [] => .ok (String.ofList host, none)
      | ':' :: port => .ok (String.ofList host, some (String.ofList port))
      | _ => .error (invalid "unexpected characters after host")
    | _ => .error (invalid "unterminated IPv6 address")
  | _ =>
    match splitLast authority ':' with
    | some (host, port) => .ok (host, some port)
    | none => .ok (authority, none)

/-- Reads an endpoint URL; the error names what is wrong and quotes the text. -/
def parse (s : String) : Except ReplicationError EndpointUrl := do
  let invalid := fun (why : String) => ReplicationError.invalidConfiguration (why ++ ": " ++ Text.quote s)
  let some (scheme, rest) := splitFirst s "://" | .error (invalid "missing scheme")
  let tls ← match scheme.toList.map Char.toLower with
    | ['w', 's'] => pure false
    | ['w', 's', 's'] => pure true
    | _ => .error (invalid "scheme must be ws or wss")
  let some (authority, path) := splitFirst rest "/" | .error (invalid "missing database")
  let database := dropTrailingSlashes path
  if database.isEmpty || database.contains '/' then
    .error (invalid "path must be a single database name")
  let (host, port) ← splitAuthority authority invalid
  if host.isEmpty then .error (invalid "missing host")
  let port ← match port with
    | some p => match parsePort p with
      | some n => pure n
      | none => .error (invalid "invalid port")
    | none => pure defaultPort
  pure { tls, host, port, database }

end EndpointUrl

end RevSync
