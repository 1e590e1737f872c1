/-!
# IP addresses

IPv4 addresses are four decimal octets (no leading zeros); IPv6 addresses are eight groups of up
to four hex digits, where one `::` stands for a run of zero groups and the last two groups may be
written as an IPv4 address. Text is read IPv4 first, then IPv6.

IPv6 addresses are written in lowercase with the longest run of two or more zero groups (the
first such run on a tie) shortened to `::`; an IPv4-mapped address is written `::ffff:a.b.c.d`.
-/

namespace RevSync

/-- An IP address. -/
inductive IpAddr where
  | v4 (octets : List Nat)
  | v6 (groups : List Nat)
  deriving DecidableEq, Repr, Inhabited

namespace IpAddr

/-- The loopback address `127.0.0.1`. -/
def localhost : IpAddr := .v4 [127, 0, 0, 1]

/-- Whether the address is the unspecified one. -/
def isUnspecified : IpAddr → Bool
  | .v4 os => os.all (· == 0)
  | .v6 gs => gs.all (· == 0)

/-- Whether the address is a loopback address (`127.0.0.0/8` or `::1`). -/
def isLoopback : IpAddr → Bool
  | .v4 os => os.headD 0 == 127
  | .v6 gs => gs == [0, 0, 0, 0, 0, 0, 0, 1]

/-- Whether the address is IPv4. -/
def isV4 : IpAddr → Bool
  | .v4 _ => true
  | .v6 _ => false

/-- The value of decimal digits, if they are an octet without leading zeros. -/
def octet? (s : String) : Option Nat :=
  let cs := s.toList
  if cs.isEmpty || cs.length > 3 || !cs.all Char.isDigit then none
  else if cs.length > 1 && cs.head? == some '0' then none
  else
    let v := cs.foldl (fun acc c => acc * 10 + (c.toNat - '0'.toNat)) 0
    if v > 255 then none else some v

/-- The octets of an IPv4 address text. -/
def parseV4 (s : String) : Option (List Nat) := do
  let parts := s.splitOn "."
  if parts.length != 4 then none
  parts.mapM octet?

/-- The value of a hex group of one to four digits. -/
def group? (s : String) : Option Nat :=
  let cs := s.toList
  if cs.isEmpty || cs.length > 4 then none
  else cs.foldlM (fun acc c =>
    let d := if c.isDigit then some (c.toNat - '0'.toNat)
      else if 'a' ≤ c && c ≤ 'f' then some (c.toNat - 'a'.toNat + 10)
      else if 'A' ≤ c && c ≤ 'F' then some (c.toNat - 'A'.toNat + 10)
      else none
    d.map (acc * 16 + ·)) 0

/-- The groups of colon-separated parts, the last of which may be an IPv4 address. -/
def groupsOf (parts : List String) (allowV4 : Bool) : Option (List Nat) :=
  match parts.reverse with
  | [] => some []
  | last :: revInit => do
    let init ← revInit.reverse.mapM group?
    match group? last with
    | some g => some (init ++ [g])
    | none =>
      if !allowV4 then none
      else do
        let os ← parseV4 last
        match os with
        | [a, b, c, d] => some (init ++ [a * 256 + b, c * 256 + d])
        | _ => none

/-- The groups of an IPv6 address text. -/
def parseV6 (s : String) : Option (List Nat) := do
  match s.splitOn "::" with
  | [whole] =>
    let gs ← groupsOf (whole.splitOn ":") true
    if gs.length == 8 then some gs else none
  | [front, back] =>
    let head ← if front.isEmpty then some [] else groupsOf (front.splitOn ":") false
    let tail ← if back.isEmpty then some [] else groupsOf (back.splitOn ":") true
    if head.length + tail.length ≥ 8 then none
    else some (head ++ List.replicate (8 - head.length - tail.length) 0 ++ tail)
  | _ => none

/-- The address a text names. -/
def parse? (s : String) : Option IpAddr :=
  match parseV4 s with
  | some os => some (.v4 os)
  | none => (parseV6 s).map .v6

/-- Lowercase hex of a group. -/
def hexGroup (g : Nat) : String := String.ofList (Nat.toDigits 16 g)

/-- One group `g` at index `i` of the scan for the longest run of zero groups: the longest run so
far and the run ending at the group, each as start and length. -/
def zeroRunStep (acc : Option (Nat × Nat) × Option (Nat × Nat)) (gi : Nat × Nat) :
    Option (Nat × Nat) × Option (Nat × Nat) :=
  let (best, cur) := acc
  let (g, i) := gi
  if g == 0 then
    let cur := match cur with
      | some (s, n) => (s, n + 1)
      | none => (i, 1)
    let best := match best with
      | some (_, bn) => if cur.2 > bn then some cur else best
      | none => some cur
    (best, some cur)
  else (best, none)

/-- The longest run of zero groups (at least two) as start and length. -/
def zeroRun (gs : List Nat) : Option (Nat × Nat) :=
  (gs.zipIdx.foldl zeroRunStep (none, none)).1.bind fun (s, n) =>
    if n ≥ 2 then some (s, n) else none

/-- The address's text. -/
def toText : IpAddr → String
  | .v4 os => ".".intercalate (os.map toString)
  | .v6 gs =>
    if gs.take 5 == [0, 0, 0, 0, 0] && gs.getD 5 0 == 0xffff then
      let a := gs.getD 6 0
      let b := gs.getD 7 0
      "::ffff:" ++ ".".intercalate ([a / 256, a % 256, b / 256, b % 256].map toString)
    else
      match zeroRun gs with
      | some (s, n) =>
        ":".intercalate ((gs.take s).map hexGroup) ++ "::" ++
          ":".intercalate ((gs.drop (s + n)).map hexGroup)
      | none => ":".intercalate (gs.map hexGroup)

/-- The text of a socket address: `ip:port`, with brackets around IPv6. -/
def socketText (ip : IpAddr) (port : Nat) : String :=
  match ip with
  | .v4 _ => ip.toText ++ ":" ++ toString port
  | .v6 _ => "[" ++ ip.toText ++ "]:" ++ toString port

/-- Whether listening sockets on the same port at these addresses collide: the same address, or
a wildcard covering the other (an IPv6 wildcard also covers IPv4). -/
def overlaps (a b : IpAddr) : Bool :=
  a == b ||
    (a.isUnspecified && (a.isV4 == b.isV4 || !a.isV4)) ||
    (b.isUnspecified && (a.isV4 == b.isV4 || !b.isV4))

end IpAddr

end RevSync
