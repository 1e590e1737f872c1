/-!
# Masking dates in free text

Diagnostics that show the current date cannot be compared from one day to the next, so dates
near the present are replaced by `$time`. Two forms are recognised: `YYYY-MM-DDTHH:MM:SS` with an
optional fraction and `Z`, and `YYYY-MM-DD H:MM:SS` (one or two hour digits) with an optional
fraction followed by a ` +hh:mm:ss` or ` -hh:mm:ss` offset. A date is masked when its year lies
in the given window; other text is kept.
-/

namespace RevSync

namespace Text

/-- The digits at the front of some characters, at most `max` of them. -/
def leadingDigits (cs : List Char) (max : Nat) : List Char := (cs.takeWhile Char.isDigit).take max

/-- The value of decimal digits. -/
def digitsValue (cs : List Char) : Nat := cs.foldl (fun acc c => acc * 10 + (c.toNat - '0'.toNat)) 0

/-- Exactly `n` digits then the rest. -/
def exactDigits (cs : List Char) (n : Nat) : Option (Nat × List Char) :=
  let ds := leadingDigits cs n
  if ds.length == n then some (digitsValue ds, cs.drop n) else none

/-- One expected character then the rest. -/
def literal (c : Char) : List Char → Option (List Char)
  | x :: rest => if x == c then some rest else none
  | [] => none

/-- An optional fraction `.ddd`. -/
def fraction (cs : List Char) : List Char :=
  match cs with
  | '.' :: rest =>
    let ds := rest.takeWhile Char.isDigit
    if ds.isEmpty then cs else rest.drop ds.length
  | _ => cs

/-- The year of a date-time at the front of some characters and what follows it. -/
def dateTime (cs : List Char) : Option (Nat × List Char) := do
  let (year, r) ← exactDigits cs 4
  let r ← literal '-' r
  let (_, r) ← exactDigits r 2
  let r ← literal '-' r
  let (_, r) ← exactDigits r 2
  match r with
  | 'T' :: r => do
    let (_, r) ← exactDigits r 2
    let r ← literal ':' r
    let (_, r) ← exactDigits r 2
    let r ← literal ':' r
    let (_, r) ← exactDigits r 2
    let r := fraction r
    let r := match r with
      | 'Z' :: rest => rest
      | _ => r
    pure (year, r)
  | ' ' :: r => do
    let hour := leadingDigits r 2
    if hour.isEmpty then none
    let r := r.drop hour.length
    let r ← literal ':' r
    let (_, r) ← exactDigits r 2
    let r ← literal ':' r
    let (_, r) ← exactDigits r 2
    let r := fraction r
    let r ← literal ' ' r
    let r ← match r with
      | '+' :: rest => some rest
      | '-' :: rest => some rest
      | _ => none
    let (_, r) ← exactDigits r 2
    let r ← literal ':' r
    let (_, r) ← exactDigits r 2
    let r ← literal ':' r
    let (_, r) ← exactDigits r 2
    pure (year, r)
  | _ => none

/-- Replaces the dates whose year lies in `[low, high]` by `$time`; each step consumes at least
one character. -/
def maskDatesIn (low high : Nat) : Nat → List Char → List Char
  | 0, cs => cs
  | _ + 1, [] => []
  | fuel + 1, c :: rest =>
    match dateTime (c :: rest) with
    | some (year, after) =>
      if low ≤ year && year ≤ high then "$time".toList ++ maskDatesIn low high fuel after
      else c :: maskDatesIn low high fuel rest
    | none => c :: maskDatesIn low high fuel rest

/-- The text with the dates of years in `[low, high]` replaced by `$time`. -/
def maskDates (low high : Nat) (s : String) : String :=
  String.ofList (maskDatesIn low high (s.length + 1) s.toList)

end Text

end RevSync
