import RevSync.CommandLine.Grammar

/-!
# Reading values

A value given to an argument is checked against the argument's kind. Whole numbers are read
as 64-bit signed integers (an optional sign, then decimal digits, read left to right so that
the first offending character decides the error) and then checked against the argument's range.
-/

namespace RevSync.CommandLine

/-- Why a value is not a 64-bit integer. -/
inductive IntegerFault where
  | empty
  | invalidDigit
  | tooLarge
  | tooSmall
  deriving DecidableEq, Repr

namespace IntegerFault

/-- The fault's message. -/
def message : IntegerFault → String
  | .empty => "cannot parse integer from empty string"
  | .invalidDigit => "invalid digit found in string"
  | .tooLarge => "number too large to fit in target type"
  | .tooSmall => "number too small to fit in target type"

end IntegerFault

/-- The largest 64-bit signed integer. -/
def int64Max : Int := 9223372036854775807

/-- The smallest 64-bit signed integer. -/
def int64Min : Int := -9223372036854775808

/-- Reads the digits of a number with the given sign, failing at the first character that is
not a digit or that takes the number out of the 64-bit range. -/
def readDigits (negative : Bool) : List Char → Int → Except IntegerFault Int
  | [], acc => .ok acc
  | c :: rest, acc =>
    if c.isDigit then
      let d : Int := (c.toNat - '0'.toNat : Nat)
      if negative then
        let next := acc * 10 - d
        if next < int64Min then .error .tooSmall else readDigits negative rest next
      else
        let next := acc * 10 + d
        if next > int64Max then .error .tooLarge else readDigits negative rest next
    else .error .invalidDigit

/-- Reads a 64-bit signed integer. -/
def readInt64 (s : String) : Except IntegerFault Int :=
  match s.toList with
  | [] => .error .empty
  | ['+'] | ['-'] => .error .invalidDigit
  | '+' :: rest => readDigits false rest 0
  | '-' :: rest => readDigits true rest 0
  | cs => readDigits false cs 0

/-- Why a value is refused. -/
inductive ValueFault where
  /-- No value, or an empty one where one is needed. -/
  | missing
  /-- Not one of the accepted names. -/
  | notChoice
  /-- Refused with a reason; `shown` is how the value is quoted. -/
  | invalid (shown reason : String)
  deriving DecidableEq, Repr

/-- Checks a value against a kind, yielding the value as it is stored. -/
def checkValue (kind : ValueKind) (v : String) : Except ValueFault String :=
  match kind with
  | .text => .ok v
  | .path => if v.isEmpty then .error .missing else .ok v
  | .choice vs =>
    if v.isEmpty then .error .missing
    else if vs.any (·.1 == v) then .ok v else .error .notChoice
  | .integer lo hi =>
    match readInt64 v with
    | .error f => .error (.invalid v f.message)
    | .ok n =>
      if lo ≤ n && n ≤ hi then .ok (toString n)
      else .error (.invalid (toString n) (toString n ++ " is not in " ++ toString lo ++ "..=" ++
        toString hi))

end RevSync.CommandLine
