/-!
# Similar names

When a word names no subcommand, switch or value, the names close to it are suggested. Closeness
is the Jaro similarity: of two texts of lengths `la` and `lb`, `m` characters match (equal, and
at most `max la lb / 2 - 1` places apart, each character used once) and `t` is half the number
of matched pairs that appear in a different order. The similarity is
`(m / la + m / lb + (m - t) / m) / 3`, and names whose similarity exceeds `7/10` are suggested.

Similarities are kept as exact fractions, so that comparing them never rounds.
-/

namespace RevSync.CommandLine

/-- A similarity as a fraction `num / den`, with `den` positive unless both are zero. -/
structure Similarity where
  num : Nat
  den : Nat
  deriving Inhabited

namespace Similarity

/-- Whether `a` is at most `b`. -/
def le (a b : Similarity) : Bool := a.num * b.den ≤ b.num * a.den

/-- Whether the similarity exceeds `7/10`. -/
def isClose (s : Similarity) : Bool := 10 * s.num > 7 * s.den

end Similarity

/-- Marks in `b` the first unmarked character equal to `c` within `[lo, hi)`, telling whether
one was found. -/
def claimMatch (b : Array Char) (taken : Array Bool) (c : Char) (lo hi : Nat) :
    Option (Array Bool) :=
  match (List.range' lo (hi - lo)).find? fun j => b.getD j ' ' == c && !taken.getD j true with
  | some j => some (taken.set! j true)
  | none => none

/-- The matched characters of `a` in order, and which characters of `b` they matched. -/
def matchCharacters (a b : Array Char) : List Char × Array Bool :=
  let range := max a.size b.size / 2 - 1
  let step := fun (acc : List Char × Array Bool) (i : Nat) =>
    let c := a.getD i ' '
    match claimMatch b acc.2 c (i - range) (min b.size (i + range + 1)) with
    | some taken => (c :: acc.1, taken)
    | none => acc
  let (picked, taken) := (List.range a.size).foldl step ([], Array.replicate b.size false)
  (picked.reverse, taken)

/-- The Jaro similarity of two texts. -/
def jaro (s t : String) : Similarity :=
  let a := s.toList.toArray
  let b := t.toList.toArray
  if a.size == 0 && b.size == 0 then ⟨1, 1⟩
  else if a.size == 0 || b.size == 0 then ⟨0, 1⟩
  else
    let (fromA, taken) := matchCharacters a b
    let fromB := ((List.range b.size).filter fun j => taken.getD j false).map fun j => b.getD j ' '
    let m := fromA.length
    let swapped := ((fromA.zip fromB).filter fun p => p.1 != p.2).length / 2
    if m == 0 then ⟨0, 1⟩
    else ⟨m * m * b.size + m * m * a.size + (m - swapped) * a.size * b.size,
      3 * a.size * b.size * m⟩

/-- Inserts a scored name after every entry scoring at most as much. -/
def insertByScore (entry : Similarity × String) :
    List (Similarity × String) → List (Similarity × String)
  | [] => [entry]
  | e :: rest => if e.1.le entry.1 then e :: insertByScore entry rest else entry :: e :: rest

/-- The candidates close to a word, least similar first; among equally similar ones the
order of the candidates is kept. -/
def similarNames (word : String) (candidates : List String) : List String :=
  let scored := (candidates.map fun c => (jaro word c, c)).filter fun p => p.1.isClose
  (scored.foldl (fun acc e => insertByScore e acc) []).map Prod.snd

/-- The candidate most similar to a word, the last among equals. -/
def mostSimilar? (word : String) (candidates : List String) : Option String :=
  (similarNames word candidates).getLast?

end RevSync.CommandLine
