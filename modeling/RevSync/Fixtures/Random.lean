/-!
# Reproducible random draws

Draws come from a 64-bit linear congruential generator: each step replaces the state `x` by
`6364136223846793005 * x + 1442695040888963407` modulo `2^64`, and a draw reads the high half of
the new state, whose bits have the longest periods. A seed fixes every draw after it.
-/

namespace RevSync

/-- The state of the generator. -/
structure Rng where
  state : UInt64
  deriving Inhabited

namespace Rng

/-- One step of the generator. -/
def step (x : UInt64) : UInt64 := 6364136223846793005 * x + 1442695040888963407

end Rng

/-- Computations that draw random values. -/
abbrev Draw := StateM Rng

namespace Draw

/-- A 32-bit draw: the high half of the next state. -/
def word : Draw Nat := modifyGet fun g =>
  let s := Rng.step g.state
  ((s >>> 32).toNat, ⟨s⟩)

/-- A draw below `n`, or 0 when `n` is 0. -/
def below (n : Nat) : Draw Nat := do
  let w ← word
  pure (if n == 0 then 0 else w % n)

/-- A draw in `[lo, hi]`. -/
def between (lo hi : Nat) : Draw Nat := do pure (lo + (← below (hi + 1 - lo)))

/-- A fair coin. -/
def coin : Draw Bool := do pure ((← below 2) == 1)

/-- A 64-bit signed integer. -/
def int64 : Draw Int := do
  let hi ← word
  let lo ← word
  let n : Nat := hi * Nat.pow 2 32 + lo
  pure (if n < Nat.pow 2 63 then (n : Int) else (n : Int) - Int.pow 2 64)

/-- One element of a non-empty list. -/
def pick {α : Type} [Inhabited α] (xs : List α) : Draw α := do pure (xs.getD (← below xs.length) default)

/-- `n` draws. -/
def replicate {α : Type} (n : Nat) (d : Draw α) : Draw (List α) :=
  (List.range n).mapM fun _ => d

end Draw

end RevSync
