import TableDraw.Random.ChaCha
import TableDraw.Random.Uniform

set_option autoImplicit false

/-!
Shuffling a list by swaps. Slots are visited from the last one down to the second; each is swapped
with a slot at or before it. Which one is a matter of choice, and `shuffle` takes the choices from
the draws of a seed.
-/

namespace TableDraw.Shuffle

/-- Swaps slots `last`, `last - 1`, … 1 each with the slot chosen for it, in that order. -/
def swapDown {α : Type} : (choices : List Nat) → (last : Nat) → Array α → Array α
  | choice :: rest, last + 1, xs => swapDown rest last (xs.swapIfInBounds (last + 1) choice)
  | _, _, xs => xs

/-- One choice for each of the slots `last`, `last - 1`, … 1: slot `i` takes the next accepted draw
from `position` on and reduces it to an index in `0..i`. The stream starts over after
`ChaCha.period` draws, so a search of that length misses no accepted draw. -/
def choices (draw : Nat → UInt64) : (last position : Nat) → List Nat
  | 0, _ => []
  | last + 1, position =>
      let bound := UInt64.ofNat (last + 2)
      let hit := Uniform.firstAccepted draw bound ChaCha.period position
      Uniform.reduce bound (draw hit) :: choices draw last (hit + 1)

end TableDraw.Shuffle

namespace TableDraw

/-- Shuffles a list with the draws of a seed. -/
def shuffle {α : Type} (xs : List α) (seed : Int64) : List α :=
  let last := xs.length - 1
  let key := ChaCha.key seed
  let table := ChaCha.table key last
  (Shuffle.swapDown (Shuffle.choices (ChaCha.lookup key table) last 0) last xs.toArray).toList

end TableDraw
