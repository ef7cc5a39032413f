set_option autoImplicit false

/-!
A reproducible source of 64-bit draws: the ChaCha block function with eight rounds, run over
successive block counters under a key that is stretched from a 64-bit seed.
-/

namespace TableDraw.ChaCha

/-- Sixteen 32-bit words. -/
abbrev Block := Vector UInt32 16

/-- Rotation to the left by `k` places, for `0 < k < 32`. -/
def rotateLeft (x k : UInt32) : UInt32 := (x <<< k) ||| (x >>> (32 - k))

/-- One half of a quarter round's step: `a += b; d ^= a; d <<<= k`. -/
def mix (s : Block) (a b d : Fin 16) (k : UInt32) : Block :=
  let sum := s[a] + s[b]
  (s.set a sum).set d (rotateLeft (s[d] ^^^ sum) k)

/-- A quarter round on four of the words. -/
def quarterRound (s : Block) (a b c d : Fin 16) : Block :=
  mix (mix (mix (mix s a b d 16) c d b 12) a b d 8) c d b 7

/-- A round on the columns and a round on the diagonals. -/
def doubleRound (s : Block) : Block :=
  let s := quarterRound s 0 4 8 12
  let s := quarterRound s 1 5 9 13
  let s := quarterRound s 2 6 10 14
  let s := quarterRound s 3 7 11 15
  let s := quarterRound s 0 5 10 15
  let s := quarterRound s 1 6 11 12
  let s := quarterRound s 2 7 8 13
  quarterRound s 3 4 9 14

/-- The words a block starts from: four constants, the key, the counter with its low half first, and
two zeros. -/
def start (key : Vector UInt32 8) (counter : UInt64) : Block :=
  let constants : Vector UInt32 4 := #v[0x61707865, 0x3320646e, 0x79622d32, 0x6b206574]
  let place : Vector UInt32 4 := #v[counter.toUInt32, (counter >>> 32).toUInt32, 0, 0]
  constants ++ key ++ place

/-- The output block for a counter: eight rounds, then the start added word by word. -/
def block (key : Vector UInt32 8) (counter : UInt64) : Block :=
  let first := start key counter
  (doubleRound (doubleRound (doubleRound (doubleRound first)))).zipWith (· + ·) first

/-- The state that follows `s` in the linear congruential generator that stretches seeds. -/
def nextState (s : UInt64) : UInt64 := s * 6364136223846793005 + 11634580027462260723

/-- The key word of a generator state: its high bits folded together and rotated by the top five. -/
def keyWord (s : UInt64) : UInt32 :=
  let folded := (((s >>> 18) ^^^ s) >>> 27).toUInt32
  let k := (s >>> 59).toUInt32
  (folded >>> k) ||| (folded <<< ((32 - k) &&& 31))

/-- The generator's state after `n` steps. -/
def stateAfter (seed : UInt64) : Nat → UInt64
  | 0 => seed
  | n + 1 => nextState (stateAfter seed n)

/-- The key of a seed: the words of its first eight states. -/
def key (seed : Int64) : Vector UInt32 8 :=
  Vector.ofFn (fun i => keyWord (stateAfter seed.toUInt64 (i.val + 1)))

/-- The eight draws of a block: two successive words each, the low half first. -/
def blockDraws (key : Vector UInt32 8) (index : Nat) : Vector UInt64 8 :=
  let words := block key (UInt64.ofNat index)
  Vector.ofFn (fun i => words[2 * i.val].toUInt64 ||| (words[2 * i.val + 1].toUInt64 <<< 32))

/-- The draw at a position of the stream. -/
def draw (key : Vector UInt32 8) (position : Nat) : UInt64 :=
  (blockDraws key (position / 8)).get ⟨position % 8, Nat.mod_lt _ (by decide)⟩

/-- The number of draws after which the block counter, and with it the stream, starts over. -/
def period : Nat := 8 * UInt64.size

/-- The draws of the first blocks, enough for `count` draws. -/
def table (key : Vector UInt32 8) (count : Nat) : Array (Vector UInt64 8) :=
  Array.ofFn (fun i : Fin ((count + 7) / 8) => blockDraws key i.val)

/-- The draw at a position, looked up where the table holds it. -/
def lookup (key : Vector UInt32 8) (table : Array (Vector UInt64 8)) (position : Nat) : UInt64 :=
  if h : position / 8 < table.size then
    table[position / 8].get ⟨position % 8, Nat.mod_lt _ (by decide)⟩
  else draw key position

/-- The table holds the stream's own draws. -/
theorem lookup_table (key : Vector UInt32 8) (count : Nat) :
    lookup key (table key count) = draw key := by
  funext position
  unfold lookup
  split
  · simp [table, draw]
  · rfl

end TableDraw.ChaCha
