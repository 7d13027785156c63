/-! The keystream of ChaCha with eight rounds, as 32-bit words. Word `n` of a stream
is a function of the key and of `n` alone, so a stream can be read from anywhere. -/
namespace SessionReplay.Keystream

/-- The sixteen words that a block is computed on. -/
abbrev Block := Vector UInt32 16

abbrev Key := Vector UInt32 8

def rotateLeft (word amount : UInt32) : UInt32 :=
  (word <<< amount) ||| (word >>> (32 - amount))

def rotateRight (word amount : UInt32) : UInt32 :=
  (word >>> amount) ||| (word <<< ((32 - amount) % 32))

def quarterRound (block : Block) (a b c d : Fin 16) : Block :=
  let step (block : Block) (x y z : Fin 16) (amount : UInt32) : Block :=
    let block := block.set x (block[x] + block[y])
    block.set z (rotateLeft (block[z] ^^^ block[x]) amount)
  let block := step block a b d 16
  let block := step block c d b 12
  let block := step block a b d 8
  step block c d b 7

/-- Mixes the four columns, then the four diagonals. -/
def doubleRound (block : Block) : Block :=
  let block := quarterRound block 0 4 8 12
  let block := quarterRound block 1 5 9 13
  let block := quarterRound block 2 6 10 14
  let block := quarterRound block 3 7 11 15
  let block := quarterRound block 0 5 10 15
  let block := quarterRound block 1 6 11 12
  let block := quarterRound block 2 7 8 13
  quarterRound block 3 4 9 14

/-- The four words that every block begins with. -/
def constants : Vector UInt32 4 := #v[0x61707865, 0x3320646e, 0x79622d32, 0x6b206574]

/-- Constants, key, a block counter of 64 bits with its low word first, and two zero
words. -/
def initialBlock (key : Key) (counter : UInt64) : Block :=
  constants ++ key ++ (#v[counter.toUInt32, (counter >>> 32).toUInt32, 0, 0] : Vector UInt32 4)

/-- Eight rounds, added to what they started from. -/
def block (key : Key) (counter : UInt64) : Block :=
  let start := initialBlock key counter
  let mixed := doubleRound (doubleRound (doubleRound (doubleRound start)))
  start.zipWith (· + ·) mixed

def word (key : Key) (n : Nat) : UInt32 :=
  (block key (UInt64.ofNat (n / 16)))[n % 16]

/-- One step of the recurrence that spreads a seed over a key. -/
def nextState (state : UInt64) : UInt64 :=
  state * 6364136223846793005 + 11634580027462260723

/-- The key word taken from a state: its high bits, rotated by its highest five. -/
def keyWord (state : UInt64) : UInt32 :=
  rotateRight (((state >>> 18) ^^^ state) >>> 27).toUInt32 (state >>> 59).toUInt32

def stateAfter (seed : UInt64) : Nat → UInt64
  | 0 => seed
  | steps + 1 => nextState (stateAfter seed steps)

def keyOfSeed (seed : UInt64) : Key :=
  Vector.ofFn fun i => keyWord (stateAfter seed (i.val + 1))

end SessionReplay.Keystream
