import ByteBench.Machine.Memory

/-!
# Reproducible noise

Bytes that look random but are the same for the same seed: the low bytes of the words of a ChaCha
stream of twelve rounds, with a counter of 64 bits that starts at zero and an empty nonce. The key
is spread from the seed by a permuted congruential generator.
-/

namespace ByteBench

namespace Keystream

def rotateLeft (x : UInt32) (n : UInt32) : UInt32 := (x <<< n) ||| (x >>> (32 - n))

-- a turn by nothing must not shift by 32, hence the remainder
def rotateRight (x : UInt32) (n : UInt32) : UInt32 := (x >>> n) ||| (x <<< ((32 - n) % 32))

/-- One step of the generator that spreads a seed: the word that it gives, and its next state. -/
def spreadStep (state : UInt64) : UInt32 × UInt64 :=
  let state := state * 6364136223846793005 + 11634580027462260723
  let word := (((state >>> 18) ^^^ state) >>> 27).toUInt32
  (rotateRight word (state >>> 59).toUInt32, state)

def spread : (n : Nat) → UInt64 → Vector UInt32 n × UInt64
  | 0, state => (#v[], state)
  | n + 1, state =>
    let (words, state) := spread n state
    let (word, state) := spreadStep state
    (words.push word, state)

abbrev blockSize : Nat := 16

/-- So that numerals are places in a block. -/
instance : @NeZero Nat Zero.ofOfNat0 blockSize := ⟨Nat.succ_ne_zero 15⟩

abbrev Block := Vector UInt32 blockSize

/-- One half of the mixing of four words: two additions, each followed by a turn. -/
def mixHalf (s : Block) (a b c d : Fin blockSize) (first second : UInt32) : Block :=
  let s := s.set a (s[a] + s[b])
  let s := s.set d (rotateLeft (s[d] ^^^ s[a]) first)
  let s := s.set c (s[c] + s[d])
  s.set b (rotateLeft (s[b] ^^^ s[c]) second)

def quarterRound (s : Block) (a b c d : Fin blockSize) : Block :=
  mixHalf (mixHalf s a b c d 16 12) a b c d 8 7

/-- Mixes the columns and then the diagonals of a block. -/
def doubleRound (s : Block) : Block :=
  let s := quarterRound s 0 4 8 12
  let s := quarterRound s 1 5 9 13
  let s := quarterRound s 2 6 10 14
  let s := quarterRound s 3 7 11 15
  let s := quarterRound s 0 5 10 15
  let s := quarterRound s 1 6 11 12
  let s := quarterRound s 2 7 8 13
  quarterRound s 3 4 9 14

/-- The block that the rounds start from: four constants, the key, the counter and the nonce. -/
def start (key : Vector UInt32 8) (counter : UInt64) : Block :=
  -- the constants are the ASCII text of expand 32-byte k
  #v[0x61707865, 0x3320646E, 0x79622D32, 0x6B206574,
    key[0], key[1], key[2], key[3], key[4], key[5], key[6], key[7],
    counter.toUInt32, (counter >>> 32).toUInt32, 0, 0]

def block (key : Vector UInt32 8) (counter : UInt64) : Block :=
  -- twelve rounds are six double rounds
  let initial := start key counter
  Vector.zipWith (· + ·) (Nat.repeat doubleRound 6 initial) initial

end Keystream

structure Keystream where
  key : Vector UInt32 8
  /-- The counter of the next block. -/
  counter : UInt64 := 0
  /-- The words of the last block that have not been drawn. -/
  pending : List UInt32 := []

namespace Keystream

def ofSeed (seed : UInt64) : Keystream := { key := (spread 8 seed).1 }

def nextWord (k : Keystream) : UInt32 × Keystream :=
  match k.pending with
  | word :: pending => (word, { k with pending })
  | [] =>
    -- the first word of a new block is drawn at once, so that fifteen are left
    let words := block k.key k.counter
    (words[0], { k with counter := k.counter + 1, pending := words.toList.drop 1 })

instance : ByteSource Keystream where
  next k :=
    let (word, k) := k.nextWord
    (word.toUInt8, k)

end Keystream

end ByteBench
