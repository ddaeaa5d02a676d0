/-
This file computes the 256-bit Keccak digest: the sponge over a state of five by five words
of 64 bits, with blocks of 136 bytes and the padding of the first submission, whose first
padding byte is one. (The later standard changed that byte to six and so has other digests.)
-/

namespace BallotWatch.Digest

/-! ### The permutation -/

/-- The state: twenty-five words, the word of column `x` and row `y` at place `x + 5 * y`. -/
abbrev Sponge := List UInt64

/-- The word of a column and a row, both counted around in fives. -/
def Sponge.word (state : Sponge) (x y : Nat) : UInt64 :=
  List.getD state (x % 5 + 5 * (y % 5)) 0

/-- The state whose word at each place is given. -/
def Sponge.tabulate (word : Nat → Nat → UInt64) : Sponge :=
  (List.range 25).map fun place => word (place % 5) (place / 5)

/-- Turns a word around to the left by less than 64 places. -/
def rotate (word : UInt64) (places : Nat) : UInt64 :=
  if places = 0 then word
  else (word <<< UInt64.ofNat places) ||| (word >>> UInt64.ofNat (64 - places))

/-- How far the word of each place is turned. -/
def turns : List Nat :=
  [0, 1, 62, 28, 27, 36, 44, 6, 55, 20, 3, 10, 43, 25, 39, 41, 45, 15, 21, 8, 18, 2, 61, 56, 14]

/-- The constants that set the rounds apart. -/
def roundConstants : List UInt64 :=
  [0x0000000000000001, 0x0000000000008082, 0x800000000000808a, 0x8000000080008000,
    0x000000000000808b, 0x0000000080000001, 0x8000000080008081, 0x8000000000008009,
    0x000000000000008a, 0x0000000000000088, 0x0000000080008009, 0x000000008000000a,
    0x000000008000808b, 0x800000000000008b, 0x8000000000008089, 0x8000000000008003,
    0x8000000000008002, 0x8000000000000080, 0x000000000000800a, 0x800000008000000a,
    0x8000000080008081, 0x8000000000008080, 0x0000000080000001, 0x8000000080008008]

/-- Adds to each word the parities of two neighbouring columns. -/
def mixColumns (state : Sponge) : Sponge :=
  let parity := (List.range 5).map fun x =>
    state.word x 0 ^^^ state.word x 1 ^^^ state.word x 2 ^^^ state.word x 3 ^^^ state.word x 4
  let effect := (List.range 5).map fun x =>
    parity.getD ((x + 4) % 5) 0 ^^^ rotate (parity.getD ((x + 1) % 5) 0) 1
  Sponge.tabulate fun x y => state.word x y ^^^ effect.getD x 0

/-- Turns each word by its own amount. -/
def turnWords (state : Sponge) : Sponge :=
  List.zipWith rotate state turns

/-- Moves the words: the word of column `x` and row `y` comes from row `x` and column
`x + 3 * y`. -/
def moveWords (state : Sponge) : Sponge :=
  Sponge.tabulate fun x y => state.word (x + 3 * y) x

/-- Combines each word with the two after it in its row. This is the only step that is not
linear. -/
def combineRows (state : Sponge) : Sponge :=
  Sponge.tabulate fun x y =>
    state.word x y ^^^ (~~~(state.word (x + 1) y) &&& state.word (x + 2) y)

/-- Adds the constant of a round to the first word. -/
def addConstant (constant : UInt64) : Sponge → Sponge
  | [] => []
  | first :: rest => (first ^^^ constant) :: rest

/-- One round. -/
def round (state : Sponge) (constant : UInt64) : Sponge :=
  addConstant constant (combineRows (moveWords (turnWords (mixColumns state))))

/-- All twenty-four rounds. -/
def permute (state : Sponge) : Sponge :=
  roundConstants.foldl round state

/-! ### Blocks -/

/-- The bytes of a block. -/
def blockSize : Nat :=
  136

/-- Fills a message up to whole blocks: a one, zeros, and the highest bit of the last byte. -/
def pad (message : List UInt8) : List UInt8 :=
  let missing := blockSize - message.length % blockSize
  if missing = 1 then message ++ [0x81]
  else message ++ 0x01 :: List.replicate (missing - 2) 0 ++ [0x80]

/-- The word of eight bytes, the least significant first. -/
def wordOfBytes (bytes : List UInt8) : UInt64 :=
  bytes.foldr (fun byte word => (word <<< 8) ||| byte.toUInt64) 0

/-- The eight bytes of a word, the least significant first. -/
def bytesOfWord (word : UInt64) : List UInt8 :=
  (List.range 8).map fun place => (word >>> UInt64.ofNat (8 * place)).toUInt8

/-- Cuts a list into parts of a size, of which there are at most `count`. -/
def chunks {α : Type} (size : Nat) : Nat → List α → List (List α)
  | 0, _ => []
  | count + 1, items =>
    if items.isEmpty then [] else items.take size :: chunks size count (items.drop size)

/-- Takes one block up into the state. -/
def absorb (state : Sponge) (block : List UInt8) : Sponge :=
  let words := (chunks 8 17 block).map wordOfBytes ++ List.replicate 8 0
  permute (List.zipWith (· ^^^ ·) state words)

/-- The 256-bit Keccak digest of a message. -/
def keccak256 (message : List UInt8) : List UInt8 :=
  let padded := pad message
  let final := (chunks blockSize (padded.length / blockSize) padded).foldl absorb
    (List.replicate 25 0)
  (final.take 4).flatMap bytesOfWord

end BallotWatch.Digest
