/-! The keyed hash BLAKE3: blocks of 64 bytes, chunks of 1024, and a binary tree over the chunks. -/

namespace SessionGate.Blake3

/-- Eight words that one compression hands to the next. -/
abbrev Chain := Vector UInt32 8

/-- Sixteen words of a message block or of the state between two rounds. -/
abbrev Block := Vector UInt32 16

/-- The first words of the square-root constants that SHA-256 starts from. -/
def start : Chain :=
  #v[0x6A09E667, 0xBB67AE85, 0x3C6EF372, 0xA54FF53A, 0x510E527F, 0x9B05688C, 0x1F83D9AB,
    0x5BE0CD19]

/-- The first block of a chunk. -/
def chunkStart : UInt32 := 1

/-- The last block of a chunk. -/
def chunkEnd : UInt32 := 2

/-- A block of two chaining values. -/
def parent : UInt32 := 4

/-- The last compression of all. -/
def root : UInt32 := 8

/-- A hash under a key. -/
def keyed : UInt32 := 16

/-- A word turned right. -/
def turn (word : UInt32) (count : UInt32) : UInt32 :=
  (word >>> count) ||| (word <<< (32 - count))

/-- Mixes two message words into four words of the state. -/
def mix (state : Block) (a b c d : Fin 16) (x y : UInt32) : Block :=
  -- The two halves differ only in the message word added and in how far the words are turned.
  let va := state[a] + state[b] + x
  let vd := turn (state[d] ^^^ va) 16
  let vc := state[c] + vd
  let vb := turn (state[b] ^^^ vc) 12
  let va := va + vb + y
  let vd := turn (vd ^^^ va) 8
  let vc := vc + vd
  let vb := turn (vb ^^^ vc) 7
  (((state.set a va).set b vb).set c vc).set d vd

/-- One round mixes the columns and then the diagonals. -/
def round (state message : Block) : Block :=
  -- Taken as a square of four by four, the state is mixed column by column.
  let state := mix state 0 4 8 12 message[0] message[1]
  let state := mix state 1 5 9 13 message[2] message[3]
  let state := mix state 2 6 10 14 message[4] message[5]
  let state := mix state 3 7 11 15 message[6] message[7]
  -- The same four steps along the diagonals reach every other word.
  let state := mix state 0 5 10 15 message[8] message[9]
  let state := mix state 1 6 11 12 message[10] message[11]
  let state := mix state 2 7 8 13 message[12] message[13]
  mix state 3 4 9 14 message[14] message[15]

/-- The order in which the next round takes the words of the message. -/
def permute (m : Block) : Block :=
  #v[m[2], m[6], m[3], m[10], m[7], m[0], m[4], m[13], m[1], m[11], m[12], m[5], m[9], m[14],
    m[15], m[8]]

/-- Rounds after one another, the message permuted between them. -/
def rounds : Nat → Block → Block → Block
  | 0, state, _ => state
  -- The message is permuted once more than needed, which the last round never sees.
  | count + 1, state, message => rounds count (round state message) (permute message)

/-- Compresses a block of a given length under a chaining value. -/
def compress (chain : Chain) (message : Block) (counter : Nat) (length : Nat) (flags : UInt32) :
    Block :=
  -- The lower half of the state is fixed, so a block can only be told apart by what it is for.
  let state : Block :=
    #v[chain[0], chain[1], chain[2], chain[3], chain[4], chain[5], chain[6], chain[7],
      start[0], start[1], start[2], start[3], UInt32.ofNat counter,
      UInt32.ofNat (counter / Nat.pow 2 32), UInt32.ofNat length, flags]
  let mixed := rounds 7 state message
  -- Feeding the chaining value forward makes the compression hard to undo.
  Vector.ofFn fun i : Fin 16 =>
    if low : i.val < 8 then mixed.get ⟨i.val, by omega⟩ ^^^ mixed.get ⟨i.val + 8, by omega⟩
    else mixed[i] ^^^ chain.get ⟨i.val - 8, by omega⟩

/-- The first eight words go on as the next chaining value. -/
def carry (state : Block) : Chain :=
  Vector.ofFn fun i : Fin 8 => state.get ⟨i.val, by omega⟩

/-- Four bytes as a word, the lowest byte first; missing bytes are zero. -/
def wordAt (bytes : List UInt8) (place : Nat) : UInt32 :=
  let byte (offset : Nat) : UInt32 := (bytes.getD (place + offset) 0).toUInt32
  byte 0 ||| byte 1 <<< 8 ||| byte 2 <<< 16 ||| byte 3 <<< 24

/-- Up to 64 bytes as a block, filled up with zeros. -/
def blockOf (bytes : List UInt8) : Block :=
  Vector.ofFn fun i : Fin 16 => wordAt bytes (4 * i.val)

/-- Thirty-two bytes as a chaining value. -/
def chainOf (bytes : List UInt8) : Chain :=
  Vector.ofFn fun i : Fin 8 => wordAt bytes (4 * i.val)

/-- A compression that is not made yet: it may still turn out to be the last one of all. -/
structure Pending where
  chain : Chain
  message : Block
  counter : Nat
  length : Nat
  flags : UInt32

/-- The chaining value of a compression that is not the last. -/
def Pending.value (node : Pending) : Chain :=
  carry (compress node.chain node.message node.counter node.length node.flags)

/-- The bytes of a word, the lowest first. -/
def wordBytes (word : UInt32) : List UInt8 :=
  [word.toUInt8, (word >>> 8).toUInt8, (word >>> 16).toUInt8, (word >>> 24).toUInt8]

/-- The digest of a compression that is the last. -/
def Pending.digest (node : Pending) : List UInt8 :=
  -- Thirty-two bytes are the first output block, whose counter is zero.
  (carry (compress node.chain node.message 0 node.length (node.flags ||| root))).toList.flatMap
    wordBytes

/-- The blocks of a chunk from a given one on, up to the last, which is left pending. -/
def chunkFrom (chain : Chain) (counter : Nat) (flags : UInt32) (bytes : List UInt8) : Pending :=
  -- A full block at the end is the last one, so the comparison is strict.
  if _ : 64 < bytes.length then
    let state := compress chain (blockOf (bytes.take 64)) counter 64 flags
    chunkFrom (carry state) counter (flags &&& ~~~chunkStart) (bytes.drop 64)
  else ⟨chain, blockOf bytes, counter, bytes.length, flags ||| chunkEnd⟩
termination_by bytes.length
decreasing_by simp; omega

/-- The bytes of the largest power of two of chunks that leaves at least one byte over. -/
def leftLength (length : Nat) : Nat :=
  1024 * Nat.pow 2 (Nat.log2 ((length - 1) / 1024))

/-- The tree over the chunks of a message; `fuel` bounds its depth. -/
def tree (key : Chain) (counter : Nat) (bytes : List UInt8) : Nat → Pending
  | 0 => chunkFrom key counter (keyed ||| chunkStart) bytes
  | fuel + 1 =>
    if bytes.length ≤ 1024 then chunkFrom key counter (keyed ||| chunkStart) bytes
    else
      -- The left side is always a complete tree, and the right side holds what is left.
      let cut := leftLength bytes.length
      let left := (tree key counter (bytes.take cut) fuel).value
      let right := (tree key (counter + cut / 1024) (bytes.drop cut) fuel).value
      ⟨key, (left ++ right).cast (by omega), 0, 64, keyed ||| parent⟩

/-- The 32-byte digest of a message under a 32-byte key. -/
def keyedHash (key message : List UInt8) : List UInt8 :=
  (tree (chainOf key) 0 message message.length).digest

end SessionGate.Blake3
