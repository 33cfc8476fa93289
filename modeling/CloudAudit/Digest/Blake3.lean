/-!
# BLAKE3

The hash of a list of bytes, 32 bytes long. The input is cut into chunks of 1024 bytes and these
into blocks of 64; every block is mixed into a chaining value, and the chunks are the leaves of a
binary tree whose inner nodes mix the chaining values of their two children.
-/

namespace CloudAudit.Blake3

abbrev Words (n : Nat) := Vector UInt32 n

def initial : Words 8 :=
  #v[0x6A09E667, 0xBB67AE85, 0x3C6EF372, 0xA54FF53A, 0x510E527F, 0x9B05688C, 0x1F83D9AB, 0x5BE0CD19]

def rotateRight (word count : UInt32) : UInt32 :=
  (word >>> count) ||| (word <<< (32 - count))

/-- Mixes two words of a block into four words of the state. -/
def mix (state : Words 16) (a b c d : Fin 16) (x y : UInt32) : Words 16 :=
  let va := state[a] + state[b] + x
  let vd := rotateRight (state[d] ^^^ va) 16
  let vc := state[c] + vd
  let vb := rotateRight (state[b] ^^^ vc) 12
  let va := va + vb + y
  let vd := rotateRight (vd ^^^ va) 8
  let vc := vc + vd
  let vb := rotateRight (vb ^^^ vc) 7
  (((state.set a va).set b vb).set c vc).set d vd

/-- Columns first, then diagonals. -/
def round (state block : Words 16) : Words 16 :=
  let s := mix state 0 4 8 12 block[0] block[1]
  let s := mix s 1 5 9 13 block[2] block[3]
  let s := mix s 2 6 10 14 block[4] block[5]
  let s := mix s 3 7 11 15 block[6] block[7]
  let s := mix s 0 5 10 15 block[8] block[9]
  let s := mix s 1 6 11 12 block[10] block[11]
  let s := mix s 2 7 8 13 block[12] block[13]
  mix s 3 4 9 14 block[14] block[15]

/-- The order of the words of a block in the next round. -/
def permute (block : Words 16) : Words 16 :=
  #v[block[2], block[6], block[3], block[10], block[7], block[0], block[4], block[13],
    block[1], block[11], block[12], block[5], block[9], block[14], block[15], block[8]]

def rounds : Nat → Words 16 → Words 16 → Words 16
  | 0, state, _ => state
  | n + 1, state, block => rounds n (round state block) (permute block)

/-! ## Nodes -/

def chunkStart : UInt32 := 1
def chunkEnd : UInt32 := 2
def parentFlag : UInt32 := 4
def rootFlag : UInt32 := 8

/-- What one compression takes in. -/
structure Node where
  chaining : Words 8
  block : Words 16
  counter : UInt64
  size : UInt32
  flags : UInt32

namespace Node

/-- The chaining value that the compression gives. -/
def compress (node : Node) (extra : UInt32) : Words 8 :=
  let chain := node.chaining
  let state : Words 16 :=
    #v[chain[0], chain[1], chain[2], chain[3], chain[4], chain[5], chain[6], chain[7],
      initial[0], initial[1], initial[2], initial[3],
      node.counter.toUInt32, (node.counter >>> 32).toUInt32, node.size, node.flags ||| extra]
  let s := rounds 7 state node.block
  #v[s[0] ^^^ s[8], s[1] ^^^ s[9], s[2] ^^^ s[10], s[3] ^^^ s[11], s[4] ^^^ s[12],
    s[5] ^^^ s[13], s[6] ^^^ s[14], s[7] ^^^ s[15]]

def parent (left right : Node) : Node :=
  { chaining := initial
    block := left.compress 0 ++ right.compress 0
    counter := 0, size := 64, flags := parentFlag }

end Node

/-! ## Chunks -/

/-- Four bytes, the lowest first; missing bytes are zero. -/
def wordAt (bytes : Array UInt8) (start : Nat) : UInt32 :=
  let byte (k : Nat) : UInt32 := (bytes.getD (start + k) 0).toUInt32
  byte 0 ||| (byte 1 <<< 8) ||| (byte 2 <<< 16) ||| (byte 3 <<< 24)

def blockOf (bytes : List UInt8) : Words 16 :=
  let array := bytes.toArray
  Vector.ofFn fun i => wordAt array (4 * i.val)

/-- Cuts a list into pieces of one size, the last of which may be shorter. -/
def pieces (size : Nat) (bytes : List UInt8) : List (List UInt8) :=
  if size = 0 ∨ bytes.length ≤ size then [bytes]
  else bytes.take size :: pieces size (bytes.drop size)
termination_by bytes.length
decreasing_by simp only [List.length_drop]; omega

/-- The node of the last block of a chunk, after the chaining value of the blocks before it. -/
def lastNode (counter : UInt64) : UInt32 → Words 8 → List (List UInt8) → Node
  | start, chaining, [] =>
    { chaining, block := blockOf [], counter, size := 0, flags := start ||| chunkEnd }
  | start, chaining, [block] =>
    { chaining, block := blockOf block, counter, size := block.length.toUInt32
      flags := start ||| chunkEnd }
  | start, chaining, block :: rest =>
    let node : Node := { chaining, block := blockOf block, counter, size := 64, flags := start }
    lastNode counter 0 (node.compress 0) rest

def chunkNode (chunk : List UInt8) (index : Nat) : Node :=
  lastNode index.toUInt64 chunkStart initial (pieces 64 chunk)

/-! ## The tree -/

/-- Joins neighbours; the last of an odd count stays as it is. -/
def joinNeighbours : List Node → List Node
  | left :: right :: rest => Node.parent left right :: joinNeighbours rest
  | rest => rest

theorem length_joinNeighbours_le : (nodes : List Node) →
    (joinNeighbours nodes).length ≤ nodes.length
  | [] | [_] => by simp [joinNeighbours]
  | _ :: _ :: rest => by
    have := length_joinNeighbours_le rest
    simp only [joinNeighbours, List.length_cons]
    omega

/-- The node that is left when neighbours are joined level by level. -/
def root (first : Node) (others : List Node) : Node :=
  match others with
  | [] => first
  | second :: rest => root (Node.parent first second) (joinNeighbours rest)
termination_by others.length
decreasing_by
  have := length_joinNeighbours_le rest
  simp only [List.length_cons]
  omega

def wordBytes (word : UInt32) : List UInt8 :=
  [word.toUInt8, (word >>> 8).toUInt8, (word >>> 16).toUInt8, (word >>> 24).toUInt8]

def hash (bytes : List UInt8) : List UInt8 :=
  let nodes := (pieces 1024 bytes).zipIdx.map fun (chunk, index) => chunkNode chunk index
  match nodes with
  | [] => []
  | first :: others => ((root first others).compress rootFlag).toList.flatMap wordBytes

def hexByte (b : UInt8) : List Char :=
  let digit (n : Nat) := "0123456789abcdef".toList.getD n '0'
  [digit (b.toNat / 16), digit (b.toNat % 16)]

/-- The hash of a text in hexadecimal digits. -/
def hexDigest (s : String) : String :=
  String.ofList ((hash s.toUTF8.toList).flatMap hexByte)

end CloudAudit.Blake3
