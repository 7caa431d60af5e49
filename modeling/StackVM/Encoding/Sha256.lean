/-! # The 256-bit secure hash

The message is filled up to blocks of sixteen 32-bit words; each block is expanded to a schedule of
sixty-four words that are mixed into eight state words.
-/

namespace StackVM.Sha256

def initial : Array UInt32 :=
  #[0x6a09e667, 0xbb67ae85, 0x3c6ef372, 0xa54ff53a, 0x510e527f, 0x9b05688c, 0x1f83d9ab, 0x5be0cd19]

def roundConstants : List UInt32 :=
  [0x428a2f98, 0x71374491, 0xb5c0fbcf, 0xe9b5dba5, 0x3956c25b, 0x59f111f1, 0x923f82a4, 0xab1c5ed5,
   0xd807aa98, 0x12835b01, 0x243185be, 0x550c7dc3, 0x72be5d74, 0x80deb1fe, 0x9bdc06a7, 0xc19bf174,
   0xe49b69c1, 0xefbe4786, 0x0fc19dc6, 0x240ca1cc, 0x2de92c6f, 0x4a7484aa, 0x5cb0a9dc, 0x76f988da,
   0x983e5152, 0xa831c66d, 0xb00327c8, 0xbf597fc7, 0xc6e00bf3, 0xd5a79147, 0x06ca6351, 0x14292967,
   0x27b70a85, 0x2e1b2138, 0x4d2c6dfc, 0x53380d13, 0x650a7354, 0x766a0abb, 0x81c2c92e, 0x92722c85,
   0xa2bfe8a1, 0xa81a664b, 0xc24b8b70, 0xc76c51a3, 0xd192e819, 0xd6990624, 0xf40e3585, 0x106aa070,
   0x19a4c116, 0x1e376c08, 0x2748774c, 0x34b0bcb5, 0x391c0cb3, 0x4ed8aa4a, 0x5b9cca4f, 0x682e6ff3,
   0x748f82ee, 0x78a5636f, 0x84c87814, 0x8cc70208, 0x90befffa, 0xa4506ceb, 0xbef9a3f7, 0xc67178f2]

def rotate (x : UInt32) (n : UInt32) : UInt32 := (x >>> n) ||| (x <<< (32 - n))

/-- The bytes of a number, most significant first. -/
def bigEndian (count n : Nat) : List UInt8 :=
  (List.range count).reverse.map fun i => (n >>> (8 * i)).toUInt8

/-- The message followed by a one bit, zeros and its length in bits. -/
def padded (message : List UInt8) : List UInt8 :=
  message ++ 0x80 :: List.replicate ((119 - message.length % 64) % 64) 0 ++
    bigEndian 8 (8 * message.length)

/-- The 32-bit words of bytes, most significant first. -/
def words : List UInt8 → List UInt32
  | a :: b :: c :: d :: rest =>
    ((a.toUInt32 <<< 24) ||| (b.toUInt32 <<< 16) ||| (c.toUInt32 <<< 8) ||| d.toUInt32) ::
      words rest
  | _ => []

/-- Extends the schedule by `count` words. -/
def expand (schedule : Array UInt32) : Nat → Array UInt32
  | 0 => schedule
  | count + 1 =>
    let i := schedule.size
    let w := fun back => schedule.getD (i - back) 0
    let s0 := rotate (w 15) 7 ^^^ rotate (w 15) 18 ^^^ (w 15 >>> 3)
    let s1 := rotate (w 2) 17 ^^^ rotate (w 2) 19 ^^^ (w 2 >>> 10)
    expand (schedule.push (w 16 + s0 + w 7 + s1)) count

/-- One round with its constant plus schedule word. -/
def round (s : Array UInt32) (kw : UInt32) : Array UInt32 :=
  let at' := fun i => s.getD i 0
  let a := at' 0
  let e := at' 4
  let s1 := rotate e 6 ^^^ rotate e 11 ^^^ rotate e 25
  let choice := (e &&& at' 5) ^^^ ((~~~e) &&& at' 6)
  let t1 := at' 7 + s1 + choice + kw
  let s0 := rotate a 2 ^^^ rotate a 13 ^^^ rotate a 22
  let majority := (a &&& at' 1) ^^^ (a &&& at' 2) ^^^ (at' 1 &&& at' 2)
  #[t1 + s0 + majority, a, at' 1, at' 2, at' 3 + t1, e, at' 5, at' 6]

/-- Mixes one block of sixteen words into the state. -/
def compress (state : Array UInt32) (block : List UInt32) : Array UInt32 :=
  let schedule := expand block.toArray 48
  let mixed := (roundConstants.zip schedule.toList).foldl (fun s (k, w) => round s (k + w)) state
  (state.toList.zip mixed.toList).map (fun (a, b) => a + b) |>.toArray

/-- Mixes all blocks; `count` bounds their number. -/
def compressAll (state : Array UInt32) : Nat → List UInt32 → Array UInt32
  | 0, _ => state
  | count + 1, ws => compressAll (compress state (ws.take 16)) count (ws.drop 16)

def digest (message : List UInt8) : List UInt8 :=
  let ws := words (padded message)
  (compressAll initial (ws.length / 16) ws).toList.flatMap fun w => bigEndian 4 w.toNat

/-- A byte as two hexadecimal digits. -/
def hexByte (b : UInt8) : List Char := [Nat.digitChar (b.toNat / 16), Nat.digitChar (b.toNat % 16)]

def hexDigest (message : List UInt8) : String := String.ofList ((digest message).flatMap hexByte)

end StackVM.Sha256
