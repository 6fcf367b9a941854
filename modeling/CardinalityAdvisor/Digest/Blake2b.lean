/-!
# The BLAKE2b digest

Fingerprints are stored and compared between processes, so they are derived from a digest that is
the same everywhere: the unkeyed BLAKE2b digest of eight bytes, read as a signed number with its
least byte first. Eight bytes are the first word of the state.

## Main definitions

* `mix`: the mixing of four words of the state with two words of the message
* `compress`: the state after one block
* `digest`: the signed 64 bit digest of a text
-/

namespace CardinalityAdvisor.Digest

/-- The words of the working state and of a message block. -/
abbrev Block := Vector UInt64 16

/-- The chained state. -/
abbrev Chain := Vector UInt64 8

/-- The initial values. -/
def initialWords : Chain := #v[
  0x6a09e667f3bcc908, 0xbb67ae8584caa73b, 0x3c6ef372fe94f82b, 0xa54ff53a5f1d36f1,
  0x510e527fade682d1, 0x9b05688c2b3e6c1f, 0x1f83d9abfb41bd6b, 0x5be0cd19137e2179]

/-- The order in which each round takes the words of the message. -/
def schedule : List (Vector (Fin 16) 16) := [
  #v[0, 1, 2, 3, 4, 5, 6, 7, 8, 9, 10, 11, 12, 13, 14, 15],
  #v[14, 10, 4, 8, 9, 15, 13, 6, 1, 12, 0, 2, 11, 7, 5, 3],
  #v[11, 8, 12, 0, 5, 2, 15, 13, 10, 14, 3, 6, 7, 1, 9, 4],
  #v[7, 9, 3, 1, 13, 12, 11, 14, 2, 6, 5, 10, 4, 0, 15, 8],
  #v[9, 0, 5, 7, 2, 4, 10, 15, 14, 1, 11, 12, 6, 8, 3, 13],
  #v[2, 12, 6, 10, 0, 11, 8, 3, 4, 13, 7, 5, 15, 14, 1, 9],
  #v[12, 5, 1, 15, 14, 13, 4, 10, 0, 7, 6, 3, 9, 2, 8, 11],
  #v[13, 11, 7, 14, 12, 1, 3, 9, 5, 0, 15, 4, 8, 6, 2, 10],
  #v[6, 15, 14, 9, 11, 3, 0, 8, 12, 2, 13, 7, 1, 4, 10, 5],
  #v[10, 2, 8, 4, 7, 6, 1, 5, 15, 11, 9, 14, 3, 12, 13, 0],
  #v[0, 1, 2, 3, 4, 5, 6, 7, 8, 9, 10, 11, 12, 13, 14, 15],
  #v[14, 10, 4, 8, 9, 15, 13, 6, 1, 12, 0, 2, 11, 7, 5, 3]]

/-- A word turned to the right. -/
def rotateRight (w : UInt64) (bits : UInt64) : UInt64 := (w >>> bits) ||| (w <<< (64 - bits))

/-- Four words of the state mixed with two words of the message. -/
def mix (v : Block) (a b c d : Fin 16) (x y : UInt64) : Block :=
  let va := v[a] + v[b] + x
  let vd := rotateRight (v[d] ^^^ va) 32
  let vc := v[c] + vd
  let vb := rotateRight (v[b] ^^^ vc) 24
  let va := va + vb + y
  let vd := rotateRight (vd ^^^ va) 16
  let vc := vc + vd
  let vb := rotateRight (vb ^^^ vc) 63
  (((v.set a va).set b vb).set c vc).set d vd

/-- One round: the columns of the state are mixed, then its diagonals. -/
def round (m : Block) (v : Block) (s : Vector (Fin 16) 16) : Block :=
  let v := mix v 0 4 8 12 m[s[0]] m[s[1]]
  let v := mix v 1 5 9 13 m[s[2]] m[s[3]]
  let v := mix v 2 6 10 14 m[s[4]] m[s[5]]
  let v := mix v 3 7 11 15 m[s[6]] m[s[7]]
  let v := mix v 0 5 10 15 m[s[8]] m[s[9]]
  let v := mix v 1 6 11 12 m[s[10]] m[s[11]]
  let v := mix v 2 7 8 13 m[s[12]] m[s[13]]
  mix v 3 4 9 14 m[s[14]] m[s[15]]

/-- The state after a block, where `count` bytes have been taken up to and including the block and
`last` marks the final one. -/
def compress (h : Chain) (m : Block) (count : Nat) (last : Bool) : Chain :=
  let low := UInt64.ofNat count
  let high := UInt64.ofNat (count / 0x10000000000000000)
  let marks : Chain := #v[0, 0, 0, 0, low, high, if last then 0xffffffffffffffff else 0, 0]
  let upper : Chain := initialWords.zipWith (· ^^^ ·) marks
  let v : Block := schedule.foldl (round m) (h ++ upper)
  h.mapFinIdx fun i w hi => w ^^^ v[i] ^^^ v[i + 8]

/-- The word with the given bytes, the least one first. -/
def wordOf (bytes : List UInt8) : UInt64 :=
  bytes.foldr (fun byte word => (word <<< 8) ||| byte.toUInt64) 0

/-- The words of a block; missing bytes are zero. -/
def blockOf (bytes : List UInt8) : Block :=
  Vector.ofFn fun i => wordOf ((bytes.drop (8 * i.val)).take 8)

/-- The state after the bytes that follow the first `count`. All blocks but the last are full, and
`more` blocks come before the last. -/
def absorb (h : Chain) (count : Nat) (bytes : List UInt8) : (more : Nat) → Chain
  | 0 => compress h (blockOf bytes) (count + bytes.length) true
  | more + 1 =>
    absorb (compress h (blockOf (bytes.take 128)) (count + 128) false) (count + 128)
      (bytes.drop 128) more

/-- The state before the first block of an unkeyed digest of eight bytes. -/
def initialChain : Chain := initialWords.set 0 (initialWords[0] ^^^ 0x01010008)

/-- The signed 64 bit digest of a text in UTF-8. -/
def digest (s : String) : Int :=
  let bytes := s.toUTF8.toList
  let h := absorb initialChain 0 bytes ((bytes.length - 1) / 128)
  h[0].toInt64.toInt

example : digest "()" = 5694367389426422167 := by decide +kernel

end CardinalityAdvisor.Digest
