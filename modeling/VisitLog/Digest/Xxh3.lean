import VisitLog.Digest.Hex

/-!
# The 128-bit XXH3 digest

`Xxh3.digest` maps bytes to 128 bits, with the default secret and no seed. Inputs are treated by
length: none, 1 to 3, 4 to 8, 9 to 16, 17 to 128, 129 to 240 bytes, and longer ones in stripes of 64
bytes. Words are little endian and arithmetic is modulo 2^64.
-/

namespace VisitLog.Xxh3

/-! ## Words -/

def prime32a : UInt64 := 0x9E3779B1
def prime32b : UInt64 := 0x85EBCA77
def prime32c : UInt64 := 0xC2B2AE3D
def prime64a : UInt64 := 0x9E3779B185EBCA87
def prime64b : UInt64 := 0xC2B2AE3D27D4EB4F
def prime64c : UInt64 := 0x165667B19E3779F9
def prime64d : UInt64 := 0x85EBCA77C2B2AE63
def prime64e : UInt64 := 0x27D4EB2F165667C5
def mixPrimeA : UInt64 := 0x165667919E3779F9
def mixPrimeB : UInt64 := 0x9FB21C651E98DF25

/-- The default secret, 192 bytes. -/
def secret : ByteArray := ⟨#[
  0xb8, 0xfe, 0x6c, 0x39, 0x23, 0xa4, 0x4b, 0xbe, 0x7c, 0x01, 0x81, 0x2c, 0xf7, 0x21, 0xad, 0x1c,
  0xde, 0xd4, 0x6d, 0xe9, 0x83, 0x90, 0x97, 0xdb, 0x72, 0x40, 0xa4, 0xa4, 0xb7, 0xb3, 0x67, 0x1f,
  0xcb, 0x79, 0xe6, 0x4e, 0xcc, 0xc0, 0xe5, 0x78, 0x82, 0x5a, 0xd0, 0x7d, 0xcc, 0xff, 0x72, 0x21,
  0xb8, 0x08, 0x46, 0x74, 0xf7, 0x43, 0x24, 0x8e, 0xe0, 0x35, 0x90, 0xe6, 0x81, 0x3a, 0x26, 0x4c,
  0x3c, 0x28, 0x52, 0xbb, 0x91, 0xc3, 0x00, 0xcb, 0x88, 0xd0, 0x65, 0x8b, 0x1b, 0x53, 0x2e, 0xa3,
  0x71, 0x64, 0x48, 0x97, 0xa2, 0x0d, 0xf9, 0x4e, 0x38, 0x19, 0xef, 0x46, 0xa9, 0xde, 0xac, 0xd8,
  0xa8, 0xfa, 0x76, 0x3f, 0xe3, 0x9c, 0x34, 0x3f, 0xf9, 0xdc, 0xbb, 0xc7, 0xc7, 0x0b, 0x4f, 0x1d,
  0x8a, 0x51, 0xe0, 0x4b, 0xcd, 0xb4, 0x59, 0x31, 0xc8, 0x9f, 0x7e, 0xc9, 0xd9, 0x78, 0x73, 0x64,
  0xea, 0xc5, 0xac, 0x83, 0x34, 0xd3, 0xeb, 0xc3, 0xc5, 0x81, 0xa0, 0xff, 0xfa, 0x13, 0x63, 0xeb,
  0x17, 0x0d, 0xdd, 0x51, 0xb7, 0xf0, 0xda, 0x49, 0xd3, 0x16, 0x55, 0x26, 0x29, 0xd4, 0x68, 0x9e,
  0x2b, 0x16, 0xbe, 0x58, 0x7d, 0x47, 0xa1, 0xfc, 0x8f, 0xf8, 0xb8, 0xd1, 0x7a, 0xd0, 0x31, 0xce,
  0x45, 0xcb, 0x3a, 0x8f, 0x95, 0x16, 0x04, 0x28, 0xaf, 0xd7, 0xfb, 0xca, 0xbb, 0x4b, 0x40, 0x7e]⟩

/-- The byte at a position, zero past the end. -/
def byteAt (bytes : ByteArray) (i : Nat) : UInt64 :=
  if h : i < bytes.size then bytes[i].toUInt64 else 0

/-- Four bytes from a position. -/
def word32 (bytes : ByteArray) (i : Nat) : UInt64 :=
  byteAt bytes i ||| (byteAt bytes (i + 1) <<< 8) ||| (byteAt bytes (i + 2) <<< 16) |||
    (byteAt bytes (i + 3) <<< 24)

/-- Eight bytes from a position. -/
def word64 (bytes : ByteArray) (i : Nat) : UInt64 :=
  word32 bytes i ||| (word32 bytes (i + 4) <<< 32)

/-- The low and the high half of a product. -/
def product (a b : UInt64) : UInt64 × UInt64 :=
  let p := a.toNat * b.toNat
  (UInt64.ofNat p, UInt64.ofNat (p >>> 64))

/-- The low 32 bits of a word. -/
def low32 (x : UInt64) : UInt64 :=
  UInt64.ofNat (x.toNat % 0x100000000)

/-- One byte of a word, counted from the least significant. -/
def octet (x : UInt64) (n : Nat) : UInt64 :=
  UInt64.ofNat ((x.toNat >>> (8 * n)) % 256)

/-- The two halves of a product, combined by exclusive or. -/
def fold (a b : UInt64) : UInt64 :=
  let p := product a b
  p.1 ^^^ p.2

/-- The bytes of a 32-bit word in reverse order. -/
def swap32 (x : UInt64) : UInt64 :=
  (octet x 0 <<< 24) ||| (octet x 1 <<< 16) ||| (octet x 2 <<< 8) ||| octet x 3

/-- The bytes of a 64-bit word in reverse order. -/
def swap64 (x : UInt64) : UInt64 :=
  (swap32 x <<< 32) ||| swap32 (x >>> 32)

/-- A 32-bit word rotated to the left. -/
def rotate32 (x : UInt64) (n : UInt64) : UInt64 :=
  low32 ((x <<< n) ||| (x >>> (32 - n)))

/-- The finishing mix for short inputs. -/
def avalancheShort (h : UInt64) : UInt64 :=
  let h := (h ^^^ (h >>> 33)) * prime64b
  let h := (h ^^^ (h >>> 29)) * prime64c
  h ^^^ (h >>> 32)

/-- The finishing mix. -/
def avalanche (h : UInt64) : UInt64 :=
  let h := (h ^^^ (h >>> 37)) * mixPrimeA
  h ^^^ (h >>> 32)

/-- A digest: the low and the high 64 bits. -/
structure Digest where
  low : UInt64
  high : UInt64
  deriving DecidableEq, Repr

/-! ## Short inputs -/

def digestEmpty : Digest :=
  { low := avalancheShort (word64 secret 64 ^^^ word64 secret 72)
    high := avalancheShort (word64 secret 80 ^^^ word64 secret 88) }

/-- Inputs of 1 to 3 bytes. -/
def digest1to3 (bytes : ByteArray) : Digest :=
  let n := bytes.size
  let low := (byteAt bytes 0 <<< 16) ||| (byteAt bytes (n / 2) <<< 24) ||| byteAt bytes (n - 1) |||
    (UInt64.ofNat n <<< 8)
  let high := rotate32 (swap32 low) 13
  { low := avalancheShort (low ^^^ (word32 secret 0 ^^^ word32 secret 4))
    high := avalancheShort (high ^^^ (word32 secret 8 ^^^ word32 secret 12)) }

/-- Inputs of 4 to 8 bytes. -/
def digest4to8 (bytes : ByteArray) : Digest :=
  let n := bytes.size
  let input := word32 bytes 0 + (word32 bytes (n - 4) <<< 32)
  let keyed := input ^^^ (word64 secret 16 ^^^ word64 secret 24)
  let (low, high) := product keyed (prime64a + (UInt64.ofNat n <<< 2))
  let high := high + (low <<< 1)
  let low := low ^^^ (high >>> 3)
  let low := (low ^^^ (low >>> 35)) * mixPrimeB
  { low := low ^^^ (low >>> 28), high := avalanche high }

/-- Inputs of 9 to 16 bytes. -/
def digest9to16 (bytes : ByteArray) : Digest :=
  let n := bytes.size
  let first := word64 bytes 0
  let last := word64 bytes (n - 8)
  let (low, high) := product (first ^^^ last ^^^ (word64 secret 32 ^^^ word64 secret 40)) prime64a
  let low := low + (UInt64.ofNat (n - 1) <<< 54)
  let last := last ^^^ (word64 secret 48 ^^^ word64 secret 56)
  let high := high + last + low32 last * (prime32b - 1)
  let low := low ^^^ swap64 high
  let (low', high') := product low prime64b
  { low := avalanche low', high := avalanche (high' + high * prime64b) }

/-! ## Inputs of middle length -/

/-- Sixteen bytes of input mixed with sixteen bytes of secret. -/
def mix16 (bytes : ByteArray) (i s : Nat) : UInt64 :=
  fold (word64 bytes i ^^^ word64 secret s) (word64 bytes (i + 8) ^^^ word64 secret (s + 8))

/-- Two pieces of sixteen bytes mixed into the two halves of the state. -/
def mix32 (bytes : ByteArray) (acc : UInt64 × UInt64) (i j s : Nat) : UInt64 × UInt64 :=
  ((acc.1 + mix16 bytes i s) ^^^ (word64 bytes j + word64 bytes (j + 8)),
    (acc.2 + mix16 bytes j (s + 16)) ^^^ (word64 bytes i + word64 bytes (i + 8)))

/-- The digest of the state after inputs of 17 to 240 bytes. -/
def finishMiddle (n : Nat) (acc : UInt64 × UInt64) : Digest :=
  { low := avalanche (acc.1 + acc.2)
    high := 0 - avalanche (acc.1 * prime64a + acc.2 * prime64d + UInt64.ofNat n * prime64b) }

/-- Inputs of 17 to 128 bytes: pieces from both ends towards the middle. -/
def digest17to128 (bytes : ByteArray) : Digest :=
  let n := bytes.size
  let acc : UInt64 × UInt64 := (UInt64.ofNat n * prime64a, 0)
  let acc := if n > 96 then mix32 bytes acc 48 (n - 64) 96 else acc
  let acc := if n > 64 then mix32 bytes acc 32 (n - 48) 64 else acc
  let acc := if n > 32 then mix32 bytes acc 16 (n - 32) 32 else acc
  finishMiddle n (mix32 bytes acc 0 (n - 16) 0)

/-- Inputs of 129 to 240 bytes: pieces in order, and the last 32 bytes once more. -/
def digest129to240 (bytes : ByteArray) : Digest :=
  let n := bytes.size
  let acc : UInt64 × UInt64 := (UInt64.ofNat n * prime64a, 0)
  let acc := (List.range 4).foldl (fun acc k =>
    mix32 bytes acc (32 * k) (32 * k + 16) (32 * k)) acc
  let acc := (avalanche acc.1, avalanche acc.2)
  let acc := (List.range (n / 32 - 4)).foldl (fun acc k =>
    mix32 bytes acc (32 * k + 128) (32 * k + 144) (32 * k + 3)) acc
  finishMiddle n (mix32 bytes acc (n - 16) (n - 32) 103)

/-! ## Long inputs -/

/-- The eight lanes at the start. -/
def lanes : Array UInt64 :=
  #[prime32c, prime64a, prime64b, prime64c, prime64d, prime32b, prime64e, prime32a]

/-- A lane, zero for an index that does not exist. -/
def lane (acc : Array UInt64) (i : Nat) : UInt64 :=
  acc.getD i 0

/-- Takes 64 bytes of input into the lanes. -/
def stripe (bytes : ByteArray) (acc : Array UInt64) (i s : Nat) : Array UInt64 :=
  Array.ofFn fun k : Fin 8 =>
    let key := word64 bytes (i + 8 * k) ^^^ word64 secret (s + 8 * k)
    let other := word64 bytes (i + 8 * (k.val ^^^ 1))
    lane acc k + other + low32 key * (key >>> 32)

/-- Mixes the lanes at the end of a block. -/
def scramble (acc : Array UInt64) : Array UInt64 :=
  Array.ofFn fun k : Fin 8 =>
    let x := lane acc k
    ((x ^^^ (x >>> 47)) ^^^ word64 secret (128 + 8 * k)) * prime32a

/-- Takes `count` consecutive stripes from position `i`. -/
def stripes (bytes : ByteArray) (acc : Array UInt64) (i count : Nat) : Array UInt64 :=
  (List.range count).foldl (fun acc k => stripe bytes acc (i + 64 * k) (8 * k)) acc

/-- Combines the lanes into one word. -/
def mergeLanes (acc : Array UInt64) (s : Nat) (start : UInt64) : UInt64 :=
  avalanche <| (List.range 4).foldl (fun r k =>
    r + fold (lane acc (2 * k) ^^^ word64 secret (s + 16 * k))
      (lane acc (2 * k + 1) ^^^ word64 secret (s + 16 * k + 8))) start

/-- Inputs of more than 240 bytes: blocks of sixteen stripes, what is left, and the last stripe. -/
def digestLong (bytes : ByteArray) : Digest :=
  let n := bytes.size
  let blocks := (n - 1) / 1024
  let acc := (List.range blocks).foldl (fun acc b =>
    scramble (stripes bytes acc (1024 * b) 16)) lanes
  let acc := stripes bytes acc (1024 * blocks) ((n - 1 - 1024 * blocks) / 64)
  let acc := stripe bytes acc (n - 64) 121
  { low := mergeLanes acc 11 (UInt64.ofNat n * prime64a)
    high := mergeLanes acc 117 (~~~(UInt64.ofNat n * prime64b)) }

/-- The digest of any input. -/
def digest (bytes : ByteArray) : Digest :=
  let n := bytes.size
  if n = 0 then digestEmpty
  else if n ≤ 3 then digest1to3 bytes
  else if n ≤ 8 then digest4to8 bytes
  else if n ≤ 16 then digest9to16 bytes
  else if n ≤ 128 then digest17to128 bytes
  else if n ≤ 240 then digest129to240 bytes
  else digestLong bytes

/-- The 32 lower-case hexadecimal digits of a digest, high half first. -/
def Digest.hex (d : Digest) : String :=
  String.ofList (Hex.fixed 16 d.high.toNat ++ Hex.fixed 16 d.low.toNat)

/-- The hexadecimal digest of a text's UTF-8 bytes. -/
def hexOf (s : String) : String :=
  (digest s.toUTF8).hex

theorem length_hexOf (s : String) : (hexOf s).toList.length = 32 := by
  simp [hexOf, Digest.hex, Hex.length_fixed]

theorem all_isDigit_hexOf (s : String) : (hexOf s).toList.all Hex.isDigit := by
  simp [hexOf, Digest.hex, Hex.all_isDigit_fixed, - List.all_eq_true]

end VisitLog.Xxh3
