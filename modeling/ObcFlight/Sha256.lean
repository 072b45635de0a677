import ObcFlight.BlockHash

/-!
# SHA-256 and HMAC-SHA-256 as published

The hash is written as in FIPS 180-4: padding to whole 512-bit blocks, the
recursive message schedule, and 64 rounds on eight working words per block. The
keyed hash is the RFC 2104 construction over it.
-/

namespace ObcFlight

abbrev Digest := { bs : Bytes // bs.length = 32 }

namespace Sha256

def rotr (n x : UInt32) : UInt32 := (x >>> n) ||| (x <<< (32 - n))

def ch (x y z : UInt32) : UInt32 := (x &&& y) ^^^ (~~~x &&& z)

def maj (x y z : UInt32) : UInt32 := (x &&& y) ^^^ (x &&& z) ^^^ (y &&& z)

def upperSigma0 (x : UInt32) : UInt32 := rotr 2 x ^^^ rotr 13 x ^^^ rotr 22 x

def upperSigma1 (x : UInt32) : UInt32 := rotr 6 x ^^^ rotr 11 x ^^^ rotr 25 x

def lowerSigma0 (x : UInt32) : UInt32 := rotr 7 x ^^^ rotr 18 x ^^^ (x >>> 3)

def lowerSigma1 (x : UInt32) : UInt32 := rotr 17 x ^^^ rotr 19 x ^^^ (x >>> 10)

/-- The sixty-four round constants of FIPS 180-4, section 4.2.2. -/
def roundConstants : List UInt32 :=
  [0x428a2f98, 0x71374491, 0xb5c0fbcf, 0xe9b5dba5, 0x3956c25b, 0x59f111f1, 0x923f82a4, 0xab1c5ed5,
   0xd807aa98, 0x12835b01, 0x243185be, 0x550c7dc3, 0x72be5d74, 0x80deb1fe, 0x9bdc06a7, 0xc19bf174,
   0xe49b69c1, 0xefbe4786, 0x0fc19dc6, 0x240ca1cc, 0x2de92c6f, 0x4a7484aa, 0x5cb0a9dc, 0x76f988da,
   0x983e5152, 0xa831c66d, 0xb00327c8, 0xbf597fc7, 0xc6e00bf3, 0xd5a79147, 0x06ca6351, 0x14292967,
   0x27b70a85, 0x2e1b2138, 0x4d2c6dfc, 0x53380d13, 0x650a7354, 0x766a0abb, 0x81c2c92e, 0x92722c85,
   0xa2bfe8a1, 0xa81a664b, 0xc24b8b70, 0xc76c51a3, 0xd192e819, 0xd6990624, 0xf40e3585, 0x106aa070,
   0x19a4c116, 0x1e376c08, 0x2748774c, 0x34b0bcb5, 0x391c0cb3, 0x4ed8aa4a, 0x5b9cca4f, 0x682e6ff3,
   0x748f82ee, 0x78a5636f, 0x84c87814, 0x8cc70208, 0x90befffa, 0xa4506ceb, 0xbef9a3f7, 0xc67178f2]

/-- The eight words of an intermediate hash value. -/
structure Chain where
  a : UInt32
  b : UInt32
  c : UInt32
  d : UInt32
  e : UInt32
  f : UInt32
  g : UInt32
  h : UInt32
  deriving DecidableEq

def initialHash : Chain :=
  ⟨0x6a09e667, 0xbb67ae85, 0x3c6ef372, 0xa54ff53a, 0x510e527f, 0x9b05688c, 0x1f83d9ab, 0x5be0cd19⟩

def wordAt (block : Bytes) (t : ℕ) : UInt32 := UInt32.ofNat (beValue ((block.drop (4 * t)).take 4))

def schedule (block : Bytes) (t : ℕ) : UInt32 :=
  if t < 16 then wordAt block t
  else lowerSigma1 (schedule block (t - 2)) + schedule block (t - 7) +
    lowerSigma0 (schedule block (t - 15)) + schedule block (t - 16)

def round (v : Chain) (k w : UInt32) : Chain :=
  let t1 := v.h + upperSigma1 v.e + ch v.e v.f v.g + k + w
  let t2 := upperSigma0 v.a + maj v.a v.b v.c
  ⟨t1 + t2, v.a, v.b, v.c, v.d + t1, v.e, v.f, v.g⟩

def addChain (x y : Chain) : Chain :=
  ⟨x.a + y.a, x.b + y.b, x.c + y.c, x.d + y.d, x.e + y.e, x.f + y.f, x.g + y.g, x.h + y.h⟩

def compress (v : Chain) (block : Bytes) : Chain :=
  addChain v ((List.range 64).foldl
    (fun u t => round u (roundConstants.getD t 0) (schedule block t)) v)

/-- The least number of zero bytes that brings the length bytes to a block boundary. -/
def zeroCount (n : ℕ) : ℕ := (119 - n % 64) % 64

def pad (message : Bytes) : Bytes :=
  message ++ (0x80 :: List.replicate (zeroCount message.length) 0 ++ beBytes 8 (8 * message.length))

def Chain.toBytes (v : Chain) : Bytes :=
  [v.a, v.b, v.c, v.d, v.e, v.f, v.g, v.h].flatMap WireCodec.u32.encode

theorem Chain.toBytes_length (v : Chain) : v.toBytes.length = 32 := by
  simp [Chain.toBytes]

def hash (message : Bytes) : Digest :=
  let padded := pad message
  let v := (BlockHash.blocks 64 (padded.length / 64) padded).foldl compress initialHash
  ⟨v.toBytes, v.toBytes_length⟩

theorem pad_length (m : Bytes) : 64 * ((pad m).length / 64) = (pad m).length := by
  have hlen : (pad m).length = m.length + (1 + zeroCount m.length + 8) := by
    simp [pad]
    omega
  rw [hlen]
  unfold zeroCount
  omega

theorem hash_eq_absorb (m : Bytes) :
    (hash m).1 = (BlockHash.absorb 64 compress (initialHash, []) (pad m)).1.toBytes := by
  have hlen : (pad m).length = (pad m).length / 64 * 64 := by
    have := pad_length m
    omega
  rw [BlockHash.absorb_blocks 64 compress (by decide) _ initialHash (pad m) hlen]
  rfl

/-- RFC 2104: a key longer than a block is hashed, then every key is zero padded. -/
def blockKey (key : Bytes) : Bytes :=
  let short := if key.length > 64 then (hash key).1 else key
  short ++ List.replicate (64 - short.length) 0

def hmac (key text : Bytes) : Digest :=
  let inner := hash ((blockKey key).map (· ^^^ 0x36) ++ text)
  hash ((blockKey key).map (· ^^^ 0x5c) ++ inner.1)

end Sha256

end ObcFlight
