import ObcFlight.Sha256

/-!
# The flight hash accumulator and keyed hash

CommandAuthCrypto.cpp and BootMetadataStore.cpp carry the same streaming SHA-256
class. Its live buffer is modelled without the stale bytes behind m_bufferSize,
which final overwrites before they are read. The accumulator computes the
published hash of everything it was fed, however the feeding was split.
-/

namespace ObcFlight.CommandAuthCrypto

open Sha256 (Chain)

def rotateRight (value count : UInt32) : UInt32 := (value >>> count) ||| (value <<< (32 - count))

def choose (x y z : UInt32) : UInt32 := (x &&& y) ^^^ (~~~x &&& z)

def majority (x y z : UInt32) : UInt32 := (x &&& y) ^^^ (x &&& z) ^^^ (y &&& z)

variable (value : UInt32)

def bigSigma0 : UInt32 := rotateRight value 2 ^^^ rotateRight value 13 ^^^ rotateRight value 22

def bigSigma1 : UInt32 := rotateRight value 6 ^^^ rotateRight value 11 ^^^ rotateRight value 25

def smallSigma0 : UInt32 := rotateRight value 7 ^^^ rotateRight value 18 ^^^ (value >>> 3)

def smallSigma1 : UInt32 := rotateRight value 17 ^^^ rotateRight value 19 ^^^ (value >>> 10)

def loadBigEndian32 (data : Bytes) : UInt32 :=
  ((data.getD 0 0).toUInt32 <<< 24) ||| ((data.getD 1 0).toUInt32 <<< 16) |||
    ((data.getD 2 0).toUInt32 <<< 8) ||| (data.getD 3 0).toUInt32

def transformK : List UInt32 :=
  [0x428A2F98, 0x71374491, 0xB5C0FBCF, 0xE9B5DBA5, 0x3956C25B, 0x59F111F1, 0x923F82A4, 0xAB1C5ED5,
   0xD807AA98, 0x12835B01, 0x243185BE, 0x550C7DC3, 0x72BE5D74, 0x80DEB1FE, 0x9BDC06A7, 0xC19BF174,
   0xE49B69C1, 0xEFBE4786, 0x0FC19DC6, 0x240CA1CC, 0x2DE92C6F, 0x4A7484AA, 0x5CB0A9DC, 0x76F988DA,
   0x983E5152, 0xA831C66D, 0xB00327C8, 0xBF597FC7, 0xC6E00BF3, 0xD5A79147, 0x06CA6351, 0x14292967,
   0x27B70A85, 0x2E1B2138, 0x4D2C6DFC, 0x53380D13, 0x650A7354, 0x766A0ABB, 0x81C2C92E, 0x92722C85,
   0xA2BFE8A1, 0xA81A664B, 0xC24B8B70, 0xC76C51A3, 0xD192E819, 0xD6990624, 0xF40E3585, 0x106AA070,
   0x19A4C116, 0x1E376C08, 0x2748774C, 0x34B0BCB5, 0x391C0CB3, 0x4ED8AA4A, 0x5B9CCA4F, 0x682E6FF3,
   0x748F82EE, 0x78A5636F, 0x84C87814, 0x8CC70208, 0x90BEFFFA, 0xA4506CEB, 0xBEF9A3F7, 0xC67178F2]

/-- The loop that fills schedule[16..63], appending at the end of what is filled. -/
def extendSchedule : ℕ → List UInt32 → List UInt32
  | 0, schedule => schedule
  | n + 1, schedule =>
    let i := schedule.length
    extendSchedule n (schedule ++ [smallSigma1 (schedule.getD (i - 2) 0) + schedule.getD (i - 7) 0 +
      smallSigma0 (schedule.getD (i - 15) 0) + schedule.getD (i - 16) 0])

def transformSchedule (block : Bytes) : List UInt32 :=
  extendSchedule 48 ((List.range 16).map fun i => loadBigEndian32 (block.drop (i * 4)))

def transformRound (v : Chain) (k w : UInt32) : Chain :=
  let temp1 := v.h + bigSigma1 v.e + choose v.e v.f v.g + k + w
  let temp2 := bigSigma0 v.a + majority v.a v.b v.c
  { h := v.g, g := v.f, f := v.e, e := v.d + temp1, d := v.c, c := v.b, b := v.a,
    a := temp1 + temp2 }

def transform (state : Chain) (block : Bytes) : Chain :=
  let v := (List.range 64).foldl
    (fun u i => transformRound u (transformK.getD i 0) ((transformSchedule block).getD i 0)) state
  ⟨state.a + v.a, state.b + v.b, state.c + v.c, state.d + v.d, state.e + v.e, state.f + v.f,
    state.g + v.g, state.h + v.h⟩

structure Sha256Accumulator where
  state : Chain
  totalBytes : UInt64
  buffer : Bytes

namespace Sha256Accumulator

def new : Sha256Accumulator :=
  ⟨⟨0x6A09E667, 0xBB67AE85, 0x3C6EF372, 0xA54FF53A, 0x510E527F, 0x9B05688C, 0x1F83D9AB,
    0x5BE0CD19⟩, 0, []⟩

/-- The copy loop of update; every iteration consumes a byte, so the length is enough fuel. -/
def copyLoop : ℕ → Chain × Bytes → Bytes → Chain × Bytes
  | 0, st, _ => st
  | fuel + 1, (state, buffer), data =>
    if data = [] then (state, buffer)
    else
      let copySize := min (64 - buffer.length) data.length
      let buffer := buffer ++ data.take copySize
      if buffer.length = 64 then copyLoop fuel (transform state buffer, []) (data.drop copySize)
      else copyLoop fuel (state, buffer) (data.drop copySize)

def update (acc : Sha256Accumulator) (data : Bytes) : Sha256Accumulator :=
  if data = [] then acc
  else
    let st := copyLoop data.length (acc.state, acc.buffer) data
    ⟨st.1, acc.totalBytes + UInt64.ofNat data.length, st.2⟩

def lengthBytes (totalBits : UInt64) : Bytes :=
  ([7, 6, 5, 4, 3, 2, 1, 0] : List UInt64).map fun i => ((totalBits >>> (i * 8)) &&& 0xFF).toUInt8

def wordBytes : Bytes :=
  [((value >>> 24) &&& 0xFF).toUInt8, ((value >>> 16) &&& 0xFF).toUInt8,
    ((value >>> 8) &&& 0xFF).toUInt8, (value &&& 0xFF).toUInt8]

def digestBytes (v : Chain) : Bytes := [v.a, v.b, v.c, v.d, v.e, v.f, v.g, v.h].flatMap wordBytes

def final (acc : Sha256Accumulator) : Digest :=
  let marked := acc.buffer ++ [0x80]
  let (state, buffer) :=
    if marked.length > 64 - 8 then
      (transform acc.state (marked ++ List.replicate (64 - marked.length) 0), [])
    else (acc.state, marked)
  let padded := buffer ++ List.replicate (64 - 8 - buffer.length) 0
  let state := transform state (padded ++ lengthBytes (acc.totalBytes * 8))
  ⟨digestBytes state, by simp [digestBytes, wordBytes]⟩

end Sha256Accumulator

def sha256Bytes (data : Bytes) : Digest := (Sha256Accumulator.new.update data).final

/-- The keyed hash; it refuses an empty key and otherwise always answers. -/
def hmacSha256 (key data : Bytes) : Option Digest :=
  if key = [] then none
  else
    let short := if key.length > 64 then (sha256Bytes key).1 else key
    let normalizedKey := short ++ List.replicate (64 - short.length) 0
    let innerPad := normalizedKey.map fun b => b ^^^ 0x36
    let outerPad := normalizedKey.map fun b => b ^^^ 0x5C
    let innerDigest := ((Sha256Accumulator.new.update innerPad).update data).final
    some ((Sha256Accumulator.new.update outerPad).update innerDigest.1).final

/-- The running difference of constantTimeEqual over two equally long buffers. -/
def constantTimeDiff (lhs rhs : Bytes) : UInt8 :=
  (lhs.zip rhs).foldl (fun diff p => diff ||| (p.1 ^^^ p.2)) 0

def constantTimeEqual (lhs rhs : Bytes) : Bool := constantTimeDiff lhs rhs = 0

section Compression

theorem loadBigEndian32_eq (b₀ b₁ b₂ b₃ : UInt8) (rest : Bytes) :
    loadBigEndian32 (b₀ :: b₁ :: b₂ :: b₃ :: rest) = UInt32.ofNat (beValue [b₀, b₁, b₂, b₃]) := by
  have h₀ := b₀.toNat_lt
  have h₁ := b₁.toNat_lt
  have h₂ := b₂.toNat_lt
  have h₃ := b₃.toNat_lt
  -- the shifted bytes occupy disjoint bit ranges, so each "or" is a sum
  have hlow : b₂.toNat * 2 ^ 8 ||| b₃.toNat = b₂.toNat * 2 ^ 8 + b₃.toNat := by
    rw [Nat.mul_comm, Nat.two_pow_add_eq_or_of_lt (by omega)]
  have hmid : b₁.toNat * 2 ^ 16 ||| (b₂.toNat * 2 ^ 8 + b₃.toNat) =
      b₁.toNat * 2 ^ 16 + (b₂.toNat * 2 ^ 8 + b₃.toNat) := by
    rw [Nat.mul_comm b₁.toNat, Nat.two_pow_add_eq_or_of_lt (by omega)]
  have hh : b₀.toNat * 2 ^ 24 ||| (b₁.toNat * 2 ^ 16 + (b₂.toNat * 2 ^ 8 + b₃.toNat)) =
      b₀.toNat * 2 ^ 24 + (b₁.toNat * 2 ^ 16 + (b₂.toNat * 2 ^ 8 + b₃.toNat)) := by
    rw [Nat.mul_comm b₀.toNat, Nat.two_pow_add_eq_or_of_lt (by omega)]
  have hw : (loadBigEndian32 (b₀ :: b₁ :: b₂ :: b₃ :: rest)).toNat =
      b₀.toNat * 2 ^ 24 ||| b₁.toNat * 2 ^ 16 ||| b₂.toNat * 2 ^ 8 ||| b₃.toNat := by
    simp [loadBigEndian32, Nat.shiftLeft_eq, Nat.mod_eq_of_lt (show b₀.toNat * 16777216 < 4294967296 by omega),
      Nat.mod_eq_of_lt (show b₁.toNat * 65536 < 4294967296 by omega),
      Nat.mod_eq_of_lt (show b₂.toNat * 256 < 4294967296 by omega)]
  apply UInt32.toNat_inj.mp
  rw [hw, Nat.or_assoc, Nat.or_assoc, hlow, hmid, hh, UInt32.toNat_ofNat_of_lt']
  · simp [beValue]
  · simp [beValue, UInt32.size]
    omega

variable (block : Bytes)

theorem loadBigEndian32_drop (t : ℕ) (h : 4 * t + 4 ≤ block.length) :
    loadBigEndian32 (block.drop (t * 4)) = Sha256.wordAt block t := by
  rw [Nat.mul_comm t 4, Sha256.wordAt]
  have hlen : 4 ≤ (block.drop (4 * t)).length := by rw [List.length_drop]; omega
  match hd : block.drop (4 * t), hlen with
  | b₀ :: b₁ :: b₂ :: b₃ :: rest, _ => exact loadBigEndian32_eq b₀ b₁ b₂ b₃ rest

theorem extendSchedule_eq (n k : ℕ) (hn : 16 ≤ n) :
    extendSchedule k ((List.range n).map (Sha256.schedule block)) =
      (List.range (n + k)).map (Sha256.schedule block) := by
  induction k generalizing n with
  | zero => rfl
  | succ _ ih =>
    have hget (j : ℕ) (hj : j < n) :
        ((List.range n).map (Sha256.schedule block)).getD j 0 = Sha256.schedule block j := by
      simp [List.getD_eq_getElem?_getD, hj]
    have hnext : Sha256.schedule block n =
        smallSigma1 (Sha256.schedule block (n - 2)) + Sha256.schedule block (n - 7) +
          smallSigma0 (Sha256.schedule block (n - 15)) + Sha256.schedule block (n - 16) := by
      rw [Sha256.schedule, if_neg (by omega)]
      rfl
    have hrec := ih (n + 1) (by omega)
    rw [extendSchedule]
    simp only [List.length_map, List.length_range]
    rw [hget _ (by omega), hget _ (by omega), hget _ (by omega), hget _ (by omega), ← hnext]
    rw [List.range_succ, List.map_append, List.map_singleton] at hrec
    rw [hrec, Nat.add_assoc, Nat.add_comm 1]

theorem transformSchedule_eq (hlen : block.length = 64) :
    transformSchedule block = (List.range 64).map (Sha256.schedule block) := by
  have hf : ((List.range 16).map fun i => loadBigEndian32 (block.drop (i * 4))) =
      (List.range 16).map (Sha256.schedule block) := by
    apply List.map_congr_left
    intro i hi
    have hi16 : i < 16 := List.mem_range.mp hi
    rw [loadBigEndian32_drop block i (by omega), Sha256.schedule, if_pos hi16]
  rw [transformSchedule, hf, extendSchedule_eq block 16 48 le_rfl]

theorem transform_eq_compress (state : Chain) (block : Bytes) (hlen : block.length = 64) :
    transform state block = Sha256.compress state block := by
  have hr : (List.range 64).foldl (fun u i => transformRound u (transformK.getD i 0)
        ((transformSchedule block).getD i 0)) state =
      (List.range 64).foldl (fun u t => Sha256.round u (Sha256.roundConstants.getD t 0)
        (Sha256.schedule block t)) state := by
    apply List.foldl_ext
    intro u i hi
    have hi64 : i < 64 := List.mem_range.mp hi
    rw [transformSchedule_eq block hlen]
    simp [List.getD_eq_getElem?_getD, hi64]
    rfl
  rw [transform, hr]
  rfl

end Compression

namespace Sha256Accumulator

open BlockHash

theorem copyLoop_eq_absorb (fuel : ℕ) (s : Chain) (b data : Bytes)
    (hfl : data.length ≤ fuel) (hbf : b.length < 64) :
    copyLoop fuel (s, b) data = absorb 64 transform (s, b) data := by
  induction fuel generalizing s b data with
  | zero =>
    have hnil : data = [] := List.eq_nil_of_length_eq_zero (by omega)
    subst hnil
    rfl
  | succ _ ih =>
    rw [copyLoop]
    by_cases hnil : data = []
    · subst hnil
      rfl
    have hpos : 0 < data.length := List.length_pos_iff.mpr hnil
    rw [if_neg hnil]
    dsimp only
    by_cases hf : 64 - b.length ≤ data.length
    · -- the copied piece completes the block
      have hc : min (64 - b.length) data.length = 64 - b.length := by omega
      have hp : b.length + (data.take (64 - b.length)).length = 64 := by
        rw [List.length_take]
        omega
      have hne : data.take (64 - b.length) ≠ [] := by
        intro he
        rw [he] at hp
        simp at hp
        omega
      rw [hc, List.length_append, if_pos hp,
        ih _ _ _ (by rw [List.length_drop]; omega) (by decide),
        ← absorb_fill 64 transform s b _ hne hp, ← absorb_append,
        List.take_append_drop]
    · have hc : min (64 - b.length) data.length = data.length := by omega
      rw [hc, List.take_length, List.drop_length, List.length_append, if_neg (by omega),
        ih _ _ _ (by simp) (by simp; omega),
        absorb_short 64 transform s b data (by omega)]
      rfl

def Represents (acc : Sha256Accumulator) (message : Bytes) : Prop :=
  (acc.state, acc.buffer) = absorb 64 transform (Sha256.initialHash, []) message ∧
    acc.totalBytes = UInt64.ofNat message.length

theorem new_represents : new.Represents [] := ⟨rfl, rfl⟩

variable {acc : Sha256Accumulator} {message : Bytes}

theorem Represents.buffer_length (h : acc.Represents message) :
    acc.buffer.length = message.length % 64 := by
  have hb : acc.buffer = (absorb 64 transform (Sha256.initialHash, []) message).2 := by
    rw [← h.1]
  rw [hb, absorb_pending_length 64 transform Sha256.initialHash [] message (by decide)]
  simp

theorem Represents.update (h : acc.Represents message) (data : Bytes) :
    (acc.update data).Represents (message ++ data) := by
  unfold Sha256Accumulator.update
  split
  next hnil =>
    subst hnil
    simpa using h
  next =>
    have hlt : acc.buffer.length < 64 := by
      rw [h.buffer_length]
      exact Nat.mod_lt _ (by decide)
    refine ⟨?_, ?_⟩
    · change copyLoop data.length (acc.state, acc.buffer) data = _
      rw [copyLoop_eq_absorb _ _ _ _ le_rfl hlt, h.1, absorb_append]
    · change acc.totalBytes + UInt64.ofNat data.length = _
      rw [h.2, List.length_append, UInt64.ofNat_add]

theorem byte_of_shift64 (v s : UInt64) (hs : s.toNat < 64) :
    ((v >>> s) &&& 0xFF).toUInt8 = UInt8.ofNat (v.toNat / 2 ^ s.toNat) := by
  apply UInt8.toNat_inj.mp
  rw [UInt64.toNat_toUInt8, UInt64.toNat_and, UInt64.toNat_shiftRight, Nat.mod_eq_of_lt hs,
    Nat.shiftRight_eq_div_pow, UInt8.toNat_ofNat']
  exact (congrArg (· % 2 ^ 8) (Nat.and_two_pow_sub_one_eq_mod _ 8)).trans (Nat.mod_mod _ _)

theorem byte_of_shift32 (v s : UInt32) (hs : s.toNat < 32) :
    ((v >>> s) &&& 0xFF).toUInt8 = UInt8.ofNat (v.toNat / 2 ^ s.toNat) := by
  apply UInt8.toNat_inj.mp
  rw [UInt32.toNat_toUInt8, UInt32.toNat_and, UInt32.toNat_shiftRight, Nat.mod_eq_of_lt hs,
    Nat.shiftRight_eq_div_pow, UInt8.toNat_ofNat']
  exact (congrArg (· % 2 ^ 8) (Nat.and_two_pow_sub_one_eq_mod _ 8)).trans (Nat.mod_mod _ _)

theorem lengthBytes_eq (n : ℕ) : lengthBytes (UInt64.ofNat n * 8) = beBytes 8 (8 * n) := by
  have hbt : (UInt64.ofNat n * 8).toNat = 8 * n % 256 ^ 8 := by
    simp [Nat.mul_comm]
  rw [← beBytes_mod, ← hbt]
  generalize UInt64.ofNat n * 8 = bits
  simp only [lengthBytes, List.map_cons, List.map_nil, beBytes]
  repeat rw [byte_of_shift64 _ _ (by decide)]
  rfl

theorem wordBytes_eq : wordBytes value = WireCodec.u32.encode value := by
  have hl : (value &&& 0xFF : UInt32) = (value >>> 0) &&& 0xFF := by simp
  rw [wordBytes, hl]
  repeat rw [byte_of_shift32 _ _ (by decide)]
  rfl

theorem digestBytes_eq (v : Chain) : digestBytes v = v.toBytes := by
  simp only [digestBytes, Chain.toBytes, funext wordBytes_eq]

theorem Represents.final_eq (h : acc.Represents message) : acc.final = Sha256.hash message := by
  have hr := h.buffer_length
  have hlt : message.length % 64 < 64 := Nat.mod_lt _ (by decide)
  have hh : (Sha256.hash message).1 = (absorb 64 transform (acc.state, acc.buffer)
      (0x80 :: List.replicate (Sha256.zeroCount message.length) 0 ++
        beBytes 8 (8 * message.length))).1.toBytes := by
    rw [Sha256.hash_eq_absorb, absorb_congr 64 Sha256.compress transform
      (fun c block hb => (transform_eq_compress c block hb).symm), h.1, Sha256.pad, absorb_append]
  apply Subtype.ext
  rw [hh]
  simp only [final, digestBytes_eq, h.2, lengthBytes_eq]
  by_cases hft : message.length % 64 < 56
  · -- marker and length fit into the pending block
    have hz : Sha256.zeroCount message.length = 55 - message.length % 64 := by
      unfold Sha256.zeroCount
      omega
    have hbr : ¬ (acc.buffer ++ [0x80]).length > 64 - 8 := by simp; omega
    rw [if_neg hbr, hz, absorb_fill 64 transform _ _ _ (by simp)]
    · simp [hr, show 64 - 8 - (message.length % 64 + 1) = 55 - message.length % 64 by omega]
    · simp
      omega
  · have hz : List.replicate (Sha256.zeroCount message.length) (0 : UInt8) =
        List.replicate (63 - message.length % 64) 0 ++ List.replicate 56 0 := by
      rw [← List.replicate_add]
      congr 1
      unfold Sha256.zeroCount
      omega
    have hbr : (acc.buffer ++ [0x80]).length > 64 - 8 := by simp; omega
    have hs : (0x80 :: List.replicate (Sha256.zeroCount message.length) 0 ++
        beBytes 8 (8 * message.length) : Bytes) =
        (0x80 :: List.replicate (63 - message.length % 64) 0) ++
          (List.replicate 56 0 ++ beBytes 8 (8 * message.length)) := by
      rw [hz]
      simp
    have hf := absorb_fill 64 transform acc.state acc.buffer
      (0x80 :: List.replicate (63 - message.length % 64) 0) (by simp) (by simp; omega)
    rw [if_pos hbr, hs, absorb_append, hf, absorb_fill 64 transform _ [] _ (by simp) (by simp)]
    simp [hr, show 64 - (message.length % 64 + 1) = 63 - message.length % 64 by omega]

end Sha256Accumulator

theorem sha256Bytes_eq_hash (data : Bytes) : sha256Bytes data = Sha256.hash data :=
  (Sha256Accumulator.new_represents.update data).final_eq

theorem hmacSha256_eq_hmac (key data : Bytes) (hkey : key ≠ []) :
    hmacSha256 key data = some (Sha256.hmac key data) := by
  have htwo (xs ys : Bytes) :
      ((Sha256Accumulator.new.update xs).update ys).final = Sha256.hash (xs ++ ys) :=
    ((Sha256Accumulator.new_represents.update xs).update ys).final_eq
  rw [hmacSha256, if_neg hkey]
  simp only [htwo, sha256Bytes_eq_hash]
  rfl

/-- However a message is split over the calls of update, the digest is the published hash of the whole
message; and the keyed hash is the published one for every key but the empty one, which it refuses. -/
theorem sha256_and_hmac_published :
    (∀ chunks : List Bytes,
      (chunks.foldl Sha256Accumulator.update Sha256Accumulator.new).final = Sha256.hash chunks.flatten) ∧
    ∀ key data : Bytes, hmacSha256 key data = if key = [] then none else some (Sha256.hmac key data) := by
  have hfold (chunks : List Bytes) {acc : Sha256Accumulator} {message : Bytes} (hacc : acc.Represents message) :
      (chunks.foldl Sha256Accumulator.update acc).Represents (message ++ chunks.flatten) := by
    induction chunks generalizing acc message with
    | nil => simpa using hacc
    | cons chunk _ ih =>
      rw [List.foldl_cons, List.flatten_cons, ← List.append_assoc]
      exact ih (hacc.update chunk)
  refine ⟨fun chunks => (hfold chunks Sha256Accumulator.new_represents).final_eq, ?_⟩
  intro key data
  by_cases hkey : key = []
  · rw [if_pos hkey, hkey]
    rfl
  · rw [if_neg hkey, hmacSha256_eq_hmac key data hkey]

/-- The published keyed hash takes an empty key; the flight one does not. -/
theorem hmacSha256_empty_key : hmacSha256 [] [0] ≠ some (Sha256.hmac [] [0]) := nofun

theorem constantTimeDiff_foldl (ps : List (UInt8 × UInt8)) (diff : UInt8) :
    ps.foldl (fun diff p => diff ||| (p.1 ^^^ p.2)) diff = 0 ↔ diff = 0 ∧ ∀ p ∈ ps, p.1 = p.2 := by
  induction ps generalizing diff with
  | nil => simp
  | cons _ _ ih =>
    rw [List.foldl_cons, ih, UInt8.or_eq_zero_iff, UInt8.xor_eq_zero_iff]
    simp [and_assoc]

theorem constantTimeEqual_iff (lhs rhs : Bytes) (hlen : lhs.length = rhs.length) :
    constantTimeEqual lhs rhs = true ↔ lhs = rhs := by
  rw [constantTimeEqual, decide_eq_true_iff, constantTimeDiff, constantTimeDiff_foldl]
  simp only [true_and]
  induction lhs generalizing rhs with
  | nil =>
    cases rhs with
    | nil => simp
    | cons => simp at hlen
  | cons _ _ ih =>
    cases rhs with
    | nil => simp at hlen
    | cons _ rhs =>
      rw [List.zip_cons_cons, List.forall_mem_cons, ih rhs (by simpa using hlen), List.cons.injEq]

end ObcFlight.CommandAuthCrypto
