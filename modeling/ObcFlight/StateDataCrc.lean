import ObcFlight.PersistentFaultStore

/-!
# The checksum of the state data

The checksum of the onboard records is computed with a table of 256 words. The table holds eight
shifts of each byte, so the checksum is the bitwise one. A shift is linear and loses nothing, and
that makes every burst of at most four bytes visible.
-/

namespace ObcFlight.StateData

def crc32Table : List UInt32 :=
  [0x00000000, 0x77073096, 0xEE0E612C, 0x990951BA, 0x076DC419, 0x706AF48F, 0xE963A535, 0x9E6495A3,
    0x0EDB8832, 0x79DCB8A4, 0xE0D5E91E, 0x97D2D988, 0x09B64C2B, 0x7EB17CBD, 0xE7B82D07, 0x90BF1D91,
    0x1DB71064, 0x6AB020F2, 0xF3B97148, 0x84BE41DE, 0x1ADAD47D, 0x6DDDE4EB, 0xF4D4B551, 0x83D385C7,
    0x136C9856, 0x646BA8C0, 0xFD62F97A, 0x8A65C9EC, 0x14015C4F, 0x63066CD9, 0xFA0F3D63, 0x8D080DF5,
    0x3B6E20C8, 0x4C69105E, 0xD56041E4, 0xA2677172, 0x3C03E4D1, 0x4B04D447, 0xD20D85FD, 0xA50AB56B,
    0x35B5A8FA, 0x42B2986C, 0xDBBBC9D6, 0xACBCF940, 0x32D86CE3, 0x45DF5C75, 0xDCD60DCF, 0xABD13D59,
    0x26D930AC, 0x51DE003A, 0xC8D75180, 0xBFD06116, 0x21B4F4B5, 0x56B3C423, 0xCFBA9599, 0xB8BDA50F,
    0x2802B89E, 0x5F058808, 0xC60CD9B2, 0xB10BE924, 0x2F6F7C87, 0x58684C11, 0xC1611DAB, 0xB6662D3D,
    0x76DC4190, 0x01DB7106, 0x98D220BC, 0xEFD5102A, 0x71B18589, 0x06B6B51F, 0x9FBFE4A5, 0xE8B8D433,
    0x7807C9A2, 0x0F00F934, 0x9609A88E, 0xE10E9818, 0x7F6A0DBB, 0x086D3D2D, 0x91646C97, 0xE6635C01,
    0x6B6B51F4, 0x1C6C6162, 0x856530D8, 0xF262004E, 0x6C0695ED, 0x1B01A57B, 0x8208F4C1, 0xF50FC457,
    0x65B0D9C6, 0x12B7E950, 0x8BBEB8EA, 0xFCB9887C, 0x62DD1DDF, 0x15DA2D49, 0x8CD37CF3, 0xFBD44C65,
    0x4DB26158, 0x3AB551CE, 0xA3BC0074, 0xD4BB30E2, 0x4ADFA541, 0x3DD895D7, 0xA4D1C46D, 0xD3D6F4FB,
    0x4369E96A, 0x346ED9FC, 0xAD678846, 0xDA60B8D0, 0x44042D73, 0x33031DE5, 0xAA0A4C5F, 0xDD0D7CC9,
    0x5005713C, 0x270241AA, 0xBE0B1010, 0xC90C2086, 0x5768B525, 0x206F85B3, 0xB966D409, 0xCE61E49F,
    0x5EDEF90E, 0x29D9C998, 0xB0D09822, 0xC7D7A8B4, 0x59B33D17, 0x2EB40D81, 0xB7BD5C3B, 0xC0BA6CAD,
    0xEDB88320, 0x9ABFB3B6, 0x03B6E20C, 0x74B1D29A, 0xEAD54739, 0x9DD277AF, 0x04DB2615, 0x73DC1683,
    0xE3630B12, 0x94643B84, 0x0D6D6A3E, 0x7A6A5AA8, 0xE40ECF0B, 0x9309FF9D, 0x0A00AE27, 0x7D079EB1,
    0xF00F9344, 0x8708A3D2, 0x1E01F268, 0x6906C2FE, 0xF762575D, 0x806567CB, 0x196C3671, 0x6E6B06E7,
    0xFED41B76, 0x89D32BE0, 0x10DA7A5A, 0x67DD4ACC, 0xF9B9DF6F, 0x8EBEEFF9, 0x17B7BE43, 0x60B08ED5,
    0xD6D6A3E8, 0xA1D1937E, 0x38D8C2C4, 0x4FDFF252, 0xD1BB67F1, 0xA6BC5767, 0x3FB506DD, 0x48B2364B,
    0xD80D2BDA, 0xAF0A1B4C, 0x36034AF6, 0x41047A60, 0xDF60EFC3, 0xA867DF55, 0x316E8EEF, 0x4669BE79,
    0xCB61B38C, 0xBC66831A, 0x256FD2A0, 0x5268E236, 0xCC0C7795, 0xBB0B4703, 0x220216B9, 0x5505262F,
    0xC5BA3BBE, 0xB2BD0B28, 0x2BB45A92, 0x5CB36A04, 0xC2D7FFA7, 0xB5D0CF31, 0x2CD99E8B, 0x5BDEAE1D,
    0x9B64C2B0, 0xEC63F226, 0x756AA39C, 0x026D930A, 0x9C0906A9, 0xEB0E363F, 0x72076785, 0x05005713,
    0x95BF4A82, 0xE2B87A14, 0x7BB12BAE, 0x0CB61B38, 0x92D28E9B, 0xE5D5BE0D, 0x7CDCEFB7, 0x0BDBDF21,
    0x86D3D2D4, 0xF1D4E242, 0x68DDB3F8, 0x1FDA836E, 0x81BE16CD, 0xF6B9265B, 0x6FB077E1, 0x18B74777,
    0x88085AE6, 0xFF0F6A70, 0x66063BCA, 0x11010B5C, 0x8F659EFF, 0xF862AE69, 0x616BFFD3, 0x166CCF45,
    0xA00AE278, 0xD70DD2EE, 0x4E048354, 0x3903B3C2, 0xA7672661, 0xD06016F7, 0x4969474D, 0x3E6E77DB,
    0xAED16A4A, 0xD9D65ADC, 0x40DF0B66, 0x37D83BF0, 0xA9BCAE53, 0xDEBB9EC5, 0x47B2CF7F, 0x30B5FFE9,
    0xBDBDF21C, 0xCABAC28A, 0x53B39330, 0x24B4A3A6, 0xBAD03605, 0xCDD70693, 0x54DE5729, 0x23D967BF,
    0xB3667A2E, 0xC4614AB8, 0x5D681B02, 0x2A6F2B94, 0xB40BBE37, 0xC30C8EA1, 0x5A05DF1B, 0x2D02EF8D]

def crc32Lookup (crc : UInt32) (byte : UInt8) : UInt32 :=
  crc32Table.getD ((crc ^^^ byte.toUInt32) &&& 0xFF).toNat 0 ^^^ (crc >>> 8)

/-- Source `crc32`, with its table. -/
def tableCrc32 (bytes : Bytes) : UInt32 := ~~~(bytes.foldl crc32Lookup 0xFFFFFFFF)

/-! ### One shift -/

theorem crc32Bit_xor (a b : UInt32) : crc32Bit (a ^^^ b) = crc32Bit a ^^^ crc32Bit b := by
  have hlow (c : UInt32) : c &&& 1 = 0 ∨ c &&& 1 = 1 := by
    rw [← UInt32.toNat_inj, ← UInt32.toNat_inj, UInt32.toNat_and]
    have hc := Nat.and_one_is_mod c.toNat
    simp only [UInt32.reduceToNat]
    omega
  have hx : (a ^^^ b) &&& 1 = (a &&& 1) ^^^ (b &&& 1) := by
    rw [← UInt32.toNat_inj]
    simp only [UInt32.toNat_and, UInt32.toNat_xor, Nat.and_xor_distrib_right]
  have hs : (a ^^^ b) >>> 1 = (a >>> 1) ^^^ (b >>> 1) := UInt32.shiftRight_xor
  unfold crc32Bit
  rw [hx, hs]
  generalize a >>> 1 = x, b >>> 1 = y
  rcases hlow a with ha | ha <;> rcases hlow b with hb | hb <;> rw [ha, hb]
  · rfl
  · exact UInt32.xor_assoc ..
  · change x ^^^ y ^^^ 0xEDB88320 = x ^^^ 0xEDB88320 ^^^ y
    rw [UInt32.xor_assoc, UInt32.xor_comm y, UInt32.xor_assoc]
  · change x ^^^ y = x ^^^ 0xEDB88320 ^^^ (y ^^^ 0xEDB88320)
    rw [UInt32.xor_comm y 0xEDB88320, UInt32.xor_assoc, ← UInt32.xor_assoc 0xEDB88320, UInt32.xor_self,
      UInt32.zero_xor]

variable {c : UInt32}

theorem eq_zero_of_crc32Bit (h : crc32Bit c = 0) : c = 0 := by
  have hc := Nat.and_one_is_mod c.toNat
  have hlt := c.toNat_lt
  unfold crc32Bit at h
  split_ifs at h with hlow
  · -- the polynomial has its top bit set, which a shifted word has not
    have hp := congrArg UInt32.toNat (UInt32.xor_eq_zero_iff.mp h)
    simp [Nat.shiftRight_eq_div_pow] at hp
    omega
  · have hp := congrArg UInt32.toNat h
    rw [← UInt32.toNat_inj, UInt32.toNat_and] at hlow
    simp [Nat.shiftRight_eq_div_pow] at hp hlow
    rw [← UInt32.toNat_inj]
    simp
    omega

theorem crc32Bit_of_even (h : c.toNat % 2 = 0) : (crc32Bit c).toNat = c.toNat / 2 := by
  have hc := Nat.and_one_is_mod c.toNat
  unfold crc32Bit
  rw [if_neg]
  · simp [Nat.shiftRight_eq_div_pow]
  · rw [← UInt32.toNat_inj, UInt32.toNat_and]
    simp
    omega

/-! ### Shifts -/

theorem shifts_xor (n : ℕ) (a b : UInt32) : crc32Bit^[n] (a ^^^ b) = crc32Bit^[n] a ^^^ crc32Bit^[n] b := by
  induction n generalizing a b with
  | zero => rfl
  | succ _ ih => rw [Function.iterate_succ_apply, crc32Bit_xor, ih]; rfl

theorem shifts_injective (n : ℕ) : Function.Injective crc32Bit^[n] := by
  refine Function.Injective.iterate (fun a b h => ?_) n
  have hab : crc32Bit (a ^^^ b) = 0 := by rw [crc32Bit_xor, h, UInt32.xor_self]
  exact UInt32.xor_eq_zero_iff.mp (eq_zero_of_crc32Bit hab)

theorem shifts_toNat {n : ℕ} {c : UInt32} (h : c.toNat % 2 ^ n = 0) :
    (crc32Bit^[n] c).toNat = c.toNat / 2 ^ n := by
  induction n generalizing c with
  | zero => simp
  | succ _ ih =>
    rw [pow_succ, Nat.mul_comm, Nat.mod_mul] at h
    have hc : (crc32Bit c).toNat = c.toNat / 2 := crc32Bit_of_even (by omega)
    rw [Function.iterate_succ_apply, ih (by rw [hc]; omega), hc, Nat.div_div_eq_div_mul, pow_succ,
      Nat.mul_comm]

theorem toNat_shiftLeft {e : UInt32} (h : e.toNat < 2 ^ 24) : (e <<< 8).toNat = e.toNat * 2 ^ 8 := by
  simp [Nat.shiftLeft_eq]
  omega

/-- A word in the upper three bytes moves down by one byte. -/
theorem shifts_shiftLeft {e : UInt32} (h : e.toNat < 2 ^ 24) : crc32Bit^[8] (e <<< 8) = e := by
  have he := toNat_shiftLeft h
  rw [← UInt32.toNat_inj, shifts_toNat (by rw [he]; omega), he]
  omega

/-! ### The table -/

theorem crc32Table_eq : crc32Table = (List.range 256).map fun i => crc32Bit^[8] (UInt32.ofNat i) := by
  decide +kernel

theorem crc32Table_getD (h : c.toNat < 256) : crc32Table.getD c.toNat 0 = crc32Bit^[8] c := by
  rw [crc32Table_eq, List.getD_eq_getElem?_getD, List.getElem?_map, List.getElem?_range h, Option.map_some,
    Option.getD_some, UInt32.ofNat_toNat]

theorem low_xor_high (x : UInt32) : (x &&& (0xFF : UInt32)) ^^^ ((x >>> 8) <<< 8) = x := by
  have hh : ((x >>> 8) <<< 8).toNat = 2 ^ 8 * (x.toNat / 2 ^ 8) := by
    have hx := x.toNat_lt
    simp [Nat.shiftLeft_eq, Nat.shiftRight_eq_div_pow]
    omega
  have hl : (x &&& (0xFF : UInt32)).toNat = x.toNat % 2 ^ 8 := by
    rw [UInt32.toNat_and]
    exact Nat.and_two_pow_sub_one_eq_mod _ 8
  rw [← UInt32.toNat_inj, UInt32.toNat_xor, hh, hl]
  refine Nat.eq_of_testBit_eq fun j => ?_
  rw [Nat.testBit_xor, Nat.testBit_mod_two_pow, Nat.testBit_two_pow_mul, Nat.testBit_div_two_pow]
  by_cases hj : 8 ≤ j
  · simp [hj, Nat.not_lt.mpr hj]
  · simp [hj, Nat.not_le.mp hj]

theorem crc32Lookup_eq (crc : UInt32) (byte : UInt8) : crc32Lookup crc byte = crc32Byte crc byte := by
  have hb : byte.toUInt32 >>> 8 = 0 := by
    have hlt := byte.toNat_lt
    rw [← UInt32.toNat_inj]
    simp [Nat.shiftRight_eq_div_pow]
    omega
  have hi : ((crc ^^^ byte.toUInt32) &&& 0xFF).toNat < 256 := by
    rw [UInt32.toNat_and]
    exact lt_of_le_of_lt Nat.and_le_right (by decide)
  have hs : (crc ^^^ byte.toUInt32) >>> 8 = crc >>> 8 := by
    rw [UInt32.shiftRight_xor, hb, UInt32.xor_zero]
  have h24 : (crc >>> 8).toNat < 2 ^ 24 := by
    have hlt := crc.toNat_lt
    simp [Nat.shiftRight_eq_div_pow]
    omega
  unfold crc32Byte
  rw [← low_xor_high (crc ^^^ byte.toUInt32), shifts_xor, hs, shifts_shiftLeft h24, ← crc32Table_getD hi]
  rfl

theorem tableCrc32_eq (bytes : Bytes) : tableCrc32 bytes = crc32 bytes := by
  unfold tableCrc32 crc32
  rw [show crc32Lookup = crc32Byte from funext fun crc => funext fun byte => crc32Lookup_eq crc byte]

/-! ### Bursts -/

theorem foldl_crc32Byte_injective (bytes : Bytes) :
    Function.Injective fun crc : UInt32 => bytes.foldl crc32Byte crc := by
  induction bytes with
  | nil => exact Function.injective_id
  | cons byte _ ih =>
    intro a b h
    have hab := shifts_injective 8 (ih h)
    exact (UInt32.xor_left_inj byte.toUInt32).mp hab

theorem toUInt32_xor_lt (x y : UInt8) : (x.toUInt32 ^^^ y.toUInt32).toNat < 2 ^ 8 := by
  rw [UInt32.toNat_xor]
  exact Nat.xor_lt_two_pow (by simpa using x.toNat_lt) (by simpa using y.toNat_lt)

theorem xor_of_crc32Byte {a b : UInt32} {x y : UInt8}
    (h : (crc32Byte a x ^^^ crc32Byte b y).toNat < 2 ^ 24) :
    a ^^^ x.toUInt32 ^^^ (b ^^^ y.toUInt32) = (crc32Byte a x ^^^ crc32Byte b y) <<< 8 := by
  apply shifts_injective 8
  rw [shifts_shiftLeft h, shifts_xor]
  rfl

/-- Registers that as many bytes, at most three, bring together differ only in that many low bytes. -/
theorem xor_lt_of_foldl_eq {u v : Bytes} (hl : u.length = v.length) (hn : u.length ≤ 3) {a b : UInt32}
    (h : u.foldl crc32Byte a = v.foldl crc32Byte b) : (a ^^^ b).toNat < 2 ^ (8 * u.length) := by
  induction u generalizing v a b with
  | nil =>
    obtain rfl := List.length_eq_zero_iff.mp hl.symm
    simp [show a = b from h]
  | cons x u ih =>
    obtain ⟨y, v, rfl⟩ : ∃ y w, v = y :: w := List.exists_cons_of_length_eq_add_one hl.symm
    simp only [List.length_cons] at hl hn ⊢
    have he := ih (Nat.succ.inj hl) (by omega) h
    have h24 : 2 ^ (8 * u.length) ≤ 2 ^ 24 := Nat.pow_le_pow_right (by decide) (by omega)
    have hab : a ^^^ b = (x.toUInt32 ^^^ y.toUInt32) ^^^ (crc32Byte a x ^^^ crc32Byte b y) <<< 8 := by
      rw [← xor_of_crc32Byte (he.trans_le h24)]
      calc a ^^^ b = (a ^^^ b) ^^^ ((x.toUInt32 ^^^ x.toUInt32) ^^^ (y.toUInt32 ^^^ y.toUInt32)) := by simp
        _ = x.toUInt32 ^^^ y.toUInt32 ^^^ (a ^^^ x.toUInt32 ^^^ (b ^^^ y.toUInt32)) := by ac_rfl
    have hx : (x.toUInt32 ^^^ y.toUInt32).toNat < 2 ^ 8 := toUInt32_xor_lt x y
    rw [hab, UInt32.toNat_xor]
    refine Nat.xor_lt_two_pow (hx.trans_le (Nat.pow_le_pow_right (by decide) (by omega))) ?_
    rw [toNat_shiftLeft (he.trans_le h24), Nat.mul_add, pow_add]
    exact Nat.mul_lt_mul_of_pos_right he (by decide)

theorem eq_of_foldl_eq {u v : Bytes} (hl : u.length = v.length) (hn : u.length ≤ 4) {a : UInt32}
    (h : u.foldl crc32Byte a = v.foldl crc32Byte a) : u = v := by
  induction u generalizing v a with
  | nil => exact (List.length_eq_zero_iff.mp hl.symm).symm
  | cons x u ih =>
    obtain ⟨y, v, rfl⟩ : ∃ y w, v = y :: w := List.exists_cons_of_length_eq_add_one hl.symm
    simp only [List.length_cons] at hl hn
    have he := xor_lt_of_foldl_eq (Nat.succ.inj hl) (by omega) h
    have h24 : 2 ^ (8 * u.length) ≤ 2 ^ 24 := Nat.pow_le_pow_right (by decide) (by omega)
    have hz : x.toUInt32 ^^^ y.toUInt32 = (crc32Byte a x ^^^ crc32Byte a y) <<< 8 := by
      rw [← xor_of_crc32Byte (he.trans_le h24)]
      calc x.toUInt32 ^^^ y.toUInt32 = (a ^^^ a) ^^^ (x.toUInt32 ^^^ y.toUInt32) := by simp
        _ = a ^^^ x.toUInt32 ^^^ (a ^^^ y.toUInt32) := by ac_rfl
    obtain rfl : x = y := by
      have hlt := toUInt32_xor_lt x y
      have hn := congrArg UInt32.toNat hz
      rw [toNat_shiftLeft (he.trans_le h24)] at hn
      have hxy : x.toUInt32 ^^^ y.toUInt32 = 0 := UInt32.toNat_inj.mp (by rw [UInt32.toNat_zero]; omega)
      have hx := congrArg UInt32.toNat (UInt32.xor_eq_zero_iff.mp hxy)
      exact UInt8.toNat_inj.mp (by simpa using hx)
    rw [ih (Nat.succ.inj hl) (by omega) h]

/-- The table gives the bitwise checksum, and changes within four consecutive bytes change it. -/
theorem crc32_detects_bursts :
    (∀ bytes, tableCrc32 bytes = crc32 bytes) ∧
    ∀ front u v back : Bytes, u.length = v.length → u.length ≤ 4 → u ≠ v →
      tableCrc32 (front ++ u ++ back) ≠ tableCrc32 (front ++ v ++ back) := by
  refine ⟨tableCrc32_eq, fun front u v back hl hn hne h => hne ?_⟩
  rw [tableCrc32_eq, tableCrc32_eq, crc32, crc32, UInt32.not_inj, List.foldl_append, List.foldl_append,
    List.foldl_append, List.foldl_append] at h
  exact eq_of_foldl_eq hl hn (foldl_crc32Byte_injective back h)

end ObcFlight.StateData
