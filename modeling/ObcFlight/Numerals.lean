import ObcFlight.WireCodec
import Mathlib.Data.Nat.Digits.Lemmas

/-!
# Decimal and hexadecimal numerals in bytes

Numbers are printed in decimal without leading zeros and byte strings as two lower-case
hexadecimal digits a byte. Reading a printed number gives it back, any beginning of a
numeral reads as a number that is no greater, and lower-case hexadecimal texts and byte
strings determine each other.
-/

namespace ObcFlight

def isSpace (b : UInt8) : Bool := (9 ≤ b.toNat && b.toNat ≤ 13) || b.toNat = 32

def cString (text : Bytes) : Bytes := text.takeWhile (· ≠ 0)

def isDigit (b : UInt8) : Bool := 48 ≤ b.toNat ∧ b.toNat ≤ 57

def digitByte (d : ℕ) : UInt8 := UInt8.ofNat (48 + d)

/-- The decimal numeral of a number, most significant digit first. -/
def decimal (n : ℕ) : Bytes :=
  if n = 0 then [48] else (Nat.digits 10 n).reverse.map digitByte

def decimalValue (text : Bytes) : ℕ := text.foldl (fun value b => 10 * value + (b.toNat - 48)) 0

theorem digitByte_toNat {d : ℕ} (h : d < 10) : (digitByte d).toNat = 48 + d := by
  rw [digitByte, UInt8.toNat_ofNat', Nat.mod_eq_of_lt]
  omega

theorem decimal_ne_nil (n : ℕ) : decimal n ≠ [] := by
  unfold decimal
  split_ifs with h
  · simp
  · simpa [Nat.digits_eq_nil_iff_eq_zero] using h

theorem isDigit_of_mem_decimal {n : ℕ} {b : UInt8} (h : b ∈ decimal n) : isDigit b = true := by
  unfold decimal at h
  split_ifs at h with hn
  · rw [List.mem_singleton.mp h]
    rfl
  · obtain ⟨d, hd, rfl⟩ := List.mem_map.mp h
    have hlt := Nat.digits_lt_base (by norm_num) (List.mem_reverse.mp hd)
    rw [isDigit, digitByte_toNat hlt]
    exact decide_eq_true ⟨by omega, by omega⟩

theorem decimalValue_append (xs ys : Bytes) :
    decimalValue (xs ++ ys) = decimalValue xs * 10 ^ ys.length + decimalValue ys := by
  induction ys using List.reverseRecOn with
  | nil => simp [decimalValue]
  | append_singleton _ b ih =>
    have hs (zs : Bytes) : decimalValue (zs ++ [b]) = 10 * decimalValue zs + (b.toNat - 48) := by
      rw [decimalValue, List.foldl_append]
      rfl
    rw [← List.append_assoc, hs, hs, ih, List.length_append, List.length_singleton, pow_succ]
    ring

theorem decimalValue_take_le (text : Bytes) (n : ℕ) :
    decimalValue (text.take n) ≤ decimalValue text := by
  conv_rhs => rw [← List.take_append_drop n text, decimalValue_append]
  exact (Nat.le_mul_of_pos_right _ (by positivity)).trans (Nat.le_add_right _ _)

theorem decimalValue_digits (ds : List ℕ) (h : ∀ d ∈ ds, d < 10) :
    decimalValue (ds.reverse.map digitByte) = Nat.ofDigits 10 ds := by
  induction ds with
  | nil => rfl
  | cons d _ ih =>
    have hd := h d List.mem_cons_self
    rw [List.reverse_cons, List.map_append, decimalValue_append,
      ih fun e he => h e (List.mem_cons_of_mem _ he), Nat.ofDigits_cons]
    simp only [List.map_cons, List.map_nil, List.length_singleton, decimalValue, List.foldl_cons,
      List.foldl_nil, digitByte_toNat hd]
    simp
    omega

theorem decimalValue_decimal (n : ℕ) : decimalValue (decimal n) = n := by
  unfold decimal
  split_ifs with h
  · rw [h]
    rfl
  · rw [decimalValue_digits _ fun d hd => Nat.digits_lt_base (by norm_num) hd, Nat.ofDigits_digits]

def isLowerHexDigit (b : UInt8) : Bool := isDigit b || (97 ≤ b.toNat && b.toNat ≤ 102)

def isHexDigit (b : UInt8) : Bool := isLowerHexDigit b || (65 ≤ b.toNat && b.toNat ≤ 70)

def toLower (b : UInt8) : UInt8 := if 65 ≤ b.toNat ∧ b.toNat ≤ 90 then b + 32 else b

def hexDigit (nibble : UInt8) : UInt8 := if nibble < 10 then 48 + nibble else 87 + nibble

def bytesToHex (data : Bytes) : Bytes :=
  data.flatMap fun value : UInt8 => [hexDigit (value >>> 4), hexDigit (value &&& 15)]

def decodeNibble (ch : UInt8) : UInt8 := if isDigit ch then ch - 48 else 10 + toLower ch - 97

def decodeNibbles : Bytes → Bytes
  | a :: b :: rest => ((decodeNibble a <<< 4) ||| decodeNibble b) :: decodeNibbles rest
  | _ => []

def parseHexBytes (hex : Bytes) : Option Bytes :=
  if hex.length % 2 ≠ 0 ∨ ¬ hex.all isHexDigit then none else some (decodeNibbles hex)

theorem forall_byte {p : UInt8 → Prop} (h : ∀ n : Fin 256, p (UInt8.ofNat n)) (b : UInt8) : p b := by
  have hb := h ⟨b.toNat, b.toNat_lt⟩
  rwa [UInt8.ofNat_toNat] at hb

theorem bytesToHex_length (data : Bytes) : (bytesToHex data).length = 2 * data.length := by
  induction data with
  | nil => rfl
  | cons _ _ ih =>
    rw [bytesToHex, List.flatMap_cons, List.length_append, ← bytesToHex, ih]
    simp
    omega

theorem isLowerHexDigit_hexDigits (b : UInt8) :
    isLowerHexDigit (hexDigit (b >>> 4)) = true ∧ isLowerHexDigit (hexDigit (b &&& 15)) = true := by
  revert b
  exact forall_byte (by decide +kernel)

theorem isLowerHexDigit_of_mem_bytesToHex {data : Bytes} {b : UInt8} (h : b ∈ bytesToHex data) :
    isLowerHexDigit b = true := by
  obtain ⟨v, -, hb⟩ := List.mem_flatMap.mp h
  have hdg := isLowerHexDigit_hexDigits v
  rcases List.mem_cons.mp hb with rfl | hb
  · exact hdg.1
  · rw [List.mem_singleton.mp hb]
    exact hdg.2

theorem hexDigit_decodeNibble (a : UInt8) :
    isLowerHexDigit a = true → decodeNibble a < 16 ∧ hexDigit (decodeNibble a) = a := by
  revert a
  exact forall_byte (by decide +kernel)

theorem nibbles_of_byte (x y : UInt8) (hx : x < 16) (hy : y < 16) :
    ((x <<< 4) ||| y) >>> 4 = x ∧ ((x <<< 4) ||| y) &&& 15 = y := by
  have hall : ∀ m n : Fin 16, ((UInt8.ofNat m <<< 4) ||| UInt8.ofNat n) >>> 4 = UInt8.ofNat m ∧
      ((UInt8.ofNat m <<< 4) ||| UInt8.ofNat n) &&& 15 = UInt8.ofNat n := by decide
  have h := hall ⟨x.toNat, hx⟩ ⟨y.toNat, hy⟩
  simpa using h

theorem bytesToHex_decodeNibbles : ∀ hex : Bytes, hex.length % 2 = 0 →
    (∀ b ∈ hex, isLowerHexDigit b = true) → bytesToHex (decodeNibbles hex) = hex
  | [], _, _ => rfl
  | [_], hl, _ => by simp at hl
  | a :: b :: rest, hl, hdg => by
    obtain ⟨ha, hda⟩ := hexDigit_decodeNibble a (hdg a (by simp))
    obtain ⟨hb, hdb⟩ := hexDigit_decodeNibble b (hdg b (by simp))
    obtain ⟨hh, hlow⟩ := nibbles_of_byte _ _ ha hb
    have hr := bytesToHex_decodeNibbles rest (by simp at hl; omega)
      fun c hc => hdg c (by simp [hc])
    rw [decodeNibbles, bytesToHex, List.flatMap_cons, ← bytesToHex, hr, hh, hlow, hda, hdb]
    rfl

theorem isHexDigit_of_isLowerHexDigit {b : UInt8} (h : isLowerHexDigit b = true) :
    isHexDigit b = true := by
  rw [isHexDigit, h, Bool.true_or]

theorem parseHexBytes_of_lower {hex : Bytes} (hl : hex.length % 2 = 0)
    (hdg : ∀ b ∈ hex, isLowerHexDigit b = true) :
    parseHexBytes hex = some (decodeNibbles hex) := by
  have hall : hex.all isHexDigit = true :=
    List.all_eq_true.mpr fun b hb => isHexDigit_of_isLowerHexDigit (hdg b hb)
  rw [parseHexBytes, if_neg (by simp [hl, hall])]

theorem toLower_of_isLowerHexDigit (b : UInt8) : isLowerHexDigit b = true → toLower b = b := by
  revert b
  exact forall_byte (by decide +kernel)

end ObcFlight
