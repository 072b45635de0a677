import Mathlib.Data.List.Basic
import Mathlib.Algebra.Order.Ring.Nat
import Mathlib.Tactic.Ring
import Mathlib.Logic.Equiv.Defs

/-!
# Big-endian wire fields

A field codec writes a value in front of any remainder and reads back exactly
what was written. The law is an equivalence, so it serves both directions: a
well-formed packet parses, and a parsed packet has the written layout.
-/

namespace ObcFlight

abbrev Bytes := List UInt8

instance bytes_lawfulBEq : LawfulBEq Bytes := inferInstance

def ascii (s : String) : Bytes := s.toList.map fun c => c.toNat.toUInt8

def beBytes : ℕ → ℕ → Bytes
  | 0, _ => []
  | n + 1, v => UInt8.ofNat (v / 256 ^ n) :: beBytes n v

def beValue : Bytes → ℕ
  | [] => 0
  | b :: bs => b.toNat * 256 ^ bs.length + beValue bs

@[simp] theorem beBytes_length (n v : ℕ) : (beBytes n v).length = n := by
  induction n with
  | zero => rfl
  | succ _ ih => simp [beBytes, ih]

theorem beValue_lt (bs : Bytes) : beValue bs < 256 ^ bs.length := by
  induction bs with
  | nil => simp [beValue]
  | cons b bs =>
    have hb : b.toNat ≤ 255 := by have := b.toNat_lt; omega
    calc b.toNat * 256 ^ bs.length + beValue bs
        < b.toNat * 256 ^ bs.length + 256 ^ bs.length := by omega
      _ = (b.toNat + 1) * 256 ^ bs.length := by ring
      _ ≤ 256 * 256 ^ bs.length := Nat.mul_le_mul_right _ (by omega)
      _ = 256 ^ (b :: bs).length := by rw [List.length_cons, pow_succ]; ring

theorem beValue_beBytes_mod (n v : ℕ) : beValue (beBytes n v) = v % 256 ^ n := by
  induction n with
  | zero => simp [beBytes, beValue, Nat.mod_one]
  | succ n ih =>
    have hh : (UInt8.ofNat (v / 256 ^ n)).toNat = v / 256 ^ n % 256 := by simp
    rw [beBytes, beValue, ih, hh, beBytes_length, pow_succ, Nat.mod_mul]
    ring

theorem beValue_beBytes {n v : ℕ} (hv : v < 256 ^ n) : beValue (beBytes n v) = v := by
  rw [beValue_beBytes_mod, Nat.mod_eq_of_lt hv]

theorem beBytes_add_mul (n v k : ℕ) : beBytes n (k * 256 ^ n + v) = beBytes n v := by
  induction n generalizing k with
  | zero => rfl
  | succ n ih =>
    have hs : k * 256 ^ (n + 1) + v = k * 256 * 256 ^ n + v := by ring
    have hdiv : (k * 256 * 256 ^ n + v) / 256 ^ n = k * 256 + v / 256 ^ n := by
      rw [Nat.add_comm, Nat.add_mul_div_right _ _ (Nat.pow_pos (by decide)), Nat.add_comm]
    have hby : UInt8.ofNat (k * 256 + v / 256 ^ n) = UInt8.ofNat (v / 256 ^ n) := by
      apply UInt8.toNat_inj.mp
      simp
    rw [beBytes, beBytes, hs, ih, hdiv, hby]

theorem beBytes_mod (n v : ℕ) : beBytes n (v % 256 ^ n) = beBytes n v := by
  conv_rhs => rw [← Nat.div_add_mod v (256 ^ n), Nat.mul_comm, beBytes_add_mul]

theorem beBytes_beValue (bs : Bytes) : beBytes bs.length (beValue bs) = bs := by
  induction bs with
  | nil => rfl
  | cons b bs ih =>
    have hdiv : (b.toNat * 256 ^ bs.length + beValue bs) / 256 ^ bs.length = b.toNat := by
      rw [Nat.add_comm, Nat.add_mul_div_right _ _ (Nat.pow_pos (by decide)),
        Nat.div_eq_of_lt (beValue_lt bs), Nat.zero_add]
    rw [beValue, List.length_cons, beBytes, beBytes_add_mul, ih, hdiv, UInt8.ofNat_toNat]

structure WireCodec (α : Type*) where
  encode : α → Bytes
  decode : Bytes → Option (α × Bytes)
  decode_eq_some_iff : ∀ bs a rest, decode bs = some (a, rest) ↔ bs = encode a ++ rest

namespace WireCodec

variable {α : Type*} (c : WireCodec α)

@[simp] theorem decode_encode (a : α) (rest : Bytes) :
    c.decode (c.encode a ++ rest) = some (a, rest) :=
  (c.decode_eq_some_iff _ _ _).mpr rfl

theorem eq_encode_append {bs rest : Bytes} {a : α} (h : c.decode bs = some (a, rest)) :
    bs = c.encode a ++ rest :=
  (c.decode_eq_some_iff _ _ _).mp h

theorem encode_append_inj {a b : α} {r s : Bytes} (h : c.encode a ++ r = c.encode b ++ s) :
    a = b ∧ r = s := by
  have hd := c.decode_encode a r
  rw [h, c.decode_encode] at hd
  simpa [eq_comm] using hd

def pair {β : Type*} (c : WireCodec α) (d : WireCodec β) : WireCodec (α × β) where
  encode p := c.encode p.1 ++ d.encode p.2
  decode bs :=
    match c.decode bs with
    | none => none
    | some (a, rest) =>
      match d.decode rest with
      | none => none
      | some (b, rest) => some ((a, b), rest)
  decode_eq_some_iff := by
    rintro bs ⟨a, b⟩ rest
    constructor
    · intro h
      split at h
      · cases h
      next a' mid ha =>
        split at h
        · cases h
        next b' rest' hb =>
          cases h
          rw [c.eq_encode_append ha, d.eq_encode_append hb, List.append_assoc]
    · rintro rfl
      simp

/-- A field read into another representation of the same values. -/
def iso {β : Type*} (c : WireCodec α) (e : α ≃ β) : WireCodec β where
  encode b := c.encode (e.symm b)
  decode bs := (c.decode bs).map fun p => (e p.1, p.2)
  decode_eq_some_iff := by
    intro bs b rest
    rw [Option.map_eq_some_iff, ← c.decode_eq_some_iff]
    constructor
    · rintro ⟨⟨a, r⟩, ha, hb⟩
      cases hb
      simpa using ha
    · intro h
      exact ⟨_, h, by simp⟩

/-- A fixed-width unsigned integer carried by a type of exactly that many values. -/
def word (n : ℕ) (ofNat : ℕ → α) (toNat : α → ℕ) (toNat_lt : ∀ a, toNat a < 256 ^ n)
    (ofNat_toNat : ∀ a, ofNat (toNat a) = a)
    (toNat_ofNat : ∀ v, v < 256 ^ n → toNat (ofNat v) = v) : WireCodec α where
  encode a := beBytes n (toNat a)
  decode bs := if n ≤ bs.length then some (ofNat (beValue (bs.take n)), bs.drop n) else none
  decode_eq_some_iff := by
    intro bs a rest
    constructor
    · intro h
      split at h
      next hn =>
        have hlen : (bs.take n).length = n := by simp [hn]
        have hlt : beValue (bs.take n) < 256 ^ n := by
          simpa [hlen] using beValue_lt (bs.take n)
        have hback := beBytes_beValue (bs.take n)
        simp only [Option.some.injEq, Prod.mk.injEq] at h
        obtain ⟨rfl, rfl⟩ := h
        rw [hlen] at hback
        rw [toNat_ofNat _ hlt, hback, List.take_append_drop]
      next => cases h
    · rintro rfl
      simp [beValue_beBytes (toNat_lt a), ofNat_toNat]

def u8 : WireCodec UInt8 :=
  word 1 UInt8.ofNat UInt8.toNat (fun a => by simpa using a.toNat_lt) (fun _ => UInt8.ofNat_toNat)
    (fun _ hv => UInt8.toNat_ofNat_of_lt' (by simpa using hv))

def u16 : WireCodec UInt16 :=
  word 2 UInt16.ofNat UInt16.toNat (fun a => by simpa using a.toNat_lt)
    (fun _ => UInt16.ofNat_toNat) (fun _ hv => UInt16.toNat_ofNat_of_lt' (by simpa using hv))

def u32 : WireCodec UInt32 :=
  word 4 UInt32.ofNat UInt32.toNat (fun a => by simpa using a.toNat_lt)
    (fun _ => UInt32.ofNat_toNat) (fun _ hv => UInt32.toNat_ofNat_of_lt' (by simpa using hv))

@[simp] theorem u8_encode (a : UInt8) : u8.encode a = [a] := by
  simp [u8, word, beBytes]

@[simp] theorem u16_encode_length (a : UInt16) : (u16.encode a).length = 2 := beBytes_length _ _

@[simp] theorem u32_encode_length (a : UInt32) : (u32.encode a).length = 4 := beBytes_length _ _

end WireCodec

end ObcFlight
