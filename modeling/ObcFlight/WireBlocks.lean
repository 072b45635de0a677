import ObcFlight.WireCodec
import Mathlib.Data.Fin.Tuple.Basic

/-!
# Little-endian fields and repeated blocks

Snapshots are written as the processor holds them: fields with the low byte first, and an array
of equal records one after the other.
-/

namespace ObcFlight

namespace WireCodec

variable {α : Type*}

/-- A field of fixed size with its bytes in the opposite order. -/
def swapped (c : WireCodec α) (n : ℕ) (hn : ∀ a, (c.encode a).length = n) : WireCodec α where
  encode a := (c.encode a).reverse
  decode bs :=
    if n ≤ bs.length then (c.decode (bs.take n).reverse).map fun p => (p.1, bs.drop n) else none
  decode_eq_some_iff := by
    intro bs a rest
    constructor
    · intro h
      split_ifs at h with hlen
      obtain ⟨⟨b, left⟩, hb, heq⟩ := Option.map_eq_some_iff.mp h
      obtain ⟨rfl, rfl⟩ : b = a ∧ bs.drop n = rest := by simpa using heq
      -- the field takes all of the bytes it is given
      have hfield := c.eq_encode_append hb
      have hnone : left = [] := by
        have hcount := congrArg List.length hfield
        simp only [List.length_reverse, List.length_take, List.length_append, hn] at hcount
        exact List.length_eq_zero_iff.mp (by omega)
      rw [hnone, List.append_nil, List.reverse_eq_iff] at hfield
      rw [← hfield, List.take_append_drop]
    · rintro rfl
      have hlen : ((c.encode a).reverse).length = n := by simp [hn]
      have hdecode : c.decode (c.encode a) = some (a, []) := by simpa using c.decode_encode a []
      rw [List.length_append, hlen, if_pos (Nat.le_add_right n _), List.take_left' hlen,
        List.drop_left' hlen, List.reverse_reverse, hdecode]
      rfl

def u16le : WireCodec UInt16 := u16.swapped 2 u16_encode_length

def u32le : WireCodec UInt32 := u32.swapped 4 u32_encode_length

@[simp] theorem u16le_length (a : UInt16) : (u16le.encode a).length = 2 := by
  simp [u16le, swapped]

@[simp] theorem u32le_length (a : UInt32) : (u32le.encode a).length = 4 := by
  simp [u32le, swapped]

def nothing : WireCodec (Fin 0 → α) where
  encode _ := []
  decode bs := some (Fin.elim0, bs)
  decode_eq_some_iff := by
    intro bs f rest
    rw [Subsingleton.elim f Fin.elim0]
    simp

def repeated (c : WireCodec α) : (n : ℕ) → WireCodec (Fin n → α)
  | 0 => nothing
  | n + 1 => (c.pair (repeated c n)).iso (Fin.consEquiv fun _ => α)

theorem repeated_length {c : WireCodec α} {size : ℕ} (hs : ∀ a, (c.encode a).length = size) (n : ℕ)
    (f : Fin n → α) : ((c.repeated n).encode f).length = n * size := by
  induction n with
  | zero => simp [repeated, nothing]
  | succ n ih =>
    have hsp : ((c.repeated (n + 1)).encode f).length =
        (c.encode (f 0)).length + ((c.repeated n).encode (Fin.tail f)).length := by
      rw [← List.length_append]
      rfl
    rw [hsp, hs, ih, Nat.succ_mul, Nat.add_comm]

def zeroWord (offset : ℕ) (bytes : Bytes) : Bytes :=
  bytes.take offset ++ (u32le.encode 0 ++ bytes.drop (offset + 4))

/-- A head, a word and a body: the word is where a checksum over the rest goes. -/
def withWord {β : Type*} (c : WireCodec α) (d : WireCodec β) : WireCodec (α × UInt32 × β) :=
  c.pair (u32le.pair d)

theorem zeroWord_withWord {β : Type*} (c : WireCodec α) (d : WireCodec β) {o : ℕ} (a : α)
    (ho : (c.encode a).length = o) (w : UInt32) (b : β) :
    zeroWord o ((c.withWord d).encode (a, w, b)) = (c.withWord d).encode (a, 0, b) := by
  have hs (w : UInt32) : (c.withWord d).encode (a, w, b) = c.encode a ++ (u32le.encode w ++ d.encode b) :=
    rfl
  have hdr : (c.encode a ++ (u32le.encode w ++ d.encode b)).drop (o + 4) = d.encode b := by
    rw [← List.append_assoc]
    exact List.drop_left' (by simp [ho])
  rw [zeroWord, hs, hs, List.take_left' ho, hdr]

end WireCodec

end ObcFlight
