import ObcFlight.WireCodec

/-!
# Absorbing a byte stream block by block

An iterated hash keeps a chaining value and an incomplete block. Absorption is
stated byte by byte, so that splitting a message is splitting a fold; the block
view of a padded message and the copy loop of a streaming implementation are both
recovered from it.
-/

namespace ObcFlight.BlockHash

variable {χ : Type*} (B : ℕ) (compress : χ → Bytes → χ)

def absorbByte (x : χ × Bytes) (b : UInt8) : χ × Bytes :=
  let pending := x.2 ++ [b]
  if pending.length = B then (compress x.1 pending, []) else (x.1, pending)

def absorb (x : χ × Bytes) (bs : Bytes) : χ × Bytes := bs.foldl (absorbByte B compress) x

theorem absorb_append (x : χ × Bytes) (xs ys : Bytes) :
    absorb B compress x (xs ++ ys) = absorb B compress (absorb B compress x xs) ys :=
  List.foldl_append

theorem absorb_short (c : χ) (p bs : Bytes) (h : p.length + bs.length < B) :
    absorb B compress (c, p) bs = (c, p ++ bs) := by
  induction bs generalizing p with
  | nil => simp [absorb]
  | cons b _ ih =>
    have hstep : absorbByte B compress (c, p) b = (c, p ++ [b]) := by
      rw [absorbByte, if_neg]
      simp only [List.length_append, List.length_cons, List.length_nil] at h ⊢
      omega
    have hrec := ih (p ++ [b]) (by simp at h ⊢; omega)
    rw [absorb, List.foldl_cons, hstep]
    simpa [absorb] using hrec

theorem absorb_fill (c : χ) (p bs : Bytes) (hne : bs ≠ []) (h : p.length + bs.length = B) :
    absorb B compress (c, p) bs = (compress c (p ++ bs), []) := by
  obtain ⟨f, last, rfl⟩ := List.eq_nil_or_concat bs |>.resolve_left hne
  have hf : p.length + f.length < B := by simp at h; omega
  rw [List.concat_eq_append, absorb_append, absorb_short B compress c p f hf]
  simp only [absorb, List.foldl_cons, List.foldl_nil, absorbByte]
  rw [if_pos (by simpa [Nat.add_assoc] using h), List.append_assoc]

def blocks : ℕ → Bytes → List Bytes
  | 0, _ => []
  | n + 1, bs => bs.take B :: blocks n (bs.drop B)

theorem absorb_blocks (hB : 0 < B) (n : ℕ) (c : χ) (bs : Bytes) (hlen : bs.length = n * B) :
    absorb B compress (c, []) bs = ((blocks B n bs).foldl compress c, []) := by
  induction n generalizing c bs with
  | zero =>
    have hnil : bs = [] := List.eq_nil_of_length_eq_zero (by omega)
    subst hnil
    rfl
  | succ n ih =>
    have hs : (n + 1) * B = n * B + B := Nat.succ_mul n B
    have ht : (bs.take B).length = B := by rw [List.length_take]; omega
    have hne : bs.take B ≠ [] := by
      intro hnil
      rw [hnil] at ht
      simp at ht
      omega
    have hh := absorb_fill B compress c [] (bs.take B) hne (by simpa using ht)
    have hr := ih (compress c (bs.take B)) (bs.drop B) (by rw [List.length_drop]; omega)
    rw [List.nil_append] at hh
    conv_lhs => rw [← List.take_append_drop B bs]
    rw [absorb_append, hh, hr]
    rfl

theorem absorb_congr (compress' : χ → Bytes → χ)
    (h : ∀ c bl, bl.length = B → compress c bl = compress' c bl) :
    absorb B compress = absorb B compress' := by
  have hby : absorbByte B compress = absorbByte B compress' := by
    funext x b
    unfold absorbByte
    dsimp only
    split
    next hf => rw [h _ _ hf]
    next => rfl
  funext x bs
  rw [absorb, absorb, hby]

theorem absorb_pending_length (c : χ) (p bs : Bytes) (h : p.length < B) :
    (absorb B compress (c, p) bs).2.length = (p.length + bs.length) % B := by
  induction bs generalizing c p with
  | nil => simp [absorb, Nat.mod_eq_of_lt h]
  | cons b bs ih =>
    rw [absorb, List.foldl_cons]
    by_cases hf : (p ++ [b]).length = B
    · have hstep : absorbByte B compress (c, p) b = (compress c (p ++ [b]), []) := by
        rw [absorbByte, if_pos hf]
      have hrec := ih (compress c (p ++ [b])) [] (by simp; omega)
      simp only [List.length_append, List.length_cons, List.length_nil] at hf
      rw [hstep, ← absorb, hrec, List.length_cons, List.length_nil, Nat.zero_add,
        show p.length + (bs.length + 1) = bs.length + B by omega, Nat.add_mod_right]
    · have hstep : absorbByte B compress (c, p) b = (c, p ++ [b]) := by
        rw [absorbByte, if_neg hf]
      simp only [List.length_append, List.length_cons, List.length_nil] at hf
      have hrec := ih c (p ++ [b]) (by simp; omega)
      rw [hstep, ← absorb, hrec]
      simp [Nat.add_assoc, Nat.add_comm 1]

end ObcFlight.BlockHash
