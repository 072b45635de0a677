import Mathlib.Data.Fin.Basic
import Mathlib.Data.ZMod.Defs
import Mathlib.Logic.Function.Basic

/-!
# The recent part of a log in a ring of slots

Entry j of a log goes into slot j modulo the number of slots, over the entry that is n older.
Walking backwards from the slot written last gives the log newest first.
-/

namespace ObcFlight

variable {α : Type*} {n : ℕ} [NeZero n]

def RingHolds (slots : Fin n → α) (log : List α) : Prop :=
  ∀ j (hj : j < log.length), log.length ≤ j + n → slots (Fin.ofNat n j) = log[j]

theorem ringHolds_nil (s : Fin n → α) : RingHolds s [] := by
  intro j hj
  cases hj

theorem ofNat_ne_ofNat_of_lt {i j : ℕ} (hij : i < j) (hc : j < i + n) : Fin.ofNat n i ≠ Fin.ofNat n j := by
  intro h
  have hmod : i % n = j % n := congrArg Fin.val h
  have hdvd : n ∣ j - i := (Nat.modEq_iff_dvd' hij.le).mp hmod
  exact absurd (Nat.le_of_dvd (by omega) hdvd) (by omega)

variable {log : List α}

theorem RingHolds.push {s : Fin n → α} (h : RingHolds s log) (a : α) :
    RingHolds (Function.update s (Fin.ofNat n log.length) a) (log ++ [a]) := by
  intro j hj hr
  rw [List.length_append, List.length_singleton] at hj hr
  by_cases hl : j = log.length
  · subst hl
    simp
  · have hlt : j < log.length := by omega
    rw [Function.update_of_ne (ofNat_ne_ofNat_of_lt hlt (by omega)), List.getElem_append_left hlt]
    exact h j hlt (by omega)

theorem ofNat_succ_sub_one (j : ℕ) : Fin.ofNat n (j + 1) - 1 = Fin.ofNat n j := by
  rw [sub_eq_iff_eq_add]
  exact Fin.ext (by simp [Fin.val_add, Nat.add_mod])

def readBack (slots : Fin n → α) : Fin n → ℕ → List α
  | _, 0 => []
  | i, k + 1 => slots i :: readBack slots (i - 1) k

theorem RingHolds.readBack_eq {s : Fin n → α} (h : RingHolds s log) {k j : ℕ}
    (hk : k ≤ j + 1) (hj : j < log.length) (hr : log.length + k ≤ j + 1 + n) :
    readBack s (Fin.ofNat n j) k = ((log.take (j + 1)).reverse).take k := by
  induction k generalizing j with
  | zero => simp [readBack]
  | succ k ih =>
    have ht : (log.take (j + 1)).reverse = log[j] :: (log.take j).reverse := by
      rw [← List.take_concat_get' log j hj, List.reverse_append]
      rfl
    rw [readBack, h j hj (by omega), ht, List.take_succ_cons]
    congr 1
    cases j with
    | zero =>
      obtain rfl : k = 0 := by omega
      simp [readBack]
    | succ =>
      rw [ofNat_succ_sub_one]
      exact ih (by omega) (by omega) (by omega)

theorem RingHolds.readBack_last {s : Fin n → α} (h : RingHolds s log) {k : ℕ}
    (hk : k ≤ log.length) (hkn : k ≤ n) :
    readBack s (Fin.ofNat n (log.length - 1)) k = log.reverse.take k := by
  cases k with
  | zero => simp [readBack]
  | succ =>
    rw [h.readBack_eq (by omega) (by omega) (by omega), Nat.sub_add_cancel (by omega), List.take_length]

end ObcFlight
