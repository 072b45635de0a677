import Mathlib.Order.Basic
import Mathlib.Order.Lattice
import Mathlib.Tactic.Set
import Mathlib.Data.List.Pairwise
import Mathlib.Data.List.GetD

/-!
# Binary search for the first entry that is not below a target

The loop halves a window [low, high) of a table. Over a table sorted by key it
ends at the first index whose key is not below the target, and a final equality
test then finds exactly the listed keys.
-/

namespace ObcFlight

variable {α : Type*} [LinearOrder α]

/-- The loop of a lower-bound search; fuel bounds the number of iterations. -/
def lowerBoundLoop (key : ℕ → α) (target : α) : ℕ → ℕ → ℕ → ℕ
  | 0, low, _ => low
  | fuel + 1, low, high =>
    if low < high then
      let mid := low + (high - low) / 2
      if key mid < target then lowerBoundLoop key target fuel (mid + 1) high
      else lowerBoundLoop key target fuel low mid
    else low

theorem lowerBoundLoop_spec (key : ℕ → α) (t : α) (n : ℕ)
    (hm : ∀ i j, i ≤ j → j < n → key i ≤ key j) (fuel low high : ℕ) (hf : high - low ≤ fuel)
    (hlow : low ≤ high) (hh : high ≤ n) (hbl : ∀ i, i < low → key i < t)
    (hab : ∀ i, high ≤ i → i < n → t ≤ key i) :
    lowerBoundLoop key t fuel low high ≤ n ∧
      (∀ i, i < lowerBoundLoop key t fuel low high → key i < t) ∧
      ∀ i, lowerBoundLoop key t fuel low high ≤ i → i < n → t ≤ key i := by
  induction fuel generalizing low high with
  | zero =>
    have heq : low = high := by omega
    subst heq
    exact ⟨hh, hbl, hab⟩
  | succ _ ih =>
    rw [lowerBoundLoop]
    split
    · set mid := low + (high - low) / 2 with hmid
      have hmid_lt : mid < high := by omega
      have hmid_ge : low ≤ mid := by omega
      by_cases hkey : key mid < t
      · simp only [if_pos hkey]
        refine ih (mid + 1) high (by omega) (by omega) hh ?_ hab
        intro i hi
        exact (hm i mid (by omega) (by omega)).trans_lt hkey
      · simp only [if_neg hkey]
        refine ih low mid (by omega) hmid_ge (by omega) hbl ?_
        intro i hi hin
        exact (not_lt.mp hkey).trans (hm mid i hi hin)
    · have heq : low = high := by omega
      subst heq
      exact ⟨hh, hbl, hab⟩

variable {β : Type*} (key : β → α)

def searchTable [Inhabited β] (table : List β) (target : α) : Option β :=
  let low := lowerBoundLoop (fun i => key (table.getD i default)) target table.length 0 table.length
  match table[low]? with
  | some entry => if key entry = target then some entry else none
  | none => none

theorem searchTable_eq_some_iff [Inhabited β] (t : List β) (target : α) (e : β)
    (hsr : t.Pairwise fun a b => key a < key b) :
    searchTable key t target = some e ↔ e ∈ t ∧ key e = target := by
  let read := fun i => key (t.getD i default)
  have hr (i : ℕ) (hi : i < t.length) : read i = key t[i] := by
    simp [read, List.getD_eq_getElem?_getD, hi]
  have hs (i j : ℕ) (hij : i < j) (hj : j < t.length) : read i < read j := by
    rw [hr i (hij.trans hj), hr j hj]
    exact List.pairwise_iff_getElem.mp hsr i j (hij.trans hj) hj hij
  have hm (i j : ℕ) (hij : i ≤ j) (hj : j < t.length) : read i ≤ read j := by
    rcases hij.eq_or_lt with rfl | hlt
    · exact le_rfl
    · exact (hs i j hlt hj).le
  obtain ⟨-, hbl, hab⟩ := lowerBoundLoop_spec read target t.length hm t.length 0
    t.length (by omega) (by omega) le_rfl (by omega) (by omega)
  set low := lowerBoundLoop read target t.length 0 t.length with hlow
  constructor
  · intro h
    simp only [searchTable] at h
    split at h
    next f hf =>
      split at h
      next hkey =>
        cases h
        exact ⟨List.mem_of_getElem? hf, hkey⟩
      next => cases h
    next => cases h
  · rintro ⟨hmem, hkey⟩
    obtain ⟨j, hj, rfl⟩ := List.getElem_of_mem hmem
    have hge : low ≤ j := by
      by_contra hlt
      have := hbl j (by omega)
      rw [hr j hj, hkey] at this
      exact lt_irrefl _ this
    have hle : j ≤ low := by
      by_contra hlt
      have ht := hab low le_rfl (by omega)
      have hl := hs low j (by omega) hj
      rw [hr j hj, hkey] at hl
      exact lt_irrefl _ (ht.trans_lt hl)
    have heq : low = j := le_antisymm hge hle
    change (match t[low]? with
      | some e => if key e = target then some e else none
      | none => none) = _
    rw [heq, List.getElem?_eq_getElem hj]
    exact if_pos hkey

end ObcFlight
