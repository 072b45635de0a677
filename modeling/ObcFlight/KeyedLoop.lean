import Mathlib.Data.List.Nodup
import Mathlib.Logic.Function.Basic

/-!
# Loops over the keys of a table

A loop visits each key once. Its turn at a key rewrites the entry of that key from the entry
itself and writes down something that depends on that entry only, while other parts of the
state may be threaded through all turns. Such a loop rewrites every entry as if the turns were
independent.
-/

namespace ObcFlight

structure KeyedLoop (σ κ β ο : Type*) [DecidableEq κ] where
  turn : σ → κ → σ
  entry : σ → κ → β
  next : κ → β → β
  log : σ → List ο
  emit : κ → β → List ο
  entry_turn : ∀ s k, entry (turn s k) = Function.update (entry s) k (next k (entry s k))
  log_turn : ∀ s k, log (turn s k) = log s ++ emit k (entry s k)

namespace KeyedLoop

variable {σ κ β ο : Type*} [DecidableEq κ] (L : KeyedLoop σ κ β ο)

theorem entry_turn_of_ne (s : σ) {k key : κ} (h : key ≠ k) :
    L.entry (L.turn s k) key = L.entry s key := by
  rw [L.entry_turn, Function.update_of_ne h]

variable {keys : List κ}

theorem entry_foldl_of_notMem {key : κ} (h : key ∉ keys) (s : σ) :
    L.entry (keys.foldl L.turn s) key = L.entry s key := by
  induction keys generalizing s with
  | nil => rfl
  | cons _ _ ih =>
    rw [List.foldl_cons, ih (List.not_mem_of_not_mem_cons h),
      L.entry_turn_of_ne s (List.ne_of_not_mem_cons h)]

theorem entry_foldl (hnd : keys.Nodup) {key : κ} (h : key ∈ keys) (s : σ) :
    L.entry (keys.foldl L.turn s) key = L.next key (L.entry s key) := by
  induction keys generalizing s with
  | nil => cases h
  | cons k _ ih =>
    obtain ⟨hk, hky⟩ := List.nodup_cons.mp hnd
    rw [List.foldl_cons]
    rcases List.mem_cons.mp h with rfl | hmem
    · rw [L.entry_foldl_of_notMem hk, L.entry_turn, Function.update_self]
    · have hne : key ≠ k := fun heq => hk (heq ▸ hmem)
      rw [ih hky hmem, L.entry_turn_of_ne s hne]

theorem log_foldl (hnd : keys.Nodup) (s : σ) :
    L.log (keys.foldl L.turn s) = L.log s ++ keys.flatMap fun k => L.emit k (L.entry s k) := by
  induction keys generalizing s with
  | nil => rw [List.foldl_nil, List.flatMap_nil, List.append_nil]
  | cons k keys ih =>
    obtain ⟨hk, hky⟩ := List.nodup_cons.mp hnd
    have hl : (keys.flatMap fun key => L.emit key (L.entry (L.turn s k) key)) =
        keys.flatMap fun key => L.emit key (L.entry s key) := by
      refine List.flatMap_congr fun key hkey => ?_
      have hne : key ≠ k := fun heq => hk (heq ▸ hkey)
      rw [L.entry_turn_of_ne s hne]
    rw [List.foldl_cons, ih hky, hl, L.log_turn, List.flatMap_cons, List.append_assoc]

end KeyedLoop

end ObcFlight
