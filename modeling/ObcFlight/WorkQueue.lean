import Mathlib.Algebra.BigOperators.Group.List.Basic
import Mathlib.Algebra.Order.Ring.Nat
import Mathlib.Algebra.Order.BigOperators.Group.List
import Mathlib.Logic.Function.Iterate

/-!
# Loops over a work queue

A loop takes the first request off a queue, works on it, and appends what the work asks for.
Here a request gives rise to at most one more, and that one to none, so the queue is empty
after at most two turns for each request it started with.
-/

namespace ObcFlight

structure WorkQueue (σ α : Type*) where
  work : σ → α → σ × List α
  spawns : α → Bool
  followups_length : ∀ s a, (work s a).2.length ≤ (spawns a).toNat
  followups_quiet : ∀ s a, ∀ b ∈ (work s a).2, spawns b = false

namespace WorkQueue

variable {σ α : Type*} (Q : WorkQueue σ α)

def turn : σ × List α → σ × List α
  | (s, []) => (s, [])
  | (s, a :: rest) => ((Q.work s a).1, rest ++ (Q.work s a).2)

variable (s : σ)

@[simp] theorem turn_nil : Q.turn (s, []) = (s, []) := rfl

variable (a : α) (rest : List α)

@[simp] theorem turn_cons : Q.turn (s, a :: rest) = ((Q.work s a).1, rest ++ (Q.work s a).2) := rfl

def drain (s : σ) (queue : List α) : σ := (Q.turn^[2 * queue.length] (s, queue)).1

def weight (queue : List α) : ℕ := (queue.map fun a => 1 + (Q.spawns a).toNat).sum

theorem weight_cons : Q.weight (a :: rest) = 1 + (Q.spawns a).toNat + Q.weight rest := by
  simp only [weight, List.map_cons, List.sum_cons]

theorem weight_append (q later : List α) : Q.weight (q ++ later) = Q.weight q + Q.weight later := by
  simp only [weight, List.map_append, List.sum_append]

theorem weight_le (q : List α) : Q.weight q ≤ 2 * q.length := by
  induction q with
  | nil => exact Nat.le_refl 0
  | cons a =>
    rw [weight_cons, List.length_cons]
    have := (Q.spawns a).toNat_le
    omega

theorem weight_quiet {q : List α} (h : ∀ b ∈ q, Q.spawns b = false) : Q.weight q = q.length := by
  induction q with
  | nil => rfl
  | cons a _ ih =>
    rw [weight_cons, ih fun b hb => h b (List.mem_cons_of_mem a hb), h a List.mem_cons_self,
      List.length_cons, Bool.toNat_false]
    omega

theorem weight_turn : Q.weight (rest ++ (Q.work s a).2) < Q.weight (a :: rest) := by
  rw [weight_append, weight_cons, Q.weight_quiet (Q.followups_quiet s a)]
  have := Q.followups_length s a
  omega

theorem iterate_turn_nil (n : ℕ) : Q.turn^[n] (s, []) = (s, []) :=
  Function.iterate_fixed (Q.turn_nil s) n

theorem iterate_turn_eq {n m : ℕ} (q : List α) (hn : Q.weight q ≤ n)
    (hm : Q.weight q ≤ m) : Q.turn^[n] (s, q) = Q.turn^[m] (s, q) := by
  induction n generalizing m s q with
  | zero =>
    cases q with
    | nil => rw [iterate_turn_nil, iterate_turn_nil]
    | cons =>
      rw [weight_cons] at hn
      omega
  | succ _ ih =>
    cases q with
    | nil => rw [iterate_turn_nil, iterate_turn_nil]
    | cons a rest =>
      have hlt := Q.weight_turn s a rest
      obtain ⟨m, rfl⟩ : ∃ k, m = k + 1 := ⟨m - 1, by rw [weight_cons] at hm; omega⟩
      rw [Function.iterate_succ_apply, Function.iterate_succ_apply, turn_cons]
      exact ih _ _ (by omega) (by omega)

theorem drain_cons : Q.drain s (a :: rest) = Q.drain (Q.work s a).1 (rest ++ (Q.work s a).2) := by
  have hlt := Q.weight_turn s a rest
  have hle := Q.weight_le (a :: rest)
  have hr := Q.weight_le (rest ++ (Q.work s a).2)
  unfold drain
  rw [List.length_cons, Nat.mul_succ, Function.iterate_succ_apply, turn_cons] at *
  rw [Q.iterate_turn_eq _ _ _ hr]
  omega

theorem drain_invariant {I : σ → List α → Prop}
    (hwr : ∀ s a rest, I s (a :: rest) → I (Q.work s a).1 (rest ++ (Q.work s a).2))
    {s : σ} {q : List α} (h : I s q) : I (Q.drain s q) [] := by
  induction hw : Q.weight q using Nat.strong_induction_on generalizing s q with
  | _ _ ih =>
    cases q with
    | nil => exact h
    | cons a rest =>
      rw [drain_cons]
      exact ih _ (hw ▸ Q.weight_turn s a rest) (hwr s a rest h) rfl

theorem queue_empty (q : List α) : (Q.turn^[2 * q.length] (s, q)).2 = [] := by
  have hgo : ∀ n s q, Q.weight q ≤ n → (Q.turn^[n] (s, q)).2 = [] := by
    intro n
    induction n with
    | zero =>
      intro s q hle
      cases q with
      | nil => rfl
      | cons =>
        rw [weight_cons] at hle
        omega
    | succ _ ih =>
      intro s q hle
      cases q with
      | nil => rw [iterate_turn_nil]
      | cons a rest =>
        rw [Function.iterate_succ_apply, turn_cons]
        exact ih _ _ (by have := Q.weight_turn s a rest; omega)
  exact hgo _ s q (Q.weight_le q)

end WorkQueue

end ObcFlight
