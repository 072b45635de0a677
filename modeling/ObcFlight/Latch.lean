import Mathlib.Data.List.Induction

/-!
# Latches over event histories

A latch is raised by some events and released by others. Components keep such a latch
as one boolean, and the file says what that boolean means in terms of everything that
has happened: a raised latch was raised by an event after which nothing released it,
and a released latch that has been raised has been released since.
-/

namespace ObcFlight

structure Latch (ε : Type*) where
  raises : ε → Prop
  releases : ε → Prop
  disjoint : ∀ e, raises e → ¬ releases e

namespace Latch

variable {ε : Type*} (L : Latch ε)

/-- The event raises the latch and nothing afterwards releases it. -/
def Raised (history : List ε) : Prop :=
  ∃ pre e post, history = pre ++ e :: post ∧ L.raises e ∧ ∀ x ∈ post, ¬ L.releases x

theorem not_raised_nil : ¬ L.Raised [] := by
  rintro ⟨pre, e, post, hs, -, -⟩
  simp at hs

variable {history : List ε}

theorem not_raised_iff : ¬ L.Raised history ↔
      ∀ pre e post, history = pre ++ e :: post → L.raises e → ∃ x ∈ post, L.releases x := by
  simp only [Raised, not_exists, not_and, not_forall, not_not, exists_prop]

theorem raised_concat_of_raises {e : ε} (h : L.raises e) :
    L.Raised (history ++ [e]) := ⟨history, e, [], rfl, h, by simp⟩

theorem not_raised_concat_of_releases {e : ε} (h : L.releases e) : ¬ L.Raised (history ++ [e]) := by
  rintro ⟨pre, x, post, hs, hr, hk⟩
  rcases List.eq_nil_or_concat post with rfl | ⟨f, last, rfl⟩
  · obtain rfl : e = x := by simpa using (List.append_inj_right' hs rfl)
    exact L.disjoint e hr h
  · have hl : history ++ [e] = (pre ++ x :: f) ++ [last] := by simpa using hs
    obtain rfl : e = last := by simpa using (List.append_inj_right' hl rfl)
    exact hk e (by simp) h

theorem raised_concat_iff_of_inert {e : ε} (hr : ¬ L.raises e) (hrl : ¬ L.releases e) :
    L.Raised (history ++ [e]) ↔ L.Raised history := by
  constructor
  · rintro ⟨pre, x, post, hs, hx, hk⟩
    rcases List.eq_nil_or_concat post with rfl | ⟨f, last, rfl⟩
    · obtain rfl : e = x := by simpa using (List.append_inj_right' hs rfl)
      exact absurd hx hr
    · have hl : history ++ [e] = (pre ++ x :: f) ++ [last] := by simpa using hs
      exact ⟨pre, x, f, List.append_inj_left' hl rfl, hx, fun y hy => hk y (by simp [hy])⟩
  · rintro ⟨pre, x, post, rfl, hx, hk⟩
    refine ⟨pre, x, post ++ [e], by simp, hx, fun y hy => ?_⟩
    rcases List.mem_append.mp hy with hy | hy
    · exact hk y hy
    · rw [List.mem_singleton.mp hy]
      exact hrl

/-- What one event does to the boolean a component keeps for the latch. -/
inductive Follows (before after : Bool) (e : ε) : Prop
  | raised (h : L.raises e) (ha : after = true)
  | released (h : L.releases e) (ha : after = false)
  | kept (hraise : ¬ L.raises e) (hrelease : ¬ L.releases e) (ha : after = before)

variable {L}

theorem Follows.raised_iff {b c : Bool} {e : ε} (h : L.Follows b c e)
    (hb : b = true ↔ L.Raised history) : c = true ↔ L.Raised (history ++ [e]) := by
  cases h with
  | raised h ha => simp [ha, L.raised_concat_of_raises h]
  | released h ha => simp [ha, L.not_raised_concat_of_releases h]
  | kept hr hrl ha => rw [ha, hb, L.raised_concat_iff_of_inert hr hrl]

/-- A flag that starts down and follows every event tells whether the latch stands
raised by the whole history. -/
theorem foldl_raised_iff {τ : Type*} {a : τ → ε → τ} {flag : τ → Bool}
    (hs : ∀ t e, L.Follows (flag t) (flag (a t e)) e) {t : τ} (ht : flag t = false)
    (history : List ε) : flag (history.foldl a t) = true ↔ L.Raised history := by
  induction history using List.reverseRecOn with
  | nil => simp [ht, L.not_raised_nil]
  | append_singleton _ e ih =>
    rw [List.foldl_append]
    exact (hs _ e).raised_iff ih

end Latch

end ObcFlight
