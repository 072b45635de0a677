import ObcFlight.AuthorityTypes
import ObcFlight.SlotTable

/-!
# The per-session sequence window

CommandSequenceWindow remembers, for at most sixteen sessions, the last sequence
number it accepted. A session without an entry starts from any number; a session
with one only moves up.
-/

namespace ObcFlight

instance uint32Preorder : Preorder UInt32 where
  le_refl := UInt32.le_refl
  le_trans _ _ _ := UInt32.le_trans
  lt_iff_le_not_ge a b := by
    rw [UInt32.lt_iff_toNat_lt, UInt32.le_iff_toNat_le, UInt32.le_iff_toNat_le]
    omega

structure CommandSessionKey where
  ingressPort : Port
  linkIdentity : AuthorityLinkIdentity
  linkRole : AuthorityLinkRole
  sessionId : UInt32
  deriving DecidableEq

inductive CommandSequenceResult where
  | accepted
  | rejectedNotIncreasing
  | rejectedTableFull
  deriving DecidableEq

abbrev CommandSequenceWindow := SlotTable CommandSessionKey UInt32 16

namespace CommandSequenceWindow

def evaluateAndAccept (window : CommandSequenceWindow) (key : CommandSessionKey)
    (sequenceNumber : UInt32) : CommandSequenceResult × CommandSequenceWindow :=
  match window.lookup key with
  | none =>
    match window.insert key sequenceNumber with
    | none => (.rejectedTableFull, window)
    | some window => (.accepted, window)
  | some lastAccepted =>
    if sequenceNumber ≤ lastAccepted then (.rejectedNotIncreasing, window)
    else (.accepted, window.update key sequenceNumber)

def resetSource (window : CommandSequenceWindow) (ingressPort : Port)
    (identity : AuthorityLinkIdentity) (role : AuthorityLinkRole) : CommandSequenceWindow :=
  window.eraseWhere fun key =>
    key.ingressPort = ingressPort && key.linkIdentity = identity && key.linkRole = role

variable {window : CommandSequenceWindow} {key : CommandSessionKey}

theorem evaluateAndAccept_accepted {n : UInt32}
    (h : (evaluateAndAccept window key n).1 = .accepted) :
    (∀ last, window.lookup key = some last → last < n) ∧
      (evaluateAndAccept window key n).2.lookup key = some n ∧
      (∀ k, k ≠ key → (evaluateAndAccept window key n).2.lookup k = window.lookup k) ∧
      (∀ k ∈ (evaluateAndAccept window key n).2.keys, k = key ∨ k ∈ window.keys) ∧
      (window.keys.Nodup → (evaluateAndAccept window key n).2.keys.Nodup) := by
  unfold evaluateAndAccept at h ⊢
  cases hl : window.lookup key with
  | none =>
    cases hin : window.insert key n with
    | none => simp [hl, hin] at h
    | some =>
      simp only
      have hget := SlotTable.lookup_insert hin hl
      have hky := SlotTable.keys_insert_perm hin
      refine ⟨by simp, by simp [hget], fun k hk => by simp [hget, hk], fun k hk => ?_, fun hnd => ?_⟩
      · simpa using hky.mem_iff.mp hk
      · rw [hky.nodup_iff, List.nodup_cons]
        exact ⟨(window.lookup_eq_none_iff key).mp hl, hnd⟩
  | some last =>
    by_cases hle : n ≤ last
    · simp [hl, hle] at h
    · simp only [if_neg hle]
      refine ⟨?_, by simp [SlotTable.lookup_update, hl],
        fun k hk => by simp [SlotTable.lookup_update, hk], fun k hk => ?_, fun hnd => ?_⟩
      · rintro l ⟨⟩
        exact UInt32.not_le.mp hle
      · exact Or.inr (by simpa using hk)
      · simpa using hnd

theorem evaluateAndAccept_accepted_of {n : UInt32}
    (hup : ∀ last, window.lookup key = some last → last < n) (hf : window.keys.length < 16) :
    (evaluateAndAccept window key n).1 = .accepted := by
  unfold evaluateAndAccept
  cases hl : window.lookup key with
  | none =>
    cases hin : window.insert key n with
    | none =>
      have hfl := (window.insert_eq_none_iff key n).mp hin
      omega
    | some => rfl
  | some last => simp [UInt32.not_le.mpr (hup last hl)]

theorem lookup_resetSource (window : CommandSequenceWindow) (p : Port)
    (i : AuthorityLinkIdentity) (role : AuthorityLinkRole) (key : CommandSessionKey) :
    (window.resetSource p i role).lookup key =
      if key.ingressPort = p ∧ key.linkIdentity = i ∧ key.linkRole = role then none
      else window.lookup key := by
  rw [resetSource, SlotTable.lookup_eraseWhere]
  simp [and_assoc]

theorem mem_keys_resetSource (window : CommandSequenceWindow) (p : Port)
    (i : AuthorityLinkIdentity) (role : AuthorityLinkRole) (key : CommandSessionKey) :
    key ∈ (window.resetSource p i role).keys ↔
      key ∈ window.keys ∧ ¬ (key.ingressPort = p ∧ key.linkIdentity = i ∧ key.linkRole = role) := by
  rw [resetSource, SlotTable.keys_eraseWhere, List.mem_filter]
  simp only [Bool.not_eq_true', Bool.and_eq_false_iff, decide_eq_false_iff_not]
  tauto

theorem nodup_keys_resetSource (p : Port) (i : AuthorityLinkIdentity)
    (role : AuthorityLinkRole) (h : window.keys.Nodup) :
    (window.resetSource p i role).keys.Nodup := by
  rw [resetSource, SlotTable.keys_eraseWhere]
  exact h.filter _

end CommandSequenceWindow

end ObcFlight
