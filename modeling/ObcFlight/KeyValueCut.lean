import ObcFlight.KeyValueText

/-!
# Texts of key-value lines that were cut off

A rendered text of which only the first symbols are left. It is unreadable exactly when the
cut falls inside a key, and otherwise it shows of every value the part before the cut.
-/

namespace ObcFlight

namespace LineFormat

variable {α : Type*} {F : LineFormat α} [DecidableEq α]

/-- What reading sees of an entry whose line is cut off after n symbols. -/
def cutEntry (F : LineFormat α) (entry : List α × List α) (n : ℕ) :
    Option (List (List α × List α)) :=
  if n = 0 then some []
  else if n ≤ entry.1.length then none
  else some [(entry.1, F.trim (entry.2.take (n - (entry.1.length + 1))))]

/-- What reading sees of a rendered text that is cut off after n symbols. -/
def cutEntries (F : LineFormat α) : List (List α × List α) → ℕ → Option (List (List α × List α))
  | [], _ => some []
  | entry :: entries, n =>
    if n ≤ (F.renderEntry entry).length then F.cutEntry entry n
    else
      (cutEntries F entries (n - ((F.renderEntry entry).length + 1))).map
        ((entry.1, F.trim entry.2) :: ·)

def valueOffset (F : LineFormat α) : List (List α × List α) → List α → ℕ
  | [], _ => 0
  | entry :: entries, key =>
    if key = entry.1 then entry.1.length + 1
    else (F.renderEntry entry).length + 1 + valueOffset F entries key

def InsideKey (F : LineFormat α) (entries : List (List α × List α)) (n : ℕ) : Prop :=
  ∃ entry ∈ entries, n < F.valueOffset entries entry.1 ∧
    F.valueOffset entries entry.1 < n + entry.1.length + 1

instance (F : LineFormat α) (entries : List (List α × List α)) (n : ℕ) :
    Decidable (F.InsideKey entries n) :=
  inferInstanceAs (Decidable (∃ entry ∈ entries, _ ∧ _))

theorem parse_take_entry {e : List α × List α} (h : F.Entry e) {n : ℕ}
    (hn : n ≤ (F.renderEntry e).length) :
    F.parse ((F.renderEntry e).take n) = F.cutEntry e n := by
  obtain ⟨key, v⟩ := e
  have hline : F.newline ∉ (F.renderEntry (key, v)).take n :=
    fun hmem => h.renderEntry_no_newline (List.mem_of_mem_take hmem)
  rcases Nat.eq_zero_or_pos n with rfl | hpos
  · rfl
  have hne : (F.renderEntry (key, v)).take n ≠ [] := by
    intro hnil
    have hl := congrArg List.length hnil
    rw [List.length_take, min_eq_left hn, List.length_nil] at hl
    omega
  rw [parse, getLines_single hline hne, cutEntry, if_neg (by omega)]
  by_cases hkey : n ≤ key.length
  · -- the delimiter is not reached
    have ht : (F.renderEntry (key, v)).take n = key.take n :=
      List.take_append_of_le_length hkey
    rw [ht] at hne ⊢
    have hs : F.trim (key.take n) = key.take n :=
      trim_of_solid fun a ha => h.key.solid a (List.mem_of_mem_take ha)
    have hdl : F.delimiter ∉ key.take n :=
      fun hmem => h.key.no_delimiter (List.mem_of_mem_take hmem)
    rw [if_pos hkey, entriesOf, hs, if_neg hne, splitEntry, if_neg fun hsp => hdl hsp.1]
  · have ht : (F.renderEntry (key, v)).take n =
        F.renderEntry (key, v.take (n - (key.length + 1))) := by
      obtain ⟨m, rfl⟩ : ∃ m, n = key.length + 1 + m := ⟨n - (key.length + 1), by omega⟩
      rw [renderEntry, renderEntry, Nat.add_assoc, List.take_length_add_append, Nat.add_comm 1 m,
        List.take_succ_cons]
      congr 4
      omega
    rw [if_neg hkey, ht, entriesOf_renderEntry h.key]
    rfl

variable {entries : List (List α × List α)}

theorem parse_take_render (h : ∀ x ∈ entries, F.Entry x) (n : ℕ) :
    F.parse ((F.render entries).take n) = F.cutEntries entries n := by
  induction entries generalizing n with
  | nil => simp [render, cutEntries, parse, getLines, entriesOf]
  | cons x entries ih =>
    have hen := h x List.mem_cons_self
    have hs : F.render (x :: entries) = F.renderEntry x ++ F.newline :: F.render entries := by
      simp [render]
    rw [hs, cutEntries]
    split_ifs with hn
    · rw [List.take_append_of_le_length hn, parse_take_entry hen hn]
    · obtain ⟨m, rfl⟩ : ∃ m, n = (F.renderEntry x).length + (m + 1) :=
        ⟨n - ((F.renderEntry x).length + 1), by omega⟩
      rw [List.take_length_add_append, List.take_succ_cons, parse_entry hen,
        ih fun e he => h e (List.mem_cons_of_mem _ he)]
      congr 2
      omega

theorem length_lt_valueOffset {e : List α × List α} (h : e ∈ entries) :
    e.1.length < F.valueOffset entries e.1 := by
  induction entries with
  | nil => cases h
  | cons _ _ ih =>
    rw [valueOffset]
    split_ifs with hkey
    · rw [hkey]
      omega
    · rcases List.mem_cons.mp h with rfl | ht
      · exact absurd rfl hkey
      · have := ih ht
        omega

theorem valueOffset_pairwise (hnd : (entries.map Prod.fst).Nodup) :
    entries.Pairwise fun e e' => F.valueOffset entries e.1 + e.2.length < F.valueOffset entries e'.1 := by
  induction entries with
  | nil => exact List.Pairwise.nil
  | cons x entries ih =>
    rw [List.map_cons, List.nodup_cons] at hnd
    have ho (e : List α × List α) (he : e ∈ entries) :
        F.valueOffset (x :: entries) e.1 =
          (F.renderEntry x).length + 1 + F.valueOffset entries e.1 := by
      rw [valueOffset, if_neg]
      rintro (heq : e.1 = x.1)
      exact hnd.1 (List.mem_map.mpr ⟨e, he, heq⟩)
    have hs : F.valueOffset (x :: entries) x.1 = x.1.length + 1 := by simp [valueOffset]
    refine List.Pairwise.cons (fun e he => ?_) ?_
    · rw [hs, ho e he, F.length_renderEntry x.1 x.2]
      omega
    · refine (ih hnd.2).imp_of_mem fun {e e'} he he' hlt => ?_
      rw [ho e he, ho e' he']
      omega

theorem value_cutEntries {es : List (List α × List α)} (hnd : (entries.map Prod.fst).Nodup)
    {n : ℕ} (h : F.cutEntries entries n = some es) {key v : List α} (hmem : (key, v) ∈ entries) :
    value es key = F.trim (v.take (n - F.valueOffset entries key)) := by
  induction entries generalizing n es with
  | nil => cases hmem
  | cons e entries ih =>
    obtain ⟨k, w⟩ := e
    rw [List.map_cons, List.nodup_cons] at hnd
    have hl := F.length_renderEntry k w
    rw [cutEntries, hl] at h
    rw [valueOffset, hl]
    dsimp only at h ⊢
    by_cases hkey : key = k
    · subst hkey
      have hv : v = w := by
        rcases List.mem_cons.mp hmem with heq | ht
        · exact (Prod.mk.inj heq).2
        · exact absurd (List.mem_map.mpr ⟨_, ht, rfl⟩) hnd.1
      subst hv
      rw [if_pos rfl]
      split_ifs at h with hn
      · unfold cutEntry at h
        dsimp only at h
        split_ifs at h with hz hin
        · cases h
          rw [hz, Nat.zero_sub, List.take_zero]
          rfl
        · cases h
          exact value_cons_self _ _ _
      · obtain ⟨rest, -, rfl⟩ := Option.map_eq_some_iff.mp h
        rw [value_cons_self, List.take_of_length_le (by omega)]
    · have ht : (key, v) ∈ entries := by
        rcases List.mem_cons.mp hmem with heq | ht
        · exact absurd (Prod.mk.inj heq).1 hkey
        · exact ht
      rw [if_neg hkey]
      split_ifs at h with hn
      · have hz : n - (k.length + 1 + w.length + 1 + F.valueOffset entries key) = 0 := by omega
        rw [hz, List.take_zero]
        unfold cutEntry at h
        split_ifs at h
        · cases h
          rfl
        · cases h
          rw [value_cons_of_ne hkey]
          rfl
      · obtain ⟨rest, hr, rfl⟩ := Option.map_eq_some_iff.mp h
        rw [value_cons_of_ne hkey, ih hnd.2 hr ht]
        congr 2
        omega

theorem cutEntries_eq_none_iff (hnd : (entries.map Prod.fst).Nodup) (n : ℕ) :
    F.cutEntries entries n = none ↔ F.InsideKey entries n := by
  induction entries generalizing n with
  | nil => simp [cutEntries, InsideKey]
  | cons x entries ih =>
    obtain ⟨k, w⟩ := x
    rw [List.map_cons, List.nodup_cons] at hnd
    have hl := F.length_renderEntry k w
    have hs : F.valueOffset ((k, w) :: entries) k = k.length + 1 := by simp [valueOffset]
    have ho (e : List α × List α) (he : e ∈ entries) :
        F.valueOffset ((k, w) :: entries) e.1 =
          k.length + 1 + w.length + 1 + F.valueOffset entries e.1 := by
      rw [valueOffset, if_neg, hl]
      rintro (rfl : e.1 = k)
      exact hnd.1 (List.mem_map.mpr ⟨e, he, rfl⟩)
    have hsp : F.InsideKey ((k, w) :: entries) n ↔
        (0 < n ∧ n ≤ k.length) ∨ ∃ e ∈ entries,
          n < k.length + 1 + w.length + 1 + F.valueOffset entries e.1 ∧
            k.length + 1 + w.length + 1 + F.valueOffset entries e.1 < n + e.1.length + 1 := by
      unfold InsideKey
      rw [List.exists_mem_cons_iff]
      refine or_congr ?_ ?_
      · dsimp only
        rw [hs]
        omega
      · refine exists_congr fun e => and_congr_right fun he => ?_
        rw [ho e he]
    rw [cutEntries, hl, hsp]
    split_ifs with hn
    · have hnone : F.cutEntry (k, w) n = none ↔ 0 < n ∧ n ≤ k.length := by
        unfold cutEntry
        dsimp only
        split_ifs with hz hin
        · simp [hz]
        · simp only [true_iff]
          omega
        · simp only [false_iff]
          omega
      rw [hnone, or_iff_left]
      rintro ⟨e, he, -, hlt⟩
      have := length_lt_valueOffset (F := F) he
      omega
    · rw [Option.map_eq_none_iff, ih hnd.2, or_iff_right (by omega)]
      refine exists_congr fun e => and_congr_right fun he => ?_
      have := length_lt_valueOffset (F := F) he
      omega

end LineFormat

end ObcFlight
