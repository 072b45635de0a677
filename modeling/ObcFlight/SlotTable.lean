import Mathlib.Data.List.Perm.Basic
import Mathlib.Data.List.Nodup
import Mathlib.Data.List.ReduceOption

/-!
# Fixed-capacity tables with first-fit allocation

A table is a row of n slots, each free or holding a key and a value. Lookup takes
the first slot with the key, insertion the first free slot, erasure clears every
slot whose key satisfies a predicate. Clients reason through lookup and through
the list of keys in use, never through slot positions.
-/

namespace ObcFlight

/-- Put b into the first free slot, or fail when there is none. -/
def fillFirst {β : Type*} (b : β) : List (Option β) → Option (List (Option β))
  | [] => none
  | none :: slots => some (some b :: slots)
  | some a :: slots => (fillFirst b slots).map (some a :: ·)

variable {β : Type*}

theorem fillFirst_length {b : β} {s s' : List (Option β)}
    (h : fillFirst b s = some s') : s'.length = s.length := by
  induction s generalizing s' with
  | nil => cases h
  | cons o _ ih =>
    cases o with
    | none =>
      cases h
      rfl
    | some =>
      obtain ⟨rest, hr, rfl⟩ := Option.map_eq_some_iff.mp h
      simp [ih hr]

theorem fillFirst_reduceOption_perm {b : β} {s s' : List (Option β)}
    (h : fillFirst b s = some s') : s'.reduceOption.Perm (b :: s.reduceOption) := by
  induction s generalizing s' with
  | nil => cases h
  | cons o _ ih =>
    cases o with
    | none =>
      cases h
      simp
    | some a =>
      obtain ⟨rest, hr, rfl⟩ := Option.map_eq_some_iff.mp h
      simpa using ((ih hr).cons a).trans (List.Perm.swap b a _)

theorem fillFirst_eq_none_iff (b : β) (s : List (Option β)) :
    fillFirst b s = none ↔ s.reduceOption.length = s.length := by
  induction s with
  | nil => simp [fillFirst]
  | cons o s ih =>
    have hle := List.reduceOption_length_le s
    cases o with
    | none => simp [fillFirst]; omega
    | some => simp [fillFirst, ih]

/-- Take the first entry that satisfies p out of its slot. -/
def takeFirst {β : Type*} (p : β → Bool) : List (Option β) → Option (β × List (Option β))
  | [] => none
  | none :: slots => (takeFirst p slots).map fun r => (r.1, none :: r.2)
  | some b :: slots =>
    if p b then some (b, none :: slots) else (takeFirst p slots).map fun r => (r.1, some b :: r.2)

theorem takeFirst_eq_some {p : β → Bool} {b : β} {s s' : List (Option β)}
    (h : takeFirst p s = some (b, s')) :
    p b = true ∧ s.reduceOption.Perm (b :: s'.reduceOption) ∧ s'.length = s.length := by
  induction s generalizing s' with
  | nil => cases h
  | cons o _ ih =>
    cases o with
    | none =>
      obtain ⟨⟨c, rest⟩, hr, he⟩ := Option.map_eq_some_iff.mp h
      cases he
      obtain ⟨hp, hm, hlen⟩ := ih hr
      exact ⟨hp, by simpa using hm, by simpa using hlen⟩
    | some a =>
      rw [takeFirst] at h
      split_ifs at h with hp
      · cases h
        simp [hp]
      · obtain ⟨⟨c, rest⟩, hr, he⟩ := Option.map_eq_some_iff.mp h
        cases he
        obtain ⟨hb, hm, hlen⟩ := ih hr
        exact ⟨hb, by simpa using (hm.cons a).trans (List.Perm.swap _ a _), by simpa using hlen⟩

theorem takeFirst_eq_none {p : β → Bool} {s : List (Option β)}
    (h : takeFirst p s = none) : ∀ b ∈ s.reduceOption, p b = false := by
  induction s with
  | nil => simp [List.reduceOption]
  | cons o _ ih =>
    cases o with
    | none => simpa using ih (by simpa [takeFirst] using h)
    | some =>
      rw [takeFirst] at h
      split_ifs at h with hp
      simpa [hp] using ih (by simpa using h)

structure SlotTable (κ ν : Type*) (n : ℕ) where
  slots : List (Option (κ × ν))
  length_slots : slots.length = n

namespace SlotTable

variable {κ ν : Type*} {n : ℕ} [DecidableEq κ]

def empty : SlotTable κ ν n := ⟨List.replicate n none, List.length_replicate⟩

variable (t : SlotTable κ ν n)

def keys : List κ := t.slots.reduceOption.map Prod.fst

def lookupSlots (k : κ) : List (Option (κ × ν)) → Option ν
  | [] => none
  | none :: slots => lookupSlots k slots
  | some (k', v) :: slots => if k' = k then some v else lookupSlots k slots

def lookup (k : κ) : Option ν := lookupSlots k t.slots

def updateSlots (k : κ) (v : ν) : List (Option (κ × ν)) → List (Option (κ × ν))
  | [] => []
  | none :: slots => none :: updateSlots k v slots
  | some (k', w) :: slots =>
    if k' = k then some (k', v) :: slots else some (k', w) :: updateSlots k v slots

variable (k : κ)

@[simp] theorem updateSlots_length (v : ν) (s : List (Option (κ × ν))) :
    (updateSlots k v s).length = s.length := by
  fun_induction updateSlots k v s <;> simp_all

def update (k : κ) (v : ν) : SlotTable κ ν n :=
  ⟨updateSlots k v t.slots, by rw [updateSlots_length, t.length_slots]⟩

def insert (k : κ) (v : ν) : Option (SlotTable κ ν n) :=
  match h : fillFirst (k, v) t.slots with
  | none => none
  | some slots => some ⟨slots, (fillFirst_length h).trans t.length_slots⟩

def eraseWhere (p : κ → Bool) : SlotTable κ ν n :=
  ⟨t.slots.map (Option.filter fun e => !p e.1), by rw [List.length_map, t.length_slots]⟩

omit [DecidableEq κ] in
theorem insert_slots {t t' : SlotTable κ ν n} {k : κ} {v : ν} (h : t.insert k v = some t') :
    fillFirst (k, v) t.slots = some t'.slots := by
  unfold insert at h
  split at h
  · cases h
  next s hs =>
    cases h
    exact hs

omit [DecidableEq κ] in
theorem keys_insert_perm {t t' : SlotTable κ ν n} {k : κ} {v : ν}
    (h : t.insert k v = some t') : t'.keys.Perm (k :: t.keys) :=
  (fillFirst_reduceOption_perm (insert_slots h)).map Prod.fst

variable (t : SlotTable κ ν n)

omit [DecidableEq κ] in
theorem insert_eq_none_iff (v : ν) : t.insert k v = none ↔ t.keys.length = n := by
  have hf := fillFirst_eq_none_iff (k, v) t.slots
  rw [t.length_slots] at hf
  rw [keys, List.length_map, ← hf]
  unfold insert
  split
  next hn => simp [hn]
  next s hs => simp [hs]

omit [DecidableEq κ] in
@[simp] theorem keys_empty : (empty : SlotTable κ ν n).keys = [] := by
  simp [keys, empty, List.reduceOption]

omit [DecidableEq κ] in
theorem keys_eraseWhere (p : κ → Bool) : (t.eraseWhere p).keys = t.keys.filter fun k => !p k := by
  have hs (s : List (Option (κ × ν))) :
      ((s.map (Option.filter fun e => !p e.1)).reduceOption).map Prod.fst =
        (s.reduceOption.map Prod.fst).filter fun k => !p k := by
    induction s with
    | nil => rfl
    | cons o _ ih =>
      cases o with
      | none => simpa using ih
      | some e => cases hp : p e.1 <;> simpa [Option.filter, hp] using ih
  exact hs t.slots

@[simp] theorem keys_update (v : ν) : (t.update k v).keys = t.keys := by
  have hs (slots : List (Option (κ × ν))) :
      (updateSlots k v slots).reduceOption.map Prod.fst = slots.reduceOption.map Prod.fst := by
    fun_induction updateSlots k v slots <;> simp_all
  exact hs t.slots

theorem lookup_eq_none_iff : t.lookup k = none ↔ k ∉ t.keys := by
  have hs (slots : List (Option (κ × ν))) :
      lookupSlots k slots = none ↔ k ∉ slots.reduceOption.map Prod.fst := by
    fun_induction lookupSlots k slots <;> simp_all [eq_comm]
  exact hs t.slots

theorem lookup_update (k k' : κ) (v : ν) :
    (t.update k v).lookup k' = if k' = k then (t.lookup k).map fun _ => v else t.lookup k' := by
  have hs (slots : List (Option (κ × ν))) :
      lookupSlots k' (updateSlots k v slots) =
        if k' = k then (lookupSlots k slots).map fun _ => v else lookupSlots k' slots := by
    induction slots with
    | nil => simp [updateSlots, lookupSlots]
    | cons o _ ih =>
      rcases o with _ | ⟨j, w⟩
      · simpa [updateSlots, lookupSlots] using ih
      · by_cases hj : j = k
        · subst hj
          by_cases hk : k' = j
          · simp [updateSlots, lookupSlots, hk]
          · simp [updateSlots, lookupSlots, hk, Ne.symm hk]
        · by_cases hk : j = k'
          · subst hk
            simp [updateSlots, lookupSlots, hj]
          · simpa [updateSlots, lookupSlots, hj, hk] using ih
  exact hs t.slots

theorem lookup_eraseWhere (p : κ → Bool) (k : κ) :
    (t.eraseWhere p).lookup k = if p k then none else t.lookup k := by
  have hs (slots : List (Option (κ × ν))) :
      lookupSlots k (slots.map (Option.filter fun e => !p e.1)) =
        if p k then none else lookupSlots k slots := by
    induction slots with
    | nil => simp [lookupSlots]
    | cons o _ ih =>
      rcases o with _ | ⟨j, w⟩
      · simpa [lookupSlots] using ih
      · by_cases hj : j = k
        · subst hj
          cases hp : p j <;> simp_all [lookupSlots, Option.filter]
        · cases hp : p j <;> simp_all [lookupSlots, Option.filter]
  exact hs t.slots

theorem lookup_insert {t t' : SlotTable κ ν n} {k : κ} {v : ν} (h : t.insert k v = some t')
    (hnew : t.lookup k = none) (k' : κ) :
    t'.lookup k' = if k' = k then some v else t.lookup k' := by
  have hs (slots s' : List (Option (κ × ν))) (hf : fillFirst (k, v) slots = some s')
      (hnone : lookupSlots k slots = none) :
      lookupSlots k' s' = if k' = k then some v else lookupSlots k' slots := by
    induction slots generalizing s' with
    | nil => cases hf
    | cons o _ ih =>
      rcases o with _ | ⟨j, w⟩
      · cases hf
        by_cases hk : k' = k <;> simp_all [lookupSlots, eq_comm]
      · obtain ⟨rest, hr, rfl⟩ := Option.map_eq_some_iff.mp hf
        have hj : j ≠ k := by
          rintro rfl
          simp [lookupSlots] at hnone
        have hrec := ih rest hr (by simpa [lookupSlots, hj] using hnone)
        by_cases hk : j = k'
        · subst hk
          simp [lookupSlots, hj]
        · simpa [lookupSlots, hk] using hrec
  exact hs _ _ (insert_slots h) hnew

end SlotTable

end ObcFlight
