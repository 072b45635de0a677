import Mathlib.Algebra.Order.Ring.Nat
import Mathlib.Data.List.Basic

/-!
# A queue of committed items with byte counters

Items are appended in batches. They leave at the front once they have been written, or all at
once when the writer fails. Three counters record the bytes that were accepted, flushed and
dropped; they have 32 bits and wrap.
-/

namespace ObcFlight

structure DrainQueue (α : Type*) where
  items : List α := []
  acceptedBytes : UInt32 := 0
  flushedBytes : UInt32 := 0
  droppedCommittedBytes : UInt32 := 0

namespace DrainQueue

variable {α : Type*} (size : α → UInt16)

def totalBytes (items : List α) : UInt32 := items.foldl (fun total item => total + (size item).toUInt32) 0

variable (q : DrainQueue α)

def append (items : List α) : DrainQueue α :=
  { q with
    items := q.items ++ items
    acceptedBytes := items.foldl (fun total item => total + (size item).toUInt32) q.acceptedBytes }

/-- The front leaves the queue if it is the item that has been written. -/
def confirmFlushed (same : α → α → Bool) (item : α) : DrainQueue α × Bool :=
  match q.items with
  | [] => (q, false)
  | front :: rest =>
    if same front item then
      ({ q with items := rest, flushedBytes := q.flushedBytes + (size item).toUInt32 }, true)
    else (q, false)

def writeFailure (inFlightBytes : UInt32) : DrainQueue α :=
  { q with
    items := []
    droppedCommittedBytes := q.droppedCommittedBytes + max inFlightBytes (totalBytes size q.items) }

/-- The bytes that were accepted have been flushed, are in the queue or have been dropped. -/
def Balanced : Prop :=
  q.acceptedBytes = q.flushedBytes + totalBytes size q.items + q.droppedCommittedBytes

instance : Decidable (q.Balanced size) := inferInstanceAs (Decidable (_ = _))

theorem foldl_add (s : UInt32) (items : List α) :
    items.foldl (fun t item => t + (size item).toUInt32) s = s + totalBytes size items := by
  induction items generalizing s with
  | nil => exact (UInt32.add_zero s).symm
  | cons item rest ih =>
    have hr : totalBytes size (item :: rest) = (size item).toUInt32 + totalBytes size rest := by
      rw [totalBytes, List.foldl_cons, ih, UInt32.zero_add]
    rw [List.foldl_cons, ih, hr, UInt32.add_assoc]

theorem totalBytes_cons (item : α) (rest : List α) :
    totalBytes size (item :: rest) = (size item).toUInt32 + totalBytes size rest := by
  rw [totalBytes, List.foldl_cons, foldl_add, UInt32.zero_add]

theorem totalBytes_append (i later : List α) :
    totalBytes size (i ++ later) = totalBytes size i + totalBytes size later := by
  rw [totalBytes, List.foldl_append, foldl_add]
  rfl

theorem totalBytes_toNat (i : List α) :
    (totalBytes size i).toNat = (i.map fun item => (size item).toNat).sum % 2 ^ 32 := by
  induction i with
  | nil => rfl
  | cons _ _ ih =>
    rw [totalBytes_cons, UInt32.toNat_add, UInt16.toNat_toUInt32, ih, List.map_cons, List.sum_cons,
      Nat.add_mod_mod]

@[simp] theorem append_nil : q.append size [] = q := by
  simp [append]

variable {size} {q}

/-- A failure keeps the counters in balance exactly when the bytes in flight are among those of
the queue or fewer. -/
theorem Balanced.writeFailure_iff (h : q.Balanced size) (i : UInt32) :
    (q.writeFailure size i).Balanced size ↔ i ≤ totalBytes size q.items := by
  have hdr : (q.writeFailure size i).Balanced size ↔
      max i (totalBytes size q.items) = totalBytes size q.items := by
    unfold Balanced at h ⊢
    dsimp only [writeFailure]
    rw [h, show totalBytes size ([] : List α) = 0 from rfl, UInt32.add_zero, UInt32.add_assoc,
      UInt32.add_right_inj, UInt32.add_comm (totalBytes size q.items), UInt32.add_right_inj]
    exact eq_comm
  rw [hdr]
  show (if i ≤ totalBytes size q.items then totalBytes size q.items else i) = _ ↔ _
  by_cases hle : i ≤ totalBytes size q.items
  · exact ⟨fun _ => hle, fun _ => if_pos hle⟩
  · rw [if_neg hle]
    exact ⟨fun heq => heq ▸ UInt32.le_refl _, fun h => absurd h hle⟩

theorem suffix_of_confirmFlushed (same : α → α → Bool) (item : α) :
    (q.confirmFlushed size same item).1.items <:+ q.items := by
  unfold DrainQueue.confirmFlushed
  split
  · exact List.suffix_refl _
  · rename_i f rest hit
    split
    · rw [hit]
      exact List.suffix_cons f rest
    · exact List.suffix_refl _

end DrainQueue

end ObcFlight
