import ObcFlight.DrainQueue
import ObcFlight.Machine

/-!
# A worker that drains a queue

The worker looks at the front of the queue under a lock, writes it outside the lock and then
reports that it has been written or that the write failed. Other callers append to the queue and
may close the link at any time, also between the look and the report. The record of what was
accepted, flushed and dropped says where each item went, and the counters should be its sums.
-/

namespace ObcFlight

inductive DrainEvent (α : Type*) where
  | accepted (items : List α)
  | flushed (item : α)
  | dropped (items : List α)

namespace DrainEvent

variable {α : Type*}

variable (events : List (DrainEvent α))

def acceptedItems : List α :=
  events.flatMap fun
    | .accepted items => items
    | _ => []

def flushedItems : List α :=
  events.flatMap fun
    | .flushed item => [item]
    | _ => []

def droppedItems : List α :=
  events.flatMap fun
    | .dropped items => items
    | _ => []

/-- The items that have left the queue, in the order in which they did. -/
def departedItems : List α :=
  events.flatMap fun
    | .accepted _ => []
    | .flushed item => [item]
    | .dropped items => items

variable (events later : List (DrainEvent α))

@[simp] theorem acceptedItems_append :
    acceptedItems (events ++ later) = acceptedItems events ++ acceptedItems later := List.flatMap_append

@[simp] theorem flushedItems_append :
    flushedItems (events ++ later) = flushedItems events ++ flushedItems later := List.flatMap_append

@[simp] theorem droppedItems_append :
    droppedItems (events ++ later) = droppedItems events ++ droppedItems later := List.flatMap_append

@[simp] theorem departedItems_append :
    departedItems (events ++ later) = departedItems events ++ departedItems later := List.flatMap_append

theorem totalBytes_departedItems (size : α → UInt16) (events : List (DrainEvent α)) :
    DrainQueue.totalBytes size (departedItems events) =
      DrainQueue.totalBytes size (flushedItems events) + DrainQueue.totalBytes size (droppedItems events) := by
  induction events with
  | nil => rfl
  | cons e _ ih =>
    rw [← List.singleton_append, departedItems_append, flushedItems_append, droppedItems_append,
      DrainQueue.totalBytes_append, DrainQueue.totalBytes_append, DrainQueue.totalBytes_append, ih]
    cases e with
    | accepted => simp [departedItems, flushedItems, droppedItems, DrainQueue.totalBytes]
    | flushed =>
      simp only [departedItems, flushedItems, droppedItems, List.flatMap_singleton]
      rw [show DrainQueue.totalBytes size ([] : List α) = 0 from rfl, UInt32.zero_add, UInt32.add_assoc]
    | dropped =>
      simp only [departedItems, flushedItems, droppedItems, List.flatMap_singleton]
      rw [show DrainQueue.totalBytes size ([] : List α) = 0 from rfl, UInt32.zero_add]
      ac_rfl

end DrainEvent

open DrainEvent

/-- Every accepted item has left once or is still in the queue, and the counters are the bytes of
the items that were accepted, flushed and dropped. -/
structure DrainQueue.Accounted {α : Type*} (size : α → UInt16) (events : List (DrainEvent α)) (q : DrainQueue α) :
    Prop where
  placed : departedItems events ++ q.items = acceptedItems events
  accepted : q.acceptedBytes = totalBytes size (acceptedItems events)
  flushed : q.flushedBytes = totalBytes size (flushedItems events)
  dropped : q.droppedCommittedBytes = totalBytes size (droppedItems events)

namespace DrainQueue.Accounted

variable {α : Type*} {size : α → UInt16} {events : List (DrainEvent α)} {q : DrainQueue α}

theorem balanced (h : q.Accounted size events) : q.Balanced size := by
  unfold Balanced
  rw [h.accepted, h.flushed, h.dropped, ← h.placed, totalBytes_append, totalBytes_departedItems]
  ac_rfl

theorem append (h : q.Accounted size events) (i : List α) :
    (q.append size i).Accounted size (events ++ [DrainEvent.accepted i]) where
  placed := by
    rw [departedItems_append, acceptedItems_append, ← h.placed]
    simp [DrainQueue.append, departedItems, acceptedItems]
  accepted := by
    rw [acceptedItems_append, totalBytes_append, ← h.accepted]
    simp only [DrainQueue.append, acceptedItems, List.flatMap_singleton]
    exact foldl_add size q.acceptedBytes i
  flushed := by
    rw [flushedItems_append]
    simpa [flushedItems, DrainQueue.append] using h.flushed
  dropped := by
    rw [droppedItems_append]
    simpa [droppedItems, DrainQueue.append] using h.dropped

theorem flush (h : q.Accounted size events) {f item : α} {rest : List α} (hit : q.items = f :: rest)
    (hs : size f = size item) :
    ({ q with items := rest, flushedBytes := q.flushedBytes + (size item).toUInt32 } : DrainQueue α).Accounted size
      (events ++ [DrainEvent.flushed f]) where
  placed := by
    rw [departedItems_append, acceptedItems_append, ← h.placed, hit]
    simp [departedItems, acceptedItems]
  accepted := by
    rw [acceptedItems_append]
    simpa [acceptedItems] using h.accepted
  flushed := by
    rw [flushedItems_append, totalBytes_append, ← h.flushed, ← hs]
    simp [flushedItems, totalBytes]
  dropped := by
    rw [droppedItems_append]
    simpa [droppedItems] using h.dropped

theorem writeFailure (h : q.Accounted size events) {i : UInt32}
    (hle : i ≤ totalBytes size q.items) :
    (q.writeFailure size i).Accounted size (events ++ [DrainEvent.dropped q.items]) where
  placed := by
    rw [departedItems_append, acceptedItems_append, ← h.placed]
    simp [DrainQueue.writeFailure, departedItems, acceptedItems]
  accepted := by
    rw [acceptedItems_append]
    simpa [acceptedItems, DrainQueue.writeFailure] using h.accepted
  flushed := by
    rw [flushedItems_append]
    simpa [flushedItems, DrainQueue.writeFailure] using h.flushed
  dropped := by
    have hmax : max i (totalBytes size q.items) = totalBytes size q.items := if_pos hle
    rw [droppedItems_append, totalBytes_append, ← h.dropped, DrainQueue.writeFailure, hmax]
    simp [droppedItems]

end DrainQueue.Accounted

theorem DrainQueue.accounted_nil {α : Type*} (size : α → UInt16) : ({} : DrainQueue α).Accounted size [] :=
  ⟨rfl, rfl, rfl, rfl⟩

/-- A state with a drain queue, as the worker uses it. Requests only append to the queue. -/
structure DrainStore (σ ρ α : Type*) where
  drain : σ → DrainQueue α
  size : α → UInt16
  same : α → α → Bool
  serve : σ → ρ → σ
  confirm : σ → α → σ
  fail : σ → UInt32 → σ
  drain_serve : ∀ s request, ∃ items, drain (serve s request) = (drain s).append size items
  drain_confirm : ∀ s item, drain (confirm s item) = ((drain s).confirmFlushed size same item).1
  drain_fail : ∀ s inFlightBytes, drain (fail s inFlightBytes) = (drain s).writeFailure size inFlightBytes
  size_same : ∀ front item, same front item = true → size front = size item

namespace DrainStore

variable {σ ρ α : Type*} (S : DrainStore σ ρ α)

/-- Where the worker is: it waits, it holds an item that it writes, or it closes the link. -/
inductive Phase (α : Type*) where
  | idle
  | peeked (item : α)
  | closing

structure Working (σ α : Type*) where
  node : σ
  phase : Phase α := .idle

/-- A disconnect comes from another caller, `closed` is the worker's own after a failed write. -/
inductive Input (ρ : Type*) where
  | serve (request : ρ)
  | peek
  | linkDown
  | written
  | writeFailed
  | closed
  | disconnect

def servedEvents (before after : DrainQueue α) : List (DrainEvent α) :=
  [.accepted (after.items.drop before.items.length)]

/-- The front leaves the queue if it is the item that was written. -/
def flushedEvents (q : DrainQueue α) (item : α) : List (DrainEvent α) :=
  match q.items with
  | [] => []
  | front :: _ => if S.same front item then [.flushed front] else []

def failed (w : Working σ α) (inFlightBytes : UInt32) (phase : Phase α) : Working σ α × List (DrainEvent α) :=
  ({ node := S.fail w.node inFlightBytes, phase }, [.dropped (S.drain w.node).items])

def step (w : Working σ α) : Input ρ → Working σ α × List (DrainEvent α)
  | .serve request =>
    ({ w with node := S.serve w.node request }, servedEvents (S.drain w.node) (S.drain (S.serve w.node request)))
  | .peek =>
    match w.phase, (S.drain w.node).items.head? with
    | .idle, some item => ({ w with phase := .peeked item }, [])
    | _, _ => (w, [])
  | .linkDown =>
    match w.phase with
    | .peeked _ => ({ w with phase := .idle }, [])
    | _ => (w, [])
  | .written =>
    match w.phase with
    | .peeked item => (⟨S.confirm w.node item, .idle⟩, S.flushedEvents (S.drain w.node) item)
    | _ => (w, [])
  | .writeFailed =>
    match w.phase with
    | .peeked item => S.failed w (S.size item).toUInt32 .closing
    | _ => (w, [])
  | .closed =>
    match w.phase with
    | .closing => S.failed w 0 .idle
    | _ => (w, [])
  | .disconnect => S.failed w 0 w.phase

def worker : Machine (Working σ α) (Input ρ) (DrainEvent α) := ⟨S.step⟩

/-- A failed write is reported while the queue has at least the bytes of the item. -/
def Holds (w : Working σ α) : Input ρ → Prop
  | .writeFailed => ∀ item, w.phase = .peeked item →
    (S.size item).toUInt32 ≤ DrainQueue.totalBytes S.size (S.drain w.node).items
  | _ => True

variable {S} {w : Working σ α} {events : List (DrainEvent α)}

theorem accounted_serve (h : (S.drain w.node).Accounted S.size events) (r : ρ) :
    (S.drain (S.serve w.node r)).Accounted S.size
      (events ++ servedEvents (S.drain w.node) (S.drain (S.serve w.node r))) := by
  obtain ⟨items, hit⟩ := S.drain_serve w.node r
  have hdr : ((S.drain w.node).append S.size items).items.drop (S.drain w.node).items.length = items :=
    List.drop_left
  rw [servedEvents, hit, hdr]
  exact h.append items

theorem accounted_confirm (h : (S.drain w.node).Accounted S.size events) (item : α) :
    (S.drain (S.confirm w.node item)).Accounted S.size (events ++ S.flushedEvents (S.drain w.node) item) := by
  rw [S.drain_confirm, DrainQueue.confirmFlushed, flushedEvents]
  cases hit : (S.drain w.node).items with
  | nil => rwa [List.append_nil]
  | cons f =>
    dsimp only
    by_cases hs : S.same f item = true
    · rw [if_pos hs, if_pos hs]
      exact h.flush hit (S.size_same f item hs)
    · rw [if_neg hs, if_neg hs, List.append_nil]
      exact h

theorem accounted_failed (h : (S.drain w.node).Accounted S.size events) {i : UInt32}
    (hle : i ≤ DrainQueue.totalBytes S.size (S.drain w.node).items) (p : Phase α) :
    (S.drain (S.failed w i p).1.node).Accounted S.size (events ++ (S.failed w i p).2) := by
  rw [failed, S.drain_fail]
  exact h.writeFailure hle

theorem accounted_step (h : (S.drain w.node).Accounted S.size events) {i : Input ρ} (hh : S.Holds w i) :
    (S.drain (S.step w i).1.node).Accounted S.size (events ++ (S.step w i).2) := by
  have hk : (S.drain w.node).Accounted S.size (events ++ []) := by rwa [List.append_nil]
  have hz : (0 : UInt32) ≤ DrainQueue.totalBytes S.size (S.drain w.node).items := UInt32.zero_le
  cases i with
  | serve r => exact accounted_serve h r
  | peek | linkDown =>
    simp only [step]
    split <;> exact hk
  | written =>
    simp only [step]
    split
    · exact accounted_confirm h _
    · exact hk
  | writeFailed =>
    simp only [step]
    split
    · rename_i item hp
      exact accounted_failed h (hh item hp) .closing
    · exact hk
  | closed =>
    simp only [step]
    split
    · exact accounted_failed h hz .idle
    · exact hk
  | disconnect => exact accounted_failed h hz w.phase

theorem holds_of_balanced {input : Input ρ} (h : (S.drain w.node).Balanced S.size)
    (hn : (S.drain (S.step w input).1.node).Balanced S.size) : S.Holds w input := by
  cases input with
  | writeFailed =>
    intro item hp
    simp only [step, hp, failed, S.drain_fail] at hn
    exact (h.writeFailure_iff _).mp hn
  | serve | peek | linkDown | written | closed | disconnect => trivial

theorem admits_of_balanced (inputs : List (Input ρ))
    (h : ∀ pre, pre <+: inputs → (S.drain (S.worker.run w pre).node).Balanced S.size) :
    S.worker.Admits S.Holds w inputs := by
  induction inputs generalizing w with
  | nil => trivial
  | cons i rest ih =>
    refine ⟨holds_of_balanced (h [] List.nil_prefix) (h [i] (List.prefix_append [i] rest)),
      ih fun pre hpre => ?_⟩
    exact h (i :: pre) (List.prefix_cons_inj i |>.mpr hpre)

variable (S) in
/-- In a run from a state whose queue and counters are empty, the account is right at all times
exactly when every failed write is reported while the queue has the bytes of its item. -/
theorem accounted_iff_admits (node : σ) (hnd : S.drain node = {}) (inputs : List (Input ρ)) :
    (∀ pre, pre <+: inputs →
        (S.drain (S.worker.run ⟨node, .idle⟩ pre).node).Balanced S.size ∧
          (S.drain (S.worker.run ⟨node, .idle⟩ pre).node).Accounted S.size (S.worker.trace ⟨node, .idle⟩ pre)) ↔
      S.worker.Admits S.Holds ⟨node, .idle⟩ inputs := by
  constructor
  · intro h
    exact admits_of_balanced inputs fun pre hpre => (h pre hpre).1
  · rintro h pre ⟨rest, rfl⟩
    have hs : (S.drain node).Accounted S.size [] := by
      rw [hnd]
      exact DrainQueue.accounted_nil S.size
    have hac := S.worker.observed_invariant_of_admits
      (I := fun events w => (S.drain w.node).Accounted S.size events) (f := fun w i => (S.step w i).2)
      (fun _ _ _ hh hw => accounted_step hw hh) [] ⟨node, .idle⟩ hs pre h.of_append
    exact ⟨hac.balanced, hac⟩

end DrainStore

end ObcFlight
