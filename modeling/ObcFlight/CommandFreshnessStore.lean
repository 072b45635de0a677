import ObcFlight.PersistentFaultStore
import ObcFlight.SlotTable

/-!
# Session floors on disk

For every source of command sessions the store keeps the highest session number it has been
given, in a table of sixteen entries that is written in two copies. The caller holds the
current snapshot and the copy it came from and passes both to every call; a load reads them
back from the files.
-/

namespace ObcFlight

namespace CommandFreshnessStore

open WireCodec

/-- The port and the two enumerations as the file carries them. -/
structure SourceEpochKey where
  ingressPort : UInt32
  linkIdentity : UInt32
  linkRole : UInt32
  deriving DecidableEq

def snapshotMagic : UInt32 := 0x31465343
def snapshotVersion : UInt16 := 1

/-- The header up to its checksum. -/
structure SnapshotHeader where
  magic : UInt32
  version : UInt16
  reserved : UInt16
  generation : UInt32
  capacity : UInt32
  count : UInt32
  recordBytes : UInt32

def header : WireCodec SnapshotHeader :=
  (u32le.pair (u16le.pair (u16le.pair (u32le.pair (u32le.pair (u32le.pair u32le)))))).iso
    ⟨fun ⟨a, b, c, d, e, f, g⟩ => ⟨a, b, c, d, e, f, g⟩, fun ⟨a, b, c, d, e, f, g⟩ => (a, b, c, d, e, f, g),
      fun _ => rfl, fun _ => rfl⟩

theorem header_length (h : SnapshotHeader) : (header.encode h).length = 24 := by
  simp [header, iso, pair]

structure EntryWire where
  valid : UInt32
  ingressPort : UInt32
  linkIdentity : UInt32
  linkRole : UInt32
  sessionFloor : UInt32

def entryWire : WireCodec EntryWire :=
  (u32le.pair (u32le.pair (u32le.pair (u32le.pair u32le)))).iso
    ⟨fun ⟨a, b, c, d, e⟩ => ⟨a, b, c, d, e⟩, fun ⟨a, b, c, d, e⟩ => (a, b, c, d, e), fun _ => rfl, fun _ => rfl⟩

theorem entryWire_length (w : EntryWire) : (entryWire.encode w).length = 20 := by
  simp [entryWire, iso, pair]

def toWire : Option (SourceEpochKey × UInt32) → EntryWire
  | none => ⟨0, 0, 0, 0, 0⟩
  | some (key, sessionFloor) => ⟨1, key.ingressPort, key.linkIdentity, key.linkRole, sessionFloor⟩

def fromWire (wire : EntryWire) : Option (SourceEpochKey × UInt32) :=
  if wire.valid ≠ 0 then some (⟨wire.ingressPort, wire.linkIdentity, wire.linkRole⟩, wire.sessionFloor) else none

@[simp] theorem fromWire_toWire (entry : Option (SourceEpochKey × UInt32)) : fromWire (toWire entry) = entry := by
  cases entry <;> simp [toWire, fromWire]

/-- A snapshot whose count is the number of its valid entries, as parseCopy checks. -/
structure Snapshot where
  generation : UInt32 := 0
  count : UInt32 := 0
  entries : SlotTable SourceEpochKey UInt32 16 := .empty
  count_eq : count.toNat = entries.keys.length := by simp

variable (s : Snapshot)

theorem Snapshot.count_le : s.count ≤ 16 := by
  rw [UInt32.le_iff_toNat_le, s.count_eq, SlotTable.keys, List.length_map]
  exact (List.reduceOption_length_le s.entries.slots).trans_eq s.entries.length_slots

def Snapshot.header (s : Snapshot) : SnapshotHeader where
  magic := snapshotMagic
  version := snapshotVersion
  reserved := 0
  generation := s.generation
  capacity := 16
  count := s.count
  recordBytes := 20

def Snapshot.wires (s : Snapshot) : Fin 16 → EntryWire :=
  fun i => toWire (s.entries.slots.get (i.cast s.entries.length_slots.symm))

def readEntries (wires : Fin 16 → EntryWire) : SlotTable SourceEpochKey UInt32 16 :=
  ⟨List.ofFn fun i => fromWire (wires i), List.length_ofFn⟩

def readSnapshot (header : SnapshotHeader) (wires : Fin 16 → EntryWire) : Option Snapshot :=
  if header.magic ≠ snapshotMagic ∨ header.version ≠ snapshotVersion ∨ header.capacity ≠ 16 ∨
      header.recordBytes ≠ 20 ∨ header.count > 16 then none
  else if h : header.count.toNat = (readEntries wires).keys.length then
    some { generation := header.generation, count := header.count, entries := readEntries wires, count_eq := h }
  else none

theorem ofFn_get_cast {α : Type*} {n : ℕ} {slots : List α} (h : slots.length = n) :
    (List.ofFn fun i : Fin n => slots.get (i.cast h.symm)) = slots := by
  subst h
  exact List.ofFn_get slots

theorem readEntries_wires : readEntries s.wires = s.entries := by
  obtain ⟨g, c, ⟨l, hs⟩, hc⟩ := s
  simp only [readEntries, Snapshot.wires, fromWire_toWire, SlotTable.mk.injEq]
  exact ofFn_get_cast hs

theorem readSnapshot_header : readSnapshot s.header s.wires = some s := by
  have hf : ¬ (s.header.magic ≠ snapshotMagic ∨ s.header.version ≠ snapshotVersion ∨
      s.header.capacity ≠ 16 ∨ s.header.recordBytes ≠ 20 ∨ s.header.count > 16) := by
    simpa [Snapshot.header] using s.count_le
  have hcount : s.header.count.toNat = (readEntries s.wires).keys.length := by
    rw [readEntries_wires]
    exact s.count_eq
  rw [readSnapshot, if_neg hf, dif_pos hcount]
  simp only [readEntries_wires, Snapshot.header]

/-- The bytes of a copy, as writeCopy lays them out and parseCopy reads them. -/
def snapshotLayout : SealedLayout Snapshot SnapshotHeader (Fin 16 → EntryWire) where
  checksum := StateData.crc32
  head := header
  body := entryWire.repeated 16
  headSize := 24
  bodySize := 16 * 20
  head_length := header_length
  body_length := repeated_length entryWire_length 16
  toHead := Snapshot.header
  toBody := Snapshot.wires
  read := readSnapshot
  read_write := readSnapshot_header
  generation := Snapshot.generation

def format : SnapshotFormat Snapshot := snapshotLayout.format

inductive LoadStatus where
  | ok
  | empty
  | invalid
  deriving DecidableEq

def load (files : CopyFiles) : LoadStatus × Snapshot × StoreCopy :=
  match format.select files with
  | (some snapshot, copy) => (.ok, snapshot, copy)
  | (none, copy) => (if files.copyA.isSome || files.copyB.isSome then .invalid else .empty, {}, copy)

def findFloor (s : Snapshot) (key : SourceEpochKey) : Option UInt32 := s.entries.lookup key

def Snapshot.raise (s : Snapshot) (key : SourceEpochKey) (sessionFloor : UInt32) : Snapshot where
  generation := s.generation + 1
  count := s.count
  entries := s.entries.update key sessionFloor
  count_eq := by rw [SlotTable.keys_update]; exact s.count_eq

theorem count_of_insert {s : Snapshot} {key : SourceEpochKey} {n : UInt32}
    {e : SlotTable SourceEpochKey UInt32 16} (h : s.entries.insert key n = some e) :
    (s.count + 1).toNat = e.keys.length := by
  have hle := UInt32.le_iff_toNat_le.mp s.count_le
  have hs : (s.count + 1).toNat = s.count.toNat + 1 := by
    rw [UInt32.toNat_add]
    exact Nat.mod_eq_of_lt (by simp at hle ⊢; omega)
  rw [hs, s.count_eq, (SlotTable.keys_insert_perm h).length_eq, List.length_cons]

/-- The snapshot with a first entry for a key, or nothing when the table is full. -/
def Snapshot.allocate (s : Snapshot) (key : SourceEpochKey) (sessionFloor : UInt32) : Option Snapshot :=
  match h : s.entries.insert key sessionFloor with
  | none => none
  | some entries => some
    { generation := s.generation + 1
      count := s.count + 1
      entries := entries
      count_eq := count_of_insert h }

/-- What a call has to do with the snapshot it is given. -/
inductive Update where
  | keep
  | full
  | write (next : Snapshot)

def Snapshot.update (s : Snapshot) (key : SourceEpochKey) (sessionFloor : UInt32) : Update :=
  match findFloor s key with
  | some current => if sessionFloor ≤ current then .keep else .write (s.raise key sessionFloor)
  | none =>
    match s.allocate key sessionFloor with
    | none => .full
    | some next => .write next

end CommandFreshnessStore

/-- The files with the snapshot and the copy that the caller holds. -/
structure CommandFreshnessStore where
  files : CopyFiles := {}
  snapshot : CommandFreshnessStore.Snapshot := {}
  activeCopy : StoreCopy := .none

inductive FreshnessInput where
  | persistFloor (key : CommandFreshnessStore.SourceEpochKey) (sessionFloor : UInt32) (storageReady : Bool)
      (outcome : WriteOutcome)
  | reload

namespace CommandFreshnessStore

/-- The write of the next snapshot; the caller's copy changes only when it is completed. -/
def commit (s : CommandFreshnessStore) (next : Snapshot) (outcome : WriteOutcome) : CommandFreshnessStore × Bool :=
  let files := format.store s.files s.activeCopy.target next outcome
  if outcome = .complete then ({ files := files, snapshot := next, activeCopy := s.activeCopy.target }, true)
  else ({ s with files := files }, false)

def persistFloor (s : CommandFreshnessStore) (key : SourceEpochKey) (sessionFloor : UInt32)
    (storageReady : Bool) (outcome : WriteOutcome) : CommandFreshnessStore × Bool :=
  if !storageReady then (s, false)
  else match s.snapshot.update key sessionFloor with
    | .keep => (s, true)
    | .full => (s, false)
    | .write next => s.commit next outcome

def reload (s : CommandFreshnessStore) : CommandFreshnessStore :=
  { s with snapshot := (load s.files).2.1, activeCopy := (load s.files).2.2 }

def step (s : CommandFreshnessStore) : FreshnessInput → CommandFreshnessStore × List Bool
  | .persistFloor key sessionFloor storageReady outcome =>
    let (t, answer) := s.persistFloor key sessionFloor storageReady outcome
    (t, [answer])
  | .reload => (s.reload, [])

end CommandFreshnessStore

def freshnessStore : Machine CommandFreshnessStore FreshnessInput Bool := ⟨CommandFreshnessStore.step⟩

namespace CommandFreshnessStore

/-- Nothing that was stored before is lost or lowered. -/
inductive FloorLe : Option UInt32 → Option UInt32 → Prop
  | first (floor : Option UInt32) : FloorLe none floor
  | raised {floor floor' : UInt32} (h : floor ≤ floor') : FloorLe (some floor) (some floor')

theorem FloorLe.refl (floor : Option UInt32) : FloorLe floor floor := by
  cases floor with
  | none => exact .first none
  | some floor => exact .raised (UInt32.le_refl floor)

theorem FloorLe.trans {a b c : Option UInt32} (h : FloorLe a b) (h' : FloorLe b c) : FloorLe a c := by
  cases h with
  | first => exact .first c
  | raised h =>
    cases h' with
    | raised h' => exact .raised (UInt32.le_trans h h')

theorem update_write {s next : Snapshot} {key : SourceEpochKey} {n : UInt32}
    (h : s.update key n = .write next) :
    next.generation = s.generation + 1 ∧
      ∀ key', FloorLe (findFloor s key') (findFloor next key') := by
  unfold Snapshot.update at h
  cases hf : findFloor s key with
  | some =>
    rw [hf] at h
    dsimp only at h
    split_ifs at h with hle
    obtain rfl : s.raise key n = next := by simpa using h
    refine ⟨rfl, fun key' => ?_⟩
    have hl := SlotTable.lookup_update s.entries key key' n
    have hnext : findFloor (s.raise key n) key' =
        if key' = key then (findFloor s key).map fun _ => n else findFloor s key' := hl
    rw [hnext, hf]
    split_ifs with hkey
    · rw [hkey, hf]
      exact .raised (UInt32.le_of_lt (UInt32.not_le.mp hle))
    · exact FloorLe.refl _
  | none =>
    rw [hf] at h
    dsimp only at h
    split at h
    · cases h
    · rename_i a hal
      obtain rfl : a = next := by simpa using h
      unfold Snapshot.allocate at hal
      split at hal
      · cases hal
      · rename_i e hin
        cases hal
        refine ⟨rfl, fun key' => ?_⟩
        show FloorLe (findFloor s key') (e.lookup key')
        rw [SlotTable.lookup_insert hin hf key']
        split_ifs with hkey
        · rw [hkey, hf]
          exact .first _
        · exact FloorLe.refl _

def Synced (s : CommandFreshnessStore) : Prop := (load s.files).2 = (s.snapshot, s.activeCopy)

theorem load_eq (f : CopyFiles) : (load f).2 = ((format.select f).1.getD {}, (format.select f).2) := by
  unfold load
  split <;> rename_i hs <;> rw [hs] <;> rfl

/-- The generation does not wrap in the write that the input makes, if it makes one. -/
def GenerationFits (s : CommandFreshnessStore) : FreshnessInput → Prop
  | .persistFloor key sessionFloor _ _ =>
    ∀ next, s.snapshot.update key sessionFloor = .write next → next.generation ≠ 0
  | .reload => True

theorem lt_add_one_of_ne {g : UInt32} (h : g + 1 ≠ 0) : g < g + 1 := by
  rw [UInt32.lt_iff_toNat_lt, UInt32.toNat_add]
  have hg := g.toNat_lt
  by_cases hmax : g.toNat + 1 = 4294967296
  · exact absurd (UInt32.toNat_inj.mp (by rw [UInt32.toNat_add]; simp [hmax])) h
  · rw [Nat.mod_eq_of_lt (by simp; omega)]
    simp

variable {s : CommandFreshnessStore}

theorem commit_synced (hs : s.Synced) {next : Snapshot}
    (hnw : s.snapshot.generation < next.generation) (outcome : WriteOutcome) :
    (s.commit next outcome).1.Synced := by
  have hl := load_eq s.files
  rw [show (load s.files).2 = (s.snapshot, s.activeCopy) from hs, Prod.mk.injEq] at hl
  have hsl : format.select (format.store s.files s.activeCopy.target next outcome) =
      if outcome = .complete then (some next, s.activeCopy.target) else format.select s.files := by
    rw [hl.2]
    refine format.select_store s.files (fun t ht => ?_) outcome
    obtain rfl : s.snapshot = t := by rw [hl.1, ht]; rfl
    exact hnw
  unfold commit
  split_ifs at hsl ⊢ with hc
  · simp only [Synced, load_eq, hsl, Option.getD_some]
  · simp only [Synced, load_eq, hsl, ← hl.1, ← hl.2]

theorem persistFloor_synced (hs : s.Synced) {key : SourceEpochKey} {n : UInt32} {r : Bool}
    {o : WriteOutcome} (hf : GenerationFits s (.persistFloor key n r o)) :
    (s.persistFloor key n r o).1.Synced := by
  unfold persistFloor
  cases r with
  | false => exact hs
  | true =>
    rw [if_neg (by simp)]
    split
    · exact hs
    · exact hs
    · rename_i next hw
      have hg := (update_write hw).1
      refine commit_synced hs ?_ o
      rw [hg]
      exact lt_add_one_of_ne (by rw [← hg]; exact hf next hw)

theorem step_synced (s : CommandFreshnessStore) (i : FreshnessInput) (hf : s.GenerationFits i)
    (hs : s.Synced) : (s.step i).1.Synced := by
  cases i with
  | persistFloor => exact persistFloor_synced hs hf
  | reload => rfl

def stored (s : CommandFreshnessStore) : Snapshot := (load s.files).2.1

theorem Synced.stored_eq (hs : s.Synced) : s.stored = s.snapshot := by
  rw [stored, hs]

theorem persistFloor_snapshot (s : CommandFreshnessStore) (key : SourceEpochKey) (n : UInt32)
    (r : Bool) (o : WriteOutcome) :
    ((s.persistFloor key n r o).1.snapshot = s.snapshot ∧
      (s.persistFloor key n r o).1.activeCopy = s.activeCopy) ∨
      o = .complete ∧ s.snapshot.update key n = .write (s.persistFloor key n r o).1.snapshot := by
  unfold persistFloor
  cases r with
  | false => exact .inl ⟨rfl, rfl⟩
  | true =>
    rw [if_neg (by simp)]
    split
    · exact .inl ⟨rfl, rfl⟩
    · exact .inl ⟨rfl, rfl⟩
    · rename_i next hw
      unfold commit
      split_ifs with hc
      · exact .inr ⟨hc, hw⟩
      · exact .inl ⟨rfl, rfl⟩

theorem step_floor (s : CommandFreshnessStore) (i : FreshnessInput) (hf : s.GenerationFits i) (hs : s.Synced)
    (key : SourceEpochKey) : FloorLe (findFloor s.stored key) (findFloor (s.step i).1.stored key) := by
  rw [hs.stored_eq, (step_synced s i hf hs).stored_eq]
  cases i with
  | persistFloor key' n r o =>
    rcases s.persistFloor_snapshot key' n r o with ⟨hsm, -⟩ | ⟨-, hw⟩
    · show FloorLe _ (findFloor (s.persistFloor key' n r o).1.snapshot key)
      rw [hsm]
      exact FloorLe.refl _
    · exact (update_write hw).2 key
  | reload =>
    show FloorLe _ (findFloor (load s.files).2.1 key)
    rw [show (load s.files).2 = (s.snapshot, s.activeCopy) from hs]
    exact FloorLe.refl _

theorem run_floor (is : List FreshnessInput) (s : CommandFreshnessStore) (hs : s.Synced)
    (hf : freshnessStore.Admits GenerationFits s is) (key : SourceEpochKey) :
    FloorLe (findFloor s.stored key) (findFloor (freshnessStore.run s is).stored key) := by
  induction is generalizing s with
  | nil => exact FloorLe.refl _
  | cons i _ ih =>
    exact (step_floor s i hf.1 hs key).trans (ih _ (step_synced s i hf.1 hs) hf.2)

/-- In every run in which the generation does not wrap: a load after a call finds the snapshot from
before the call, or the one the call was to write if its write was completed; a load finds
what the caller holds; and from any point of the run to any later one no stored floor is lost
or lowered. -/
theorem floors_survive (is : List FreshnessInput) (hfits : freshnessStore.Admits GenerationFits {} is) :
    (∀ pre post key sessionFloor ready outcome,
      is = pre ++ .persistFloor key sessionFloor ready outcome :: post →
      let before := freshnessStore.run {} pre
      let after := (before.persistFloor key sessionFloor ready outcome).1
      (load after.files).2 = (load before.files).2 ∨
        outcome = .complete ∧ before.stored.update key sessionFloor = .write after.stored) ∧
    (load (freshnessStore.run {} is).files).2 =
      ((freshnessStore.run {} is).snapshot, (freshnessStore.run {} is).activeCopy) ∧
    ∀ pre post, is = pre ++ post → ∀ key,
      FloorLe (findFloor (freshnessStore.run {} pre).stored key)
        (findFloor (freshnessStore.run {} is).stored key) := by
  have hsynced (pre post : List FreshnessInput) (his : is = pre ++ post) : (freshnessStore.run {} pre).Synced := by
    subst his
    exact freshnessStore.run_invariant_of_admits (fun s i hfit hs => step_synced s i hfit hs) {} rfl pre
      (Machine.Admits.of_append _ hfits)
  refine ⟨?_, hsynced is [] (by simp), ?_⟩
  · intro pre post key sessionFloor ready outcome his before after
    have hbefore : before.Synced := hsynced pre _ his
    have hfit : before.GenerationFits (.persistFloor key sessionFloor ready outcome) := by
      subst his
      exact (Machine.Admits.after _ hfits).1
    have hafter : after.Synced := persistFloor_synced hbefore hfit
    rw [hbefore.stored_eq, hafter.stored_eq]
    rcases before.persistFloor_snapshot key sessionFloor ready outcome with ⟨hsame, hcopy⟩ | hwrite
    · left
      rw [show (load after.files).2 = (after.snapshot, after.activeCopy) from hafter,
        show (load before.files).2 = (before.snapshot, before.activeCopy) from hbefore]
      exact Prod.ext hsame hcopy
    · exact .inr hwrite
  · intro pre post his key
    have hpre := hsynced pre post his
    subst his
    rw [freshnessStore.run_append]
    exact run_floor post _ hpre (Machine.Admits.after _ hfits) key

def firstFloor : FreshnessInput := .persistFloor ⟨0, 1, 1⟩ 5 true .complete

def cutShort : List FreshnessInput := [.persistFloor ⟨0, 1, 1⟩ 6 true (.torn 40), .reload]

theorem floor_kept_when_cut_short :
    FloorLe (findFloor (freshnessStore.run {} [firstFloor]).stored ⟨0, 1, 1⟩)
      (findFloor (freshnessStore.run {} ([firstFloor] ++ cutShort)).stored ⟨0, 1, 1⟩) := by
  have hfits : freshnessStore.Admits GenerationFits {} ([firstFloor] ++ cutShort) := by
    refine ⟨fun next h => ?_, fun next h => ?_, trivial, trivial⟩
    · rw [(update_write h).1]
      decide
    · rw [(update_write h).1]
      decide +kernel
  exact (floors_survive ([firstFloor] ++ cutShort) hfits).2.2 [firstFloor] cutShort rfl ⟨0, 1, 1⟩

end CommandFreshnessStore

end ObcFlight
