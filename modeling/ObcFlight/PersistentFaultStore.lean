import ObcFlight.Machine
import ObcFlight.RecoveryTypes
import ObcFlight.RingLog
import ObcFlight.SequenceFile
import ObcFlight.TwoCopyStore

/-!
# The ring of fault records on disk

The last 64 fault records are kept in a snapshot with a checksum, in two copies. An append loads
the current copy, puts the record into the next slot of the ring and writes the snapshot with the
next generation over the other copy. The store keeps nothing in memory, so opening it again at any
point makes no difference.
-/

namespace ObcFlight

/-- The checksum of the onboard state data, with its table written out as the eight steps it
stands for. -/
def StateData.crc32 (bytes : Bytes) : UInt32 := ~~~(bytes.foldl crc32Byte 0xFFFFFFFF)

/-- Read from the file by a cast from one byte, like the cause, the source and the level. -/
abbrev PersistentFaultRecordKind := UInt8

def PersistentFaultRecordKind.bootObserved : PersistentFaultRecordKind := 0

structure PersistentFaultRecord where
  kind : PersistentFaultRecordKind := .bootObserved
  source : RecoveryIncidentSource := .none
  level : RecoveryLevel := .r0RecordOnly
  action : UInt8 := 0
  resetCause : ResetCause := .unknown
  timestampSec : UInt32 := 0
  uptimeSec : UInt32 := 0
  bootCount : UInt32 := 0
  consecutiveResetCount : UInt32 := 0
  detail : UInt32 := 0
  flags : UInt32 := 0
  deriving DecidableEq

namespace PersistentFaultStore

open WireCodec

def snapshotMagic : UInt32 := 0x31524650
def snapshotVersion : UInt16 := 1

/-- The header up to its checksum. -/
structure SnapshotHeader where
  magic : UInt32
  version : UInt16
  reserved : UInt16
  generation : UInt32
  capacity : UInt32
  count : UInt32
  nextIndex : UInt32
  recordBytes : UInt32

def header : WireCodec SnapshotHeader :=
  (u32le.pair (u16le.pair (u16le.pair (u32le.pair (u32le.pair (u32le.pair (u32le.pair u32le))))))).iso
    ⟨fun ⟨a, b, c, d, e, f, g, h⟩ => ⟨a, b, c, d, e, f, g, h⟩, fun ⟨a, b, c, d, e, f, g, h⟩ => (a, b, c, d, e, f, g, h),
      fun _ => rfl, fun _ => rfl⟩

theorem header_length (h : SnapshotHeader) : (header.encode h).length = 28 := by
  simp [header, iso, pair]

structure RecordWire where
  kind : UInt8
  source : UInt8
  level : UInt8
  action : UInt8
  resetCause : UInt8
  reserved0 : UInt8
  reserved1 : UInt16
  timestampSec : UInt32
  uptimeSec : UInt32
  bootCount : UInt32
  consecutiveResetCount : UInt32
  detail : UInt32
  flags : UInt32

def recordWire : WireCodec RecordWire :=
  (u8.pair (u8.pair (u8.pair (u8.pair (u8.pair (u8.pair (u16le.pair
    (u32le.pair (u32le.pair (u32le.pair (u32le.pair (u32le.pair u32le)))))))))))).iso
    ⟨fun ⟨a, b, c, d, e, f, g, h, i, j, k, l, m⟩ => ⟨a, b, c, d, e, f, g, h, i, j, k, l, m⟩,
      fun ⟨a, b, c, d, e, f, g, h, i, j, k, l, m⟩ => (a, b, c, d, e, f, g, h, i, j, k, l, m),
      fun _ => rfl, fun _ => rfl⟩

theorem recordWire_length (r : RecordWire) : (recordWire.encode r).length = 32 := by
  simp [recordWire, iso, pair]

def toWire (record : PersistentFaultRecord) : RecordWire where
  kind := record.kind
  source := record.source
  level := record.level
  action := record.action
  resetCause := record.resetCause
  reserved0 := 0
  reserved1 := 0
  timestampSec := record.timestampSec
  uptimeSec := record.uptimeSec
  bootCount := record.bootCount
  consecutiveResetCount := record.consecutiveResetCount
  detail := record.detail
  flags := record.flags

def fromWire (wire : RecordWire) : PersistentFaultRecord where
  kind := wire.kind
  source := wire.source
  level := wire.level
  action := wire.action
  resetCause := wire.resetCause
  timestampSec := wire.timestampSec
  uptimeSec := wire.uptimeSec
  bootCount := wire.bootCount
  consecutiveResetCount := wire.consecutiveResetCount
  detail := wire.detail
  flags := wire.flags

@[simp] theorem fromWire_toWire (record : PersistentFaultRecord) : fromWire (toWire record) = record := rfl

/-- A snapshot whose indices fit the ring, as parseCopy checks. -/
structure Snapshot where
  generation : UInt32 := 0
  count : UInt32 := 0
  nextIndex : UInt32 := 0
  records : Fin 64 → PersistentFaultRecord := fun _ => {}
  count_le : count ≤ 64 := by decide
  nextIndex_lt : nextIndex < 64 := by decide

def Snapshot.header (s : Snapshot) : SnapshotHeader where
  magic := snapshotMagic
  version := snapshotVersion
  reserved := 0
  generation := s.generation
  capacity := 64
  count := s.count
  nextIndex := s.nextIndex
  recordBytes := 32

def readSnapshot (header : SnapshotHeader) (records : Fin 64 → RecordWire) : Option Snapshot :=
  if header.magic ≠ snapshotMagic ∨ header.version ≠ snapshotVersion ∨ header.capacity ≠ 64 ∨
      header.recordBytes ≠ 32 then none
  else if h : header.count ≤ 64 ∧ header.nextIndex < 64 then
    some
      { generation := header.generation
        count := header.count
        nextIndex := header.nextIndex
        records := fun i => fromWire (records i)
        count_le := h.1
        nextIndex_lt := h.2 }
  else none

/-- The bytes of a copy, as writeCopy lays them out and parseCopy reads them. -/
def snapshotLayout : SealedLayout Snapshot SnapshotHeader (Fin 64 → RecordWire) where
  checksum := StateData.crc32
  head := header
  body := recordWire.repeated 64
  headSize := 28
  bodySize := 64 * 32
  head_length := header_length
  body_length := repeated_length recordWire_length 64
  toHead := Snapshot.header
  toBody s := fun i => toWire (s.records i)
  read := readSnapshot
  read_write s := by simp [readSnapshot, Snapshot.header, s.count_le, s.nextIndex_lt]
  generation := Snapshot.generation

def format : SnapshotFormat Snapshot := snapshotLayout.format

def loadSnapshot (files : CopyFiles) : Snapshot × StoreCopy :=
  ((format.select files).1.getD {}, (format.select files).2)

theorem add_one_mod_lt (i : UInt32) : (i + 1) % 64 < 64 := by
  rw [UInt32.lt_iff_toNat_lt, UInt32.toNat_mod]
  exact Nat.mod_lt _ (by decide)

theorem min_le_capacity (c : UInt32) : (if c + 1 ≤ 64 then c + 1 else 64) ≤ 64 := by
  split
  · assumption
  · exact UInt32.le_refl 64

def Snapshot.push (s : Snapshot) (record : PersistentFaultRecord) : Snapshot where
  generation := s.generation + 1
  count := if s.count + 1 ≤ 64 then s.count + 1 else 64
  nextIndex := (s.nextIndex + 1) % 64
  records := Function.update s.records (Fin.ofNat 64 s.nextIndex.toNat) record
  count_le := min_le_capacity s.count
  nextIndex_lt := add_one_mod_lt s.nextIndex

def append (files : CopyFiles) (record : PersistentFaultRecord) (outcome : WriteOutcome) : CopyFiles × Bool :=
  let (snapshot, activeCopy) := loadSnapshot files
  (format.store files activeCopy.target (snapshot.push record) outcome, outcome = .complete)

structure PersistentFaultHistoryStatus where
  totalRecords : UInt32
  returnedRecords : UInt32
  activeCopy : StoreCopy
  generation : UInt32

def previousIndex (index : UInt32) : UInt32 := if index = 0 then 64 - 1 else index - 1

def collect (s : Snapshot) : UInt32 → ℕ → List PersistentFaultRecord
  | _, 0 => []
  | index, k + 1 => s.records (Fin.ofNat 64 index.toNat) :: collect s (previousIndex index) k

def readLatest (files : CopyFiles) (limit : UInt32) : PersistentFaultHistoryStatus × List PersistentFaultRecord :=
  let (snapshot, activeCopy) := loadSnapshot files
  let requested := if limit = 0 then snapshot.count else limit
  let returned := if requested ≤ snapshot.count then requested else snapshot.count
  (⟨snapshot.count, returned, activeCopy, snapshot.generation⟩,
    collect snapshot (previousIndex snapshot.nextIndex) returned.toNat)

end PersistentFaultStore

inductive FaultStoreInput where
  | append (record : PersistentFaultRecord) (outcome : WriteOutcome)
  | reopen

namespace PersistentFaultStore

def step (files : CopyFiles) : FaultStoreInput → CopyFiles × List Bool
  | .append record outcome =>
    let (files', written) := append files record outcome
    (files', [written])
  | .reopen => (files, [])

end PersistentFaultStore

def faultStore : Machine CopyFiles FaultStoreInput Bool := ⟨PersistentFaultStore.step⟩

namespace PersistentFaultStore

/-- The snapshot after all the records of a log have been appended. -/
structure Represents (s : Snapshot) (log : List PersistentFaultRecord) : Prop where
  generation : s.generation.toNat = log.length
  count : s.count.toNat = min log.length 64
  nextIndex : s.nextIndex.toNat = log.length % 64
  records : RingHolds s.records log

theorem represents_empty : Represents {} [] := ⟨rfl, rfl, rfl, ringHolds_nil _⟩

variable {log : List PersistentFaultRecord}

theorem Represents.push {s : Snapshot} (h : Represents s log) (hrm : log.length + 1 < 4294967296)
    (r : PersistentFaultRecord) : Represents (s.push r) (log ++ [r]) := by
  obtain ⟨hg, hc, hn, hr⟩ := h
  refine ⟨?_, ?_, ?_, ?_⟩
  · show (s.generation + 1).toNat = _
    rw [UInt32.toNat_add, hg, List.length_append]
    exact Nat.mod_eq_of_lt hrm
  · have hs : (s.count + 1).toNat = s.count.toNat + 1 := by
      rw [UInt32.toNat_add]
      exact Nat.mod_eq_of_lt (by simp; omega)
    show (if s.count + 1 ≤ 64 then s.count + 1 else 64 : UInt32).toNat = _
    rw [List.length_append, List.length_singleton]
    split_ifs with hle
    · rw [UInt32.le_iff_toNat_le, hs] at hle
      simp at hle
      omega
    · rw [UInt32.le_iff_toNat_le, hs] at hle
      simp at hle ⊢
      omega
  · show ((s.nextIndex + 1) % 64).toNat = _
    have hs : (s.nextIndex + 1).toNat = s.nextIndex.toNat + 1 := by
      rw [UInt32.toNat_add]
      exact Nat.mod_eq_of_lt (by simp; omega)
    rw [UInt32.toNat_mod, hs, hn, List.length_append, List.length_singleton]
    simp
  · have hsl : Fin.ofNat 64 s.nextIndex.toNat = Fin.ofNat 64 log.length :=
      Fin.ext (by simp [hn])
    show RingHolds (Function.update s.records (Fin.ofNat 64 s.nextIndex.toNat) r) _
    rw [hsl]
    exact hr.push r

variable {index : UInt32}

theorem previousIndex_lt (h : index.toNat < 64) : (previousIndex index).toNat < 64 := by
  unfold previousIndex
  split_ifs with hz
  · decide
  · have hpos : 1 ≤ index := by
      rw [UInt32.le_iff_toNat_le]
      exact Nat.pos_of_ne_zero fun h => hz (UInt32.toNat_inj.mp h)
    rw [UInt32.toNat_sub_of_le _ _ hpos]
    omega

theorem ofNat_previousIndex (h : index.toNat < 64) :
    Fin.ofNat 64 (previousIndex index).toNat = Fin.ofNat 64 index.toNat - 1 := by
  unfold previousIndex
  split_ifs with hz
  · subst hz
    rfl
  · obtain ⟨m, hm⟩ : ∃ m, index.toNat = m + 1 :=
      Nat.exists_eq_succ_of_ne_zero fun h => hz (UInt32.toNat_inj.mp h)
    have hpos : 1 ≤ index := by
      rw [UInt32.le_iff_toNat_le, hm]
      exact Nat.le_add_left 1 m
    rw [UInt32.toNat_sub_of_le _ _ hpos, hm, ofNat_succ_sub_one]
    rfl

theorem collect_eq_readBack (s : Snapshot) (h : index.toNat < 64) (k : ℕ) :
    collect s index k = readBack s.records (Fin.ofNat 64 index.toNat) k := by
  induction k generalizing index with
  | zero => rfl
  | succ _ ih => rw [collect, readBack, ih (previousIndex_lt h), ofNat_previousIndex h]

theorem Represents.collect_eq {s : Snapshot} (h : Represents s log) {k : ℕ}
    (hk : k ≤ min log.length 64) :
    collect s (previousIndex s.nextIndex) k = log.reverse.take k := by
  have hnext : s.nextIndex.toNat < 64 := by
    rw [h.nextIndex]
    exact Nat.mod_lt _ (by decide)
  cases log with
  | nil =>
    obtain rfl : k = 0 := by simpa using hk
    rfl
  | cons r rest =>
    have hs : Fin.ofNat 64 s.nextIndex.toNat - 1 = Fin.ofNat 64 ((r :: rest).length - 1) := by
      rw [show Fin.ofNat 64 s.nextIndex.toNat = Fin.ofNat 64 (rest.length + 1) from
        Fin.ext (by simp [h.nextIndex]), ofNat_succ_sub_one]
      rfl
    rw [collect_eq_readBack s (previousIndex_lt hnext), ofNat_previousIndex hnext, hs]
    exact h.records.readBack_last (by omega) (by omega)

/-- The number of records that a reader gets for a limit, zero meaning all. -/
def readLimit (limit : UInt32) : ℕ := if limit = 0 then 64 else min limit.toNat 64

theorem Represents.readLatest_eq {f : CopyFiles} (h : Represents (loadSnapshot f).1 log)
    (l : UInt32) : (readLatest f l).2 = log.reverse.take (readLimit l) := by
  set snapshot := (loadSnapshot f).1 with hs
  set requested := if l = 0 then snapshot.count else l with hr
  have hrt : (if requested ≤ snapshot.count then requested else snapshot.count).toNat =
      min (readLimit l) log.length := by
    have hcount := h.count
    unfold readLimit
    split_ifs with hle hz hz
    · rw [hr, if_pos hz] at *
      omega
    · rw [hr, if_neg hz] at *
      rw [UInt32.le_iff_toNat_le] at hle
      omega
    · rw [hr, if_pos hz] at *
      omega
    · rw [hr, if_neg hz] at *
      rw [UInt32.le_iff_toNat_le] at hle
      omega
  show collect snapshot (previousIndex snapshot.nextIndex)
    (if requested ≤ snapshot.count then requested else snapshot.count).toNat = _
  have hw : readLimit l ≤ 64 := by
    unfold readLimit
    split_ifs <;> omega
  rw [hrt, h.collect_eq (by omega), List.take_eq_take_iff, List.length_reverse]
  omega

theorem append_represents {f : CopyFiles} (h : Represents (loadSnapshot f).1 log)
    (hr : log.length + 1 < 4294967296) (r : PersistentFaultRecord) (o : WriteOutcome) :
    Represents (loadSnapshot (append f r o).1).1 (log ++ if o = .complete then [r] else []) := by
  have hnw (t : Snapshot) (ht : (format.select f).1 = some t) :
      format.generation t < format.generation ((loadSnapshot f).1.push r) := by
    have hl : (loadSnapshot f).1 = t := by simp [loadSnapshot, ht]
    rw [UInt32.lt_iff_toNat_lt]
    show t.generation.toNat < ((loadSnapshot f).1.push r).generation.toNat
    rw [(h.push hr r).generation, ← hl, h.generation, List.length_append]
    exact Nat.lt_succ_self _
  have hs := format.select_store f hnw o
  have hl : (loadSnapshot (append f r o).1).1 =
      if o = .complete then (loadSnapshot f).1.push r else (loadSnapshot f).1 := by
    show (format.select (format.store f (format.select f).2.target
      ((loadSnapshot f).1.push r) o)).1.getD {} = _
    rw [hs]
    split_ifs <;> rfl
  rw [hl]
  split_ifs with hc
  · exact h.push hr r
  · rwa [List.append_nil]

def completed : FaultStoreInput → List PersistentFaultRecord
  | .append record .complete => [record]
  | _ => []

def isAppend : FaultStoreInput → Bool
  | .append .. => true
  | .reopen => false

variable (is : List FaultStoreInput)

theorem run_represents (f : CopyFiles) (log : List PersistentFaultRecord)
    (h : Represents (loadSnapshot f).1 log) (hr : log.length + is.countP isAppend < 4294967296) :
    Represents (loadSnapshot (faultStore.run f is)).1 (log ++ is.flatMap completed) := by
  induction is generalizing f log with
  | nil => simpa using h
  | cons i _ ih =>
    rw [List.flatMap_cons, ← List.append_assoc]
    cases i with
    | reopen => exact ih f _ (by simpa [completed] using h) (by simpa [completed, isAppend] using hr)
    | append r o =>
      rw [List.countP_cons_of_pos (by rfl)] at hr
      have hc : completed (.append r o) = if o = .complete then [r] else [] := by
        cases o <;> rfl
      refine ih _ _ ?_ ?_
      · rw [hc]
        exact append_represents h (by omega) r o
      · rw [hc, List.length_append]
        split_ifs <;> simp <;> omega

theorem length_completed_le : (is.flatMap completed).length ≤ is.countP isAppend := by
  induction is with
  | nil => exact Nat.le_refl 0
  | cons i =>
    rw [List.flatMap_cons, List.length_append, List.countP_cons]
    have hone : (completed i).length ≤ if isAppend i then 1 else 0 := by
      rcases i with ⟨r, o⟩ | _
      · cases o <;> simp [completed, isAppend]
      · decide
    omega

/-- Whatever writes are cut short and whenever the store is opened again, the reader gets the latest
of the appends that were completed, newest first; an append that was not completed leaves every
answer as it was. -/
theorem readLatest_completed (is : List FaultStoreInput) (hroom : is.countP isAppend < 4294967295)
    (limit : UInt32) :
    (readLatest (faultStore.run {} is) limit).2 = (is.flatMap completed).reverse.take (readLimit limit) ∧
      ∀ record outcome, outcome ≠ .complete →
        (readLatest (append (faultStore.run {} is) record outcome).1 limit).2 =
          (readLatest (faultStore.run {} is) limit).2 := by
  have hrun : Represents (loadSnapshot (faultStore.run {} is)).1 (is.flatMap completed) :=
    run_represents is {} [] represents_empty (by simp; omega)
  refine ⟨hrun.readLatest_eq limit, fun record outcome hcut => ?_⟩
  have hlength := length_completed_le is
  have happend := append_represents hrun (by omega) record outcome
  rw [if_neg hcut, List.append_nil] at happend
  rw [happend.readLatest_eq, hrun.readLatest_eq]

/-- A second append that stops after a hundred bytes leaves the first record readable. -/
theorem readLatest_after_torn_append :
    (readLatest (faultStore.run {} [.append { detail := 5 } .complete, .append { detail := 7 } (.torn 100),
      .reopen]) 0).2 = [{ detail := 5 }] :=
  (readLatest_completed [.append { detail := 5 } .complete, .append { detail := 7 } (.torn 100), .reopen]
    (by decide) 0).1

end PersistentFaultStore

end ObcFlight
