import Mathlib.Data.List.Range
import ObcFlight.Machine

/-!
# Housekeeping trend products

Samples are numbered, queued and sent in chunks. How many samples the next chunk takes is cached and
is computed again whenever the queue changes; it should be when the target size changes.
-/

namespace ObcFlight

inductive HkTrendProductStatus where
  | ok
  | notConfigured
  | sourceUnavailable
  | dpPortsNotConnected
  | dpBufferUnavailable
  | serializeError
  | backlogFull
  deriving DecidableEq

inductive HkTrendFlushReason where
  | sizeThreshold
  | manualFlush
  | thresholdChange
  deriving DecidableEq

/-- Serialized sizes, and what a packet adds to its data. -/
structure HkTrendSizes where
  dpId : ℕ
  sizeStore : ℕ
  record : ℕ
  chunkMeta : ℕ
  packet : ℕ
  record_pos : 0 < record

structure HkTrendRecord (σ : Type*) where
  sequence : ℕ
  snapshot : σ
  deriving DecidableEq

structure HkTrendChunkMeta where
  chunkSequence : ℕ
  firstSampleSequence : ℕ
  lastSampleSequence : ℕ
  sampleCount : ℕ
  targetFileBytes : ℕ
  flushReason : HkTrendFlushReason
  deriving DecidableEq

structure HkTrendChunk (σ : Type*) where
  info : HkTrendChunkMeta
  samples : List (HkTrendRecord σ)
  deriving DecidableEq

namespace HkTrendSizes

def defaultTargetFileBytes : ℕ := 8192

def maxTargetFileBytes : ℕ := 10240

def maxPendingChunks : ℕ := 2

variable (z : HkTrendSizes)

def computePendingDataSize (sampleCount : ℕ) : ℕ :=
  if sampleCount = 0 then 0
  else z.dpId + z.sizeStore + sampleCount * z.record + z.dpId + z.chunkMeta

def computePendingPacketSize (sampleCount : ℕ) : ℕ :=
  if sampleCount = 0 then 0 else z.packet + z.computePendingDataSize sampleCount

/-- The loop that adds samples while the packet stays within the target. -/
def countFitting (target : ℕ) : ℕ → ℕ → ℕ
  | 0, sampleCount => sampleCount
  | left + 1, sampleCount =>
    if target < z.computePendingPacketSize (sampleCount + 1) then sampleCount
    else countFitting target left (sampleCount + 1)

/-- A sample has at least one byte, so that the loop has ended after so many rounds. -/
def computeMaxPendingSampleCount : ℕ :=
  let maxChunkSampleCount := z.countFitting maxTargetFileBytes (maxTargetFileBytes + 1) 0
  if 0 < maxChunkSampleCount then maxChunkSampleCount * maxPendingChunks else 1

def normalizeTargetFileBytes (requested : ℕ) : ℕ :=
  if requested < z.computePendingPacketSize 1 then z.computePendingPacketSize 1
  else if maxTargetFileBytes < requested then maxTargetFileBytes
  else requested

/-- The packet of a chunk: the metadata and the samples, each after its identifier. -/
def packetSize {σ : Type*} (c : HkTrendChunk σ) : ℕ :=
  z.packet + (z.dpId + z.chunkMeta + (z.dpId + z.sizeStore + c.samples.length * z.record))

variable {z}

theorem countFitting_le (target left n : ℕ) : z.countFitting target left n ≤ n + left := by
  induction left generalizing n with
  | zero => exact le_rfl
  | succ _ ih =>
    rw [countFitting]
    split
    · omega
    · have h := ih (n + 1)
      omega

theorem packetSize_countFitting {target n : ℕ} (hn : z.computePendingPacketSize n ≤ target) (left : ℕ) :
    z.computePendingPacketSize (z.countFitting target left n) ≤ target := by
  induction left generalizing n with
  | zero => exact hn
  | succ _ ih =>
    rw [countFitting]
    split
    next => exact hn
    next hm => exact ih (not_lt.mp hm)

end HkTrendSizes

/-- The cached chunk is part of the queue. -/
structure HkTrendProductProducer (σ : Type*) where
  source : Bool
  targetFileBytes : ℕ
  nextSampleSequence : ℕ := 0
  nextChunkSequence : ℕ := 0
  pendingSamples : List (HkTrendRecord σ) := []
  pendingChunkSampleCount : ℕ := 0
  cached : pendingChunkSampleCount ≤ pendingSamples.length := by simp

/-- How the product ports and a buffer answer during a call. -/
structure HkTrendPorts where
  connected : Bool
  buffer : Bool
  serialized : Bool

inductive HkTrendInput (σ : Type*) where
  | captureNow (snapshot : Option σ) (ports : HkTrendPorts)
  | flush (ports : HkTrendPorts)
  | parameterUpdated (targetFileBytes : Option ℕ) (ports : HkTrendPorts)

inductive HkTrendEvent (σ : Type*) where
  | sent (c : HkTrendChunk σ)
  | rejected (sequence : ℕ)
  deriving DecidableEq

namespace HkTrendProductProducer

open HkTrendSizes

variable {σ : Type*} (z : HkTrendSizes)

def recomputePendingChunkSampleCount (p : HkTrendProductProducer σ) : HkTrendProductProducer σ :=
  { p with
    pendingChunkSampleCount := z.countFitting p.targetFileBytes p.pendingSamples.length 0
    cached := le_of_le_of_eq (countFitting_le _ _ 0) (Nat.zero_add _) }

def configureRuntime (source : Bool) (targetFileBytes : ℕ) : HkTrendProductProducer σ where
  source := source
  targetFileBytes := z.normalizeTargetFileBytes targetFileBytes

def sequenceAt (samples : List (HkTrendRecord σ)) (i : ℕ) : ℕ :=
  samples[i]?.elim 0 HkTrendRecord.sequence

def pendingChunk (reason : HkTrendFlushReason) (p : HkTrendProductProducer σ) : HkTrendChunk σ where
  info :=
    { chunkSequence := p.nextChunkSequence
      firstSampleSequence := sequenceAt p.pendingSamples 0
      lastSampleSequence := sequenceAt p.pendingSamples (p.pendingChunkSampleCount - 1)
      sampleCount := p.pendingChunkSampleCount
      targetFileBytes := p.targetFileBytes
      flushReason := reason }
  samples := p.pendingSamples.take p.pendingChunkSampleCount

def flushPending (reason : HkTrendFlushReason) (ports : HkTrendPorts) (p : HkTrendProductProducer σ) :
    HkTrendProductStatus × HkTrendProductProducer σ × List (HkTrendEvent σ) :=
  if p.pendingChunkSampleCount = 0 then (.ok, p, [])
  else if !ports.connected then (.dpPortsNotConnected, p, [])
  else if !ports.buffer then (.dpBufferUnavailable, p, [])
  else if !ports.serialized then (.serializeError, p, [])
  else
    (.ok, recomputePendingChunkSampleCount z
      { source := p.source
        targetFileBytes := p.targetFileBytes
        nextSampleSequence := p.nextSampleSequence
        nextChunkSequence := p.nextChunkSequence + 1
        pendingSamples := p.pendingSamples.drop p.pendingChunkSampleCount },
      [.sent (p.pendingChunk reason)])

def retainPendingSample (record : HkTrendRecord σ) (p : HkTrendProductProducer σ) :
    HkTrendProductStatus × HkTrendProductProducer σ × List (HkTrendEvent σ) :=
  if z.computeMaxPendingSampleCount ≤ p.pendingSamples.length then
    (.backlogFull, { p with nextSampleSequence := p.nextSampleSequence + 1 },
      [.rejected record.sequence])
  else
    (.ok, recomputePendingChunkSampleCount z
      { source := p.source
        targetFileBytes := p.targetFileBytes
        nextSampleSequence := p.nextSampleSequence + 1
        nextChunkSequence := p.nextChunkSequence
        pendingSamples := p.pendingSamples ++ [record] }, [])

def captureNow (snapshot : Option σ) (ports : HkTrendPorts) (p : HkTrendProductProducer σ) :
    HkTrendProductStatus × HkTrendProductProducer σ × List (HkTrendEvent σ) :=
  if !p.source then (.notConfigured, p, [])
  else match snapshot with
    | none => (.sourceUnavailable, p, [])
    | some snapshot =>
      if !ports.connected then (.dpPortsNotConnected, p, [])
      else
        let record := ⟨p.nextSampleSequence, snapshot⟩
        if p.pendingChunkSampleCount < p.pendingSamples.length ∨ 0 < p.pendingChunkSampleCount ∧
            p.targetFileBytes < z.computePendingPacketSize (p.pendingChunkSampleCount + 1) then
          let flushed := p.flushPending z .sizeThreshold ports
          let retained := flushed.2.1.retainPendingSample z record
          (if flushed.1 ≠ .ok ∧ retained.1 = .ok then flushed.1 else retained.1, retained.2.1,
            flushed.2.2 ++ retained.2.2)
        else p.retainPendingSample z record

def retarget (targetFileBytes : ℕ) (p : HkTrendProductProducer σ) : HkTrendProductProducer σ :=
  { p with targetFileBytes }

/-- An invalid parameter puts the default in force and leaves the cached count. -/
def parameterUpdated (targetFileBytes : Option ℕ) (ports : HkTrendPorts)
    (p : HkTrendProductProducer σ) : HkTrendProductProducer σ × List (HkTrendEvent σ) :=
  match targetFileBytes with
  | none => (p.retarget defaultTargetFileBytes, [])
  | some requested =>
    let p := p.retarget (z.normalizeTargetFileBytes requested)
    if 0 < p.pendingChunkSampleCount ∧
        p.targetFileBytes < z.computePendingPacketSize p.pendingChunkSampleCount then
      (p.flushPending z .thresholdChange ports).2
    else (p.recomputePendingChunkSampleCount z, [])

def machine (σ : Type*) : Machine (HkTrendProductProducer σ) (HkTrendInput σ) (HkTrendEvent σ) where
  step p
    | .captureNow snapshot ports => (p.captureNow z snapshot ports).2
    | .flush ports => (p.flushPending z .manualFlush ports).2
    | .parameterUpdated targetFileBytes ports => p.parameterUpdated z targetFileBytes ports

section History

variable (events : List (HkTrendEvent σ))

def sent : List (HkTrendChunk σ) :=
  events.filterMap fun
    | .sent c => some c
    | .rejected _ => none

def rejected : List ℕ :=
  events.filterMap fun
    | .sent _ => none
    | .rejected n => some n

end History

/-- The metadata of a chunk describe its samples. -/
def Described (c : HkTrendChunk σ) : Prop :=
  c.info.sampleCount = c.samples.length ∧
    c.samples.head?.map HkTrendRecord.sequence = some c.info.firstSampleSequence ∧
    c.samples.getLast?.map HkTrendRecord.sequence = some c.info.lastSampleSequence

/-- The samples sent and then those pending are the numbers issued and not rejected, in order. -/
structure Conserved (es : List (HkTrendEvent σ)) (p : HkTrendProductProducer σ) : Prop where
  kept : ((sent es).flatMap HkTrendChunk.samples ++ p.pendingSamples).map HkTrendRecord.sequence =
    (List.range p.nextSampleSequence).filter (· ∉ rejected es)
  issued : ∀ n ∈ rejected es, n < p.nextSampleSequence
  once : (rejected es).Nodup
  bounded : p.pendingSamples.length ≤ z.computeMaxPendingSampleCount
  described : ∀ c ∈ sent es, Described c

variable {z} {es : List (HkTrendEvent σ)} {p : HkTrendProductProducer σ} (r : HkTrendFlushReason)

theorem described_pendingChunk (hp : p.pendingChunkSampleCount ≠ 0) :
    Described (p.pendingChunk r) := by
  have hc := p.cached
  have hl : (p.pendingChunk r).samples.length = p.pendingChunkSampleCount := by
    rw [pendingChunk, List.length_take]
    omega
  have hat : ∀ i, i < p.pendingChunkSampleCount → (p.pendingChunk r).samples[i]?.map
      HkTrendRecord.sequence = some (sequenceAt p.pendingSamples i) := by
    intro i hi
    rw [pendingChunk, List.getElem?_take_of_lt hi, sequenceAt, List.getElem?_eq_getElem (by omega)]
    rfl
  refine ⟨hl.symm, ?_, ?_⟩
  · rw [List.head?_eq_getElem?]
    exact hat 0 (by omega)
  · rw [List.getLast?_eq_getElem?, hl]
    exact hat _ (by omega)

theorem Conserved.flushPending (hc : Conserved z es p) (r : HkTrendFlushReason) (ports : HkTrendPorts) :
    Conserved z (es ++ (p.flushPending z r ports).2.2) (p.flushPending z r ports).2.1 := by
  unfold HkTrendProductProducer.flushPending
  split_ifs with h0
  · rwa [List.append_nil]
  · rwa [List.append_nil]
  · rwa [List.append_nil]
  · rwa [List.append_nil]
  · have hs : sent (es ++ [.sent (p.pendingChunk r)]) = sent es ++ [p.pendingChunk r] :=
      List.filterMap_append
    have hr : rejected (es ++ [.sent (p.pendingChunk r)]) = rejected es :=
      List.filterMap_append.trans (List.append_nil _)
    constructor
    · rw [hs, hr, List.flatMap_append, List.append_assoc]
      simpa [recomputePendingChunkSampleCount, pendingChunk] using hc.kept
    · rw [hr]
      exact hc.issued
    · rw [hr]
      exact hc.once
    · exact le_trans (by simp [recomputePendingChunkSampleCount]) hc.bounded
    · rw [hs]
      intro c hm
      rcases List.mem_append.mp hm with hm | hm
      · exact hc.described c hm
      · rw [List.mem_singleton.mp hm]
        exact described_pendingChunk r h0

theorem flushPending_nextSampleSequence (ports : HkTrendPorts) :
    (p.flushPending z r ports).2.1.nextSampleSequence = p.nextSampleSequence := by
  unfold HkTrendProductProducer.flushPending
  split_ifs <;> rfl

theorem Conserved.retainPendingSample (hc : Conserved z es p) (x : σ) :
    Conserved z (es ++ (p.retainPendingSample z ⟨p.nextSampleSequence, x⟩).2.2)
      (p.retainPendingSample z ⟨p.nextSampleSequence, x⟩).2.1 := by
  have hn : p.nextSampleSequence ∉ rejected es := fun hm => absurd (hc.issued _ hm) (lt_irrefl _)
  unfold HkTrendProductProducer.retainPendingSample
  split
  next =>
    have hr : rejected (es ++ [.rejected p.nextSampleSequence]) =
        rejected es ++ [p.nextSampleSequence] := List.filterMap_append
    have hs : sent (es ++ [.rejected p.nextSampleSequence]) = sent es :=
      List.filterMap_append.trans (List.append_nil _)
    constructor
    · rw [hs, hr, hc.kept, List.range_succ, List.filter_append]
      simp only [List.mem_append, List.mem_singleton, not_or]
      rw [List.filter_cons_of_neg (by simp), List.filter_nil, List.append_nil]
      refine List.filter_congr fun n hm => ?_
      simp [(List.mem_range.mp hm).ne]
    · intro n hm
      rw [hr, List.mem_append, List.mem_singleton] at hm
      exact hm.elim (fun hm => Nat.lt_succ_of_lt (hc.issued n hm)) fun hm => hm ▸ Nat.lt_succ_self _
    · rw [hr, List.nodup_append]
      refine ⟨hc.once, List.pairwise_singleton _ _, fun n hm m hm' => ?_⟩
      rw [List.mem_singleton.mp hm']
      exact (hc.issued n hm).ne
    · exact hc.bounded
    · rw [hs]
      exact hc.described
  next hb =>
    rw [List.append_nil]
    refine { hc with kept := ?_, issued := fun n hm => Nat.lt_succ_of_lt (hc.issued n hm), bounded := ?_ }
    · change (_ ++ (p.pendingSamples ++ [_])).map _ = (List.range (p.nextSampleSequence + 1)).filter _
      rw [← List.append_assoc, List.map_append, hc.kept, List.range_succ, List.filter_append,
        List.filter_cons_of_pos (by simpa using hn)]
      rfl
    · change (p.pendingSamples ++ [_]).length ≤ _
      rw [List.length_append, List.length_singleton]
      omega

protected theorem Conserved.step (hc : Conserved z es p) (i : HkTrendInput σ) :
    Conserved z (es ++ ((machine z σ).step p i).2) ((machine z σ).step p i).1 := by
  cases i with
  | flush ports => exact hc.flushPending .manualFlush ports
  | parameterUpdated v ports =>
    cases v with
    | none =>
      change Conserved z (es ++ []) _
      rw [List.append_nil]
      exact { hc with }
    | some v =>
      have hv : Conserved z es (p.retarget (z.normalizeTargetFileBytes v)) := { hc with }
      simp only [machine, parameterUpdated]
      split
      · exact hv.flushPending .thresholdChange ports
      · rw [List.append_nil]
        exact { hv with }
  | captureNow snapshot ports =>
    simp only [machine, captureNow]
    split
    · rwa [List.append_nil]
    · cases snapshot with
      | none => rwa [List.append_nil]
      | some x =>
        dsimp only
        split
        · rwa [List.append_nil]
        · split
          · have hf := (hc.flushPending .sizeThreshold ports).retainPendingSample x
            rw [flushPending_nextSampleSequence, List.append_assoc] at hf
            exact hf
          · exact hc.retainPendingSample x

protected theorem Conserved.run (b : Bool) (n : ℕ) (inputs : List (HkTrendInput σ)) :
    Conserved z ((machine z σ).trace (configureRuntime z b n) inputs)
      ((machine z σ).run (configureRuntime z b n) inputs) := by
  have hi : Conserved z [] (configureRuntime z b n : HkTrendProductProducer σ) :=
    ⟨rfl, nofun, List.nodup_nil, Nat.zero_le _, nofun⟩
  have hr := (machine z σ).history_invariant (I := Conserved z) (fun _ _ i hc => hc.step i) [] _ hi inputs
  rwa [List.nil_append] at hr

/-- The cached chunk is within the target. -/
def Fits (z : HkTrendSizes) (p : HkTrendProductProducer σ) : Prop :=
  z.computePendingPacketSize p.pendingChunkSampleCount ≤ p.targetFileBytes

theorem packetSize_pendingChunk (hp : p.pendingChunkSampleCount ≠ 0) :
    z.packetSize (p.pendingChunk r) = z.computePendingPacketSize p.pendingChunkSampleCount := by
  have hl := (described_pendingChunk r hp).1
  rw [packetSize, ← hl, computePendingPacketSize, if_neg hp, computePendingDataSize, if_neg hp]
  simp only [pendingChunk]
  omega

theorem mem_sent_flushPending {r : HkTrendFlushReason} {ports : HkTrendPorts} {c : HkTrendChunk σ}
    (hm : c ∈ sent (p.flushPending z r ports).2.2) :
    p.pendingChunkSampleCount ≠ 0 ∧ c = p.pendingChunk r := by
  unfold HkTrendProductProducer.flushPending at hm
  split_ifs at hm with h0
  · cases hm
  · cases hm
  · cases hm
  · cases hm
  · exact ⟨h0, List.mem_singleton.mp hm⟩

theorem sent_retainPendingSample (x : HkTrendRecord σ) :
    sent (p.retainPendingSample z x).2.2 = [] := by
  unfold HkTrendProductProducer.retainPendingSample
  split <;> rfl

theorem mem_sent_step {i : HkTrendInput σ} {c : HkTrendChunk σ}
    (hm : c ∈ sent ((machine z σ).step p i).2) (hr : c.info.flushReason ≠ .thresholdChange) :
    p.pendingChunkSampleCount ≠ 0 ∧ ∃ r, c = p.pendingChunk r := by
  cases i with
  | flush => exact (mem_sent_flushPending hm).imp_right fun hc => ⟨_, hc⟩
  | parameterUpdated v =>
    cases v with
    | none => cases hm
    | some =>
      simp only [machine, parameterUpdated] at hm
      split at hm
      · exact absurd (by rw [(mem_sent_flushPending hm).2]; rfl) hr
      · cases hm
  | captureNow snapshot =>
    simp only [machine, captureNow] at hm
    split at hm
    · cases hm
    · cases snapshot with
      | none => cases hm
      | some =>
        dsimp only at hm
        split at hm
        · cases hm
        · split at hm
          · rw [sent, List.filterMap_append] at hm
            change c ∈ sent _ ++ sent _ at hm
            rw [sent_retainPendingSample, List.append_nil] at hm
            exact (mem_sent_flushPending hm).imp_right fun hc => ⟨_, hc⟩
          · rw [sent_retainPendingSample] at hm
            cases hm

theorem packetSize_le_of_fits {i : HkTrendInput σ} (hf : Fits z p) {c : HkTrendChunk σ}
    (hm : c ∈ sent ((machine z σ).step p i).2) (hr : c.info.flushReason ≠ .thresholdChange) :
    z.packetSize c ≤ c.info.targetFileBytes := by
  obtain ⟨h0, r, rfl⟩ := mem_sent_step hm hr
  rw [packetSize_pendingChunk r h0]
  exact hf

theorem fits_of_manual_flush (hf : ∀ c ∈ sent ((machine z σ).step p (.flush ⟨true, true, true⟩)).2,
    c.info.flushReason ≠ .thresholdChange → z.packetSize c ≤ c.info.targetFileBytes) : Fits z p := by
  by_cases h0 : p.pendingChunkSampleCount = 0
  · rw [Fits, h0]
    exact Nat.zero_le _
  · have hm : p.pendingChunk .manualFlush ∈ sent ((machine z σ).step p (.flush ⟨true, true, true⟩)).2 := by
      simp [machine, HkTrendProductProducer.flushPending, h0, sent]
    have hs := hf _ hm (by simp [pendingChunk])
    rwa [packetSize_pendingChunk _ h0] at hs

theorem fits_recompute (p : HkTrendProductProducer σ) : Fits z (p.recomputePendingChunkSampleCount z) :=
  packetSize_countFitting (Nat.zero_le _) _

/-- A flush that fails leaves the cached count and the target as they are. -/
theorem fits_flushPending_iff (ports : HkTrendPorts) :
    Fits z (p.flushPending z r ports).2.1 ↔
      Fits z p ∨ (ports.connected && ports.buffer && ports.serialized) = true := by
  unfold HkTrendProductProducer.flushPending
  split_ifs with h0 hc hb hs
  · have hp : Fits z p := by
      rw [Fits, h0]
      exact Nat.zero_le _
    exact iff_of_true hp (.inl hp)
  · simp [show ports.connected = false by simpa using hc]
  · simp [show ports.buffer = false by simpa using hb]
  · simp [show ports.serialized = false by simpa using hs]
  · refine iff_of_true (fits_recompute _) (.inr ?_)
    simp only [Bool.not_eq_true', Bool.not_eq_false] at hc hb hs
    rw [hc, hb, hs]
    rfl

theorem Fits.retainPendingSample (hf : Fits z p) (x : HkTrendRecord σ) :
    Fits z (p.retainPendingSample z x).2.1 := by
  unfold HkTrendProductProducer.retainPendingSample
  split
  · exact hf
  · exact fits_recompute _

theorem Fits.captureNow (hf : Fits z p) (snapshot : Option σ) (ports : HkTrendPorts) :
    Fits z (p.captureNow z snapshot ports).2.1 := by
  unfold HkTrendProductProducer.captureNow
  split
  · exact hf
  · cases snapshot with
    | none => exact hf
    | some =>
      dsimp only
      split
      · exact hf
      · split
        · exact ((fits_flushPending_iff .sizeThreshold ports).mpr (.inl hf)).retainPendingSample _
        · exact hf.retainPendingSample _

/-- An invalid parameter comes while the cached packet is within the default, and the flush that a
smaller target asks for succeeds. -/
def Steady (z : HkTrendSizes) (p : HkTrendProductProducer σ) : HkTrendInput σ → Prop
  | .parameterUpdated none _ =>
    z.computePendingPacketSize p.pendingChunkSampleCount ≤ defaultTargetFileBytes
  | .parameterUpdated (some requested) ports =>
    z.normalizeTargetFileBytes requested < z.computePendingPacketSize p.pendingChunkSampleCount →
      (ports.connected && ports.buffer && ports.serialized) = true
  | _ => True

theorem fits_step_iff (hf : Fits z p) (i : HkTrendInput σ) :
    Fits z ((machine z σ).step p i).1 ↔ Steady z p i := by
  cases i with
  | captureNow snapshot ports => exact iff_of_true (hf.captureNow snapshot ports) trivial
  | flush ports => exact iff_of_true ((fits_flushPending_iff _ ports).mpr (.inl hf)) trivial
  | parameterUpdated v =>
    cases v with
    | none => exact Iff.rfl
    | some v =>
      simp only [machine, parameterUpdated]
      split
      next hlt =>
        -- The old count does not fit the new target, so only the flush can help.
        have hn : ¬ Fits z (p.retarget (z.normalizeTargetFileBytes v)) := not_le.mpr hlt.2
        rw [fits_flushPending_iff, or_iff_right hn]
        exact ⟨fun hok _ => hok, fun hs => hs hlt.2⟩
      next hle =>
        refine iff_of_true (fits_recompute _) fun hlt => absurd ⟨?_, hlt⟩ hle
        refine Nat.pos_of_ne_zero fun h0 => ?_
        rw [show p.pendingChunkSampleCount = 0 from h0] at hlt
        exact absurd hlt (Nat.not_lt_zero _)

/-- The samples are conserved in every run. A state can send a chunk beyond its target exactly when
the cached chunk does not fit, a state comes to that exactly at a step that is not steady, and so in
a run of steady steps every chunk is within the target it names. -/
theorem trend_samples_conserved_iff (z : HkTrendSizes) (σ : Type) :
    (∀ (source : Bool) (target : ℕ) (inputs : List (HkTrendInput σ)),
      Conserved z ((machine z σ).trace (configureRuntime z source target) inputs)
        ((machine z σ).run (configureRuntime z source target) inputs)) ∧
    (∀ p : HkTrendProductProducer σ, (∀ i, ∀ c ∈ sent ((machine z σ).step p i).2,
      c.info.flushReason ≠ .thresholdChange → z.packetSize c ≤ c.info.targetFileBytes) ↔ Fits z p) ∧
    (∀ (p : HkTrendProductProducer σ) (i : HkTrendInput σ), Fits z p →
      (Fits z ((machine z σ).step p i).1 ↔ Steady z p i)) ∧
    ∀ (source : Bool) (target : ℕ) (inputs : List (HkTrendInput σ)),
      (machine z σ).Admits (Steady z) (configureRuntime z source target) inputs →
      ∀ c ∈ sent ((machine z σ).trace (configureRuntime z source target) inputs),
        c.info.flushReason ≠ .thresholdChange → z.packetSize c ≤ c.info.targetFileBytes := by
  refine ⟨Conserved.run, fun p => ⟨fun hf => fits_of_manual_flush (hf _), fun hf i c => packetSize_le_of_fits hf⟩,
    fun p i hf => fits_step_iff hf i, fun source target inputs ha c hm hr => ?_⟩
  have hfits : (machine z σ).Admits (fun p _ => Fits z p) (configureRuntime z source target) inputs :=
    ha.invariant _ (fun p i hs hf => (fits_step_iff hf i).mpr hs) (Nat.zero_le _)
  obtain ⟨e, he, hc⟩ := List.mem_filterMap.mp hm
  obtain ⟨before, i, after, rfl, hi⟩ := (machine z σ).exists_of_mem_trace he
  exact packetSize_le_of_fits hfits.after.1 (List.mem_filterMap.mpr ⟨e, hi, hc⟩) hr

/-- The sizes of the records of this program. -/
def trendSizes : HkTrendSizes := ⟨4, 2, 400, 23, 75, by decide⟩

def trendRun : List (HkTrendInput Unit) :=
  let ports : HkTrendPorts := ⟨true, true, true⟩
  [.captureNow (some ()) ports, .captureNow (some ()) ports, .parameterUpdated none ports,
    .flush ⟨true, false, true⟩, .parameterUpdated (some 600) ports, .captureNow (some ()) ports, .flush ports]

theorem trend_run_within_target :
    let init : HkTrendProductProducer Unit := configureRuntime trendSizes true 10240
    let chunks := sent ((machine trendSizes Unit).trace init trendRun)
    (machine trendSizes Unit).Admits (Steady trendSizes) init trendRun ∧
      chunks.map (fun c => (c.info.flushReason, c.info.targetFileBytes, trendSizes.packetSize c)) =
        [(.thresholdChange, 600, 908), (.manualFlush, 600, 508)] ∧
      ∀ c ∈ chunks, c.info.flushReason ≠ .thresholdChange → trendSizes.packetSize c ≤ c.info.targetFileBytes := by
  intro init chunks
  have hsteady : (machine trendSizes Unit).Admits (Steady trendSizes) init trendRun :=
    ⟨trivial, trivial, by unfold Steady; decide, trivial, fun _ => rfl, trivial, trivial, trivial⟩
  exact ⟨hsteady, by decide, (trend_samples_conserved_iff trendSizes Unit).2.2.2 true 10240 trendRun hsteady⟩

/-- The samples cached for the largest target are sent after the parameter has become invalid. -/
theorem chunk_exceeds_default_target :
    (sent ((machine trendSizes Unit).trace (configureRuntime trendSizes true 10240)
      (List.replicate 21 (.captureNow (some ()) ⟨true, true, true⟩) ++
        [.parameterUpdated none ⟨true, true, true⟩, .flush ⟨true, true, true⟩]))).map
      (fun c => (c.info.flushReason, c.info.targetFileBytes, trendSizes.packetSize c)) =
      [(.manualFlush, 8192, 8508)] := by
  decide

end HkTrendProductProducer

end ObcFlight
