import ObcFlight.PayloadOpsController
import Mathlib.Tactic

/-!
# Starting a publication

An artifact is cut into slices of one container each, and a publication starts by sending the
first of them. Whether it starts depends on the file, on the sizes and on how ports, buffers and
the manifest answer in this call; here these conditions are collected, and what a call does when
they hold.
-/

namespace ObcFlight

namespace PayloadOpsController

open PayloadPaths

/-! ### Slices -/

variable {maxBytes : ℕ}

theorem sum_chunkBytes (size : ℕ) (n : ℕ) :
    ((List.range n).map fun i => chunkBytes size maxBytes (i * maxBytes)).sum = min (n * maxBytes) size := by
  induction n with
  | zero => simp
  | succ _ ih =>
    rw [List.range_succ, List.map_append, List.sum_append, ih, List.map_singleton, List.sum_singleton, chunkBytes,
      Nat.succ_mul]
    omega

theorem le_sliceCount_mul (size : ℕ) (h : maxBytes ≠ 0) :
    size ≤ sliceCount size maxBytes * maxBytes := by
  have := Nat.lt_div_mul_add (a := size + maxBytes - 1) (Nat.pos_of_ne_zero h)
  unfold sliceCount
  omega

theorem sum_containerDataSize (s : DataProductSizes) (size : ℕ) (h : maxBytes ≠ 0) :
    ((List.range (sliceCount size maxBytes)).map fun i =>
        containerDataSize s (chunkBytes size maxBytes (i * maxBytes))).sum =
      sliceCount size maxBytes * (s.headerRecord + s.recordOverhead) + size := by
  have hs : ∀ n : ℕ, ((List.range n).map fun i =>
        containerDataSize s (chunkBytes size maxBytes (i * maxBytes))).sum =
      n * (s.headerRecord + s.recordOverhead) +
        ((List.range n).map fun i => chunkBytes size maxBytes (i * maxBytes)).sum := by
    intro n
    induction n with
    | zero => simp
    | succ _ ih =>
      rw [List.range_succ, List.map_append, List.sum_append, ih, List.map_append, List.sum_append, List.map_singleton,
        List.map_singleton, List.sum_singleton, List.sum_singleton, containerDataSize, Nat.succ_mul]
      omega
  rw [hs, sum_chunkBytes, Nat.min_eq_right (le_sliceCount_mul size h)]

theorem containerDataSize_le {s : DataProductSizes} (h : maxPayloadArtifactBytesPerDataProduct s ≠ 0)
    (size o : ℕ) :
    containerDataSize s (chunkBytes size (maxPayloadArtifactBytesPerDataProduct s) o) ≤ s.container := by
  unfold maxPayloadArtifactBytesPerDataProduct containerDataSize chunkBytes at *
  split_ifs at h ⊢
  · exact absurd rfl h
  · omega

/-! ### What can be published -/

/-- The record of a publication, made from the record of the capture. -/
def publishedMetadata (around : PayloadSurroundings) (sourceMetadata : PayloadCaptureMetadata)
    (artifactKind : PayloadArtifactKind) (size : ℕ) (c : PayloadOpsController) : PayloadCaptureMetadata :=
  withDataProductPath artifactKind (c.dataProductPath around.time 0)
    { withArtifactSize artifactKind size sourceMetadata with lastPublishedArtifactKind := artifactKind }

def plannedPaths (around : PayloadSurroundings) (size : ℕ) (c : PayloadOpsController) : List Bytes :=
  (List.range (sliceCount size (maxPayloadArtifactBytesPerDataProduct c.sizes))).map fun i =>
    joinPath c.runtimeRoot (c.dataProductPath around.time (UInt32.ofNat i))

/-- The artifact is there, can be read and fits into the data products. -/
structure ArtifactReady (around : PayloadSurroundings) (sourceMetadata : PayloadCaptureMetadata)
    (artifactKind : PayloadArtifactKind) (bytes : Bytes) (c : PayloadOpsController) : Prop where
  notFullRaw : ¬ (artifactKind = .rawFrame ∧ sourceMetadata.appliedSettings.resolution = .full3280x2464)
  stored : c.files.artifacts (sourceMetadata.relativePath artifactKind) = some bytes
  nonempty : bytes ≠ []
  readable : around.readable = true
  ports : around.portsConnected = true
  room : maxPayloadArtifactBytesPerDataProduct c.sizes ≠ 0
  fits : sliceCount bytes.length (maxPayloadArtifactBytesPerDataProduct c.sizes) *
    (c.sizes.headerRecord + c.sizes.recordOverhead) + bytes.length ≤ c.runtimeConfig.dataProductMaxBytes.toNat

variable {around : PayloadSurroundings} {sourceMetadata : PayloadCaptureMetadata} {artifactKind : PayloadArtifactKind}
  {bytes : Bytes} {c : PayloadOpsController}

theorem withArtifactSize_appliedSettings (artifactKind : PayloadArtifactKind) (size : ℕ) (m : PayloadCaptureMetadata) :
    (withArtifactSize artifactKind size m).appliedSettings = m.appliedSettings := by
  cases artifactKind <;> rfl

theorem planArtifactDataProduct_of_ready (h : c.ArtifactReady around sourceMetadata artifactKind bytes)
    (m : PayloadCaptureMetadata) (hm : m.appliedSettings = sourceMetadata.appliedSettings) :
    c.planArtifactDataProduct around m artifactKind bytes =
      .ok (withDataProductPath artifactKind (c.dataProductPath around.time 0) m, c.plannedPaths around bytes.length) := by
  have hf : ¬ c.runtimeConfig.dataProductMaxBytes.toNat <
      ((List.range (sliceCount bytes.length (maxPayloadArtifactBytesPerDataProduct c.sizes))).map fun i =>
        containerDataSize c.sizes (chunkBytes bytes.length (maxPayloadArtifactBytesPerDataProduct c.sizes)
          (i * maxPayloadArtifactBytesPerDataProduct c.sizes))).sum := by
    rw [sum_containerDataSize c.sizes bytes.length h.room]
    exact Nat.not_lt.mpr h.fits
  have hc : (((List.range (sliceCount bytes.length (maxPayloadArtifactBytesPerDataProduct c.sizes))).map fun i =>
      containerDataSize c.sizes (chunkBytes bytes.length (maxPayloadArtifactBytesPerDataProduct c.sizes)
        (i * maxPayloadArtifactBytesPerDataProduct c.sizes))).any fun size => decide (c.sizes.container < size)) = false := by
    rw [List.any_eq_false]
    intro size hs
    obtain ⟨i, -, rfl⟩ := List.mem_map.mp hs
    simpa using containerDataSize_le h.room bytes.length _
  unfold planArtifactDataProduct
  rw [hm, if_neg (by simp [h.ports]), if_neg h.nonempty, if_neg h.notFullRaw]
  dsimp only
  rw [if_neg h.room, if_neg hf, if_neg (by rw [hc]; exact Bool.false_ne_true)]
  rfl

theorem readyArtifact_of_ready (h : c.ArtifactReady around sourceMetadata artifactKind bytes) :
    c.readyArtifact around sourceMetadata artifactKind =
      .ok (c.publishedMetadata around sourceMetadata artifactKind bytes.length, bytes,
        c.plannedPaths around bytes.length) := by
  have hl : c.loadArtifactBytes around (sourceMetadata.relativePath artifactKind) = .ok bytes := by
    unfold loadArtifactBytes
    have := h.fits
    rw [h.stored]
    dsimp only
    rw [if_neg (by omega), if_neg (by simp [h.readable])]
  have hp := planArtifactDataProduct_of_ready h
    { withArtifactSize artifactKind bytes.length sourceMetadata with lastPublishedArtifactKind := artifactKind }
    (withArtifactSize_appliedSettings artifactKind bytes.length sourceMetadata)
  unfold readyArtifact
  rw [if_neg h.notFullRaw, hl]
  simp only [bind, Except.bind, pure, Except.pure, hp]
  rfl

theorem stored_of_loadArtifactBytes {r : Bytes} (h : c.loadArtifactBytes around r = .ok bytes) :
    c.files.artifacts r = some bytes ∧ around.readable = true := by
  unfold loadArtifactBytes at h
  cases hf : c.files.artifacts r with
  | none =>
    rw [hf] at h
    cases h
  | some =>
    rw [hf] at h
    dsimp only at h
    split_ifs at h with hl hr
    cases h
    exact ⟨rfl, by simpa using hr⟩

theorem ready_of_readyArtifact {x : PayloadCaptureMetadata × Bytes × List Bytes}
    (h : c.readyArtifact around sourceMetadata artifactKind = .ok x) :
    c.ArtifactReady around sourceMetadata artifactKind x.2.1 := by
  unfold readyArtifact at h
  by_cases hf : artifactKind = .rawFrame ∧ sourceMetadata.appliedSettings.resolution = .full3280x2464
  · rw [if_pos hf] at h
    cases h
  rw [if_neg hf] at h
  cases hl : c.loadArtifactBytes around (sourceMetadata.relativePath artifactKind) with
  | error =>
    rw [hl] at h
    cases h
  | ok bytes =>
    obtain ⟨hs, hrd⟩ := stored_of_loadArtifactBytes hl
    rw [hl] at h
    simp only [bind, Except.bind, pure, Except.pure, planArtifactDataProduct, withArtifactSize_appliedSettings, throw,
      throwThe, MonadExceptOf.throw] at h
    split_ifs at h with hp he hr hsum hc
    cases h
    refine ⟨hf, hs, he, hrd, by simpa using hp, hr, ?_⟩
    rw [sum_containerDataSize c.sizes bytes.length hr] at hsum
    exact Nat.not_lt.mp hsum

/-! ### The start -/

/-- The manifest is written to its end, and the first slice gets a buffer and is serialized. -/
structure Publishable (around : PayloadSurroundings) (sourceMetadata : PayloadCaptureMetadata)
    (artifactKind : PayloadArtifactKind) (bytes : Bytes) (c : PayloadOpsController) : Prop
    extends c.ArtifactReady around sourceMetadata artifactKind bytes where
  manifest : around.manifestWrite .starting = .shorter ∨ around.manifestWrite .starting = .complete
  buffer : around.bufferAvailable = true
  serialized : around.serialized = true

def openedPublication (around : PayloadSurroundings) (sourceMetadata : PayloadCaptureMetadata)
    (artifactKind : PayloadArtifactKind) (completionState : PayloadState) (bytes : Bytes) (c : PayloadOpsController) :
    PendingDataProductPublish where
  artifactKind
  timeoutTicksRemaining := c.runtimeConfig.dataProductPublishTimeoutTicks
  expectedPaths := c.plannedPaths around bytes.length
  metadata := c.publishedMetadata around sourceMetadata artifactKind bytes.length
  artifactBytes := bytes
  baseTimeTag := around.time
  completionState

/-- The catalog and the manifest name the record of the publication. -/
def recordPublication (around : PayloadSurroundings) (metadata : PayloadCaptureMetadata) (c : PayloadOpsController) :
    PayloadOpsController :=
  ((c.catalogue metadata).writeCaptureManifest (around.manifestWrite .starting) metadata).1

def openPublication (around : PayloadSurroundings) (p : PendingDataProductPublish) (c : PayloadOpsController) :
    PayloadOpsController :=
  { c.recordPublication around p.metadata with
    pendingDataProductPublish := some p
    lastCaptureMetadata := p.metadata
    lastResult := .none
    lastDetail := PayloadDetail.none
    state := .publishing }

def sentSlice (c : PayloadOpsController) (p : PendingDataProductPublish) : PendingDataProductPublish :=
  { p with
    nextOffset := p.nextOffset +
      chunkBytes p.artifactBytes.length (maxPayloadArtifactBytesPerDataProduct c.sizes) p.nextOffset
    nextSliceIndex := p.nextSliceIndex + 1
    timeoutTicksRemaining := c.runtimeConfig.dataProductPublishTimeoutTicks }

theorem writeCaptureManifest_frame (o : ManifestWrite) (m : PayloadCaptureMetadata)
    (c : PayloadOpsController) :
    ∃ manifests, (c.writeCaptureManifest o m).1 = { c with files := { c.files with manifests } } := by
  cases o with
  | refused => exact ⟨c.files.manifests, rfl⟩
  | torn | shorter | complete => exact ⟨_, rfl⟩

variable {p : PendingDataProductPublish}

theorem publishNext_cases (around : PayloadSurroundings) (hp : c.pendingDataProductPublish = some p)
    (ho : p.nextOffset < p.artifactBytes.length)
    (hr : maxPayloadArtifactBytesPerDataProduct c.sizes ≠ 0) :
    (around.bufferAvailable = true ∧ around.serialized = true) ∧
        c.publishNextPendingDataProductSlice around =
          ({ c with pendingDataProductPublish := some (c.sentSlice p) }, none, [.productSend (c.nextSlice p)]) ∨
      ¬ (around.bufferAvailable = true ∧ around.serialized = true) ∧
        ∃ d, c.publishNextPendingDataProductSlice around = (c, some d, []) := by
  unfold publishNextPendingDataProductSlice
  rw [hp]
  dsimp only
  rw [if_neg (by omega), if_neg hr, if_neg (Nat.not_lt.mpr (containerDataSize_le hr _ _))]
  split_ifs with hbf hs
  · exact .inr ⟨fun h => by simp [h.1] at hbf, _, rfl⟩
  · exact .inr ⟨fun h => by simp [h.2] at hs, _, rfl⟩
  · exact .inl ⟨⟨by simpa using hbf, by simpa using hs⟩, rfl⟩

/-- What starting a publication comes to. It is under way, or it is refused: because of the
artifact, with nothing changed, because of the manifest, or because of the first slice, in which
case it has been opened and ends at once. -/
inductive StartOutcome (around : PayloadSurroundings) (sourceMetadata : PayloadCaptureMetadata)
    (artifactKind : PayloadArtifactKind) (completionState : PayloadState) (c : PayloadOpsController) :
    PayloadOpsController × Option UInt32 × List PayloadOutput → Prop
  | started (bytes : Bytes) (p : PendingDataProductPublish)
      (h : c.Publishable around sourceMetadata artifactKind bytes)
      (hp : p = c.openedPublication around sourceMetadata artifactKind completionState bytes) :
      StartOutcome around sourceMetadata artifactKind completionState c
        ({ c.openPublication around p with pendingDataProductPublish := some (c.sentSlice p) }, none,
          [.productSend (c.nextSlice p)])
  | notReady (detail : UInt32) (h : ∀ bytes, ¬ c.Publishable around sourceMetadata artifactKind bytes) :
      StartOutcome around sourceMetadata artifactKind completionState c (c, some detail, [])
  | noManifest (bytes : Bytes) (detail : UInt32) (hready : c.ArtifactReady around sourceMetadata artifactKind bytes)
      (h : ∀ bytes, ¬ c.Publishable around sourceMetadata artifactKind bytes) :
      StartOutcome around sourceMetadata artifactKind completionState c
        (c.recordPublication around (c.publishedMetadata around sourceMetadata artifactKind bytes.length), some detail,
          [])
  | noSlice (bytes : Bytes) (p : PendingDataProductPublish) (detail : UInt32)
      (hready : c.ArtifactReady around sourceMetadata artifactKind bytes)
      (hp : p = c.openedPublication around sourceMetadata artifactKind completionState bytes)
      (h : ∀ bytes, ¬ c.Publishable around sourceMetadata artifactKind bytes) :
      StartOutcome around sourceMetadata artifactKind completionState c
        (((c.openPublication around p).finalizeDataProductPublishFailure around detail).1, some detail,
          ((c.openPublication around p).finalizeDataProductPublishFailure around detail).2)

theorem recordPublication_frame (around : PayloadSurroundings) (m : PayloadCaptureMetadata)
    (c : PayloadOpsController) :
    ∃ manifests, c.recordPublication around m =
      { c with
        captureCatalog := Function.update c.captureCatalog m.captureIndex (some m)
        files := { c.files with manifests } } :=
  writeCaptureManifest_frame (around.manifestWrite .starting) m (c.catalogue m)

theorem openPublication_frame (around : PayloadSurroundings) (p : PendingDataProductPublish)
    (c : PayloadOpsController) :
    ∃ manifests, c.openPublication around p =
      { c with
        captureCatalog := Function.update c.captureCatalog p.metadata.captureIndex (some p.metadata)
        files := { c.files with manifests }
        pendingDataProductPublish := some p
        lastCaptureMetadata := p.metadata
        lastResult := .none
        lastDetail := PayloadDetail.none
        state := .publishing } := by
  obtain ⟨manifests, hf⟩ := recordPublication_frame around p.metadata c
  refine ⟨manifests, ?_⟩
  rw [openPublication, hf]

theorem startArtifactPublish_of_ready (h : c.ArtifactReady around sourceMetadata artifactKind bytes)
    (x : PayloadState) (hp : p = c.openedPublication around sourceMetadata artifactKind x bytes) :
    c.startArtifactPublish around sourceMetadata artifactKind x =
      if around.manifestWrite .starting = .shorter ∨ around.manifestWrite .starting = .complete then
        match (c.openPublication around p).publishNextPendingDataProductSlice around with
        | (c, none, sent) => (c, none, sent)
        | (c, some detail, sent) =>
          ((c.finalizeDataProductPublishFailure around detail).1, some detail,
            sent ++ (c.finalizeDataProductPublishFailure around detail).2)
      else (c.recordPublication around p.metadata, some PayloadDetail.captureManifestWriteFailed, []) := by
  subst hp
  unfold startArtifactPublish
  rw [readyArtifact_of_ready h]
  dsimp only [openPublication, recordPublication, openedPublication]
  cases around.manifestWrite .starting with
  | refused | torn => rfl
  | shorter | complete => rfl

theorem startArtifactPublish_outcome (around : PayloadSurroundings) (sourceMetadata : PayloadCaptureMetadata)
    (artifactKind : PayloadArtifactKind) (x : PayloadState) (c : PayloadOpsController) :
    StartOutcome around sourceMetadata artifactKind x c
      (c.startArtifactPublish around sourceMetadata artifactKind x) := by
  by_cases hr : ∃ bytes, c.ArtifactReady around sourceMetadata artifactKind bytes
  · obtain ⟨bytes, hr⟩ := hr
    rw [startArtifactPublish_of_ready hr x rfl]
    split
    next hm =>
      generalize hp : c.openedPublication around sourceMetadata artifactKind x bytes = p
      obtain ⟨m, hf⟩ := openPublication_frame around p c
      have hrm : maxPayloadArtifactBytesPerDataProduct (c.openPublication around p).sizes ≠ 0 := by
        rw [hf]
        exact hr.room
      have ho : p.nextOffset < p.artifactBytes.length := by
        rw [← hp]
        exact List.length_pos_of_ne_nil hr.nonempty
      have hs : (c.openPublication around p).sentSlice p = c.sentSlice p := by
        rw [hf]
        rfl
      have hnext : (c.openPublication around p).nextSlice p = c.nextSlice p := by
        rw [hf]
        rfl
      rcases publishNext_cases around rfl ho hrm with ⟨⟨hbf, hsr⟩, heq⟩ | ⟨hrf, d, heq⟩
      · rw [heq, hs, hnext]
        exact .started bytes p ⟨hr, hm, hbf, hsr⟩ hp.symm
      · rw [heq]
        exact .noSlice bytes p d hr hp.symm fun b' h => hrf ⟨h.buffer, h.serialized⟩
    next hm =>
      exact .noManifest bytes _ hr fun b' h => hm h.manifest
  · unfold startArtifactPublish
    cases hpl : c.readyArtifact around sourceMetadata artifactKind with
    | error d => exact .notReady d fun bytes h => hr ⟨bytes, h.toArtifactReady⟩
    | ok => exact absurd ⟨_, ready_of_readyArtifact hpl⟩ hr

end PayloadOpsController

end ObcFlight
