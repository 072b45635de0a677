import ObcFlight.Machine
import ObcFlight.PiCameraManager
import ObcFlight.PayloadProfiles
import ObcFlight.RecoveryTypes

/-!
# The payload operations controller

Commands start operations of the camera manager or publications of stored artifacts, the tick
polls the manager, drives the publication that is under way and, outside PAYLOAD mode, cleans up.
Two commands can be pending: the one that has started the operation, and an abort.
-/

namespace ObcFlight

structure PendingCommand where
  active : Bool := false
  responseSent : Bool := false
  opCode : UInt32 := 0
  cmdSeq : UInt32 := 0
  kind : PayloadOperationKind := .none
  forcedModeExit : Bool := false

structure PendingDataProductPublish where
  artifactKind : PayloadArtifactKind
  timeoutTicksRemaining : UInt32
  expectedPaths : List Bytes
  metadata : PayloadCaptureMetadata
  artifactBytes : Bytes
  baseTimeTag : DpTime
  nextOffset : ℕ := 0
  nextSliceIndex : UInt32 := 0
  completionState : PayloadState

/-- A manifest on the disk. The reader accepts two sizes, the present layout with every text
at its full size and the older layout. -/
inductive CaptureManifest where
  | current (header : PayloadCaptureArtifactHeaderV2)
  | legacy (header : PayloadCaptureArtifactHeaderV2)
  | unreadable

/-- What becomes of writing a manifest. A header with shorter texts is written to the end, but
to a file of another size than the reader accepts. -/
inductive ManifestWrite where
  | refused
  | torn
  | shorter
  | complete
deriving DecidableEq

/-- The places in one call where a manifest is written. -/
inductive ManifestMoment where
  | starting
  | finishing
  | refusedPreview

structure PayloadFiles where
  artifacts : Bytes → Option Bytes := fun _ => none
  manifests : UInt8 → Option CaptureManifest := fun _ => none

/-- A container handed to the data product writer. -/
structure PayloadSlice where
  header : PayloadCaptureArtifactHeaderV2
  bytes : Bytes
  timeTag : DpTime

/-- What a call reads: mode, clock, boot count, and how ports, files and the driver's register
access answer. -/
structure PayloadSurroundings where
  mode : SatMode
  bootCount : UInt32
  time : DpTime
  portsConnected : Bool
  readable : Bool
  bufferAvailable : Bool
  serialized : Bool
  manifestWrite : ManifestMoment → ManifestWrite
  register : CmdResponse
  registerDetail : UInt32

inductive PayloadCommand where
  | setCameraDefaults (resolutionPreset : PayloadResolutionPreset) (jpegQuality : UInt32) (hflip vflip : Bool)
  | prepare
  | abort
  | shutdown
  | getStatus
  | prepareRawSensor
  | setAutoDefaults (awbMode : PayloadAwbMode) (meteringMode : PayloadMeteringMode) (evCompX100 : Int32)
  | setDeterministicDefaults (exposureUsec gainX100 : UInt32)
  | captureAuto (captureIndex : UInt8) (applyMask : UInt32) (awbMode : PayloadAwbMode)
      (meteringMode : PayloadMeteringMode) (evCompX100 : Int32)
  | captureDeterministic (captureIndex : UInt8) (applyMask exposureUsec gainX100 : UInt32)
  | getCapabilities
  | getLastCaptureMetadata
  | sensorRegRead (address : UInt32)
  | sensorRegWrite (address value : UInt32)
  | captureRaw (captureIndex : UInt8)
  | publishCapture (captureIndex : UInt8) (artifactKind : PayloadArtifactKind)

def PayloadCommand.opCode : PayloadCommand → UInt32
  | setCameraDefaults .. => 0x00
  | prepare => 0x01
  | abort => 0x03
  | shutdown => 0x04
  | getStatus => 0x05
  | prepareRawSensor => 0x06
  | setAutoDefaults .. => 0x07
  | setDeterministicDefaults .. => 0x08
  | captureAuto .. => 0x09
  | captureDeterministic .. => 0x0A
  | getCapabilities => 0x0B
  | getLastCaptureMetadata => 0x0C
  | sensorRegRead .. => 0x0D
  | sensorRegWrite .. => 0x0E
  | captureRaw .. => 0x0F
  | publishCapture .. => 0x10

inductive PayloadOutput where
  | cmdResponse (opCode cmdSeq : UInt32) (response : CmdResponse)
  | started (job : CameraJob)
  | worker (effect : CameraEffect)
  | productSend (slice : PayloadSlice)

structure PayloadOpsController where
  runtimeConfigured : Bool
  runtimeRoot : Bytes
  productId : UInt32
  sizes : DataProductSizes := {}
  profiles : PayloadProfiles
  manager : PiCameraManager
  state : PayloadState := .off
  preparedReadyKind : PayloadReadyKind := .nonRaw
  lastResult : PayloadResultCode := .none
  lastDetail : UInt32 := PayloadDetail.none
  lastCaptureMetadata : PayloadCaptureMetadata := {}
  captureCounter : UInt32 := 0
  forcedCleanupActive : Bool := false
  activeCommand : PendingCommand := {}
  abortCommand : PendingCommand := {}
  pendingDataProductPublish : Option PendingDataProductPublish := none
  pendingDataProductWriteCompletion : Option Bytes := none
  captureCatalog : UInt8 → Option PayloadCaptureMetadata := fun _ => none
  files : PayloadFiles := {}

namespace PayloadOpsController

open PayloadPaths

/-- The controller after `configureRuntime`, with whatever is on the disk. -/
def configureRuntime (configured : Bool) (runtimeRoot : Bytes) (productId : UInt32) (sizes : DataProductSizes)
    (capabilities : PayloadCapabilities) (runtimeConfig : PayloadRuntimeConfig) (files : PayloadFiles) :
    PayloadOpsController where
  runtimeConfigured := configured
  runtimeRoot
  productId
  sizes
  profiles := .configure runtimeConfig capabilities
  manager := { configured, powerSettleMs := runtimeConfig.powerSettleMs }
  files

variable (c : PayloadOpsController)

def runtimeConfig : PayloadRuntimeConfig := c.profiles.runtimeConfig

def payloadWorkInProgress : Bool :=
  c.manager.busy || c.activeCommand.active || c.abortCommand.active || c.pendingDataProductPublish.isSome

def currentModeAllowsPayloadOps (around : PayloadSurroundings) : Bool := decide (around.mode = .payload)

/-! ### Answers -/

def withResult (resultCode : PayloadResultCode) (detailCode : UInt32) (c : PayloadOpsController) :
    PayloadOpsController :=
  { c with lastResult := resultCode, lastDetail := detailCode }

def succeed : PayloadOpsController := c.withResult .ok PayloadDetail.none

variable (opCode cmdSeq : UInt32)

def markPending (kind : PayloadOperationKind) : PendingCommand :=
  { active := true, responseSent := false, opCode, cmdSeq, kind, forcedModeExit := false }

/-- The answer that clearing a pending command sends, unless it was sent before. -/
def clearingResponse (pending : PendingCommand) (response : CmdResponse) : List PayloadOutput :=
  if pending.responseSent then [] else [.cmdResponse pending.opCode pending.cmdSeq response]

def clearActive (response : CmdResponse) (c : PayloadOpsController) : PayloadOpsController × List PayloadOutput :=
  if c.activeCommand.active then ({ c with activeCommand := {} }, clearingResponse c.activeCommand response)
  else (c, [])

def clearAbort (response : CmdResponse) (c : PayloadOpsController) : PayloadOpsController × List PayloadOutput :=
  if c.abortCommand.active then ({ c with abortCommand := {} }, clearingResponse c.abortCommand response)
  else (c, [])

/-! ### Manifests and artifacts -/

def writeCaptureManifest (outcome : ManifestWrite) (metadata : PayloadCaptureMetadata) (c : PayloadOpsController) :
    PayloadOpsController × Bool :=
  let store (manifest : CaptureManifest) : PayloadOpsController :=
    { c with files := { c.files with
        manifests := Function.update c.files.manifests metadata.captureIndex (some manifest) } }
  match outcome with
  | .refused => (c, false)
  | .torn => (store .unreadable, false)
  | .shorter => (store .unreadable, true)
  | .complete => (store (.current metadata.manifestHeader), true)

def loadCaptureManifest (captureIndex : UInt8) (c : PayloadOpsController) : Except UInt32 PayloadCaptureMetadata :=
  match c.captureCatalog captureIndex with
  | some metadata => .ok metadata
  | none =>
    match c.files.manifests captureIndex with
    | none => .error PayloadDetail.captureIndexNotFound
    | some .unreadable => .error PayloadDetail.captureManifestReadFailed
    | some (.current header) => .ok (metadataFromArtifactHeader header)
    | some (.legacy header) => .ok (deserializeLegacyArtifactHeader header)

def loadArtifactBytes (around : PayloadSurroundings) (relativePath : Bytes) (c : PayloadOpsController) :
    Except UInt32 Bytes :=
  match c.files.artifacts relativePath with
  | none => .error PayloadDetail.dataProductReadFailed
  | some bytes =>
    if c.runtimeConfig.dataProductMaxBytes.toNat < bytes.length then .error PayloadDetail.dataProductTooLarge
    else if !around.readable then .error PayloadDetail.dataProductReadFailed
    else .ok bytes

def catalogue (metadata : PayloadCaptureMetadata) (c : PayloadOpsController) : PayloadOpsController :=
  { c with captureCatalog := Function.update c.captureCatalog metadata.captureIndex (some metadata) }

/-! ### Publication -/

def maxPayloadArtifactBytesPerDataProduct (sizes : DataProductSizes) : ℕ :=
  if sizes.container ≤ sizes.headerRecord + sizes.recordOverhead then 0
  else min sizes.container (sizes.container - sizes.headerRecord - sizes.recordOverhead)

/-- The data of a container with so many bytes of the artifact. -/
def containerDataSize (sizes : DataProductSizes) (chunkBytes : ℕ) : ℕ :=
  sizes.headerRecord + (sizes.recordOverhead + chunkBytes)

def sliceCount (size maxBytes : ℕ) : ℕ := (size + maxBytes - 1) / maxBytes

def chunkBytes (size maxBytes offset : ℕ) : ℕ := min (size - offset) maxBytes

def dataProductPath (baseTimeTag : DpTime) (sliceIndex : UInt32) : Bytes :=
  dataProductRelativePathForTime c.productId (baseTimeTag.addUseconds sliceIndex)

variable (artifactKind : PayloadArtifactKind)

def withDataProductPath (path : Bytes) (metadata : PayloadCaptureMetadata) :
    PayloadCaptureMetadata :=
  match artifactKind with
  | .rawFrame => { metadata with rawDataProductRelativePath := path }
  | .previewJpeg => { metadata with previewDataProductRelativePath := path }

/-- The record with the name of its first container, and the files that are to be written. -/
def planArtifactDataProduct (around : PayloadSurroundings) (metadata : PayloadCaptureMetadata)
    (artifactKind : PayloadArtifactKind) (artifactBytes : Bytes) (c : PayloadOpsController) :
    Except UInt32 (PayloadCaptureMetadata × List Bytes) := do
  if !around.portsConnected then
    throw PayloadDetail.dataProductPortsUnavailable
  if artifactBytes = [] then
    throw PayloadDetail.artifactNotAvailable
  if artifactKind = .rawFrame ∧ metadata.appliedSettings.resolution = .full3280x2464 then
    throw PayloadDetail.fullRawDeferred
  let maxBytes := maxPayloadArtifactBytesPerDataProduct c.sizes
  if maxBytes = 0 then
    throw PayloadDetail.dataProductSerializeFailed
  let slices := List.range (sliceCount artifactBytes.length maxBytes)
  let dataSizes := slices.map fun i => containerDataSize c.sizes (chunkBytes artifactBytes.length maxBytes (i * maxBytes))
  if c.runtimeConfig.dataProductMaxBytes.toNat < dataSizes.sum then
    throw PayloadDetail.dataProductTooLarge
  if dataSizes.any fun size => decide (c.sizes.container < size) then
    throw PayloadDetail.dataProductTooLarge
  return (withDataProductPath artifactKind (c.dataProductPath around.time 0) metadata,
    slices.map fun i => joinPath c.runtimeRoot (c.dataProductPath around.time (UInt32.ofNat i)))

def nextSlice (p : PendingDataProductPublish) (c : PayloadOpsController) : PayloadSlice :=
  let chunk := chunkBytes p.artifactBytes.length (maxPayloadArtifactBytesPerDataProduct c.sizes) p.nextOffset
  { header := p.metadata.makeCaptureArtifactHeader p.artifactKind (c.dataProductPath p.baseTimeTag p.nextSliceIndex)
      (decide (p.artifactBytes.length ≤ p.nextOffset + chunk))
    bytes := (p.artifactBytes.drop p.nextOffset).take chunk
    timeTag := p.baseTimeTag.addUseconds p.nextSliceIndex }

def publishNextPendingDataProductSlice (around : PayloadSurroundings) (c : PayloadOpsController) :
    PayloadOpsController × Option UInt32 × List PayloadOutput :=
  match c.pendingDataProductPublish with
  | none => (c, some PayloadDetail.none, [])
  | some p =>
    let maxBytes := maxPayloadArtifactBytesPerDataProduct c.sizes
    let chunk := chunkBytes p.artifactBytes.length maxBytes p.nextOffset
    if p.artifactBytes.length ≤ p.nextOffset then (c, none, [])
    else if maxBytes = 0 then (c, some PayloadDetail.dataProductSerializeFailed, [])
    else if c.sizes.container < containerDataSize c.sizes chunk then (c, some PayloadDetail.dataProductTooLarge, [])
    else if !around.bufferAvailable then (c, some PayloadDetail.dataProductBufferUnavailable, [])
    else if !around.serialized then (c, some PayloadDetail.dataProductSerializeFailed, [])
    else
      ({ c with pendingDataProductPublish := some { p with
          nextOffset := p.nextOffset + chunk
          nextSliceIndex := p.nextSliceIndex + 1
          timeoutTicksRemaining := c.runtimeConfig.dataProductPublishTimeoutTicks } },
        none, [.productSend (c.nextSlice p)])

def resetPendingDataProductPublish : PayloadOpsController :=
  { c with pendingDataProductPublish := none, pendingDataProductWriteCompletion := none }

def withPublished (published : Bool) (metadata : PayloadCaptureMetadata) :
    PayloadCaptureMetadata :=
  match artifactKind with
  | .rawFrame => { metadata with rawDataProductPublished := published }
  | .previewJpeg => { metadata with previewDataProductPublished := published }

/-- The end of a publication, which answers the command that is waiting for it. -/
def finalizeDataProductPublish (around : PayloadSurroundings) (published : Bool) (resultCode : PayloadResultCode)
    (detailCode : UInt32) (response : CmdResponse) (c : PayloadOpsController) :
    PayloadOpsController × List PayloadOutput :=
  match c.pendingDataProductPublish with
  | none => (c, [])
  | some p =>
    let metadata :=
      { withPublished p.artifactKind published p.metadata with
        lastPublishedArtifactKind := p.artifactKind, resultCode }
    let c := (catalogue metadata { c with lastCaptureMetadata := metadata }).withResult resultCode detailCode
    let c := ({ c with state := p.completionState }.writeCaptureManifest (around.manifestWrite .finishing) metadata).1
    c.resetPendingDataProductPublish.clearActive response

def finalizeDataProductPublishSuccess (around : PayloadSurroundings) :
    PayloadOpsController → PayloadOpsController × List PayloadOutput :=
  finalizeDataProductPublish around true .ok PayloadDetail.none .ok

def finalizeDataProductPublishFailure (around : PayloadSurroundings) (detailCode : UInt32) :
    PayloadOpsController → PayloadOpsController × List PayloadOutput :=
  finalizeDataProductPublish around false .storageFailed detailCode .executionError

def withArtifactSize (size : ℕ) (metadata : PayloadCaptureMetadata) :
    PayloadCaptureMetadata :=
  match artifactKind with
  | .rawFrame => { metadata with rawBytes := UInt32.ofNat size, rawDataProductPublished := false }
  | .previewJpeg => { metadata with previewJpegBytes := UInt32.ofNat size, previewDataProductPublished := false }

/-- The part of starting a publication before anything is changed: the record to publish, the
bytes of the artifact and the files to be written. -/
def readyArtifact (around : PayloadSurroundings) (sourceMetadata : PayloadCaptureMetadata)
    (artifactKind : PayloadArtifactKind) (c : PayloadOpsController) :
    Except UInt32 (PayloadCaptureMetadata × Bytes × List Bytes) := do
  if artifactKind = .rawFrame ∧ sourceMetadata.appliedSettings.resolution = .full3280x2464 then
    throw PayloadDetail.fullRawDeferred
  let artifactBytes ← c.loadArtifactBytes around (sourceMetadata.relativePath artifactKind)
  let metadata :=
    { withArtifactSize artifactKind artifactBytes.length sourceMetadata with lastPublishedArtifactKind := artifactKind }
  let (metadata, expectedPaths) ← c.planArtifactDataProduct around metadata artifactKind artifactBytes
  return (metadata, artifactBytes, expectedPaths)

def startArtifactPublish (around : PayloadSurroundings) (sourceMetadata : PayloadCaptureMetadata)
    (artifactKind : PayloadArtifactKind) (completionState : PayloadState) (c : PayloadOpsController) :
    PayloadOpsController × Option UInt32 × List PayloadOutput :=
  match c.readyArtifact around sourceMetadata artifactKind with
  | .error detail => (c, some detail, [])
  | .ok (metadata, artifactBytes, expectedPaths) =>
    let (c, written) := (c.catalogue metadata).writeCaptureManifest (around.manifestWrite .starting) metadata
    if !written then (c, some PayloadDetail.captureManifestWriteFailed, [])
    else
      let c := { c with
        pendingDataProductPublish := some
          { artifactKind, expectedPaths, metadata, artifactBytes, completionState
            timeoutTicksRemaining := c.runtimeConfig.dataProductPublishTimeoutTicks
            baseTimeTag := around.time }
        lastCaptureMetadata := metadata
        lastResult := .none
        lastDetail := PayloadDetail.none
        state := .publishing }
      match c.publishNextPendingDataProductSlice around with
      | (c, none, sent) => (c, none, sent)
      | (c, some detail, sent) =>
        let (c, answers) := c.finalizeDataProductPublishFailure around detail
        (c, some detail, sent ++ answers)

/-- The publication of the preview of a capture that has succeeded. The answer is whether it
is under way. -/
def startCapturePreviewPublish (around : PayloadSurroundings) (result : PayloadOperationResult)
    (c : PayloadOpsController) : PayloadOpsController × Bool × List PayloadOutput :=
  let metadata :=
    { result.metadata with
      resultCode := .none
      previewDataProductPublished := false
      rawDataProductPublished := false
      lastPublishedArtifactKind := .previewJpeg }
  match c.startArtifactPublish around metadata .previewJpeg .ready with
  | (c, none, out) => (c, true, out)
  | (c, some detail, out) =>
    let metadata := { metadata with resultCode := .storageFailed }
    let c := (catalogue metadata { c with lastCaptureMetadata := metadata }).withResult .storageFailed detail
    ((c.writeCaptureManifest (around.manifestWrite .refusedPreview) metadata).1, false, out)

/-! ### Completed operations -/

variable (result : PayloadOperationResult)

/-- What is recorded of every completed operation before its kind is looked at. -/
def recordResult (c : PayloadOpsController) : PayloadOpsController :=
  let c := c.withResult result.resultCode result.detailCode
  let c := if result.metadata.captureId ≠ 0 then
      let metadata := { result.metadata with resultCode := result.resultCode }
      catalogue metadata { c with lastCaptureMetadata := metadata }
    else c
  if c.activeCommand.active && c.activeCommand.forcedModeExit then { c with lastResult := .modeExitAborted } else c

/-- The state after an operation that is not a successful capture. -/
def completedState (state : PayloadState) : PayloadState :=
  if result.response = .ok ∧ result.kind = .prepare then .ready
  else if result.response = .ok ∧
      (result.kind = .shutdown ∨ result.kind = .abort ∨ result.kind = .internalModeExit) then .off
  else if result.resultCode = .aborted ∨ result.resultCode = .modeExitAborted then .off
  else if result.response ≠ .ok ∧ result.prepared = true then .ready
  else if result.response ≠ .ok ∧ (result.kind = .shutdown ∨ result.kind = .abort) then .fault
  else if result.response ≠ .ok ∧ result.prepared = false then .off
  else state

/-- The answers to the two pending commands, and the release of the cleanup. -/
def answerCompletion (completionResponse : CmdResponse) (c : PayloadOpsController) :
    PayloadOpsController × List PayloadOutput :=
  let response := if c.activeCommand.forcedModeExit then .executionError
    else if c.activeCommand.kind = .capture ∧ completionResponse ≠ .ok then .executionError
    else completionResponse
  let (c, answered) := c.clearActive response
  let (c, aborted) := c.clearAbort
    (if result.resultCode = .aborted ∨ result.response = .ok then .ok else .executionError)
  ({ c with forcedCleanupActive := false }, answered ++ aborted)

/-- A successful capture whose preview is being published ends here early: neither a pending
abort is answered nor the cleanup released. -/
def handleCompletedOperation (around : PayloadSurroundings) (result : PayloadOperationResult)
    (c : PayloadOpsController) : PayloadOpsController × List PayloadOutput :=
  let c := c.recordResult result
  if result.response = .ok ∧ result.kind = .capture then
    match { c with preparedReadyKind := result.readyKind }.startCapturePreviewPublish around result with
    | (c, true, out) => (c, out)
    | (c, false, out) =>
      let (c, answers) := { c with state := if result.prepared then .ready else .off }.answerCompletion result
        .executionError
      (c, out ++ answers)
  else
    let preparedReadyKind := if result.response = .ok ∧ result.kind = .prepare then result.readyKind
      else c.preparedReadyKind
    { c with state := completedState result c.state, preparedReadyKind }.answerCompletion result result.response

/-! ### The tick -/

/-- Outside PAYLOAD mode what is running is asked to stop, and what is ready is shut down. -/
def startForcedCleanupIfNeeded (around : PayloadSurroundings) (c : PayloadOpsController) :
    PayloadOpsController × List PayloadOutput :=
  if !c.runtimeConfigured || decide (around.mode = .payload) || c.forcedCleanupActive ||
      decide (c.state = .off ∨ c.state = .fault) || c.pendingDataProductPublish.isSome then (c, [])
  else if c.manager.busy then
    ({ c with
        forcedCleanupActive := true
        manager := c.manager.requestAbort
        state := .aborting
        activeCommand := { c.activeCommand with forcedModeExit := true } }, [])
  else
    match c.manager.beginShutdown true with
    | some manager => ({ c with forcedCleanupActive := true, manager, state := .aborting }, [.started (.shutdown true)])
    | none =>
      ({ c with
          forcedCleanupActive := true
          state := .fault
          lastResult := .modeExitAborted
          lastDetail := PayloadDetail.none }, [])

def pollManager (around : PayloadSurroundings) (c : PayloadOpsController) :
    PayloadOpsController × List PayloadOutput :=
  match c.manager.pollCompletion with
  | none => (c, [])
  | some (result, manager) => { c with manager }.handleCompletedOperation around result

def handlePendingDataProductWriteCompletion (around : PayloadSurroundings) (c : PayloadOpsController) :
    PayloadOpsController × List PayloadOutput :=
  match c.pendingDataProductWriteCompletion, c.pendingDataProductPublish with
  | none, _ => (c, [])
  | some _, none => ({ c with pendingDataProductWriteCompletion := none }, [])
  | some writtenPath, some p =>
    let c := { c with pendingDataProductWriteCompletion := none }
    if writtenPath ∉ p.expectedPaths then (c, [])
    else
      let p := { p with
        expectedPaths := p.expectedPaths.erase writtenPath
        timeoutTicksRemaining := c.runtimeConfig.dataProductPublishTimeoutTicks }
      let c := { c with pendingDataProductPublish := some p }
      if p.nextOffset < p.artifactBytes.length then
        match c.publishNextPendingDataProductSlice around with
        | (c, none, sent) => (c, sent)
        | (c, some detail, sent) =>
          let (c, answers) := c.finalizeDataProductPublishFailure around detail
          (c, sent ++ answers)
      else if p.expectedPaths = [] then c.finalizeDataProductPublishSuccess around
      else (c, [])

/-- The countdown of the publication. A timeout of zero ticks never runs out. -/
def countDownPublish (around : PayloadSurroundings) (c : PayloadOpsController) :
    PayloadOpsController × List PayloadOutput :=
  match c.pendingDataProductPublish with
  | none => (c, [])
  | some p =>
    if p.timeoutTicksRemaining = 0 then (c, [])
    else
      let p := { p with timeoutTicksRemaining := p.timeoutTicksRemaining - 1 }
      let c := { c with pendingDataProductPublish := some p }
      if p.timeoutTicksRemaining = 0 then
        c.finalizeDataProductPublishFailure around PayloadDetail.dataProductWriteTimeout
      else (c, [])

def schedIn (around : PayloadSurroundings) (c : PayloadOpsController) : PayloadOpsController × List PayloadOutput :=
  let (c, cleaned) := c.startForcedCleanupIfNeeded around
  let (c, polled) := c.pollManager around
  let (c, written) := c.handlePendingDataProductWriteCompletion around
  let (c, counted) := c.countDownPublish around
  (c, cleaned ++ polled ++ written ++ counted)

def dpWrittenIn (fileName : Bytes) (c : PayloadOpsController) : PayloadOpsController :=
  match c.pendingDataProductPublish with
  | none => c
  | some p =>
    if fileName ∈ p.expectedPaths then { c with pendingDataProductWriteCompletion := some fileName } else c

/-! ### Commands -/

def reject (resultCode : PayloadResultCode) (detailCode : UInt32) (response : CmdResponse)
    (c : PayloadOpsController) : PayloadOpsController × List PayloadOutput :=
  (c.withResult resultCode detailCode, [.cmdResponse opCode cmdSeq response])

def rejectUnconfigured : PayloadOpsController × List PayloadOutput :=
  c.reject opCode cmdSeq .rejectedUnconfigured PayloadDetail.runtimeUnconfigured .executionError

def rejectBusy : PayloadOpsController × List PayloadOutput :=
  c.reject opCode cmdSeq .rejectedBusy PayloadDetail.none .validationError

def rejectMode : PayloadOpsController × List PayloadOutput :=
  c.reject opCode cmdSeq .rejectedMode PayloadDetail.none .validationError

def setDefaults (update : PayloadProfiles → Except UInt32 PayloadProfiles)
    (c : PayloadOpsController) : PayloadOpsController × List PayloadOutput :=
  if !c.runtimeConfigured then c.rejectUnconfigured opCode cmdSeq
  else if c.manager.busy || decide (c.state ≠ .off) then c.rejectBusy opCode cmdSeq
  else
    match update c.profiles with
    | .error detail => c.reject opCode cmdSeq (PayloadDetail.rejectCode detail) detail .validationError
    | .ok profiles => ({ c.succeed with profiles }, [.cmdResponse opCode cmdSeq .ok])

def beginPrepareReady (around : PayloadSurroundings) (readyKind : PayloadReadyKind)
    (c : PayloadOpsController) : PayloadOpsController × List PayloadOutput :=
  if !c.runtimeConfigured then c.rejectUnconfigured opCode cmdSeq
  else if !currentModeAllowsPayloadOps around then c.rejectMode opCode cmdSeq
  else if c.payloadWorkInProgress then c.rejectBusy opCode cmdSeq
  else if c.state = .ready ∧ c.preparedReadyKind = readyKind then (c.succeed, [.cmdResponse opCode cmdSeq .ok])
  else if c.state = .ready then
    c.reject opCode cmdSeq .rejectedNotReady PayloadDetail.sessionReprepareRequired .validationError
  else
    let settings := c.profiles.prepareSettingsForReady readyKind
    match c.manager.beginPrepare readyKind settings with
    | none => c.reject opCode cmdSeq .prepareFailed PayloadDetail.runtimeUnconfigured .executionError
    | some manager =>
      ({ c with
          manager
          activeCommand := markPending opCode cmdSeq .prepare
          state := .preparing
          lastResult := .none
          lastDetail := PayloadDetail.none
          preparedReadyKind := readyKind }, [.started (.prepare readyKind settings)])

def captureRequest (around : PayloadSurroundings) (captureIndex : UInt8) (capturePolicy : PayloadCapturePolicy)
    (requested : PayloadCameraSettings) (applyMask : UInt32) (c : PayloadOpsController) : PayloadCaptureMetadata :=
  let (resolved, appliedMask) := c.profiles.resolveCaptureSettings capturePolicy requested applyMask
  { captureId := c.captureCounter + 1
    captureIndex
    bootCount := around.bootCount
    capturePolicy
    backendName := c.profiles.capabilities.backendName
    cameraModel := c.profiles.capabilities.cameraModel
    rawRelativePath := captureRawRelativePathForIndex captureIndex
    previewRelativePath := capturePreviewRelativePathForIndex captureIndex
    requestedMask := applyMask
    appliedMask
    appliedSettings := resolved }

def beginCapture (around : PayloadSurroundings) (captureIndex : UInt8)
    (capturePolicy : PayloadCapturePolicy) (requested : PayloadCameraSettings) (applyMask : UInt32)
    (c : PayloadOpsController) : PayloadOpsController × List PayloadOutput :=
  let rawCapture := decide (capturePolicy = .rawSensor)
  let preparedForRawSensor := decide (c.preparedReadyKind = .rawSensor)
  if !c.runtimeConfigured then c.rejectUnconfigured opCode cmdSeq
  else if !currentModeAllowsPayloadOps around then c.rejectMode opCode cmdSeq
  else if c.payloadWorkInProgress then c.rejectBusy opCode cmdSeq
  else if c.state ≠ .ready ∨ rawCapture ≠ preparedForRawSensor then
    c.reject opCode cmdSeq .rejectedNotReady PayloadDetail.none .validationError
  else
    match c.profiles.validateCaptureRequest capturePolicy requested applyMask with
    | .error detail => c.reject opCode cmdSeq (PayloadDetail.rejectCode detail) detail .validationError
    | .ok _ =>
      match c.manager.getPreparedSettings with
      | none => c.reject opCode cmdSeq .rejectedInvalidConfig PayloadDetail.none .validationError
      | some preparedSettings =>
        if !PayloadProfiles.captureSessionMatchesPreparedSettings capturePolicy preparedSettings requested then
          c.reject opCode cmdSeq .rejectedInvalidConfig PayloadDetail.sessionReprepareRequired .validationError
        else
          let request := c.captureRequest around captureIndex capturePolicy requested applyMask
          let c := { c with captureCounter := c.captureCounter + 1 }
          match c.manager.beginCapture request request.appliedSettings with
          | none => c.reject opCode cmdSeq .captureFailed PayloadDetail.runtimeRootFailed .executionError
          | some manager =>
            ({ c with
                manager
                activeCommand := { markPending opCode cmdSeq .capture with responseSent := true }
                state := .capturing
                lastResult := .none
                lastDetail := PayloadDetail.none },
              [.started (.capture request request.appliedSettings), .cmdResponse opCode cmdSeq .ok])

def abortCmd : PayloadOpsController × List PayloadOutput :=
  if !c.runtimeConfigured then c.rejectUnconfigured opCode cmdSeq
  else if c.abortCommand.active then c.rejectBusy opCode cmdSeq
  else if c.pendingDataProductPublish.isSome then c.rejectBusy opCode cmdSeq
  else if c.manager.busy then
    ({ c with
        manager := c.manager.requestAbort
        abortCommand := markPending opCode cmdSeq .abort
        state := .aborting }, [])
  else if c.state = .off then (c.succeed, [.cmdResponse opCode cmdSeq .ok])
  else
    match c.manager.beginShutdown true with
    | none => c.reject opCode cmdSeq .shutdownFailed PayloadDetail.none .executionError
    | some manager =>
      ({ c with manager, abortCommand := markPending opCode cmdSeq .abort, state := .aborting },
        [.started (.shutdown true)])

def shutdownCmd : PayloadOpsController × List PayloadOutput :=
  if !c.runtimeConfigured then c.rejectUnconfigured opCode cmdSeq
  else if c.payloadWorkInProgress || c.abortCommand.active then c.rejectBusy opCode cmdSeq
  else if c.state = .off then (c.succeed, [.cmdResponse opCode cmdSeq .ok])
  else
    match c.manager.beginShutdown false with
    | none => c.reject opCode cmdSeq .shutdownFailed PayloadDetail.none .executionError
    | some manager =>
      ({ c with manager, activeCommand := markPending opCode cmdSeq .shutdown, state := .aborting },
        [.started (.shutdown false)])

/-- The detail of the refusal, if a register may not be accessed. -/
def readyForRawSensorSession (around : PayloadSurroundings) (c : PayloadOpsController) : Option UInt32 :=
  if c.payloadWorkInProgress then some PayloadDetail.none
  else if !currentModeAllowsPayloadOps around || decide (c.state ≠ .ready) ||
      decide (c.preparedReadyKind ≠ .rawSensor) then some PayloadDetail.rawSessionRequired
  else none

/-- Reading and writing a register differ in the check of the arguments only. -/
def sensorRegister (around : PayloadSurroundings) (validated : Except UInt32 Unit)
    (c : PayloadOpsController) : PayloadOpsController × List PayloadOutput :=
  if !c.runtimeConfigured then c.rejectUnconfigured opCode cmdSeq
  else
    match validated with
    | .error detail => c.reject opCode cmdSeq .rejectedInvalidConfig detail .validationError
    | .ok _ =>
      match c.readyForRawSensorSession around with
      | some detail =>
        if detail = PayloadDetail.rawSessionRequired then
          c.reject opCode cmdSeq .rejectedNotReady detail .validationError
        else c.reject opCode cmdSeq .rejectedBusy detail .executionError
      | none =>
        if !c.profiles.capabilities.rawRegisterSupported then
          c.reject opCode cmdSeq .rejectedUnsupported PayloadDetail.none .validationError
        else if around.register ≠ .ok then
          c.reject opCode cmdSeq
            (if around.registerDetail = PayloadDetail.unsupportedField then .rejectedUnsupported else .captureFailed)
            around.registerDetail around.register
        else (c.succeed, [.cmdResponse opCode cmdSeq .ok])

def publishCapture (around : PayloadSurroundings) (captureIndex : UInt8)
    (artifactKind : PayloadArtifactKind) (c : PayloadOpsController) : PayloadOpsController × List PayloadOutput :=
  if !c.runtimeConfigured then c.rejectUnconfigured opCode cmdSeq
  else if !currentModeAllowsPayloadOps around then c.rejectMode opCode cmdSeq
  else if c.payloadWorkInProgress then c.rejectBusy opCode cmdSeq
  else
    match c.loadCaptureManifest captureIndex with
    | .error detail => c.reject opCode cmdSeq .rejectedInvalidConfig detail .validationError
    | .ok metadata =>
      let completionState := if c.state = .publishing then .ready else c.state
      match c.startArtifactPublish around metadata artifactKind completionState with
      | (c, some detail, out) =>
        let (c, answer) := c.reject opCode cmdSeq .storageFailed detail .executionError
        (c, out ++ answer)
      | (c, none, out) =>
        ({ c with activeCommand := { markPending opCode cmdSeq .publishCapture with responseSent := true } },
          out ++ [.cmdResponse opCode cmdSeq .ok])

def command (around : PayloadSurroundings) (cmdSeq : UInt32) (cmd : PayloadCommand) (c : PayloadOpsController) :
    PayloadOpsController × List PayloadOutput :=
  let opCode := cmd.opCode
  match cmd with
  | .setCameraDefaults resolutionPreset jpegQuality hflip vflip =>
    c.setDefaults opCode cmdSeq fun p => p.setCameraDefaults resolutionPreset jpegQuality hflip vflip
  | .setAutoDefaults awbMode meteringMode evCompX100 =>
    c.setDefaults opCode cmdSeq fun p => p.setAutoDefaults awbMode meteringMode evCompX100
  | .setDeterministicDefaults exposureUsec gainX100 =>
    c.setDefaults opCode cmdSeq fun p => p.setDeterministicDefaults exposureUsec gainX100
  | .prepare => c.beginPrepareReady opCode cmdSeq around .nonRaw
  | .prepareRawSensor => c.beginPrepareReady opCode cmdSeq around .rawSensor
  | .abort => c.abortCmd opCode cmdSeq
  | .shutdown => c.shutdownCmd opCode cmdSeq
  | .getStatus | .getCapabilities | .getLastCaptureMetadata => (c, [.cmdResponse opCode cmdSeq .ok])
  | .captureAuto captureIndex applyMask awbMode meteringMode evCompX100 =>
    c.beginCapture opCode cmdSeq around captureIndex .auto (c.profiles.autoRequest awbMode meteringMode evCompX100)
      applyMask
  | .captureDeterministic captureIndex applyMask exposureUsec gainX100 =>
    c.beginCapture opCode cmdSeq around captureIndex .deterministic
      (c.profiles.deterministicRequest exposureUsec gainX100) applyMask
  | .captureRaw captureIndex =>
    c.beginCapture opCode cmdSeq around captureIndex .rawSensor c.profiles.rawRequest 0
  | .sensorRegRead address =>
    c.sensorRegister opCode cmdSeq around (PayloadProfiles.validateRawRegisterAddress address)
  | .sensorRegWrite address value =>
    c.sensorRegister opCode cmdSeq around (do
      PayloadProfiles.validateRawRegisterAddress address
      PayloadProfiles.validateRawRegisterValue value)
  | .publishCapture captureIndex artifactKind => c.publishCapture opCode cmdSeq around captureIndex artifactKind

/-! ### The worker -/

def applyEffect : CameraEffect → PayloadOpsController
  | .epsSwitch _ _ => c
  | .artifactWritten request kind bytes =>
    { c with files := { c.files with
        artifacts := Function.update c.files.artifacts (request.relativePath kind) (some bytes) } }

def workerFinishes (answers : WorkerAnswers) (c : PayloadOpsController) : PayloadOpsController × List PayloadOutput :=
  let (manager, effects) := c.manager.workerFinishes answers
  (effects.foldl applyEffect { c with manager }, effects.map .worker)

end PayloadOpsController

inductive PayloadInput where
  | command (cmdSeq : UInt32) (cmd : PayloadCommand) (around : PayloadSurroundings)
  | schedIn (around : PayloadSurroundings)
  | dpWritten (fileName : Bytes)
  | workerFinishes (answers : WorkerAnswers)

def PayloadOpsController.step (c : PayloadOpsController) : PayloadInput → PayloadOpsController × List PayloadOutput
  | .command cmdSeq cmd around => c.command around cmdSeq cmd
  | .schedIn around => c.schedIn around
  | .dpWritten fileName => (c.dpWrittenIn fileName, [])
  | .workerFinishes answers => c.workerFinishes answers

def payloadOps : Machine PayloadOpsController PayloadInput PayloadOutput := ⟨PayloadOpsController.step⟩

end ObcFlight
