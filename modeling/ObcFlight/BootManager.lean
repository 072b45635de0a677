import ObcFlight.AuthorityTypes
import ObcFlight.BootManifest
import ObcFlight.Machine

/-!
# The boot manager

BootManager prepares, verifies, activates, confirms and rolls back software updates over
one metadata record that it keeps in memory and in a file. The machine has one input per
command, tick and runtime call and one for a process restart. Every input carries what the
storage does meanwhile: whether it can be reached and read, and for the save that a load
may need and for the save of the call itself whether it is written, refused or cut off.
-/

namespace ObcFlight

open BootMetadataStore BootManifestVerifier

/-- What becomes of a save: the whole text is written, the old file stays, or only the
first k bytes of the text reach the file. Only the first counts as success. -/
inductive SaveOutcome
  | written
  | failed
  | cut (k : ℕ)
deriving DecidableEq, Repr

structure StorageIo where
  ensureOk : Bool := true
  readOk : Bool := true
  loadSave : SaveOutcome := .written
  persistSave : SaveOutcome := .written
deriving DecidableEq, Repr

structure BootEnv where
  stagingRoot : Bytes := ascii "runtime/staging"
  trust : BootTrustConfig := {}

namespace BootEnv

def resolveStagingPath (env : BootEnv) (path : Bytes) : Bytes :=
  if path = [] ∨ path.head? = some 47 then path
  else if env.stagingRoot = [] then path
  else if env.stagingRoot.getLast? = some 47 then env.stagingRoot ++ path
  else env.stagingRoot ++ ascii "/" ++ path

end BootEnv

def resolveManifestPath (resolvedStagingPath : Bytes) : Bytes :=
  resolvedStagingPath ++ ascii ".manifest-v1"

namespace BootError

def none : UInt32 := 0
def metadataInvalid : UInt32 := 1
def digestInvalid : UInt32 := 2
def prepareRequired : UInt32 := 3
def stagingFile : UInt32 := 4
def stagingSizeMismatch : UInt32 := 5
def stagingDigestMismatch : UInt32 := 6
def metadataWrite : UInt32 := 7
def stageNotVerified : UInt32 := 8
def noPendingSlot : UInt32 := 9
def confirmTimeout : UInt32 := 10
def pendingConfirmActive : UInt32 := 21

end BootError

namespace BootProgress

def idle : UInt8 := 0
def prepared : UInt8 := 10
def verified : UInt8 := 60
def activated : UInt8 := 100

end BootProgress

def defaultConfirmTimeoutSec : UInt32 := 60

def recoverySafeFallbackThreshold : UInt32 := 3

def saturatingIncrement (value : UInt32) : UInt32 := if value < 4294967295 then value + 1 else value

def normalizeDigest (digest : Bytes) : Bytes := digest.map toLower

def isDigestFormatValid (digest : Bytes) : Bool :=
  digest ≠ [] && digest.length ≤ 64 && digest.length % 2 = 0 && digest.all isHexDigit

def isRecoveryResetCause (cause : ResetCause) : Bool :=
  cause = ResetCause.recoveryWatchdog || cause = ResetCause.recoveryEpsTimeout ||
    cause = ResetCause.recoveryAdcsFdir || cause = ResetCause.recoveryCommFdir

namespace BootMetadata

variable (m : BootMetadata)

def inactiveSlot : BootSlot := if m.activeSlot = .slotA then .slotB else .slotA

/-- An update was activated and is neither confirmed nor rolled back. -/
def AwaitsConfirm : Prop := m.pendingSlot ≠ .none ∧ m.confirmed = false

instance (m : BootMetadata) : Decidable m.AwaitsConfirm := inferInstanceAs (Decidable (_ ∧ _))

def isPendingTrustStateCoherent : Bool :=
  if m.pendingSlot = .none ∨ m.confirmed then true
  else
    m.pendingSlot = m.activeSlot && m.trustStatus = BootTrust.statusPending &&
      m.pendingSoftwareVersion ≠ 0 && m.activeSoftwareVersion = m.pendingSoftwareVersion &&
      m.lastAcceptedVersion = m.pendingSoftwareVersion && m.signerId ≠ [] && m.keySlot ≠ 0 &&
      m.signatureAlgorithm = ascii "hmac-sha256"

def publishError (errorCode : UInt32) : BootMetadata :=
  { m with lastErrorCode := errorCode }

def clearStagedTrust : BootMetadata :=
  { m with
    stageVerified := false, stagedPath := [], manifestPath := [], manifestImagePath := []
    trustStatus := BootTrust.statusUnverified, trustRejectReason := BootTrust.rejectNone
    imageId := [], stagedSoftwareVersion := 0, signerId := [], keySlot := 0
    signatureAlgorithm := [] }

def rejectTrust (reasonCode : UInt32) (manifest : BootManifest) : BootMetadata :=
  { m with
    stageVerified := false, stagedPath := [], manifestPath := [], manifestImagePath := []
    trustStatus := BootTrust.statusRejected, trustRejectReason := reasonCode
    imageId := manifest.imageId, stagedSoftwareVersion := manifest.softwareVersion
    signerId := manifest.signerId, keySlot := manifest.keySlot
    signatureAlgorithm := manifest.signatureAlgorithm
    lastErrorCode := reasonCode }

def confirmUpdate : BootMetadata :=
  { m with
    lastKnownGoodSlot := m.activeSlot, lastKnownGoodSoftwareVersion := m.activeSoftwareVersion
    pendingSlot := .none, pendingSoftwareVersion := 0, confirmed := true
    stageVerified := false, stagedPath := [], manifestPath := [], manifestImagePath := []
    stagedSoftwareVersion := 0
    trustStatus := BootTrust.statusConfirmed, trustRejectReason := BootTrust.rejectNone
    lastErrorCode := BootError.none }

def rollbackTarget : BootSlot :=
  if m.lastKnownGoodSlot = .none then .slotA else m.lastKnownGoodSlot

def rollback (reasonCode : UInt32) : BootMetadata :=
  { m with
    activeSlot := m.rollbackTarget, pendingSlot := .none
    activeSoftwareVersion := m.lastKnownGoodSoftwareVersion, pendingSoftwareVersion := 0
    confirmed := true
    stageVerified := false, stagedPath := [], manifestPath := [], manifestImagePath := []
    stagedSoftwareVersion := 0
    trustStatus := BootTrust.statusConfirmed, trustRejectReason := reasonCode
    lastErrorCode := reasonCode }

def prepare (imageSize : UInt32) (digest : Bytes) : BootMetadata :=
  { m.clearStagedTrust with
    expectedSize := imageSize, expectedDigest := digest, lastErrorCode := BootError.none }

def acceptStage (path : Bytes) (manifest : BootManifest) : BootMetadata :=
  { m with
    stageVerified := true, stagedPath := path, manifestPath := resolveManifestPath path
    manifestImagePath := manifest.imagePath
    trustStatus := BootTrust.statusTrusted, trustRejectReason := BootTrust.rejectNone
    imageId := manifest.imageId, stagedSoftwareVersion := manifest.softwareVersion
    signerId := manifest.signerId, keySlot := manifest.keySlot
    signatureAlgorithm := manifest.signatureAlgorithm
    lastErrorCode := BootError.none }

def switchSlot (now : UInt32) : BootMetadata :=
  { m with
    activeSlot := m.inactiveSlot, pendingSlot := m.inactiveSlot, confirmed := false
    lastBootAttemptTime := now
    activeSoftwareVersion := m.stagedSoftwareVersion
    pendingSoftwareVersion := m.stagedSoftwareVersion
    lastAcceptedVersion := m.stagedSoftwareVersion
    trustStatus := BootTrust.statusPending, trustRejectReason := BootTrust.rejectNone
    lastErrorCode := BootError.none }

/-- The record of the next boot: a recovery reset counts, any other restart ends the series. -/
def countBoot : BootMetadata :=
  let counted :=
    if m.recoveryResetPending && isRecoveryResetCause m.resetCause then
      { m with
        consecutiveResetCount := saturatingIncrement m.consecutiveResetCount
        recoveryResetPending := false }
    else
      { m with
        consecutiveResetCount := 0, recoveryResetPending := false
        resetCause := if isRecoveryResetCause m.resetCause then ResetCause.unknown else m.resetCause }
  { counted with
    bootCount := saturatingIncrement counted.bootCount
    bootSafeFallbackRequired := recoverySafeFallbackThreshold ≤ counted.consecutiveResetCount }

def recordIntent (cause : ResetCause) (source : RecoveryIncidentSource)
    (level : RecoveryLevel) : BootMetadata :=
  { m with
    resetCause := cause, lastRecoverySource := source, lastRecoveryLevel := level
    recoveryResetPending := true }

def acknowledgeStable : BootMetadata :=
  { m with consecutiveResetCount := 0, bootSafeFallbackRequired := false }

end BootMetadata

inductive LoadResult
  | ok (metadata : BootMetadata)
  | notFound
  | invalid
  | ioError

/-- The metadata file, the record in memory and whether that record was loaded. -/
structure BootCore where
  file : Option Bytes
  metadata : BootMetadata := {}
  loaded : Bool := false
deriving DecidableEq, Repr

def BootCore.load (c : BootCore) (readOk : Bool) : LoadResult :=
  match c.file with
  | none => .notFound
  | some contents =>
    if readOk then
      match loadText contents with
      | some m => .ok m
      | none => .invalid
    else .ioError

structure BootManager extends BootCore where
  runtimeBootInitialized : Bool := false
  elapsedSeconds : UInt32 := 0
  remainingConfirmSeconds : UInt32 := 0
  updateProgress : UInt8 := BootProgress.idle
deriving DecidableEq, Repr

namespace BootManager

variable (s : BootManager)

def save : SaveOutcome → BootManager × Bool
  | .written => ({ s with file := some s.metadata.text }, true)
  | .failed => (s, false)
  | .cut k => ({ s with file := some (s.metadata.text.take k) }, false)

def rollback (reasonCode : UInt32) : BootManager :=
  { s with
    metadata := s.metadata.rollback reasonCode
    remainingConfirmSeconds := 0
    updateProgress := BootProgress.idle }

/-- m_loaded tells whether the record in memory reached the file. -/
def saveLoaded (outcome : SaveOutcome) : BootManager × Bool :=
  ({ (s.save outcome).1 with loaded := (s.save outcome).2 }, (s.save outcome).2)

def adopt (m : BootMetadata) : BootManager :=
  { s with
    metadata := m
    updateProgress :=
      if m.AwaitsConfirm then BootProgress.activated
      else if m.stageVerified then BootProgress.verified
      else if m.expectedDigest = [] then BootProgress.idle else BootProgress.prepared
    remainingConfirmSeconds := if m.AwaitsConfirm then defaultConfirmTimeoutSec else 0
    loaded := true }

def initialMetadata : BootMetadata :=
  { trustStatus := BootTrust.statusConfirmed, trustRejectReason := BootTrust.rejectNone }

def loadOrInitializeMetadata (io : StorageIo) : BootManager × Bool :=
  if s.loaded then (s, true)
  else if ¬ io.ensureOk then (s, false)
  else
    match s.load io.readOk with
    | .ok m =>
      if m.isPendingTrustStateCoherent then (s.adopt m, true)
      else (({ s with metadata := m } : BootManager).rollback BootError.metadataInvalid).saveLoaded
        io.loadSave
    | .notFound =>
      ({ s with
          metadata := initialMetadata
          updateProgress := BootProgress.idle
          remainingConfirmSeconds := 0 } : BootManager).saveLoaded io.loadSave
    | _ => (({ s with metadata := {} } : BootManager).rollback BootError.metadataInvalid).saveLoaded
        io.loadSave

def publishError (errorCode : UInt32) : BootManager :=
  { s with metadata := s.metadata.publishError errorCode }

def persistState (io : StorageIo) : BootManager × Bool :=
  match s.save io.persistSave with
  | (s, true) => (s, true)
  | (s, false) => (s.publishError BootError.metadataWrite, false)

/-- The runtime calls put the old record back when the save fails. -/
def persistOrRestore (m : BootMetadata) (io : StorageIo) : BootManager × Bool :=
  match ({ s with metadata := m } : BootManager).persistState io with
  | (after, true) => (after, true)
  | (after, false) => ({ after with metadata := s.metadata }, false)

def initializeRuntimeBoot (io : StorageIo) : BootManager × Bool :=
  match s.loadOrInitializeMetadata io with
  | (s, false) => (s, false)
  | (s, true) =>
    if s.runtimeBootInitialized then (s, true)
    else
      match s.persistOrRestore s.metadata.countBoot io with
      | (s, true) => ({ s with runtimeBootInitialized := true }, true)
      | (s, false) => (s, false)

def whenLoaded (io : StorageIo) (body : BootManager → BootManager × CmdResponse) :
    BootManager × CmdResponse :=
  match s.loadOrInitializeMetadata io with
  | (s, false) => (s, .executionError)
  | (s, true) => body s

/-- The end of a command that succeeds once its record is persisted. -/
def persistAndRespond (io : StorageIo) : BootManager × CmdResponse :=
  match s.persistState io with
  | (s, true) => (s, .ok)
  | (s, false) => (s, .executionError)

/-- The end of a command that is refused whether or not the record is persisted. -/
def persistAndRefuse (io : StorageIo) : BootManager × CmdResponse :=
  ((s.persistState io).1, .validationError)

def bootPrepareUpdate (imageSize : UInt32) (digest : Bytes) (io : StorageIo) :
    BootManager × CmdResponse :=
  s.whenLoaded io fun s =>
    if s.metadata.AwaitsConfirm then
      (s.publishError BootError.pendingConfirmActive, .validationError)
    else if imageSize = 0 ∨ ¬ isDigestFormatValid (normalizeDigest digest) then
      (s.publishError BootError.digestInvalid, .validationError)
    else
      ({ s with
          metadata := s.metadata.prepare imageSize (normalizeDigest digest)
          updateProgress := BootProgress.prepared } : BootManager).persistAndRespond io

/-- A staged file that cannot be the prepared image: the staged trust goes, unsaved. -/
def failStage (errorCode : UInt32) : BootManager :=
  { s with metadata := (s.metadata.publishError errorCode).clearStagedTrust }

def rejectTrust (reasonCode : UInt32) (manifest : BootManifest) : BootManager :=
  { s with metadata := s.metadata.rejectTrust reasonCode manifest }

def bootVerifyStagedImage (env : BootEnv) (s : BootManager) (requestedPath : Bytes)
    (fs : FileSystem) (io : StorageIo) : BootManager × CmdResponse :=
  s.whenLoaded io fun s =>
    let path := env.resolveStagingPath requestedPath
    if s.metadata.expectedSize = 0 ∨ s.metadata.expectedDigest = [] then
      (s.publishError BootError.prepareRequired, .executionError)
    else if requestedPath = [] then (s.publishError BootError.stagingFile, .validationError)
    else
      match fs.getFileSize path with
      | none => (s.failStage BootError.stagingFile, .executionError)
      | some fileSize =>
        if fileSize ≠ s.metadata.expectedSize.toNat then
          (s.failStage BootError.stagingSizeMismatch, .validationError)
        else
          match computeDigestHex fs path with
          | none => (s.failStage BootError.stagingFile, .executionError)
          | some computedDigest =>
            if computedDigest ≠ s.metadata.expectedDigest then
              (s.failStage BootError.stagingDigestMismatch, .validationError)
            else
              let decision := verifyBootManifestFile fs (resolveManifestPath path) requestedPath
                (UInt32.ofNat fileSize) computedDigest s.metadata.inactiveSlot
                s.metadata.lastAcceptedVersion env.trust
              if ¬ decision.accepted then
                (s.rejectTrust decision.rejectReason decision.manifest).persistAndRefuse io
              else
                ({ s with
                    metadata := s.metadata.acceptStage path decision.manifest
                    updateProgress := BootProgress.verified } : BootManager).persistAndRespond io

def validateStagedTrust (env : BootEnv) (m : BootMetadata) (fs : FileSystem) : BootManifestDecision :=
  match fs.getFileSize m.stagedPath with
  | none => { rejectReason := BootTrust.rejectManifestDigestMismatch }
  | some fileSize =>
    if fileSize ≠ m.expectedSize.toNat then { rejectReason := BootTrust.rejectManifestSizeMismatch }
    else
      match computeDigestHex fs m.stagedPath with
      | none => { rejectReason := BootTrust.rejectManifestDigestMismatch }
      | some computedDigest =>
        if computedDigest ≠ m.expectedDigest then
          { rejectReason := BootTrust.rejectManifestDigestMismatch }
        else
          verifyBootManifestFile fs
            (if m.manifestPath = [] then resolveManifestPath m.stagedPath else m.manifestPath)
            (if m.manifestImagePath = [] then m.stagedPath else m.manifestImagePath)
            (UInt32.ofNat fileSize) computedDigest m.inactiveSlot m.lastAcceptedVersion env.trust

def sameStage (m : BootMetadata) (manifest : BootManifest) : Bool :=
  manifest.softwareVersion = m.stagedSoftwareVersion && manifest.imagePath = m.manifestImagePath &&
    manifest.imageId = m.imageId && manifest.signerId = m.signerId &&
    manifest.keySlot = m.keySlot && manifest.signatureAlgorithm = m.signatureAlgorithm

def bootActivateStagedImage (env : BootEnv) (s : BootManager) (fs : FileSystem) (io : StorageIo) :
    BootManager × CmdResponse :=
  s.whenLoaded io fun s =>
    if s.metadata.stageVerified = false ∨ s.metadata.stagedPath = [] ∨
        s.metadata.trustStatus ≠ BootTrust.statusTrusted ∨ s.metadata.stagedSoftwareVersion = 0 then
      (s.publishError BootError.stageNotVerified, .executionError)
    else if s.metadata.stagedSoftwareVersion ≤ s.metadata.lastAcceptedVersion then
      (s.rejectTrust BootTrust.rejectVersionDowngrade {}).persistAndRefuse io
    else
      let decision := validateStagedTrust env s.metadata fs
      if ¬ decision.accepted then
        (s.rejectTrust decision.rejectReason decision.manifest).persistAndRefuse io
      else if ¬ sameStage s.metadata decision.manifest then
        (s.rejectTrust BootTrust.rejectManifestMalformed decision.manifest).persistAndRefuse io
      else
        ({ s with
            metadata := s.metadata.switchSlot s.elapsedSeconds
            remainingConfirmSeconds := defaultConfirmTimeoutSec
            updateProgress := BootProgress.activated } : BootManager).persistAndRespond io

def bootConfirm (io : StorageIo) : BootManager × CmdResponse :=
  s.whenLoaded io fun s =>
    if ¬ s.metadata.AwaitsConfirm then
      (s.publishError BootError.noPendingSlot, .validationError)
    else if ¬ s.metadata.isPendingTrustStateCoherent then
      (s.rollback BootError.metadataInvalid).persistAndRefuse io
    else
      ({ s with
          metadata := s.metadata.confirmUpdate
          remainingConfirmSeconds := 0 } : BootManager).persistAndRespond io

def bootRollback (io : StorageIo) : BootManager × CmdResponse :=
  s.whenLoaded io fun s => (s.rollback BootError.noPendingSlot).persistAndRespond io

/-- BOOT_STATUS, GET_RESET_CAUSE and GET_BOOT_COUNT answer with telemetry only. -/
def bootStatus (io : StorageIo) : BootManager × CmdResponse := s.whenLoaded io fun s => (s, .ok)

def schedIn (io : StorageIo) : BootManager :=
  if s.metadata.AwaitsConfirm then
    let remaining :=
      if 0 < s.remainingConfirmSeconds then s.remainingConfirmSeconds - 1
      else s.remainingConfirmSeconds
    let ticked : BootManager :=
      { s with elapsedSeconds := s.elapsedSeconds + 1, remainingConfirmSeconds := remaining }
    if remaining = 0 then ((ticked.rollback BootError.confirmTimeout).persistState io).1 else ticked
  else { s with elapsedSeconds := s.elapsedSeconds + 1 }

/-- A runtime call: load, change the record, save it or take the change back. -/
def changeForRuntime (change : BootMetadata → BootMetadata) (io : StorageIo) : BootManager × Bool :=
  match s.loadOrInitializeMetadata io with
  | (s, false) => (s, false)
  | (s, true) => s.persistOrRestore (change s.metadata) io

def recordRecoveryRestartIntentForRuntime (cause : ResetCause)
    (source : RecoveryIncidentSource) (level : RecoveryLevel) (io : StorageIo) : BootManager × Bool :=
  s.changeForRuntime (fun m => m.recordIntent cause source level) io

def acknowledgeRuntimeStableForRuntime (io : StorageIo) : BootManager × Bool :=
  s.changeForRuntime BootMetadata.acknowledgeStable io

def powerOn (file : Option Bytes) : BootManager := { file }

/-- A new process: the constructor loads, and the configuration of the storage roots loads
again and counts the boot. Both loads work on one file: the persistent root is the default
one, where the store of the constructor looks. -/
def restart (construct configure : StorageIo) : BootManager :=
  let constructed := ((powerOn s.file).loadOrInitializeMetadata construct).1
  (({ constructed with loaded := false, runtimeBootInitialized := false } :
    BootManager).initializeRuntimeBoot configure).1

end BootManager

inductive BootInput
  | bootStatus (io : StorageIo)
  | prepareUpdate (imageSize : UInt32) (digest : Bytes) (io : StorageIo)
  | verifyStagedImage (path : Bytes) (fs : FileSystem) (io : StorageIo)
  | activateStagedImage (fs : FileSystem) (io : StorageIo)
  | confirm (io : StorageIo)
  | rollback (io : StorageIo)
  | schedIn (io : StorageIo)
  | recordIntent (cause : ResetCause) (source : RecoveryIncidentSource) (level : RecoveryLevel)
      (io : StorageIo)
  | acknowledgeStable (io : StorageIo)
  | restart (construct configure : StorageIo)

inductive BootOutput
  | response (response : CmdResponse)
  | returned (ok : Bool)
deriving DecidableEq

namespace BootManager

def step (env : BootEnv) (s : BootManager) : BootInput → BootManager × List BootOutput
  | .bootStatus io => let r := s.bootStatus io; (r.1, [.response r.2])
  | .prepareUpdate imageSize digest io =>
    let r := s.bootPrepareUpdate imageSize digest io; (r.1, [.response r.2])
  | .verifyStagedImage path fs io =>
    let r := s.bootVerifyStagedImage env path fs io; (r.1, [.response r.2])
  | .activateStagedImage fs io =>
    let r := s.bootActivateStagedImage env fs io; (r.1, [.response r.2])
  | .confirm io => let r := s.bootConfirm io; (r.1, [.response r.2])
  | .rollback io => let r := s.bootRollback io; (r.1, [.response r.2])
  | .schedIn io => (s.schedIn io, [])
  | .recordIntent cause source level io =>
    let r := s.recordRecoveryRestartIntentForRuntime cause source level io; (r.1, [.returned r.2])
  | .acknowledgeStable io =>
    let r := s.acknowledgeRuntimeStableForRuntime io; (r.1, [.returned r.2])
  | .restart construct configure => (s.restart construct configure, [])

def machine (env : BootEnv) : Machine BootManager BootInput BootOutput := ⟨step env⟩

end BootManager

end ObcFlight
