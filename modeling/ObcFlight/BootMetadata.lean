import ObcFlight.KeyValueText
import ObcFlight.Numerals

/-!
# The boot metadata record and its file

BootMetadataStore keeps the boot manager's record as a text of key-value lines. This is
the store: the record with its defaults, the text that save writes, and load, which knows
the present schema and an older one without trust fields.
-/

namespace ObcFlight

inductive BootSlot
  | slotA
  | slotB
  | none
deriving DecidableEq, Repr

/-! The three enumerations below are read from the file by a cast from the number written
there, so every byte is a possible value. -/

abbrev ResetCause := UInt8

namespace ResetCause

def unknown : ResetCause := 0
def recoveryWatchdog : ResetCause := 1
def recoveryEpsTimeout : ResetCause := 2
def recoveryAdcsFdir : ResetCause := 3
def recoveryCommFdir : ResetCause := 4

end ResetCause

abbrev RecoveryIncidentSource := UInt8

def RecoveryIncidentSource.none : RecoveryIncidentSource := 255

abbrev RecoveryLevel := UInt8

def RecoveryLevel.r0RecordOnly : RecoveryLevel := 0

namespace BootTrust

def statusUnverified : UInt32 := 0
def statusTrusted : UInt32 := 1
def statusRejected : UInt32 := 2
def statusPending : UInt32 := 3
def statusConfirmed : UInt32 := 4

def rejectNone : UInt32 := 0
def rejectManifestMissing : UInt32 := 11
def rejectManifestMalformed : UInt32 := 12
def rejectSignerUnknown : UInt32 := 13
def rejectSignatureInvalid : UInt32 := 14
def rejectVersionDowngrade : UInt32 := 15
def rejectTargetSlotMismatch : UInt32 := 16
def rejectConfigInvalid : UInt32 := 17
def rejectManifestDigestMismatch : UInt32 := 18
def rejectManifestSizeMismatch : UInt32 := 19
def rejectImagePathMismatch : UInt32 := 20

end BootTrust

structure BootMetadata where
  schemaVersion : UInt32 := 4
  activeSlot : BootSlot := .slotA
  pendingSlot : BootSlot := .none
  lastKnownGoodSlot : BootSlot := .slotA
  confirmed : Bool := true
  expectedDigest : Bytes := []
  expectedSize : UInt32 := 0
  lastBootAttemptTime : UInt32 := 0
  lastErrorCode : UInt32 := 0
  stageVerified : Bool := false
  stagedPath : Bytes := []
  manifestPath : Bytes := []
  manifestImagePath : Bytes := []
  trustStatus : UInt32 := 0
  trustRejectReason : UInt32 := 0
  imageId : Bytes := []
  stagedSoftwareVersion : UInt32 := 0
  activeSoftwareVersion : UInt32 := 0
  pendingSoftwareVersion : UInt32 := 0
  lastKnownGoodSoftwareVersion : UInt32 := 0
  lastAcceptedVersion : UInt32 := 0
  signerId : Bytes := []
  keySlot : UInt32 := 0
  signatureAlgorithm : Bytes := []
  resetCause : ResetCause := ResetCause.unknown
  bootCount : UInt32 := 0
  consecutiveResetCount : UInt32 := 0
  lastRecoverySource : RecoveryIncidentSource := RecoveryIncidentSource.none
  lastRecoveryLevel : RecoveryLevel := RecoveryLevel.r0RecordOnly
  bootSafeFallbackRequired : Bool := false
  recoveryResetPending : Bool := false
deriving DecidableEq, Repr

def bootText : LineFormat UInt8 where
  newline := 10
  delimiter := 61
  isSpace := isSpace
  newline_space := rfl
  delimiter_solid := rfl

inductive MetadataKey
  | schemaVersion
  | activeSlot
  | pendingSlot
  | lastKnownGoodSlot
  | confirmed
  | expectedDigest
  | expectedSize
  | lastBootAttemptTime
  | lastErrorCode
  | stageVerified
  | stagedPath
  | manifestPath
  | manifestImagePath
  | trustStatus
  | trustRejectReason
  | imageId
  | stagedSoftwareVersion
  | activeSoftwareVersion
  | pendingSoftwareVersion
  | lastKnownGoodSoftwareVersion
  | lastAcceptedVersion
  | signerId
  | keySlot
  | signatureAlgorithm
  | resetCause
  | bootCount
  | consecutiveResetCount
  | lastRecoverySource
  | lastRecoveryLevel
  | bootSafeFallbackRequired
  | recoveryResetPending
deriving DecidableEq, Repr

namespace MetadataKey

/-- The lines of the file in the order in which save writes them. -/
def order : List MetadataKey :=
  [schemaVersion, activeSlot, pendingSlot, lastKnownGoodSlot, confirmed, expectedDigest,
    expectedSize, lastBootAttemptTime, lastErrorCode, stageVerified, stagedPath, manifestPath,
    manifestImagePath, trustStatus, trustRejectReason, imageId, stagedSoftwareVersion,
    activeSoftwareVersion, pendingSoftwareVersion, lastKnownGoodSoftwareVersion,
    lastAcceptedVersion, signerId, keySlot, signatureAlgorithm, resetCause, bootCount,
    consecutiveResetCount, lastRecoverySource, lastRecoveryLevel, bootSafeFallbackRequired,
    recoveryResetPending]

def name : MetadataKey → Bytes
  | schemaVersion => ascii "schema_version"
  | activeSlot => ascii "active_slot"
  | pendingSlot => ascii "pending_slot"
  | lastKnownGoodSlot => ascii "last_known_good_slot"
  | confirmed => ascii "confirmed"
  | expectedDigest => ascii "expected_digest"
  | expectedSize => ascii "expected_size"
  | lastBootAttemptTime => ascii "last_boot_attempt_time"
  | lastErrorCode => ascii "last_error_code"
  | stageVerified => ascii "stage_verified"
  | stagedPath => ascii "staged_path"
  | manifestPath => ascii "manifest_path"
  | manifestImagePath => ascii "manifest_image_path"
  | trustStatus => ascii "trust_status"
  | trustRejectReason => ascii "trust_reject_reason"
  | imageId => ascii "image_id"
  | stagedSoftwareVersion => ascii "staged_software_version"
  | activeSoftwareVersion => ascii "active_software_version"
  | pendingSoftwareVersion => ascii "pending_software_version"
  | lastKnownGoodSoftwareVersion => ascii "last_known_good_software_version"
  | lastAcceptedVersion => ascii "last_accepted_version"
  | signerId => ascii "signer_id"
  | keySlot => ascii "key_slot"
  | signatureAlgorithm => ascii "signature_algorithm"
  | resetCause => ascii "reset_cause"
  | bootCount => ascii "boot_count"
  | consecutiveResetCount => ascii "consecutive_reset_count"
  | lastRecoverySource => ascii "last_recovery_source"
  | lastRecoveryLevel => ascii "last_recovery_level"
  | bootSafeFallbackRequired => ascii "boot_safe_fallback_required"
  | recoveryResetPending => ascii "recovery_reset_pending"

end MetadataKey

namespace BootMetadataStore

def slotToString : BootSlot → Bytes
  | .slotA => ascii "SLOT_A"
  | .slotB => ascii "SLOT_B"
  | .none => ascii "NONE"

def parseSlot (value : Bytes) : Option BootSlot :=
  if value = ascii "SLOT_A" then some .slotA
  else if value = ascii "SLOT_B" then some .slotB
  else if value = ascii "NONE" then some .none
  else Option.none

def boolToString (value : Bool) : Bytes := if value then ascii "1" else ascii "0"

def parseBool (value : Bytes) : Option Bool :=
  if value = ascii "1" ∨ value = ascii "true" then some true
  else if value = ascii "0" ∨ value = ascii "false" then some false
  else none

def unsignedToString (value : UInt32) : Bytes := decimal value.toNat

def parseUnsignedValue (value : Bytes) : Option UInt32 :=
  if value = [] ∨ ¬ value.all isDigit then none
  else if 4294967295 < decimalValue value then none
  else some (UInt32.ofNat (decimalValue value))

end BootMetadataStore

open BootMetadataStore

namespace BootMetadata

def field (m : BootMetadata) : MetadataKey → Bytes
  | .schemaVersion => unsignedToString m.schemaVersion
  | .activeSlot => slotToString m.activeSlot
  | .pendingSlot => slotToString m.pendingSlot
  | .lastKnownGoodSlot => slotToString m.lastKnownGoodSlot
  | .confirmed => boolToString m.confirmed
  | .expectedDigest => m.expectedDigest
  | .expectedSize => unsignedToString m.expectedSize
  | .lastBootAttemptTime => unsignedToString m.lastBootAttemptTime
  | .lastErrorCode => unsignedToString m.lastErrorCode
  | .stageVerified => boolToString m.stageVerified
  | .stagedPath => m.stagedPath
  | .manifestPath => m.manifestPath
  | .manifestImagePath => m.manifestImagePath
  | .trustStatus => unsignedToString m.trustStatus
  | .trustRejectReason => unsignedToString m.trustRejectReason
  | .imageId => m.imageId
  | .stagedSoftwareVersion => unsignedToString m.stagedSoftwareVersion
  | .activeSoftwareVersion => unsignedToString m.activeSoftwareVersion
  | .pendingSoftwareVersion => unsignedToString m.pendingSoftwareVersion
  | .lastKnownGoodSoftwareVersion => unsignedToString m.lastKnownGoodSoftwareVersion
  | .lastAcceptedVersion => unsignedToString m.lastAcceptedVersion
  | .signerId => m.signerId
  | .keySlot => unsignedToString m.keySlot
  | .signatureAlgorithm => m.signatureAlgorithm
  | .resetCause => unsignedToString m.resetCause.toUInt32
  | .bootCount => unsignedToString m.bootCount
  | .consecutiveResetCount => unsignedToString m.consecutiveResetCount
  | .lastRecoverySource => unsignedToString m.lastRecoverySource.toUInt32
  | .lastRecoveryLevel => unsignedToString m.lastRecoveryLevel.toUInt32
  | .bootSafeFallbackRequired => boolToString m.bootSafeFallbackRequired
  | .recoveryResetPending => boolToString m.recoveryResetPending

def entries (m : BootMetadata) : List (Bytes × Bytes) :=
  MetadataKey.order.map fun key => (key.name, m.field key)

def text (m : BootMetadata) : Bytes := bootText.render m.entries

end BootMetadata

namespace BootMetadataStore

variable (get : MetadataKey → Bytes)

def hasEntry (key : MetadataKey) : Bool := get key ≠ []

def requiredKeys : List MetadataKey :=
  [.activeSlot, .pendingSlot, .lastKnownGoodSlot, .confirmed, .expectedSize, .lastBootAttemptTime,
    .lastErrorCode, .stageVerified]

def trustKeys : List MetadataKey :=
  [.schemaVersion, .trustStatus, .trustRejectReason, .lastAcceptedVersion]

def readRequired : Option BootMetadata := do
  guard (requiredKeys.all (hasEntry get))
  let activeSlot ← parseSlot (get .activeSlot)
  let pendingSlot ← parseSlot (get .pendingSlot)
  let lastKnownGoodSlot ← parseSlot (get .lastKnownGoodSlot)
  let confirmed ← parseBool (get .confirmed)
  let expectedSize ← parseUnsignedValue (get .expectedSize)
  let lastBootAttemptTime ← parseUnsignedValue (get .lastBootAttemptTime)
  let lastErrorCode ← parseUnsignedValue (get .lastErrorCode)
  let stageVerified ← parseBool (get .stageVerified)
  let expectedDigest := (get .expectedDigest).map toLower
  let stagedPath := get .stagedPath
  return { activeSlot, pendingSlot, lastKnownGoodSlot, confirmed, expectedSize,
           lastBootAttemptTime, lastErrorCode, stageVerified, expectedDigest, stagedPath }

/-- A file without trust fields: nothing is staged and no version was ever accepted. -/
def legacy (parsed : BootMetadata) : BootMetadata :=
  { parsed with
    schemaVersion := 2
    trustStatus := if parsed.confirmed then BootTrust.statusConfirmed else BootTrust.statusUnverified
    trustRejectReason := BootTrust.rejectNone
    lastAcceptedVersion := 0
    activeSoftwareVersion := 0
    lastKnownGoodSoftwareVersion := 0
    stageVerified := false
    stagedPath := [] }

def readTrust (parsed : BootMetadata) : Option BootMetadata := do
  let schemaVersion ← parseUnsignedValue (get .schemaVersion)
  let trustStatus ← parseUnsignedValue (get .trustStatus)
  let trustRejectReason ← parseUnsignedValue (get .trustRejectReason)
  let stagedSoftwareVersion ← parseUnsignedValue (get .stagedSoftwareVersion)
  let activeSoftwareVersion ← parseUnsignedValue (get .activeSoftwareVersion)
  let pendingSoftwareVersion ← parseUnsignedValue (get .pendingSoftwareVersion)
  let lastKnownGoodSoftwareVersion ← parseUnsignedValue (get .lastKnownGoodSoftwareVersion)
  let lastAcceptedVersion ← parseUnsignedValue (get .lastAcceptedVersion)
  let keySlot ← parseUnsignedValue (get .keySlot)
  return { parsed with
           schemaVersion, trustStatus, trustRejectReason, stagedSoftwareVersion,
           activeSoftwareVersion, pendingSoftwareVersion, lastKnownGoodSoftwareVersion,
           lastAcceptedVersion, keySlot
           manifestPath := get .manifestPath
           manifestImagePath := get .manifestImagePath
           imageId := get .imageId
           signerId := get .signerId
           signatureAlgorithm := get .signatureAlgorithm }

def readOptional {α : Type} (key : MetadataKey)
    (parse : Bytes → Option α) (default : α) : Option α :=
  if hasEntry get key then parse (get key) else some default

def parseEnum (value : Bytes) : Option UInt8 := (parseUnsignedValue value).map UInt32.toUInt8

def readRecovery (parsed : BootMetadata) : Option BootMetadata := do
  let resetCause ← readOptional get .resetCause parseEnum parsed.resetCause
  let bootCount ← readOptional get .bootCount parseUnsignedValue parsed.bootCount
  let consecutiveResetCount ←
    readOptional get .consecutiveResetCount parseUnsignedValue parsed.consecutiveResetCount
  let lastRecoverySource ← readOptional get .lastRecoverySource parseEnum parsed.lastRecoverySource
  let lastRecoveryLevel ← readOptional get .lastRecoveryLevel parseEnum parsed.lastRecoveryLevel
  let bootSafeFallbackRequired ←
    readOptional get .bootSafeFallbackRequired parseBool parsed.bootSafeFallbackRequired
  let recoveryResetPending ←
    readOptional get .recoveryResetPending parseBool parsed.recoveryResetPending
  return { parsed with
           resetCause, bootCount, consecutiveResetCount, lastRecoverySource, lastRecoveryLevel,
           bootSafeFallbackRequired, recoveryResetPending }

def readMetadata : Option BootMetadata := do
  let parsed ← readRequired get
  if trustKeys.all (hasEntry get) then
    let parsed ← readTrust get parsed
    readRecovery get parsed
  else
    return legacy parsed

/-- What load makes of the contents of an existing, readable file. -/
def loadText (contents : Bytes) : Option BootMetadata := do
  let entries ← bootText.parse contents
  readMetadata fun key => LineFormat.value entries key.name

end BootMetadataStore

end ObcFlight
