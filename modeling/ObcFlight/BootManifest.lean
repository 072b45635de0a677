import ObcFlight.BootMetadata
import ObcFlight.CommandAuthCrypto

/-!
# The signed manifest of a staged image

A staged image is accepted on the word of the manifest beside it: a text of key-value
lines that names path, size, digest, slot and version of the image and carries an HMAC
over these fields. This is the verifier as the flight software has it, over a snapshot of
the file system.
-/

namespace ObcFlight

open CommandAuthCrypto

structure StagedFile where
  bytes : Bytes
  readable : Bool := true

abbrev FileSystem := Bytes → Option StagedFile

namespace FileSystem

def getFileSize (fs : FileSystem) (path : Bytes) : Option ℕ := (fs path).map fun f => f.bytes.length

end FileSystem

namespace BootMetadataStore

/-- The read loop of computeDigestHex; every iteration but the last consumes a byte. -/
def hashChunks : ℕ → Sha256Accumulator → Bytes → Sha256Accumulator
  | 0, hash, _ => hash
  | fuel + 1, hash, data =>
    if data = [] then hash else hashChunks fuel (hash.update (data.take 256)) (data.drop 256)

def computeDigestHex (fs : FileSystem) (filePath : Bytes) : Option Bytes := do
  let file ← fs filePath
  guard file.readable
  return bytesToHex (hashChunks file.bytes.length Sha256Accumulator.new file.bytes).final.1

end BootMetadataStore

structure BootTrustConfig where
  algorithm : Bytes := ascii "hmac-sha256"
  trustedSignerId : Bytes := ascii "repo-dev-boot-signer"
  trustedKeySlot : UInt32 := 1
  trustedKeyHex : Bytes := ascii "424f4f545f54525553545f434841494e5f56315f4445565f4b4559"

structure BootManifest where
  imagePath : Bytes := []
  imageSize : UInt32 := 0
  imageDigest : Bytes := []
  targetSlot : BootSlot := .none
  imageId : Bytes := []
  softwareVersion : UInt32 := 0
  signerId : Bytes := []
  keySlot : UInt32 := 0
  signatureAlgorithm : Bytes := []
  signature : Bytes := []
deriving DecidableEq, Repr

structure BootManifestDecision where
  accepted : Bool := false
  rejectReason : UInt32 := BootTrust.rejectNone
  manifest : BootManifest := {}

inductive ManifestKey
  | schema
  | imagePath
  | imageSize
  | imageDigest
  | targetSlot
  | imageId
  | softwareVersion
  | signerId
  | keySlot
  | signatureAlgorithm
  | signature
deriving DecidableEq, Repr

namespace ManifestKey

def required : List ManifestKey :=
  [schema, imagePath, imageSize, imageDigest, targetSlot, imageId, softwareVersion, signerId,
    keySlot, signatureAlgorithm, signature]

def name : ManifestKey → Bytes
  | schema => ascii "schema"
  | imagePath => ascii "image_path"
  | imageSize => ascii "image_size"
  | imageDigest => ascii "image_digest_sha256"
  | targetSlot => ascii "target_slot"
  | imageId => ascii "image_id"
  | softwareVersion => ascii "software_version"
  | signerId => ascii "signer_id"
  | keySlot => ascii "key_slot"
  | signatureAlgorithm => ascii "signature_algorithm"
  | signature => ascii "signature"

end ManifestKey

namespace BootManifestVerifier

open BootMetadataStore

def maxManifestBytes : ℕ := 4096

def readFile (fs : FileSystem) (path : Bytes) : Option Bytes := do
  let file ← fs path
  guard (file.bytes.length ≠ 0 ∧ file.bytes.length ≤ maxManifestBytes)
  guard file.readable
  return file.bytes

abbrev parseUnsigned (value : Bytes) : Option UInt32 := parseUnsignedValue value

def isLowerHex (value : Bytes) (expectedLength : ℕ) : Bool :=
  value.length = expectedLength && value.all isLowerHexDigit

/-- The slot of a manifest; unlike the store's parseSlot it knows no NONE. -/
def parseSlot (value : Bytes) : Option BootSlot :=
  if value = ascii "SLOT_A" then some .slotA
  else if value = ascii "SLOT_B" then some .slotB
  else Option.none

def basenameOf (path : Bytes) : Bytes := path.rtakeWhile (· ≠ 47)

/-- The lines of a manifest; no key may be empty or come twice. -/
def manifestEntries (contents : Bytes) : Option (List (Bytes × Bytes)) := do
  let entries ← bootText.parse contents
  guard ([] ∉ entries.map Prod.fst ∧ (entries.map Prod.fst).Nodup)
  return entries

/-- The checks of parseManifest on the entries. A number that was read before a later
check fails stays in the manifest. -/
def fillManifest (get : ManifestKey → Bytes) : Bool × BootManifest :=
  if ManifestKey.required.any fun key => get key = [] then (false, {})
  else if get .schema ≠ ascii "boot_manifest_v1" then (false, {})
  else
    match parseUnsigned (get .imageSize) with
    | none => (false, {})
    | some imageSize =>
      if imageSize = 0 then (false, {})
      else if ¬ isLowerHex (get .imageDigest) 64 then (false, { imageSize })
      else
        match parseSlot (get .targetSlot) with
        | none => (false, { imageSize })
        | some targetSlot =>
          match parseUnsigned (get .softwareVersion) with
          | none => (false, { imageSize, targetSlot })
          | some softwareVersion =>
            if softwareVersion = 0 then (false, { imageSize, targetSlot })
            else
              match parseUnsigned (get .keySlot) with
              | none => (false, { imageSize, targetSlot, softwareVersion })
              | some keySlot =>
                if keySlot = 0 then (false, { imageSize, targetSlot, softwareVersion })
                else if get .signatureAlgorithm ≠ ascii "hmac-sha256" then
                  (false, { imageSize, targetSlot, softwareVersion, keySlot })
                else if ¬ isLowerHex (get .signature) 64 then
                  (false, { imageSize, targetSlot, softwareVersion, keySlot })
                else
                  (true, { imageSize, targetSlot, softwareVersion, keySlot
                           imagePath := get .imagePath
                           imageDigest := get .imageDigest
                           imageId := get .imageId
                           signerId := get .signerId
                           signatureAlgorithm := get .signatureAlgorithm
                           signature := get .signature })

def parseManifest (contents : Bytes) : Bool × BootManifest :=
  match manifestEntries contents with
  | none => (false, {})
  | some entries => fillManifest fun key => LineFormat.value entries key.name

variable (manifest : BootManifest)

def canonicalEntries : List (Bytes × Bytes) :=
  [(ManifestKey.schema.name, ascii "boot_manifest_v1"),
    (ManifestKey.imagePath.name, manifest.imagePath),
    (ManifestKey.imageSize.name, unsignedToString manifest.imageSize),
    (ManifestKey.imageDigest.name, manifest.imageDigest),
    (ManifestKey.targetSlot.name,
      if manifest.targetSlot = .slotA then ascii "SLOT_A" else ascii "SLOT_B"),
    (ManifestKey.imageId.name, manifest.imageId),
    (ManifestKey.softwareVersion.name, unsignedToString manifest.softwareVersion),
    (ManifestKey.signerId.name, manifest.signerId),
    (ManifestKey.keySlot.name, unsignedToString manifest.keySlot),
    (ManifestKey.signatureAlgorithm.name, manifest.signatureAlgorithm)]

def canonicalManifestPayload : Bytes := bootText.render (canonicalEntries manifest)

/-- The key bytes when the manifest names the configured signer and key slot. -/
def validateConfig (config : BootTrustConfig) : Option Bytes := do
  guard (config.algorithm = ascii "hmac-sha256" ∧ manifest.signatureAlgorithm = ascii "hmac-sha256")
  guard (config.trustedSignerId ≠ [] ∧ config.trustedSignerId = manifest.signerId)
  guard (config.trustedKeySlot ≠ 0 ∧ config.trustedKeySlot = manifest.keySlot)
  let keyBytes ← parseHexBytes config.trustedKeyHex
  guard (keyBytes ≠ [])
  return keyBytes

def computeBootManifestSignatureHex (config : BootTrustConfig) : Option Bytes := do
  let keyBytes ← validateConfig manifest config
  let digest ← hmacSha256 keyBytes (canonicalManifestPayload manifest)
  return bytesToHex digest.1

def signatureMatches (expected actual : Bytes) : Bool :=
  match parseHexBytes expected, parseHexBytes actual with
  | some expectedBytes, some actualBytes =>
    expectedBytes.length = actualBytes.length && constantTimeEqual expectedBytes actualBytes
  | _, _ => false

/-- The checks on a manifest that was read and parsed; the first that fails is the reason. -/
def judgeManifest (requestedImagePath : Bytes) (actualImageSize : UInt32)
    (actualImageDigest : Bytes) (expectedSlot : BootSlot) (lastAcceptedVersion : UInt32)
    (config : BootTrustConfig) : Option UInt32 :=
  if manifest.imagePath ≠ requestedImagePath ∧ manifest.imagePath ≠ basenameOf requestedImagePath then
    some BootTrust.rejectImagePathMismatch
  else if manifest.imageSize ≠ actualImageSize then some BootTrust.rejectManifestSizeMismatch
  else if manifest.imageDigest ≠ actualImageDigest then some BootTrust.rejectManifestDigestMismatch
  else if manifest.targetSlot ≠ expectedSlot then some BootTrust.rejectTargetSlotMismatch
  else if manifest.softwareVersion ≤ lastAcceptedVersion then some BootTrust.rejectVersionDowngrade
  else if (validateConfig manifest config).isNone then some BootTrust.rejectSignerUnknown
  else
    match computeBootManifestSignatureHex manifest config with
    | none => some BootTrust.rejectConfigInvalid
    | some expectedSignature =>
      if signatureMatches expectedSignature manifest.signature then none
      else some BootTrust.rejectSignatureInvalid

def verifyBootManifestFile (fs : FileSystem) (manifestPath requestedImagePath : Bytes)
    (actualImageSize : UInt32) (actualImageDigest : Bytes) (expectedSlot : BootSlot)
    (lastAcceptedVersion : UInt32) (config : BootTrustConfig) : BootManifestDecision :=
  match readFile fs manifestPath with
  | none => { rejectReason := BootTrust.rejectManifestMissing }
  | some contents =>
    match parseManifest contents with
    | (false, manifest) => { rejectReason := BootTrust.rejectManifestMalformed, manifest }
    | (true, manifest) =>
      match judgeManifest manifest requestedImagePath actualImageSize actualImageDigest expectedSlot
          lastAcceptedVersion config with
      | some rejectReason => { rejectReason, manifest }
      | none => { accepted := true, rejectReason := BootTrust.rejectNone, manifest }

end BootManifestVerifier

end ObcFlight
