import ObcFlight.BootTransitions
import ObcFlight.SignedManifest

/-!
# An honest update goes through

The forward direction of the update commands: when a newer image and its signed manifest lie
in the staging area and nothing waits for a confirmation, prepare, verify and activate are
answered OK one after the other and leave the switched record in memory and file.
-/

namespace ObcFlight

open BootMetadataStore BootManifestVerifier

namespace BootManager

variable {env : BootEnv} {s t : BootManager} {io : StorageIo}

theorem loadOrInitializeMetadata_of_loaded (h : s.loaded = true) :
    s.loadOrInitializeMetadata io = (s, true) := by
  rw [loadOrInitializeMetadata, if_pos h]

theorem whenLoaded_eq {body : BootManager → BootManager × CmdResponse}
    (h : s.loadOrInitializeMetadata io = (t, true)) : s.whenLoaded io body = body t := by
  rw [whenLoaded, h]

theorem persistAndRespond_written (h : io.persistSave = .written) :
    s.persistAndRespond io = ({ s with file := some s.metadata.text }, .ok) := by
  rw [persistAndRespond, persistState, h]
  rfl

theorem bootPrepareUpdate_eq {size : UInt32} {d : Bytes}
    (hl : s.loadOrInitializeMetadata io = (t, true)) (hid : ¬ t.metadata.AwaitsConfirm)
    (hsz : size ≠ 0) (hdg : isDigestFormatValid (normalizeDigest d) = true)
    (hs : io.persistSave = .written) :
    s.bootPrepareUpdate size d io =
      ({ t with
          file := some (t.metadata.prepare size (normalizeDigest d)).text
          metadata := t.metadata.prepare size (normalizeDigest d)
          updateProgress := BootProgress.prepared }, .ok) := by
  rw [bootPrepareUpdate, whenLoaded_eq hl, if_neg hid, if_neg (by simp [hsz, hdg]),
    persistAndRespond_written hs]

theorem bootVerifyStagedImage_eq {path : Bytes} {fs : FileSystem} {manifest : BootManifest}
    (hl : s.loadOrInitializeMetadata io = (t, true)) (he : Examines t.metadata path)
    (hf : StageFits t.metadata (env.resolveStagingPath path) fs)
    (hac : Accepts (stageDecision env t.metadata path fs) manifest)
    (hs : io.persistSave = .written) :
    s.bootVerifyStagedImage env path fs io =
      ({ t with
          file := some (t.metadata.acceptStage (env.resolveStagingPath path) manifest).text
          metadata := t.metadata.acceptStage (env.resolveStagingPath path) manifest
          updateProgress := BootProgress.verified }, .ok) := by
  have hdc : (stageDecision env t.metadata path fs).accepted = true := hac.1
  unfold stageDecision at hdc
  rw [bootVerifyStagedImage, whenLoaded_eq hl]
  dsimp only
  rw [if_neg (not_or.mpr ⟨he.size, he.digest⟩), if_neg he.path, hf.size]
  dsimp only
  rw [if_neg (not_not.mpr rfl), hf.digest, UInt32.ofNat_toNat]
  dsimp only
  rw [if_neg (not_not.mpr rfl), if_neg (not_not.mpr hdc), persistAndRespond_written hs, ← hac.2]
  rfl

theorem bootActivateStagedImage_eq {fs : FileSystem} {manifest : BootManifest}
    (hl : s.loadOrInitializeMetadata io = (t, true)) (hs : Staged t.metadata)
    (hvr : t.metadata.lastAcceptedVersion < t.metadata.stagedSoftwareVersion)
    (hf : StageFits t.metadata t.metadata.stagedPath fs)
    (hac : Accepts (activationDecision env t.metadata fs) manifest)
    (hsm : sameStage t.metadata manifest = true) (hsv : io.persistSave = .written) :
    s.bootActivateStagedImage env fs io =
      ({ t with
          file := some (t.metadata.switchSlot t.elapsedSeconds).text
          metadata := t.metadata.switchSlot t.elapsedSeconds
          remainingConfirmSeconds := defaultConfirmTimeoutSec
          updateProgress := BootProgress.activated }, .ok) := by
  have hvl : validateStagedTrust env t.metadata fs = activationDecision env t.metadata fs := by
    rw [validateStagedTrust, hf.size]
    dsimp only
    rw [if_neg (not_not.mpr rfl), hf.digest]
    dsimp only
    rw [if_neg (not_not.mpr rfl), UInt32.ofNat_toNat]
    rfl
  rw [bootActivateStagedImage, whenLoaded_eq hl]
  dsimp only
  rw [if_neg (by simp [hs.verified, hs.path, hs.trusted, hs.version]),
    if_neg (UInt32.not_le.mpr hvr), hvl, if_neg (not_not.mpr hac.1), hac.2,
    if_neg (not_not.mpr hsm), persistAndRespond_written hsv]

end BootManager

/-- An image and its signed manifest lie under the path, made for this record. -/
structure Delivered (env : BootEnv) (m : BootMetadata) (path : Bytes) (fs : FileSystem)
    (image : StagedFile) (manifest : BootManifest) : Prop where
  path_ne_nil : path ≠ []
  found : fs (env.resolveStagingPath path) = some image
  readable : image.readable = true
  nonempty : image.bytes ≠ []
  small : image.bytes.length < 2 ^ 32
  named : manifest.imagePath = path
  vouches : Vouches fs (resolveManifestPath (env.resolveStagingPath path)) path
    (UInt32.ofNat image.bytes.length) (bytesToHex (Sha256.hash image.bytes).1) m.inactiveSlot
    m.lastAcceptedVersion env.trust manifest

theorem normalizeDigest_bytesToHex (data : Bytes) : normalizeDigest (bytesToHex data) = bytesToHex data := by
  rw [normalizeDigest]
  refine (List.map_congr_left fun b hb => ?_).trans (List.map_id _)
  exact toLower_of_isLowerHexDigit b (isLowerHexDigit_of_mem_bytesToHex hb)

theorem isDigestFormatValid_bytesToHex (d : Digest) :
    isDigestFormatValid (bytesToHex d.1) = true := by
  have hl : (bytesToHex d.1).length = 64 := by rw [bytesToHex_length, d.2]
  have hne : bytesToHex d.1 ≠ [] := List.ne_nil_of_length_eq_add_one hl
  simp only [isDigestFormatValid, hl, Bool.and_eq_true, decide_eq_true_eq, List.all_eq_true]
  refine ⟨⟨⟨by simpa using hne, by decide⟩, by decide⟩, fun b hb => ?_⟩
  exact isHexDigit_of_isLowerHexDigit (isLowerHexDigit_of_mem_bytesToHex hb)

namespace Delivered

variable {env : BootEnv} {m : BootMetadata} {path : Bytes} {fs : FileSystem} {image : StagedFile}
  {manifest : BootManifest}

theorem size_toNat (h : Delivered env m path fs image manifest) :
    (UInt32.ofNat image.bytes.length).toNat = image.bytes.length :=
  UInt32.toNat_ofNat_of_lt' h.small

theorem size_ne_zero (h : Delivered env m path fs image manifest) :
    UInt32.ofNat image.bytes.length ≠ 0 := by
  intro hz
  have hl := h.size_toNat
  rw [hz] at hl
  exact h.nonempty (List.length_eq_zero_iff.mp hl.symm)

theorem digest_ne_nil (image : Bytes) : bytesToHex (Sha256.hash image).1 ≠ [] := by
  intro hnil
  have hvl := isDigestFormatValid_bytesToHex (Sha256.hash image)
  rw [hnil] at hvl
  cases hvl

theorem stageFits (h : Delivered env m path fs image manifest) {m' : BootMetadata}
    (hs : m'.expectedSize = UInt32.ofNat image.bytes.length)
    (hdg : m'.expectedDigest = bytesToHex (Sha256.hash image.bytes).1) :
    StageFits m' (env.resolveStagingPath path) fs := by
  refine ⟨?_, ?_⟩
  · rw [FileSystem.getFileSize, h.found, Option.map_some, hs, h.size_toNat]
  · exact computeDigestHex_eq_some.mpr ⟨image, h.found, h.readable, hdg⟩

theorem resolved_ne_nil (h : Delivered env m path fs image manifest) :
    env.resolveStagingPath path ≠ [] := by
  have hp := h.path_ne_nil
  unfold BootEnv.resolveStagingPath
  split_ifs <;> simp_all

end Delivered

namespace BootManager

variable {env : BootEnv} {s t : BootManager} {path : Bytes} {fs : FileSystem} {image : StagedFile}
  {manifest : BootManifest}

/-- The three commands that bring a delivered image into the inactive slot. -/
def updateCommands (path : Bytes) (fs : FileSystem) (image : StagedFile) : List BootInput :=
  [.prepareUpdate (UInt32.ofNat image.bytes.length) (bytesToHex (Sha256.hash image.bytes).1) {},
    .verifyStagedImage path fs {}, .activateStagedImage fs {}]

def updatedRecord (env : BootEnv) (m : BootMetadata) (path : Bytes) (image : StagedFile)
    (manifest : BootManifest) (now : UInt32) : BootMetadata :=
  ((m.prepare (UInt32.ofNat image.bytes.length) (bytesToHex (Sha256.hash image.bytes).1)).acceptStage
    (env.resolveStagingPath path) manifest).switchSlot now

theorem run_updateCommands (hl : s.loadOrInitializeMetadata {} = (t, true))
    (hid : ¬ t.metadata.AwaitsConfirm) (h : Delivered env t.metadata path fs image manifest) :
    (machine env).responses s (updateCommands path fs image) =
        [[.response .ok], [.response .ok], [.response .ok]] ∧
      (machine env).run s (updateCommands path fs image) =
        { t with
          file := some (updatedRecord env t.metadata path image manifest t.elapsedSeconds).text
          metadata := updatedRecord env t.metadata path image manifest t.elapsedSeconds
          remainingConfirmSeconds := defaultConfirmTimeoutSec
          updateProgress := BootProgress.activated } := by
  have hld : t.loaded = true := by
    have := (s.loadOrInitializeMetadata_loads {})
    rw [hl] at this
    exact this.loaded
  have hnr := normalizeDigest_bytesToHex (Sha256.hash image.bytes).1
  have hp := bootPrepareUpdate_eq hl hid h.size_ne_zero
    (by rw [hnr]; exact isDigestFormatValid_bytesToHex (Sha256.hash image.bytes)) rfl
  rw [hnr] at hp
  let size := UInt32.ofNat image.bytes.length
  let d := bytesToHex (Sha256.hash image.bytes).1
  let u : BootManager :=
    { t with
      file := some (t.metadata.prepare size d).text
      metadata := t.metadata.prepare size d
      updateProgress := BootProgress.prepared }
  have hf : StageFits u.metadata (env.resolveStagingPath path) fs := h.stageFits rfl rfl
  have hs : Accepts (stageDecision env u.metadata path fs) manifest :=
    verifyBootManifestFile_accepts_iff.mpr h.vouches
  have hvf := bootVerifyStagedImage_eq (s := u) (loadOrInitializeMetadata_of_loaded hld)
    ⟨h.size_ne_zero, Delivered.digest_ne_nil _, h.path_ne_nil⟩ hf hs
    (show ({} : StorageIo).persistSave = .written from rfl)
  let v : BootManager :=
    { u with
      file := some (u.metadata.acceptStage (env.resolveStagingPath path) manifest).text
      metadata := u.metadata.acceptStage (env.resolveStagingPath path) manifest
      updateProgress := BootProgress.verified }
  have hvr : t.metadata.lastAcceptedVersion < manifest.softwareVersion := h.vouches.version
  have hnew : manifest.softwareVersion ≠ 0 := by
    intro hz
    rw [hz] at hvr
    exact UInt32.not_lt_zero hvr
  have hst : Staged v.metadata := ⟨rfl, h.resolved_ne_nil, rfl, hnew⟩
  have hat : Accepts (activationDecision env v.metadata fs) manifest := by
    have hm : v.metadata.manifestPath ≠ [] := List.append_ne_nil_of_right_ne_nil _ (by decide)
    have him : v.metadata.manifestImagePath ≠ [] := by
      change manifest.imagePath ≠ []
      rw [h.named]
      exact h.path_ne_nil
    rw [activationDecision, if_neg hm, if_neg him, verifyBootManifestFile_accepts_iff]
    change Vouches _ _ manifest.imagePath _ _ _ _ _ _
    rw [h.named]
    exact h.vouches
  have hac := bootActivateStagedImage_eq (s := v) (loadOrInitializeMetadata_of_loaded hld)
    hst hvr (h.stageFits rfl rfl) hat (by simp [sameStage, v, BootMetadata.acceptStage])
    (show ({} : StorageIo).persistSave = .written from rfl)
  refine ⟨?_, ?_⟩
  · simp only [updateCommands, machine, Machine.responses, step, hp]
    rw [hvf]
    dsimp only
    rw [hac]
  · simp only [updateCommands, machine, Machine.run, step, hp]
    rw [hvf]
    dsimp only
    rw [hac]
    rfl

end BootManager

theorem isLowerHex_bytesToHex (d : Digest) : isLowerHex (bytesToHex d.1) 64 = true := by
  refine isLowerHex_iff.mpr ⟨?_, fun b hb => isLowerHexDigit_of_mem_bytesToHex hb⟩
  rw [bytesToHex_length, d.2]

def releaseManifest (trust : BootTrustConfig) (slot : BootSlot) (path imageId image : Bytes)
    (version : UInt32) : BootManifest :=
  { imagePath := path, imageSize := UInt32.ofNat image.length
    imageDigest := bytesToHex (Sha256.hash image).1, targetSlot := slot, imageId := imageId
    softwareVersion := version, signerId := trust.trustedSignerId, keySlot := trust.trustedKeySlot
    signatureAlgorithm := ascii "hmac-sha256" }

def releaseFiles (path image : Bytes) (manifest : BootManifest) : FileSystem := fun p =>
  if p = path then some { bytes := image }
  else if p = resolveManifestPath path then some { bytes := manifest.text }
  else none

theorem resolveManifestPath_ne (path : Bytes) : resolveManifestPath path ≠ path := by
  intro hs
  have hl := congrArg List.length hs
  rw [resolveManifestPath, List.length_append] at hl
  have hsf : (ascii ".manifest-v1").length = 12 := by decide
  omega

theorem releaseFiles_manifest (path image : Bytes) (manifest : BootManifest) :
    releaseFiles path image manifest (resolveManifestPath path) = some { bytes := manifest.text } := by
  rw [releaseFiles, if_neg (resolveManifestPath_ne path), if_pos rfl]

theorem delivered_release {env : BootEnv} {m : BootMetadata} {path i image key : Bytes}
    {v : UInt32} {manifest : BootManifest} (hp : bootText.Clean path ∧ path ≠ [])
    (hid : bootText.Clean i ∧ i ≠ []) (him : image ≠ []) (hs : image.length < 2 ^ 32)
    (hvr : m.lastAcceptedVersion < v) (hsn : bootText.Clean env.trust.trustedSignerId)
    (hm : manifest = releaseManifest env.trust m.inactiveSlot path i image v)
    (hkey : validateConfig manifest env.trust = some key)
    (hln : (manifest.signed key).text.length ≤ maxManifestBytes) :
    Delivered env m path (releaseFiles (env.resolveStagingPath path) image (manifest.signed key))
      { bytes := image } (manifest.signed key) := by
  subst hm
  have hsl : m.inactiveSlot ≠ .none := by
    unfold BootMetadata.inactiveSlot
    split_ifs <;> decide
  have hc := hkey
  simp only [validateConfig, bind, Option.bind_eq_some_iff, Option.guard_eq_some'] at hc
  obtain ⟨-, -, -, ⟨hsg, -⟩, -, ⟨hk, -⟩, -⟩ := hc
  have hsz : UInt32.ofNat image.length ≠ 0 := by
    intro hz
    have ht : (UInt32.ofNat image.length).toNat = image.length := UInt32.toNat_ofNat_of_lt' hs
    rw [hz] at ht
    exact him (List.length_eq_zero_iff.mp ht.symm)
  have hnew : v ≠ 0 := by
    rintro rfl
    exact UInt32.not_lt_zero hvr
  have hl : ((releaseManifest env.trust m.inactiveSlot path i image v).signed key).Legal :=
    ⟨hp, hsz, isLowerHex_bytesToHex _, hsl, hid, hnew, ⟨hsn, hsg⟩, hk, rfl, isLowerHex_bytesToHex _⟩
  exact ⟨hp.2, if_pos rfl, rfl, him, hs, rfl,
    BootManifest.vouches_signed hl hkey (releaseFiles_manifest _ _ _) rfl rfl hln hvr⟩

/-- A first update, under the configuration that the repository ships. -/
def firstImage : Bytes := ascii "image"

def firstPath : Bytes := ascii "app.bin"

def developmentKey : Bytes := ascii "BOOT_TRUST_CHAIN_V1_DEV_KEY"

def firstManifest : BootManifest :=
  (releaseManifest {} .slotB firstPath (ascii "app") firstImage 1).signed developmentKey

def firstFiles : FileSystem :=
  releaseFiles (({} : BootEnv).resolveStagingPath firstPath) firstImage firstManifest

theorem firstManifest_length : firstManifest.text.length ≤ maxManifestBytes := by
  have hdg (digest : Digest) : (bytesToHex digest.1).length = 64 := by
    rw [bytesToHex_length, digest.2]
  rw [BootManifest.text_eq_render, LineFormat.render, List.length_flatMap]
  simp only [BootManifest.entries, ManifestKey.required, List.map_cons, List.map_nil,
    LineFormat.renderEntry, BootManifest.field, List.length_append, List.length_cons, firstManifest,
    BootManifest.signed, releaseManifest, hdg]
  decide +kernel

theorem firstDelivered : Delivered {} BootManager.initialMetadata firstPath firstFiles
    { bytes := firstImage } firstManifest :=
  delivered_release ⟨clean_of_solid (solid_of_all (by decide)), by decide⟩
    ⟨clean_of_solid (solid_of_all (by decide)), by decide⟩ (by decide) (by decide) (by decide)
    (clean_of_solid (solid_of_all (by decide))) rfl (by rfl) firstManifest_length

end ObcFlight
