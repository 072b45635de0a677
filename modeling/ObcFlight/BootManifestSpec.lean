import ObcFlight.BootManifest
import ObcFlight.BootMetadataText

/-!
# What the manifest verifier accepts

An accepted decision means that a well-formed manifest stood at the path, that it named
the image it was asked about, and that its signature is the HMAC of its canonical payload
under the configured key. Conversely the manifest that an honest signer writes is read back
as it was signed and is accepted.
-/

namespace ObcFlight

open CommandAuthCrypto

namespace BootMetadataStore

theorem hashChunks_represents {hash : Sha256Accumulator} {m : Bytes}
    (h : hash.Represents m) (fuel : ℕ) (data : Bytes) (hf : data.length ≤ fuel) :
    (hashChunks fuel hash data).Represents (m ++ data) := by
  induction fuel generalizing hash m data with
  | zero =>
    rw [List.length_eq_zero_iff.mp (by omega : data.length = 0), List.append_nil]
    exact h
  | succ _ ih =>
    rw [hashChunks]
    split_ifs with hdt
    · rw [hdt, List.append_nil]
      exact h
    · have hpos := List.length_pos_iff.mpr hdt
      have hnext := ih (h.update (data.take 256)) (data.drop 256) (by rw [List.length_drop]; omega)
      rwa [List.append_assoc, List.take_append_drop] at hnext

theorem computeDigestHex_eq_some {fs : FileSystem} {path d : Bytes} :
    computeDigestHex fs path = some d ↔
      ∃ file, fs path = some file ∧ file.readable = true ∧
        d = bytesToHex (Sha256.hash file.bytes).1 := by
  have hh (data : Bytes) :
      (hashChunks data.length Sha256Accumulator.new data).final = Sha256.hash data :=
    (hashChunks_represents Sha256Accumulator.new_represents _ data le_rfl).final_eq
  simp only [computeDigestHex, Option.bind_eq_bind, Option.bind_eq_some_iff, Option.guard_eq_some',
    Option.pure_def, Option.some.injEq, hh]
  constructor
  · rintro ⟨file, hf, _, hr, hdg⟩
    exact ⟨file, hf, hr, hdg.symm⟩
  · rintro ⟨file, hf, hr, hdg⟩
    exact ⟨file, hf, (), hr, hdg.symm⟩

end BootMetadataStore

namespace BootManifestVerifier

open BootMetadataStore

/-- What a manifest has to satisfy to be filled completely. -/
structure WellFormed (get : ManifestKey → Bytes) (manifest : BootManifest) : Prop where
  present : ∀ key ∈ ManifestKey.required, get key ≠ []
  schema : get .schema = ascii "boot_manifest_v1"
  imagePath : manifest.imagePath = get .imagePath
  imageSize : parseUnsigned (get .imageSize) = some manifest.imageSize
  imageSize_ne_zero : manifest.imageSize ≠ 0
  imageDigest : manifest.imageDigest = get .imageDigest
  imageDigest_hex : isLowerHex (get .imageDigest) 64 = true
  targetSlot : parseSlot (get .targetSlot) = some manifest.targetSlot
  imageId : manifest.imageId = get .imageId
  softwareVersion : parseUnsigned (get .softwareVersion) = some manifest.softwareVersion
  softwareVersion_ne_zero : manifest.softwareVersion ≠ 0
  signerId : manifest.signerId = get .signerId
  keySlot : parseUnsigned (get .keySlot) = some manifest.keySlot
  keySlot_ne_zero : manifest.keySlot ≠ 0
  signatureAlgorithm : manifest.signatureAlgorithm = get .signatureAlgorithm
  algorithm : get .signatureAlgorithm = ascii "hmac-sha256"
  signature : manifest.signature = get .signature
  signature_hex : isLowerHex (get .signature) 64 = true

theorem fillManifest_cases (get : ManifestKey → Bytes) :
    ((fillManifest get).1 = true ∧ WellFormed get (fillManifest get).2) ∨
      ((fillManifest get).1 = false ∧ (fillManifest get).2.imageId = [] ∧
        (fillManifest get).2.signerId = [] ∧ (fillManifest get).2.signatureAlgorithm = []) := by
  unfold fillManifest
  by_cases hp : ManifestKey.required.any (fun key => get key = []) = true
  · rw [if_pos hp]
    exact .inr ⟨rfl, rfl, rfl, rfl⟩
  rw [if_neg hp]
  by_cases hs : get .schema = ascii "boot_manifest_v1"
  swap
  · rw [if_pos hs]
    exact .inr ⟨rfl, rfl, rfl, rfl⟩
  rw [if_neg (not_not.mpr hs)]
  cases hsz : parseUnsigned (get .imageSize) with
  | none => exact .inr ⟨rfl, rfl, rfl, rfl⟩
  | some imageSize =>
  dsimp only
  by_cases hsize0 : imageSize = 0
  · rw [if_pos hsize0]
    exact .inr ⟨rfl, rfl, rfl, rfl⟩
  rw [if_neg hsize0]
  by_cases hdg : isLowerHex (get .imageDigest) 64 = true
  swap
  · rw [if_pos hdg]
    exact .inr ⟨rfl, rfl, rfl, rfl⟩
  rw [if_neg (not_not.mpr hdg)]
  cases hsl : parseSlot (get .targetSlot) with
  | none => exact .inr ⟨rfl, rfl, rfl, rfl⟩
  | some =>
  cases hvr : parseUnsigned (get .softwareVersion) with
  | none => exact .inr ⟨rfl, rfl, rfl, rfl⟩
  | some s =>
  dsimp only
  by_cases hversion0 : s = 0
  · rw [if_pos hversion0]
    exact .inr ⟨rfl, rfl, rfl, rfl⟩
  rw [if_neg hversion0]
  cases hkey : parseUnsigned (get .keySlot) with
  | none => exact .inr ⟨rfl, rfl, rfl, rfl⟩
  | some k =>
  dsimp only
  by_cases hkey0 : k = 0
  · rw [if_pos hkey0]
    exact .inr ⟨rfl, rfl, rfl, rfl⟩
  rw [if_neg hkey0]
  by_cases hal : get .signatureAlgorithm = ascii "hmac-sha256"
  swap
  · rw [if_pos hal]
    exact .inr ⟨rfl, rfl, rfl, rfl⟩
  rw [if_neg (not_not.mpr hal)]
  by_cases hsg : isLowerHex (get .signature) 64 = true
  swap
  · rw [if_pos hsg]
    exact .inr ⟨rfl, rfl, rfl, rfl⟩
  rw [if_neg (not_not.mpr hsg)]
  refine .inl ⟨rfl, ?_, hs, rfl, hsz, hsize0, rfl, hdg, hsl, rfl, hvr, hversion0,
    rfl, hkey, hkey0, rfl, hal, rfl, hsg⟩
  intro key hkey hnil
  exact hp (List.any_eq_true.mpr ⟨key, hkey, by simpa using hnil⟩)

variable {manifest : BootManifest}

theorem fillManifest_of_wellFormed {get : ManifestKey → Bytes} (h : WellFormed get manifest) :
    fillManifest get = (true, manifest) := by
  have hp : ¬ ManifestKey.required.any (fun key => get key = []) = true := by
    rw [List.any_eq_true]
    rintro ⟨key, hkey, hnil⟩
    exact h.present key hkey (by simpa using hnil)
  unfold fillManifest
  rw [if_neg hp, if_neg (not_not.mpr h.schema), h.imageSize]
  dsimp only
  rw [if_neg h.imageSize_ne_zero, if_neg (not_not.mpr h.imageDigest_hex), h.targetSlot,
    h.softwareVersion]
  dsimp only
  rw [if_neg h.softwareVersion_ne_zero, h.keySlot]
  dsimp only
  rw [if_neg h.keySlot_ne_zero, if_neg (not_not.mpr h.algorithm),
    if_neg (not_not.mpr h.signature_hex), ← h.imagePath, ← h.imageDigest, ← h.imageId, ← h.signerId,
    ← h.signatureAlgorithm, ← h.signature]

variable {contents : Bytes}

theorem manifestEntries_eq_some {e : List (Bytes × Bytes)} :
    manifestEntries contents = some e ↔
      bootText.parse contents = some e ∧ [] ∉ e.map Prod.fst ∧ (e.map Prod.fst).Nodup := by
  simp only [manifestEntries, Option.bind_eq_bind, Option.bind_eq_some_iff,
    Option.guard_eq_some', Option.pure_def, Option.some.injEq]
  constructor
  · rintro ⟨es, hp, _, hk, rfl⟩
    exact ⟨hp, hk⟩
  · rintro ⟨hp, hk⟩
    exact ⟨e, hp, (), hk, rfl⟩

theorem parseManifest_texts_clean (contents : Bytes) :
    bootText.Clean (parseManifest contents).2.imageId ∧
      bootText.Clean (parseManifest contents).2.signerId ∧
      bootText.Clean (parseManifest contents).2.signatureAlgorithm ∧
      ((parseManifest contents).1 = true → bootText.Clean (parseManifest contents).2.imagePath ∧
        (parseManifest contents).2.imagePath ≠ []) := by
  unfold parseManifest
  cases he : manifestEntries contents with
  | none => exact ⟨clean_nil, clean_nil, clean_nil, fun h => by cases h⟩
  | some e =>
    have hc (key : ManifestKey) : bootText.Clean (LineFormat.value e key.name) :=
      LineFormat.value_clean (manifestEntries_eq_some.mp he).1 key.name
    dsimp only
    rcases fillManifest_cases fun key => LineFormat.value e key.name with
      ⟨-, hw⟩ | ⟨hr, hid, hs, hal⟩
    · rw [hw.imageId, hw.signerId, hw.signatureAlgorithm, hw.imagePath]
      exact ⟨hc _, hc _, hc _, fun _ =>
        ⟨hc _, hw.present _ (by decide)⟩⟩
    · rw [hid, hs, hal, hr]
      exact ⟨clean_nil, clean_nil, clean_nil, fun h => by cases h⟩

theorem isLowerHex_iff {v : Bytes} {n : ℕ} :
    isLowerHex v n = true ↔ v.length = n ∧ ∀ b ∈ v, isLowerHexDigit b = true := by
  simp [isLowerHex]

theorem bytesToHex_digest_lower (d : Digest) : isLowerHex (bytesToHex d.1) 64 = true := by
  rw [isLowerHex_iff, bytesToHex_length, d.2]
  exact ⟨rfl, fun _ hb => isLowerHexDigit_of_mem_bytesToHex hb⟩

theorem signatureMatches_iff {expected a : Bytes} (hep : isLowerHex expected 64 = true)
    (hac : isLowerHex a 64 = true) :
    signatureMatches expected a = true ↔ a = expected := by
  obtain ⟨hl, hdg⟩ := isLowerHex_iff.mp hep
  obtain ⟨hl', hd'⟩ := isLowerHex_iff.mp hac
  rw [signatureMatches, parseHexBytes_of_lower (by rw [hl]) hdg,
    parseHexBytes_of_lower (by rw [hl']) hd']
  dsimp only
  rw [Bool.and_eq_true, decide_eq_true_iff]
  constructor
  · rintro ⟨hs, he⟩
    have hby := (constantTimeEqual_iff _ _ hs).mp he
    rw [← bytesToHex_decodeNibbles a (by rw [hl']) hd', ← hby,
      bytesToHex_decodeNibbles expected (by rw [hl]) hdg]
  · rintro rfl
    exact ⟨rfl, (constantTimeEqual_iff _ _ rfl).mpr rfl⟩

variable {config : BootTrustConfig}

theorem validateConfig_key_ne_nil {key : Bytes}
    (h : validateConfig manifest config = some key) : key ≠ [] := by
  simp only [validateConfig, Option.bind_eq_bind, Option.bind_eq_some_iff, Option.guard_eq_some',
    Option.pure_def, Option.some.injEq] at h
  obtain ⟨_, -, _, -, _, -, k, -, _, hne, rfl⟩ := h
  exact hne

theorem computeBootManifestSignatureHex_eq {key : Bytes}
    (h : validateConfig manifest config = some key) :
    computeBootManifestSignatureHex manifest config =
      some (bytesToHex (Sha256.hmac key (canonicalManifestPayload manifest)).1) := by
  rw [computeBootManifestSignatureHex, h, Option.bind_eq_bind, Option.bind_some,
    hmacSha256_eq_hmac _ _ (validateConfig_key_ne_nil h)]
  rfl

/-- A well-formed manifest at the path speaks for the image. -/
structure Vouches (fs : FileSystem) (manifestPath requestedImagePath : Bytes) (imageSize : UInt32)
    (imageDigest : Bytes) (slot : BootSlot) (floor : UInt32) (config : BootTrustConfig)
    (manifest : BootManifest) : Prop where
  parsed : ∃ contents, readFile fs manifestPath = some contents ∧
    parseManifest contents = (true, manifest)
  path : manifest.imagePath = requestedImagePath ∨ manifest.imagePath = basenameOf requestedImagePath
  size : manifest.imageSize = imageSize
  digest : manifest.imageDigest = imageDigest
  slot : manifest.targetSlot = slot
  version : floor < manifest.softwareVersion
  signature : ∃ key, validateConfig manifest config = some key ∧
    manifest.signature = bytesToHex (Sha256.hmac key (canonicalManifestPayload manifest)).1

variable {fs : FileSystem} {manifestPath requestedImagePath : Bytes} {imageSize : UInt32}
  {imageDigest : Bytes} {slot : BootSlot} {floor : UInt32} {config : BootTrustConfig}

theorem parseManifest_eq_true : parseManifest contents = (true, manifest) ↔
      ∃ e, manifestEntries contents = some e ∧
        WellFormed (fun key => LineFormat.value e key.name) manifest := by
  unfold parseManifest
  cases he : manifestEntries contents with
  | none => simp
  | some e =>
    dsimp only
    constructor
    · intro h
      rcases fillManifest_cases fun key => LineFormat.value e key.name with
        ⟨-, hw⟩ | ⟨hr, -⟩
      · rw [h] at hw
        exact ⟨e, rfl, hw⟩
      · rw [h] at hr
        cases hr
    · rintro ⟨es, hes, hw⟩
      cases hes
      exact fillManifest_of_wellFormed hw

theorem parseManifest_signature_lower (h : parseManifest contents = (true, manifest)) :
    isLowerHex manifest.signature 64 = true := by
  obtain ⟨e, -, hw⟩ := parseManifest_eq_true.mp h
  rw [hw.signature]
  exact hw.signature_hex

theorem judgeManifest_eq_none (hs : isLowerHex manifest.signature 64 = true) :
    judgeManifest manifest requestedImagePath imageSize imageDigest slot floor config = none ↔
      (manifest.imagePath = requestedImagePath ∨ manifest.imagePath = basenameOf requestedImagePath) ∧
        manifest.imageSize = imageSize ∧ manifest.imageDigest = imageDigest ∧
        manifest.targetSlot = slot ∧ floor < manifest.softwareVersion ∧
        ∃ key, validateConfig manifest config = some key ∧
          manifest.signature = bytesToHex (Sha256.hmac key (canonicalManifestPayload manifest)).1 := by
  unfold judgeManifest
  cases hc : validateConfig manifest config with
  | none =>
    simp only [Option.isNone_none, if_true, reduceCtorEq, false_and, exists_false, and_false,
      iff_false]
    split_ifs <;> simp
  | some key =>
    have hm := signatureMatches_iff (bytesToHex_digest_lower
      (Sha256.hmac key (canonicalManifestPayload manifest))) hs
    rw [computeBootManifestSignatureHex_eq hc]
    simp only [Option.isNone_some, Bool.false_eq_true, if_false, Option.some.injEq, exists_eq_left',
      hm]
    rw [← UInt32.not_le]
    by_cases hp : manifest.imagePath = requestedImagePath ∨
        manifest.imagePath = basenameOf requestedImagePath
    · rw [if_neg (by rwa [← not_or, not_not]), and_iff_right hp]
      split_ifs <;> simp_all
    · rw [if_pos (by rwa [← not_or])]
      simp [hp]

/-- The decision lets the image pass on the word of this manifest. -/
def Accepts (decision : BootManifestDecision) (manifest : BootManifest) : Prop :=
  decision.accepted = true ∧ decision.manifest = manifest

theorem verifyBootManifestFile_accepts_iff :
    Accepts (verifyBootManifestFile fs manifestPath requestedImagePath imageSize imageDigest slot floor
      config) manifest ↔
      Vouches fs manifestPath requestedImagePath imageSize imageDigest slot floor config manifest := by
  unfold Accepts verifyBootManifestFile
  cases hr : readFile fs manifestPath with
  | none =>
    refine iff_of_false (by simp) fun h => ?_
    obtain ⟨contents, hc, -⟩ := h.parsed
    cases hr.symm.trans hc
  | some contents =>
    dsimp only
    cases hp : parseManifest contents with
    | mk ok p =>
    have hs (h : Vouches fs manifestPath requestedImagePath imageSize imageDigest slot floor config
        manifest) : (ok, p) = (true, manifest) := by
      obtain ⟨c', hc, hpr⟩ := h.parsed
      cases hr.symm.trans hc
      rw [← hp, hpr]
    cases ok with
    | false => exact iff_of_false (by simp) fun h => by cases hs h
    | true =>
      dsimp only
      have hjd : judgeManifest p requestedImagePath imageSize imageDigest slot floor config =
          none ↔ _ := judgeManifest_eq_none (parseManifest_signature_lower hp)
      cases hrs : judgeManifest p requestedImagePath imageSize imageDigest slot floor config with
      | some =>
        rw [hrs] at hjd
        refine iff_of_false (by simp) fun h => ?_
        cases hs h
        exact absurd (hjd.mpr ⟨h.path, h.size, h.digest, h.slot, h.version, h.signature⟩) (by simp)
      | none =>
        obtain ⟨hpt, hsz, hdg, hsl, hvr, hsg⟩ := hjd.mp hrs
        constructor
        · rintro ⟨-, rfl⟩
          exact ⟨⟨contents, hr, hp⟩, hpt, hsz, hdg, hsl, hvr, hsg⟩
        · intro h
          cases hs h
          exact ⟨rfl, rfl⟩

theorem verifyBootManifestFile_texts_clean :
    let manifest := (verifyBootManifestFile fs manifestPath requestedImagePath imageSize imageDigest
      slot floor config).manifest
    bootText.Clean manifest.imageId ∧ bootText.Clean manifest.signerId ∧
      bootText.Clean manifest.signatureAlgorithm := by
  unfold verifyBootManifestFile
  cases readFile fs manifestPath with
  | none => exact ⟨clean_nil, clean_nil, clean_nil⟩
  | some contents =>
    have ht := parseManifest_texts_clean contents
    dsimp only
    cases hp : parseManifest contents with
    | mk ok manifest =>
    rw [hp] at ht
    cases ok with
    | false => exact ⟨ht.1, ht.2.1, ht.2.2.1⟩
    | true =>
      dsimp only
      split
      · exact ⟨ht.1, ht.2.1, ht.2.2.1⟩
      · exact ⟨ht.1, ht.2.1, ht.2.2.1⟩

end BootManifestVerifier

end ObcFlight
