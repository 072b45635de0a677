import ObcFlight.BootManifestSpec

/-!
# Manifests as a signer writes them

The text of a manifest is its canonical payload and a signature line. A record with legal
fields is read back from that text as it was written, so a manifest that was signed under the
configured key is accepted for the image it names.
-/

namespace ObcFlight

open BootMetadataStore BootManifestVerifier

namespace BootManifest

def field (manifest : BootManifest) : ManifestKey → Bytes
  | .schema => ascii "boot_manifest_v1"
  | .imagePath => manifest.imagePath
  | .imageSize => unsignedToString manifest.imageSize
  | .imageDigest => manifest.imageDigest
  | .targetSlot => if manifest.targetSlot = .slotA then ascii "SLOT_A" else ascii "SLOT_B"
  | .imageId => manifest.imageId
  | .softwareVersion => unsignedToString manifest.softwareVersion
  | .signerId => manifest.signerId
  | .keySlot => unsignedToString manifest.keySlot
  | .signatureAlgorithm => manifest.signatureAlgorithm
  | .signature => manifest.signature

def text (manifest : BootManifest) : Bytes :=
  canonicalManifestPayload manifest ++
    bootText.renderEntry (ManifestKey.signature.name, manifest.signature) ++ [bootText.newline]

/-- A record that can be written down and read back. -/
structure Legal (manifest : BootManifest) : Prop where
  imagePath : bootText.Clean manifest.imagePath ∧ manifest.imagePath ≠ []
  imageSize : manifest.imageSize ≠ 0
  imageDigest : isLowerHex manifest.imageDigest 64 = true
  targetSlot : manifest.targetSlot ≠ .none
  imageId : bootText.Clean manifest.imageId ∧ manifest.imageId ≠ []
  softwareVersion : manifest.softwareVersion ≠ 0
  signerId : bootText.Clean manifest.signerId ∧ manifest.signerId ≠ []
  keySlot : manifest.keySlot ≠ 0
  signatureAlgorithm : manifest.signatureAlgorithm = ascii "hmac-sha256"
  signature : isLowerHex manifest.signature 64 = true

def entries (manifest : BootManifest) : List (Bytes × Bytes) :=
  ManifestKey.required.map fun key => (key.name, manifest.field key)

theorem text_eq_render (manifest : BootManifest) : manifest.text = bootText.render manifest.entries := by
  have he : manifest.entries =
      canonicalEntries manifest ++ [(ManifestKey.signature.name, manifest.signature)] := rfl
  rw [text, canonicalManifestPayload, he, LineFormat.render, LineFormat.render,
    List.flatMap_append, List.flatMap_singleton, List.append_assoc]

theorem clean_of_isLowerHex {value : Bytes} {n : ℕ} (h : isLowerHex value n = true) :
    bootText.Clean value :=
  clean_of_solid fun b hb =>
    solid_of_isHexDigit b (isHexDigit_of_isLowerHexDigit ((isLowerHex_iff.mp h).2 b hb))

variable {manifest : BootManifest}

theorem Legal.field_clean (h : manifest.Legal) (key : ManifestKey) :
    bootText.Clean (manifest.field key) := by
  cases key with
  | schema => exact show bootText.Clean (ascii "boot_manifest_v1") from clean_of_solid (solid_of_all (by decide))
  | imagePath => exact h.imagePath.1
  | imageDigest => exact clean_of_isLowerHex h.imageDigest
  | imageId => exact h.imageId.1
  | signerId => exact h.signerId.1
  | signature => exact clean_of_isLowerHex h.signature
  | imageSize | softwareVersion | keySlot => exact clean_of_solid (solid_unsignedToString _)
  | targetSlot =>
    unfold field
    dsimp only
    split_ifs
    · exact clean_of_solid (solid_of_all (by decide))
    · exact clean_of_solid (solid_of_all (by decide))
  | signatureAlgorithm =>
    rw [field, h.signatureAlgorithm]
    exact clean_of_solid (solid_of_all (by decide))

theorem mem_required (key : ManifestKey) : key ∈ ManifestKey.required := by
  cases key <;> decide

theorem required_names_keys : ∀ text ∈ ManifestKey.required.map ManifestKey.name, bootText.Key text :=
  keys_of_all (by decide +kernel)

theorem name_key (key : ManifestKey) : bootText.Key key.name :=
  required_names_keys key.name (List.mem_map_of_mem (mem_required key))

theorem required_names_nodup : (ManifestKey.required.map ManifestKey.name).Nodup := by
  decide +kernel

theorem entries_keys (manifest : BootManifest) :
    manifest.entries.map Prod.fst = ManifestKey.required.map ManifestKey.name := by
  rw [entries, List.map_map]
  rfl

theorem Legal.wellFormed (h : manifest.Legal) : WellFormed manifest.field manifest := by
  have hs : BootManifestVerifier.parseSlot (manifest.field .targetSlot) = some manifest.targetSlot := by
    have hne := h.targetSlot
    unfold field
    dsimp only
    cases hs : manifest.targetSlot with
    | slotA => decide
    | slotB => decide
    | none => exact absurd hs hne
  have hl {value : Bytes} (hvl : isLowerHex value 64 = true) : value ≠ [] := by
    rintro rfl
    cases hvl
  refine ⟨fun key _ => ?_, rfl, rfl, parseUnsignedValue_unsignedToString _, h.imageSize, rfl,
    h.imageDigest, hs, rfl, parseUnsignedValue_unsignedToString _, h.softwareVersion, rfl,
    parseUnsignedValue_unsignedToString _, h.keySlot, rfl, h.signatureAlgorithm, rfl, h.signature⟩
  cases key with
  | schema => exact show ascii "boot_manifest_v1" ≠ [] by decide
  | imagePath => exact h.imagePath.2
  | imageDigest => exact hl h.imageDigest
  | imageId => exact h.imageId.2
  | signerId => exact h.signerId.2
  | signature => exact hl h.signature
  | imageSize | softwareVersion | keySlot => exact unsignedToString_ne_nil _
  | targetSlot =>
    unfold field
    dsimp only
    split_ifs <;> decide
  | signatureAlgorithm =>
    rw [field, h.signatureAlgorithm]
    decide

theorem Legal.parseManifest_text (h : manifest.Legal) :
    parseManifest manifest.text = (true, manifest) := by
  let t := (manifest.entries.map fun entry => (entry.1, bootText.trim entry.2)) ++ []
  have he : ∀ entry ∈ manifest.entries, bootText.Entry entry := by
    intro entry he
    obtain ⟨key, -, rfl⟩ := List.mem_map.mp he
    exact ⟨name_key key, (h.field_clean key).no_newline⟩
  have hp : bootText.parse manifest.text = some t := by
    have := LineFormat.parse_render_append he []
    rwa [List.append_nil, ← text_eq_render] at this
  have hk : t.map Prod.fst = ManifestKey.required.map ManifestKey.name := by
    rw [← manifest.entries_keys]
    simp [t, Function.comp_def]
  have hnd : (manifest.entries.map Prod.fst).Nodup := by
    rw [entries_keys]
    exact required_names_nodup
  have hget : (fun key : ManifestKey => LineFormat.value t key.name) = manifest.field := by
    funext key
    have hmem : (key.name, manifest.field key) ∈ manifest.entries :=
      List.mem_map.mpr ⟨key, mem_required key, rfl⟩
    rw [show LineFormat.value t key.name = bootText.trim (manifest.field key) from
      LineFormat.value_append_of_mem hnd hmem [], (h.field_clean key).trimmed]
  refine parseManifest_eq_true.mpr ⟨t, manifestEntries_eq_some.mpr ⟨hp, ?_, ?_⟩, ?_⟩
  · rw [hk]
    exact fun hnil => (required_names_keys [] hnil).ne_nil rfl
  · rw [hk]
    exact required_names_nodup
  · rw [hget]
    exact h.wellFormed

/-! ### What the signature covers -/

theorem parseSlot_ne_none {v : Bytes} {slot : BootSlot}
    (h : BootManifestVerifier.parseSlot v = some slot) : slot ≠ .none := by
  unfold BootManifestVerifier.parseSlot at h
  split_ifs at h <;> cases h <;> decide

theorem legal_of_parseManifest {c : Bytes} (h : parseManifest c = (true, manifest)) :
    manifest.Legal := by
  obtain ⟨e, he, hw⟩ := parseManifest_eq_true.mp h
  have hf (key : ManifestKey) : bootText.Clean (LineFormat.value e key.name) ∧
      LineFormat.value e key.name ≠ [] :=
    ⟨LineFormat.value_clean (manifestEntries_eq_some.mp he).1 key.name,
      hw.present key (mem_required key)⟩
  constructor
  case imagePath => exact hw.imagePath ▸ hf .imagePath
  case imageSize => exact hw.imageSize_ne_zero
  case imageDigest => exact hw.imageDigest ▸ hw.imageDigest_hex
  case targetSlot => exact parseSlot_ne_none hw.targetSlot
  case imageId => exact hw.imageId ▸ hf .imageId
  case softwareVersion => exact hw.softwareVersion_ne_zero
  case signerId => exact hw.signerId ▸ hf .signerId
  case keySlot => exact hw.keySlot_ne_zero
  case signatureAlgorithm => exact hw.signatureAlgorithm.trans hw.algorithm
  case signature => exact hw.signature ▸ hw.signature_hex

/-- Two legal records with one canonical payload differ in their signatures at most: under one
signature they have the same text, and the text is read back as either. -/
theorem Legal.eq_of_payload_eq {m m' : BootManifest} (h : m.Legal) (h' : m'.Legal)
    (hp : canonicalManifestPayload m = canonicalManifestPayload m') :
    m = { m' with signature := m.signature } := by
  have hl : ({ m' with signature := m.signature } : BootManifest).Legal :=
    ⟨h'.imagePath, h'.imageSize, h'.imageDigest, h'.targetSlot, h'.imageId, h'.softwareVersion,
      h'.signerId, h'.keySlot, h'.signatureAlgorithm, h.signature⟩
  have ht : m.text = ({ m' with signature := m.signature } : BootManifest).text := by
    unfold text
    rw [hp]
    rfl
  have hr := h.parseManifest_text
  rw [ht, hl.parseManifest_text] at hr
  exact (congrArg Prod.snd hr).symm

def texts (manifest : BootManifest) : List Bytes :=
  [manifest.imagePath, manifest.imageDigest, manifest.imageId, manifest.signerId,
    manifest.signatureAlgorithm, manifest.signature]

/-- The canonical payload determines every field the trust decision uses, and a record whose texts
are not empty, trimmed and without newline is read back from its text when it passes the checks on
its fields, and only then. -/
theorem payload_covers_trusted_fields :
    (∀ (contents contents' : Bytes) (m m' : BootManifest),
      parseManifest contents = (true, m) → parseManifest contents' = (true, m') →
      canonicalManifestPayload m = canonicalManifestPayload m' →
      m.imagePath = m'.imagePath ∧ m.imageSize = m'.imageSize ∧ m.imageDigest = m'.imageDigest ∧
        m.targetSlot = m'.targetSlot ∧ m.imageId = m'.imageId ∧
        m.softwareVersion = m'.softwareVersion ∧ m.signerId = m'.signerId ∧
        m.keySlot = m'.keySlot ∧ m.signatureAlgorithm = m'.signatureAlgorithm) ∧
    ∀ m : BootManifest, (∀ text ∈ m.texts, text ≠ [] ∧ bootText.Clean text) →
      (parseManifest m.text = (true, m) ↔
        m.imageSize ≠ 0 ∧ isLowerHex m.imageDigest 64 = true ∧ m.targetSlot ≠ .none ∧
          m.softwareVersion ≠ 0 ∧ m.keySlot ≠ 0 ∧ m.signatureAlgorithm = ascii "hmac-sha256" ∧
          isLowerHex m.signature 64 = true) := by
  constructor
  · intro contents contents' m m' hm hm' hpayload
    have heq := (legal_of_parseManifest hm).eq_of_payload_eq (legal_of_parseManifest hm') hpayload
    rw [heq]
    exact ⟨rfl, rfl, rfl, rfl, rfl, rfl, rfl, rfl, rfl⟩
  · intro m htexts
    constructor
    · intro hread
      have h := legal_of_parseManifest hread
      exact ⟨h.imageSize, h.imageDigest, h.targetSlot, h.softwareVersion, h.keySlot,
        h.signatureAlgorithm, h.signature⟩
    · rintro ⟨hsize, hdigest, hslot, hversion, hkey, halgorithm, hsignature⟩
      have hclean {text : Bytes} (hmem : text ∈ m.texts) : bootText.Clean text ∧ text ≠ [] :=
        ⟨(htexts text hmem).2, (htexts text hmem).1⟩
      exact Legal.parseManifest_text ⟨hclean (by simp [texts]), hsize, hdigest, hslot,
        hclean (by simp [texts]), hversion, hclean (by simp [texts]), hkey, halgorithm, hsignature⟩

def emptyImage : BootManifest where
  imagePath := ascii "obc.bin"
  imageDigest := List.replicate 64 97
  targetSlot := .slotA
  imageId := ascii "obc"
  softwareVersion := 1
  signerId := ascii "repo-dev-boot-signer"
  keySlot := 1
  signatureAlgorithm := ascii "hmac-sha256"
  signature := List.replicate 64 98

theorem emptyImage_texts : ∀ text ∈ emptyImage.texts, text ≠ [] ∧ bootText.Clean text := by
  intro text ht
  have hs : (emptyImage.texts.all fun text => text != [] && text.all fun b => !isSpace b) = true := by
    decide +kernel
  have hby := List.all_eq_true.mp hs text ht
  rw [Bool.and_eq_true] at hby
  exact ⟨by simpa using hby.1, clean_of_solid (solid_of_all hby.2)⟩

theorem payload_covers_trusted_fields_named_image :
    parseManifest ({ emptyImage with imageSize := 5 } : BootManifest).text =
      (true, { emptyImage with imageSize := 5 }) :=
  (payload_covers_trusted_fields.2 { emptyImage with imageSize := 5 } emptyImage_texts).mpr
    ⟨by decide, by decide +kernel, by decide, by decide, by decide, rfl, by decide +kernel⟩

theorem empty_image_not_read_back :
    (∀ text ∈ emptyImage.texts, text ≠ [] ∧ bootText.Clean text) ∧
      parseManifest emptyImage.text ≠ (true, emptyImage) :=
  ⟨emptyImage_texts, fun hread => (legal_of_parseManifest hread).imageSize rfl⟩

def signed (manifest : BootManifest) (key : Bytes) : BootManifest :=
  { manifest with signature := bytesToHex (Sha256.hmac key (canonicalManifestPayload manifest)).1 }

theorem vouches_signed {key : Bytes} {c : BootTrustConfig} {fs : FileSystem} {path : Bytes}
    {file : StagedFile} {f : UInt32} (hl : (manifest.signed key).Legal)
    (hkey : validateConfig manifest c = some key) (hf : fs path = some file)
    (hrd : file.readable = true) (hby : file.bytes = (manifest.signed key).text)
    (hln : (manifest.signed key).text.length ≤ maxManifestBytes)
    (hfl : f < manifest.softwareVersion) :
    Vouches fs path manifest.imagePath manifest.imageSize manifest.imageDigest manifest.targetSlot
      f c (manifest.signed key) := by
  have hne : (manifest.signed key).text.length ≠ 0 := by
    rw [text, List.length_append]
    simp
  have hr : readFile fs path = some (manifest.signed key).text := by
    simp [readFile, hf, hby, hrd, hln, List.length_eq_zero_iff.not.mp hne]
  refine ⟨⟨_, hr, hl.parseManifest_text⟩, .inl rfl, rfl, rfl, rfl, hfl, key, hkey, rfl⟩

end BootManifest

end ObcFlight
