import ObcFlight.BootMetadata

/-!
# Reading back what was saved

A record whose texts contain no newline is read back from its file with its texts
trimmed and its digest in lower case, and with nothing else changed. The entries in front
of the staged path are read back whatever the later texts contain.
-/

namespace ObcFlight

open BootMetadataStore

theorem clean_nil : bootText.Clean [] := ⟨by simp, rfl⟩

theorem clean_of_solid {text : Bytes} (h : ∀ b ∈ text, isSpace b = false) : bootText.Clean text := by
  refine ⟨fun hmem => ?_, LineFormat.trim_of_solid h⟩
  cases h _ hmem

theorem solid_of_all {text : Bytes} (h : (text.all fun b => !isSpace b) = true) :
    ∀ b ∈ text, isSpace b = false := by
  intro b hb
  simpa using List.all_eq_true.mp h b hb

theorem keys_of_all {keys : List Bytes}
    (h : (keys.all fun key => key != [] && key.all fun b => !isSpace b && b != 61) = true) :
    ∀ key ∈ keys, bootText.Key key := by
  intro key hkey
  have hby := List.all_eq_true.mp h key hkey
  rw [Bool.and_eq_true, List.all_eq_true] at hby
  obtain ⟨hne, hall⟩ := hby
  refine ⟨by simpa using hne, fun b hb => ?_, fun hb => ?_⟩
  · have hb' := hall b hb
    simp only [Bool.and_eq_true, Bool.not_eq_true'] at hb'
    exact hb'.1
  · exact absurd (hall 61 hb) (by decide)

theorem solid_of_isHexDigit (b : UInt8) : isHexDigit b = true → isSpace b = false := by
  revert b
  exact forall_byte (by decide +kernel)

namespace BootMetadataStore

variable (slot : BootSlot)

@[simp] theorem parseSlot_slotToString : parseSlot (slotToString slot) = some slot := by
  cases slot <;> decide

@[simp] theorem parseBool_boolToString (value : Bool) : parseBool (boolToString value) = some value := by
  cases value <;> decide

variable (value : UInt32)

theorem unsignedToString_all_digits : (unsignedToString value).all isDigit = true :=
  List.all_eq_true.mpr fun _ hb => isDigit_of_mem_decimal hb

@[simp] theorem unsignedToString_ne_nil : unsignedToString value ≠ [] := decimal_ne_nil _

theorem parseUnsignedValue_of_le {text : Bytes} (hne : text ≠ []) (hdg : text.all isDigit = true)
    (hle : decimalValue text ≤ 4294967295) :
    parseUnsignedValue text = some (UInt32.ofNat (decimalValue text)) := by
  rw [parseUnsignedValue, if_neg (by simp [hne, hdg]), if_neg (by omega)]

@[simp] theorem parseUnsignedValue_unsignedToString :
    parseUnsignedValue (unsignedToString value) = some value := by
  have hvl : decimalValue (unsignedToString value) = value.toNat := decimalValue_decimal _
  have hlt := value.toNat_lt
  rw [parseUnsignedValue_of_le (unsignedToString_ne_nil value) (unsignedToString_all_digits value)
    (by omega), hvl, UInt32.ofNat_toNat]

@[simp] theorem parseEnum_unsignedToString (value : UInt8) :
    parseEnum (unsignedToString value.toUInt32) = some value := by
  simp [parseEnum]

theorem solid_of_isDigit (b : UInt8) : isDigit b = true → isSpace b = false := by
  revert b
  exact forall_byte (by decide +kernel)

theorem solid_slotToString : ∀ b ∈ slotToString slot, isSpace b = false := by
  cases slot <;> exact solid_of_all (by decide)

theorem solid_boolToString (value : Bool) : ∀ b ∈ boolToString value, isSpace b = false := by
  cases value <;> exact solid_of_all (by decide)

theorem solid_unsignedToString : ∀ b ∈ unsignedToString value, isSpace b = false :=
  fun b hb => solid_of_isDigit b (isDigit_of_mem_decimal hb)

@[simp] theorem trim_slotToString : bootText.trim (slotToString slot) = slotToString slot :=
  LineFormat.trim_of_solid (solid_slotToString slot)

@[simp] theorem trim_boolToString (value : Bool) :
    bootText.trim (boolToString value) = boolToString value :=
  LineFormat.trim_of_solid (solid_boolToString value)

@[simp] theorem trim_unsignedToString :
    bootText.trim (unsignedToString value) = unsignedToString value :=
  LineFormat.trim_of_solid (solid_unsignedToString value)

@[simp] theorem slotToString_ne_nil : slotToString slot ≠ [] := by
  cases slot <;> decide

@[simp] theorem boolToString_ne_nil (value : Bool) : boolToString value ≠ [] := by
  cases value <;> decide

end BootMetadataStore

namespace MetadataKey

theorem mem_order (key : MetadataKey) : key ∈ order := by
  cases key <;> decide

theorem order_names_nodup : (order.map name).Nodup := by
  decide +kernel

theorem order_names_keys : ∀ text ∈ order.map name, bootText.Key text :=
  keys_of_all (by decide +kernel)

theorem name_key (key : MetadataKey) : bootText.Key key.name :=
  order_names_keys key.name (List.mem_map_of_mem key.mem_order)

end MetadataKey

namespace BootMetadata

def texts (m : BootMetadata) : List Bytes :=
  [m.expectedDigest, m.stagedPath, m.manifestPath, m.manifestImagePath, m.imageId, m.signerId,
    m.signatureAlgorithm]

def Printable (m : BootMetadata) : Prop := ∀ text ∈ m.texts, bootText.newline ∉ text

def reread (m : BootMetadata) : BootMetadata :=
  { m with
    expectedDigest := (bootText.trim m.expectedDigest).map toLower
    stagedPath := bootText.trim m.stagedPath
    manifestPath := bootText.trim m.manifestPath
    manifestImagePath := bootText.trim m.manifestImagePath
    imageId := bootText.trim m.imageId
    signerId := bootText.trim m.signerId
    signatureAlgorithm := bootText.trim m.signatureAlgorithm }

variable (m : BootMetadata)

theorem field_text_or_solid (key : MetadataKey) :
    m.field key ∈ m.texts ∨ ∀ b ∈ m.field key, isSpace b = false := by
  cases key with
  | activeSlot | pendingSlot | lastKnownGoodSlot => exact .inr (solid_slotToString _)
  | confirmed | stageVerified | bootSafeFallbackRequired | recoveryResetPending =>
    exact .inr (solid_boolToString _)
  | expectedDigest | stagedPath | manifestPath | manifestImagePath | imageId | signerId
  | signatureAlgorithm => exact .inl (by simp [field, texts])
  | _ => exact .inr (solid_unsignedToString _)

theorem Printable.entry {m : BootMetadata} (h : m.Printable) {entry : Bytes × Bytes}
    (he : entry ∈ m.entries) : bootText.Entry entry := by
  obtain ⟨key, -, rfl⟩ := List.mem_map.mp he
  refine ⟨key.name_key, ?_⟩
  rcases m.field_text_or_solid key with ht | hs
  · exact h _ ht
  · intro hmem
    cases hs _ hmem

theorem entries_keys : m.entries.map Prod.fst = MetadataKey.order.map MetadataKey.name := by
  rw [entries, List.map_map]
  rfl

theorem entries_nodup : (m.entries.map Prod.fst).Nodup := by
  rw [entries_keys]
  exact MetadataKey.order_names_nodup

theorem mem_entries (key : MetadataKey) : (key.name, m.field key) ∈ m.entries :=
  List.mem_map.mpr ⟨key, key.mem_order, rfl⟩

theorem readMetadata_trim_field :
    readMetadata (fun key => bootText.trim (m.field key)) = some m.reread := by
  simp [readMetadata, readRequired, readTrust, readRecovery, readOptional, hasEntry, requiredKeys,
    trustKeys, field, reread]

theorem loadText_text {m : BootMetadata} (h : m.Printable) : loadText m.text = some m.reread := by
  have hp : bootText.parse m.text =
      some ((m.entries.map fun e => (e.1, bootText.trim e.2)) ++ []) := by
    have := LineFormat.parse_render_append (fun _ he => h.entry he) []
    rwa [List.append_nil] at this
  have hget (key : MetadataKey) :
      LineFormat.value ((m.entries.map fun e => (e.1, bootText.trim e.2)) ++ []) key.name =
        bootText.trim (m.field key) :=
    LineFormat.value_append_of_mem m.entries_nodup (m.mem_entries key) []
  rw [loadText, hp, Option.bind_eq_bind, Option.bind_some]
  simp only [hget]
  exact m.readMetadata_trim_field

end BootMetadata

/-- The slots, the prepared image and nothing else of a record: what stands in the file in
front of the first path. -/
structure SameSlots (m m' : BootMetadata) : Prop where
  activeSlot : m'.activeSlot = m.activeSlot
  pendingSlot : m'.pendingSlot = m.pendingSlot
  lastKnownGoodSlot : m'.lastKnownGoodSlot = m.lastKnownGoodSlot
  confirmed : m'.confirmed = m.confirmed
  expectedDigest : m'.expectedDigest = m.expectedDigest

namespace BootMetadataStore

variable {get : MetadataKey → Bytes} {m : BootMetadata}

theorem readRequired_inv (h : readRequired get = some m) :
    parseSlot (get .activeSlot) = some m.activeSlot ∧
      parseSlot (get .pendingSlot) = some m.pendingSlot ∧
      parseSlot (get .lastKnownGoodSlot) = some m.lastKnownGoodSlot ∧
      parseBool (get .confirmed) = some m.confirmed ∧
      m.texts = [(get .expectedDigest).map toLower, get .stagedPath, [], [], [], [], []] := by
  simp only [readRequired, Option.bind_eq_bind, Option.bind_eq_some_iff, Option.pure_def,
    Option.some.injEq] at h
  obtain ⟨_, -, a, hac, p, hp, good, hg, c, hc, size, -, time, -, error, -, verified, -, rfl⟩ := h
  exact ⟨hac, hp, hg, hc, rfl⟩

theorem readTrust_inv {p : BootMetadata} (h : readTrust get p = some m) :
    SameSlots p m ∧
      m.texts = [p.expectedDigest, p.stagedPath, get .manifestPath, get .manifestImagePath,
        get .imageId, get .signerId, get .signatureAlgorithm] := by
  simp only [readTrust, Option.bind_eq_bind, Option.bind_eq_some_iff, Option.pure_def,
    Option.some.injEq] at h
  obtain ⟨_, -, _, -, _, -, _, -, _, -, _, -, _, -, _, -, _, -, rfl⟩ := h
  exact ⟨⟨rfl, rfl, rfl, rfl, rfl⟩, rfl⟩

theorem readRecovery_inv {p : BootMetadata} (h : readRecovery get p = some m) :
    SameSlots p m ∧ m.texts = p.texts := by
  simp only [readRecovery, Option.bind_eq_bind, Option.bind_eq_some_iff, Option.pure_def,
    Option.some.injEq] at h
  obtain ⟨_, -, _, -, _, -, _, -, _, -, _, -, _, -, rfl⟩ := h
  exact ⟨⟨rfl, rfl, rfl, rfl, rfl⟩, rfl⟩

/-- Whatever the trust fields say, the slots are those of the required entries, and every
text is one of the values that were read. -/
theorem readMetadata_inv (h : readMetadata get = some m) :
    (∃ p, readRequired get = some p ∧ SameSlots p m) ∧
      m.expectedDigest = (get .expectedDigest).map toLower ∧
      ∀ text ∈ m.texts, text = m.expectedDigest ∨ text = [] ∨ ∃ key, text = get key := by
  simp only [readMetadata, Option.bind_eq_bind, Option.bind_eq_some_iff] at h
  obtain ⟨p, hp, h⟩ := h
  have htx := (readRequired_inv hp).2.2.2.2
  obtain ⟨hdg, hpt⟩ : p.expectedDigest = (get .expectedDigest).map toLower ∧
      p.stagedPath = get .stagedPath := by
    simp only [BootMetadata.texts, List.cons.injEq] at htx
    exact ⟨htx.1, htx.2.1⟩
  split_ifs at h with hts
  · rw [Option.bind_eq_some_iff] at h
    obtain ⟨t, htr, hr⟩ := h
    obtain ⟨hs, htx⟩ := readTrust_inv htr
    obtain ⟨hs', ht'⟩ := readRecovery_inv hr
    have hsm : SameSlots p m :=
      ⟨hs'.1.trans hs.1, hs'.2.trans hs.2, hs'.3.trans hs.3, hs'.4.trans hs.4, hs'.5.trans hs.5⟩
    refine ⟨⟨p, hp, hsm⟩, hsm.expectedDigest.trans hdg, fun text ht => ?_⟩
    rw [ht', htx, hpt] at ht
    simp only [List.mem_cons, List.not_mem_nil, or_false] at ht
    rcases ht with rfl | rfl | rfl | rfl | rfl | rfl | rfl
    · exact .inl hsm.expectedDigest.symm
    all_goals exact .inr (.inr ⟨_, rfl⟩)
  · cases h
    refine ⟨⟨p, hp, ⟨rfl, rfl, rfl, rfl, rfl⟩⟩, hdg, fun text ht => ?_⟩
    have hl : (legacy p).texts = p.expectedDigest :: [] :: p.texts.drop 2 := rfl
    rw [hl, htx] at ht
    simp only [List.drop_succ_cons, List.drop_zero, List.mem_cons, List.not_mem_nil, or_false,
      or_self] at ht
    rcases ht with rfl | rfl
    · exact .inl rfl
    · exact .inr (.inl rfl)

theorem isSpace_toLower (b : UInt8) : isSpace (toLower b) = isSpace b := by
  revert b
  exact forall_byte (by decide +kernel)

theorem toLower_toLower (b : UInt8) : toLower (toLower b) = toLower b := by
  revert b
  exact forall_byte (by decide +kernel)

theorem trim_map_toLower (text : Bytes) :
    bootText.trim (text.map toLower) = (bootText.trim text).map toLower := by
  have hs : bootText.isSpace ∘ toLower = bootText.isSpace := funext isSpace_toLower
  simp only [LineFormat.trim, List.rdropWhile, List.dropWhile_map, ← List.map_reverse, hs]

theorem clean_map_toLower {text : Bytes} (h : bootText.Clean text) :
    bootText.Clean (text.map toLower) := by
  refine ⟨fun hmem => h.no_newline ?_, by rw [trim_map_toLower, h.trimmed]⟩
  obtain ⟨b, hb, heq⟩ := List.mem_map.mp hmem
  have hnw : b = bootText.newline := by
    revert heq
    revert b
    exact fun b _ => forall_byte (p := fun b => toLower b = 10 → b = 10) (by decide +kernel) b
  rwa [hnw] at hb

end BootMetadataStore

namespace BootMetadata

/-- The record is read back exactly as it was saved. -/
structure Clean (m : BootMetadata) : Prop where
  texts : ∀ text ∈ m.texts, bootText.Clean text
  digest : m.expectedDigest.map toLower = m.expectedDigest

variable {m : BootMetadata}

theorem Clean.printable (h : m.Clean) : m.Printable := fun text ht => (h.texts text ht).no_newline

theorem Clean.reread_eq (h : m.Clean) : m.reread = m := by
  have ht := h.texts
  simp only [BootMetadata.texts, List.forall_mem_cons] at ht
  obtain ⟨hdg, hst, hm, him, hid, hs, hal, -⟩ := ht
  rw [reread, hdg.trimmed, hst.trimmed, hm.trimmed, him.trimmed, hid.trimmed,
    hs.trimmed, hal.trimmed, h.digest]

theorem clean_of_loadText {c : Bytes} (h : loadText c = some m) : m.Clean := by
  rw [loadText, Option.bind_eq_bind, Option.bind_eq_some_iff] at h
  obtain ⟨es, hp, hr⟩ := h
  obtain ⟨-, hdg, htx⟩ := readMetadata_inv hr
  have hc (key : MetadataKey) := LineFormat.value_clean hp key.name
  refine ⟨fun text ht => ?_, ?_⟩
  · rcases htx text ht with rfl | rfl | ⟨key, rfl⟩
    · rw [hdg]
      exact clean_map_toLower (hc _)
    · exact clean_nil
    · exact hc key
  · rw [hdg, List.map_map]
    exact List.map_congr_left fun b _ => toLower_toLower b

/-- A record whose texts fit a line and whose digest is in lower case is read back exactly as it was
saved, so two such records with the same text are equal. -/
theorem saved_text_exact {m : BootMetadata} (h : m.Clean) :
    loadText m.text = some m ∧ ∀ m' : BootMetadata, m'.Clean → m ≠ m' → m.text ≠ m'.text := by
  have hload {m' : BootMetadata} (h' : m'.Clean) : loadText m'.text = some m' := by
    rw [loadText_text h'.printable, h'.reread_eq]
  refine ⟨hload h, fun m' h' hne heq => hne ?_⟩
  have hsame := hload h
  rw [heq, hload h'] at hsame
  exact (Option.some.inj hsame).symm

def stagedRecord : BootMetadata :=
  { expectedDigest := ascii "00ff", stagedPath := ascii "/boot/b = 2", confirmed := false, bootCount := 4294967295 }

theorem saved_text_exact_stagedRecord : loadText stagedRecord.text = some stagedRecord := by
  refine (saved_text_exact (m := stagedRecord) ⟨?_, by decide +kernel⟩).1
  simp only [texts, List.forall_mem_cons]
  refine ⟨⟨by decide +kernel, by decide +kernel⟩, ⟨by decide +kernel, by decide +kernel⟩, clean_nil, clean_nil,
    clean_nil, clean_nil, clean_nil, by simp⟩

def leadingKeys : List MetadataKey := MetadataKey.order.take 10

theorem leading_field_no_newline (hdg : bootText.newline ∉ m.expectedDigest) {key : MetadataKey}
    (hkey : key ∈ leadingKeys) : bootText.newline ∉ m.field key := by
  have hs {text : Bytes} (h : ∀ b ∈ text, isSpace b = false) : bootText.newline ∉ text := by
    intro hmem
    cases h _ hmem
  cases key with
  | expectedDigest => exact hdg
  | activeSlot | pendingSlot | lastKnownGoodSlot => exact hs (solid_slotToString _)
  | confirmed | stageVerified => exact hs (solid_boolToString _)
  | schemaVersion | expectedSize | lastBootAttemptTime | lastErrorCode =>
    exact hs (solid_unsignedToString _)
  | _ => exact absurd hkey (by decide)

theorem value_leading (hdg : bootText.newline ∉ m.expectedDigest) {es : List (Bytes × Bytes)}
    (hp : bootText.parse m.text = some es) {key : MetadataKey} (hkey : key ∈ leadingKeys) :
    LineFormat.value es key.name = bootText.trim (m.field key) := by
  let f := leadingKeys.map fun key => (key.name, m.field key)
  let back := (MetadataKey.order.drop 10).map fun key => (key.name, m.field key)
  have he : m.entries = f ++ back := rfl
  have ht : m.text = bootText.render f ++ bootText.render back := by
    rw [text, he, LineFormat.render, LineFormat.render, LineFormat.render, List.flatMap_append]
  have hf : ∀ entry ∈ f, bootText.Entry entry := by
    intro entry hen
    obtain ⟨k, hk, rfl⟩ := List.mem_map.mp hen
    exact ⟨k.name_key, leading_field_no_newline hdg hk⟩
  rw [ht, LineFormat.parse_render_append hf, Option.map_eq_some_iff] at hp
  obtain ⟨rest, -, rfl⟩ := hp
  refine LineFormat.value_append_of_mem ?_ (List.mem_map.mpr ⟨key, hkey, rfl⟩) rest
  have hnd := m.entries_nodup
  rw [he, List.map_append] at hnd
  exact hnd.of_append_left

theorem loadText_text_slots {m' : BootMetadata} (hdg : bootText.newline ∉ m.expectedDigest)
    (h : loadText m.text = some m') :
    m'.activeSlot = m.activeSlot ∧ m'.pendingSlot = m.pendingSlot ∧
      m'.lastKnownGoodSlot = m.lastKnownGoodSlot ∧ m'.confirmed = m.confirmed := by
  rw [loadText, Option.bind_eq_bind, Option.bind_eq_some_iff] at h
  obtain ⟨es, hpr, hr⟩ := h
  obtain ⟨⟨p, hps, hs⟩, -, -⟩ := readMetadata_inv hr
  obtain ⟨hac, hp, hg, hc, -⟩ := readRequired_inv hps
  rw [value_leading hdg hpr (by decide)] at hac hp hg hc
  simp only [field, trim_slotToString, trim_boolToString, parseSlot_slotToString,
    parseBool_boolToString, Option.some.injEq] at hac hp hg hc
  rw [hs.activeSlot, hs.pendingSlot, hs.lastKnownGoodSlot, hs.confirmed]
  exact ⟨hac.symm, hp.symm, hg.symm, hc.symm⟩

end BootMetadata

end ObcFlight
