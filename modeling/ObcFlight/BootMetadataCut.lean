import ObcFlight.BootMetadataText
import ObcFlight.KeyValueCut

/-!
# Loading a metadata file that was cut off

A save that loses power leaves the beginning of its text in the file. Depending on where
the cut falls, load refuses the file, takes it for one of the older schema, refuses it
again, or accepts it with its last fields shortened or missing.
-/

namespace ObcFlight

open BootMetadataStore

namespace MetadataKey

def Before (key key' : MetadataKey) : Prop := [key, key'].Sublist order

instance (key key' : MetadataKey) : Decidable (Before key key') :=
  inferInstanceAs (Decidable (List.Sublist _ _))

end MetadataKey

namespace BootMetadata

variable (m : BootMetadata)

def offset (key : MetadataKey) : ℕ := bootText.valueOffset m.entries key.name

def CutInsideKey (n : ℕ) : Prop := bootText.InsideKey m.entries n

instance (m : BootMetadata) (n : ℕ) : Decidable (m.CutInsideKey n) :=
  inferInstanceAs (Decidable (LineFormat.InsideKey _ _ _))

variable {key : MetadataKey} (m : BootMetadata)

theorem offset_before {key' : MetadataKey} (h : key.Before key') :
    m.offset key + (m.field key).length < m.offset key' := by
  have hp := LineFormat.valueOffset_pairwise (F := bootText) m.entries_nodup
  rw [entries, List.pairwise_map] at hp
  exact List.rel_of_pairwise_cons (hp.sublist h) (List.mem_singleton_self key')

/-- What is left of a value when the text is cut after n bytes. -/
def cutField (n : ℕ) (key : MetadataKey) : Bytes :=
  bootText.trim ((m.field key).take (n - m.offset key))

variable {n : ℕ}

theorem cutField_before {key' : MetadataKey} (h : key.Before key')
    (hn : m.offset key' ≤ n) : m.cutField n key = bootText.trim (m.field key) := by
  have := m.offset_before h
  rw [cutField, List.take_of_length_le (by omega)]

theorem cutField_absent (hn : n ≤ m.offset key) : m.cutField n key = [] := by
  rw [cutField, Nat.sub_eq_zero_of_le hn, List.take_zero]
  rfl

theorem cutField_solid (n : ℕ) (h : ∀ b ∈ m.field key, isSpace b = false) :
    m.cutField n key = (m.field key).take (n - m.offset key) :=
  LineFormat.trim_of_solid fun b hb => h b (List.mem_of_mem_take hb)

theorem cutField_flag (key : MetadataKey) {value : Bool}
    (h : m.field key = boolToString value) (hn : m.offset key < n) :
    m.cutField n key = boolToString value := by
  have hl : (boolToString value).length = 1 := by cases value <;> rfl
  rw [cutField, h, List.take_of_length_le (by omega), trim_boolToString]

def cutNumber (n : ℕ) (key : MetadataKey) : UInt32 :=
  UInt32.ofNat (decimalValue ((m.field key).take (n - m.offset key)))

theorem cutField_number (key : MetadataKey) {v : UInt32}
    (h : m.field key = unsignedToString v) (hn : m.offset key < n) :
    m.cutField n key ≠ [] ∧ parseUnsignedValue (m.cutField n key) = some (m.cutNumber n key) := by
  have hs : ∀ b ∈ m.field key, isSpace b = false := by
    rw [h]
    exact solid_unsignedToString v
  have hne : (m.field key).take (n - m.offset key) ≠ [] := by
    rw [ne_eq, List.take_eq_nil_iff, h]
    rintro (hz | hnil)
    · omega
    · exact unsignedToString_ne_nil v hnil
  have hdg : ((m.field key).take (n - m.offset key)).all isDigit = true := by
    rw [List.all_eq_true, h]
    exact fun b hb => isDigit_of_mem_decimal (List.mem_of_mem_take hb)
  have hle : decimalValue ((m.field key).take (n - m.offset key)) ≤ 4294967295 := by
    have hvl : decimalValue (m.field key) = v.toNat := by
      rw [h]
      exact decimalValue_decimal _
    have ht := decimalValue_take_le (m.field key) (n - m.offset key)
    have hlt := v.toNat_lt
    omega
  rw [m.cutField_solid n hs]
  exact ⟨hne, parseUnsignedValue_of_le hne hdg hle⟩

theorem cutNumber_absent (hn : n ≤ m.offset key) : m.cutNumber n key = 0 := by
  rw [cutNumber, Nat.sub_eq_zero_of_le hn]
  rfl

def withoutTrust : BootMetadata :=
  { schemaVersion := 2
    activeSlot := m.activeSlot
    pendingSlot := m.pendingSlot
    lastKnownGoodSlot := m.lastKnownGoodSlot
    confirmed := m.confirmed
    expectedDigest := (bootText.trim m.expectedDigest).map toLower
    expectedSize := m.expectedSize
    lastBootAttemptTime := m.lastBootAttemptTime
    lastErrorCode := m.lastErrorCode
    trustStatus := if m.confirmed then BootTrust.statusConfirmed else BootTrust.statusUnverified }

/-- The record with the fields behind the key slot as far as a cut after n bytes left them. -/
def truncated (n : ℕ) : BootMetadata :=
  { m.reread with
    keySlot := m.cutNumber n .keySlot
    signatureAlgorithm := m.cutField n .signatureAlgorithm
    resetCause := (m.cutNumber n .resetCause).toUInt8
    bootCount := m.cutNumber n .bootCount
    consecutiveResetCount := m.cutNumber n .consecutiveResetCount
    lastRecoverySource :=
      if n ≤ m.offset .lastRecoverySource then RecoveryIncidentSource.none
      else (m.cutNumber n .lastRecoverySource).toUInt8
    lastRecoveryLevel := (m.cutNumber n .lastRecoveryLevel).toUInt8
    bootSafeFallbackRequired :=
      m.offset .bootSafeFallbackRequired < n && m.bootSafeFallbackRequired
    recoveryResetPending := m.offset .recoveryResetPending < n && m.recoveryResetPending }

theorem loadText_take {m : BootMetadata} (h : m.Printable) (n : ℕ) :
    loadText (m.text.take n) =
      if m.CutInsideKey n then none else readMetadata (m.cutField n) := by
  have hp : bootText.parse (m.text.take n) = bootText.cutEntries m.entries n :=
    LineFormat.parse_take_render (fun _ he => h.entry he) n
  have hnone := LineFormat.cutEntries_eq_none_iff (F := bootText) m.entries_nodup n
  rw [loadText, hp]
  split_ifs with hin
  · rw [hnone.mpr hin]
    rfl
  · cases hcut : bootText.cutEntries m.entries n with
    | none => exact absurd (hnone.mp hcut) hin
    | some es =>
      have hget (key : MetadataKey) : LineFormat.value es key.name = m.cutField n key :=
        LineFormat.value_cutEntries m.entries_nodup hcut (m.mem_entries key)
      rw [Option.bind_eq_bind, Option.bind_some]
      simp only [hget]

theorem readMetadata_cut_required (hn : n ≤ m.offset .stageVerified) :
    readMetadata (m.cutField n) = none := by
  have hg : requiredKeys.all (hasEntry (m.cutField n)) = false := by
    rw [List.all_eq_false]
    refine ⟨.stageVerified, by decide, ?_⟩
    simp [hasEntry, m.cutField_absent hn]
  simp [readMetadata, readRequired, hg]

theorem readRequired_cut (hn : m.offset .stageVerified < n) :
    readRequired (m.cutField n) =
      some { activeSlot := m.activeSlot, pendingSlot := m.pendingSlot,
             lastKnownGoodSlot := m.lastKnownGoodSlot, confirmed := m.confirmed,
             expectedDigest := (bootText.trim m.expectedDigest).map toLower,
             expectedSize := m.expectedSize, lastBootAttemptTime := m.lastBootAttemptTime,
             lastErrorCode := m.lastErrorCode, stageVerified := m.stageVerified,
             stagedPath := m.cutField n .stagedPath } := by
  have hbf (key : MetadataKey) (h : key.Before .stageVerified) :
      m.cutField n key = bootText.trim (m.field key) := m.cutField_before h hn.le
  have hf : m.cutField n .stageVerified = boolToString m.stageVerified := m.cutField_flag .stageVerified rfl hn
  simp [readRequired, requiredKeys, hasEntry, hf, hbf .activeSlot (by decide),
    hbf .pendingSlot (by decide), hbf .lastKnownGoodSlot (by decide),
    hbf .confirmed (by decide), hbf .expectedDigest (by decide),
    hbf .expectedSize (by decide), hbf .lastBootAttemptTime (by decide),
    hbf .lastErrorCode (by decide), field]

theorem readMetadata_cut_legacy (hn : m.offset .stageVerified < n)
    (hn' : n ≤ m.offset .lastAcceptedVersion) :
    readMetadata (m.cutField n) = some m.withoutTrust := by
  have ht : trustKeys.all (hasEntry (m.cutField n)) = false := by
    rw [List.all_eq_false]
    refine ⟨.lastAcceptedVersion, by decide, ?_⟩
    simp [hasEntry, m.cutField_absent hn']
  rw [readMetadata, m.readRequired_cut hn, Option.bind_eq_bind, Option.bind_some, ht]
  rfl

section Trusted

variable (m : BootMetadata) {n : ℕ}

theorem trustKeys_cut (hn : m.offset .lastAcceptedVersion < n) :
    trustKeys.all (hasEntry (m.cutField n)) = true := by
  have hbf (key : MetadataKey) (h : key.Before .lastAcceptedVersion) :
      m.cutField n key = bootText.trim (m.field key) := m.cutField_before h hn.le
  have hl := (m.cutField_number .lastAcceptedVersion rfl hn).1
  simp [trustKeys, hasEntry, hl, hbf .schemaVersion (by decide),
    hbf .trustStatus (by decide), hbf .trustRejectReason (by decide), field]

theorem readMetadata_cut_keySlot (hn : m.offset .lastAcceptedVersion < n)
    (hn' : n ≤ m.offset .keySlot) : readMetadata (m.cutField n) = none := by
  have hs := m.offset_before (show MetadataKey.Before .stageVerified .lastAcceptedVersion by decide)
  have hkey : parseUnsignedValue (m.cutField n .keySlot) = none := by
    rw [m.cutField_absent hn']
    rfl
  rw [readMetadata, m.readRequired_cut (by omega), Option.bind_eq_bind, Option.bind_some,
    m.trustKeys_cut hn, if_pos rfl]
  simp [readTrust, hkey]

theorem readOptional_cut {α : Type} {key : MetadataKey} {p : Bytes → Option α} {d value : α}
    (hab : n ≤ m.offset key → value = d)
    (hpr : m.offset key < n → m.cutField n key ≠ [] ∧ p (m.cutField n key) = some value) :
    readOptional (m.cutField n) key p d = some value := by
  rw [readOptional, hasEntry]
  rcases Nat.lt_or_ge (m.offset key) n with hlt | hge
  · obtain ⟨hne, hp⟩ := hpr hlt
    simp [hne, hp]
  · simp [m.cutField_absent hge, hab hge]

variable (key : MetadataKey)

theorem readOptional_cut_number {v : UInt32} (hf : m.field key = unsignedToString v) :
    readOptional (m.cutField n) key parseUnsignedValue 0 = some (m.cutNumber n key) :=
  m.readOptional_cut (fun h => m.cutNumber_absent h) fun h => m.cutField_number key hf h

theorem readOptional_cut_enum {v : UInt32} (hf : m.field key = unsignedToString v)
    (d : UInt8) : readOptional (m.cutField n) key parseEnum d =
      some (if n ≤ m.offset key then d else (m.cutNumber n key).toUInt8) := by
  refine m.readOptional_cut (fun h => if_pos h) fun h => ?_
  obtain ⟨hne, hp⟩ := m.cutField_number key hf h
  rw [if_neg (by omega), parseEnum, hp]
  exact ⟨hne, rfl⟩

theorem readOptional_cut_flag {v : Bool} (hf : m.field key = boolToString v) :
    readOptional (m.cutField n) key parseBool false = some (m.offset key < n && v) := by
  refine m.readOptional_cut (fun h => by simp [Nat.not_lt.mpr h]) fun h => ?_
  rw [m.cutField_flag key hf h]
  exact ⟨boolToString_ne_nil v, by simp [h]⟩

theorem readMetadata_cut_truncated (hn : m.offset .keySlot < n) :
    readMetadata (m.cutField n) = some (m.truncated n) := by
  have hs := m.offset_before (show MetadataKey.Before .stageVerified .keySlot by decide)
  have hl := m.offset_before (show MetadataKey.Before .lastAcceptedVersion .keySlot by decide)
  have hbf (key : MetadataKey) (h : key.Before .keySlot) :
      m.cutField n key = bootText.trim (m.field key) := m.cutField_before h hn.le
  have hkey := (m.cutField_number .keySlot rfl hn).2
  have hlow (key : MetadataKey) :
      (if n ≤ m.offset key then 0 else (m.cutNumber n key).toUInt8) = (m.cutNumber n key).toUInt8 := by
    split_ifs with h
    · rw [m.cutNumber_absent h]
      rfl
    · rfl
  have ht (parsed : BootMetadata) : readTrust (m.cutField n) parsed =
      some { parsed with
             schemaVersion := m.schemaVersion, trustStatus := m.trustStatus
             trustRejectReason := m.trustRejectReason
             stagedSoftwareVersion := m.stagedSoftwareVersion
             activeSoftwareVersion := m.activeSoftwareVersion
             pendingSoftwareVersion := m.pendingSoftwareVersion
             lastKnownGoodSoftwareVersion := m.lastKnownGoodSoftwareVersion
             lastAcceptedVersion := m.lastAcceptedVersion
             keySlot := m.cutNumber n .keySlot
             manifestPath := bootText.trim m.manifestPath
             manifestImagePath := bootText.trim m.manifestImagePath
             imageId := bootText.trim m.imageId
             signerId := bootText.trim m.signerId
             signatureAlgorithm := m.cutField n .signatureAlgorithm } := by
    simp [readTrust, hkey, hbf .schemaVersion (by decide), hbf .trustStatus (by decide),
      hbf .trustRejectReason (by decide), hbf .stagedSoftwareVersion (by decide),
      hbf .activeSoftwareVersion (by decide), hbf .pendingSoftwareVersion (by decide),
      hbf .lastKnownGoodSoftwareVersion (by decide), hbf .lastAcceptedVersion (by decide),
      hbf .manifestPath (by decide), hbf .manifestImagePath (by decide),
      hbf .imageId (by decide), hbf .signerId (by decide), field]
  rw [readMetadata, m.readRequired_cut (by omega), Option.bind_eq_bind, Option.bind_some,
    m.trustKeys_cut (by omega), if_pos rfl, ht, Option.bind_some, readRecovery]
  simp only [Option.bind_eq_bind, m.readOptional_cut_enum .resetCause rfl,
    m.readOptional_cut_number .bootCount rfl,
    m.readOptional_cut_number .consecutiveResetCount rfl,
    m.readOptional_cut_enum .lastRecoverySource rfl,
    m.readOptional_cut_enum .lastRecoveryLevel rfl,
    m.readOptional_cut_flag .bootSafeFallbackRequired rfl,
    m.readOptional_cut_flag .recoveryResetPending rfl, Option.bind_some,
    hbf .stagedPath (by decide), ResetCause.unknown, RecoveryLevel.r0RecordOnly, hlow]
  rfl

end Trusted

theorem loadText_take_eq {m : BootMetadata} (h : m.Printable) (n : ℕ) :
    loadText (m.text.take n) =
      if m.CutInsideKey n ∨ n ≤ m.offset .stageVerified then none
      else if n ≤ m.offset .lastAcceptedVersion then some m.withoutTrust
      else if n ≤ m.offset .keySlot then none
      else some (m.truncated n) := by
  rw [loadText_take h]
  by_cases hin : m.CutInsideKey n
  · rw [if_pos hin, if_pos (.inl hin)]
  rw [if_neg hin]
  by_cases hs : n ≤ m.offset .stageVerified
  · rw [if_pos (.inr hs), m.readMetadata_cut_required hs]
  rw [if_neg (not_or.mpr ⟨hin, hs⟩)]
  split_ifs with hl hkey
  · exact m.readMetadata_cut_legacy (by omega) hl
  · exact m.readMetadata_cut_keySlot (by omega) hkey
  · exact m.readMetadata_cut_truncated (by omega)

/-- A cut behind the key slot, and not inside a key, leaves the version floor in place. -/
def KeepsFloor (m : BootMetadata) (n : ℕ) : Prop := m.offset .keySlot < n ∧ ¬ m.CutInsideKey n

theorem loadText_take_of_keepsFloor {m : BootMetadata} (h : m.Printable) {n : ℕ}
    (hk : m.KeepsFloor n) : loadText (m.text.take n) = some (m.truncated n) := by
  have hs := m.offset_before (show MetadataKey.Before .stageVerified .keySlot by decide)
  have hl := m.offset_before (show MetadataKey.Before .lastAcceptedVersion .keySlot by decide)
  obtain ⟨hn, hin⟩ := hk
  rw [loadText_take_eq h, if_neg (not_or.mpr ⟨hin, by omega⟩), if_neg (by omega), if_neg (by omega)]

theorem keepsFloor_of_loadText {m r : BootMetadata} (h : m.Printable) {n : ℕ}
    (hl : loadText (m.text.take n) = some r) (hm : r.lastAcceptedVersion ≠ 0) : m.KeepsFloor n := by
  rw [loadText_take_eq h] at hl
  split_ifs at hl with hin hv hk
  · cases hl
    exact absurd rfl hm
  · exact ⟨Nat.lt_of_not_le hk, fun hc => hin (.inl hc)⟩

theorem loadText_take_lastAcceptedVersion {m m' : BootMetadata} (h : m.Printable) {n : ℕ}
    (hl : loadText (m.text.take n) = some m') :
    m'.lastAcceptedVersion = 0 ∨ m'.lastAcceptedVersion = m.lastAcceptedVersion := by
  rw [loadText_take_eq h] at hl
  split_ifs at hl
  · cases hl
    exact .inl rfl
  · cases hl
    exact .inr rfl

end BootMetadata

end ObcFlight
