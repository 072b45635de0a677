import ObcFlight.BootTransitions
import ObcFlight.BootManifestSpec
import ObcFlight.BootMetadataCut

/-!
# The version floor

The highest version ever activated is the floor below which nothing is activated again.
It lives in the file; the record in memory never stands below it once it is loaded or waits
for its confirmation, and every save carries at least as high a floor as the file had. So
the floor of the file never falls, as long as no save is cut off in front of it.
-/

namespace ObcFlight

open BootMetadataStore BootManifestVerifier

/-- The resolved path of a verify command fills no more than one line of the file. -/
def BootInput.OneLinePath (env : BootEnv) : BootInput → Prop
  | .verifyStagedImage path _ _ => bootText.newline ∉ env.resolveStagingPath path
  | _ => True

namespace BootMetadata

def TextsAll (P : Bytes → Prop) (m : BootMetadata) : Prop := ∀ text ∈ m.texts, P text

theorem textsAll_iff {P : Bytes → Prop} {m : BootMetadata} :
    TextsAll P m ↔ P m.expectedDigest ∧ P m.stagedPath ∧ P m.manifestPath ∧ P m.manifestImagePath ∧
      P m.imageId ∧ P m.signerId ∧ P m.signatureAlgorithm := by
  simp [TextsAll, texts]

end BootMetadata

open BootMetadata

theorem clean_of_isDigestFormatValid {digest : Bytes} (h : isDigestFormatValid digest = true) :
    bootText.Clean digest := by
  simp only [isDigestFormatValid, Bool.and_eq_true, List.all_eq_true] at h
  exact clean_of_solid fun b hb => solid_of_isHexDigit b (h.2 b hb)

section Texts

variable {env : BootEnv} {i : BootInput} {m m' : BootMetadata} {P : Bytes → Prop}

theorem validateStagedTrust_texts_clean (env : BootEnv) (m : BootMetadata) (fs : FileSystem) :
    bootText.Clean (BootManager.validateStagedTrust env m fs).manifest.imageId ∧
      bootText.Clean (BootManager.validateStagedTrust env m fs).manifest.signerId ∧
      bootText.Clean (BootManager.validateStagedTrust env m fs).manifest.signatureAlgorithm := by
  rcases validateStagedTrust_cases env m fs with ⟨-, he⟩ | ⟨-, hdc⟩
  · rw [he]
    exact ⟨clean_nil, clean_nil, clean_nil⟩
  · rw [hdc]
    exact verifyBootManifestFile_texts_clean

/-- A property of clean texts that the paths of verify commands have is one of all texts of
the record: whatever else gets in was read from a line or is made of digits. -/
theorem Change.textsAll (h : Change env i m m') (hc : ∀ text, bootText.Clean text → P text)
    (hpt : ∀ path fs io, i = .verifyStagedImage path fs io →
      P (env.resolveStagingPath path) ∧ P (resolveManifestPath (env.resolveStagingPath path)))
    (hm : m.TextsAll P) : m'.TextsAll P := by
  have hnil := hc [] clean_nil
  rw [textsAll_iff] at hm ⊢
  have hsm := hm
  obtain ⟨hdg, -, -, -, hid, hs, hal⟩ := hm
  cases h with
  | prepared _ _ hvl =>
    exact ⟨hc _ (clean_of_isDigestFormatValid hvl), hnil, hnil, hnil, hnil, hnil, hnil⟩
  | rejected =>
    obtain ⟨hid, hs, hal⟩ := verifyBootManifestFile_texts_clean
    exact ⟨hdg, hnil, hnil, hnil, hc _ hid, hc _ hs, hc _ hal⟩
  | accepted _ _ hdc =>
    obtain ⟨hid, hs, hal⟩ := verifyBootManifestFile_texts_clean
    obtain ⟨n, -, hp⟩ := (verifyBootManifestFile_accepts_iff.mp ⟨hdc, rfl⟩).parsed
    have him := ((parseManifest_texts_clean n).2.2.2 (by rw [hp])).1
    rw [hp] at him
    obtain ⟨hst, hmn⟩ := hpt _ _ _ rfl
    exact ⟨hdg, hst, hmn, hc _ him, hc _ hid, hc _ hs, hc _ hal⟩
  | @refused fs _ _ _ _ _ hmn =>
    rcases hmn with rfl | rfl
    · exact ⟨hdg, hnil, hnil, hnil, hnil, hnil, hnil⟩
    · obtain ⟨hid, hs, hal⟩ := validateStagedTrust_texts_clean env m fs
      exact ⟨hdg, hnil, hnil, hnil, hc _ hid, hc _ hs, hc _ hal⟩
  | switched => exact hsm
  | confirmed | incoherent | rolledBack | timedOut =>
    exact ⟨hdg, hnil, hnil, hnil, hid, hs, hal⟩

theorem Change.lastAcceptedVersion_le (h : Change env i m m') :
    m.lastAcceptedVersion.toNat ≤ m'.lastAcceptedVersion.toNat := by
  cases h with
  | switched _ hvr => exact (UInt32.lt_iff_toNat_lt.mp hvr).le
  | _ => exact le_rfl

theorem Change.printable (h : Change env i m m') (hp : i.OneLinePath env) (hm : m.Printable) :
    m'.Printable := by
  refine h.textsAll (fun text hc => hc.no_newline) ?_ hm
  rintro path fs io rfl
  refine ⟨hp, ?_⟩
  rw [resolveManifestPath, List.mem_append, not_or]
  exact ⟨hp, by decide⟩

theorem Restoring.same (h : Restoring i m m') :
    m'.texts = m.texts ∧ m'.lastAcceptedVersion = m.lastAcceptedVersion ∧
      m'.activeSlot = m.activeSlot ∧ m'.pendingSlot = m.pendingSlot ∧
      m'.lastKnownGoodSlot = m.lastKnownGoodSlot ∧ m'.confirmed = m.confirmed := by
  cases h with
  | recordIntent | acknowledgeStable => exact ⟨rfl, rfl, rfl, rfl, rfl, rfl⟩
  | countBoot =>
    unfold BootMetadata.countBoot
    split_ifs <;> exact ⟨rfl, rfl, rfl, rfl, rfl, rfl⟩

theorem printable_of_texts_eq (h : m'.texts = m.texts) (hm : m.Printable) : m'.Printable := by
  rw [Printable, h]
  exact hm

theorem expectedDigest_of_texts_eq (h : m'.texts = m.texts) : m'.expectedDigest = m.expectedDigest := by
  simp only [BootMetadata.texts, List.cons.injEq] at h
  exact h.1

theorem default_textsAll (hnil : P []) : ({} : BootMetadata).TextsAll P :=
  textsAll_iff.mpr ⟨hnil, hnil, hnil, hnil, hnil, hnil, hnil⟩

theorem rollback_textsAll (hnil : P []) (r : UInt32) (h : m.TextsAll P) :
    (m.rollback r).TextsAll P := by
  rw [textsAll_iff] at h ⊢
  obtain ⟨hdg, -, -, -, hid, hs, hal⟩ := h
  exact ⟨hdg, hnil, hnil, hnil, hid, hs, hal⟩

theorem clearStagedTrust_textsAll (hnil : P []) (h : m.TextsAll P) : m.clearStagedTrust.TextsAll P := by
  rw [textsAll_iff] at h ⊢
  exact ⟨h.1, hnil, hnil, hnil, hnil, hnil, hnil⟩

theorem Fallback.textsAll {r : LoadResult} (h : Fallback r m) (hnil : P [])
    (hr : ∀ m, r = .ok m → m.TextsAll P) : m.TextsAll P := by
  cases h with
  | absent => exact default_textsAll hnil
  | invalid | ioError => exact rollback_textsAll hnil _ (default_textsAll hnil)
  | incoherent => exact rollback_textsAll hnil _ (hr _ rfl)

theorem Fallback.confirmed {r : LoadResult} (h : Fallback r m) : m.confirmed = true := by
  cases h <;> rfl

end Texts

namespace BootCore

/-- The floor that the file holds; a file without a readable record holds none. -/
def floor (c : BootCore) : ℕ := c.read.elim 0 fun m => m.lastAcceptedVersion.toNat

theorem floor_congr {c c' : BootCore} (h : c.file = c'.file) : c.floor = c'.floor := by
  rw [floor, floor, read, read, h]

variable {readOk : Bool} {c : BootCore}

theorem read_of_load {m : BootMetadata} (h : c.load readOk = .ok m) : c.read = some m := by
  unfold load at h
  unfold read
  cases hf : c.file with
  | none => simp [hf] at h
  | some n =>
    rw [hf] at h
    dsimp only at h
    split_ifs at h
    cases hl : loadText n with
    | none => simp [hl] at h
    | some =>
      rw [hl] at h
      cases h
      exact hl

theorem clean_of_read {m : BootMetadata} (h : c.read = some m) : m.Clean := by
  obtain ⟨n, -, hl⟩ := Option.bind_eq_some_iff.mp h
  exact clean_of_loadText hl

theorem clean_of_fallback {m : BootMetadata} (h : Fallback (c.load readOk) m) : m.Clean := by
  refine ⟨h.textsAll clean_nil fun _ hr => (clean_of_read (read_of_load hr)).texts, ?_⟩
  generalize hr : c.load readOk = result at h
  cases h with
  | absent | invalid | ioError => rfl
  | incoherent => exact (clean_of_read (read_of_load hr)).digest

theorem printable_of_fallback {m : BootMetadata} (h : Fallback (c.load readOk) m) :
    m.Printable := (clean_of_fallback h).printable

theorem read_eq_none_of_load (h : c.load true = .notFound ∨ c.load true = .invalid) :
    c.read = none := by
  unfold load at h
  unfold read
  cases hf : c.file with
  | none => rfl
  | some n =>
    rw [hf] at h
    cases hl : loadText n with
    | none => exact hl
    | some => simp [hl] at h

theorem load_true_ne_ioError (c : BootCore) : c.load true ≠ .ioError := by
  unfold load
  cases c.file with
  | none => simp
  | some n => cases hl : loadText n <;> simp [hl]

theorem read_written {m : BootMetadata} (hm : m.Printable)
    (h : c.file = some m.text) : c.read = some m.reread := by
  rw [read, h, Option.bind_some, loadText_text hm]

theorem floor_written {m : BootMetadata} (hm : m.Printable)
    (h : c.file = some m.text) : c.floor = m.lastAcceptedVersion.toNat := by
  rw [floor, read_written hm h]
  rfl

theorem floor_cut_le {m : BootMetadata} (hm : m.Printable) {k : ℕ}
    (h : c.file = some (m.text.take k)) : c.floor ≤ m.lastAcceptedVersion.toNat := by
  rw [floor, read, h, Option.bind_some]
  cases hl : loadText (m.text.take k) with
  | none => exact Nat.zero_le _
  | some =>
    rcases loadText_take_lastAcceptedVersion hm hl with hz | hs
    · simp [hz]
    · simp [hs]

theorem floor_cut {m : BootMetadata} (hm : m.Printable) {k : ℕ} (hk : m.KeepsFloor k)
    (h : c.file = some (m.text.take k)) : c.floor = m.lastAcceptedVersion.toNat := by
  rw [floor, read, h, Option.bind_some, BootMetadata.loadText_take_of_keepsFloor hm hk]
  rfl

end BootCore

/-- A load saves no made-up record in place of one that could not be read, and its save is
cut off only where no floor is at stake. -/
structure StorageIo.Spares (io : StorageIo) (floor : ℕ) : Prop where
  readOk : io.loadSave = .written → io.readOk = true
  loadSave : ∀ k, io.loadSave = .cut k → floor = 0

/-- A text that is cut off and left in the file still holds the floor, if there is one. -/
def SaveOutcome.Spares (outcome : SaveOutcome) (floor : ℕ) (file : Option Bytes) : Prop :=
  ∀ (k : ℕ) (m : BootMetadata), outcome = .cut k → m.Printable → file = some (m.text.take k) →
    floor = 0 ∨ m.KeepsFloor k

/-- The file holds at least this floor, and so does a record that is in force. -/
structure FloorHeld (floor : ℕ) (c : BootCore) : Prop where
  persisted : floor ≤ c.floor
  memory : c.loaded = true ∨ c.metadata.AwaitsConfirm → c.floor ≤ c.metadata.lastAcceptedVersion.toNat
  printable : c.metadata.Printable

namespace FloorHeld

variable {floor : ℕ} {c c' : BootCore} {io : StorageIo}

theorem not_awaitsConfirm_of_confirmed {m : BootMetadata} (h : m.confirmed = true) :
    ¬ m.AwaitsConfirm := by
  rintro ⟨-, hf⟩
  rw [h] at hf
  cases hf

theorem fallback {m : BootMetadata} (h : Fallback (c.load true) m) :
    m.lastAcceptedVersion.toNat = c.floor := by
  have hnone (hl : c.load true = .notFound ∨ c.load true = .invalid) : c.floor = 0 := by
    rw [BootCore.floor, BootCore.read_eq_none_of_load hl]
    rfl
  generalize hr : c.load true = result at h
  cases h with
  | absent => exact (hnone (.inl hr)).symm
  | invalid => exact (hnone (.inr hr)).symm
  | ioError => exact absurd hr c.load_true_ne_ioError
  | incoherent =>
    rw [BootCore.floor, BootCore.read_of_load hr]
    rfl

theorem loads {ok : Bool} (h : Loads io c c' ok) (hio : io.Spares floor) (hc : FloorHeld floor c) :
    FloorHeld floor c' := by
  cases h with
  | already => exact hc
  | unreachable => exact hc
  | adopted _ hm =>
    have hr := BootCore.read_of_load hm
    refine ⟨hc.persisted, fun _ => ?_, ?_⟩
    · change c.floor ≤ _
      rw [BootCore.floor, hr]
      exact le_rfl
    · exact (BootCore.clean_of_read hr).printable
  | @replaced m _ hm =>
    have hp := BootCore.printable_of_fallback hm
    have hid := not_awaitsConfirm_of_confirmed hm.confirmed
    cases hs : io.loadSave with
    | written =>
      rw [hio.readOk hs] at hm
      have hf := fallback hm
      have hnew : (c.startWith m .written).floor = m.lastAcceptedVersion.toNat :=
        BootCore.floor_written hp rfl
      exact ⟨by rw [hnew, hf]; exact hc.persisted, fun _ => hnew.le, hp⟩
    | failed =>
      refine ⟨hc.persisted, fun h => ?_, hp⟩
      rcases h with h | h
      · cases h
      · exact absurd h hid
    | cut k =>
      refine ⟨by rw [hio.loadSave k hs]; exact Nat.zero_le _, fun h => ?_, hp⟩
      rcases h with h | h
      · cases h
      · exact absurd h hid

variable {outcome : SaveOutcome}

theorem store {m : BootMetadata} (hc : FloorHeld floor c)
    (hf : c.loaded = true ∨ c.metadata.AwaitsConfirm)
    (hle : c.metadata.lastAcceptedVersion.toNat ≤ m.lastAcceptedVersion.toNat) (hm : m.Printable)
    (hcut : outcome.Spares floor (c.store m outcome).file) : FloorHeld floor (c.store m outcome) := by
  have hmm := (hc.memory hf).trans hle
  cases outcome with
  | written =>
    have hnew : (c.store m .written).floor = m.lastAcceptedVersion.toNat :=
      BootCore.floor_written hm rfl
    exact ⟨by rw [hnew]; exact hc.persisted.trans hmm, fun _ => hnew.le, hm⟩
  | failed =>
    have hnew : (c.store m .failed).floor = c.floor := BootCore.floor_congr rfl
    refine ⟨?_, fun _ => ?_, hm⟩
    · rw [hnew]
      exact hc.persisted
    · rw [hnew]
      exact hmm
  | cut k =>
    have hle : (c.store m (.cut k)).floor ≤ m.lastAcceptedVersion.toNat :=
      BootCore.floor_cut_le (k := k) hm rfl
    refine ⟨?_, fun _ => hle, hm⟩
    rcases hcut k m rfl hm rfl with hz | hk
    · rw [hz]
      exact Nat.zero_le _
    · rw [BootCore.floor_cut hm hk rfl]
      exact hc.persisted.trans hmm

theorem storeOrRestore {m : BootMetadata} (hc : FloorHeld floor c)
    (hf : c.loaded = true ∨ c.metadata.AwaitsConfirm)
    (hs : m.lastAcceptedVersion = c.metadata.lastAcceptedVersion) (hm : m.Printable)
    (hcut : outcome.Spares floor (c.storeOrRestore m outcome).file) :
    FloorHeld floor (c.storeOrRestore m outcome) := by
  cases outcome with
  | written =>
    have hnew : (c.storeOrRestore m .written).floor = m.lastAcceptedVersion.toNat :=
      BootCore.floor_written hm rfl
    refine ⟨?_, fun _ => hnew.le, hm⟩
    rw [hnew, hs]
    exact hc.persisted.trans (hc.memory hf)
  | failed => exact hc
  | cut k =>
    refine ⟨?_, fun _ => ?_, hc.printable⟩
    · rcases hcut k m rfl hm rfl with hz | hk
      · rw [hz]
        exact Nat.zero_le _
      · rw [BootCore.floor_cut hm hk rfl, hs]
        exact hc.persisted.trans (hc.memory hf)
    have hle : (c.storeOrRestore m (.cut k)).floor ≤ m.lastAcceptedVersion.toNat :=
      BootCore.floor_cut_le hm rfl
    rwa [hs] at hle

theorem body {env : BootEnv} {i : BootInput} (h : Body env i c c')
    (hcut : i.io.persistSave.Spares floor c'.file)
    (hp : i.OneLinePath env) (hf : c.loaded = true ∨ c.metadata.AwaitsConfirm)
    (hc : FloorHeld floor c) : FloorHeld floor c' := by
  cases h with
  | kept => exact hc
  | noted => exact ⟨hc.persisted, fun _ => hc.memory hf, hc.printable⟩
  | cleared =>
    exact ⟨hc.persisted, fun _ => hc.memory hf,
      clearStagedTrust_textsAll List.not_mem_nil hc.printable⟩
  | stored h =>
    exact hc.store hf h.lastAcceptedVersion_le (h.printable hp hc.printable) hcut
  | restored h =>
    exact hc.storeOrRestore hf h.same.2.1 (printable_of_texts_eq h.same.1 hc.printable) hcut

theorem powerOn (hc : FloorHeld floor c) : FloorHeld floor (.powerOn c.file) := by
  refine ⟨hc.persisted, fun h => ?_, default_textsAll List.not_mem_nil⟩
  rcases h with h | h
  · cases h
  · exact absurd h (not_awaitsConfirm_of_confirmed rfl)

theorem transition {env : BootEnv} {i : BootInput} (h : Transition env i c c')
    (hld : c.loaded = true ∧ i.IsCall ∨ ∀ io ∈ i.ios, io.Spares floor)
    (hcut : i.io.persistSave.Spares floor c'.file) (hp : i.OneLinePath env)
    (hc : FloorHeld floor c) : FloorHeld floor c' := by
  rcases hld with ⟨hl, hcl⟩ | hios
  · cases h with
    | idle => exact hc
    | timedOut haw => exact body (.stored (.timedOut haw)) hcut hp (.inr haw) hc
    | unloaded hu =>
      rw [hu.eq_of_loaded hl]
      exact hc
    | called hld hb =>
      obtain rfl := hld.eq_of_loaded hl
      exact body hb hcut hp (.inl hl) hc
    | restartFailed | restarted => exact hcl.elim
  -- the text that the step leaves is known only at its end
  refine h.invariant (J := FloorHeld floor)
    (I := fun c' => i.io.persistSave.Spares floor c'.file → FloorHeld floor c') hc (fun _ hc _ => hc)
    (fun _ hc => hc.powerOn) ?_ ?_ ?_ hcut
  · rintro c hc
    refine ⟨hc.persisted, fun h => hc.memory ?_, hc.printable⟩
    rcases h with h | h
    · cases h
    · exact .inr h
  · exact fun io hio _ _ _ hl hc => loads hl (hios io hio) hc
  · exact fun _ _ hf hb hc hcut => body hb hcut hp hf hc

end FloorHeld

end ObcFlight
