import ObcFlight.BootManager

/-!
# What a step of the boot manager can do

All that later files need to know about a step: how it brings the record into memory, how
it may change the record and which of these changes it saves. Timers and progress are left
out; they decide when a change happens but are not part of the record.
-/

namespace ObcFlight

open BootMetadataStore BootManifestVerifier

namespace BootCore

def read (c : BootCore) : Option BootMetadata := c.file.bind loadText

def store (c : BootCore) (m : BootMetadata) : SaveOutcome → BootCore
  | .written => { c with file := some m.text, metadata := m }
  | .failed => { c with metadata := m.publishError BootError.metadataWrite }
  | .cut k =>
    { c with
      file := some (m.text.take k)
      metadata := m.publishError BootError.metadataWrite }

def storeOrRestore (c : BootCore) (m : BootMetadata) : SaveOutcome → BootCore
  | .written => { c with file := some m.text, metadata := m }
  | .failed => c
  | .cut k => { c with file := some (m.text.take k) }

def startWith (c : BootCore) (m : BootMetadata) : SaveOutcome → BootCore
  | .written => { file := some m.text, metadata := m, loaded := true }
  | .failed => { c with metadata := m, loaded := false }
  | .cut k => { file := some (m.text.take k), metadata := m, loaded := false }

def powerOn (file : Option Bytes) : BootCore := { file }

end BootCore

/-- The record that a load puts in place of what the file holds. -/
inductive Fallback : LoadResult → BootMetadata → Prop
  | absent : Fallback .notFound BootManager.initialMetadata
  | invalid : Fallback .invalid (({} : BootMetadata).rollback BootError.metadataInvalid)
  | ioError : Fallback .ioError (({} : BootMetadata).rollback BootError.metadataInvalid)
  | incoherent {m : BootMetadata} (h : m.isPendingTrustStateCoherent = false) :
      Fallback (.ok m) (m.rollback BootError.metadataInvalid)

/-- What loadOrInitializeMetadata can do; the boolean is its answer. -/
inductive Loads (io : StorageIo) : BootCore → BootCore → Bool → Prop
  | already {c : BootCore} (h : c.loaded = true) : Loads io c c true
  | unreachable {c : BootCore} (h : c.loaded = false) (hensure : io.ensureOk = false) :
      Loads io c c false
  | adopted {c : BootCore} {m : BootMetadata} (h : c.loaded = false)
      (hm : c.load io.readOk = .ok m) (hcoherent : m.isPendingTrustStateCoherent = true) :
      Loads io c { c with metadata := m, loaded := true } true
  | replaced {c : BootCore} {m : BootMetadata} (h : c.loaded = false)
      (hm : Fallback (c.load io.readOk) m) :
      Loads io c (c.startWith m io.loadSave) (decide (io.loadSave = .written))

/-- The file at a path is the prepared image. -/
structure StageFits (m : BootMetadata) (path : Bytes) (fs : FileSystem) : Prop where
  size : fs.getFileSize path = some m.expectedSize.toNat
  digest : computeDigestHex fs path = some m.expectedDigest

/-- Prepared and asked about a path: only now verify looks at the staged files. -/
structure Examines (m : BootMetadata) (requestedPath : Bytes) : Prop where
  size : m.expectedSize ≠ 0
  digest : m.expectedDigest ≠ []
  path : requestedPath ≠ []

/-- What a verify command decides about the manifest of a fitting image. -/
def stageDecision (env : BootEnv) (m : BootMetadata) (requestedPath : Bytes) (fs : FileSystem) :
    BootManifestDecision :=
  verifyBootManifestFile fs (resolveManifestPath (env.resolveStagingPath requestedPath)) requestedPath
    m.expectedSize m.expectedDigest m.inactiveSlot m.lastAcceptedVersion env.trust

/-- A verified stage waits for its activation. -/
structure Staged (m : BootMetadata) : Prop where
  verified : m.stageVerified = true
  path : m.stagedPath ≠ []
  trusted : m.trustStatus = BootTrust.statusTrusted
  version : m.stagedSoftwareVersion ≠ 0

def BootInput.io : BootInput → StorageIo
  | .bootStatus io | .prepareUpdate _ _ io | .verifyStagedImage _ _ io | .activateStagedImage _ io
  | .confirm io | .rollback io | .schedIn io | .recordIntent _ _ _ io | .acknowledgeStable io
  | .restart _ io => io

/-- What the storage does at each load of a step; a restart loads twice. -/
def BootInput.ios : BootInput → List StorageIo
  | .restart construct configure => [construct, configure]
  | i => [i.io]

/-- Commands, ticks and runtime calls, but not the start of a process. -/
def BootInput.IsCall : BootInput → Prop
  | .restart _ _ => False
  | _ => True

/-- What an activate command decides about the manifest of a fitting image. -/
def activationDecision (env : BootEnv) (m : BootMetadata) (fs : FileSystem) : BootManifestDecision :=
  verifyBootManifestFile fs
    (if m.manifestPath = [] then resolveManifestPath m.stagedPath else m.manifestPath)
    (if m.manifestImagePath = [] then m.stagedPath else m.manifestImagePath)
    m.expectedSize m.expectedDigest m.inactiveSlot m.lastAcceptedVersion env.trust

theorem validateStagedTrust_cases (env : BootEnv) (m : BootMetadata) (fs : FileSystem) :
    ((BootManager.validateStagedTrust env m fs).accepted = false ∧
      (BootManager.validateStagedTrust env m fs).manifest = {}) ∨
      (StageFits m m.stagedPath fs ∧
        BootManager.validateStagedTrust env m fs = activationDecision env m fs) := by
  unfold BootManager.validateStagedTrust
  cases hsz : fs.getFileSize m.stagedPath with
  | none => exact .inl ⟨rfl, rfl⟩
  | some f =>
    dsimp only
    by_cases he : f = m.expectedSize.toNat
    swap
    · rw [if_pos he]
      exact .inl ⟨rfl, rfl⟩
    rw [if_neg (not_not.mpr he)]
    cases hdg : computeDigestHex fs m.stagedPath with
    | none => exact .inl ⟨rfl, rfl⟩
    | some d =>
      dsimp only
      by_cases hs : d = m.expectedDigest
      swap
      · rw [if_pos hs]
        exact .inl ⟨rfl, rfl⟩
      subst hs he
      rw [if_neg (not_not.mpr rfl), UInt32.ofNat_toNat]
      exact .inr ⟨⟨hsz, hdg⟩, rfl⟩

/-- The changes that a step saves and keeps even if the save fails. -/
inductive Change (env : BootEnv) : BootInput → BootMetadata → BootMetadata → Prop
  | prepared {imageSize : UInt32} {digest : Bytes} {io : StorageIo} {m : BootMetadata}
      (hidle : ¬ m.AwaitsConfirm) (hsize : imageSize ≠ 0)
      (hdigest : isDigestFormatValid (normalizeDigest digest) = true) :
      Change env (.prepareUpdate imageSize digest io) m (m.prepare imageSize (normalizeDigest digest))
  | rejected {path : Bytes} {fs : FileSystem} {io : StorageIo} {m : BootMetadata}
      (hexamines : Examines m path) (hfits : StageFits m (env.resolveStagingPath path) fs)
      (hdecision : (stageDecision env m path fs).accepted = false) :
      Change env (.verifyStagedImage path fs io) m
        (m.rejectTrust (stageDecision env m path fs).rejectReason (stageDecision env m path fs).manifest)
  | accepted {path : Bytes} {fs : FileSystem} {io : StorageIo} {m : BootMetadata}
      (hexamines : Examines m path) (hfits : StageFits m (env.resolveStagingPath path) fs)
      (hdecision : (stageDecision env m path fs).accepted = true) :
      Change env (.verifyStagedImage path fs io) m
        (m.acceptStage (env.resolveStagingPath path) (stageDecision env m path fs).manifest)
  | refused {fs : FileSystem} {io : StorageIo} {m : BootMetadata} {reason : UInt32}
      {manifest : BootManifest} (hstaged : Staged m)
      (hmanifest : manifest = {} ∨ manifest = (BootManager.validateStagedTrust env m fs).manifest) :
      Change env (.activateStagedImage fs io) m (m.rejectTrust reason manifest)
  | switched {fs : FileSystem} {io : StorageIo} {m : BootMetadata} {now : UInt32} (hstaged : Staged m)
      (hversion : m.lastAcceptedVersion < m.stagedSoftwareVersion)
      (hdecision : (BootManager.validateStagedTrust env m fs).accepted = true)
      (hsame : BootManager.sameStage m (BootManager.validateStagedTrust env m fs).manifest = true) :
      Change env (.activateStagedImage fs io) m (m.switchSlot now)
  | confirmed {io : StorageIo} {m : BootMetadata} (hawaits : m.AwaitsConfirm)
      (hcoherent : m.isPendingTrustStateCoherent = true) :
      Change env (.confirm io) m m.confirmUpdate
  | incoherent {io : StorageIo} {m : BootMetadata} (hawaits : m.AwaitsConfirm)
      (hcoherent : m.isPendingTrustStateCoherent = false) :
      Change env (.confirm io) m (m.rollback BootError.metadataInvalid)
  | rolledBack {io : StorageIo} {m : BootMetadata} :
      Change env (.rollback io) m (m.rollback BootError.noPendingSlot)
  | timedOut {io : StorageIo} {m : BootMetadata} (hawaits : m.AwaitsConfirm) :
      Change env (.schedIn io) m (m.rollback BootError.confirmTimeout)

/-- The changes that a step takes back when the save fails. -/
inductive Restoring : BootInput → BootMetadata → BootMetadata → Prop
  | recordIntent {cause : ResetCause} {source : RecoveryIncidentSource} {level : RecoveryLevel}
      {io : StorageIo} {m : BootMetadata} :
      Restoring (.recordIntent cause source level io) m (m.recordIntent cause source level)
  | acknowledgeStable {io : StorageIo} {m : BootMetadata} :
      Restoring (.acknowledgeStable io) m m.acknowledgeStable
  | countBoot {construct configure : StorageIo} {m : BootMetadata} :
      Restoring (.restart construct configure) m m.countBoot

/-- What a step does once the record is in memory. -/
inductive Body (env : BootEnv) (i : BootInput) : BootCore → BootCore → Prop
  | kept {c : BootCore} : Body env i c c
  | noted {c : BootCore} (code : UInt32) :
      Body env i c { c with metadata := c.metadata.publishError code }
  | cleared {c : BootCore} {path : Bytes} {fs : FileSystem} {io : StorageIo} (code : UInt32)
      (hi : i = .verifyStagedImage path fs io) (hexamines : Examines c.metadata path)
      (hunfit : ¬ StageFits c.metadata (env.resolveStagingPath path) fs) :
      Body env i c { c with metadata := (c.metadata.publishError code).clearStagedTrust }
  | stored {c : BootCore} {m : BootMetadata} (h : Change env i c.metadata m) :
      Body env i c (c.store m i.io.persistSave)
  | restored {c : BootCore} {m : BootMetadata} (h : Restoring i c.metadata m) :
      Body env i c (c.storeOrRestore m i.io.persistSave)

inductive Transition (env : BootEnv) : BootInput → BootCore → BootCore → Prop
  | idle {io : StorageIo} {c : BootCore} : Transition env (.schedIn io) c c
  | timedOut {io : StorageIo} {c : BootCore} (hawaits : c.metadata.AwaitsConfirm) :
      Transition env (.schedIn io) c
        (c.store (c.metadata.rollback BootError.confirmTimeout) io.persistSave)
  | unloaded {i : BootInput} {c c' : BootCore} (hload : Loads i.io c c' false) : Transition env i c c'
  | called {i : BootInput} {c c₁ c' : BootCore} (hload : Loads i.io c c₁ true)
      (hbody : Body env i c₁ c') : Transition env i c c'
  | restartFailed {construct configure : StorageIo} {c c₁ c' : BootCore} {ok : Bool}
      (hconstruct : Loads construct (.powerOn c.file) c₁ ok)
      (hconfigure : Loads configure { c₁ with loaded := false } c' false) :
      Transition env (.restart construct configure) c c'
  | restarted {construct configure : StorageIo} {c c₁ c₂ c' : BootCore} {ok : Bool}
      (hconstruct : Loads construct (.powerOn c.file) c₁ ok)
      (hconfigure : Loads configure { c₁ with loaded := false } c₂ true)
      (hbody : Body env (.restart construct configure) c₂ c') :
      Transition env (.restart construct configure) c c'

theorem Loads.loaded {io : StorageIo} {c c' : BootCore} (h : Loads io c c' true) :
    c'.loaded = true := by
  generalize hok : true = ok at h
  cases h with
  | already h => exact h
  | unreachable => cases hok
  | adopted => rfl
  | replaced =>
    rw [of_decide_eq_true hok.symm]
    rfl

theorem Loads.eq_of_loaded {io : StorageIo} {c c' : BootCore} {ok : Bool} (h : Loads io c c' ok)
    (hl : c.loaded = true) : c' = c := by
  cases h with
  | already => rfl
  | unreachable hu | adopted hu | replaced hu => exact absurd (hu.symm.trans hl) (by decide)

theorem BootInput.io_mem_ios (i : BootInput) : i.io ∈ i.ios := by
  cases i <;> simp [ios, io]

/-- An invariant of whole steps, from what it needs at a power cycle, at a load and at the
change of a record that is in force. J may know more than I about the input of the step. -/
theorem Transition.invariant {env : BootEnv} {i : BootInput} {c c' : BootCore} {I J : BootCore → Prop}
    (h : Transition env i c c') (hc : J c) (himp : ∀ c, J c → I c)
    (hp : ∀ c, J c → J (.powerOn c.file)) (hu : ∀ c, J c → J { c with loaded := false })
    (hld : ∀ io ∈ i.ios, ∀ c c' ok, Loads io c c' ok → J c → J c')
    (hbd : ∀ c c', c.loaded = true ∨ c.metadata.AwaitsConfirm → Body env i c c' → J c → I c') :
    I c' := by
  cases h with
  | idle => exact himp _ hc
  | timedOut haw => exact hbd _ _ (.inr haw) (.stored (.timedOut haw)) hc
  | unloaded hl => exact himp _ (hld _ i.io_mem_ios _ _ _ hl hc)
  | called hl hb =>
    exact hbd _ _ (.inl hl.loaded) hb (hld _ i.io_mem_ios _ _ _ hl hc)
  | restartFailed hcs hcn =>
    have hf := hld _ (by simp [BootInput.ios]) _ _ _ hcs (hp _ hc)
    exact himp _ (hld _ (by simp [BootInput.ios]) _ _ _ hcn (hu _ hf))
  | restarted hcs hcn hb =>
    have hf := hld _ (by simp [BootInput.ios]) _ _ _ hcs (hp _ hc)
    have hs := hld _ (by simp [BootInput.ios]) _ _ _ hcn (hu _ hf)
    exact hbd _ _ (.inl hcn.loaded) hb hs

namespace BootManager

variable {env : BootEnv} {s : BootManager} {io : StorageIo}

theorem saveLoaded_core (s : BootManager) (o : SaveOutcome) :
    (s.saveLoaded o).1.toBootCore = s.toBootCore.startWith s.metadata o ∧
      (s.saveLoaded o).2 = decide (o = .written) := by
  cases o <;> exact ⟨rfl, rfl⟩

theorem startWith_congr {c c' : BootCore} (h : c.file = c'.file) (m : BootMetadata)
    (outcome : SaveOutcome) : c.startWith m outcome = c'.startWith m outcome := by
  cases outcome with
  | written => rfl
  | failed => rw [BootCore.startWith, BootCore.startWith, h]
  | cut => rfl

theorem loads_saveLoaded {t : BootManager} (hl : s.loaded = false) (hfl : t.file = s.file)
    (hf : Fallback (s.toBootCore.load io.readOk) t.metadata) :
    Loads io s.toBootCore (t.saveLoaded io.loadSave).1.toBootCore (t.saveLoaded io.loadSave).2 := by
  obtain ⟨hc, hok⟩ := t.saveLoaded_core io.loadSave
  rw [hc, hok, startWith_congr hfl]
  exact .replaced hl hf

theorem loadOrInitializeMetadata_loads (s : BootManager) (io : StorageIo) :
    Loads io s.toBootCore (s.loadOrInitializeMetadata io).1.toBootCore
      (s.loadOrInitializeMetadata io).2 := by
  unfold loadOrInitializeMetadata
  by_cases hl : s.loaded = true
  · rw [if_pos hl]
    exact .already hl
  have hu : s.loaded = false := by simpa using hl
  rw [if_neg hl]
  by_cases he : io.ensureOk = true
  · rw [if_neg (by simpa using he)]
    cases hr : s.toBootCore.load io.readOk with
    | ok =>
      dsimp only
      split_ifs with hc
      · exact .adopted hu hr hc
      · refine loads_saveLoaded hu rfl ?_
        rw [hr]
        exact .incoherent (by simpa using hc)
    | notFound =>
      refine loads_saveLoaded hu rfl ?_
      rw [hr]
      exact .absent
    | invalid =>
      refine loads_saveLoaded hu rfl ?_
      rw [hr]
      exact .invalid
    | ioError =>
      refine loads_saveLoaded hu rfl ?_
      rw [hr]
      exact .ioError
  · rw [if_pos he]
    exact .unreachable hu (by simpa using he)

theorem store_congr {c c' : BootCore} (hf : c.file = c'.file) (hl : c.loaded = c'.loaded)
    (m : BootMetadata) (outcome : SaveOutcome) : c.store m outcome = c'.store m outcome := by
  cases outcome <;> simp only [BootCore.store, hf, hl]

theorem persistState_core (s : BootManager) (io : StorageIo) :
    (s.persistState io).1.toBootCore = s.toBootCore.store s.metadata io.persistSave := by
  unfold persistState
  cases io.persistSave <;> rfl

theorem persistAndRespond_core (s : BootManager) (io : StorageIo) :
    (s.persistAndRespond io).1.toBootCore = s.toBootCore.store s.metadata io.persistSave := by
  unfold persistAndRespond persistState
  cases io.persistSave <;> rfl

theorem persistOrRestore_core (s : BootManager) (m : BootMetadata) (io : StorageIo) :
    (s.persistOrRestore m io).1.toBootCore = s.toBootCore.storeOrRestore m io.persistSave := by
  unfold persistOrRestore persistState
  cases io.persistSave <;> rfl

variable {i : BootInput}

theorem body_stored {t : BootManager} (hf : t.file = s.file) (hl : t.loaded = s.loaded)
    (h : Change env i s.metadata t.metadata) :
    Body env i s.toBootCore (t.toBootCore.store t.metadata i.io.persistSave) := by
  rw [store_congr hf hl]
  exact .stored h

theorem whenLoaded_transition {body : BootManager → BootManager × CmdResponse}
    (hbd : ∀ t : BootManager, Body env i t.toBootCore (body t).1.toBootCore) :
    Transition env i s.toBootCore (s.whenLoaded i.io body).1.toBootCore := by
  have hl := s.loadOrInitializeMetadata_loads i.io
  unfold whenLoaded
  cases hld : s.loadOrInitializeMetadata i.io with
  | mk t ok =>
    rw [hld] at hl
    cases ok with
    | false => exact .unloaded hl
    | true => exact .called hl (hbd t)

theorem bootPrepareUpdate_transition (n : UInt32) (d : Bytes) :
    Transition env (.prepareUpdate n d io) s.toBootCore
      (s.bootPrepareUpdate n d io).1.toBootCore := by
  refine whenLoaded_transition fun t => ?_
  split_ifs with haw har
  · exact .noted _
  · exact .noted _
  · rw [not_or, not_not] at har
    rw [persistAndRespond_core]
    exact body_stored rfl rfl (.prepared haw har.1 har.2)

theorem bootVerifyStagedImage_transition (path : Bytes) (fs : FileSystem) :
    Transition env (.verifyStagedImage path fs io) s.toBootCore
      (s.bootVerifyStagedImage env path fs io).1.toBootCore := by
  refine whenLoaded_transition fun t => ?_
  dsimp only
  split_ifs with hp hpt
  · exact .noted _
  · exact .noted _
  rw [not_or] at hp
  have hem : Examines t.metadata path := ⟨hp.1, hp.2, hpt⟩
  have hc (code : UInt32)
      (hu : ¬ StageFits t.metadata (env.resolveStagingPath path) fs) :
      Body env (.verifyStagedImage path fs io) t.toBootCore (t.failStage code).toBootCore :=
    .cleared code rfl hem hu
  cases hsz : fs.getFileSize (env.resolveStagingPath path) with
  | none => exact hc _ fun hf => by cases hsz.symm.trans hf.size
  | some f =>
    dsimp only
    by_cases he : f = t.metadata.expectedSize.toNat
    swap
    · rw [if_pos he]
      exact hc _ fun hf => he (Option.some.inj (hsz.symm.trans hf.size))
    rw [if_neg (not_not.mpr he)]
    cases hdg : computeDigestHex fs (env.resolveStagingPath path) with
    | none => exact hc _ fun hf => by cases hdg.symm.trans hf.digest
    | some c =>
      dsimp only
      by_cases hs : c = t.metadata.expectedDigest
      swap
      · rw [if_pos hs]
        exact hc _ fun hf => hs (Option.some.inj (hdg.symm.trans hf.digest))
      subst hs he
      rw [if_neg (not_not.mpr rfl), UInt32.ofNat_toNat]
      have hf : StageFits t.metadata (env.resolveStagingPath path) fs := ⟨hsz, hdg⟩
      split_ifs with hac
      · rw [persistAndRespond_core]
        exact body_stored rfl rfl (.accepted hem hf hac)
      · rw [persistAndRefuse, persistState_core]
        exact body_stored rfl rfl (.rejected hem hf (Bool.not_eq_true _ ▸ hac))

theorem bootActivateStagedImage_transition (fs : FileSystem) :
    Transition env (.activateStagedImage fs io) s.toBootCore
      (s.bootActivateStagedImage env fs io).1.toBootCore := by
  refine whenLoaded_transition fun t => ?_
  dsimp only
  by_cases hr : t.metadata.stageVerified = false ∨ t.metadata.stagedPath = [] ∨
      t.metadata.trustStatus ≠ BootTrust.statusTrusted ∨ t.metadata.stagedSoftwareVersion = 0
  · rw [if_pos hr]
    exact .noted _
  rw [if_neg hr]
  have hs : Staged t.metadata := by
    simp only [not_or, Bool.not_eq_false, ne_eq, not_not] at hr
    exact ⟨hr.1, hr.2.1, hr.2.2.1, hr.2.2.2⟩
  split_ifs with hvr hac hsm
  · rw [persistAndRefuse, persistState_core]
    exact body_stored rfl rfl (.refused hs (.inl rfl))
  · rw [persistAndRespond_core]
    exact body_stored rfl rfl (.switched hs (UInt32.not_le.mp hvr) hac hsm)
  · rw [persistAndRefuse, persistState_core]
    exact body_stored rfl rfl (.refused hs (.inr rfl))
  · rw [persistAndRefuse, persistState_core]
    exact body_stored rfl rfl (.refused hs (.inr rfl))

theorem bootConfirm_transition :
    Transition env (.confirm io) s.toBootCore (s.bootConfirm io).1.toBootCore := by
  refine whenLoaded_transition fun t => ?_
  split_ifs with haw hc
  · rw [persistAndRespond_core]
    exact body_stored rfl rfl (.confirmed haw hc)
  · rw [persistAndRefuse, persistState_core]
    exact body_stored rfl rfl (.incoherent haw (by simpa using hc))
  · exact .noted _

theorem bootRollback_transition :
    Transition env (.rollback io) s.toBootCore (s.bootRollback io).1.toBootCore := by
  refine whenLoaded_transition fun t => ?_
  rw [persistAndRespond_core]
  exact body_stored rfl rfl .rolledBack

theorem schedIn_transition :
    Transition env (.schedIn io) s.toBootCore (s.schedIn io).toBootCore := by
  unfold schedIn
  dsimp only
  split_ifs with haw hr ht
  · rw [persistState_core]
    exact .timedOut haw
  · exact .idle
  · rw [persistState_core]
    exact .timedOut haw
  · exact .idle
  · exact .idle

theorem changeForRuntime_transition {c : BootMetadata → BootMetadata}
    (hc : ∀ m, Restoring i m (c m)) :
    Transition env i s.toBootCore (s.changeForRuntime c i.io).1.toBootCore := by
  have hl := s.loadOrInitializeMetadata_loads i.io
  unfold changeForRuntime
  cases hld : s.loadOrInitializeMetadata i.io with
  | mk _ ok =>
    rw [hld] at hl
    cases ok with
    | false => exact .unloaded hl
    | true =>
      refine .called hl ?_
      dsimp only
      rw [persistOrRestore_core]
      exact .restored (hc _)

theorem initializeRuntimeBoot_core (s : BootManager) (io : StorageIo)
    (hf : (s.loadOrInitializeMetadata io).1.runtimeBootInitialized = false)
    (hok : (s.loadOrInitializeMetadata io).2 = true) :
    (s.initializeRuntimeBoot io).1.toBootCore =
      (s.loadOrInitializeMetadata io).1.toBootCore.storeOrRestore
        (s.loadOrInitializeMetadata io).1.metadata.countBoot io.persistSave := by
  unfold initializeRuntimeBoot
  cases hl : s.loadOrInitializeMetadata io with
  | mk t ok =>
    rw [hl] at hf hok
    subst hok
    dsimp only at hf ⊢
    rw [hf, ← persistOrRestore_core]
    cases hp : t.persistOrRestore t.metadata.countBoot io with
    | mk _ ok => cases ok <;> rfl

theorem loadOrInitializeMetadata_runtimeBootInitialized (s : BootManager) (io : StorageIo) :
    (s.loadOrInitializeMetadata io).1.runtimeBootInitialized = s.runtimeBootInitialized := by
  have hs (t : BootManager) (outcome : SaveOutcome) :
      (t.saveLoaded outcome).1.runtimeBootInitialized = t.runtimeBootInitialized := by
    cases outcome <;> rfl
  unfold loadOrInitializeMetadata
  split_ifs with hl he
  · rfl
  · split
    · split_ifs
      · rfl
      · exact hs _ _
    · exact hs _ _
    · exact hs _ _
  · rfl

theorem restart_transition (c configure : StorageIo) :
    Transition env (.restart c configure) s.toBootCore (s.restart c configure).toBootCore := by
  have hcn := (powerOn s.file).loadOrInitializeMetadata_loads c
  unfold restart
  dsimp only
  generalize ((powerOn s.file).loadOrInitializeMetadata c).1 = constructed at hcn ⊢
  generalize ht : ({ constructed with loaded := false, runtimeBootInitialized := false } :
    BootManager) = t
  have hc := t.loadOrInitializeMetadata_loads configure
  have hcr : t.toBootCore = { constructed.toBootCore with loaded := false } := by rw [← ht]
  have hf : (t.loadOrInitializeMetadata configure).1.runtimeBootInitialized = false := by
    rw [loadOrInitializeMetadata_runtimeBootInitialized, ← ht]
  rw [hcr] at hc
  cases hok : (t.loadOrInitializeMetadata configure).2 with
  | true =>
    rw [hok] at hc
    rw [initializeRuntimeBoot_core t configure hf hok]
    exact .restarted hcn hc (.restored .countBoot)
  | false =>
    rw [hok] at hc
    have hin : t.initializeRuntimeBoot configure = t.loadOrInitializeMetadata configure := by
      unfold initializeRuntimeBoot
      cases hl : t.loadOrInitializeMetadata configure with
      | mk =>
        rw [hl] at hok
        subst hok
        rfl
    rw [hin]
    exact .restartFailed hcn hc

theorem step_transition (env : BootEnv) (s : BootManager) (i : BootInput) :
    Transition env i s.toBootCore (step env s i).1.toBootCore := by
  cases i with
  | bootStatus => exact whenLoaded_transition fun t => .kept
  | prepareUpdate f d => exact bootPrepareUpdate_transition f d
  | verifyStagedImage path fs => exact bootVerifyStagedImage_transition path fs
  | activateStagedImage fs => exact bootActivateStagedImage_transition fs
  | confirm => exact bootConfirm_transition
  | rollback => exact bootRollback_transition
  | schedIn => exact schedIn_transition
  | recordIntent => exact changeForRuntime_transition fun _ => .recordIntent
  | acknowledgeStable => exact changeForRuntime_transition fun _ => .acknowledgeStable
  | restart n c => exact restart_transition n c

end BootManager

end ObcFlight
