import ObcFlight.BootFloor
import ObcFlight.BootUpdateFlow

/-!
# Activation is sound

The trust decision is spread over a prepare, a verify and an activate command, with restarts
and changing files in between. What the record says about a staged image is traced back to
the commands that put it there: the digest to a prepare command, the paths to a verify
command that found the image's name acceptable. An activation judges the files once more, so
that whatever it lets through is vouched for at that moment.
-/

namespace ObcFlight

open BootMetadataStore BootManifestVerifier BootMetadata

section Traced

variable {env : BootEnv} {requested : Bytes → Prop} {prepared : UInt32 → Bytes → Prop}

/-- The paths of a verified stage come from one of the requested paths. A reload trims
them, and only in front: behind, no accepted path ends in white space. -/
structure StageTraced (env : BootEnv) (requested : Bytes → Prop) (m : BootMetadata) : Prop where
  origin : ∃ path, requested path ∧
    (m.manifestImagePath = path ∨ m.manifestImagePath = basenameOf path) ∧
    bootText.trim m.stagedPath = bootText.trim (env.resolveStagingPath path)
  ending : m.stagedPath.rdropWhile isSpace = m.stagedPath
  manifestPath : m.manifestPath = resolveManifestPath m.stagedPath
  imagePath : bootText.trim m.manifestImagePath = m.manifestImagePath
  imagePath_ne_nil : m.manifestImagePath ≠ []

structure Traced (env : BootEnv) (requested : Bytes → Prop) (prepared : UInt32 → Bytes → Prop)
    (m : BootMetadata) : Prop where
  digest_clean : bootText.Clean m.expectedDigest
  digest_lower : m.expectedDigest.map toLower = m.expectedDigest
  prepared : m.expectedSize ≠ 0 → prepared m.expectedSize m.expectedDigest
  staged : m.stageVerified = true → m.trustStatus = BootTrust.statusTrusted →
    StageTraced env requested m

variable {m : BootMetadata}

theorem StageTraced.reread (h : StageTraced env requested m) :
    StageTraced env requested m.reread := by
  obtain ⟨path, hp, him, hs⟩ := h.origin
  refine ⟨⟨path, hp, ?_, ?_⟩, ?_, ?_, ?_, ?_⟩
  · change bootText.trim m.manifestImagePath = path ∨ bootText.trim m.manifestImagePath = basenameOf path
    rwa [h.imagePath]
  · change bootText.trim (bootText.trim m.stagedPath) = _
    rw [LineFormat.trim_trim, hs]
  · exact LineFormat.rdropWhile_of_trimmed (F := bootText) (LineFormat.trim_trim m.stagedPath)
  · change bootText.trim m.manifestPath = resolveManifestPath (bootText.trim m.stagedPath)
    rw [h.manifestPath]
    exact LineFormat.trim_append_solid h.ending (by decide) (solid_of_all (by decide))
  · exact LineFormat.trim_trim m.manifestImagePath
  · change bootText.trim m.manifestImagePath ≠ []
    rw [h.imagePath]
    exact h.imagePath_ne_nil

theorem Traced.reread (h : Traced env requested prepared m) :
    Traced env requested prepared m.reread := by
  have hdg : m.reread.expectedDigest = m.expectedDigest := by
    change (bootText.trim m.expectedDigest).map toLower = m.expectedDigest
    rw [h.digest_clean.trimmed, h.digest_lower]
  refine ⟨?_, ?_, ?_, fun hvr ht => (h.staged hvr ht).reread⟩
  · rw [hdg]
    exact h.digest_clean
  · rw [hdg]
    exact h.digest_lower
  · rw [hdg]
    exact h.prepared

theorem Traced.of_unstaged {m' : BootMetadata} (h : Traced env requested prepared m)
    (hdg : m'.expectedDigest = m.expectedDigest) (hs : m'.expectedSize = m.expectedSize)
    (hu : m'.stageVerified = true → m'.trustStatus ≠ BootTrust.statusTrusted) :
    Traced env requested prepared m' := by
  refine ⟨?_, ?_, ?_, fun hvr ht => absurd ht (hu hvr)⟩
  · rw [hdg]
    exact h.digest_clean
  · rw [hdg]
    exact h.digest_lower
  · rw [hdg, hs]
    exact h.prepared

theorem Traced.publishError (h : Traced env requested prepared m) (code : UInt32) :
    Traced env requested prepared (m.publishError code) := by
  refine ⟨h.digest_clean, h.digest_lower, h.prepared, fun hvr ht => ?_⟩
  obtain ⟨ho, he, hm, him, hne⟩ := h.staged hvr ht
  exact ⟨ho, he, hm, him, hne⟩

theorem Traced.default : Traced env requested prepared ({} : BootMetadata) :=
  ⟨clean_nil, rfl, fun h => absurd rfl h, fun h => by cases h⟩

theorem Traced.rollback (h : Traced env requested prepared m) (r : UInt32) :
    Traced env requested prepared (m.rollback r) :=
  h.of_unstaged rfl rfl fun hvr => by cases hvr

/-- An accepted image path ends where the requested path ends, so that path does not end in
white space either. -/
theorem ending_of_imagePath {env : BootEnv} {path image : Bytes} (him : bootText.Clean image)
    (hne : image ≠ []) (hp : image = path ∨ image = basenameOf path) :
    (env.resolveStagingPath path).rdropWhile isSpace = env.resolveStagingPath path := by
  have ht := LineFormat.rdropWhile_of_trimmed him.trimmed
  obtain ⟨f, hf⟩ : ∃ f, env.resolveStagingPath path = f ++ image := by
    obtain ⟨dir, hdir⟩ : ∃ dir, path = dir ++ image := by
      rcases hp with rfl | rfl
      · exact ⟨[], rfl⟩
      · exact ⟨path.rdropWhile (· ≠ 47), List.rdropWhile_append_rtakeWhile.symm⟩
    obtain ⟨root, hr⟩ : ∃ root, env.resolveStagingPath path = root ++ path := by
      unfold BootEnv.resolveStagingPath
      split_ifs
      · exact ⟨[], rfl⟩
      · exact ⟨[], rfl⟩
      · exact ⟨_, rfl⟩
      · exact ⟨_, rfl⟩
    exact ⟨root ++ dir, by rw [hr, List.append_assoc, ← hdir]⟩
  rw [hf]
  exact LineFormat.rdropWhile_append hne ht

/-- What a command adds to the commands that can be traced back to. -/
def BootInput.Recorded (requested : Bytes → Prop) (prepared : UInt32 → Bytes → Prop) :
    BootInput → Prop
  | .prepareUpdate imageSize digest _ => prepared imageSize (normalizeDigest digest)
  | .verifyStagedImage path _ _ => requested path
  | _ => True

theorem normalizeDigest_lower (digest : Bytes) :
    (normalizeDigest digest).map toLower = normalizeDigest digest := by
  rw [normalizeDigest, List.map_map]
  exact List.map_congr_left fun b _ => toLower_toLower b

variable {i : BootInput}

theorem Traced.change {m' : BootMetadata} (h : Change env i m m')
    (hi : i.Recorded requested prepared) (hm : Traced env requested prepared m) :
    Traced env requested prepared m' := by
  cases h with
  | prepared _ _ hvl =>
    exact ⟨clean_of_isDigestFormatValid hvl, normalizeDigest_lower _, fun _ => hi,
      fun hvr => by cases hvr⟩
  | rejected | refused | confirmed => exact hm.of_unstaged rfl rfl fun hvr => by cases hvr
  | accepted _ _ hdc =>
    have hvc := verifyBootManifestFile_accepts_iff.mp ⟨hdc, rfl⟩
    obtain ⟨n, -, hp⟩ := hvc.parsed
    have him := (parseManifest_texts_clean n).2.2.2 (by rw [hp])
    rw [hp] at him
    refine ⟨hm.digest_clean, hm.digest_lower, hm.prepared, fun _ _ => ?_⟩
    exact ⟨⟨_, hi, hvc.path, rfl⟩, ending_of_imagePath him.1 him.2 hvc.path, rfl,
      him.1.trimmed, him.2⟩
  | switched => exact hm.of_unstaged rfl rfl fun _ ht => by cases ht
  | incoherent | rolledBack | timedOut => exact hm.rollback _

theorem Restoring.stage {m' : BootMetadata} (h : Restoring i m m') :
    m'.expectedSize = m.expectedSize ∧ m'.stageVerified = m.stageVerified ∧
      m'.trustStatus = m.trustStatus := by
  cases h with
  | recordIntent | acknowledgeStable => exact ⟨rfl, rfl, rfl⟩
  | countBoot =>
    unfold BootMetadata.countBoot
    split_ifs <;> exact ⟨rfl, rfl, rfl⟩

theorem Traced.restoring {m' : BootMetadata} (h : Restoring i m m')
    (hm : Traced env requested prepared m) : Traced env requested prepared m' := by
  obtain ⟨hsz, hvr, htr⟩ := h.stage
  have htx := h.same.1
  simp only [BootMetadata.texts, List.cons.injEq, and_true] at htx
  obtain ⟨hdg, hst, hmn, him, -, -, -⟩ := htx
  refine ⟨?_, ?_, ?_, fun hv ht => ?_⟩
  · rw [hdg]
    exact hm.digest_clean
  · rw [hdg]
    exact hm.digest_lower
  · rw [hdg, hsz]
    exact hm.prepared
  · have hs := hm.staged (hvr ▸ hv) (htr ▸ ht)
    exact ⟨by rw [him, hst]; exact hs.origin, by rw [hst]; exact hs.ending,
      by rw [hmn, hst]; exact hs.manifestPath, by rw [him]; exact hs.imagePath,
      by rw [him]; exact hs.imagePath_ne_nil⟩

/-- Memory and file hold nothing that could not be traced. -/
structure CoreTraced (env : BootEnv) (requested : Bytes → Prop) (prepared : UInt32 → Bytes → Prop)
    (c : BootCore) : Prop where
  memory : Traced env requested prepared c.metadata
  file : ∀ m, c.read = some m → Traced env requested prepared m
  printable : c.metadata.Printable

def SaveOutcome.Whole (outcome : SaveOutcome) : Prop := ∀ k, outcome ≠ .cut k

theorem SaveOutcome.whole_written : SaveOutcome.written.Whole := fun _ hk => by cases hk

/-- Saves are whole, and none puts a made-up record in place of one that could not be read. -/
structure StorageIo.Atomic (io : StorageIo) : Prop where
  readOk : io.loadSave = .written → io.readOk = true
  loadSave : io.loadSave.Whole
  persistSave : io.persistSave.Whole

namespace CoreTraced

variable {c c' : BootCore}

theorem written {m : BootMetadata} (hm : Traced env requested prepared m) (hp : m.Printable)
    {file : Option Bytes} (hf : file = some m.text) {loaded : Bool} :
    CoreTraced env requested prepared { file := file, metadata := m, loaded := loaded } := by
  refine ⟨hm, fun m' hr => ?_, hp⟩
  have hs := BootCore.read_written (c := { file := file, metadata := m, loaded := loaded })
    hp hf
  rw [hr, Option.some.injEq] at hs
  rw [hs]
  exact hm.reread

theorem loads {io : StorageIo} {ok : Bool} (h : Loads io c c' ok) (hio : io.Atomic)
    (hc : CoreTraced env requested prepared c) : CoreTraced env requested prepared c' := by
  cases h with
  | already => exact hc
  | unreachable => exact hc
  | adopted _ hm =>
    have hr := BootCore.read_of_load hm
    exact ⟨hc.file _ hr, hc.file, (BootCore.clean_of_read hr).printable⟩
  | @replaced m _ hm =>
    have hp := BootCore.printable_of_fallback hm
    have ht : Traced env requested prepared m := by
      generalize hrs : c.load io.readOk = result at hm
      cases hm with
      | absent => exact Traced.default.of_unstaged rfl rfl fun hvr => by cases hvr
      | invalid | ioError => exact Traced.default.rollback _
      | incoherent => exact (hc.file _ (BootCore.read_of_load hrs)).rollback _
    cases hs : io.loadSave with
    | written => exact written ht hp rfl
    | failed => exact ⟨ht, hc.file, hp⟩
    | cut k => exact absurd hs (hio.loadSave k)

theorem body {i : BootInput} (h : Body env i c c') (hio : i.io.Atomic)
    (hi : i.Recorded requested prepared) (hpt : i.OneLinePath env)
    (hc : CoreTraced env requested prepared c) : CoreTraced env requested prepared c' := by
  cases h with
  | kept => exact hc
  | noted code =>
    exact ⟨hc.memory.publishError code, hc.file, hc.printable⟩
  | cleared code =>
    have hcl : Traced env requested prepared (c.metadata.publishError code).clearStagedTrust :=
      hc.memory.of_unstaged rfl rfl fun hvr => by cases hvr
    exact ⟨hcl, hc.file, clearStagedTrust_textsAll List.not_mem_nil hc.printable⟩
  | @stored m h =>
    have ht := hc.memory.change h hi
    have hp := h.printable hpt hc.printable
    cases hs : i.io.persistSave with
    | written => exact written ht hp rfl
    | failed => exact ⟨ht.publishError _, hc.file, hp⟩
    | cut k => exact absurd hs (hio.persistSave k)
  | @restored m h =>
    have ht := hc.memory.restoring h
    have hp := printable_of_texts_eq h.same.1 hc.printable
    cases hs : i.io.persistSave with
    | written => exact written ht hp rfl
    | failed => exact hc
    | cut k => exact absurd hs (hio.persistSave k)

theorem powerOn (hc : CoreTraced env requested prepared c) :
    CoreTraced env requested prepared (.powerOn c.file) :=
  ⟨Traced.default, hc.file, default_textsAll List.not_mem_nil⟩

theorem transition {i : BootInput} (h : Transition env i c c') (hios : ∀ io ∈ i.ios, io.Atomic)
    (hi : i.Recorded requested prepared) (hp : i.OneLinePath env)
    (hc : CoreTraced env requested prepared c) : CoreTraced env requested prepared c' := by
  refine h.invariant hc (fun _ hc => hc) (fun _ hc => hc.powerOn)
    (fun _ hc => ⟨hc.memory, hc.file, hc.printable⟩) ?_ ?_
  · exact fun io hio _ _ _ hl hc => loads hl (hios io hio) hc
  · exact fun _ _ _ hb hc => body hb (hios _ i.io_mem_ios) hi hp hc

end CoreTraced

end Traced

namespace BootManager

variable {env : BootEnv} {s : BootManager} {fs : FileSystem} {io : StorageIo}

theorem persistAndRespond_ok (h : (s.persistAndRespond io).2 = .ok) :
    io.persistSave = .written := by
  unfold persistAndRespond persistState at h
  cases hs : io.persistSave with
  | written => rfl
  | failed => simp [hs, save] at h
  | cut => simp [hs, save] at h

def recordInForce (s : BootManager) (io : StorageIo) : BootMetadata :=
  (s.loadOrInitializeMetadata io).1.metadata

theorem bootActivateStagedImage_ok (h : (s.bootActivateStagedImage env fs io).2 = .ok) :
    Loads io s.toBootCore (s.loadOrInitializeMetadata io).1.toBootCore true ∧
      Staged (s.recordInForce io) ∧
      (validateStagedTrust env (s.recordInForce io) fs).accepted = true ∧
      sameStage (s.recordInForce io) (validateStagedTrust env (s.recordInForce io) fs).manifest = true ∧
      ∃ now, (s.bootActivateStagedImage env fs io).1.file =
          some ((s.recordInForce io).switchSlot now).text ∧
        (s.bootActivateStagedImage env fs io).1.metadata = (s.recordInForce io).switchSlot now := by
  have hl := s.loadOrInitializeMetadata_loads io
  unfold bootActivateStagedImage whenLoaded at h ⊢
  unfold recordInForce
  cases hld : s.loadOrInitializeMetadata io with
  | mk t ok =>
  rw [hld] at h hl
  cases ok with
  | false => cases h
  | true =>
  dsimp only at h hl ⊢
  by_cases hr : t.metadata.stageVerified = false ∨ t.metadata.stagedPath = [] ∨
      t.metadata.trustStatus ≠ BootTrust.statusTrusted ∨ t.metadata.stagedSoftwareVersion = 0
  · rw [if_pos hr] at h
    cases h
  rw [if_neg hr] at h ⊢
  have hst : Staged t.metadata := by
    simp only [not_or, Bool.not_eq_false, ne_eq, not_not] at hr
    exact ⟨hr.1, hr.2.1, hr.2.2.1, hr.2.2.2⟩
  split_ifs at h ⊢ with hvr hac hsm
  · cases h
  · have hs := persistAndRespond_ok h
    refine ⟨hl, hst, hac, hsm, t.elapsedSeconds, ?_, ?_⟩
    · rw [persistAndRespond_core, hs]
      rfl
    · rw [persistAndRespond_core, hs]
      rfl
  · cases h
  · cases h

def bootRun (env : BootEnv) (file : Option Bytes) (inputs : List BootInput) : BootManager :=
  (machine env).run (powerOn file) inputs

end BootManager

/-- No save is cut off, no unreadable file is overwritten, and the paths fill one line. -/
structure BootInput.Undisturbed (env : BootEnv) (i : BootInput) : Prop where
  ios : ∀ io ∈ i.ios, io.Atomic
  path : i.OneLinePath env

/-- What stands behind an activation: the image in the staging area, the commands that led
to it and the manifest beside it. -/
structure ActivationEvidence (env : BootEnv) (file : Option Bytes) (history : List BootInput)
    (fs : FileSystem) (m : BootMetadata) (manifest : BootManifest) : Prop where
  image : ∃ image, fs m.stagedPath = some image ∧ image.readable = true ∧
    image.bytes.length = m.expectedSize.toNat ∧
    bytesToHex (Sha256.hash image.bytes).1 = m.expectedDigest
  prepared : (∃ digest io, .prepareUpdate m.expectedSize digest io ∈ history ∧
      m.expectedDigest = normalizeDigest digest) ∨
    ∃ m₀, file.bind loadText = some m₀ ∧ m₀.expectedSize = m.expectedSize ∧
      m₀.expectedDigest = m.expectedDigest
  beside : ∃ contents, readFile fs (resolveManifestPath m.stagedPath) = some contents ∧
    parseManifest contents = (true, manifest)
  size : manifest.imageSize = m.expectedSize
  digest : manifest.imageDigest = m.expectedDigest
  imagePath : ∃ path fs' io, .verifyStagedImage path fs' io ∈ history ∧
    bootText.trim m.stagedPath = bootText.trim (env.resolveStagingPath path) ∧
    (manifest.imagePath = path ∨ manifest.imagePath = basenameOf path)
  slot : manifest.targetSlot = m.inactiveSlot
  signature : ∃ key, validateConfig manifest env.trust = some key ∧
    manifest.signature = bytesToHex (Sha256.hmac key (canonicalManifestPayload manifest)).1

namespace BootManager

variable {env : BootEnv} {file : Option Bytes}

theorem bootRun_append (env : BootEnv) (file : Option Bytes) (b after : List BootInput) :
    bootRun env file (b ++ after) = (machine env).run (bootRun env file b) after :=
  (machine env).run_append _ _ _

theorem StorageIo.Atomic.spares {io : StorageIo} (h : io.Atomic) (floor : ℕ) : io.Spares floor :=
  ⟨h.readOk, fun k hk => absurd hk (h.loadSave k)⟩

theorem run_floorHeld {f : ℕ} {s : BootManager} {inputs : List BootInput}
    (hin : ∀ i ∈ inputs, i.Undisturbed env) (hs : FloorHeld f s.toBootCore) :
    FloorHeld f ((machine env).run s inputs).toBootCore := by
  refine (machine env).run_invariant_of_forall (I := fun s => FloorHeld f s.toBootCore) ?_ s hs
  intro i hi t ht
  have hio := (hin i hi).ios
  exact ht.transition (step_transition env t i)
    (.inr fun io hm => StorageIo.Atomic.spares (hio io hm) f)
    (fun k _ hk => absurd hk ((hio _ i.io_mem_ios).persistSave k)) (hin i hi).path

theorem powerOn_floorHeld (file : Option Bytes) :
    FloorHeld (powerOn file).toBootCore.floor (powerOn file).toBootCore := by
  refine ⟨le_rfl, fun h => ?_, default_textsAll List.not_mem_nil⟩
  rcases h with h | h
  · cases h
  · exact absurd h (FloorHeld.not_awaitsConfirm_of_confirmed rfl)

theorem bootRun_floorHeld {b a : List BootInput} (hin : ∀ i ∈ b ++ a, i.Undisturbed env) :
    FloorHeld (bootRun env file b).toBootCore.floor (bootRun env file (b ++ a)).toBootCore := by
  have hbf : FloorHeld _ (bootRun env file b).toBootCore :=
    run_floorHeld (fun i hi => hin i (List.mem_append_left _ hi)) (powerOn_floorHeld file)
  rw [bootRun_append]
  exact run_floorHeld (fun i hi => hin i (List.mem_append_right _ hi))
    ⟨le_rfl, hbf.memory, hbf.printable⟩

theorem bootRun_printable {inputs : List BootInput} (hin : ∀ i ∈ inputs, i.Undisturbed env) :
    (bootRun env file inputs).metadata.Printable :=
  (run_floorHeld hin (powerOn_floorHeld file)).printable

theorem bootRun_coreTraced {history : List BootInput}
    (hf : ∀ m, file.bind loadText = some m → m.stageVerified = false)
    (hin : ∀ i ∈ history, i.Undisturbed env) :
    CoreTraced env (fun path => ∃ fs io, .verifyStagedImage path fs io ∈ history)
      (fun size dg => (∃ d io, .prepareUpdate size d io ∈ history ∧ dg = normalizeDigest d) ∨
        ∃ m₀, file.bind loadText = some m₀ ∧ m₀.expectedSize = size ∧ m₀.expectedDigest = dg)
      (bootRun env file history).toBootCore := by
  refine (machine env).run_invariant_of_forall (I := fun s => CoreTraced env _ _ s.toBootCore) ?_ _ ?_
  · intro i hi s hs
    refine hs.transition (step_transition env s i) (hin i hi).ios ?_ (hin i hi).path
    cases i with
    | prepareUpdate _ dg io => exact .inl ⟨dg, io, hi, rfl⟩
    | verifyStagedImage _ fs io => exact ⟨fs, io, hi⟩
    | _ => trivial
  · refine ⟨Traced.default, fun m hr => ?_, default_textsAll List.not_mem_nil⟩
    have hc := BootCore.clean_of_read hr
    refine ⟨hc.texts _ List.mem_cons_self, hc.digest, fun _ => .inr ⟨m, hr, rfl, rfl⟩,
      fun hvr => ?_⟩
    rw [hf m hr] at hvr
    cases hvr

theorem activationEvidence {history : List BootInput} {fs : FileSystem} {io : StorageIo}
    (hfl : ∀ m, file.bind loadText = some m → m.stageVerified = false)
    (hin : ∀ i ∈ history, i.Undisturbed env) (hio : io.Atomic)
    (hok : ((bootRun env file history).bootActivateStagedImage env fs io).2 = .ok) :
    ActivationEvidence env file history fs ((bootRun env file history).recordInForce io)
      (validateStagedTrust env ((bootRun env file history).recordInForce io) fs).manifest := by
  obtain ⟨hld, hsg, hac, hs, -⟩ := bootActivateStagedImage_ok hok
  have ht := ((bootRun_coreTraced hfl hin).loads hld hio).memory
  change Traced env _ _ ((bootRun env file history).recordInForce io) at ht
  generalize (bootRun env file history).recordInForce io = m at *
  rcases validateStagedTrust_cases env m fs with ⟨hr, -⟩ | ⟨hf, hdc⟩
  · rw [hac] at hr
    cases hr
  have hst := ht.staged hsg.verified hsg.trusted
  rw [hdc] at hac hs ⊢
  obtain ⟨hp, -, hsz, hdg, hsl, -, hsn⟩ :=
    verifyBootManifestFile_accepts_iff.mp
      (show Accepts (activationDecision env m fs) _ from ⟨hac, rfl⟩)
  have hbs : (if m.manifestPath = [] then resolveManifestPath m.stagedPath else m.manifestPath) =
      resolveManifestPath m.stagedPath := by
    rw [hst.manifestPath, ite_self]
  rw [hbs] at hp
  obtain ⟨f, him, hrd, hh⟩ := computeDigestHex_eq_some.mp hf.digest
  have hl : f.bytes.length = m.expectedSize.toNat := by
    have := hf.size
    rwa [FileSystem.getFileSize, him, Option.map_some, Option.some.injEq] at this
  have hpr : m.expectedSize ≠ 0 := by
    obtain ⟨n, -, hc⟩ := hp
    obtain ⟨e, -, hw⟩ := parseManifest_eq_true.mp hc
    rw [← hsz]
    exact hw.imageSize_ne_zero
  obtain ⟨path, ⟨fs', io', hrq⟩, hpt, hrs⟩ := hst.origin
  have hip : (activationDecision env m fs).manifest.imagePath = m.manifestImagePath := by
    simp only [sameStage, Bool.and_eq_true, decide_eq_true_eq] at hs
    exact hs.1.1.1.1.2
  exact ⟨⟨f, him, hrd, hl, hh.symm⟩, ht.prepared hpr, hp, hsz,
    hdg, ⟨path, fs', io', hrq, hrs, hip ▸ hpt⟩, hsl, hsn⟩

theorem activation_version {s : BootManager} {fs : FileSystem} {io : StorageIo}
    (hok : (s.bootActivateStagedImage env fs io).2 = .ok) :
    (s.recordInForce io).lastAcceptedVersion <
        (validateStagedTrust env (s.recordInForce io) fs).manifest.softwareVersion ∧
      (validateStagedTrust env (s.recordInForce io) fs).manifest.softwareVersion =
        (s.recordInForce io).stagedSoftwareVersion := by
  obtain ⟨-, -, hac, hs, -⟩ := bootActivateStagedImage_ok hok
  simp only [sameStage, Bool.and_eq_true, decide_eq_true_eq] at hs
  refine ⟨?_, hs.1.1.1.1.1⟩
  rcases validateStagedTrust_cases env (s.recordInForce io) fs with ⟨hr, -⟩ | ⟨-, hdc⟩
  · rw [hac] at hr
    cases hr
  · rw [hdc] at hac ⊢
    exact (verifyBootManifestFile_accepts_iff.mp
      (show Accepts (activationDecision env _ fs) _ from ⟨hac, rfl⟩)).version

/-- Activation is sound and the floor never falls. Whenever an activation is answered OK,
image and manifest are what the evidence says at that moment, the version is above every
floor the file has held, the switched slot is the one that was inactive, and the new floor
is persisted; and no step of the history lowers the persisted floor. -/
theorem activation_sound_and_floor_monotone (env : BootEnv) (file : Option Bytes)
    (hfile : ∀ m, file.bind loadText = some m → m.stageVerified = false)
    (inputs : List BootInput) (hinputs : ∀ i ∈ inputs, i.Undisturbed env) :
    (∀ before fs io after, inputs = before ++ .activateStagedImage fs io :: after →
      (step env (bootRun env file before) (.activateStagedImage fs io)).2 = [.response .ok] →
      ∃ manifest,
        ActivationEvidence env file before fs ((bootRun env file before).recordInForce io) manifest ∧
        (∀ earlier later, before = earlier ++ later →
          (bootRun env file earlier).toBootCore.floor < manifest.softwareVersion.toNat) ∧
        (bootRun env file (before ++ [BootInput.activateStagedImage fs io])).metadata.activeSlot =
          ((bootRun env file before).recordInForce io).inactiveSlot ∧
        (bootRun env file (before ++ [BootInput.activateStagedImage fs io])).toBootCore.floor =
          manifest.softwareVersion.toNat) ∧
      ∀ before after, inputs = before ++ after →
        (bootRun env file before).toBootCore.floor ≤ (bootRun env file inputs).toBootCore.floor := by
  refine ⟨?_, ?_⟩
  · rintro before fs io after rfl hresponse
    have hbefore : ∀ i ∈ before, i.Undisturbed env :=
      fun i hi => hinputs i (List.mem_append_left _ hi)
    have hactivate := hinputs (.activateStagedImage fs io) (by simp)
    have hio : io.Atomic := hactivate.ios io (by simp [BootInput.ios, BootInput.io])
    have hok : ((bootRun env file before).bootActivateStagedImage env fs io).2 = .ok := by
      simpa [step] using hresponse
    obtain ⟨hloads, -, -, -, now, hwritten, hmemory⟩ := bootActivateStagedImage_ok hok
    obtain ⟨hversion, hstaged⟩ := activation_version hok
    have hfloors (earlier later : List BootInput) (hsplit : before = earlier ++ later) :
        FloorHeld (bootRun env file earlier).toBootCore.floor
          ((bootRun env file before).loadOrInitializeMetadata io).1.toBootCore := by
      subst hsplit
      exact (bootRun_floorHeld hbefore).loads hloads (StorageIo.Atomic.spares hio _)
    have hafter : bootRun env file (before ++ [BootInput.activateStagedImage fs io]) =
        ((bootRun env file before).bootActivateStagedImage env fs io).1 := by
      rw [bootRun_append]
      rfl
    refine ⟨_, activationEvidence hfile hbefore hio hok, fun earlier later hsplit => ?_, ?_, ?_⟩
    · have hheld := hfloors earlier later hsplit
      calc (bootRun env file earlier).toBootCore.floor
          ≤ ((bootRun env file before).recordInForce io).lastAcceptedVersion.toNat :=
            hheld.persisted.trans (hheld.memory (.inl hloads.loaded))
        _ < _ := UInt32.lt_iff_toNat_lt.mp hversion
    · rw [hafter, hmemory]
      rfl
    · have hprintable : (((bootRun env file before).recordInForce io).switchSlot now).Printable :=
        (hfloors before [] (List.append_nil _).symm).printable
      rw [hafter, BootCore.floor_written hprintable hwritten, hstaged]
      rfl
  · rintro before after rfl
    exact (bootRun_floorHeld hinputs).persisted

def firstUpdate : List BootInput := updateCommands firstPath firstFiles { bytes := firstImage }

theorem powerOn_none_loads : (powerOn none).loadOrInitializeMetadata {} =
    ({ file := some initialMetadata.text, metadata := initialMetadata, loaded := true }, true) := rfl

theorem run_firstUpdate :
    (machine {}).responses (powerOn none) firstUpdate =
        [[.response .ok], [.response .ok], [.response .ok]] ∧
      (bootRun {} none firstUpdate).metadata =
        updatedRecord {} initialMetadata firstPath { bytes := firstImage } firstManifest 0 ∧
      (bootRun {} none firstUpdate).loaded = true ∧
      (bootRun {} none firstUpdate).file =
        some (updatedRecord {} initialMetadata firstPath { bytes := firstImage } firstManifest 0).text := by
  obtain ⟨hr, hrun⟩ := run_updateCommands powerOn_none_loads (by decide) firstDelivered
  rw [bootRun, firstUpdate, hrun]
  exact ⟨hr, rfl, rfl, rfl⟩

theorem firstUpdate_undisturbed : ∀ i ∈ firstUpdate, i.Undisturbed {} := by
  have hio : StorageIo.Atomic {} :=
    ⟨fun _ => rfl, SaveOutcome.whole_written, SaveOutcome.whole_written⟩
  have hp : bootText.newline ∉ ({} : BootEnv).resolveStagingPath firstPath := by decide
  intro i hi
  simp only [firstUpdate, updateCommands, List.mem_cons, List.not_mem_nil, or_false] at hi
  rcases hi with rfl | rfl | rfl
  · exact ⟨by simpa [BootInput.ios, BootInput.io] using hio, trivial⟩
  · exact ⟨by simpa [BootInput.ios, BootInput.io] using hio, hp⟩
  · exact ⟨by simpa [BootInput.ios, BootInput.io] using hio, trivial⟩

theorem activation_of_first_update :
    ∃ manifest,
      ActivationEvidence {} none (firstUpdate.take 2) firstFiles
        ((bootRun {} none (firstUpdate.take 2)).recordInForce {}) manifest ∧
      (bootRun {} none firstUpdate).toBootCore.floor = manifest.softwareVersion.toNat := by
  obtain ⟨hactivation, -⟩ := activation_sound_and_floor_monotone {} none (by simp) firstUpdate
    firstUpdate_undisturbed
  have hsplit : firstUpdate = firstUpdate.take 2 ++ [BootInput.activateStagedImage firstFiles {}] := rfl
  have hresponse : (step {} (bootRun {} none (firstUpdate.take 2)) (.activateStagedImage firstFiles {})).2 =
      [.response .ok] := by
    have hlast := congrArg List.getLast? run_firstUpdate.1
    rw [hsplit, Machine.responses_concat, List.getLast?_concat] at hlast
    exact Option.some.inj hlast
  obtain ⟨manifest, hevidence, -, -, hfloor⟩ :=
    hactivation (firstUpdate.take 2) firstFiles {} [] hsplit hresponse
  rw [← hsplit] at hfloor
  exact ⟨manifest, hevidence, hfloor⟩

theorem run_restart (env : BootEnv) (s : BootManager) (construct configure : StorageIo) :
    (machine env).run s [.restart construct configure] = s.restart construct configure := rfl

theorem restart_unreadable_floor {s : BootManager} {b : Bytes} (h : s.file = some b) :
    (s.restart { readOk := false } {}).toBootCore.floor = 0 := by
  have hl : ((powerOn (some b)).loadOrInitializeMetadata { readOk := false }).1 =
      { file := some (({} : BootMetadata).rollback BootError.metadataInvalid).text
        metadata := ({} : BootMetadata).rollback BootError.metadataInvalid
        loaded := true } := rfl
  rw [restart, h, hl]
  decide +kernel

theorem floor_lost_at_unreadable_restart :
    (bootRun {} none firstUpdate).toBootCore.floor = 1 ∧
      (bootRun {} none (firstUpdate ++ [BootInput.restart { readOk := false } {}])).toBootCore.floor = 0 := by
  obtain ⟨-, hmetadata, -, hfile⟩ := run_firstUpdate
  refine ⟨?_, ?_⟩
  · have hprintable : (bootRun {} none firstUpdate).metadata.Printable :=
      bootRun_printable firstUpdate_undisturbed
    rw [hmetadata] at hprintable
    rw [BootCore.floor_written hprintable hfile]
    exact show firstManifest.softwareVersion.toNat = 1 from rfl
  · rw [bootRun_append, run_restart]
    exact restart_unreadable_floor hfile

end BootManager

end ObcFlight
