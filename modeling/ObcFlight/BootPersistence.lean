import ObcFlight.BootPowerLoss

/-!
# Memory and file in step

The runtime calls take their change back when its save fails; the commands and the tick do
not, and a verify command that finds no fitting image drops the staged trust without saving
at all. So the record in memory and the record in the file stay in step, up to the last error
code, exactly as long as saves fail only where they are taken back.
-/

namespace ObcFlight

open BootMetadataStore BootMetadata

def BootMetadata.SameButError (m m' : BootMetadata) : Prop := m.publishError 0 = m'.publishError 0

instance (m m' : BootMetadata) : Decidable (m.SameButError m') := inferInstanceAs (Decidable (_ = _))

namespace BootMetadata.SameButError

variable {m m' m'' : BootMetadata}

theorem refl (m : BootMetadata) : m.SameButError m := rfl

theorem publishError (h : m.SameButError m') (code : UInt32) : m.SameButError (m'.publishError code) := h

theorem clearStagedTrust (h : m.SameButError m') (hc : m'.clearStagedTrust = m') (code : UInt32) :
    m.SameButError (m'.publishError code).clearStagedTrust := by
  have hs : (m'.publishError code).clearStagedTrust = m'.clearStagedTrust.publishError code := rfl
  rw [hs, hc]
  exact h.publishError code

end BootMetadata.SameButError

def BootInput.Restores : BootInput → Prop
  | .recordIntent _ _ _ _ | .acknowledgeStable _ | .restart _ _ => True
  | _ => False

/-- What keeps memory and file in step: a start brings the record into memory, a change that a
step stores and keeps is written, a save that is taken back is not cut off, and a verify
command that looks at files does so under a path that the file can hold and finds the prepared
image or no staged trust to drop. -/
structure BootInput.KeepsStep (env : BootEnv) (c c' : BootCore) (i : BootInput) : Prop where
  starts : i.IsCall ∨ c'.loaded = true
  stores : ∀ m, Change env i c.metadata m → c' = c.store m i.io.persistSave →
    i.io.persistSave = .written
  restores : i.Restores → i.io.persistSave.Whole
  stage : ∀ path fs io, i = .verifyStagedImage path fs io → Examines c.metadata path →
    bootText.Clean (env.resolveStagingPath path) ∧
      (StageFits c.metadata (env.resolveStagingPath path) fs ∨ c.metadata.clearStagedTrust = c.metadata)

theorem Change.examines {env : BootEnv} {path : Bytes} {fs : FileSystem} {io : StorageIo}
    {m m' : BootMetadata} (h : Change env (.verifyStagedImage path fs io) m m') : Examines m path := by
  cases h <;> assumption

theorem Change.clean {env : BootEnv} {i : BootInput} {m m' : BootMetadata} (h : Change env i m m')
    (hp : ∀ path fs io, i = .verifyStagedImage path fs io →
      bootText.Clean (env.resolveStagingPath path) ∧
        bootText.Clean (resolveManifestPath (env.resolveStagingPath path)))
    (hm : m.Clean) : m'.Clean := by
  refine ⟨h.textsAll (fun _ hc => hc) hp hm.texts, ?_⟩
  cases h with
  | prepared => exact normalizeDigest_lower _
  | _ => exact hm.digest

/-- The record is loaded, and the file reads as the same record up to the last error. -/
structure InStep (c : BootCore) : Prop where
  loaded : c.loaded = true
  clean : c.metadata.Clean
  file : ∃ m, c.read = some m ∧ m.SameButError c.metadata

namespace InStep

variable {env : BootEnv} {i : BootInput} {c c' : BootCore} {io : StorageIo}

theorem written {m : BootMetadata} (hm : m.Clean) (hmt : c.metadata = m)
    (hf : c.file = some m.text) (hl : c.loaded = true) : InStep c := by
  subst hmt
  refine ⟨hl, hm, c.metadata, ?_, .refl _⟩
  rw [BootCore.read_written hm.printable hf, hm.reread_eq]

theorem of_loads {ok : Bool} (h : Loads io c c' ok) (hun : c.loaded = false)
    (hl : c'.loaded = true) : InStep c' := by
  cases h with
  | already | unreachable => exact absurd (hun.symm.trans hl) (by decide)
  | adopted _ hm =>
    have hr := BootCore.read_of_load hm
    exact ⟨rfl, BootCore.clean_of_read hr, _, hr, .refl _⟩
  | replaced _ hm =>
    cases hs : io.loadSave with
    | written => exact written (BootCore.clean_of_fallback hm) rfl rfl rfl
    | failed | cut =>
      rw [hs] at hl
      cases hl

theorem noted (hc : InStep c) (code : UInt32) :
    InStep { c with metadata := c.metadata.publishError code } := by
  obtain ⟨m, hr, hs⟩ := hc.file
  exact ⟨hc.loaded, ⟨hc.clean.texts, hc.clean.digest⟩, m, hr, hs.publishError code⟩

theorem cleared (hc : InStep c) (hcl : c.metadata.clearStagedTrust = c.metadata) (code : UInt32) :
    InStep { c with metadata := (c.metadata.publishError code).clearStagedTrust } := by
  obtain ⟨m, hr, hs⟩ := hc.file
  exact ⟨hc.loaded, ⟨clearStagedTrust_textsAll clean_nil hc.clean.texts, hc.clean.digest⟩, m, hr,
    hs.clearStagedTrust hcl code⟩

theorem manifestPath_clean {path : Bytes} (h : bootText.Clean path) :
    bootText.Clean (resolveManifestPath path) := by
  refine ⟨?_, ?_⟩
  · rw [resolveManifestPath, List.mem_append, not_or]
    exact ⟨h.no_newline, by decide⟩
  · rw [resolveManifestPath, LineFormat.trim_append_solid (LineFormat.rdropWhile_of_trimmed h.trimmed)
      (by decide) (solid_of_all (by decide)), h.trimmed]

theorem clean_of_texts_eq {m m' : BootMetadata} (h : m'.texts = m.texts) (hm : m.Clean) : m'.Clean := by
  refine ⟨h ▸ hm.texts, ?_⟩
  rw [expectedDigest_of_texts_eq h]
  exact hm.digest

theorem body (h : Body env i c c') (hi : i.KeepsStep env c c') (hc : InStep c) : InStep c' := by
  cases h with
  | kept => exact hc
  | noted code => exact hc.noted code
  | cleared code hvr he hu =>
    exact hc.cleared ((hi.stage _ _ _ hvr he).2.resolve_left hu) code
  | stored h =>
    rw [hi.stores _ h rfl]
    refine written (h.clean (fun path fs io hvr => ?_) hc.clean) rfl rfl hc.loaded
    subst hvr
    have hp := (hi.stage path fs io rfl h.examines).1
    exact ⟨hp, manifestPath_clean hp⟩
  | restored h =>
    have hr : i.Restores := by cases h <;> trivial
    cases hs : i.io.persistSave with
    | written => exact written (clean_of_texts_eq h.same.1 hc.clean) rfl rfl hc.loaded
    | failed => exact hc
    | cut k => exact absurd hs (hi.restores hr k)

variable {construct configure : StorageIo}

theorem keepsStep_restart (h : (BootInput.restart construct configure).KeepsStep env c c')
    (c₁ : BootCore) : (BootInput.restart construct configure).KeepsStep env c₁ c' := by
  refine ⟨h.starts, fun m hm => ?_, h.restores, fun path fs io hvr => ?_⟩
  · cases hm
  · cases hvr

theorem start (h : Transition env (.restart construct configure) c c') (hu : c.loaded = false)
    (hi : (BootInput.restart construct configure).KeepsStep env c c') : InStep c' := by
  have hl := hi.starts.resolve_left id
  cases h with
  | unloaded hld => exact of_loads hld hu hl
  | called hld hbd => exact body hbd (keepsStep_restart hi _) (of_loads hld hu hld.loaded)
  | restartFailed _ hc => exact of_loads hc rfl hl
  | restarted _ hc hbd => exact body hbd (keepsStep_restart hi _) (of_loads hc rfl hc.loaded)

theorem transition (h : Transition env i c c') (hi : i.KeepsStep env c c') (hc : InStep c) :
    InStep c' := by
  cases h with
  | idle => exact hc
  | timedOut haw => exact body (.stored (.timedOut haw)) hi hc
  | unloaded hl =>
    rw [hl.eq_of_loaded hc.loaded]
    exact hc
  | called hl hbd =>
    obtain rfl := hl.eq_of_loaded hc.loaded
    exact body hbd hi hc
  | restartFailed hcs hcn =>
    exact start (.restartFailed (c := { c with loaded := false }) hcs hcn) rfl
      (keepsStep_restart hi _)
  | restarted hcs hcn hbd =>
    exact start (.restarted (c := { c with loaded := false }) hcs hcn hbd) rfl
      (keepsStep_restart hi _)

end InStep

namespace BootManager

end BootManager

end ObcFlight
