import ObcFlight.BootTrial

/-!
# Power loss during a save

A save that is cut off leaves the beginning of the new text in the only copy of the file.
For a single load it is settled here exactly which cuts are harmless; for whole histories,
that the version floor survives when a cut hits only files that hold no floor yet, or leaves
the floor of the new text in the file.
-/

namespace ObcFlight

open BootMetadataStore

/-- The cut text is refused, or what can be read of it is one of the two records. -/
def CutHarmless (m₁ m₂ : BootMetadata) (n : ℕ) : Prop :=
  m₂.CutInsideKey n ∨ n ≤ m₂.offset .stageVerified ∨
    (n ≤ m₂.offset .lastAcceptedVersion ∧ (m₂.withoutTrust = m₁ ∨ m₂.withoutTrust = m₂)) ∨
    (m₂.offset .lastAcceptedVersion < n ∧ n ≤ m₂.offset .keySlot) ∨
    (m₂.offset .keySlot < n ∧ (m₂.truncated n = m₁ ∨ m₂.truncated n = m₂))

theorem loadText_take_safe_iff {m₁ m₂ : BootMetadata} (h : m₂.Printable) (n : ℕ) :
    (loadText (m₂.text.take n) = none ∨ loadText (m₂.text.take n) = some m₁ ∨
      loadText (m₂.text.take n) = some m₂) ↔ CutHarmless m₁ m₂ n := by
  have ho : m₂.offset .lastAcceptedVersion < m₂.offset .keySlot := by
    have := m₂.offset_before (show MetadataKey.Before .lastAcceptedVersion .keySlot by decide)
    omega
  rw [BootMetadata.loadText_take_eq h, CutHarmless]
  by_cases hin : m₂.CutInsideKey n
  · simp [hin]
  by_cases hs : n ≤ m₂.offset .stageVerified
  · simp [hs]
  rw [if_neg (not_or.mpr ⟨hin, hs⟩)]
  by_cases hl : n ≤ m₂.offset .lastAcceptedVersion
  · rw [if_pos hl]
    have hkey : ¬ m₂.offset .keySlot < n := by omega
    simp [hin, hs, hl, hkey]
  rw [if_neg hl]
  split
  next hkey =>
    simp [hkey, Nat.lt_of_not_le hl]
  next hkey =>
    simp [hin, hs, hl, hkey, Nat.lt_of_not_le hkey]

/-- The storage neither cuts off a save over a file that holds a floor in front of the new
floor nor lets a made-up record replace one that could not be read. A call on a loaded record
loads nothing, and one that returns before its save leaves no text of its own. -/
structure BootInput.SparesFloor (env : BootEnv) (s : BootManager) (i : BootInput) : Prop where
  loads : s.loaded = true ∧ i.IsCall ∨ ∀ io ∈ i.ios, io.Spares s.toBootCore.floor
  save : i.io.persistSave.Spares s.toBootCore.floor (BootManager.step env s i).1.file
  path : i.OneLinePath env

namespace BootManager

variable {env : BootEnv} {file : Option Bytes}

theorem run_floorHeld_of_admits {f : ℕ} {s : BootManager} {inputs : List BootInput}
    (hin : (machine env).Admits (BootInput.SparesFloor env) s inputs)
    (hs : FloorHeld f s.toBootCore) : FloorHeld f ((machine env).run s inputs).toBootCore := by
  refine (machine env).run_invariant_of_admits (I := fun s => FloorHeld f s.toBootCore) ?_ s hs
    inputs hin
  intro t i hi ht
  -- the floor that must survive is at most the one that the file holds now
  have hle := ht.persisted
  refine ht.transition (step_transition env t i) (hi.loads.imp_right fun hios io hio => ?_)
    (fun k m hk hm hf => (hi.save k m hk hm hf).imp_left fun hz => by omega) hi.path
  exact ⟨(hios io hio).readOk, fun k hk => by have := (hios io hio).loadSave k hk; omega⟩

/-- Which cuts a load survives, and in which histories the floor does. -/
theorem save_cut_safe_iff_and_floor_kept (env : BootEnv) (file : Option Bytes) (inputs : List BootInput)
    (hinputs : (machine env).Admits (BootInput.SparesFloor env) (powerOn file) inputs)
    (before after : List BootInput) (hsplit : inputs = before ++ after)
    (m₁ m₂ : BootMetadata) (hm : m₂.Printable) (n : ℕ) :
    ((loadText (m₂.text.take n) = none ∨ loadText (m₂.text.take n) = some m₁ ∨
      loadText (m₂.text.take n) = some m₂) ↔ CutHarmless m₁ m₂ n) ∧
      (bootRun env file before).toBootCore.floor ≤ (bootRun env file inputs).toBootCore.floor ∧
      ((bootRun env file inputs).loaded = true →
        (bootRun env file before).toBootCore.floor ≤
          (bootRun env file inputs).metadata.lastAcceptedVersion.toNat) := by
  subst hsplit
  have hbefore : FloorHeld _ (bootRun env file before).toBootCore :=
    run_floorHeld_of_admits (Machine.Admits.of_append (machine env) hinputs) (powerOn_floorHeld file)
  have hheld : FloorHeld (bootRun env file before).toBootCore.floor
      (bootRun env file (before ++ after)).toBootCore := by
    rw [bootRun_append]
    exact run_floorHeld_of_admits (Machine.Admits.after (machine env) hinputs)
      ⟨le_rfl, hbefore.memory, hbefore.printable⟩
  exact ⟨loadText_take_safe_iff hm n, hheld.persisted,
    fun hloaded => hheld.persisted.trans (hheld.memory (.inl hloaded))⟩

/-- A record with a floor, as a confirmed fifth version leaves it. -/
def fifthVersion : BootMetadata :=
  { initialMetadata with
    activeSoftwareVersion := 5, lastKnownGoodSoftwareVersion := 5, lastAcceptedVersion := 5 }

/-- A start whose save is cut off behind the key slot. -/
def cutRestart : BootInput := .restart {} { persistSave := .cut 442 }

theorem floor_kept_at_restart :
    ((loadText (fifthVersion.countBoot.text.take 442) = none ∨
        loadText (fifthVersion.countBoot.text.take 442) = some fifthVersion ∨
        loadText (fifthVersion.countBoot.text.take 442) = some fifthVersion.countBoot) ↔
      CutHarmless fifthVersion fifthVersion.countBoot 442) ∧
      (bootRun {} (some fifthVersion.text) [cutRestart]).toBootCore.floor ≤
        (bootRun {} (some fifthVersion.text) [cutRestart, .restart {} {}]).toBootCore.floor ∧
      ((bootRun {} (some fifthVersion.text) [cutRestart, .restart {} {}]).loaded = true →
        (bootRun {} (some fifthVersion.text) [cutRestart]).toBootCore.floor ≤
          (bootRun {} (some fifthVersion.text)
            [cutRestart, .restart {} {}]).metadata.lastAcceptedVersion.toNat) := by
  have hspares (floor : ℕ) (io : StorageIo) (hw : io.loadSave = .written) (hr : io.readOk = true) :
      io.Spares floor := ⟨fun _ => hr, fun k hk => by cases hw.symm.trans hk⟩
  have hcut : (SaveOutcome.cut 442).Spares (BootManager.powerOn (some fifthVersion.text)).toBootCore.floor
      (some (fifthVersion.countBoot.text.take 442)) := by
    rintro k m ⟨⟩ hm hf
    refine .inr (BootMetadata.keepsFloor_of_loadText (r := fifthVersion.countBoot.truncated 442) hm ?_ (by decide))
    rw [← Option.some.inj hf]
    decide +kernel
  refine save_cut_safe_iff_and_floor_kept {} (some fifthVersion.text) [cutRestart, .restart {} {}]
    ⟨⟨.inr fun io hio => ?_, hcut, trivial⟩, ⟨.inr fun io hio => ?_, fun k m hk => (by cases hk), trivial⟩,
      trivial⟩
    [cutRestart] [.restart {} {}] rfl fifthVersion fifthVersion.countBoot
    (by unfold BootMetadata.Printable; decide +kernel) 442
  all_goals
    simp only [cutRestart, BootInput.ios, List.mem_cons, List.not_mem_nil, or_false] at hio
    rcases hio with rfl | rfl <;> exact hspares _ _ rfl rfl

/-- A cut behind the stage flag reads as a file of the older schema, which knows no floor. -/
theorem cut_save_loses_floor :
    186 < fifthVersion.countBoot.text.length ∧
      loadText (fifthVersion.countBoot.text.take 186) = some fifthVersion.countBoot.withoutTrust ∧
      fifthVersion.countBoot.withoutTrust ≠ fifthVersion ∧
      fifthVersion.countBoot.withoutTrust ≠ fifthVersion.countBoot ∧
      (bootRun {} (some fifthVersion.text) []).toBootCore.floor = 5 ∧
      (bootRun {} (some fifthVersion.text)
        [.restart {} { persistSave := .cut 186 }, .restart {} {}]).metadata.lastAcceptedVersion = 0 := by
  decide +kernel

end BootManager

end ObcFlight
