import ObcFlight.PayloadWork
import ObcFlight.PayloadPublication

/-!
# The controller does the work

Every call of the payload controller is, on the part of its state that decides about commands,
one of the moves of the work.
-/

namespace ObcFlight

namespace PayloadOpsController

def work (c : PayloadOpsController) : PayloadWork where
  configured := c.runtimeConfigured
  manager := c.manager
  state := c.state
  activeCommand := c.activeCommand
  abortCommand := c.abortCommand
  publishing := c.pendingDataProductPublish.map PendingDataProductPublish.completionState
  forcedCleanupActive := c.forcedCleanupActive

/-- What of a call shows in the work: the state it leaves, the answers and the operations
started. -/
def seen (call : PayloadOpsController × List PayloadOutput) : PayloadWork × List PayloadAnswer × List CameraAct :=
  (call.1.work, answersOf call.2, actsOf call.2)

theorem work_publishing (c : PayloadOpsController) :
    c.work.publishing = c.pendingDataProductPublish.map PendingDataProductPublish.completionState := rfl

@[simp] theorem work_resetPendingDataProductPublish (c : PayloadOpsController) :
    c.resetPendingDataProductPublish.work = { c.work with publishing := none } := rfl

@[simp] theorem work_writeCaptureManifest (o : ManifestWrite) (m : PayloadCaptureMetadata)
    (c : PayloadOpsController) : (c.writeCaptureManifest o m).1.work = c.work := by
  cases o <;> rfl

@[simp] theorem work_recordPublication (around : PayloadSurroundings) (m : PayloadCaptureMetadata)
    (c : PayloadOpsController) : (c.recordPublication around m).work = c.work :=
  work_writeCaptureManifest (around.manifestWrite .starting) m (c.catalogue m)

variable (around : PayloadSurroundings)

theorem work_openPublication (p : PendingDataProductPublish) (c : PayloadOpsController) :
    (c.openPublication around p).work =
      { c.work with state := .publishing, publishing := some p.completionState } := by
  obtain ⟨m, hf⟩ := openPublication_frame around p c
  rw [hf]
  rfl

theorem answersOf_clearingResponse (p : PendingCommand) (response : CmdResponse) :
    answersOf (clearingResponse p response) = PayloadWork.clearingAnswer p response := by
  unfold clearingResponse PayloadWork.clearingAnswer
  split_ifs <;> rfl

theorem actsOf_clearingResponse (p : PendingCommand) (response : CmdResponse) :
    actsOf (clearingResponse p response) = [] := by
  unfold clearingResponse
  split_ifs <;> rfl

variable (response : CmdResponse)

theorem seen_clearActive (c : PayloadOpsController) :
    seen (c.clearActive response) = ((c.work.clearActive response).1, (c.work.clearActive response).2, []) := by
  unfold clearActive PayloadWork.clearActive
  by_cases h : c.activeCommand.active = true
  · rw [if_pos h, if_pos (by exact h), seen, answersOf_clearingResponse, actsOf_clearingResponse]
    rfl
  · rw [if_neg h, if_neg (by exact h)]
    rfl

theorem seen_clearAbort (c : PayloadOpsController) :
    seen (c.clearAbort response) = ((c.work.clearAbort response).1, (c.work.clearAbort response).2, []) := by
  unfold clearAbort PayloadWork.clearAbort
  by_cases h : c.abortCommand.active = true
  · rw [if_pos h, if_pos (by exact h), seen, answersOf_clearingResponse, actsOf_clearingResponse]
    rfl
  · rw [if_neg h, if_neg (by exact h)]
    rfl

@[simp] theorem work_clearActive (c : PayloadOpsController) :
    (c.clearActive response).1.work = (c.work.clearActive response).1 :=
  congrArg Prod.fst (seen_clearActive response c)

@[simp] theorem answersOf_clearActive (c : PayloadOpsController) :
    answersOf (c.clearActive response).2 = (c.work.clearActive response).2 :=
  congrArg (fun call => call.2.1) (seen_clearActive response c)

@[simp] theorem actsOf_clearActive (c : PayloadOpsController) :
    actsOf (c.clearActive response).2 = [] :=
  congrArg (fun call => call.2.2) (seen_clearActive response c)

/-! ### Publications -/

theorem seen_finalizeDataProductPublish (b : Bool)
    (r : PayloadResultCode) (d : UInt32) (response : CmdResponse) (c : PayloadOpsController) :
    seen (c.finalizeDataProductPublish around b r d response) =
      ((c.work.endPublication response).1, (c.work.endPublication response).2, []) := by
  unfold finalizeDataProductPublish PayloadWork.endPublication
  cases hp : c.pendingDataProductPublish with
  | none => simp [seen, work, hp]
  | some p =>
    have hpb : c.work.publishing = some p.completionState := by rw [work_publishing, hp]; rfl
    dsimp only
    rw [seen_clearActive, work_resetPendingDataProductPublish, work_writeCaptureManifest, hpb]
    rfl

/-- A publication that has been started shows in the work; one that is refused has at most
answered the pending command. -/
inductive StartedWork (completionState : PayloadState) (w : PayloadWork) :
    Bool → PayloadOpsController × Option UInt32 × List PayloadOutput → Prop
  | started {c : PayloadOpsController} {out : List PayloadOutput}
      (hwork : c.work = { w with state := .publishing, publishing := some completionState })
      (hanswers : answersOf out = []) (hacts : actsOf out = []) :
      StartedWork completionState w true (c, none, out)
  | unchanged {c : PayloadOpsController} {detail : UInt32} (hwork : c.work = w) :
      StartedWork completionState w false (c, some detail, [])
  | ended (call : PayloadOpsController × List PayloadOutput) {detail : UInt32}
      (hcall : seen call = (({ w with state := completionState, publishing := none }.clearActive .executionError).1,
        ({ w with state := completionState, publishing := none }.clearActive .executionError).2, [])) :
      StartedWork completionState w false (call.1, some detail, call.2)

theorem startArtifactPublish_work (s : PayloadCaptureMetadata)
    (a : PayloadArtifactKind) (completionState : PayloadState) (c : PayloadOpsController) :
    ∃ x : Bool, (x = true ↔ ∃ b, c.Publishable around s a b) ∧
      StartedWork completionState c.work x (c.startArtifactPublish around s a completionState) := by
  have ho := startArtifactPublish_outcome around s a completionState c
  generalize c.startArtifactPublish around s a completionState = start at ho
  cases ho with
  | started b p h hp =>
    refine ⟨true, by simpa using ⟨b, h⟩, .started ?_ rfl rfl⟩
    have hw := work_openPublication around p c
    subst hp
    simp only [work, PayloadWork.mk.injEq] at hw ⊢
    exact ⟨hw.1, hw.2.1, hw.2.2.1, hw.2.2.2.1, hw.2.2.2.2.1, rfl, hw.2.2.2.2.2.2⟩
  | notReady _ h => exact ⟨false, by simpa using h, .unchanged rfl⟩
  | noManifest _ _ _ h =>
    exact ⟨false, by simpa using h, .unchanged (work_recordPublication around _ c)⟩
  | noSlice _ p _ _ hp h =>
    refine ⟨false, by simpa using h, .ended _ ?_⟩
    have hc : p.completionState = completionState := by rw [hp]; rfl
    rw [finalizeDataProductPublishFailure, seen_finalizeDataProductPublish, work_openPublication, hc]
    rfl

/-! ### Completed operations -/

variable (r : PayloadOperationResult)

theorem seen_answerCompletion (q : CmdResponse) (c : PayloadOpsController) :
    seen (c.answerCompletion r q) =
      ((c.work.answerCompletion r q).1, (c.work.answerCompletion r q).2, []) := by
  have hab := fun response => seen_clearAbort response
    (c.clearActive (if c.activeCommand.forcedModeExit then .executionError
      else if c.activeCommand.kind = .capture ∧ q ≠ .ok then .executionError
      else q)).1
  simp only [seen, Prod.mk.injEq, work_clearActive] at hab
  unfold answerCompletion PayloadWork.answerCompletion
  simp only [seen, answersOf_append, actsOf_append, answersOf_clearActive, actsOf_clearActive, (hab _).2.1,
    (hab _).2.2, List.append_nil, Prod.mk.injEq, and_true]
  exact ⟨congrArg (fun w : PayloadWork => { w with forcedCleanupActive := false }) (hab _).1, rfl⟩

/-- Of the record only the path and the resolution matter, and of the controller the files and
the configuration. -/
theorem Publishable.congr {around : PayloadSurroundings} {m m' : PayloadCaptureMetadata}
    {a : PayloadArtifactKind} {b : Bytes} {c c' : PayloadOpsController}
    (h : c.Publishable around m a b) (hp : m'.relativePath a = m.relativePath a)
    (hst : m'.appliedSettings = m.appliedSettings) (hf : c'.files = c.files) (hs : c'.sizes = c.sizes)
    (hpr : c'.profiles = c.profiles) : c'.Publishable around m' a b where
  notFullRaw := by rw [hst]; exact h.notFullRaw
  stored := by rw [hp, hf]; exact h.stored
  nonempty := h.nonempty
  readable := h.readable
  ports := h.ports
  room := by rw [hs]; exact h.room
  fits := by rw [runtimeConfig, hs, hpr]; exact h.fits
  manifest := h.manifest
  buffer := h.buffer
  serialized := h.serialized

/-- The preview of a finished capture can be published in this tick. -/
def PreviewPublishable (around : PayloadSurroundings) (result : PayloadOperationResult) (c : PayloadOpsController) :
    Prop :=
  ∃ bytes, c.Publishable around result.metadata .previewJpeg bytes

theorem recordResult_frame (c : PayloadOpsController) :
    ∃ lastResult lastCaptureMetadata captureCatalog, c.recordResult r =
      { c with lastResult, lastDetail := r.detailCode, lastCaptureMetadata, captureCatalog } := by
  unfold recordResult
  dsimp only
  split
  · split_ifs <;> exact ⟨_, _, _, rfl⟩
  · split_ifs <;> exact ⟨_, _, _, rfl⟩

/-- The publication of the preview after a capture. Where it ends at once, the pending command
has been answered. -/
theorem startCapturePreviewPublish_work (result : PayloadOperationResult)
    (c c₀ : PayloadOpsController) (hf : c.files = c₀.files) (hs : c.sizes = c₀.sizes)
    (hp : c.profiles = c₀.profiles) :
    ∃ p d, (p = true ↔ c₀.PreviewPublishable around result) ∧
      (c.startCapturePreviewPublish around result).2.1 = p ∧
      StartedWork .ready c.work p
        ((c.startCapturePreviewPublish around result).1, d, (c.startCapturePreviewPublish around result).2.2) := by
  generalize hm : ({ result.metadata with
      resultCode := .none, previewDataProductPublished := false, rawDataProductPublished := false
      lastPublishedArtifactKind := .previewJpeg } : PayloadCaptureMetadata) = metadata
  have hiff : (∃ b, c.Publishable around metadata .previewJpeg b) ↔ c₀.PreviewPublishable around result := by
    subst hm
    constructor
    · rintro ⟨b, h⟩
      exact ⟨b, h.congr rfl rfl hf.symm hs.symm hp.symm⟩
    · rintro ⟨b, h⟩
      exact ⟨b, h.congr rfl rfl hf hs hp⟩
  obtain ⟨p, hpb, hst⟩ := startArtifactPublish_work around metadata .previewJpeg .ready c
  unfold startCapturePreviewPublish
  dsimp only
  rw [hm]
  generalize c.startArtifactPublish around metadata .previewJpeg .ready = start at hst
  refine ⟨p, start.2.1, hpb.trans hiff, ?_⟩
  cases hst with
  | started hw han hac => exact ⟨rfl, .started hw han hac⟩
  | unchanged hw =>
    refine ⟨rfl, .unchanged ?_⟩
    rw [work_writeCaptureManifest]
    exact hw
  | ended call hc =>
    refine ⟨rfl, .ended (_, call.2) ?_⟩
    rw [seen, work_writeCaptureManifest]
    exact hc

theorem handleCompletedOperation_work
    {c c₀ : PayloadOpsController} (hf : c.files = c₀.files) (hsz : c.sizes = c₀.sizes)
    (hp : c.profiles = c₀.profiles) (hn : c.work.publishing = none) :
    ∃ p, (p = true ↔ c₀.PreviewPublishable around r) ∧
      seen (c.handleCompletedOperation around r) =
        ((c.work.complete p r).1, (c.work.complete p r).2, []) := by
  obtain ⟨lr, l, cc, hr⟩ := recordResult_frame r c
  obtain ⟨p, d, hpb, hbl, hs⟩ := startCapturePreviewPublish_work around r
    { c.recordResult r with preparedReadyKind := r.readyKind } c₀ (by rw [hr]; exact hf)
    (by rw [hr]; exact hsz) (by rw [hr]; exact hp)
  refine ⟨p, hpb, ?_⟩
  unfold handleCompletedOperation PayloadWork.complete
  dsimp only
  by_cases hcp : r.response = .ok ∧ r.kind = .capture
  · rw [if_pos hcp, if_pos hcp]
    rw [show ({ c.recordResult r with preparedReadyKind := r.readyKind } : PayloadOpsController).work = c.work by
      rw [hr]; rfl] at hs
    generalize startCapturePreviewPublish around r _ = start at hbl hs
    obtain ⟨c', s, out⟩ := start
    dsimp only at hbl hs
    subst hbl
    cases hs with
    | started hw haw hac => simp [seen, hw, haw, hac]
    | unchanged hw =>
      dsimp only
      rw [seen, List.nil_append]
      change seen (answerCompletion r .executionError { c' with state := _ }) = _
      rw [seen_answerCompletion, ← hw]
      rfl
    | ended call hc =>
      have hcl := PayloadWork.answerCompletion_of_cleared r hn .ready
        (if r.prepared = true then .ready else .off)
      have han := seen_answerCompletion r .executionError
        { call.1 with state := if r.prepared = true then .ready else .off }
      simp only [seen, Prod.mk.injEq] at hc han
      rw [show ({ call.1 with state := if r.prepared = true then .ready else .off } : PayloadOpsController).work =
        { call.1.work with state := if r.prepared = true then .ready else .off } from rfl, hc.1] at han
      simp only [seen, answersOf_append, actsOf_append, hc.2.1, hc.2.2, han.1, han.2.1, han.2.2,
        hcl.1, hcl.2, List.append_nil]
      rfl
  · rw [if_neg hcp, if_neg hcp, seen_answerCompletion, hr]
    rfl

/-! ### The tick -/

theorem seen_startForcedCleanupIfNeeded (c : PayloadOpsController) :
    seen (c.startForcedCleanupIfNeeded around) =
      ((c.work.cleanup around.mode).1, [], (c.work.cleanup around.mode).2) := by
  have hsm : c.work.publishing.isSome = c.pendingDataProductPublish.isSome := Option.isSome_map
  unfold startForcedCleanupIfNeeded PayloadWork.cleanup
  split
  · next hs =>
    rw [if_pos (by rw [hsm]; exact hs)]
    rfl
  · next hs =>
    by_cases hbs : c.manager.busy = true
    · rw [if_pos hbs, if_neg (by rw [hsm]; exact hs), if_pos (by exact hbs)]
      rfl
    · rw [if_neg hbs, if_neg (by rw [hsm]; exact hs), if_neg (by exact hbs), show c.work.manager = c.manager from rfl]
      cases c.manager.beginShutdown true with
      | none => rfl
      | some => rfl

theorem startForcedCleanupIfNeeded_frame (c : PayloadOpsController) :
    (c.startForcedCleanupIfNeeded around).1.files = c.files ∧ (c.startForcedCleanupIfNeeded around).1.sizes = c.sizes ∧
      (c.startForcedCleanupIfNeeded around).1.profiles = c.profiles := by
  unfold startForcedCleanupIfNeeded
  split_ifs
  · exact ⟨rfl, rfl, rfl⟩
  · exact ⟨rfl, rfl, rfl⟩
  · cases c.manager.beginShutdown true with
    | none | some => exact ⟨rfl, rfl, rfl⟩

theorem pollManager_work (c c₀ : PayloadOpsController) (hf : c.files = c₀.files)
    (hsz : c.sizes = c₀.sizes) (hp : c.profiles = c₀.profiles)
    (hn : c.manager.completion.isSome = true → c.work.publishing = none) :
    ∃ p : Bool,
      (∀ r, c.manager.completion = some r → (p = true ↔ c₀.PreviewPublishable around r)) ∧
      seen (c.pollManager around) = ((c.work.poll p).1, (c.work.poll p).2, []) := by
  unfold pollManager PiCameraManager.pollCompletion PayloadWork.poll
  cases hc : c.manager.completion with
  | none =>
    refine ⟨false, fun r h => (by cases h), ?_⟩
    rw [show c.work.manager.completion = none from hc]
    rfl
  | some r =>
    obtain ⟨p, hpb, hs⟩ := handleCompletedOperation_work around r
      (c := { c with manager := { c.manager with busy := false, completion := none } }) hf hsz hp
      (hn (by rw [hc]; rfl))
    refine ⟨p, fun r' h => ?_, ?_⟩
    · cases h
      exact hpb
    · rw [show c.work.manager.completion = some r from hc]
      exact hs

theorem publishNext_work (c : PayloadOpsController) :
    (c.publishNextPendingDataProductSlice around).1.work = c.work ∧
      answersOf (c.publishNextPendingDataProductSlice around).2.2 = [] ∧
      actsOf (c.publishNextPendingDataProductSlice around).2.2 = [] := by
  unfold publishNextPendingDataProductSlice
  cases hp : c.pendingDataProductPublish with
  | none => exact ⟨rfl, rfl, rfl⟩
  | some =>
    dsimp only
    split_ifs
    · exact ⟨rfl, rfl, rfl⟩
    · exact ⟨rfl, rfl, rfl⟩
    · exact ⟨rfl, rfl, rfl⟩
    · exact ⟨rfl, rfl, rfl⟩
    · exact ⟨rfl, rfl, rfl⟩
    · refine ⟨?_, rfl, rfl⟩
      simp only [work, hp, Option.map_some]

variable {c : PayloadOpsController}

theorem publishNext_or_end_work {w : PayloadWork} (hc : c.work = w) :
    ∃ e, seen (match c.publishNextPendingDataProductSlice around with
        | (c, none, sent) => (c, sent)
        | (c, some d, sent) =>
          ((c.finalizeDataProductPublishFailure around d).1,
            sent ++ (c.finalizeDataProductPublishFailure around d).2)) =
      ((w.afterPublication e).1, (w.afterPublication e).2, []) := by
  obtain ⟨hw, han, hac⟩ := publishNext_work around c
  rw [hc] at hw
  generalize c.publishNextPendingDataProductSlice around = next at hw han hac
  obtain ⟨c', d, sent⟩ := next
  dsimp only at hw han hac
  cases d with
  | none => exact ⟨none, by simp [seen, hw, han, hac, PayloadWork.afterPublication]⟩
  | some d =>
    have he := seen_finalizeDataProductPublish around false .storageFailed d .executionError c'
    rw [hw] at he
    simp only [seen, Prod.mk.injEq] at he
    refine ⟨some .executionError, ?_⟩
    simp only [seen, finalizeDataProductPublishFailure, answersOf_append, actsOf_append, han, hac, he.1,
      he.2.1, he.2.2, List.nil_append, PayloadWork.afterPublication]

theorem handlePendingDataProductWriteCompletion_work (c : PayloadOpsController) :
    ∃ e, seen (c.handlePendingDataProductWriteCompletion around) =
      ((c.work.afterPublication e).1, (c.work.afterPublication e).2, []) := by
  unfold handlePendingDataProductWriteCompletion
  cases hw : c.pendingDataProductWriteCompletion with
  | none => exact ⟨none, rfl⟩
  | some w =>
    cases hp : c.pendingDataProductPublish with
    | none => exact ⟨none, by simp [seen, work, hp, PayloadWork.afterPublication]⟩
    | some p =>
      dsimp only
      split
      · exact ⟨none, by simp [seen, work, hp, PayloadWork.afterPublication]⟩
      · split
        · exact publishNext_or_end_work around (by simp [work, hp])
        · by_cases hl : p.expectedPaths.erase w = []
          · rw [if_pos hl, finalizeDataProductPublishSuccess, seen_finalizeDataProductPublish]
            refine ⟨some .ok, ?_⟩
            simp only [work, hp, Option.map_some]
            rfl
          · rw [if_neg hl]
            exact ⟨none, by simp [seen, work, hp, PayloadWork.afterPublication]⟩

theorem countDownPublish_work (c : PayloadOpsController) :
    ∃ e, seen (c.countDownPublish around) =
      ((c.work.afterPublication e).1, (c.work.afterPublication e).2, []) := by
  unfold countDownPublish
  cases hp : c.pendingDataProductPublish with
  | none => exact ⟨none, rfl⟩
  | some p =>
    dsimp only
    split
    · exact ⟨none, rfl⟩
    · by_cases hl : p.timeoutTicksRemaining - 1 = 0
      · rw [if_pos hl, finalizeDataProductPublishFailure, seen_finalizeDataProductPublish]
        refine ⟨some .executionError, ?_⟩
        simp only [work, hp, Option.map_some]
        rfl
      · rw [if_neg hl]
        exact ⟨none, by simp [seen, work, hp, PayloadWork.afterPublication]⟩

theorem schedIn_work (hinv : c.work.Inv) :
    ∃ (p : Bool) (ended : Option CmdResponse),
      (∀ r, c.manager.completion = some r → (p = true ↔ c.PreviewPublishable around r)) ∧
      seen (c.schedIn around) = c.work.tick around.mode p ended := by
  have hc := seen_startForcedCleanupIfNeeded around c
  obtain ⟨hf, hs, hpr⟩ := startForcedCleanupIfNeeded_frame around c
  unfold schedIn
  generalize c.startForcedCleanupIfNeeded around = cleaned at hc hf hs hpr
  simp only [seen, Prod.mk.injEq] at hc
  have hinv₁ := hinv.cleanup around.mode
  have hcm := hinv.cleanup_completion around.mode
  rw [← hc.1] at hinv₁ hcm
  obtain ⟨p, hpb, hp⟩ := pollManager_work around cleaned.1 c hf hs hpr fun hsm =>
    (hinv₁.working (hinv₁.busy_of_completion hsm)).1
  obtain ⟨w, hw⟩ := handlePendingDataProductWriteCompletion_work around (cleaned.1.pollManager around).1
  obtain ⟨n, hcn⟩ := countDownPublish_work around
    ((cleaned.1.pollManager around).1.handlePendingDataProductWriteCompletion around).1
  simp only [seen, Prod.mk.injEq] at hp hw hcn
  rw [hp.1] at hw
  rw [hw.1] at hcn
  obtain ⟨ended, he, hea⟩ := PayloadWork.afterPublication_twice w n (cleaned.1.work.poll p).1
  refine ⟨p, ended, fun r h => hpb r (hcm.trans h), ?_⟩
  simp only [seen, PayloadWork.tick, answersOf_append, actsOf_append, hc.2.1, hc.2.2, hp.2.1,
    hp.2.2, hw.2.1, hw.2.2, hcn.1, hcn.2.1, hcn.2.2, List.append_nil, List.nil_append,
    List.append_assoc, he, hea, ← hc.1]

/-! ### The other calls -/

theorem work_dpWrittenIn (f : Bytes) (c : PayloadOpsController) : (c.dpWrittenIn f).work = c.work := by
  unfold dpWrittenIn
  cases hp : c.pendingDataProductPublish with
  | none => rfl
  | some =>
    dsimp only
    split_ifs <;> simp [work, hp]

theorem work_foldl_applyEffect (e : List CameraEffect) (c : PayloadOpsController) :
    (e.foldl applyEffect c).work = c.work := by
  induction e generalizing c with
  | nil => rfl
  | cons ef _ ih =>
    rw [List.foldl_cons, ih]
    cases ef <;> rfl

theorem seen_workerFinishes (a : WorkerAnswers) (c : PayloadOpsController) :
    seen (c.workerFinishes a) =
      ({ c.work with manager := (c.manager.workerFinishes a).1 }, [],
        (c.manager.workerFinishes a).2.map .does) := by
  have ho : ∀ e : List CameraEffect,
      answersOf (e.map .worker) = [] ∧ actsOf (e.map .worker) = e.map .does := by
    intro e
    induction e with
    | nil => exact ⟨rfl, rfl⟩
    | cons ef _ ih => exact ⟨ih.1, congrArg (CameraAct.does ef :: ·) ih.2⟩
  simp only [seen, workerFinishes, work_foldl_applyEffect, (ho _).1, (ho _).2]
  rfl

/-! ### Commands -/

def Obeys (around : PayloadSurroundings) (cmdSeq : UInt32) (cmd : PayloadCommand) (c : PayloadOpsController)
    (call : PayloadOpsController × List PayloadOutput) : Prop :=
  PayloadWork.CommandEffect around.mode cmd cmdSeq c.work call.1.work (answersOf call.2) (actsOf call.2)

section Obeys

variable {around : PayloadSurroundings} {cmdSeq : UInt32} {cmd : PayloadCommand} {c : PayloadOpsController}

theorem obeys_reject {r : PayloadResultCode} {d : UInt32} {response : CmdResponse}
    (h : cmd ≠ .abort ∨ response ≠ .ok) :
    Obeys around cmdSeq cmd c (c.reject cmd.opCode cmdSeq r d response) :=
  .answered response fun hcmd hok => by
    rcases h with h | h
    · exact absurd hcmd h
    · exact absurd hok h

theorem obeys_answer (h : cmd ≠ .abort) {c' : PayloadOpsController} (hw : c'.work = c.work) :
    Obeys around cmdSeq cmd c (c', [.cmdResponse cmd.opCode cmdSeq .ok]) := by
  unfold Obeys
  rw [hw]
  exact .answered .ok fun hcmd _ => absurd hcmd h

theorem idle_of_payloadWorkInProgress (h : ¬ c.payloadWorkInProgress = true) : c.work.Idle := by
  unfold payloadWorkInProgress at h
  simp only [Bool.or_eq_true, not_or, Bool.not_eq_true, Option.isSome_eq_false_iff, Option.isNone_iff_eq_none] at h
  refine ⟨h.1.1.1, h.1.1.2, h.1.2, ?_⟩
  rw [work_publishing, h.2]
  rfl

theorem payloadWorkInProgress_of_idle (h : c.work.Idle) : c.payloadWorkInProgress = false := by
  have hp := h.publishing
  rw [work_publishing, Option.map_eq_none_iff] at hp
  unfold payloadWorkInProgress
  rw [show c.manager.busy = false from h.busy, show c.activeCommand.active = false from h.active,
    show c.abortCommand.active = false from h.abort, hp]
  rfl

theorem obeys_setDefaults (h : cmd ≠ .abort) (u : PayloadProfiles → Except UInt32 PayloadProfiles) :
    Obeys around cmdSeq cmd c (c.setDefaults cmd.opCode cmdSeq u) := by
  unfold setDefaults
  split_ifs
  · exact obeys_reject (.inl h)
  · exact obeys_reject (.inl h)
  · cases u c.profiles with
    | error => exact obeys_reject (.inl h)
    | ok => exact obeys_answer h rfl

theorem obeys_sensorRegister (h : cmd ≠ .abort) (v : Except UInt32 Unit) :
    Obeys around cmdSeq cmd c (c.sensorRegister cmd.opCode cmdSeq around v) := by
  unfold sensorRegister
  split
  · exact obeys_reject (.inl h)
  · cases v with
    | error => exact obeys_reject (.inl h)
    | ok =>
      dsimp only
      cases c.readyForRawSensorSession around with
      | some =>
        dsimp only
        split_ifs
        · exact obeys_reject (.inl h)
        · exact obeys_reject (.inl h)
      | none =>
        dsimp only
        split
        · exact obeys_reject (.inl h)
        · by_cases hr : around.register ≠ .ok
          · rw [if_pos hr]
            exact obeys_reject (.inl h)
          · rw [if_neg hr]
            exact obeys_answer h rfl

/-- The guards that preparation, captures and publication share. -/
theorem obeys_guarded (h : cmd ≠ .abort) {call : PayloadOpsController × List PayloadOutput}
    (hcall : c.work.configured = true → around.mode = .payload → c.work.Idle → Obeys around cmdSeq cmd c call) :
    Obeys around cmdSeq cmd c
      (if !c.runtimeConfigured then c.rejectUnconfigured cmd.opCode cmdSeq
      else if !currentModeAllowsPayloadOps around then c.rejectMode cmd.opCode cmdSeq
      else if c.payloadWorkInProgress then c.rejectBusy cmd.opCode cmdSeq
      else call) := by
  split_ifs with hc hm hw
  · exact obeys_reject (.inl h)
  · exact obeys_reject (.inl h)
  · exact obeys_reject (.inl h)
  · exact hcall (by simpa [work] using hc) (by simpa [currentModeAllowsPayloadOps] using hm)
      (idle_of_payloadWorkInProgress hw)

theorem obeys_beginPrepareReady (hinv : c.work.Inv) (h : cmd ≠ .abort) (r : PayloadReadyKind) :
    Obeys around cmdSeq cmd c (c.beginPrepareReady cmd.opCode cmdSeq around r) := by
  refine obeys_guarded h fun hc hm hid => ?_
  split_ifs with hs hr
  · exact obeys_answer h rfl
  · exact obeys_reject (.inl h)
  · have hbg : c.manager.beginPrepare r (c.profiles.prepareSettingsForReady r) =
        some (c.manager.begin (.prepare r (c.profiles.prepareSettingsForReady r)) false) := by
      rw [PiCameraManager.beginPrepare, if_neg]
      rw [show c.manager.configured = true from hinv.configured.trans hc, show c.manager.busy = false from hid.busy]
      decide
    dsimp only
    rw [hbg]
    exact .prepares r _ h hc hm hid hr

theorem obeys_beginCapture (hinv : c.work.Inv) (h : cmd ≠ .abort) (n : UInt8)
    (q : PayloadCapturePolicy) (r : PayloadCameraSettings) (a : UInt32) :
    Obeys around cmdSeq cmd c (c.beginCapture cmd.opCode cmdSeq around n q r a) := by
  refine obeys_guarded h fun hc hm hid => ?_
  split
  · exact obeys_reject (.inl h)
  · cases c.profiles.validateCaptureRequest q r a with
    | error => exact obeys_reject (.inl h)
    | ok =>
      cases hs : c.manager.getPreparedSettings with
      | none => exact obeys_reject (.inl h)
      | some =>
        dsimp only
        split
        · exact obeys_reject (.inl h)
        · have hp : c.manager.prepared = true := by
            by_contra hnot
            simp [PiCameraManager.getPreparedSettings, hnot] at hs
          have hbg (request : PayloadCaptureMetadata) (settings : PayloadCameraSettings) :
              c.manager.beginCapture request settings = some (c.manager.begin (.capture request settings) false) := by
            rw [PiCameraManager.beginCapture, if_neg]
            rw [show c.manager.configured = true from hinv.configured.trans hc,
              show c.manager.busy = false from hid.busy, hp]
            decide
          rw [hbg]
          exact .captures _ _ h hc hm hid hp

theorem obeys_shutdownCmd (hinv : c.work.Inv) (h : cmd ≠ .abort) :
    Obeys around cmdSeq cmd c (c.shutdownCmd cmd.opCode cmdSeq) := by
  unfold shutdownCmd
  split_ifs with hc hw hoff
  · exact obeys_reject (.inl h)
  · exact obeys_reject (.inl h)
  · exact obeys_answer h rfl
  · have hid : c.work.Idle := idle_of_payloadWorkInProgress fun hbs => hw (by rw [hbs, Bool.true_or])
    have hc' : c.work.configured = true := by simpa [work] using hc
    have hbg := hinv.beginShutdown hc' hid.busy false
    rw [show c.manager = c.work.manager from rfl, hbg]
    exact .shutsDown h hc' hid

theorem obeys_abortCmd (hinv : c.work.Inv) :
    Obeys around cmdSeq .abort c (c.abortCmd PayloadCommand.abort.opCode cmdSeq) := by
  unfold abortCmd
  split_ifs with hc hab hp hbs hoff
  · exact obeys_reject (.inr (by decide))
  · exact obeys_reject (.inr (by decide))
  · exact obeys_reject (.inr (by decide))
  · exact .aborts rfl (by simpa [work] using hc) (by simpa [work] using hab) hbs
  · refine .answered .ok fun _ _ => ⟨hoff, by simpa [work] using hbs, ?_⟩
    simpa [work] using hp
  · have hc' : c.work.configured = true := by simpa [work] using hc
    have hf : c.work.manager.busy = false := by simpa [work] using hbs
    have hbg := hinv.beginShutdown hc' hf true
    rw [show c.manager = c.work.manager from rfl, hbg]
    exact .abortShutsDown rfl hc' (by simpa [work] using hab) hf (by simpa [work] using hp)

theorem obeys_publishCapture (hinv : c.work.Inv) (h : cmd ≠ .abort) (n : UInt8)
    (a : PayloadArtifactKind) :
    Obeys around cmdSeq cmd c (c.publishCapture cmd.opCode cmdSeq around n a) := by
  refine obeys_guarded h fun hc hm hid => ?_
  cases c.loadCaptureManifest n with
  | error => exact obeys_reject (.inl h)
  | ok m =>
    have hstt : c.state ≠ .publishing := (hinv.idle_prepared hid).ne_publishing
    obtain ⟨p, -, hs⟩ := startArtifactPublish_work around m a c.state c
    dsimp only
    rw [if_neg hstt]
    generalize c.startArtifactPublish around m a c.state = start at hs
    cases hs with
    | @started c' out hst han hac =>
      unfold Obeys
      simp only [answersOf_append, actsOf_append, han, hac]
      change PayloadWork.CommandEffect around.mode cmd cmdSeq c.work
        { c'.work with activeCommand := { markPending cmd.opCode cmdSeq .publishCapture with responseSent := true } } _ _
      rw [hst]
      exact .publishes h hc hid
    | @unchanged c' d hsm =>
      change PayloadWork.CommandEffect around.mode cmd cmdSeq c.work c'.work _ _
      rw [hsm]
      exact .answered .executionError fun hcmd _ => absurd hcmd h
    | ended call hc =>
      have hcl : ({ c.work with state := c.state, publishing := none } : PayloadWork).clearActive .executionError =
          (c.work, []) := by
        rw [show ({ c.work with state := c.state, publishing := none } : PayloadWork) = c.work by rw [← hid.publishing]; rfl,
          PayloadWork.clearActive, if_neg (by simp [hid.active])]
      simp only [seen, hcl, Prod.mk.injEq] at hc
      unfold Obeys
      simp only [answersOf_append, actsOf_append, hc.2.1, hc.2.2]
      change PayloadWork.CommandEffect around.mode cmd cmdSeq c.work call.1.work _ _
      rw [hc.1]
      exact .answered .executionError fun hcmd _ => absurd hcmd h

theorem obeys_command (hinv : c.work.Inv) : Obeys around cmdSeq cmd c (c.command around cmdSeq cmd) := by
  unfold command
  cases cmd with
  | setCameraDefaults | setAutoDefaults | setDeterministicDefaults => exact obeys_setDefaults (by simp) _
  | prepare | prepareRawSensor => exact obeys_beginPrepareReady hinv (by simp) _
  | abort => exact obeys_abortCmd hinv
  | shutdown => exact obeys_shutdownCmd hinv (by simp)
  | getStatus | getCapabilities | getLastCaptureMetadata => exact obeys_answer (by simp) rfl
  | captureAuto | captureDeterministic | captureRaw => exact obeys_beginCapture hinv (by simp) _ _ _ _
  | sensorRegRead | sensorRegWrite => exact obeys_sensorRegister (by simp) _
  | publishCapture => exact obeys_publishCapture hinv (by simp) _ _

end Obeys

/-! ### Runs -/

theorem work_inv_configureRuntime (b : Bool) (d : Bytes) (p : UInt32) (z : DataProductSizes)
    (x : PayloadCapabilities) (g : PayloadRuntimeConfig) (f : PayloadFiles) :
    (configureRuntime b d p z x g f).work.Inv := by
  refine PayloadWork.inv_of_resting ?_ rfl (fun _ => rfl) rfl rfl (.inl ⟨rfl, rfl⟩) rfl fun h => ?_
  · refine ⟨rfl, fun h => ?_, fun r h => ?_, rfl, fun k s h => ?_, fun r s h => ?_⟩ <;> cases h
  · cases h

theorem work_inv_step {c : PayloadOpsController} (hinv : c.work.Inv) (i : PayloadInput) :
    (payloadOps.step c i).1.work.Inv := by
  cases i with
  | command => exact (obeys_command hinv).inv hinv
  | schedIn around =>
    obtain ⟨p, e, -, hs⟩ := schedIn_work around hinv
    rw [show (payloadOps.step c (.schedIn around)).1.work = (c.work.tick around.mode p e).1 from
      congrArg Prod.fst hs]
    exact hinv.tick around.mode p e
  | dpWritten f =>
    change (c.dpWrittenIn f).work.Inv
    rw [work_dpWrittenIn]
    exact hinv
  | workerFinishes a =>
    rw [show (payloadOps.step c (.workerFinishes a)).1.work =
      { c.work with manager := (c.manager.workerFinishes a).1 } from congrArg Prod.fst (seen_workerFinishes a c)]
    exact hinv.workerFinishes a

theorem work_inv_run {c : PayloadOpsController} (hinv : c.work.Inv) (is : List PayloadInput) :
    (payloadOps.run c is).work.Inv :=
  payloadOps.run_invariant (I := fun c => c.work.Inv) (fun _ i h => work_inv_step h i) c hinv is

/-- In every run the state tells what is going on: work of the camera, a publication, or neither, and
then whether the camera is prepared. The active command is held open only during work; an abort has a
slot of its own. -/
theorem state_tells_work (configured : Bool) (runtimeRoot : Bytes) (productId : UInt32)
    (sizes : DataProductSizes) (capabilities : PayloadCapabilities) (runtimeConfig : PayloadRuntimeConfig)
    (files : PayloadFiles) (inputs : List PayloadInput) :
    let c := payloadOps.run
      (configureRuntime configured runtimeRoot productId sizes capabilities runtimeConfig files) inputs
    (c.manager.busy = true ↔ c.state = .preparing ∨ c.state = .capturing ∨ c.state = .aborting) ∧
      (c.pendingDataProductPublish.isSome = true ↔ c.state = .publishing) ∧
      (c.state = .ready → c.manager.prepared = true) ∧
      (c.state = .off ∨ c.state = .fault → c.manager.prepared = false) ∧
      (c.activeCommand.active = true → c.state ≠ .off ∧ c.state ≠ .ready ∧ c.state ≠ .fault) := by
  intro c
  have hinv : c.work.Inv := work_inv_run (work_inv_configureRuntime ..) inputs
  have hp : c.work.publishing.isSome = c.pendingDataProductPublish.isSome := Option.isSome_map
  have ha : c.activeCommand.active = true → c.manager.busy = true ∨ c.work.publishing.isSome = true :=
    hinv.active
  cases hb : c.manager.busy with
  | true =>
    obtain ⟨hn, hs⟩ := hinv.working hb
    rw [← hp, hn]
    change c.state = _ ∨ c.state = _ ∨ c.state = _ at hs
    rcases hs with hs | hs | hs <;> simp [hs]
  | false =>
    cases hpub : c.work.publishing with
    | some s =>
      have hs : c.state = .publishing := (hinv.publishing s hpub).1
      simp [← hp, hpub, hs]
    | none =>
      have hna : c.activeCommand.active = false := by
        rw [hpub, hb] at ha
        simpa using ha
      have hr : PayloadWork.Rested c.state c.manager.prepared := hinv.resting hb hpub
      rcases hr with ⟨hs, hr⟩ | ⟨hs, hr⟩ | ⟨hs, hr⟩ <;> simp [← hp, hpub, hs, hr, hna]

end PayloadOpsController

end ObcFlight
