import ObcFlight.PayloadAnswers

/-!
# Abort and mode exit

An abort that is answered OK should leave the payload off, and outside PAYLOAD mode nothing should
stay prepared. Both hang on the tick that polls the running operation. An operation that has
succeeded in spite of the abort is answered as if it had been aborted, and a capture whose preview
is published keeps the latch of the cleanup set, so that no further cleanup is started.
-/

namespace ObcFlight

namespace PayloadWork

variable {w : PayloadWork}

/-! ### Answers to an abort -/

theorem abort_not_mem_clearActive (hop : w.activeCommand.active = true →
      w.activeCommand.opCode ≠ PayloadCommand.abort.opCode) (q : CmdResponse) (cmdSeq : UInt32)
    (r : CmdResponse) : ⟨PayloadCommand.abort.opCode, cmdSeq, r⟩ ∉ (w.clearActive q).2 := by
  unfold clearActive clearingAnswer
  split_ifs with hac hs
  · exact List.not_mem_nil
  · rw [List.mem_singleton]
    exact fun h => hop hac (congrArg PayloadAnswer.opCode h).symm
  · exact List.not_mem_nil

theorem Inv.abort_not_mem_afterPublication (h : w.Inv) (e : Option CmdResponse) (cmdSeq : UInt32)
    (r : CmdResponse) : ⟨PayloadCommand.abort.opCode, cmdSeq, r⟩ ∉ (w.afterPublication e).2 := by
  unfold PayloadWork.afterPublication PayloadWork.endPublication
  cases e with
  | none => exact List.not_mem_nil
  | some =>
    dsimp only
    cases w.publishing with
    | none => exact List.not_mem_nil
    | some s => exact abort_not_mem_clearActive (w := { w with state := s, publishing := none }) h.activeOp _ _ _

theorem abort_mem_answerCompletion (hac : w.activeCommand.active = true →
      w.activeCommand.opCode ≠ PayloadCommand.abort.opCode)
    (hab : w.abortCommand.active = true →
      w.abortCommand.opCode = PayloadCommand.abort.opCode ∧ w.abortCommand.responseSent = false)
    (r : PayloadOperationResult) (q : CmdResponse) :
    (∃ cmdSeq, ⟨PayloadCommand.abort.opCode, cmdSeq, .ok⟩ ∈ (w.answerCompletion r q).2) ↔
      w.abortCommand.active = true ∧ (r.resultCode = .aborted ∨ r.response = .ok) := by
  unfold answerCompletion
  dsimp only
  generalize (if w.activeCommand.forcedModeExit then CmdResponse.executionError
    else if w.activeCommand.kind = .capture ∧ q ≠ .ok then .executionError
    else q) = response
  obtain ⟨a, -, hf⟩ := clearActive_fst response w
  simp only [List.mem_append, abort_not_mem_clearActive hac, false_or]
  rw [hf]
  unfold clearAbort clearingAnswer
  by_cases hp : w.abortCommand.active = true
  · obtain ⟨hop, hs⟩ := hab hp
    rw [if_pos (by exact hp)]
    by_cases hok : r.resultCode = .aborted ∨ r.response = .ok
    · simp [hop, hs, hok, hp]
    · simp [hop, hs, hok, hp]
  · rw [if_neg (by exact hp)]
    simp [hp]

/-- Where the operation has ended without a publication, the payload is off after an answer OK to
the abort unless the operation is a prepare or a capture that has succeeded. -/
theorem restState_off_iff {r : PayloadOperationResult} (hs : r.Sound) (s : PayloadState)
    (han : r.resultCode = .aborted ∨ r.response = .ok) :
    restState r s = .off ∧ r.prepared = false ↔
      ¬ (r.response = .ok ∧ (r.kind = .prepare ∨ r.kind = .capture)) := by
  rw [← hs.prepared, Bool.not_eq_true]
  refine ⟨fun h => h.2, fun hp => ⟨?_, hp⟩⟩
  have hnot : ¬ (r.response = .ok ∧ (r.kind = .prepare ∨ r.kind = .capture)) := by
    rw [← hs.prepared, hp]
    exact Bool.false_ne_true
  unfold restState PayloadOpsController.completedState
  rw [if_neg (fun h => hnot ⟨h.1, .inr h.2⟩), if_neg (fun h => hnot ⟨h.1, .inl h.2⟩)]
  by_cases hok : r.response = .ok
  · rw [if_pos]
    refine ⟨hok, ?_⟩
    rcases hs.kind with hk | hk | hk | hk
    · exact absurd ⟨hok, .inl hk⟩ hnot
    · exact absurd ⟨hok, .inr hk⟩ hnot
    · exact .inl hk
    · exact .inr (.inl hk)
  · rw [if_neg (fun h => hok h.1), if_pos (.inl (han.resolve_right hok))]

/-- A tick answers an abort OK with the payload not off exactly when it polls an operation that has
succeeded and whose capture, if it is one, is not published. -/
theorem Inv.abort_ok_tick_iff (h : w.Inv) (mode : SatMode) (p : Bool) (e : Option CmdResponse) :
    ((∃ cmdSeq, ⟨PayloadCommand.abort.opCode, cmdSeq, .ok⟩ ∈ (w.tick mode p e).2.1) ∧
        ¬ ((w.tick mode p e).1.state = .off ∧ (w.tick mode p e).1.manager.prepared = false)) ↔
      w.abortCommand.active = true ∧ ∃ r, w.manager.completion = some r ∧ r.response = .ok ∧
        (r.kind = .prepare ∨ r.kind = .capture ∧ p = false) := by
  have hc := h.cleanup mode
  have hp := hc.poll p
  have hcm := h.cleanup_completion mode
  have hab := h.cleanup_abortCommand mode
  have haw : (∃ cmdSeq, ⟨PayloadCommand.abort.opCode, cmdSeq, .ok⟩ ∈ (w.tick mode p e).2.1) ↔
      ∃ cmdSeq, ⟨PayloadCommand.abort.opCode, cmdSeq, .ok⟩ ∈ ((w.cleanup mode).1.poll p).2 := by
    refine exists_congr fun cmdSeq => ?_
    simp only [PayloadWork.tick, List.mem_append, hp.abort_not_mem_afterPublication, or_false]
  rw [haw, ← hab, ← hcm]
  rcases poll_cases p (w.cleanup mode).1 with
    ⟨hnone, heq⟩ | ⟨r, hs, hcp, heq⟩ | ⟨r, hs, hcp, heq⟩
  · rw [heq, hnone]
    simp
  · rw [heq, hs]
    simp [hcp]
  · have hbs := hc.busy_of_completion (by rw [hs]; rfl)
    obtain ⟨hsn, hpr⟩ := hc.manager.completed r hs
    obtain ⟨a, ab, -, -, hr⟩ := answerCompletion_fst r (restResponse r)
      { (w.cleanup mode).1 with
        manager := { (w.cleanup mode).1.manager with busy := false, completion := none }
        state := restState r (w.cleanup mode).1.state }
    have he : ((w.cleanup mode).1.poll p).1.afterPublication e =
        (((w.cleanup mode).1.poll p).1, []) := by
      cases e with
      | none => rfl
      | some =>
        refine endPublication_of_none ?_
        rw [heq, hr]
        exact (hc.working hbs).1
    have hst : (w.tick mode p e).1.state = restState r (w.cleanup mode).1.state ∧
        (w.tick mode p e).1.manager.prepared = r.prepared := by
      rw [show (w.tick mode p e).1 = ((w.cleanup mode).1.poll p).1 from congrArg Prod.fst he,
        heq, hr]
      exact ⟨rfl, hpr.symm⟩
    rw [heq, hst.1, hst.2, abort_mem_answerCompletion (by exact hc.activeOp)
      (by exact hc.abortOp), hs]
    constructor
    · rintro ⟨⟨hac, han⟩, hnot⟩
      rw [restState_off_iff hsn _ han, not_not] at hnot
      refine ⟨hac, r, rfl, hnot.1, hnot.2.imp_right fun hk => ⟨hk, ?_⟩⟩
      by_contra hpb
      exact hcp ⟨hnot.1, hk, by simpa using hpb⟩
    · rintro ⟨hac, r', hrs, hok, hk⟩
      cases hrs
      refine ⟨⟨hac, .inr hok⟩, ?_⟩
      rw [restState_off_iff hsn _ (.inr hok), not_not]
      exact ⟨hok, hk.imp_right And.left⟩

variable {cmdSeq : UInt32} {acts : List CameraAct} {w' : PayloadWork} {mode : SatMode}
  {answers : List PayloadAnswer} {cmd : PayloadCommand}

theorem CommandEffect.abort_ok (h : CommandEffect mode cmd cmdSeq w w' answers acts) (hinv : w.Inv)
    {seq : UInt32} (hmem : ⟨PayloadCommand.abort.opCode, seq, .ok⟩ ∈ answers) :
    w'.state = .off ∧ w'.manager.prepared = false := by
  cases h with
  | answered _ hab =>
    rw [List.mem_singleton, PayloadAnswer.mk.injEq] at hmem
    by_cases hcmd : cmd = .abort
    · obtain ⟨hoff, hbs, hp⟩ := hab hcmd hmem.2.2.symm
      refine ⟨hoff, (hinv.resting hbs hp).not_prepared ?_⟩
      rw [hoff]
      decide
    · exact absurd hmem.1.symm (opCode_ne_abort hcmd)
  | captures _ _ hcmd | publishes hcmd =>
    rw [List.mem_singleton, PayloadAnswer.mk.injEq] at hmem
    exact absurd hmem.1.symm (opCode_ne_abort hcmd)
  | prepares | aborts | abortShutsDown | shutsDown => cases hmem

theorem CommandEffect.starts (h : CommandEffect mode cmd cmdSeq w w' answers acts) {job : CameraJob}
    (hmem : .starts job ∈ acts) :
    (∃ a, job = .shutdown a) ∨ mode = .payload := by
  cases h with
  | answered | aborts | publishes => cases hmem
  | prepares _ _ _ _ hm => exact .inr hm
  | captures _ _ _ _ hm => exact .inr hm
  | abortShutsDown => exact .inl ⟨true, CameraAct.starts.inj (List.mem_singleton.mp hmem)⟩
  | shutsDown => exact .inl ⟨false, CameraAct.starts.inj (List.mem_singleton.mp hmem)⟩

/-! ### The latch of the cleanup -/

def Unlatched (w : PayloadWork) : Prop := w.forcedCleanupActive = true → w.manager.busy = true

theorem Inv.cleanup_forced_iff (h : w.Inv) (hbs : w.manager.busy = true) (mode : SatMode) :
    (w.cleanup mode).1.forcedCleanupActive = true ↔ w.forcedCleanupActive = true ∨ mode ≠ .payload := by
  rcases h.cleanup_cases mode with ⟨heq, hrs⟩ | ⟨-, hm, -, heq⟩ | ⟨-, -, hf, -, heq⟩
  · rw [heq]
    refine ⟨.inl, fun hor => hor.elim id fun hm => ?_⟩
    obtain ⟨hp, hst⟩ := h.working hbs
    rcases hrs with hr | hr | hr | hr | hr | hr
    · exact absurd ((h.configured_of_busy hbs).symm.trans hr) (by decide)
    · exact absurd hr hm
    · exact hr
    · rcases hst with hs | hs | hs <;> rw [hr] at hs <;> cases hs
    · rcases hst with hs | hs | hs <;> rw [hr] at hs <;> cases hs
    · rw [hp] at hr
      cases hr
  · rw [heq]
    exact iff_of_true rfl (.inr hm)
  · exact absurd (hf.symm.trans hbs) (by decide)

/-- Outside PAYLOAD mode a tick that finds nothing going on leaves the payload off or in FAULT, or
starts a shutdown. -/
theorem Inv.tick_safes (h : w.Inv) (hu : w.Unlatched) (hm : mode ≠ .payload)
    (hbs : w.manager.busy = false) (hp : w.publishing = none) (p : Bool) (e : Option CmdResponse) :
    (w.tick mode p e).1.state = .off ∨ (w.tick mode p e).1.state = .fault ∨
      .starts (.shutdown true) ∈ (w.tick mode p e).2.2 := by
  rcases h.cleanup_cases mode with ⟨heq, hrs⟩ | ⟨-, -, hrn, -⟩ | ⟨-, -, -, -, heq⟩
  · have hpl : w.poll p = (w, []) := by
      rw [PayloadWork.poll, h.completion_of_not_busy hbs]
    have haf : w.afterPublication e = (w, []) := by
      cases e with
      | none => rfl
      | some => exact endPublication_of_none hp
    have ht : (w.tick mode p e).1 = w := by
      simp only [PayloadWork.tick, heq, hpl, haf]
    rw [ht]
    rcases hrs with hr | hr | hr | hr | hr | hr
    · exact .inl (h.unconfigured hr)
    · exact absurd hr hm
    · exact absurd (hbs.symm.trans (hu hr)) (by decide)
    · exact .inl hr
    · exact .inr (.inl hr)
    · rw [hp] at hr
      cases hr
  · exact absurd (hbs.symm.trans hrn) (by decide)
  · refine .inr (.inr ?_)
    simp only [PayloadWork.tick, heq]
    exact List.mem_singleton_self _

end PayloadWork

namespace PayloadOpsController

variable {c : PayloadOpsController}

/-- The tick polls, with an abort pending, an operation that has succeeded: a prepare, or a capture
whose preview cannot be published. -/
def AbortMissed (c : PayloadOpsController) : PayloadInput → Prop
  | .schedIn around => c.abortCommand.active = true ∧ ∃ result, c.manager.completion = some result ∧
      result.response = .ok ∧
      (result.kind = .prepare ∨ result.kind = .capture ∧ ¬ c.PreviewPublishable around result)
  | _ => False

/-- The tick polls a capture that has succeeded and whose preview can be published, during a cleanup
or outside PAYLOAD mode. -/
def CleanupLost (c : PayloadOpsController) : PayloadInput → Prop
  | .schedIn around => (c.forcedCleanupActive = true ∨ around.mode ≠ .payload) ∧
      ∃ result, c.manager.completion = some result ∧ result.response = .ok ∧ result.kind = .capture ∧
        c.PreviewPublishable around result
  | _ => False

/-- A step answers an abort OK although the payload is then not off or still prepared. -/
def AnswersAbortUnsafely (c : PayloadOpsController) (i : PayloadInput) : Prop :=
  (∃ cmdSeq, .cmdResponse PayloadCommand.abort.opCode cmdSeq .ok ∈ (payloadOps.step c i).2) ∧
    ¬ ((payloadOps.step c i).1.state = .off ∧ (payloadOps.step c i).1.manager.prepared = false)

theorem answersAbortUnsafely_iff (hinv : c.work.Inv) (i : PayloadInput) :
    c.AnswersAbortUnsafely i ↔ c.AbortMissed i := by
  unfold AnswersAbortUnsafely
  simp only [← mem_answersOf]
  cases i with
  | command =>
    refine iff_of_false ?_ id
    rintro ⟨⟨seq, hmem⟩, hnot⟩
    exact hnot ((obeys_command hinv).abort_ok hinv hmem)
  | schedIn a =>
    obtain ⟨p, e, hp, hs⟩ := schedIn_work a hinv
    have ht := hinv.abort_ok_tick_iff a.mode p e
    rw [← hs] at ht
    refine ht.trans (and_congr_right fun _ => exists_congr fun r => and_congr_right fun hr => ?_)
    rw [← hp r hr, Bool.not_eq_true]
  | dpWritten =>
    refine iff_of_false ?_ id
    rintro ⟨⟨seq, hmem⟩, -⟩
    cases hmem
  | workerFinishes answers =>
    refine iff_of_false ?_ id
    rintro ⟨⟨seq, hmem⟩, -⟩
    have hs := seen_workerFinishes answers c
    simp only [seen, Prod.mk.injEq] at hs
    rw [show (payloadOps.step c (.workerFinishes answers)).2 = (c.workerFinishes answers).2 from rfl, hs.2.1] at hmem
    cases hmem

theorem unlatched_step_iff (hinv : c.work.Inv) (hu : c.work.Unlatched) (i : PayloadInput) :
    (payloadOps.step c i).1.work.Unlatched ↔ ¬ c.CleanupLost i := by
  refine (backed_step_iff (fun _ latch => latch) hinv hu (fun _ _ => rfl) i).trans (not_congr ?_)
  cases i with
  | schedIn around =>
    refine and_congr_left fun ⟨r, hr, _⟩ => ?_
    have hbs := hinv.busy_of_completion (by rw [show c.work.manager.completion = _ from hr]; rfl)
    exact hinv.cleanup_forced_iff hbs around.mode
  | command | dpWritten | workerFinishes => exact Iff.rfl

theorem started_in_payload_mode (hinv : c.work.Inv) {i : PayloadInput} {job : CameraJob}
    (h : .started job ∈ (payloadOps.step c i).2) :
    (∃ ab, job = .shutdown ab) ∨ ∃ cmdSeq cmd a, i = .command cmdSeq cmd a ∧ a.mode = .payload := by
  rw [← mem_actsOf_starts] at h
  cases i with
  | command cmdSeq cmd a =>
    have he : Obeys a cmdSeq cmd c (c.command a cmdSeq cmd) := obeys_command hinv
    rcases he.starts h with hsh | hm
    · exact .inl hsh
    · exact .inr ⟨cmdSeq, cmd, a, rfl, hm⟩
  | schedIn a =>
    obtain ⟨p, e, -, hs⟩ := schedIn_work a hinv
    rw [show actsOf (payloadOps.step c (.schedIn a)).2 = (c.work.cleanup a.mode).2 from
      congrArg (fun call => call.2.2) hs] at h
    rcases hinv.cleanup_cases a.mode with ⟨heq, -⟩ | ⟨-, -, -, heq⟩ | ⟨-, -, -, -, heq⟩
    · rw [heq] at h
      cases h
    · rw [heq] at h
      cases h
    · rw [heq] at h
      exact .inl ⟨true, CameraAct.starts.inj (List.mem_singleton.mp h)⟩
  | dpWritten => cases h
  | workerFinishes answers =>
    have hs := seen_workerFinishes answers c
    simp only [seen, Prod.mk.injEq] at hs
    rw [show (payloadOps.step c (.workerFinishes answers)).2 = (c.workerFinishes answers).2 from rfl, hs.2.2] at h
    simp at h

theorem Quiet.tick_safes (h : c.Quiet) (hinv : c.work.Inv) (hu : c.work.Unlatched)
    {a : PayloadSurroundings} (hm : a.mode ≠ .payload) :
    (payloadOps.step c (.schedIn a)).1.state = .off ∨ (payloadOps.step c (.schedIn a)).1.state = .fault ∨
      .started (.shutdown true) ∈ (payloadOps.step c (.schedIn a)).2 := by
  obtain ⟨hbs, hp⟩ := h.resting hinv
  obtain ⟨p, e, -, hs⟩ := schedIn_work a hinv
  have ht := hinv.tick_safes hu hm hbs hp p e
  rw [← hs] at ht
  rw [← mem_actsOf_starts]
  exact ht

/-- Operations other than shutdowns are started by commands in PAYLOAD mode only. A step answers an
abort OK with the payload not safe exactly when it polls an operation that has succeeded in spite of
the abort. The latch of the cleanup outlives its operation exactly when the preview of a capture is
published instead, and in every run without such a step a tick outside PAYLOAD mode that finds
nothing going on leaves the payload off or in FAULT or starts a shutdown. -/
theorem payload_safed (configured : Bool) (runtimeRoot : Bytes) (productId : UInt32)
    (sizes : DataProductSizes) (capabilities : PayloadCapabilities) (runtimeConfig : PayloadRuntimeConfig)
    (files : PayloadFiles) (inputs : List PayloadInput) :
    let start := configureRuntime configured runtimeRoot productId sizes capabilities runtimeConfig files
    let c := payloadOps.run start inputs
    (∀ i job, .started job ∈ (payloadOps.step c i).2 → (∃ abortSemantics, job = .shutdown abortSemantics) ∨
      ∃ cmdSeq cmd around, i = .command cmdSeq cmd around ∧ around.mode = .payload) ∧
    (∀ i, c.AnswersAbortUnsafely i ↔ c.AbortMissed i) ∧
    (c.work.Unlatched → ∀ i, (payloadOps.step c i).1.work.Unlatched ↔ ¬ c.CleanupLost i) ∧
    (payloadOps.Admits (fun c i => ¬ c.CleanupLost i) start inputs → ∀ around, around.mode ≠ .payload → c.Quiet →
      (payloadOps.step c (.schedIn around)).1.state = .off ∨ (payloadOps.step c (.schedIn around)).1.state = .fault ∨
        .started (.shutdown true) ∈ (payloadOps.step c (.schedIn around)).2) := by
  intro start c
  have hstart : start.work.Inv := work_inv_configureRuntime ..
  have hinv : c.work.Inv := work_inv_run hstart inputs
  refine ⟨fun i job h => started_in_payload_mode hinv h, answersAbortUnsafely_iff hinv,
    unlatched_step_iff hinv, fun hadmits around hmode hquiet => ?_⟩
  have hunlatched : c.work.Inv ∧ c.work.Unlatched :=
    payloadOps.run_invariant_of_admits (I := fun c => c.work.Inv ∧ c.work.Unlatched)
      (fun c i hkept h => ⟨work_inv_step h.1 i, (unlatched_step_iff h.1 h.2 i).mpr hkept⟩) start
      ⟨hstart, fun h => absurd (show false = true from h) (by decide)⟩ inputs hadmits
  exact hquiet.tick_safes hinv hunlatched.2 hmode

def benchIdleAround : PayloadSurroundings := { benchAround with mode := .idle }

theorem payload_safed_after_prepare :
    .started (.shutdown true) ∈ (payloadOps.step (payloadOps.run benchController benchPrepare) (.schedIn benchIdleAround)).2 := by
  have h := (payload_safed true (ascii "/obc") 7 {} {} {} {} benchPrepare).2.2.2
    ⟨id, id, fun hlost => absurd hlost.1 (by decide +kernel), trivial⟩ benchIdleAround (by decide)
    ⟨by decide +kernel, by decide +kernel, by decide +kernel⟩
  exact (h.resolve_left (by decide +kernel)).resolve_left (by decide +kernel)

/-- A capture that has succeeded when the satellite leaves PAYLOAD mode: its preview is published
first. -/
def benchLateExit : List PayloadInput :=
  benchPrepare ++
    [.command 2 (.captureDeterministic 5 0 10000 100) benchAround, .workerFinishes benchWorker,
      .schedIn benchIdleAround, .dpWritten (ascii "/obc/data-products/Dp_00000007_00001000_00000000.fdp"),
      .schedIn benchIdleAround]

/-- An abort during a prepare is answered OK with the camera ready; and a capture that ends as the
satellite leaves PAYLOAD mode leaves the camera ready, with no tick starting a shutdown. -/
theorem payload_left_ready :
    AnswersAbortUnsafely
      (payloadOps.run benchController [.command 1 .prepare benchAround, .command 2 .abort benchAround,
        .workerFinishes benchWorker]) (.schedIn benchAround) ∧
    (payloadOps.run benchController benchLateExit).Quiet ∧
      (payloadOps.step (payloadOps.run benchController benchLateExit) (.schedIn benchIdleAround)).1.state = .ready ∧
      (payloadOps.step (payloadOps.run benchController benchLateExit) (.schedIn benchIdleAround)).1.manager.prepared = true ∧
      actsOf (payloadOps.step (payloadOps.run benchController benchLateExit) (.schedIn benchIdleAround)).2 = [] := by
  refine ⟨⟨⟨2, ?_⟩, by decide +kernel⟩, ⟨by decide +kernel, by decide +kernel, by decide +kernel⟩, by decide +kernel,
    by decide +kernel, ?_⟩
  · rw [← mem_answersOf]
    decide +kernel
  · rfl

end PayloadOpsController

end ObcFlight
