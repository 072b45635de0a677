import ObcFlight.PayloadRefinement

/-!
# Every payload command is answered

Commands are counted with their opcode and sequence number. Those received are at all times
those answered and those that wait in one of the two slots. A slot is emptied when the operation
or the publication ends for which its command waits, with one exception: the report of a capture
that has succeeded, polled while an abort waits, starts the publication of the preview and leaves
the abort where it is.
-/

namespace ObcFlight

def PayloadAnswer.id (a : PayloadAnswer) : UInt32 × UInt32 := (a.opCode, a.cmdSeq)

def PayloadInput.received : PayloadInput → Multiset (UInt32 × UInt32)
  | .command cmdSeq cmd _ => {(cmd.opCode, cmdSeq)}
  | _ => 0

def PendingCommand.waiting (p : PendingCommand) : Multiset (UInt32 × UInt32) :=
  if p.active && !p.responseSent then {(p.opCode, p.cmdSeq)} else 0

def idsOf (answers : List PayloadAnswer) : Multiset (UInt32 × UInt32) := (answers.map PayloadAnswer.id : List _)

@[simp] theorem idsOf_nil : idsOf [] = 0 := rfl

@[simp] theorem idsOf_append (xs ys : List PayloadAnswer) : idsOf (xs ++ ys) = idsOf xs + idsOf ys := by
  simp [idsOf]

@[simp] theorem idsOf_singleton (a : PayloadAnswer) : idsOf [a] = {a.id} := rfl

theorem PendingCommand.waiting_of_inactive {p : PendingCommand} (h : p.active = false) : p.waiting = 0 := by
  simp [waiting, h]

namespace PayloadWork

def waiting (w : PayloadWork) : Multiset (UInt32 × UInt32) := w.activeCommand.waiting + w.abortCommand.waiting

variable {w : PayloadWork}

theorem Idle.waiting (h : w.Idle) : w.waiting = 0 := by
  rw [PayloadWork.waiting, PendingCommand.waiting_of_inactive h.active, PendingCommand.waiting_of_inactive h.abort,
    add_zero]

theorem idsOf_clearingAnswer {p : PendingCommand} (h : p.active = true) (r : CmdResponse) :
    idsOf (clearingAnswer p r) = p.waiting := by
  unfold clearingAnswer PendingCommand.waiting
  cases p.responseSent <;> simp [h, PayloadAnswer.id]

theorem waiting_clearActive (r : CmdResponse) (w : PayloadWork) :
    w.waiting = idsOf (w.clearActive r).2 + (w.clearActive r).1.waiting := by
  unfold clearActive
  split_ifs with h
  · rw [idsOf_clearingAnswer h]
    exact congrArg (w.activeCommand.waiting + ·) (zero_add w.abortCommand.waiting).symm
  · simp

theorem waiting_clearAbort (r : CmdResponse) (w : PayloadWork) :
    w.waiting = idsOf (w.clearAbort r).2 + (w.clearAbort r).1.waiting := by
  unfold clearAbort
  split_ifs with h
  · rw [idsOf_clearingAnswer h]
    exact (add_comm w.activeCommand.waiting w.abortCommand.waiting).trans
      (congrArg (w.abortCommand.waiting + ·) (add_zero w.activeCommand.waiting).symm)
  · simp

theorem waiting_answerCompletion (r : PayloadOperationResult) (q : CmdResponse) (w : PayloadWork) :
    w.waiting = idsOf (w.answerCompletion r q).2 + (w.answerCompletion r q).1.waiting := by
  unfold answerCompletion
  dsimp only
  rw [idsOf_append, add_assoc, waiting_clearActive _ w]
  exact congrArg _ (waiting_clearAbort _ _)

theorem waiting_poll (p : Bool) (w : PayloadWork) :
    w.waiting = idsOf (w.poll p).2 + (w.poll p).1.waiting := by
  rcases poll_cases p w with ⟨-, heq⟩ | ⟨r, -, -, heq⟩ | ⟨r, -, -, heq⟩
  · rw [heq]
    exact (zero_add _).symm
  · rw [heq]
    exact (zero_add _).symm
  · rw [heq, ← waiting_answerCompletion]
    rfl

theorem waiting_afterPublication (e : Option CmdResponse) (w : PayloadWork) :
    w.waiting = idsOf (w.afterPublication e).2 + (w.afterPublication e).1.waiting := by
  unfold afterPublication endPublication
  cases e with
  | none => exact (zero_add _).symm
  | some r =>
    dsimp only
    cases w.publishing with
    | none => exact (zero_add _).symm
    | some s => exact waiting_clearActive r { w with state := s, publishing := none }

theorem Inv.waiting_cleanup (h : w.Inv) (mode : SatMode) : (w.cleanup mode).1.waiting = w.waiting := by
  rcases h.cleanup_cases mode with ⟨heq, -⟩ | ⟨-, -, -, heq⟩ | ⟨-, -, -, -, heq⟩ <;> rw [heq] <;> rfl

theorem Inv.waiting_tick (h : w.Inv) (mode : SatMode) (p : Bool) (e : Option CmdResponse) :
    w.waiting = idsOf (w.tick mode p e).2.1 + (w.tick mode p e).1.waiting := by
  unfold PayloadWork.tick
  dsimp only
  rw [idsOf_append, add_assoc, ← waiting_afterPublication, ← waiting_poll, h.waiting_cleanup]

theorem waiting_markPending (o cmdSeq : UInt32) (kind : PayloadOperationKind) :
    (PayloadOpsController.markPending o cmdSeq kind).waiting = {(o, cmdSeq)} := rfl

variable {answers : List PayloadAnswer}

theorem CommandEffect.waiting {mode : SatMode} {cmd : PayloadCommand} {cmdSeq : UInt32}
    {w' : PayloadWork} {acts : List CameraAct} (h : CommandEffect mode cmd cmdSeq w w' answers acts) :
    w.waiting + {(cmd.opCode, cmdSeq)} = idsOf answers + w'.waiting := by
  cases h with
  | answered => exact add_comm _ _
  | prepares _ _ _ _ _ hid | shutsDown _ _ hid =>
    rw [hid.waiting]
    simp [PayloadWork.waiting, waiting_markPending, PendingCommand.waiting_of_inactive hid.abort]
  | captures _ _ _ _ _ hid | publishes _ _ hid =>
    rw [hid.waiting, zero_add]
    simp [PayloadWork.waiting, PendingCommand.waiting_of_inactive hid.abort, PayloadAnswer.id]
    rfl
  | aborts _ _ hab | abortShutsDown _ _ hab =>
    simp [PayloadWork.waiting, waiting_markPending, PendingCommand.waiting_of_inactive hab]

/-! ### What may be set only during an operation -/

/-- A condition on the slot of the abort and on the latch of the cleanup that holds only while an
operation is going on. -/
def Backed (mark : PendingCommand → Bool → Bool) (w : PayloadWork) : Prop :=
  mark w.abortCommand w.forcedCleanupActive = true → w.manager.busy = true

def Unstuck (w : PayloadWork) : Prop := w.abortCommand.active = true → w.manager.busy = true

section Backed

variable {mark : PendingCommand → Bool → Bool}

theorem CommandEffect.backed {mode : SatMode} {cmd : PayloadCommand} {cmdSeq : UInt32}
    {w' : PayloadWork} {acts : List CameraAct} (h : CommandEffect mode cmd cmdSeq w w' answers acts)
    (hb : w.Backed mark) : w'.Backed mark := by
  cases h with
  | answered => exact hb
  | prepares | captures | abortShutsDown | shutsDown => exact fun _ => rfl
  | aborts _ _ _ hbs =>
    obtain ⟨r, heq⟩ := PiCameraManager.requestAbort_eq w.manager
    intro _
    rw [heq]
    exact hbs
  | publishes _ _ hid => exact fun h => absurd (hid.busy.symm.trans (hb h)) (by decide)

theorem Inv.cleanup_backed (h : w.Inv) (hb : w.Backed mark) (mode : SatMode) :
    (w.cleanup mode).1.Backed mark := by
  rcases h.cleanup_cases mode with ⟨heq, -⟩ | ⟨-, -, hbs, heq⟩ | ⟨-, -, -, -, heq⟩
  · rw [heq]
    exact hb
  · obtain ⟨r, hab⟩ := PiCameraManager.requestAbort_eq w.manager
    rw [heq]
    intro _
    rw [hab]
    exact hbs
  · rw [heq]
    exact fun _ => rfl

theorem Inv.cleanup_abortCommand (h : w.Inv) (mode : SatMode) :
    (w.cleanup mode).1.abortCommand = w.abortCommand := by
  rcases h.cleanup_cases mode with ⟨heq, -⟩ | ⟨-, -, -, heq⟩ | ⟨-, -, -, -, heq⟩ <;> rw [heq]

/-- The end of an operation clears the slot and the latch, unless it is a capture that has succeeded
and the tick goes on with its publication. -/
theorem Inv.backed_tick_iff (h : w.Inv) (hb : w.Backed mark)
    (hmark : ∀ slot : PendingCommand, slot.active = false → mark slot false = false) (mode : SatMode)
    (p : Bool) (e : Option CmdResponse) :
    (w.tick mode p e).1.Backed mark ↔
      ¬ (mark (w.cleanup mode).1.abortCommand (w.cleanup mode).1.forcedCleanupActive = true ∧
        ∃ r, w.manager.completion = some r ∧ r.response = .ok ∧ r.kind = .capture ∧ p = true) := by
  have hcl := h.cleanup_backed hb mode
  have hcm := h.cleanup_completion mode
  have hf := afterPublication_frame e ((w.cleanup mode).1.poll p).1
  have ht : (w.tick mode p e).1.Backed mark ↔ ((w.cleanup mode).1.poll p).1.Backed mark := by
    simp only [Backed, PayloadWork.tick, hf.1, hf.2.1, hf.2.2]
  rw [ht, ← hcm]
  rcases poll_cases p (w.cleanup mode).1 with
    ⟨hnone, heq⟩ | ⟨r, hs, hc, heq⟩ | ⟨r, hs, hc, heq⟩
  · rw [heq, hnone]
    exact iff_of_true hcl (by simp)
  · rw [heq, hs]
    simp [Backed, hc]
  · obtain ⟨a, slot, -, hslot, hr⟩ := answerCompletion_fst r (restResponse r)
      { (w.cleanup mode).1 with
        manager := { (w.cleanup mode).1.manager with busy := false, completion := none }
        state := restState r (w.cleanup mode).1.state }
    rw [heq, hr, hs]
    refine iff_of_true (fun hac => absurd ((hmark slot hslot).symm.trans hac) (by decide)) ?_
    rintro ⟨-, r', hrs, hok⟩
    cases hrs
    exact hc hok

end Backed

end PayloadWork

def PayloadCommand.setsDefaults : PayloadCommand → Bool
  | .setCameraDefaults .. | .setAutoDefaults .. | .setDeterministicDefaults .. => true
  | _ => false

namespace PayloadOpsController

variable {c : PayloadOpsController}

/-- The tick polls, with an abort pending, a capture that has succeeded and whose preview can be
published. -/
def AbortLost (c : PayloadOpsController) : PayloadInput → Prop
  | .schedIn around => c.abortCommand.active = true ∧ ∃ result, c.manager.completion = some result ∧
      result.response = .ok ∧ result.kind = .capture ∧ c.PreviewPublishable around result
  | _ => False

theorem waiting_step (hinv : c.work.Inv) (i : PayloadInput) :
    c.work.waiting + i.received =
      idsOf (answersOf (payloadOps.step c i).2) + (payloadOps.step c i).1.work.waiting := by
  cases i with
  | command => exact (obeys_command hinv).waiting
  | schedIn around =>
    obtain ⟨p, e, -, hs⟩ := schedIn_work around hinv
    have hw := hinv.waiting_tick around.mode p e
    rw [← hs] at hw
    exact (add_zero _).trans hw
  | dpWritten f =>
    change c.work.waiting + 0 = 0 + (c.dpWrittenIn f).work.waiting
    rw [work_dpWrittenIn, add_zero, zero_add]
  | workerFinishes answers =>
    have hs := seen_workerFinishes answers c
    simp only [seen, Prod.mk.injEq] at hs
    change c.work.waiting + 0 = idsOf (answersOf (c.workerFinishes answers).2) + (c.workerFinishes answers).1.work.waiting
    rw [hs.1, hs.2.1, idsOf_nil, add_zero, zero_add]
    rfl

/-- The tick polls a capture that has succeeded and whose preview can be published, and the
condition holds after the cleanup. -/
def MarkLost (mark : PendingCommand → Bool → Bool) (c : PayloadOpsController) : PayloadInput → Prop
  | .schedIn around =>
    mark (c.work.cleanup around.mode).1.abortCommand (c.work.cleanup around.mode).1.forcedCleanupActive = true ∧
      ∃ result, c.manager.completion = some result ∧ result.response = .ok ∧ result.kind = .capture ∧
        c.PreviewPublishable around result
  | _ => False

theorem backed_step_iff (mark : PendingCommand → Bool → Bool) (hinv : c.work.Inv) (hb : c.work.Backed mark)
    (hmark : ∀ slot : PendingCommand, slot.active = false → mark slot false = false) (i : PayloadInput) :
    (payloadOps.step c i).1.work.Backed mark ↔ ¬ c.MarkLost mark i := by
  cases i with
  | command => exact iff_of_true ((obeys_command hinv).backed hb) id
  | schedIn around =>
    obtain ⟨p, e, hp, hs⟩ := schedIn_work around hinv
    have ht := hinv.backed_tick_iff hb hmark around.mode p e
    rw [← hs] at ht
    refine ht.trans (not_congr (and_congr_right fun _ => exists_congr fun r => and_congr_right fun hr => ?_))
    exact and_congr_right fun _ => and_congr_right fun _ => hp r hr
  | dpWritten f =>
    refine iff_of_true ?_ id
    change (c.dpWrittenIn f).work.Backed mark
    rw [work_dpWrittenIn]
    exact hb
  | workerFinishes answers =>
    have hs := seen_workerFinishes answers c
    simp only [seen, Prod.mk.injEq] at hs
    refine iff_of_true ?_ id
    change (c.workerFinishes answers).1.work.Backed mark
    rw [hs.1]
    intro hset
    exact (PiCameraManager.workerFinishes_busy answers c.manager).trans (hb hset)

theorem unstuck_step_iff (hinv : c.work.Inv) (hu : c.work.Unstuck) (i : PayloadInput) :
    (payloadOps.step c i).1.work.Unstuck ↔ ¬ c.AbortLost i := by
  refine (backed_step_iff (fun slot _ => slot.active) hinv hu (fun _ h => h) i).trans (not_congr ?_)
  cases i with
  | schedIn =>
    refine and_congr_left fun _ => ?_
    rw [hinv.cleanup_abortCommand]
    rfl
  | command | dpWritten | workerFinishes => exact Iff.rfl

/-! ### Refusals -/

/-- The command is refused, and the reason is that the payload is busy. -/
def BusyRefusal (cmdSeq : UInt32) (cmd : PayloadCommand) (call : PayloadOpsController × List PayloadOutput) : Prop :=
  call.1.lastResult = .rejectedBusy ∧ ∃ response, response ≠ .ok ∧ .cmdResponse cmd.opCode cmdSeq response ∈ call.2

section Refusals

variable {around : PayloadSurroundings} {cmdSeq : UInt32} {cmd : PayloadCommand}

theorem not_busyRefusal_reject {o d : UInt32} {r : PayloadResultCode} {q : CmdResponse}
    (h : r ≠ .rejectedBusy) :
    ¬ BusyRefusal cmdSeq cmd (c.reject o cmdSeq r d q) := fun hb => h hb.1

theorem not_busyRefusal_rejectCode {o d k : UInt32} {r : CmdResponse} :
    ¬ BusyRefusal cmdSeq cmd (c.reject o cmdSeq (PayloadDetail.rejectCode k) d r) := by
  refine not_busyRefusal_reject ?_
  unfold PayloadDetail.rejectCode
  split_ifs <;> decide

variable {call : PayloadOpsController × List PayloadOutput}

theorem not_busyRefusal_of_result (r : PayloadResultCode)
    (hr : call.1.lastResult = r) (h : r ≠ .rejectedBusy) :
    ¬ BusyRefusal cmdSeq cmd call :=
  fun hb => h (hr.symm.trans hb.1)

theorem not_busyRefusal_of_answers
    (h : ∀ r, .cmdResponse cmd.opCode cmdSeq r ∈ call.2 → r = .ok) :
    ¬ BusyRefusal cmdSeq cmd call := by
  rintro ⟨-, r, hne, hmem⟩
  exact hne (h r hmem)

theorem not_busyRefusal_beginPrepareReady (hid : c.work.Idle) (o : UInt32) (r : PayloadReadyKind) :
    ¬ BusyRefusal cmdSeq cmd (c.beginPrepareReady o cmdSeq around r) := by
  unfold beginPrepareReady
  split_ifs with hc hm hw hs hr
  · exact not_busyRefusal_reject (by decide)
  · exact not_busyRefusal_reject (by decide)
  · exact absurd ((payloadWorkInProgress_of_idle hid).symm.trans hw) (by decide)
  · exact not_busyRefusal_of_result .ok rfl (by decide)
  · exact not_busyRefusal_reject (by decide)
  · dsimp only
    cases c.manager.beginPrepare r (c.profiles.prepareSettingsForReady r) with
    | none => exact not_busyRefusal_reject (by decide)
    | some => exact not_busyRefusal_of_result .none rfl (by decide)

theorem not_busyRefusal_beginCapture (hid : c.work.Idle) (o : UInt32) (n : UInt8)
    (q : PayloadCapturePolicy) (r : PayloadCameraSettings) (a : UInt32) :
    ¬ BusyRefusal cmdSeq cmd (c.beginCapture o cmdSeq around n q r a) := by
  unfold beginCapture
  dsimp only
  rw [payloadWorkInProgress_of_idle hid, if_neg Bool.false_ne_true]
  split
  · exact not_busyRefusal_reject (by decide)
  split
  · exact not_busyRefusal_reject (by decide)
  split
  · exact not_busyRefusal_reject (by decide)
  cases c.profiles.validateCaptureRequest q r a with
  | error => exact not_busyRefusal_rejectCode
  | ok =>
    cases c.manager.getPreparedSettings with
    | none => exact not_busyRefusal_reject (by decide)
    | some =>
      dsimp only
      split
      · exact not_busyRefusal_reject (by decide)
      · cases c.manager.beginCapture _ _ with
        | none => exact not_busyRefusal_reject (by decide)
        | some => exact not_busyRefusal_of_result .none rfl (by decide)

theorem not_busyRefusal_sensorRegister (hid : c.work.Idle) (o : UInt32) (v : Except UInt32 Unit) :
    ¬ BusyRefusal cmdSeq cmd (c.sensorRegister o cmdSeq around v) := by
  unfold sensorRegister readyForRawSensorSession
  rw [payloadWorkInProgress_of_idle hid, if_neg Bool.false_ne_true]
  split
  · exact not_busyRefusal_reject (by decide)
  cases v with
  | error => exact not_busyRefusal_reject (by decide)
  | ok =>
    dsimp only
    by_cases hs : (!currentModeAllowsPayloadOps around || decide (c.state ≠ .ready) ||
        decide (c.preparedReadyKind ≠ .rawSensor)) = true
    · rw [if_pos hs]
      exact not_busyRefusal_reject (by decide)
    · rw [if_neg hs]
      dsimp only
      split
      · exact not_busyRefusal_reject (by decide)
      split
      · refine not_busyRefusal_reject ?_
        split <;> decide
      · exact not_busyRefusal_of_result .ok rfl (by decide)

theorem not_busyRefusal_publishCapture (hid : c.work.Idle) (o : UInt32) (n : UInt8)
    (a : PayloadArtifactKind) :
    ¬ BusyRefusal cmdSeq cmd (c.publishCapture o cmdSeq around n a) := by
  unfold publishCapture
  rw [payloadWorkInProgress_of_idle hid, if_neg Bool.false_ne_true]
  split
  · exact not_busyRefusal_reject (by decide)
  split
  · exact not_busyRefusal_reject (by decide)
  cases c.loadCaptureManifest n with
  | error => exact not_busyRefusal_reject (by decide)
  | ok m =>
    dsimp only
    generalize (if c.state = .publishing then PayloadState.ready else c.state) = completionState
    have ho := startArtifactPublish_outcome around m a completionState c
    generalize c.startArtifactPublish around m a completionState = start at ho
    cases ho with
    | started => exact not_busyRefusal_of_result .none rfl (by decide)
    | notReady | noManifest | noSlice => exact not_busyRefusal_of_result .storageFailed rfl (by decide)

theorem not_busyRefusal_shutdownCmd (hid : c.work.Idle) (o : UInt32) :
    ¬ BusyRefusal cmdSeq cmd (c.shutdownCmd o cmdSeq) := by
  unfold shutdownCmd
  rw [payloadWorkInProgress_of_idle hid, show c.abortCommand.active = false from hid.abort,
    if_neg (by decide : ¬ (false || false) = true)]
  split
  · exact not_busyRefusal_reject (by decide)
  split
  · exact not_busyRefusal_of_result .ok rfl (by decide)
  cases c.manager.beginShutdown false with
  | none => exact not_busyRefusal_reject (by decide)
  | some => exact not_busyRefusal_of_answers (by simp)

theorem not_busyRefusal_abortCmd (hid : c.work.Idle) (o : UInt32) :
    ¬ BusyRefusal cmdSeq cmd (c.abortCmd o cmdSeq) := by
  have hp := hid.publishing
  rw [work_publishing, Option.map_eq_none_iff] at hp
  unfold abortCmd
  rw [show c.abortCommand.active = false from hid.abort, hp, show c.manager.busy = false from hid.busy,
    if_neg Bool.false_ne_true, if_neg (by decide : ¬ (none : Option PendingDataProductPublish).isSome = true),
    if_neg Bool.false_ne_true]
  split
  · exact not_busyRefusal_reject (by decide)
  split
  · exact not_busyRefusal_of_result .ok rfl (by decide)
  cases c.manager.beginShutdown true with
  | none => exact not_busyRefusal_reject (by decide)
  | some => exact not_busyRefusal_of_answers (by simp)

theorem state_of_busyRefusal_setDefaults (hid : c.work.Idle) (o : UInt32)
    (u : PayloadProfiles → Except UInt32 PayloadProfiles)
    (h : BusyRefusal cmdSeq cmd (c.setDefaults o cmdSeq u)) : c.state ≠ .off := by
  rintro hoff
  refine absurd h ?_
  unfold setDefaults
  rw [show c.manager.busy = false from hid.busy, hoff, if_neg (by decide : ¬ (false || decide (PayloadState.off ≠ .off)) = true)]
  split
  · exact not_busyRefusal_reject (by decide)
  cases u c.profiles with
  | error => exact not_busyRefusal_rejectCode
  | ok => exact not_busyRefusal_of_result .ok rfl (by decide)

/-- With nothing going on, a command is refused as busy only where it sets defaults outside
OFF. -/
theorem setsDefaults_of_busyRefusal (hid : c.work.Idle)
    (h : BusyRefusal cmdSeq cmd (c.command around cmdSeq cmd)) : cmd.setsDefaults = true ∧ c.state ≠ .off := by
  cases cmd with
  | setCameraDefaults | setAutoDefaults | setDeterministicDefaults =>
    exact ⟨rfl, state_of_busyRefusal_setDefaults hid _ _ h⟩
  | prepare | prepareRawSensor => exact absurd h (not_busyRefusal_beginPrepareReady hid _ _)
  | abort => exact absurd h (not_busyRefusal_abortCmd hid _)
  | shutdown => exact absurd h (not_busyRefusal_shutdownCmd hid _)
  | getStatus | getCapabilities | getLastCaptureMetadata =>
    exact absurd h (not_busyRefusal_of_answers (by simp [command]))
  | captureAuto | captureDeterministic | captureRaw => exact absurd h (not_busyRefusal_beginCapture hid _ _ _ _ _)
  | sensorRegRead | sensorRegWrite => exact absurd h (not_busyRefusal_sensorRegister hid _ _)
  | publishCapture => exact absurd h (not_busyRefusal_publishCapture hid _ _ _)

end Refusals

/-! ### Runs -/

/-- No camera operation is running, none has ended unpolled, and nothing is being published. -/
structure Quiet (c : PayloadOpsController) : Prop where
  worker : c.manager.worker = none
  completion : c.manager.completion = none
  publish : c.pendingDataProductPublish = none

theorem Quiet.resting (h : c.Quiet) (hinv : c.work.Inv) :
    c.work.manager.busy = false ∧ c.work.publishing = none := by
  constructor
  · rw [hinv.manager.busy, show c.work.manager.worker = none from h.worker,
      show c.work.manager.completion = none from h.completion]
    rfl
  · rw [work_publishing, h.publish]
    rfl

theorem Quiet.idle (h : c.Quiet) (hinv : c.work.Inv) (hu : c.work.Unstuck) : c.work.Idle := by
  obtain ⟨hbs, hpb⟩ := h.resting hinv
  refine ⟨hbs, ?_, ?_, hpb⟩
  · by_contra hac
    rcases hinv.active (by simpa using hac) with hb | hp
    · exact absurd (hbs.symm.trans hb) (by decide)
    · rw [hpb] at hp
      cases hp
  · by_contra hab
    exact absurd (hbs.symm.trans (hu (by simpa using hab))) (by decide)

theorem waiting_run (is : List PayloadInput) (hinv : c.work.Inv) :
    c.work.waiting + (is.map PayloadInput.received).sum =
      idsOf (answersOf (payloadOps.trace c is)) + (payloadOps.run c is).work.waiting := by
  induction is generalizing c with
  | nil => exact add_comm _ _
  | cons i _ ih =>
    have hstep := waiting_step hinv i
    have hr := ih (work_inv_step hinv i)
    rw [List.map_cons, List.sum_cons, ← add_assoc, hstep, add_assoc, hr, Machine.trace_cons, answersOf_append,
      idsOf_append, Machine.run_cons, add_assoc]

/-- Commands are answered at most once. A step leaves an abort waiting for nothing exactly when it
loses it, and in every run without such a step, whenever nothing is going on, every command has been
answered, none is pending, and no command is refused as busy but for the setting of defaults
outside OFF. -/
theorem payload_commands_answered (configured : Bool) (runtimeRoot : Bytes) (productId : UInt32)
    (sizes : DataProductSizes) (capabilities : PayloadCapabilities) (runtimeConfig : PayloadRuntimeConfig)
    (files : PayloadFiles) (inputs : List PayloadInput) :
    let start := configureRuntime configured runtimeRoot productId sizes capabilities runtimeConfig files
    let c := payloadOps.run start inputs
    let received := (inputs.map PayloadInput.received).sum
    let answered := idsOf (answersOf (payloadOps.trace start inputs))
    answered ≤ received ∧
    (c.work.Unstuck → ∀ i, (payloadOps.step c i).1.work.Unstuck ↔ ¬ c.AbortLost i) ∧
    (payloadOps.Admits (fun c i => ¬ c.AbortLost i) start inputs → c.Quiet →
      answered = received ∧ c.activeCommand.active = false ∧ c.abortCommand.active = false ∧
      ∀ around cmdSeq cmd, BusyRefusal cmdSeq cmd (c.command around cmdSeq cmd) →
        cmd.setsDefaults = true ∧ c.state ≠ .off) := by
  intro start c received answered
  have hstart : start.work.Inv := work_inv_configureRuntime ..
  have hinv : c.work.Inv := work_inv_run hstart inputs
  have haccount : received = answered + c.work.waiting := (zero_add received).symm.trans (waiting_run inputs hstart)
  refine ⟨?_, fun hunstuck i => unstuck_step_iff hinv hunstuck i, fun hadmits hquiet => ?_⟩
  · rw [haccount]
    exact Multiset.le_add_right answered _
  · have hunstuck : c.work.Inv ∧ c.work.Unstuck :=
      payloadOps.run_invariant_of_admits (I := fun c => c.work.Inv ∧ c.work.Unstuck)
        (fun c i hkept h => ⟨work_inv_step h.1 i, (unstuck_step_iff h.1 h.2 i).mpr hkept⟩) start
        ⟨hstart, fun h => absurd (show false = true from h) (by decide)⟩ inputs hadmits
    have hidle := hquiet.idle hinv hunstuck.2
    refine ⟨?_, hidle.active, hidle.abort, fun around cmdSeq cmd h => setsDefaults_of_busyRefusal hidle h⟩
    rw [haccount, hidle.waiting, add_zero]

/-! A capture that ends well, with an abort before its report is polled. -/

def benchAround : PayloadSurroundings where
  mode := .payload
  bootCount := 1
  time := ⟨1000, 0⟩
  portsConnected := true
  readable := true
  bufferAvailable := true
  serialized := true
  manifestWrite := fun _ => .shorter
  register := .ok
  registerDetail := 0

def benchWorker : WorkerAnswers where
  available := true
  powerOn := .ok
  settleCancelled := false
  prepare := .ok
  prepareDetail := 0
  capture := .done {} {} [] [] [1, 2, 3] [0xFF, 0xD8, 0xFF, 0xD9]
  failureCancelled := false
  shutdown := .ok
  shutdownDetail := 0
  powerOff := .ok

def benchController : PayloadOpsController := configureRuntime true (ascii "/obc") 7 {} {} {} {}

def benchPrepare : List PayloadInput :=
  [.command 1 .prepare benchAround, .workerFinishes benchWorker, .schedIn benchAround]

theorem payload_commands_answered_prepare :
    idsOf (answersOf (payloadOps.trace benchController benchPrepare)) = {(1, 1)} ∧
      (payloadOps.run benchController benchPrepare).abortCommand.active = false := by
  have h := (payload_commands_answered true (ascii "/obc") 7 {} {} {} {} benchPrepare).2.2
    ⟨id, id, fun hlost => absurd hlost.1 (by decide +kernel), trivial⟩
    ⟨by decide +kernel, by decide +kernel, by decide +kernel⟩
  exact ⟨h.1.trans (by decide +kernel), h.2.2.1⟩

/-- A capture succeeds, and the abort arrives before its report is polled. -/
def benchLateAbort : List PayloadInput :=
  benchPrepare ++
    [.command 2 (.captureDeterministic 5 0 10000 100) benchAround, .workerFinishes benchWorker,
      .command 3 .abort benchAround, .schedIn benchAround,
      .dpWritten (ascii "/obc/data-products/Dp_00000007_00001000_00000000.fdp"), .schedIn benchAround]

/-- The preview is published and nothing is going on any more, but the abort is still pending and
the next command is refused as busy. -/
theorem late_abort_never_answered :
    (payloadOps.run benchController benchLateAbort).Quiet ∧
      (payloadOps.run benchController benchLateAbort).abortCommand.active = true ∧
      idsOf (answersOf (payloadOps.trace benchController benchLateAbort)) = {(1, 1), (0x0A, 2)} ∧
      (benchLateAbort.map PayloadInput.received).sum = {(1, 1), (0x0A, 2), (3, 3)} ∧
      BusyRefusal 4 .shutdown ((payloadOps.run benchController benchLateAbort).command benchAround 4 .shutdown) := by
  refine ⟨⟨by decide +kernel, by decide +kernel, by decide +kernel⟩, by decide +kernel, by decide +kernel,
    by decide +kernel, by decide +kernel, .validationError, by decide, ?_⟩
  rw [← mem_answersOf]
  decide +kernel

end PayloadOpsController

end ObcFlight
