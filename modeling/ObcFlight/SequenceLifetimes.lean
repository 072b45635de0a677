import ObcFlight.SequenceStatuses

/-!
# Finished sequence contexts

A context is finished once its run has succeeded, failed or been canceled. Three writers move the
states of contexts: the statuses of internal commands, the start callbacks and the done callbacks.
A done callback looks for a context that is under way, and a request to start, step or cancel is
refused for a finished one; a start callback and the success of a load or a start look at nothing.
-/

namespace ObcFlight

namespace SequenceAdmissionController

variable (format : SequenceFileFormat) (c : SequenceAdmissionController)

def Reassigned (i : ContextIndex) (input : SequenceInput) : Prop :=
  (c.step format input).1.nextContextId ≠ c.nextContextId ∧ c.allocateContextSlot.1 = some i

/-- Neither a start callback nor the success of a load or a start finds a finished context. -/
def NoRevival : SequenceInput → Prop
  | .controlIn _ _ => True
  | .internalCmdStatusIn response =>
    response = .ok → c.internalOp.active = true →
      c.internalOp.kind = .loadManual ∨ c.internalOp.kind = .start →
        isTerminalState (c.contexts c.internalOp.contextIndex).state = false
  | .seqStartIn _ filename =>
    ∀ i, c.findContextByAdmittedPath filename = some i → isTerminalState (c.contexts i).state = false
  | .seqDoneIn _ _ => True

/-! ### One step -/

theorem contexts_of_requested {format : SequenceFileFormat} {d : AdmissionReads}
    {r : SequenceControlRequest} {q : SequenceControlResult} {c' : SequenceAdmissionController}
    {o : List SequenceOutput} (h : Requested c format d r q c' o) (i : ContextIndex) :
    c'.contexts i = c.contexts i ∨ c'.nextContextId ≠ c.nextContextId ∧ c.allocateContextSlot.1 = some i := by
  have he (id : ContextIndex) (e : ContextEntry) (hs : c.allocateContextSlot.1 = some id) :
      (c.entered id e).contexts i = c.contexts i ∨
        c.nextContextId + 1 ≠ c.nextContextId ∧ c.allocateContextSlot.1 = some i := by
    by_cases hi : i = id
    · exact .inr ⟨by simp, hi ▸ hs⟩
    · exact .inl (c.setContext_of_ne hi e)
  cases h with
  | settled | commanded => exact .inl rfl
  | dropped _ _ id _ _ _ _ _ _ hs => exact he id {} hs
  | begun _ _ e id _ _ _ _ _ _ hc => exact he id e hc.slot

theorem finalizeInternalOperation_state (r : CmdResponse) (i : ContextIndex)
    (hac : c.internalOp.active = true) :
    ((c.finalizeInternalOperation r).1.contexts i).state =
      if r = .ok then
        if i = c.internalOp.contextIndex then succeededState c.internalOp.kind (c.contexts i).state
        else (c.contexts i).state
      else ((c.failOperation c.internalOp).1.contexts i).state := by
  unfold finalizeInternalOperation
  rw [if_neg (by simp [hac])]
  by_cases hok : r = .ok
  · by_cases hk : c.internalOp.kind = .setManual
    · rw [if_pos ⟨hok, hk⟩, if_pos hok, hk]
      rw [manualModeSet_contexts]
      exact (ite_self _).symm
    · rw [if_neg (fun h => hk h.2), if_pos hok, if_pos hok]
      dsimp only
      rw [closeOperation_contexts, succeedOperation_state]
  · rw [if_neg (fun h => hok h.1), if_neg hok, if_neg hok]
    dsimp only
    rw [closeOperation_contexts]

theorem isTerminalState_succeededState {kind : InternalOpKind} {s : SequenceContextState}
    (hk : ¬(kind = .loadManual ∨ kind = .start)) (hs : isTerminalState s = true) :
    isTerminalState (succeededState kind s) = true := by
  cases kind with
  | loadManual | start => simp at hk
  | cancel => rfl
  | none | dispatchRun | setManual | setAuto | step => exact hs

theorem seqStartIn_state {f : Bytes} {id : ContextIndex}
    (hf : c.findContextByAdmittedPath f = some id) (port : Sequencer) (i : ContextIndex) :
    ((c.seqStartIn port f).1.contexts i).state =
      if i = id then .running else (c.contexts i).state := by
  unfold seqStartIn
  rw [hf]
  exact c.updateContextState_state ..

variable {input : SequenceInput}

theorem isTerminalState_step (hin : c.NoRevival input) {i : ContextIndex}
    (hi : isTerminalState (c.contexts i).state = true) (hsl : ¬c.Reassigned format i input) :
    isTerminalState ((c.step format input).1.contexts i).state = true := by
  cases input with
  | controlIn request reads =>
    rcases c.contexts_of_requested (c.requested format reads request) i with hs | hg
    · exact (congrArg (fun x : ContextEntry => isTerminalState x.state) hs).trans hi
    · exact absurd hg hsl
  | internalCmdStatusIn response =>
    cases hac : c.internalOp.active with
    | false =>
      have hstep : c.step format (.internalCmdStatusIn response) = (c, []) := by
        simp [step, finalizeInternalOperation, hac]
      rwa [hstep]
    | true =>
      dsimp only [step]
      rw [c.finalizeInternalOperation_state response i hac]
      split_ifs with hok hid
      · refine isTerminalState_succeededState (fun hk => ?_) hi
        have hl := hin hok hac hk
        rw [← hid, hi] at hl
        cases hl
      · exact hi
      · rw [failOperation_state]
        split_ifs
        · rfl
        · exact hi
  | seqStartIn _ filename =>
    dsimp only [step]
    cases hf : c.findContextByAdmittedPath filename with
    | none =>
      rw [seqStartIn, hf]
      exact hi
    | some index =>
      have hne : i ≠ index := by
        rintro rfl
        exact absurd (hin i hf) (by simp [hi])
      rw [c.seqStartIn_state hf, if_neg hne]
      exact hi
  | seqDoneIn port =>
    dsimp only [step]
    cases hdn : c.doneContext port with
    | none =>
      rw [seqDoneIn, hdn]
      exact hi
    | some =>
      rw [c.seqDoneIn_state hdn]
      split_ifs
      · rfl
      · rfl
      · exact hi

theorem exists_revived (hin : ¬c.NoRevival input) :
    ∃ i, isTerminalState (c.contexts i).state = true ∧ ¬c.Reassigned format i input ∧
      isTerminalState ((c.step format input).1.contexts i).state = false := by
  cases input with
  | controlIn | seqDoneIn => exact absurd trivial hin
  | internalCmdStatusIn response =>
    simp only [NoRevival, Classical.not_imp, Bool.not_eq_false] at hin
    obtain ⟨hok, hac, hk, ht⟩ := hin
    have hset : c.internalOp.kind ≠ .setManual := by
      rcases hk with h | h <;> simp [h]
    refine ⟨c.internalOp.contextIndex, ht, fun hg => hg.1 ?_, ?_⟩
    · dsimp only [step]
      unfold finalizeInternalOperation
      rw [if_neg (by simp [hac]), if_neg (fun h => hset h.2), if_pos hok]
      dsimp only
      rw [closeOperation_nextContextId]
      exact (settles_succeedOperation hac c.internalOp).nextContextId
    · dsimp only [step]
      rw [c.finalizeInternalOperation_state response _ hac, if_pos hok, if_pos rfl]
      rcases hk with h | h <;> rw [h] <;> rfl
  | seqStartIn =>
    simp only [NoRevival, not_forall, Bool.not_eq_false, exists_prop] at hin
    obtain ⟨i, hf, ht⟩ := hin
    refine ⟨i, ht, fun hg => hg.1 ?_, ?_⟩
    · dsimp only [step]
      rw [seqStartIn, hf]
      rfl
    · dsimp only [step]
      rw [c.seqStartIn_state hf, if_pos rfl]
      rfl

/-! ### Runs -/

/-- At no point of the run does a context that has finished go on, unless its slot has been given to
a new context id in between. -/
def StaysFinished (inputs : List SequenceInput) : Prop :=
  ∀ before after rest i, inputs = before ++ after ++ rest →
    isTerminalState (((sequenceController format).run c before).contexts i).state = true →
    (sequenceController format).Admits (fun s input => ¬s.Reassigned format i input)
      ((sequenceController format).run c before) after →
    isTerminalState (((sequenceController format).run c (before ++ after)).contexts i).state = true

/-- A context whose sequencer has reported done keeps no sequencer busy, until its slot is given to a
new context id. -/
def DoneFrees (inputs : List SequenceInput) : Prop :=
  ∀ before port response after rest i, inputs = before ++ .seqDoneIn port response :: after ++ rest →
    ((sequenceController format).run c before).doneContext port = some i →
    (sequenceController format).Admits (fun s input => ¬s.Reassigned format i input)
      ((sequenceController format).run c before) (.seqDoneIn port response :: after) →
    ∀ q, keepsBusy (((sequenceController format).run c
      (before ++ .seqDoneIn port response :: after)).contexts i) q = false

variable {format c} {inputs : List SequenceInput}

theorem StaysFinished.tail (h : StaysFinished format c (input :: inputs)) :
    StaysFinished format (c.step format input).1 inputs := by
  intro b a rest i hin
  exact h (input :: b) a rest i (congrArg (input :: ·) hin)

theorem StaysFinished.head (h : StaysFinished format c (input :: inputs)) : c.NoRevival input := by
  by_contra hin
  obtain ⟨i, hi, hs, hr⟩ := c.exists_revived format hin
  have hk := h [] [input] inputs i rfl hi ⟨hs, trivial⟩
  exact absurd (hk.symm.trans hr) (by simp)

theorem staysFinished_iff (inputs : List SequenceInput) :
    StaysFinished format c inputs ↔ (sequenceController format).Admits NoRevival c inputs := by
  constructor
  · intro h
    induction inputs generalizing c with
    | nil => trivial
    | cons _ _ ih => exact ⟨h.head, ih h.tail⟩
  · intro h b a rest i hip hi hsl
    rw [hip] at h
    have haf := h.of_append.after
    rw [Machine.run_append]
    exact (sequenceController format).run_invariant_of_admits
      (I := fun s => isTerminalState (s.contexts i).state = true)
      (fun s _ hin hs => s.isTerminalState_step format hin.1 hs hin.2) _ hi a (haf.and _ hsl)

theorem keepsBusy_of_isTerminalState {e : ContextEntry} (h : isTerminalState e.state = true)
    (q : Sequencer) : keepsBusy e q = false := by
  unfold keepsBusy
  cases hs : e.state with
  | succeeded | failed | canceled => simp
  | _ => rw [hs] at h; cases h

theorem StaysFinished.doneFrees (h : StaysFinished format c inputs) :
    DoneFrees format c inputs := by
  intro b port r a rest i hin hdn hs q
  refine keepsBusy_of_isTerminalState ?_ q
  rw [List.append_cons]
  refine h (b ++ [.seqDoneIn port r]) a rest i (by rw [hin]; simp) ?_ ?_
  · rw [Machine.run_append]
    refine (congrArg isTerminalState (seqDoneIn_state _ hdn r i)).trans ?_
    rw [if_pos rfl]
    split_ifs <;> rfl
  · rw [Machine.run_append]
    exact hs.2

/-- Finished contexts stay finished in exactly the runs in which no start callback and no success of
a load or a start finds a finished context; in these, done callbacks free the sequencers. -/
theorem finished_kept_iff (format : SequenceFileFormat) (c : SequenceAdmissionController)
    (inputs : List SequenceInput) :
    (StaysFinished format c inputs ↔ (sequenceController format).Admits NoRevival c inputs) ∧
      ((sequenceController format).Admits NoRevival c inputs → DoneFrees format c inputs) :=
  ⟨staysFinished_iff inputs, fun h => ((staysFinished_iff inputs).mpr h).doneFrees⟩

/-! ### A start whose status comes after the done callback -/

def atBoot : SequenceAdmissionController := boot (ascii "/d") (ascii "/d/a") (ascii "a/") true

def emptySequence : Bytes := [0, 0, 0, 5, 0, 0, 0, 1, 255, 255, 255, 2, 0x11, 0x95, 0x04, 0xD2]

def unchanged (bytes : Bytes) : AdmissionReads :=
  { validTime := ⟨0, 0⟩, staged := .content bytes, copied := some bytes, reopened := true }

/-- The primary S-band link asks for a manual run of the staged file s. -/
def prepareManual : SequenceInput :=
  .controlIn
    { operation := .seqPrepareManual, linkIdentity := 1, linkRole := 1, fileName := ascii ".sequence-staging/s" }
    (unchanged emptySequence)

def startFirst : SequenceInput :=
  .controlIn { operation := .seqStart, linkIdentity := 1, linkRole := 1, contextId := 1 } (unchanged [])

/-- The first context is loaded, started and done before the status of its start arrives. -/
def doneBeforeStatus : List SequenceInput :=
  [prepareManual, .internalCmdStatusIn .ok, .internalCmdStatusIn .ok, startFirst,
    .seqStartIn 0 (ascii "a/ctx-1-s"), .seqDoneIn 0 .ok]

theorem start_status_revives_done :
    let done := (sequenceController defaultFormat).run atBoot doneBeforeStatus
    (done.contexts 0).state = .succeeded ∧
      (done.step defaultFormat (.internalCmdStatusIn .ok)).1.nextContextId = done.nextContextId ∧
      ((done.step defaultFormat (.internalCmdStatusIn .ok)).1.contexts 0).state = .running ∧
      keepsBusy ((done.step defaultFormat (.internalCmdStatusIn .ok)).1.contexts 0) 0 = true := by
  decide +kernel

end SequenceAdmissionController

end ObcFlight
