import ObcFlight.SequenceSteps

/-!
# Statuses of internal commands and callbacks of the sequencers

While an operation is in flight a restore is only noted down, so that what a status or a callback
does falls apart: it changes entries of the table without giving a slot away, it notes a restore
down, and a status that ends the operation begins the first restore that is due.
-/

namespace ObcFlight

namespace SequenceAdmissionController

variable (c : SequenceAdmissionController)

/-! ### Restores under an operation -/

def deferRestore (sequencer : Sequencer) : SequenceAdmissionController :=
  { c with
    pendingAutoRestore := Function.update c.pendingAutoRestore sequencer
      (c.pendingAutoRestore sequencer || c.sequencerManualMode sequencer) }

theorem requestSequencerAutoRestore_of_active (hac : c.internalOp.active = true) (s : Sequencer) :
    c.requestSequencerAutoRestore s = (c.deferRestore s, []) := by
  rcases c.requestSequencerAutoRestore_cases s with ⟨hm, h⟩ | ⟨hm, -, h⟩ | ⟨-, hid, -⟩
  · rw [h, deferRestore, hm, Bool.or_false, Function.update_eq_self]
  · rw [h, deferRestore, hm, Bool.or_true]
  · rw [hac] at hid
    cases hid

theorem thenRestore_of_active (hac : c.internalOp.active = true) (s : Sequencer)
    (o : List SequenceOutput) :
    c.thenRestore s o = (c.deferRestore s, o) := by
  unfold thenRestore
  rw [c.requestSequencerAutoRestore_of_active hac]
  exact Prod.ext rfl (List.append_nil _)

def owedStatus (op : InternalOp) (response : CmdResponse) : List SequenceOutput :=
  if op.publishStatus then publishControlStatus op response else []

variable (op : InternalOp)

theorem closeOperation_cases (r : CmdResponse) :
    ((∀ q, c.pendingAutoRestore q = true → c.sequencerManualMode q = false) ∧
      c.closeOperation op r = ({ c with internalOp := {} }, owedStatus op r)) ∨
    ∃ q p, c.pendingAutoRestore q = true ∧ c.sequencerManualMode q = true ∧
      c.closeOperation op r =
        ({ c with
            pendingAutoRestore := Function.update c.pendingAutoRestore q false
            internalOp := restoreOp q }, owedStatus op r ++ [.internalCmdOut p]) := by
  unfold closeOperation processPendingAutoRestore
  simp only [Bool.false_eq_true, if_false]
  cases hdue : (List.finRange 2).find? fun q => c.pendingAutoRestore q && c.sequencerManualMode q with
  | none =>
    refine .inl ⟨fun q hp => ?_, Prod.ext rfl (List.append_nil _)⟩
    have hq := List.find?_eq_none.mp hdue q (List.mem_finRange q)
    simpa [hp] using hq
  | some q =>
    have hq := List.find?_some hdue
    rw [Bool.and_eq_true] at hq
    refine .inr ⟨q, ?_⟩
    rcases requestSequencerAutoRestore_cases { c with internalOp := {} } q with
      ⟨hm, -⟩ | ⟨-, hac, -⟩ | ⟨-, -, p, h⟩
    · exact absurd (hm.symm.trans hq.2) (by simp)
    · cases hac
    · exact ⟨p, hq.1, hq.2, by dsimp only; rw [h]; rfl⟩

@[simp] theorem closeOperation_nextContextId (r : CmdResponse) :
    (c.closeOperation op r).1.nextContextId = c.nextContextId := by
  rcases c.closeOperation_cases op r with ⟨-, h⟩ | ⟨q, p, -, -, h⟩ <;> rw [h]

/-! ### Entries that stay the same context -/

def SameContext (a b : ContextEntry) : Prop :=
  ∃ state sequencer flag, b = { a with state, sequencer, manualModeContext := flag }

theorem SameContext.refl (a : ContextEntry) : SameContext a a := ⟨_, _, _, rfl⟩

theorem SameContext.trans {a b d : ContextEntry} (h : SameContext a b) (h' : SameContext b d) :
    SameContext a d := by
  obtain ⟨_, _, _, rfl⟩ := h
  obtain ⟨_, _, _, rfl⟩ := h'
  exact ⟨_, _, _, rfl⟩

theorem sameContext_setContext {index : ContextIndex} {e : ContextEntry}
    (h : SameContext (c.contexts index) e) (i : ContextIndex) :
    SameContext (c.contexts i) ((c.setContext index e).contexts i) := by
  by_cases hi : i = index
  · subst hi
    rwa [setContext_self]
  · rw [setContext_of_ne _ hi]
    exact .refl _

variable (index : ContextIndex) (v : SequenceContextState) (s : Option Sequencer)

variable (i : ContextIndex)

theorem sameContext_updateContextState
    :
    SameContext (c.contexts i) ((c.updateContextState index v s).1.contexts i) :=
  c.sameContext_setContext ⟨_, _, _, rfl⟩ i

theorem sameContext_clearManualModeContext (index i : ContextIndex) :
    SameContext (c.contexts i) ((c.clearManualModeContext index).contexts i) :=
  c.sameContext_setContext ⟨_, _, _, rfl⟩ i

theorem setContext_setContext (e other : ContextEntry) :
    (c.setContext index e).setContext index other = c.setContext index other :=
  congrArg (fun contexts => { c with contexts }) (Function.update_idem ..)

theorem clearManualModeContext_setContext (e : ContextEntry) :
    (c.setContext index e).clearManualModeContext index =
      c.setContext index { e with manualModeContext := false } := by
  unfold clearManualModeContext
  rw [setContext_self, setContext_setContext]

theorem updateContextState_state
    : ((c.updateContextState index v s).1.contexts i).state =
      if i = index then v else (c.contexts i).state := by
  unfold updateContextState
  by_cases hi : i = index
  · subst hi
    rw [setContext_self, if_pos rfl]
  · rw [setContext_of_ne _ hi, if_neg hi]

@[simp] theorem clearManualModeContext_state (index i : ContextIndex) :
    ((c.clearManualModeContext index).contexts i).state = (c.contexts i).state := by
  unfold clearManualModeContext
  by_cases hi : i = index
  · subst hi
    rw [setContext_self]
  · rw [setContext_of_ne _ hi]

/-! ### What a status does before it ends the operation -/

/-- The table, the modes and the due restores may change; nothing but context changes is put out. -/
structure Settles (settled : SequenceAdmissionController × List SequenceOutput) : Prop where
  internalOp : settled.1.internalOp = c.internalOp
  nextContextId : settled.1.nextContextId = c.nextContextId
  admittedRoot : settled.1.admittedRoot = c.admittedRoot
  same : ∀ i, SameContext (c.contexts i) (settled.1.contexts i)
  reports : ∀ o ∈ settled.2, ∃ index id state, o = .contextUpdated index id state

theorem Settles.refl : Settles c (c, []) := ⟨rfl, rfl, rfl, fun _ => .refl _, by simp⟩

theorem settles_updateContextState : Settles c (c.updateContextState index v s) where
  internalOp := rfl
  nextContextId := rfl
  admittedRoot := rfl
  same := c.sameContext_updateContextState index v s
  reports := by simp [updateContextState]

variable {c} {settled : SequenceAdmissionController × List SequenceOutput}

theorem Settles.clear (h : Settles c settled) (index : ContextIndex) :
    Settles c (settled.1.clearManualModeContext index, settled.2) :=
  ⟨h.1, h.2, h.3, fun i => (h.4 i).trans (settled.1.sameContext_clearManualModeContext index i), h.5⟩

theorem Settles.restore (h : Settles c settled) (hac : c.internalOp.active = true)
    (s : Sequencer) : Settles c (settled.1.thenRestore s settled.2) := by
  rw [thenRestore_of_active _ (by rw [h.1]; exact hac)]
  exact ⟨h.1, h.2, h.3, h.4, h.5⟩

theorem settles_failOperation (hac : c.internalOp.active = true) (op : InternalOp) :
    Settles c (c.failOperation op) := by
  unfold failOperation
  have hf : Settles c (if op.publishStatus && (c.contexts op.contextIndex).used then
      c.updateContextState op.contextIndex .failed
        (op.targetSequencer <|> (c.contexts op.contextIndex).sequencer) else (c, [])) := by
    split_ifs
    · exact c.settles_updateContextState _ _ _
    · exact .refl c
  generalize (if op.publishStatus && (c.contexts op.contextIndex).used then
      c.updateContextState op.contextIndex .failed
        (op.targetSequencer <|> (c.contexts op.contextIndex).sequencer) else (c, [])) = failed at hf
  cases op.targetSequencer with
  | none => exact hf
  | some t =>
    dsimp only
    have hc : Settles c
        ((if (failed.1.contexts op.contextIndex).used then failed.1.clearManualModeContext op.contextIndex
          else failed.1), failed.2) := by
      split_ifs
      · exact hf.clear _
      · exact hf
    by_cases hm : (!failed.1.sequencerManualMode t) = true
    · rwa [if_pos hm]
    · rw [if_neg hm]
      cases op.kind with
      | none | dispatchRun | setManual => exact hf
      | loadManual | cancel => exact hc.restore hac t
      | setAuto => exact hf.restore hac t
      | start | step =>
        dsimp only
        split
        · exact hc.restore hac t
        · exact hf

theorem settles_succeedOperation (hac : c.internalOp.active = true) (op : InternalOp) :
    Settles c (c.succeedOperation op) := by
  unfold succeedOperation
  cases op.kind with
  | none | dispatchRun | setManual | step => exact .refl c
  | loadManual | start => exact c.settles_updateContextState _ _ _
  | setAuto =>
    cases op.targetSequencer with
    | none => exact .refl c
    | some => exact ⟨rfl, rfl, rfl, fun _ => .refl _, by simp⟩
  | cancel =>
    have hc := c.settles_updateContextState op.contextIndex .canceled op.targetSequencer
    cases ht : op.targetSequencer with
    | none =>
      rw [ht] at hc
      exact hc.clear _
    | some t =>
      rw [ht] at hc
      dsimp only
      split_ifs
      · exact (hc.clear _).restore hac t
      · exact hc

variable (c)

/-- The controller once a sequencer is in manual mode and the file of the operation is loaded. -/
def loading (target : Option Sequencer) : SequenceAdmissionController :=
  { c with
    sequencerManualMode := target.elim c.sequencerManualMode
      fun sequencer => Function.update c.sequencerManualMode sequencer true
    internalOp := { c.internalOp with kind := .loadManual } }

theorem manualModeSet_of_used {op : InternalOp} (hu : (c.contexts op.contextIndex).used = true)
    (hpt : (c.contexts op.contextIndex).admittedCommandPath.length < cmdStringSize) :
    ∃ p, c.manualModeSet op = (c.loading op.targetSequencer, [.internalCmdOut p]) := by
  obtain ⟨p, hp⟩ := (c.loading op.targetSequencer).buildAndSendInternalCommand_isSome
    op.targetSequencer (show InternalOpKind.loadManual ≠ .none from nofun) hu hpt
  refine ⟨p, ?_⟩
  unfold manualModeSet
  unfold loading at hp ⊢
  cases ht : op.targetSequencer with
  | none | some =>
    rw [ht] at hp
    dsimp only [Option.elim] at hp ⊢
    rw [hp]

@[simp] theorem manualModeSet_contexts : (c.manualModeSet op).1.contexts = c.contexts := by
  unfold manualModeSet
  cases op.targetSequencer with
  | none | some =>
    dsimp only
    split <;> simp

/-! ### The states of the contexts -/

theorem failOperation_state :
    ((c.failOperation op).1.contexts i).state =
      if i = op.contextIndex ∧ op.publishStatus = true ∧ (c.contexts op.contextIndex).used = true then .failed
      else (c.contexts i).state := by
  have hf : ((if op.publishStatus && (c.contexts op.contextIndex).used then
      c.updateContextState op.contextIndex .failed
        (op.targetSequencer <|> (c.contexts op.contextIndex).sequencer) else (c, [])).1.contexts i).state =
      if i = op.contextIndex ∧ op.publishStatus = true ∧ (c.contexts op.contextIndex).used = true then .failed
      else (c.contexts i).state := by
    by_cases ho : op.publishStatus = true ∧ (c.contexts op.contextIndex).used = true
    · rw [if_pos (by simpa using ho), updateContextState_state]
      simp only [ho, and_self, and_true]
    · rw [if_neg (by simpa using ho), if_neg (fun h => ho h.2)]
  unfold failOperation
  generalize (if op.publishStatus && (c.contexts op.contextIndex).used then
      c.updateContextState op.contextIndex .failed
        (op.targetSequencer <|> (c.contexts op.contextIndex).sequencer) else (c, [])) = failed at hf
  rw [← hf]
  cases op.targetSequencer with
  | none => rfl
  | some t =>
    dsimp only
    by_cases hm : (!failed.1.sequencerManualMode t) = true
    · rw [if_pos hm]
    · rw [if_neg hm]
      cases op.kind with
      | none | dispatchRun | setManual => rfl
      | setAuto => exact congrArg (fun n => (n i).state) (failed.1.thenRestore_contexts ..)
      | loadManual | cancel | start | step =>
        dsimp only
        split_ifs <;> simp

/-- The state into which a command that succeeded brings its context. -/
def succeededState (kind : InternalOpKind) (state : SequenceContextState) : SequenceContextState :=
  match kind with
  | .loadManual => .manualPrepared
  | .start => .running
  | .cancel => .canceled
  | _ => state

theorem succeedOperation_state :
    ((c.succeedOperation op).1.contexts i).state =
      if i = op.contextIndex then succeededState op.kind (c.contexts i).state
      else (c.contexts i).state := by
  unfold succeedOperation
  cases op.kind with
  | none | dispatchRun | setManual | step => exact (ite_self _).symm
  | loadManual | start => exact c.updateContextState_state ..
  | setAuto =>
    cases op.targetSequencer with
    | none | some => exact (ite_self _).symm
  | cancel =>
    cases op.targetSequencer with
    | none =>
      rw [clearManualModeContext_state]
      exact c.updateContextState_state ..
    | some t =>
      refine Eq.trans ?_ (c.updateContextState_state op.contextIndex .canceled (some t) i)
      dsimp only
      split <;> simp

theorem seqDoneIn_state {port : Sequencer} {index : ContextIndex} (hdn : c.doneContext port = some index)
    (r : CmdResponse) (i : ContextIndex) :
    ((c.seqDoneIn port r).1.contexts i).state =
      if i = index then (if r = .ok then .succeeded else .failed) else (c.contexts i).state := by
  unfold seqDoneIn
  rw [hdn]
  dsimp only
  rw [← c.updateContextState_state index _ (some port) i]
  split_ifs <;> simp

end SequenceAdmissionController

end ObcFlight
