import ObcFlight.AdmittedFiles

/-!
# The answers that the sequence admission controller owes

A request that is not answered at once leaves a ticket with the operation that works for it. The
ticket is handed back in the status with which the operation ends, through however many internal
commands that takes; a restore has none. At most one internal command is in flight, and it belongs
to the operation.
-/

namespace ObcFlight

namespace SequenceAdmissionController

/-- Where the answer to a request goes. -/
structure Ticket where
  ingressPort : UInt32
  originalOpcode : UInt32
  originalCmdSeq : UInt32
  deriving DecidableEq

def ticketOf (request : SequenceControlRequest) : Ticket :=
  ⟨request.ingressPort, request.originalOpcode, request.originalCmdSeq⟩

def deferredTickets (request : SequenceControlRequest) (result : SequenceControlResult) : List Ticket :=
  if result.accepted && result.deferred then [ticketOf request] else []

def answeredTicket : SequenceOutput → Option Ticket
  | .controlStatusOut ingressPort originalOpcode originalCmdSeq _ =>
    some ⟨ingressPort, originalOpcode, originalCmdSeq⟩
  | _ => none

def isInternalCommand : SequenceOutput → Bool
  | .internalCmdOut _ => true
  | _ => false

variable (outputs : List SequenceOutput)

def answeredTickets : List Ticket := outputs.filterMap answeredTicket

def sentCommands : ℕ := outputs.countP isInternalCommand

variable (c : SequenceAdmissionController)

def owedTickets : List Ticket :=
  if c.internalOp.active && c.internalOp.publishStatus then
    [⟨c.internalOp.ingressPort, c.internalOp.originalOpcode, c.internalOp.originalCmdSeq⟩]
  else []

def commandsInFlight : ℕ := if c.internalOp.active then 1 else 0

/-- The operation in flight is a restore or works for a context in use, and the file names of all
contexts in use fit into a command. -/
structure Serving : Prop where
  path : ∀ i, (c.contexts i).used = true → (c.contexts i).admittedCommandPath.length < cmdStringSize
  idle : c.internalOp.active = false → c.internalOp = {}
  working : c.internalOp.active = true → (∃ q, c.internalOp = restoreOp q) ∨
    c.internalOp.publishStatus = true ∧ (c.contexts c.internalOp.contextIndex).used = true

theorem serving_boot (r d a : Bytes) (b : Bool) : (boot r d a b).Serving :=
  ⟨fun _ hi => (nomatch hi), fun _ => rfl, fun h => (nomatch h)⟩

/-! ### Outputs without tickets and commands -/

def Silent : Prop := answeredTickets outputs = [] ∧ sentCommands outputs = 0

@[simp] theorem answeredTickets_append (xs ys : List SequenceOutput) :
    answeredTickets (xs ++ ys) = answeredTickets xs ++ answeredTickets ys := List.filterMap_append

@[simp] theorem sentCommands_append (xs ys : List SequenceOutput) :
    sentCommands (xs ++ ys) = sentCommands xs + sentCommands ys := List.countP_append

variable {outputs : List SequenceOutput}

theorem silent_of_forall (h : ∀ o ∈ outputs, answeredTicket o = none ∧ isInternalCommand o = false) :
    Silent outputs :=
  ⟨List.filterMap_eq_nil_iff.mpr fun o ho => (h o ho).1,
    List.countP_eq_zero.mpr fun o ho => by simp [(h o ho).2]⟩

variable {c} {settled : SequenceAdmissionController × List SequenceOutput}

theorem Settles.silent (h : Settles c settled) : Silent settled.2 := by
  refine silent_of_forall fun o ho => ?_
  obtain ⟨_, _, _, rfl⟩ := h.reports o ho
  exact ⟨rfl, rfl⟩

theorem silent_of_touches {path : Bytes} (h : Touches path outputs) : Silent outputs := by
  refine silent_of_forall fun o ho => ?_
  rcases h o ho with rfl | ⟨_, rfl⟩ <;> exact ⟨rfl, rfl⟩

theorem silent_allocation {i : ContextIndex} (hs : c.allocateContextSlot.1 = some i) :
    Silent c.allocateContextSlot.2.2 := by
  refine silent_of_forall fun o ho => ?_
  obtain ⟨-, rfl⟩ := removed_by_allocation hs ho
  exact ⟨rfl, rfl⟩

/-! ### One step -/

/-- The tickets balance: what was owed and what is put off is answered or still owed; and so do the
internal commands. -/
structure Balanced (c c' : SequenceAdmissionController) (deferred : List Ticket) (answered : ℕ)
    (outputs : List SequenceOutput) : Prop where
  tickets : c.owedTickets ++ deferred = answeredTickets outputs ++ c'.owedTickets
  commands : c.commandsInFlight + sentCommands outputs = c'.commandsInFlight + answered

variable {c' : SequenceAdmissionController}

theorem balanced_of_silent (ho : Silent outputs) (hop : c'.internalOp = c.internalOp) :
    Balanced c c' [] 0 outputs := by
  refine ⟨?_, ?_⟩
  · rw [ho.1, owedTickets, owedTickets, hop, List.append_nil, List.nil_append]
  · rw [ho.2, commandsInFlight, commandsInFlight, hop]

theorem owedTickets_of_idle (hid : c.internalOp.active = false) : c.owedTickets = [] := by
  simp [owedTickets, hid]

theorem commandsInFlight_of_idle (hid : c.internalOp.active = false) : c.commandsInFlight = 0 := by
  simp [commandsInFlight, hid]

theorem commandsInFlight_of_active (hac : c.internalOp.active = true) : c.commandsInFlight = 1 := by
  simp [commandsInFlight, hac]

theorem owedTickets_restoreOp {q : Sequencer} (hop : c.internalOp = restoreOp q) : c.owedTickets = [] := by
  rw [owedTickets, hop]
  rfl

theorem Serving.operationFor_publishStatus (h : c.Serving) (hid : c.internalOp.active = false)
    (request : SequenceControlRequest) (kind : InternalOpKind) (i : ContextIndex) (t : Option Sequencer) :
    (c.operationFor request kind i t).publishStatus = true := by
  rw [operationFor, h.idle hid]

theorem Serving.balanced_begun (h : c.Serving) (hid : c.internalOp.active = false)
    (request : SequenceControlRequest) (kind : InternalOpKind) (i : ContextIndex)
    (t : Option Sequencer) (hop : c'.internalOp = c.operationFor request kind i t)
    (ho : Silent outputs) (p : Bytes) (n : UInt32) :
    Balanced c c' (deferredTickets request (deferredResult n)) 0 (outputs ++ [.internalCmdOut p]) := by
  have how : c'.owedTickets = [ticketOf request] := by
    rw [owedTickets, hop, h.operationFor_publishStatus hid]
    rfl
  refine ⟨?_, ?_⟩
  · rw [owedTickets_of_idle hid, how, answeredTickets_append, ho.1]
    rfl
  · rw [commandsInFlight_of_idle hid, commandsInFlight, hop, sentCommands_append, ho.2]
    rfl

variable {request : SequenceControlRequest}

theorem Beginning.commandPath {i : ContextIndex} {leaf : Bytes} {x : SequenceInspection}
    {kind : InternalOpKind} {t : Option Sequencer} {e : ContextEntry}
    (h : Beginning c request i leaf x kind t e) :
    e.admittedCommandPath = c.admittedCommandPathForContext c.nextContextId leaf := by
  cases h with
  | run | prepare => rfl

theorem Serving.requested (h : c.Serving) {f : SequenceFileFormat} {d : AdmissionReads}
    {r : SequenceControlResult} (hrq : Requested c f d request r c' outputs) :
    c'.Serving ∧ Balanced c c' (deferredTickets request r) 0 outputs := by
  have hp {i : ContextIndex} {x : ContextEntry}
      (hx : x.used = true → x.admittedCommandPath.length < cmdStringSize) (j : ContextIndex)
      (hj : ((c.setContext i x).contexts j).used = true) :
      ((c.setContext i x).contexts j).admittedCommandPath.length < cmdStringSize := by
    by_cases hji : j = i
    · subst hji
      rw [setContext_self] at hj ⊢
      exact hx hj
    · rw [setContext_of_ne c hji] at hj ⊢
      exact h.path j hj
  cases hrq with
  | settled _ op _ han hop =>
    have hsm : op = c.internalOp := hop.elim id fun hid => hid.2.trans (h.idle hid.1).symm
    rw [hsm, deferredTickets, if_neg (by rw [han]; simp)]
    exact ⟨⟨h.path, h.idle, h.working⟩, balanced_of_silent ⟨rfl, rfl⟩ rfl⟩
  | dropped _ _ _ _ _ _ han hid _ hs hot =>
    rw [deferredTickets, if_neg (by rw [han]; simp)]
    refine ⟨⟨hp (x := {}) (fun hu => nomatch hu), h.idle, fun hac => ?_⟩, balanced_of_silent ?_ rfl⟩
    · exact absurd (hid.symm.trans hac) (by simp)
    · have hr := silent_allocation hs
      have ht := silent_of_touches hot
      exact ⟨by rw [answeredTickets_append, hr.1, ht.1]; rfl,
        by rw [sentCommands_append, hr.2, ht.2]⟩
  | begun kind t e i leaf _ b p outputs hid hc hbg hot =>
    refine ⟨⟨hp fun _ => hbg.commandPath ▸ hc.short, fun hac => (nomatch hac), fun _ => .inr ⟨?_, ?_⟩⟩,
      h.balanced_begun hid request kind i t rfl ?_ p _⟩
    · exact h.operationFor_publishStatus hid request kind i t
    · exact (congrArg ContextEntry.used (c.setContext_self i e)).trans hbg.entry.1
    · have hr := silent_allocation hc.slot
      have hrp : Silent (.fileCopied (c.admittedPhysicalPathForContext c.nextContextId leaf) b :: outputs) := by
        refine silent_of_forall fun o ho => ?_
        rcases List.mem_cons.mp ho with rfl | ho
        · exact ⟨rfl, rfl⟩
        · obtain ⟨_, rfl⟩ := hot o ho
          exact ⟨rfl, rfl⟩
      exact ⟨by rw [answeredTickets_append, hr.1, hrp.1]; rfl,
        by rw [sentCommands_append, hr.2, hrp.2]⟩
  | commanded kind i q p hid _ hu =>
    refine ⟨⟨h.path, fun hac => (nomatch hac), fun _ => .inr ⟨?_, hu⟩⟩, ?_⟩
    · exact h.operationFor_publishStatus hid request kind i (some q)
    · exact h.balanced_begun hid request kind i (some q) rfl (show Silent [] from ⟨rfl, rfl⟩) p _

theorem Serving.path_of_same (h : c.Serving) (hs : ∀ i, SameContext (c.contexts i) (c'.contexts i))
    (i : ContextIndex) (hi : (c'.contexts i).used = true) :
    (c'.contexts i).admittedCommandPath.length < cmdStringSize := by
  obtain ⟨_, _, _, heq⟩ := hs i
  rw [heq] at hi ⊢
  exact h.path i hi

theorem Serving.working_of_same (h : c.Serving)
    (hs : ∀ i, SameContext (c.contexts i) (c'.contexts i)) (hop : c'.internalOp = c.internalOp) :
    c'.Serving := by
  refine ⟨h.path_of_same hs, hop ▸ h.idle, fun hac => ?_⟩
  rw [hop] at hac ⊢
  refine (h.working hac).imp_right (And.imp_right fun hu => ?_)
  obtain ⟨_, _, _, heq⟩ := hs c.internalOp.contextIndex
  rwa [heq]

theorem answeredTickets_owedStatus (hac : c.internalOp.active = true) (r : CmdResponse) :
    answeredTickets (owedStatus c.internalOp r) = c.owedTickets := by
  unfold owedStatus owedTickets
  rw [hac, Bool.true_and]
  split_ifs <;> rfl

theorem sentCommands_owedStatus (op : InternalOp) (r : CmdResponse) :
    sentCommands (owedStatus op r) = 0 := by
  unfold owedStatus
  split_ifs <;> rfl

theorem Serving.closed (h : c.Serving) (hac : c.internalOp.active = true)
    (hst : Settles c settled) (r : CmdResponse) :
    (settled.1.closeOperation c.internalOp r).1.Serving ∧
      Balanced c (settled.1.closeOperation c.internalOp r).1 [] c.commandsInFlight
        (settled.2 ++ (settled.1.closeOperation c.internalOp r).2) := by
  have hp := h.path_of_same hst.same
  have hs := hst.silent
  have ho := answeredTickets_owedStatus hac r
  rcases settled.1.closeOperation_cases c.internalOp r with ⟨-, heq⟩ | ⟨q, p, -, -, heq⟩
  · rw [heq]
    refine ⟨⟨hp, fun _ => rfl, fun hac => (nomatch hac)⟩, ?_, ?_⟩
    · rw [List.append_nil, answeredTickets_append, hs.1, ho]
      exact (List.append_nil _).symm
    · rw [sentCommands_append, hs.2, sentCommands_owedStatus]
      exact (Nat.zero_add _).symm
  · rw [heq]
    refine ⟨⟨hp, fun hid => (nomatch hid), fun _ => .inl ⟨q, rfl⟩⟩, ?_, ?_⟩
    · have hnone : SequenceAdmissionController.owedTickets { settled.1 with
          pendingAutoRestore := Function.update settled.1.pendingAutoRestore q false
          internalOp := restoreOp q } = [] := owedTickets_restoreOp rfl
      rw [hnone, List.append_nil, List.append_nil, answeredTickets_append, answeredTickets_append, hs.1, ho]
      exact (List.append_nil _).symm
    · rw [sentCommands_append, sentCommands_append, hs.2, sentCommands_owedStatus]
      exact Nat.add_comm _ 1

theorem Serving.finalize (h : c.Serving) (r : CmdResponse) :
    (c.finalizeInternalOperation r).1.Serving ∧
      Balanced c (c.finalizeInternalOperation r).1 [] c.commandsInFlight
        (c.finalizeInternalOperation r).2 := by
  by_cases hac : c.internalOp.active = true
  · unfold finalizeInternalOperation
    rw [if_neg (by simp [hac])]
    split
    next hset =>
      obtain ⟨hp, hu⟩ := (h.working hac).resolve_left fun ⟨q, hop⟩ => by
        rw [hop] at hset
        cases hset.2
      obtain ⟨p, heq⟩ := c.manualModeSet_of_used hu (h.path _ hu)
      rw [heq]
      refine ⟨⟨h.path, fun hid => absurd (hac.symm.trans hid) (by simp), fun _ => .inr ⟨hp, hu⟩⟩,
        ?_, ?_⟩
      · exact List.append_nil _
      · change c.commandsInFlight + 1 = c.commandsInFlight + c.commandsInFlight
        rw [commandsInFlight_of_active hac]
    · split_ifs
      · exact h.closed hac (settles_succeedOperation hac _) r
      · exact h.closed hac (settles_failOperation hac _) r
  · have hid : c.internalOp.active = false := by simpa using hac
    unfold finalizeInternalOperation
    rw [if_pos (by simp [hid]), commandsInFlight_of_idle hid]
    exact ⟨h, balanced_of_silent ⟨rfl, rfl⟩ rfl⟩

theorem Serving.started (h : c.Serving) (port : Sequencer) (f : Bytes) :
    (c.seqStartIn port f).1.Serving ∧
      Balanced c (c.seqStartIn port f).1 [] 0 (c.seqStartIn port f).2 := by
  unfold seqStartIn
  cases c.findContextByAdmittedPath f with
  | none => exact ⟨h, balanced_of_silent ⟨rfl, rfl⟩ rfl⟩
  | some i =>
    have hs := c.settles_updateContextState i .running (some port)
    exact ⟨h.working_of_same hs.same rfl, balanced_of_silent hs.silent rfl⟩

theorem Serving.restored (h : c.Serving) (hs : Settles c settled) (q : Sequencer) :
    (settled.1.thenRestore q settled.2).1.Serving ∧
      Balanced c (settled.1.thenRestore q settled.2).1 [] 0 (settled.1.thenRestore q settled.2).2 := by
  have hsr := h.working_of_same hs.same hs.internalOp
  unfold thenRestore
  rcases settled.1.requestSequencerAutoRestore_cases q with ⟨-, heq⟩ | ⟨-, -, heq⟩ | ⟨-, hid, p, heq⟩
  · rw [heq]
    dsimp only
    rw [List.append_nil]
    exact ⟨hsr, balanced_of_silent hs.silent hs.internalOp⟩
  · rw [heq]
    dsimp only
    rw [List.append_nil]
    exact ⟨⟨hsr.path, hsr.idle, hsr.working⟩, balanced_of_silent hs.silent hs.internalOp⟩
  · rw [heq]
    rw [hs.internalOp] at hid
    refine ⟨⟨hsr.path, fun hac => (nomatch hac), fun _ => .inl ⟨q, rfl⟩⟩, ?_, ?_⟩
    · rw [owedTickets_of_idle hid, answeredTickets_append, hs.silent.1]
      rfl
    · rw [commandsInFlight_of_idle hid, sentCommands_append, hs.silent.2]
      rfl

theorem Serving.done (h : c.Serving) (port : Sequencer) (r : CmdResponse) :
    (c.seqDoneIn port r).1.Serving ∧
      Balanced c (c.seqDoneIn port r).1 [] 0 (c.seqDoneIn port r).2 := by
  unfold seqDoneIn
  cases c.doneContext port with
  | none => exact ⟨h, balanced_of_silent ⟨rfl, rfl⟩ rfl⟩
  | some i =>
    generalize (if r = .ok then SequenceContextState.succeeded else .failed) = state
    have hs := c.settles_updateContextState i state (some port)
    dsimp only
    split_ifs
    · exact h.restored (hs.clear i) port
    · exact ⟨h.working_of_same hs.same rfl, balanced_of_silent hs.silent rfl⟩

/-- Requests are refused or only checked during an operation, and statuses and callbacks leave every
slot to its context. -/
theorem contexts_same_of_active (format : SequenceFileFormat) (hac : c.internalOp.active = true)
    (input : SequenceInput) (i : ContextIndex) :
    SameContext (c.contexts i) ((c.step format input).1.contexts i) := by
  cases input with
  | controlIn request reads =>
    have hr := c.requested format reads request
    change SameContext _ ((c.controlIn format reads request).2.1.contexts i)
    generalize c.controlIn format reads request = answer at hr ⊢
    obtain ⟨result, next, outputs⟩ := answer
    cases hr with
    | settled => exact .refl _
    | dropped _ _ _ _ _ _ _ hidle | begun _ _ _ _ _ _ _ _ _ hidle | commanded _ _ _ _ hidle =>
      exact absurd (hac.symm.trans hidle) (by simp)
  | internalCmdStatusIn response => exact (kept_finalizeInternalOperation c response).same i
  | seqStartIn port filename => exact (kept_seqStartIn c port filename).same i
  | seqDoneIn port response => exact (kept_seqDoneIn c port response).same i

/-- In every run the operation in flight restores a sequencer or owes a status to a context in use,
and until it has ended no step gives a slot to another context. Every internal command of a context
in use, and every restore, can be built. -/
theorem operation_never_dangling (format : SequenceFileFormat)
    (runtimeRoot admittedRoot admittedCommandPrefix : Bytes) (configured : Bool) (inputs : List SequenceInput) :
    let c := (sequenceController format).run
      (boot runtimeRoot admittedRoot admittedCommandPrefix configured) inputs
    (c.internalOp.active = false → c.internalOp = {}) ∧
      (c.internalOp.active = true →
        ((∃ q, c.internalOp = restoreOp q) ∨
          c.internalOp.publishStatus = true ∧ (c.contexts c.internalOp.contextIndex).used = true) ∧
        ∀ input i, SameContext (c.contexts i) (((sequenceController format).step c input).1.contexts i)) ∧
      ∀ i kind target, (c.contexts i).used = true ∧ kind ≠ .none ∨ kind = .setAuto →
        ∃ packet, c.buildAndSendInternalCommand kind i target = some packet := by
  intro c
  have hc : c.Serving := by
    refine (sequenceController format).run_invariant (fun s input h => ?_) _ (serving_boot _ _ _ _) inputs
    cases input with
    | controlIn request reads => exact (h.requested (s.requested format reads request)).1
    | internalCmdStatusIn response => exact (h.finalize response).1
    | seqStartIn port filename => exact (h.started port filename).1
    | seqDoneIn port response => exact (h.done port response).1
  refine ⟨hc.idle, fun hac => ⟨hc.working hac, contexts_same_of_active format hac⟩, ?_⟩
  rintro i kind target (⟨hu, hk⟩ | rfl)
  · exact c.buildAndSendInternalCommand_isSome target hk hu (hc.path i hu)
  · exact c.buildAndSendInternalCommand_setAuto i target

end SequenceAdmissionController

end ObcFlight
