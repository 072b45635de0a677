import ObcFlight.SequenceAdmission

/-!
# What the sequence admission controller's steps do

The lemmas by which the rest of the development sees the controller: an admission is refused
without a trace, dropped again, or leaves one new context in a slot that was free; a restore
touches no context; and the operation in flight is the empty one, a restore, or one that owes
its request a status.
-/

namespace ObcFlight

namespace SequenceAdmissionController

variable (c : SequenceAdmissionController)

@[simp] theorem setContext_self (index : ContextIndex) (context : ContextEntry) :
    (c.setContext index context).contexts index = context :=
  Function.update_self ..

variable {index : ContextIndex}

theorem setContext_of_ne {other : ContextIndex} (h : other ≠ index) (e : ContextEntry) :
    (c.setContext index e).contexts other = c.contexts other :=
  Function.update_of_ne h ..

/-! ### Restores -/

variable {kind : InternalOpKind}

theorem internalPacket_length (e : ContextEntry) (t : Option Sequencer) {p : Bytes}
    (h : internalPacket e t kind = some p) :
    p.length ≤ e.admittedCommandPath.length + 12 := by
  cases kind with
  | none => cases h
  | dispatchRun | loadManual =>
    obtain rfl := Option.some.inj h
    simp [serializeString]
    omega
  | setManual | setAuto | start | step | cancel =>
    obtain rfl := Option.some.inj h
    simp

theorem buildAndSendInternalCommand_isSome (t : Option Sequencer) (hk : kind ≠ .none)
    (hu : (c.contexts index).used = true)
    (hpt : (c.contexts index).admittedCommandPath.length < cmdStringSize) :
    ∃ packet, c.buildAndSendInternalCommand kind index t = some packet := by
  obtain ⟨packet, hp⟩ : ∃ packet, internalPacket (c.contexts index) t kind = some packet := by
    cases kind with
    | none => exact absurd rfl hk
    | _ => exact ⟨_, rfl⟩
  have hf : packet.length ≤ fwComBufferMaxSize := by
    have hl := internalPacket_length _ t hp
    simp only [cmdStringSize] at hpt
    simp only [fwComBufferMaxSize]
    omega
  refine ⟨packet, ?_⟩
  rw [buildAndSendInternalCommand, if_neg (by simp [hu]), hp, Option.filter_some]
  exact if_pos (decide_eq_true hf)

theorem buildAndSendInternalCommand_setAuto (index : ContextIndex) (t : Option Sequencer) :
    ∃ packet, c.buildAndSendInternalCommand .setAuto index t = some packet := by
  refine ⟨CmdPacket.serialize ⟨sequencerBaseForIndex t + 5, []⟩, ?_⟩
  rw [buildAndSendInternalCommand, if_neg (by simp)]
  rfl

def restoreOp (sequencer : Sequencer) : InternalOp :=
  { kind := .setAuto, active := true, publishStatus := false, targetSequencer := some sequencer }

variable (s : Sequencer)

theorem requestSequencerAutoRestore_cases :
    c.sequencerManualMode s = false ∧ c.requestSequencerAutoRestore s = (c, []) ∨
    c.sequencerManualMode s = true ∧ c.internalOp.active = true ∧
      c.requestSequencerAutoRestore s =
        ({ c with pendingAutoRestore := Function.update c.pendingAutoRestore s true }, []) ∨
    c.sequencerManualMode s = true ∧ c.internalOp.active = false ∧
      ∃ p, c.requestSequencerAutoRestore s =
        ({ c with
            pendingAutoRestore := Function.update c.pendingAutoRestore s false
            internalOp := restoreOp s }, [.internalCmdOut p]) := by
  unfold requestSequencerAutoRestore
  cases hm : c.sequencerManualMode s with
  | false => exact .inl ⟨rfl, rfl⟩
  | true =>
    cases hac : c.internalOp.active with
    | true => exact .inr (.inl ⟨rfl, rfl, rfl⟩)
    | false =>
      obtain ⟨p, hp⟩ := c.buildAndSendInternalCommand_setAuto 0 (some s)
      refine .inr (.inr ⟨rfl, rfl, p, ?_⟩)
      simp only [Bool.not_true, Bool.false_eq_true, if_false, hp]
      rfl

@[simp] theorem requestSequencerAutoRestore_contexts :
    (c.requestSequencerAutoRestore s).1.contexts = c.contexts := by
  rcases c.requestSequencerAutoRestore_cases s with ⟨-, h⟩ | ⟨-, -, h⟩ | ⟨-, -, p, h⟩ <;> rw [h]

@[simp] theorem thenRestore_contexts (o : List SequenceOutput) :
    (c.thenRestore s o).1.contexts = c.contexts :=
  c.requestSequencerAutoRestore_contexts s

@[simp] theorem processPendingAutoRestore_contexts :
    c.processPendingAutoRestore.1.contexts = c.contexts := by
  unfold processPendingAutoRestore
  split_ifs
  · rfl
  · split
    · rfl
    · exact requestSequencerAutoRestore_contexts ..

@[simp] theorem closeOperation_contexts (op : InternalOp) (r : CmdResponse) :
    (c.closeOperation op r).1.contexts = c.contexts :=
  processPendingAutoRestore_contexts _

/-! ### Admission -/

theorem allocateContextSlot_cases :
    (c.allocateContextSlot.1 = none ∧ c.allocateContextSlot.2 = (c, [])) ∨
    (∃ index, (c.contexts index).used = false ∧ c.allocateContextSlot = (some index, c, [])) ∨
    ∃ index, (c.contexts index).used = true ∧ isTerminalState (c.contexts index).state = true ∧
      c.allocateContextSlot = (some index, c.releaseContextResources index) := by
  unfold allocateContextSlot
  cases hfr : (List.finRange 8).find? fun index => !(c.contexts index).used with
  | some index =>
    have hu := List.find?_some hfr
    exact .inr (.inl ⟨index, by simpa using hu, rfl⟩)
  | none =>
    cases hdn : c.findContext fun x => isTerminalState x.state with
    | none => exact .inl ⟨rfl, rfl⟩
    | some index =>
      have hf := List.find?_some hdn
      simp only [Bool.and_eq_true] at hf
      exact .inr (.inr ⟨index, hf.1, hf.2, rfl⟩)

theorem terminal_of_slot (hs : c.allocateContextSlot.1 = some index)
    (hus : (c.contexts index).used = true) : isTerminalState (c.contexts index).state = true := by
  rcases c.allocateContextSlot_cases with ⟨hn, -⟩ | ⟨j, hu, heq⟩ | ⟨j, -, ht, heq⟩
  · exact absurd (hs.symm.trans hn) (by simp)
  · obtain rfl : j = index := Option.some.inj ((congrArg Prod.fst heq).symm.trans hs)
    exact absurd (hu.symm.trans hus) (by simp)
  · obtain rfl : j = index := Option.some.inj ((congrArg Prod.fst heq).symm.trans hs)
    exact ht

/-- The controller with an entry put into a slot by an admission. -/
def entered (index : ContextIndex) (context : ContextEntry) : SequenceAdmissionController :=
  { c.setContext index context with nextContextId := c.nextContextId + 1 }

variable {released : List SequenceOutput} {c' : SequenceAdmissionController}

theorem allocateContextSlot_setContext (h : c.allocateContextSlot = (some index, c', released))
    (context : ContextEntry) :
    { c'.setContext index context with nextContextId := c'.nextContextId + 1 } = c.entered index context := by
  rcases c.allocateContextSlot_cases with ⟨hn, -⟩ | ⟨o, -, hs⟩ | ⟨o, -, -, hs⟩
  · rw [h] at hn
    cases hn
  · rw [h] at hs
    cases hs
    rfl
  · rw [h] at hs
    cases hs
    exact congrArg (fun contexts => { c with contexts, nextContextId := c.nextContextId + 1 })
      (Function.update_idem ..)

def Touches (path : Bytes) (outputs : List SequenceOutput) : Prop :=
  ∀ o ∈ outputs, o = .fileRemoved path ∨ ∃ bytes, o = .fileCopied path bytes

/-- A staged file that may be admitted, and the slot and the copy it gets. -/
structure Copies (format : SequenceFileFormat) (reads : AdmissionReads)
    (request : SequenceControlRequest) (index : ContextIndex) (leaf : Bytes)
    (inspection : SequenceInspection) (bytes : Bytes) : Prop where
  staged : c.inspectStaged format reads request = .ok (leaf, inspection)
  slot : c.allocateContextSlot.1 = some index
  short : (c.admittedCommandPathForContext c.nextContextId leaf).length < cmdStringSize
  copied : reads.copied = some bytes
  inspected : ∃ second, SequenceFileInspector.inspect format reads.validTime (.content bytes) = .ok second ∧
    second.crc = inspection.crc

/-- The outcomes of an admission. -/
inductive Admission (format : SequenceFileFormat) (reads : AdmissionReads)
    (request : SequenceControlRequest) :
    Except SequenceControlRejectReason ContextIndex → SequenceAdmissionController →
      List SequenceOutput → Prop
  | refused (reason) : Admission format reads request (.error reason) c []
  | dropped (reason index leaf inspection outputs)
      (hstaged : c.inspectStaged format reads request = .ok (leaf, inspection))
      (hslot : c.allocateContextSlot.1 = some index)
      (houtputs : Touches (c.admittedPhysicalPathForContext c.nextContextId leaf) outputs) :
      Admission format reads request (.error reason) (c.entered index {})
        (c.allocateContextSlot.2.2 ++ outputs)
  | admitted (index leaf inspection bytes)
      (hcopies : c.Copies format reads request index leaf inspection bytes) :
      Admission format reads request (.ok index)
        (c.entered index (c.newContext request leaf inspection))
        (c.allocateContextSlot.2.2 ++
          [.fileCopied (c.admittedPhysicalPathForContext c.nextContextId leaf) bytes,
            .contextUpdated index c.nextContextId .admitted])

theorem allocateContextSlot_newContext {slot : Option ContextIndex}
    (h : c.allocateContextSlot = (slot, c', released)) : c'.newContext = c.newContext := by
  rcases c.allocateContextSlot_cases with ⟨-, hs⟩ | ⟨_, -, hs⟩ | ⟨_, -, -, hs⟩ <;>
  · rw [h] at hs
    cases hs
    rfl

theorem entered_releaseContextResources (index : ContextIndex) (e : ContextEntry) :
    (c.entered index e).releaseContextResources index =
      (c.entered index {}, removeFileIfPresent e.admittedPhysicalPath) := by
  refine Prod.ext ?_ ?_
  · exact congrArg (fun contexts => { c with contexts, nextContextId := c.nextContextId + 1 })
      (Function.update_idem ..)
  · simp [releaseContextResources, entered]

theorem entered_updateContextState (index : ContextIndex) (request : SequenceControlRequest)
    (leaf : Bytes) (inspection : SequenceInspection) :
    (c.entered index (c.newContext request leaf inspection)).updateContextState index .admitted none =
      (c.entered index (c.newContext request leaf inspection),
        [.contextUpdated index c.nextContextId .admitted]) := by
  have hs : (c.entered index (c.newContext request leaf inspection)).contexts index =
      c.newContext request leaf inspection := c.setContext_self _ _
  unfold updateContextState
  dsimp only
  rw [hs]
  refine Prod.ext ?_ rfl
  exact congrArg (fun contexts => { c with contexts, nextContextId := c.nextContextId + 1 })
    (Function.update_idem ..)

variable (format : SequenceFileFormat) (r : AdmissionReads)

theorem copyAdmitted_cases (index : ContextIndex)
    (request : SequenceControlRequest) (leaf : Bytes) (inspection : SequenceInspection) :
    let q := (c.entered index (c.newContext request leaf inspection)).copyAdmitted format r
      index inspection
    let path := c.admittedPhysicalPathForContext c.nextContextId leaf
    (∃ n, q.1 = some n ∧ q.2.1 = c.entered index {} ∧ Touches path q.2.2) ∨
    (∃ b, q = (none, c.entered index (c.newContext request leaf inspection),
        [.fileCopied path b, .contextUpdated index c.nextContextId .admitted]) ∧
      (c.admittedCommandPathForContext c.nextContextId leaf).length < cmdStringSize ∧
      r.copied = some b ∧
      ∃ s, SequenceFileInspector.inspect format r.validTime (.content b) = .ok s ∧
        s.crc = inspection.crc) := by
  intro q path
  have hsl : (c.entered index (c.newContext request leaf inspection)).contexts index =
      c.newContext request leaf inspection := c.setContext_self _ _
  have hrm : Touches path (removeFileIfPresent path) := by
    unfold removeFileIfPresent Touches
    split_ifs <;> simp
  have hcp (b : Bytes) : Touches path ([.fileCopied path b] ++ removeFileIfPresent path) := by
    intro o ho
    rcases List.mem_append.mp ho with ho | ho
    · exact .inr ⟨b, List.mem_singleton.mp ho⟩
    · exact hrm o ho
  have hr : q = copyAdmitted (c.entered index (c.newContext request leaf inspection)) format
    r index inspection := rfl
  unfold copyAdmitted at hr
  dsimp only at hr
  rw [hsl, entered_releaseContextResources] at hr
  by_cases hl : cmdStringSize ≤ (c.newContext request leaf inspection).admittedCommandPath.length
  · rw [if_pos hl] at hr
    rw [hr]
    exact .inl ⟨_, rfl, rfl, hrm⟩
  · rw [if_neg hl] at hr
    cases hc : r.copied with
    | none =>
      rw [hc] at hr
      rw [hr]
      exact .inl ⟨_, rfl, rfl, hrm⟩
    | some b =>
      rw [hc] at hr
      dsimp only at hr
      cases hs : SequenceFileInspector.inspect format r.validTime
          (if r.reopened then FileRead.content b else .notFound) with
      | error =>
        rw [hs] at hr
        rw [hr]
        exact .inl ⟨_, rfl, rfl, hcp b⟩
      | ok s =>
        rw [hs] at hr
        dsimp only at hr
        by_cases hcrc : s.crc = inspection.crc
        · rw [if_neg (not_not.mpr hcrc)] at hr
          have hrp : r.reopened = true := by
            by_contra hcl
            rw [if_neg hcl] at hs
            cases hs
          rw [hrp, if_pos rfl] at hs
          refine .inr ⟨b, ?_, not_le.mp hl, rfl, s, hs, hcrc⟩
          rw [hr]
          exact congrArg (fun u : SequenceAdmissionController × List SequenceOutput =>
            (none, u.1, [.fileCopied path b] ++ u.2))
            (c.entered_updateContextState index request leaf inspection)
        · rw [if_pos hcrc] at hr
          rw [hr]
          exact .inl ⟨_, rfl, rfl, hcp b⟩

variable (request : SequenceControlRequest)

theorem admission :
    Admission c format r request (c.inspectAndAdmit format r request).1
      (c.inspectAndAdmit format r request).2.1 (c.inspectAndAdmit format r request).2.2 := by
  unfold inspectAndAdmit
  cases hst : c.inspectStaged format r request with
  | error q => exact .refused q
  | ok s =>
    obtain ⟨leaf, i⟩ := s
    dsimp only
    rcases hal : c.allocateContextSlot with ⟨slot, c', released⟩
    cases slot with
    | none =>
      rcases c.allocateContextSlot_cases with ⟨-, hs⟩ | ⟨_, -, hs⟩ | ⟨_, -, -, hs⟩
      · rw [hal] at hs
        cases hs
        exact .refused _
      · rw [hal] at hs
        cases hs
      · rw [hal] at hs
        cases hs
    | some index =>
      have hs : c.allocateContextSlot.1 = some index := by rw [hal]
      have hr : c.allocateContextSlot.2.2 = released := by rw [hal]
      dsimp only
      rw [c.allocateContextSlot_setContext hal, c.allocateContextSlot_newContext hal]
      rcases c.copyAdmitted_cases format r index request leaf i with
        ⟨q, h, hc, ho⟩ | ⟨bytes, h, hsh, hcp, hin⟩
      · split
        case h_1 reason' c'' outputs heq =>
          rw [heq] at h hc ho
          obtain rfl : c'' = c.entered index {} := hc
          rw [← hr]
          exact .dropped reason' index leaf i outputs hst hs ho
        case h_2 heq =>
          rw [heq] at h
          cases h
      · rw [h, ← hr]
        exact .admitted index leaf i bytes ⟨hst, hs, hsh, hcp, hin⟩

/-! ### Requests -/

def Answers (result : SequenceControlResult) : Prop := (result.accepted && result.deferred) = false

/-- A new context for a request, with the operation and the sequencer it begins with. -/
inductive Beginning (request : SequenceControlRequest) (index : ContextIndex) (leaf : Bytes)
    (inspection : SequenceInspection) : InternalOpKind → Option Sequencer → ContextEntry → Prop
  | run (target) (hoperation : request.operation = .seqRun)
      (htarget : (c.entered index (c.newContext request leaf inspection)).chooseAvailableSequencer = target) :
      Beginning request index leaf inspection .dispatchRun target
        { c.newContext request leaf inspection with state := .autoDispatched, sequencer := target }
  | prepare (sequencer) (hoperation : request.operation = .seqPrepareManual)
      (hsequencer : c.chooseAvailableSequencer = some sequencer) :
      Beginning request index leaf inspection .setManual (some sequencer)
        { c.newContext request leaf inspection with sequencer := some sequencer }

/-- The outcomes of a request. -/
inductive Requested (format : SequenceFileFormat) (reads : AdmissionReads)
    (request : SequenceControlRequest) :
    SequenceControlResult → SequenceAdmissionController → List SequenceOutput → Prop
  | settled (result op count) (hanswers : Answers result)
      (hop : op = c.internalOp ∨ c.internalOp.active = false ∧ op = {}) :
      Requested format reads request result { c with internalOp := op, rejectTotal := count } []
  | dropped (result count index leaf inspection outputs) (hanswers : Answers result)
      (hidle : c.internalOp.active = false)
      (hstaged : c.inspectStaged format reads request = .ok (leaf, inspection))
      (hslot : c.allocateContextSlot.1 = some index)
      (houtputs : Touches (c.admittedPhysicalPathForContext c.nextContextId leaf) outputs) :
      Requested format reads request result { c.entered index {} with rejectTotal := count }
        (c.allocateContextSlot.2.2 ++ outputs)
  | begun (kind target entry index leaf inspection bytes packet outputs)
      (hidle : c.internalOp.active = false)
      (hcopies : c.Copies format reads request index leaf inspection bytes)
      (hbegins : Beginning c request index leaf inspection kind target entry)
      (houtputs : ∀ o ∈ outputs, ∃ state, o = .contextUpdated index c.nextContextId state) :
      Requested format reads request (deferredResult c.nextContextId)
        { c.entered index entry with internalOp := c.operationFor request kind index target }
        (c.allocateContextSlot.2.2 ++
          .fileCopied (c.admittedPhysicalPathForContext c.nextContextId leaf) bytes :: outputs ++
            [.internalCmdOut packet])
  | commanded (kind index sequencer packet) (hidle : c.internalOp.active = false)
      (hkind : kind = .start ∨ kind = .step ∨ kind = .cancel)
      (hused : (c.contexts index).used = true)
      (howner : ownerMatches (c.contexts index) request = true)
      (hlive : isTerminalState (c.contexts index).state = false)
      (hmanual : kind = .cancel ∨ (c.contexts index).manualModeContext = true)
      (hsequencer : (c.contexts index).sequencer = some sequencer) :
      Requested format reads request (deferredResult (c.contexts index).id)
        { c with internalOp := c.operationFor request kind index (some sequencer) } [.internalCmdOut packet]

theorem requested_rejected (d : AdmissionReads) (request : SequenceControlRequest)
    (r : SequenceControlRejectReason) :
    Requested c format d request (c.rejected r []).1 (c.rejected r []).2.1 (c.rejected r []).2.2 :=
  .settled _ c.internalOp _ rfl (.inl rfl)

theorem requested_handleStartLike
    (hk : kind = .start ∨ kind = .step ∨ kind = .cancel) :
    Requested c format r request (c.handleStartLike request kind).1
      (c.handleStartLike request kind).2.1 (c.handleStartLike request kind).2.2 := by
  have hr (reason) := c.requested_rejected format r request reason
  have hf {index : ContextIndex}
      (h : ¬((kind = .start ∨ kind = .step) ∧ (c.contexts index).manualModeContext = false)) :
      kind = .cancel ∨ (c.contexts index).manualModeContext = true := by
    rcases hk with rfl | rfl | rfl
    · exact .inr (by simpa using h)
    · exact .inr (by simpa using h)
    · exact .inl rfl
  unfold handleStartLike
  split_ifs with hac
  · exact hr _
  · have hid : c.internalOp.active = false := by simpa using hac
    cases hfn : c.findContextById request.contextId with
    | none => exact hr _
    | some index =>
      have hu : (c.contexts index).used = true := by
        have := List.find?_some hfn
        simp only [Bool.and_eq_true] at this
        exact this.1
      dsimp only
      split_ifs with ho ht hm
      · exact hr _
      · exact hr _
      · exact hr _
      · cases hs : (c.contexts index).sequencer with
        | none => exact hr _
        | some s =>
          dsimp only
          cases c.buildAndSendInternalCommand kind index (some s) with
          | none => exact .settled _ {} _ rfl (.inr ⟨hid, rfl⟩)
          | some p =>
            exact .commanded kind index s p hid hk hu (by simpa using ho)
              (by simpa using ht) (hf hm) hs

theorem entered_setContext (index : ContextIndex) (e other : ContextEntry) :
    (c.entered index e).setContext index other = c.entered index other :=
  congrArg (fun contexts => { c with contexts, nextContextId := c.nextContextId + 1 })
    (Function.update_idem ..)

theorem beginAdmitted_entered (index : ContextIndex) (t : Option Sequencer) {entry : ContextEntry}
    (hk : kind ≠ .none) (hu : entry.used = true)
    (hsh : entry.admittedCommandPath.length < cmdStringSize) (o : List SequenceOutput) :
    ∃ p, (c.entered index entry).beginAdmitted request kind index t o =
      (deferredResult entry.id,
        { c.entered index entry with internalOp := c.operationFor request kind index t },
        o ++ [.internalCmdOut p]) := by
  have hs : (c.entered index entry).contexts index = entry := c.setContext_self _ _
  obtain ⟨p, hp⟩ := (c.entered index entry).buildAndSendInternalCommand_isSome t hk
    (by rw [hs]; exact hu) (by rw [hs]; exact hsh)
  refine ⟨p, ?_⟩
  unfold beginAdmitted
  rw [hp]
  dsimp only
  rw [hs]
  rfl

theorem entered_updateState (index : ContextIndex) (entry : ContextEntry) (state : SequenceContextState)
    (sequencer : Option Sequencer) :
    (c.entered index entry).updateContextState index state sequencer =
      (c.entered index { entry with state, sequencer := sequencer <|> entry.sequencer },
        [.contextUpdated index entry.id state]) := by
  have hs : (c.entered index entry).contexts index = entry := c.setContext_self _ _
  unfold updateContextState
  dsimp only
  rw [hs, entered_setContext]

variable {request : SequenceControlRequest}

theorem requested_beginAdmitted {format : SequenceFileFormat} {r : AdmissionReads}
    {t : Option Sequencer} {e : ContextEntry} {leaf : Bytes} {i : SequenceInspection} {b : Bytes}
    {os : List SequenceOutput} (hil : c.internalOp.active = false)
    (hc : c.Copies format r request index leaf i b) (hbg : Beginning c request index leaf i kind t e)
    (ho : ∀ o ∈ os, ∃ x, o = .contextUpdated index c.nextContextId x) :
    let a := (c.entered index e).beginAdmitted request kind index t
      (c.allocateContextSlot.2.2 ++
        .fileCopied (c.admittedPhysicalPathForContext c.nextContextId leaf) b :: os)
    Requested c format r request a.1 a.2.1 a.2.2 := by
  intro a
  have he : kind ≠ .none ∧ e.used = true ∧ e.id = c.nextContextId ∧
      e.admittedCommandPath = c.admittedCommandPathForContext c.nextContextId leaf := by
    cases hbg with
    | run | prepare => exact ⟨nofun, rfl, rfl, rfl⟩
  obtain ⟨hk, hu, hid, hp⟩ := he
  obtain ⟨p, hbn⟩ := c.beginAdmitted_entered request index t hk hu (hp ▸ hc.short) (c.allocateContextSlot.2.2 ++
      .fileCopied (c.admittedPhysicalPathForContext c.nextContextId leaf) b :: os)
  rw [show a = _ from hbn, hid]
  exact .begun kind t e index leaf i b p os hil hc hbg ho

theorem requested_handleRun (ho : request.operation = .seqRun) :
    Requested c format r request (c.handleRun format r request).1
      (c.handleRun format r request).2.1 (c.handleRun format r request).2.2 := by
  unfold handleRun
  split_ifs with hac
  · exact c.requested_rejected format r request _
  · have hid : c.internalOp.active = false := by simpa using hac
    have had := c.admission format r request
    generalize c.inspectAndAdmit format r request = a at had
    obtain ⟨rl, c', o⟩ := a
    cases had with
    | refused q => exact requested_rejected _ format r request q
    | dropped _ index leaf i o hst hs hot =>
      exact .dropped _ _ index leaf i o rfl hid hst hs hot
    | admitted index leaf i b hc =>
      have hbg : ∀ t u,
          (c.entered index (c.newContext request leaf i)).chooseAvailableSequencer = t →
          (c.entered index (c.newContext request leaf i)).updateContextState index
            .autoDispatched t = u →
          let a := u.1.beginAdmitted request .dispatchRun index t
            (c.allocateContextSlot.2.2 ++
              .fileCopied (c.admittedPhysicalPathForContext c.nextContextId leaf) b ::
              ([.contextUpdated index c.nextContextId .admitted] ++ u.2))
          Requested c format r request a.1 a.2.1 a.2.2 := by
        rintro t u ht rfl
        have hu : (c.entered index (c.newContext request leaf i)).updateContextState index
            .autoDispatched t = (c.entered index { c.newContext request leaf i with
              state := .autoDispatched, sequencer := t },
              [.contextUpdated index c.nextContextId .autoDispatched]) := by
          rw [entered_updateState]
          cases t <;> rfl
        rw [hu]
        refine c.requested_beginAdmitted hid hc (.run t ho ht) ?_
        simp
      have han := hbg _ _ rfl rfl
      rwa [← List.cons_append, ← List.append_assoc] at han

theorem requested_handlePrepareManual
    (hop : request.operation = .seqPrepareManual) :
    Requested c format r request (c.handlePrepareManual format r request).1
      (c.handlePrepareManual format r request).2.1 (c.handlePrepareManual format r request).2.2 := by
  unfold handlePrepareManual
  split_ifs with hac
  · exact c.requested_rejected format r request _
  · have hid : c.internalOp.active = false := by simpa using hac
    cases hsq : c.chooseAvailableSequencer with
    | none => exact c.requested_rejected format r request _
    | some sequencer =>
      have had := c.admission format r request
      generalize c.inspectAndAdmit format r request = answer at had
      obtain ⟨rl, c', l⟩ := answer
      cases had with
      | refused q => exact requested_rejected _ format r request q
      | dropped _ index leaf inspection l hst hs ho =>
        exact .dropped _ _ index leaf inspection l rfl hid hst hs ho
      | admitted index leaf inspection _ hc =>
        have hag : (c.entered index (c.newContext request leaf inspection)).setContext index
            { (c.entered index (c.newContext request leaf inspection)).contexts index with
              sequencer := some sequencer } =
            c.entered index { c.newContext request leaf inspection with sequencer := some sequencer } := by
          have hsl : (c.entered index (c.newContext request leaf inspection)).contexts index =
              c.newContext request leaf inspection := c.setContext_self _ _
          rw [hsl, entered_setContext]
        have ho : ∀ o ∈ [SequenceOutput.contextUpdated index c.nextContextId .admitted],
            ∃ state, o = .contextUpdated index c.nextContextId state := by simp
        have han := c.requested_beginAdmitted hid hc (.prepare sequencer hop hsq) ho
        rwa [← hag] at han

theorem requested (request : SequenceControlRequest) :
    Requested c format r request (c.controlIn format r request).1
      (c.controlIn format r request).2.1 (c.controlIn format r request).2.2 := by
  unfold controlIn
  cases ho : request.operation with
  | seqValidate =>
    dsimp only [handleValidate]
    split_ifs
    · exact c.requested_rejected format r request _
    · cases c.inspectStaged format r request with
      | error q => exact c.requested_rejected format r request q
      | ok => exact .settled acceptedResult c.internalOp c.rejectTotal rfl (.inl rfl)
  | seqRun => exact c.requested_handleRun format r ho
  | seqPrepareManual => exact c.requested_handlePrepareManual format r ho
  | seqStart => exact c.requested_handleStartLike format r request (.inl rfl)
  | seqStep => exact c.requested_handleStartLike format r request (.inr (.inl rfl))
  | seqCancel => exact c.requested_handleStartLike format r request (.inr (.inr rfl))
  | seqLogStatus => exact .settled acceptedResult c.internalOp c.rejectTotal rfl (.inl rfl)

end SequenceAdmissionController

end ObcFlight
