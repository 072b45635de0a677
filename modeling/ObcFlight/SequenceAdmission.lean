import ObcFlight.FileIngressAuthority
import ObcFlight.RecoveryTypes
import ObcFlight.SequenceFile

/-!
# The sequence admission controller

Requests name a staged sequence file or an admitted context. A file is inspected, its commands
are checked against the authority of the link, and it is copied into the admitted directory and
inspected again; the copy is then run or loaded through commands to the framework's sequencers,
one at a time. Their statuses and the sequencers' callbacks drive the contexts.

The staged file may be another one each time it is read: what the reads return is an argument of
the request. Telemetry channels and event texts are left out.
-/

namespace ObcFlight

open WireCodec

abbrev Sequencer := Fin 2

abbrev ContextIndex := Fin 8

instance eight_neZero : NeZero 8 := ⟨by decide⟩

inductive SequenceContextState where
  | unused
  | admitted
  | autoDispatched
  | manualPrepared
  | running
  | succeeded
  | failed
  | canceled
  deriving DecidableEq

inductive SequenceControlRejectReason where
  | none
  | notConfigured
  | internalBusy
  | stagedPathInvalid
  | inspectionFailed
  | unknownOpcode
  | authorityDenied
  | adminOpcodeForbidden
  | contextNotFound
  | ownerMismatch
  | noSequencerAvailable
  | internalCommandBuildFailed
  | contextTableFull
  | commandPathTooLong
  | contextStateInvalid
  deriving DecidableEq

def SequenceControlRejectReason.toCode : SequenceControlRejectReason → UInt32
  | .none => 0
  | .notConfigured => 1
  | .internalBusy => 2
  | .stagedPathInvalid => 3
  | .inspectionFailed => 4
  | .unknownOpcode => 5
  | .authorityDenied => 6
  | .adminOpcodeForbidden => 7
  | .contextNotFound => 8
  | .ownerMismatch => 9
  | .noSequencerAvailable => 10
  | .internalCommandBuildFailed => 11
  | .contextTableFull => 12
  | .commandPathTooLong => 13
  | .contextStateInvalid => 14

inductive InternalOpKind where
  | none
  | dispatchRun
  | setManual
  | loadManual
  | setAuto
  | start
  | step
  | cancel
  deriving DecidableEq

/-- Identity and role are kept as the codes they are cast from. -/
structure ContextEntry where
  used : Bool := false
  id : UInt32 := 0
  state : SequenceContextState := .unused
  identity : UInt32 := 0
  role : UInt32 := 0
  ingressPort : UInt32 := 0
  sequencer : Option Sequencer := none
  block : UInt32 := 1
  sourcePath : Bytes := []
  admittedPhysicalPath : Bytes := []
  admittedCommandPath : Bytes := []
  crc : UInt32 := 0
  manualModeContext : Bool := false
  deriving DecidableEq

structure InternalOp where
  kind : InternalOpKind := .none
  active : Bool := false
  publishStatus : Bool := true
  contextIndex : ContextIndex := 0
  ingressPort : UInt32 := 0
  originalOpcode : UInt32 := 0
  originalCmdSeq : UInt32 := 0
  targetSequencer : Option Sequencer := none
  deriving DecidableEq

/-- Calls on the output ports, the file system operations and the reported context changes. -/
inductive SequenceOutput where
  | controlStatusOut (ingressPort originalOpcode originalCmdSeq cmdResponse : UInt32)
  | internalCmdOut (packet : Bytes)
  | fileCopied (path content : Bytes)
  | fileRemoved (path : Bytes)
  | contextUpdated (index : ContextIndex) (id : UInt32) (state : SequenceContextState)
  deriving DecidableEq

/-- What the clock and the file system answer during one request: the time, the staged file as it
is inspected, the bytes that the copy gets (if it succeeds), and whether the copy opens again. -/
structure AdmissionReads where
  validTime : TimeFrame
  staged : FileRead
  copied : Option Bytes
  reopened : Bool

structure SequenceAdmissionController where
  runtimeRoot : Bytes
  admittedRoot : Bytes
  admittedCommandPrefix : Bytes
  runtimeConfigured : Bool := true
  nextContextId : UInt32 := 1
  rejectTotal : UInt32 := 0
  contexts : ContextIndex → ContextEntry := fun _ => {}
  internalOp : InternalOp := {}
  sequencerManualMode : Sequencer → Bool := fun _ => false
  pendingAutoRestore : Sequencer → Bool := fun _ => false

/-- The controller after its runtime has been configured, or after that has failed. -/
def SequenceAdmissionController.boot (runtimeRoot admittedRoot admittedCommandPrefix : Bytes)
    (runtimeConfigured : Bool) : SequenceAdmissionController :=
  { runtimeRoot, admittedRoot, admittedCommandPrefix, runtimeConfigured }

def AuthorityLinkIdentity.ofCode (code : UInt32) : AuthorityLinkIdentity :=
  if code = 1 then .sband
  else if code = 2 then .uhf
  else if code = 3 then .devDirect
  else if code = 4 then .internal
  else .unknown

def AuthorityLinkRole.ofCode (code : UInt32) : AuthorityLinkRole :=
  if code = 1 then .primary
  else if code = 2 then .backup
  else if code = 3 then .primaryAfterFailover
  else if code = 4 then .devFull
  else if code = 5 then .internal
  else .unknown

/-- A code outside the enumeration is treated by the authority checks as the unknown one. -/
def configFromRequest (request : SequenceControlRequest) : AuthorityConfig where
  identity := .ofCode request.linkIdentity
  role := .ofCode request.linkRole
  valid := true

def isForbiddenNestedSequencingOpcode (opcode : UInt32) : Bool :=
  (decide (obcSequenceAdmissionControllerBaseId ≤ opcode) && decide (opcode ≤ obcSeqLogStatusOpcode)) ||
    decide (opcode = obcSeqDispatcherRunOpcode) || decide (opcode ∈ obcCmdSeqOpcodes obcCmdSeqABaseId) ||
    decide (opcode ∈ obcCmdSeqOpcodes obcCmdSeqBBaseId)

/-- Any index but the first one is taken for the second sequencer. -/
def sequencerBaseForIndex (index : Option Sequencer) : UInt32 :=
  if index = some 0 then obcCmdSeqABaseId else obcCmdSeqBBaseId

def cmdStringSize : ℕ := 64

def isTerminalState (state : SequenceContextState) : Bool :=
  decide (state = .succeeded) || decide (state = .failed) || decide (state = .canceled)

namespace SequenceAdmissionController

variable (c : SequenceAdmissionController)

/-! ### The context table -/

def setContext (index : ContextIndex) (context : ContextEntry) : SequenceAdmissionController :=
  { c with contexts := Function.update c.contexts index context }

def updateContextState (index : ContextIndex) (state : SequenceContextState)
    (sequencer : Option Sequencer) : SequenceAdmissionController × List SequenceOutput :=
  let context := c.contexts index
  (c.setContext index { context with state, sequencer := sequencer <|> context.sequencer },
    [.contextUpdated index context.id state])

def clearManualModeContext (index : ContextIndex) : SequenceAdmissionController :=
  c.setContext index { c.contexts index with manualModeContext := false }

def removeFileIfPresent (path : Bytes) : List SequenceOutput :=
  if path = [] then [] else [.fileRemoved path]

def releaseContextResources (index : ContextIndex) : SequenceAdmissionController × List SequenceOutput :=
  (c.setContext index {}, removeFileIfPresent (c.contexts index).admittedPhysicalPath)

def findContext (p : ContextEntry → Bool) : Option ContextIndex :=
  (List.finRange 8).find? fun index => (c.contexts index).used && p (c.contexts index)

variable (contextId : UInt32)

def findContextById : Option ContextIndex := c.findContext fun x => x.id = contextId

def findContextByAdmittedPath (path : Bytes) : Option ContextIndex :=
  c.findContext fun x => x.admittedCommandPath = path

/-- A free slot, or the first finished context's slot after its file has been removed. -/
def allocateContextSlot : Option ContextIndex × SequenceAdmissionController × List SequenceOutput :=
  match (List.finRange 8).find? fun index => !(c.contexts index).used with
  | some index => (some index, c, [])
  | none =>
    match c.findContext fun x => isTerminalState x.state with
    | some index => (some index, c.releaseContextResources index)
    | none => (none, c, [])

variable (context : ContextEntry)

def keepsBusy (candidate : Sequencer) : Bool :=
  context.used && decide (context.sequencer = some candidate) &&
    (decide (context.state = .manualPrepared) || decide (context.state = .running) ||
      decide (context.state = .autoDispatched) || decide (context.state = .admitted))

def chooseAvailableSequencer : Option Sequencer :=
  (List.finRange 2).find? fun candidate =>
    !(c.sequencerManualMode candidate || c.pendingAutoRestore candidate) &&
      (List.finRange 8).all fun index => !keepsBusy (c.contexts index) candidate

def ownerMatches (request : SequenceControlRequest) : Bool :=
  decide (context.ingressPort = request.ingressPort) && decide (context.identity = request.linkIdentity) &&
    decide (context.role = request.linkRole)

/-! ### Admission -/

def admittedName (leaf : Bytes) : Bytes :=
  ascii "ctx-" ++ decimal contextId.toNat ++ ascii "-" ++ leaf

def admittedPhysicalPathForContext (leaf : Bytes) : Bytes :=
  c.admittedRoot ++ ascii "/" ++ admittedName contextId leaf

def admittedCommandPathForContext (leaf : Bytes) : Bytes :=
  c.admittedCommandPrefix ++ admittedName contextId leaf

def refuseRecord (config : AuthorityConfig) (record : SequenceRecordInfo) :
    Option SequenceControlRejectReason :=
  if isForbiddenNestedSequencingOpcode record.opcode then some .adminOpcodeForbidden
  else if (findCommandAuthorityCatalogEntry record.opcode).isNone then some .unknownOpcode
  else if !(evaluateCommandAuthority config record.opcode).allow then some .authorityDenied
  else none

/-- The leaf of a staged path, which names a file in the staging directory itself. -/
def stagedLeaf (requestedPath : Bytes) : Option Bytes :=
  if !FileIngressPolicy.logicalPrefixConstant.isPrefixOf requestedPath then none
  else
    let leaf := requestedPath.drop FileIngressPolicy.logicalPrefixConstant.length
    if leaf.isEmpty || leaf.contains slash || leaf.contains backslash then none else some leaf

def stagedPath (leaf : Bytes) : Bytes :=
  joinPath (joinPath (joinPath c.runtimeRoot (ascii "sequences")) (ascii "staging")) leaf

variable (format : SequenceFileFormat)

/-- The checks on the staged file: its leaf and what the inspection found. -/
def inspectStaged (reads : AdmissionReads) (request : SequenceControlRequest) :
    Except SequenceControlRejectReason (Bytes × SequenceInspection) :=
  if !c.runtimeConfigured then .error .notConfigured
  else
    match stagedLeaf request.fileName with
    | none => .error .stagedPathInvalid
    | some leaf =>
      match SequenceFileInspector.inspect format reads.validTime reads.staged with
      | .error _ => .error .inspectionFailed
      | .ok inspection =>
        match inspection.records.findSome? (refuseRecord (configFromRequest request)) with
        | some reason => .error reason
        | none => .ok (leaf, inspection)

variable (request : SequenceControlRequest)

def newContext (leaf : Bytes) (inspection : SequenceInspection) : ContextEntry where
  used := true
  id := c.nextContextId
  state := .admitted
  identity := request.linkIdentity
  role := request.linkRole
  ingressPort := request.ingressPort
  sourcePath := c.stagedPath leaf
  admittedPhysicalPath := c.admittedPhysicalPathForContext c.nextContextId leaf
  admittedCommandPath := c.admittedCommandPathForContext c.nextContextId leaf
  crc := inspection.crc
  block := request.waitMode
  manualModeContext := decide (request.operation = .seqPrepareManual)

/-- Copy the staged file for a context that has its slot, and inspect the copy. The reason is given
when the context is dropped again. -/
def copyAdmitted (reads : AdmissionReads) (index : ContextIndex) (inspection : SequenceInspection) :
    Option SequenceControlRejectReason × SequenceAdmissionController × List SequenceOutput :=
  let context := c.contexts index
  if cmdStringSize ≤ context.admittedCommandPath.length then
    (some .commandPathTooLong, c.releaseContextResources index)
  else
    match reads.copied with
    | none => (some .inspectionFailed, c.releaseContextResources index)
    | some bytes =>
      let copied : List SequenceOutput := [.fileCopied context.admittedPhysicalPath bytes]
      let reread := if reads.reopened then FileRead.content bytes else .notFound
      match SequenceFileInspector.inspect format reads.validTime reread with
      | .error _ =>
        let released := c.releaseContextResources index
        (some .inspectionFailed, released.1, copied ++ released.2)
      | .ok admitted =>
        if admitted.crc ≠ inspection.crc then
          let released := c.releaseContextResources index
          (some .inspectionFailed, released.1, copied ++ released.2)
        else
          let updated := c.updateContextState index .admitted context.sequencer
          (none, updated.1, copied ++ updated.2)

def inspectAndAdmit (reads : AdmissionReads) (request : SequenceControlRequest) :
    Except SequenceControlRejectReason ContextIndex × SequenceAdmissionController × List SequenceOutput :=
  match c.inspectStaged format reads request with
  | .error reason => (.error reason, c, [])
  | .ok (leaf, inspection) =>
    match c.allocateContextSlot with
    | (none, c, released) => (.error .contextTableFull, c, released)
    | (some index, c, released) =>
      let entered := { c.setContext index (c.newContext request leaf inspection) with
        nextContextId := c.nextContextId + 1 }
      match entered.copyAdmitted format reads index inspection with
      | (some reason, c, outputs) => (.error reason, c, released ++ outputs)
      | (none, c, outputs) => (.ok index, c, released ++ outputs)

/-! ### Internal commands -/

def serializeString (text : Bytes) : Bytes := u16.encode (UInt16.ofNat text.length) ++ text

/-- The packet of an internal command; the block state of a load is NO_BLOCK. -/
def internalPacket (targetSequencer : Option Sequencer) : InternalOpKind → Option Bytes
  | .none => none
  | .dispatchRun => some (CmdPacket.serialize ⟨obcSeqDispatcherRunOpcode,
      serializeString context.admittedCommandPath ++ u32.encode context.block⟩)
  | .setManual => some (CmdPacket.serialize ⟨sequencerBaseForIndex targetSequencer + 6, []⟩)
  | .loadManual => some (CmdPacket.serialize ⟨sequencerBaseForIndex targetSequencer + 0,
      serializeString context.admittedCommandPath ++ u32.encode 1⟩)
  | .setAuto => some (CmdPacket.serialize ⟨sequencerBaseForIndex targetSequencer + 5, []⟩)
  | .start => some (CmdPacket.serialize ⟨sequencerBaseForIndex targetSequencer + 3, []⟩)
  | .step => some (CmdPacket.serialize ⟨sequencerBaseForIndex targetSequencer + 4, []⟩)
  | .cancel => some (CmdPacket.serialize ⟨sequencerBaseForIndex targetSequencer + 2, []⟩)

variable (kind : InternalOpKind)

def buildAndSendInternalCommand (contextIndex : ContextIndex)
    (targetSequencer : Option Sequencer) : Option Bytes :=
  if kind ≠ .setAuto ∧ (c.contexts contextIndex).used = false then none
  else
    (internalPacket (c.contexts contextIndex) targetSequencer kind).filter
      fun packet => packet.length ≤ fwComBufferMaxSize

def requestSequencerAutoRestore (sequencer : Sequencer) :
    SequenceAdmissionController × List SequenceOutput :=
  if !c.sequencerManualMode sequencer then (c, [])
  else if c.internalOp.active then
    ({ c with pendingAutoRestore := Function.update c.pendingAutoRestore sequencer true }, [])
  else
    match c.buildAndSendInternalCommand .setAuto 0 (some sequencer) with
    | none =>
      ({ c with
          pendingAutoRestore := Function.update c.pendingAutoRestore sequencer true
          internalOp := {} }, [])
    | some packet =>
      ({ c with
          pendingAutoRestore := Function.update c.pendingAutoRestore sequencer false
          internalOp := { kind := .setAuto, active := true, publishStatus := false,
                          targetSequencer := some sequencer } }, [.internalCmdOut packet])

def processPendingAutoRestore : SequenceAdmissionController × List SequenceOutput :=
  if c.internalOp.active then (c, [])
  else
    match (List.finRange 2).find? fun q => c.pendingAutoRestore q && c.sequencerManualMode q with
    | none => (c, [])
    | some sequencer => c.requestSequencerAutoRestore sequencer

variable (op : InternalOp)

variable (response : CmdResponse)

def publishControlStatus : List SequenceOutput :=
  [.controlStatusOut op.ingressPort op.originalOpcode op.originalCmdSeq response.code]

/-- The end of an internal operation: its status if one is owed, and the next restore. -/
def closeOperation : SequenceAdmissionController × List SequenceOutput :=
  let status := if op.publishStatus then publishControlStatus op response else []
  let next := { c with internalOp := {} }.processPendingAutoRestore
  (next.1, status ++ next.2)

def thenRestore (sequencer : Sequencer) (outputs : List SequenceOutput) :
    SequenceAdmissionController × List SequenceOutput :=
  let restored := c.requestSequencerAutoRestore sequencer
  (restored.1, outputs ++ restored.2)

/-- What a failed command does to its context and to its sequencer's mode. -/
def failOperation : SequenceAdmissionController × List SequenceOutput :=
  let failed := if op.publishStatus && (c.contexts op.contextIndex).used then
      c.updateContextState op.contextIndex .failed
        (op.targetSequencer <|> (c.contexts op.contextIndex).sequencer)
    else (c, [])
  let c := failed.1
  match op.targetSequencer with
  | none => failed
  | some target =>
    if !c.sequencerManualMode target then failed
    else
      let context := c.contexts op.contextIndex
      let cleared := if context.used then c.clearManualModeContext op.contextIndex else c
      match op.kind with
      | .loadManual | .cancel => cleared.thenRestore target failed.2
      | .start | .step =>
        if context.used && context.manualModeContext then cleared.thenRestore target failed.2
        else failed
      | .setAuto => c.thenRestore target failed.2
      | _ => failed

/-- The manual mode is set: record it and load the file, or give up. -/
def manualModeSet : SequenceAdmissionController × List SequenceOutput :=
  let c := match op.targetSequencer with
    | none => c
    | some target => { c with sequencerManualMode := Function.update c.sequencerManualMode target true }
  let c := { c with internalOp := { c.internalOp with kind := .loadManual } }
  match c.buildAndSendInternalCommand .loadManual op.contextIndex op.targetSequencer with
  | some packet => (c, [.internalCmdOut packet])
  | none =>
    let restored := match op.targetSequencer with
      | none => (c, [])
      | some target => c.requestSequencerAutoRestore target
    let next := { restored.1 with internalOp := {} }.processPendingAutoRestore
    (next.1, restored.2 ++ publishControlStatus op .executionError ++ next.2)

/-- What a command that succeeded does to its context and to its sequencer's mode. -/
def succeedOperation : SequenceAdmissionController × List SequenceOutput :=
  match op.kind with
  | .loadManual => c.updateContextState op.contextIndex .manualPrepared op.targetSequencer
  | .setAuto =>
    match op.targetSequencer with
    | none => (c, [])
    | some target =>
      ({ c with sequencerManualMode := Function.update c.sequencerManualMode target false }, [])
  | .start => c.updateContextState op.contextIndex .running op.targetSequencer
  | .cancel =>
    let canceled := c.updateContextState op.contextIndex .canceled op.targetSequencer
    match op.targetSequencer with
    | some target =>
      if (canceled.1.contexts op.contextIndex).manualModeContext then
        (canceled.1.clearManualModeContext op.contextIndex).thenRestore target canceled.2
      else canceled
    | none => (canceled.1.clearManualModeContext op.contextIndex, canceled.2)
  | _ => (c, [])

def finalizeInternalOperation : SequenceAdmissionController × List SequenceOutput :=
  let op := c.internalOp
  if !op.active then (c, [])
  else if response = .ok ∧ op.kind = .setManual then c.manualModeSet op
  else
    let settled := if response = .ok then c.succeedOperation op else c.failOperation op
    let closed := settled.1.closeOperation op response
    (closed.1, settled.2 ++ closed.2)

/-! ### Requests -/

def rejectControl (reason : SequenceControlRejectReason) :
    SequenceControlResult × SequenceAdmissionController :=
  ({ accepted := false, deferred := false, cmdResponse := CmdResponse.validationError.code,
     reason := reason.toCode, contextId := 0 },
    { c with rejectTotal := c.rejectTotal + 1 })

/-- The request is answered later, when its operation is finished. -/
def deferredResult : SequenceControlResult :=
  { accepted := true, deferred := true, cmdResponse := CmdResponse.ok.code, reason := 0, contextId }

def acceptedResult : SequenceControlResult :=
  { accepted := true, deferred := false, cmdResponse := CmdResponse.ok.code, reason := 0, contextId := 0 }

abbrev Answered := SequenceControlResult × SequenceAdmissionController × List SequenceOutput

def rejected (reason : SequenceControlRejectReason) (outputs : List SequenceOutput) : Answered :=
  ((c.rejectControl reason).1, (c.rejectControl reason).2, outputs)

def operationFor (index : ContextIndex) (target : Option Sequencer) : InternalOp :=
  { c.internalOp with
    active := true
    kind
    contextIndex := index
    ingressPort := request.ingressPort
    originalOpcode := request.originalOpcode
    originalCmdSeq := request.originalCmdSeq
    targetSequencer := target }

def handleValidate (reads : AdmissionReads) (request : SequenceControlRequest) : Answered :=
  if !c.runtimeConfigured then c.rejected .notConfigured []
  else
    match c.inspectStaged format reads request with
    | .error reason => c.rejected reason []
    | .ok _ => (acceptedResult, c, [])

/-- The operation's first command: the context is dropped again when it cannot be built. -/
def beginAdmitted (index : ContextIndex)
    (target : Option Sequencer) (outputs : List SequenceOutput) : Answered :=
  match c.buildAndSendInternalCommand kind index target with
  | none =>
    let released := c.releaseContextResources index
    { released.1 with internalOp := {} }.rejected .internalCommandBuildFailed (outputs ++ released.2)
  | some packet =>
    (deferredResult (c.contexts index).id,
      { c with internalOp := c.operationFor request kind index target },
      outputs ++ [.internalCmdOut packet])

def handleRun (reads : AdmissionReads) (request : SequenceControlRequest) : Answered :=
  if c.internalOp.active then c.rejected .internalBusy []
  else
    match c.inspectAndAdmit format reads request with
    | (.error reason, c, outputs) => c.rejected reason outputs
    | (.ok index, c, outputs) =>
      let predictedSequencer := c.chooseAvailableSequencer
      let updated := c.updateContextState index .autoDispatched predictedSequencer
      updated.1.beginAdmitted request .dispatchRun index predictedSequencer (outputs ++ updated.2)

def handlePrepareManual (reads : AdmissionReads) (request : SequenceControlRequest) : Answered :=
  if c.internalOp.active then c.rejected .internalBusy []
  else
    match c.chooseAvailableSequencer with
    | none => c.rejected .noSequencerAvailable []
    | some sequencer =>
      match c.inspectAndAdmit format reads request with
      | (.error reason, c, outputs) => c.rejected reason outputs
      | (.ok index, c, outputs) =>
        let assigned := c.setContext index { c.contexts index with sequencer := some sequencer }
        assigned.beginAdmitted request .setManual index (some sequencer) outputs

def handleStartLike : Answered :=
  if c.internalOp.active then c.rejected .internalBusy []
  else
    match c.findContextById request.contextId with
    | none => c.rejected .contextNotFound []
    | some index =>
      let context := c.contexts index
      if !ownerMatches context request then c.rejected .ownerMismatch []
      else if isTerminalState context.state then c.rejected .contextStateInvalid []
      else if (kind = .start ∨ kind = .step) ∧ context.manualModeContext = false then
        c.rejected .contextStateInvalid []
      else
        match context.sequencer with
        | none => c.rejected .noSequencerAvailable []
        | some sequencer =>
          match c.buildAndSendInternalCommand kind index (some sequencer) with
          | none => { c with internalOp := {} }.rejected .internalCommandBuildFailed []
          | some packet =>
            (deferredResult context.id,
              { c with internalOp := c.operationFor request kind index (some sequencer) },
              [.internalCmdOut packet])

def handleLogStatus : Answered := (acceptedResult, c, [])

def controlIn (reads : AdmissionReads) (request : SequenceControlRequest) : Answered :=
  match request.operation with
  | .seqValidate => c.handleValidate format reads request
  | .seqRun => c.handleRun format reads request
  | .seqPrepareManual => c.handlePrepareManual format reads request
  | .seqStart => c.handleStartLike request .start
  | .seqStep => c.handleStartLike request .step
  | .seqCancel => c.handleStartLike request .cancel
  | .seqLogStatus => c.handleLogStatus

/-! ### Callbacks -/

def seqStartIn (port : Sequencer) (filename : Bytes) : SequenceAdmissionController × List SequenceOutput :=
  match c.findContextByAdmittedPath filename with
  | none => (c, [])
  | some index => c.updateContextState index .running (some port)

def doneContext (port : Sequencer) : Option ContextIndex :=
  c.findContext fun x => decide (x.sequencer = some port) &&
    (decide (x.state = .running) || decide (x.state = .autoDispatched) || decide (x.state = .manualPrepared))

def seqDoneIn (port : Sequencer) (response : CmdResponse) :
    SequenceAdmissionController × List SequenceOutput :=
  match c.doneContext port with
  | none => (c, [])
  | some index =>
    let updated := c.updateContextState index (if response = .ok then .succeeded else .failed) (some port)
    if (updated.1.contexts index).manualModeContext then
      (updated.1.clearManualModeContext index).thenRestore port updated.2
    else updated

end SequenceAdmissionController

inductive SequenceInput where
  | controlIn (request : SequenceControlRequest) (reads : AdmissionReads)
  | internalCmdStatusIn (response : CmdResponse)
  | seqStartIn (port : Sequencer) (filename : Bytes)
  | seqDoneIn (port : Sequencer) (response : CmdResponse)

def SequenceAdmissionController.step (format : SequenceFileFormat) (c : SequenceAdmissionController) :
    SequenceInput → SequenceAdmissionController × List SequenceOutput
  | .controlIn request reads => (c.controlIn format reads request).2
  | .internalCmdStatusIn response => c.finalizeInternalOperation response
  | .seqStartIn port filename => c.seqStartIn port filename
  | .seqDoneIn port response => c.seqDoneIn port response

def sequenceController (format : SequenceFileFormat) :
    Machine SequenceAdmissionController SequenceInput SequenceOutput :=
  ⟨SequenceAdmissionController.step format⟩

end ObcFlight
