import ObcFlight.CmdPacket

/-!
# Governed and denied sequencing commands

Commands of the sequence admission controller are not forwarded as bytes: they are
parsed into a control request. The framework's own sequencer commands are denied
even where the catalog lists them.
-/

namespace ObcFlight

open WireCodec

def obcSequenceAdmissionControllerBaseId : UInt32 := 0x1004A000

def obcCmdSeqABaseId : UInt32 := 0x1004B000

def obcCmdSeqBBaseId : UInt32 := 0x1004C000

def obcSeqDispatcherBaseId : UInt32 := 0x1004D000

def obcSeqValidateOpcode : UInt32 := obcSequenceAdmissionControllerBaseId + 0

def obcSeqRunOpcode : UInt32 := obcSequenceAdmissionControllerBaseId + 1

def obcSeqPrepareManualOpcode : UInt32 := obcSequenceAdmissionControllerBaseId + 2

def obcSeqStartOpcode : UInt32 := obcSequenceAdmissionControllerBaseId + 3

def obcSeqStepOpcode : UInt32 := obcSequenceAdmissionControllerBaseId + 4

def obcSeqCancelOpcode : UInt32 := obcSequenceAdmissionControllerBaseId + 5

def obcSeqLogStatusOpcode : UInt32 := obcSequenceAdmissionControllerBaseId + 6

def obcSeqDispatcherRunOpcode : UInt32 := obcSeqDispatcherBaseId + 0

/-- The eight commands of one framework sequencer: run, validate, cancel, start,
step, auto, manual and join-wait. -/
def obcCmdSeqOpcodes (baseId : UInt32) : List UInt32 :=
  [baseId + 0, baseId + 1, baseId + 2, baseId + 3, baseId + 4, baseId + 5, baseId + 6, baseId + 7]

def isGovernedSequenceWrapperOpcode (opcode : UInt32) : Bool :=
  opcode = obcSeqValidateOpcode || opcode = obcSeqRunOpcode ||
    opcode = obcSeqPrepareManualOpcode || opcode = obcSeqStartOpcode ||
    opcode = obcSeqStepOpcode || opcode = obcSeqCancelOpcode || opcode = obcSeqLogStatusOpcode

def isDeniedDirectOfficialSequencingOpcode (opcode : UInt32) : Bool :=
  opcode = obcSeqDispatcherRunOpcode || opcode ∈ obcCmdSeqOpcodes obcCmdSeqABaseId ||
    opcode ∈ obcCmdSeqOpcodes obcCmdSeqBBaseId

inductive SequenceControlAction where
  | seqValidate
  | seqRun
  | seqPrepareManual
  | seqStart
  | seqStep
  | seqCancel
  | seqLogStatus
  deriving DecidableEq

def sequenceFileNameCapacity : ℕ := 240

structure SequenceControlRequest where
  operation : SequenceControlAction := .seqValidate
  ingressPort : UInt32 := 0
  linkIdentity : UInt32 := 0
  linkRole : UInt32 := 0
  originalOpcode : UInt32 := 0
  originalCmdSeq : UInt32 := 0
  fileName : Bytes := []
  waitMode : UInt32 := 0
  contextId : UInt32 := 0
  deriving DecidableEq

structure SequenceControlResult where
  accepted : Bool := false
  deferred : Bool := false
  cmdResponse : UInt32 := 0
  reason : UInt32 := 0
  contextId : UInt32 := 0
  deriving DecidableEq

structure SequenceControlStatus where
  ingressPort : Port
  originalOpcode : UInt32
  originalCmdSeq : UInt32
  cmdResponse : UInt32
  deriving DecidableEq

/-- Read the arguments of a governed command; the argument block must be used up. -/
def parseSequenceControlRequest (opcode : UInt32) (packet : CmdPacket) (ingressPort : Port)
    (config : AuthorityConfig) (context : UInt32) : Option SequenceControlRequest :=
  let request : SequenceControlRequest :=
    { ingressPort := UInt32.ofNat ingressPort.val
      linkIdentity := config.identity.toCode
      linkRole := config.role.toCode
      originalOpcode := opcode
      originalCmdSeq := context
      waitMode := 1
      contextId := 0 }
  if opcode = obcSeqValidateOpcode then
    match deserializeString sequenceFileNameCapacity packet.args with
    | some (fileName, []) => some { request with operation := .seqValidate, fileName := fileName }
    | _ => none
  else if opcode = obcSeqRunOpcode then
    match deserializeString sequenceFileNameCapacity packet.args with
    | none => none
    | some (fileName, rest) =>
      match deserializeWait rest with
      | some (waitMode, []) =>
        some { request with operation := .seqRun, fileName := fileName, waitMode := waitMode }
      | _ => none
  else if opcode = obcSeqPrepareManualOpcode then
    match deserializeString sequenceFileNameCapacity packet.args with
    | some (fileName, []) => some { request with operation := .seqPrepareManual, fileName := fileName }
    | _ => none
  else if opcode = obcSeqStartOpcode ∨ opcode = obcSeqStepOpcode ∨ opcode = obcSeqCancelOpcode then
    match u32.decode packet.args with
    | some (contextId, []) =>
      let operation : SequenceControlAction :=
        if opcode = obcSeqStartOpcode then .seqStart
        else if opcode = obcSeqStepOpcode then .seqStep
        else .seqCancel
      some { request with operation := operation, contextId := contextId }
    | _ => none
  else if opcode = obcSeqLogStatusOpcode then
    if packet.args ≠ [] then none else some { request with operation := .seqLogStatus }
  else none

end ObcFlight
