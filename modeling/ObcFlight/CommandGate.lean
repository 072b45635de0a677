import ObcFlight.AuthorityCatalog
import ObcFlight.Machine
import ObcFlight.SecureCommandV2
import ObcFlight.SequenceControl
import ObcFlight.SequenceWindow

/-!
# The command ingress authority

State and handlers of CommandIngressAuthority. A handler returns the next state and
the calls it makes on its output ports and on the session observer, in order.
Telemetry channels and event texts are left out; the counters behind them are kept.
The synchronous answer of the sequence admission controller is a parameter of the
command handler.
-/

namespace ObcFlight

def unknownCommandOpcode : UInt32 := 0xFFFFFFFF

def obcCommandEnvelopeV1Opcode : UInt32 := 0x0BC10001

structure ActiveSessionState where
  isOpen : Bool := false
  secureAuthenticated : Bool := false
  linkIdentity : AuthorityLinkIdentity := .unknown
  linkRole : AuthorityLinkRole := .unknown
  serviceId : UInt8 := 0
  sessionId : UInt32 := 0
  lastAcceptedSequence : UInt32 := 0
  secureSessionKey : Digest := Digest.zero
  deriving DecidableEq

structure PendingDispatch where
  context : UInt32
  ingressPort : Port
  deriving DecidableEq

/-- Eight slots and the round-robin position used when all are taken. -/
structure PendingDispatchTable where
  slots : List (Option PendingDispatch)
  length_slots : slots.length = 8
  nextSlot : ℕ

structure RejectCounters where
  rejectTotal : UInt32 := 0
  rejectPolicy : UInt32 := 0
  rejectMalformed : UInt32 := 0
  rejectUnknownOpcode : UInt32 := 0
  rejectConfig : UInt32 := 0
  rejectUhfBackup : UInt32 := 0
  envelopeRejectedTotal : UInt32 := 0
  secureCommandRejectTotal : UInt32 := 0
  secureCommandRejectBadMac : UInt32 := 0
  secureCommandRejectNoAuth : UInt32 := 0
  deriving DecidableEq

structure SecureAuthGrant where
  ingressPort : Port
  serviceId : UInt8
  sessionKey : Digest
  deriving DecidableEq

structure SecureAuthRevocation where
  ingressPort : Port
  serviceId : UInt8
  reason : UInt32
  deriving DecidableEq

structure SecureAuthActivity where
  ingressPort : Port
  serviceId : UInt8
  sequenceNumber : UInt32
  deriving DecidableEq

/-- Calls on output ports and on the session observer. -/
inductive GateOutput where
  | seqCmdBuffOut (port : Port) (data : Bytes) (context : UInt32)
  | seqCmdStatusOut (port : Port) (opcode context : UInt32) (response : CmdResponse)
  | sequenceControlOut (request : SequenceControlRequest)
  | authActivityOut (activity : SecureAuthActivity)
  | sessionOpened (port : Port) (config : AuthorityConfig) (sessionId sequenceNumber : UInt32)
      (secureAuthenticated replaced : Bool)
  | sessionActivity (port : Port) (config : AuthorityConfig) (sessionId sequenceNumber : UInt32)
  | sessionRevoked (port : Port) (config : AuthorityConfig) (sessionId lastSequence reason : UInt32)
  deriving DecidableEq

structure CommandIngressAuthority where
  ingressConfigs : Port → AuthorityConfig
  activeSessions : Port → ActiveSessionState
  sequenceWindow : CommandSequenceWindow
  pendingDispatches : PendingDispatchTable
  nextRuntimeSessionToken : UInt32
  sessionOpenTotal : UInt32
  sessionRevokeTotal : UInt32
  counters : RejectCounters

/-- Why a command buffer is refused, with the opcode the refusal is attributed to. -/
inductive GateRejection where
  | authority (opcode : UInt32) (decision : AuthorityDecision)
  | envelope (opcode : UInt32)
  | secure (opcode : UInt32) (reason : SecureCommandV2RejectReason)
  deriving DecidableEq

def secureCommandRejectResponse : SecureCommandV2RejectReason → CmdResponse
  | .badMagic | .unsupportedVersion | .nonzeroFlags | .badHeaderLength | .nonzeroReserved
  | .truncatedHeader | .truncatedInnerCommand | .oversizedInnerCommand | .badMacLength
  | .truncatedAuthTag | .unexpectedTrailingBytes | .invalidInnerCommand => .formatError
  | .authRequired | .serviceMismatch | .badMac | .sequenceNotIncreasing => .validationError
  | .sequenceWindowFull | .invalidConfig | .none => .executionError

def envelopeRequiredDecision (opcode : UInt32) : AuthorityDecision :=
  match findCommandAuthorityCatalogEntry opcode with
  | none => { reason := .envelopeRequired, response := .validationError }
  | some entry =>
    { reason := .envelopeRequired, response := .validationError
      commandClass := entry.commandClass, resource := entry.resource }

def sessionKeyFor (ingressPort : Port) (config : AuthorityConfig) (sessionId : UInt32) :
    CommandSessionKey := ⟨ingressPort, config.identity, config.role, sessionId⟩

def requiresAuthenticatedEnvelope (config : AuthorityConfig) : Bool := isCommManagedAuthority config

def secureServiceIdForConfig (config : AuthorityConfig) : UInt8 :=
  secureServiceIdForAuthorityIdentity config.identity

namespace PendingDispatchTable

def empty : PendingDispatchTable := ⟨List.replicate 8 none, List.length_replicate, 0⟩

variable (t : PendingDispatchTable)

def remember (ingressPort : Port) (context : UInt32) :
    PendingDispatchTable :=
  match h : fillFirst ⟨context, ingressPort⟩ t.slots with
  | some slots => ⟨slots, (fillFirst_length h).trans t.length_slots, t.nextSlot⟩
  | none =>
    ⟨t.slots.set t.nextSlot (some ⟨context, ingressPort⟩), by rw [List.length_set, t.length_slots],
      (t.nextSlot + 1) % 8⟩

def release (i : ℕ) : PendingDispatchTable :=
  ⟨t.slots.set i none, by rw [List.length_set, t.length_slots], t.nextSlot⟩

def usedWhere (p : PendingDispatch → Bool) : List ℕ :=
  (List.range 8).filter fun i =>
    match t.slots.getD i none with
    | some pending => p pending
    | none => false

/-- An exact match is freed; failing that, a context match that is the only one. -/
def consume (statusPort : Port) (context : UInt32) :
    PendingDispatchTable :=
  match t.usedWhere fun pending => pending.context = context && pending.ingressPort = statusPort with
  | i :: _ => t.release i
  | [] =>
    match t.usedWhere fun pending => pending.context = context with
    | [i] => t.release i
    | _ => t

end PendingDispatchTable

namespace CommandIngressAuthority

variable (g : CommandIngressAuthority)

def initial : CommandIngressAuthority where
  ingressConfigs := fun _ => {}
  activeSessions := fun _ => {}
  sequenceWindow := SlotTable.empty
  pendingDispatches := PendingDispatchTable.empty
  nextRuntimeSessionToken := 1
  sessionOpenTotal := 0
  sessionRevokeTotal := 0
  counters := {}

def clearIngressSources : CommandIngressAuthority :=
  { g with
    ingressConfigs := fun _ => {}
    activeSessions := fun _ => {}
    sequenceWindow := SlotTable.empty
    pendingDispatches := PendingDispatchTable.empty
    nextRuntimeSessionToken := 1 }

variable (p : Port)

def setSession (session : ActiveSessionState) : CommandIngressAuthority :=
  { g with activeSessions := Function.update g.activeSessions p session }

def clearActiveSession : CommandIngressAuthority := g.setSession p {}

def resetSource (identity : AuthorityLinkIdentity) (role : AuthorityLinkRole) :
    CommandIngressAuthority :=
  { g with sequenceWindow := CommandSequenceWindow.resetSource g.sequenceWindow p identity role }

/-- Forget the window entries of the session that is open on p, if one is. -/
def resetOpenSource : CommandIngressAuthority :=
  let session := g.activeSessions p
  if session.isOpen then g.resetSource p session.linkIdentity session.linkRole else g

def reconfigureIngressSource (config : AuthorityConfig) : CommandIngressAuthority :=
  let g := (g.resetOpenSource p).clearActiveSession p
  { g with ingressConfigs := Function.update g.ingressConfigs p config }

def notifySessionRevoked (session : ActiveSessionState) (reason : UInt32)
    (notifyObserver : Bool) : List GateOutput :=
  if notifyObserver then
    [.sessionRevoked p (g.ingressConfigs p) session.sessionId session.lastAcceptedSequence reason]
  else []

/-- The common end of both revocation paths: drop the window entries, count, notify, clear. -/
def closeSession (reason : UInt32) (notifyObserver : Bool) :
    CommandIngressAuthority × List GateOutput :=
  let session := g.activeSessions p
  let g := g.resetSource p session.linkIdentity session.linkRole
  let g := { g with sessionRevokeTotal := g.sessionRevokeTotal + 1 }
  (g.clearActiveSession p, g.notifySessionRevoked p session reason notifyObserver)

def revokeIngressSource (reason : UInt32) (notifyObserver : Bool) :
    CommandIngressAuthority × List GateOutput :=
  if !(g.activeSessions p).isOpen then (g, []) else g.closeSession p reason notifyObserver

def revokeSecureSession (serviceId : UInt8) (reason : UInt32) (notifyObserver : Bool) :
    CommandIngressAuthority × List GateOutput :=
  let session := g.activeSessions p
  if !session.isOpen || !session.secureAuthenticated || session.serviceId ≠ serviceId then (g, [])
  else g.closeSession p reason notifyObserver

def authRevokedIn (revocation : SecureAuthRevocation) : CommandIngressAuthority × List GateOutput :=
  g.revokeSecureSession revocation.ingressPort revocation.serviceId revocation.reason true

def nextRuntimeSessionToken_ : UInt32 × CommandIngressAuthority :=
  let token := if g.nextRuntimeSessionToken = 0 then 1 else g.nextRuntimeSessionToken
  let next := if token + 1 = 0 then 1 else token + 1
  (token, { g with nextRuntimeSessionToken := next })

def synthesizeSecureSessionFromAuthGrant (config : AuthorityConfig)
    (grant : SecureAuthGrant) : CommandIngressAuthority × List GateOutput :=
  let replaced := (g.activeSessions p).isOpen
  let g := g.resetOpenSource p
  let (token, g) := g.nextRuntimeSessionToken_
  let session : ActiveSessionState :=
    { isOpen := true
      secureAuthenticated := true
      linkIdentity := config.identity
      linkRole := config.role
      serviceId := grant.serviceId
      sessionId := token
      lastAcceptedSequence := 0
      secureSessionKey := grant.sessionKey }
  let g := (g.setSession p session).resetSource p config.identity config.role
  ({ g with sessionOpenTotal := g.sessionOpenTotal + 1 },
    [.sessionOpened p config token session.lastAcceptedSequence true replaced])

def authGrantedIn (grant : SecureAuthGrant) : CommandIngressAuthority × List GateOutput :=
  let config := g.ingressConfigs grant.ingressPort
  if !config.valid || !isCommManagedAuthority config ||
      secureServiceIdForConfig config ≠ grant.serviceId then (g, [])
  else g.synthesizeSecureSessionFromAuthGrant grant.ingressPort config grant

def countReject (c : RejectCounters) (config : AuthorityConfig) : GateRejection → RejectCounters
  | .authority _ decision =>
    let c := { c with rejectTotal := c.rejectTotal + 1 }
    let c :=
      match decision.reason with
      | .policyDenied | .envelopeRequired => { c with rejectPolicy := c.rejectPolicy + 1 }
      | .malformedRestricted => { c with rejectMalformed := c.rejectMalformed + 1 }
      | .invalidConfig => { c with rejectConfig := c.rejectConfig + 1 }
      | .unknownOpcodeRestricted => { c with rejectUnknownOpcode := c.rejectUnknownOpcode + 1 }
      | .none => c
    if config.identity = .uhf && config.role = .backup then
      { c with rejectUhfBackup := c.rejectUhfBackup + 1 }
    else c
  | .envelope _ => { c with envelopeRejectedTotal := c.envelopeRejectedTotal + 1 }
  | .secure _ reason =>
    let c := { c with secureCommandRejectTotal := c.secureCommandRejectTotal + 1 }
    if reason = .badMac then
      { c with secureCommandRejectBadMac := c.secureCommandRejectBadMac + 1 }
    else if reason = .authRequired || reason = .serviceMismatch then
      { c with secureCommandRejectNoAuth := c.secureCommandRejectNoAuth + 1 }
    else c

def rejectStatus (context : UInt32) : GateRejection → GateOutput
  | .authority opcode decision => .seqCmdStatusOut p opcode context decision.response
  | .envelope opcode => .seqCmdStatusOut p opcode context .formatError
  | .secure opcode reason =>
    .seqCmdStatusOut p opcode context (secureCommandRejectResponse reason)

/-- rejectCommand, rejectEnvelope and rejectSecureCommand: count and reply. -/
def reject (context : UInt32) (r : GateRejection) : CommandIngressAuthority × List GateOutput :=
  ({ g with counters := countReject g.counters (g.ingressConfigs p) r }, [rejectStatus p context r])

/-- The activity calls that follow an accepted sequence number on an open session. -/
def updateAcceptedSessionSequence (sequenceNumber : UInt32) :
    CommandIngressAuthority × List GateOutput :=
  let session := g.activeSessions p
  if !session.isOpen then (g, [])
  else
    let session := { session with lastAcceptedSequence := sequenceNumber }
    let activity : List GateOutput :=
      if session.secureAuthenticated then
        [.authActivityOut ⟨p, session.serviceId, sequenceNumber⟩]
      else []
    (g.setSession p session,
      activity ++ [.sessionActivity p (g.ingressConfigs p) session.sessionId sequenceNumber])

def rememberPendingDispatch (context : UInt32) : CommandIngressAuthority :=
  { g with pendingDispatches := g.pendingDispatches.remember p context }

structure SecureAdmission where
  sequenceNumber : UInt32
  innerOpcode : UInt32
  innerCommand : Bytes
  request : Option SequenceControlRequest
  deriving DecidableEq

/-- The checks of handleSecureCommandV2 that come before the sequence window. -/
def admitSecureCommandV2 (hmac : KeyedHash) (p : Port) (context : UInt32) (outerPacket : CmdPacket) :
    Except GateRejection SecureAdmission :=
  let config := g.ingressConfigs p
  let session := g.activeSessions p
  let secureCommand := (parseSecureCommandV2 outerPacket).1
  let innerCommand := (parseSecureCommandV2 outerPacket).2
  let innerOpcode := secureCommand.metadata.innerOpcode
  if !secureCommand.valid then .error (.secure secureCommand.responseOpcode secureCommand.reason)
  else if secureServiceIdForConfig config = 0 || !session.isOpen || !session.secureAuthenticated then
    .error (.secure innerOpcode .authRequired)
  else if session.serviceId ≠ secureServiceIdForConfig config then
    .error (.secure innerOpcode .serviceMismatch)
  else
    let authReject := verifySecureCommandV2Auth hmac secureCommand innerCommand session.secureSessionKey
    if authReject ≠ .none then .error (.secure innerOpcode authReject)
    else
      let innerDecision := evaluateCommandAuthority config innerOpcode
      if !innerDecision.allow then .error (.authority innerOpcode innerDecision)
      else if isDeniedDirectOfficialSequencingOpcode innerOpcode then
        .error (.authority innerOpcode { reason := .policyDenied, response := .validationError })
      else if isGovernedSequenceWrapperOpcode innerOpcode then
        match CmdPacket.deserializeFrom innerCommand with
        | none => .error (.secure innerOpcode .invalidInnerCommand)
        | some innerPacket =>
          match parseSequenceControlRequest innerOpcode innerPacket p config context with
          | none => .error (.secure innerOpcode .invalidInnerCommand)
          | some request =>
            .ok ⟨secureCommand.metadata.sequenceNumber, innerOpcode, innerCommand, some request⟩
      else .ok ⟨secureCommand.metadata.sequenceNumber, innerOpcode, innerCommand, none⟩

def handOn (controller : SequenceControlRequest → SequenceControlResult) (p : Port)
    (context : UInt32) (a : SecureAdmission) : CommandIngressAuthority × List GateOutput :=
  match a.request with
  | some request =>
    let result := controller request
    let status := .seqCmdStatusOut p a.innerOpcode context (CmdResponse.ofCode result.cmdResponse)
    if result.accepted then
      let (g, activity) := g.updateAcceptedSessionSequence p a.sequenceNumber
      (g, .sequenceControlOut request :: activity ++ if result.deferred then [] else [status])
    else (g, [.sequenceControlOut request, status])
  | none =>
    let (g, activity) := g.updateAcceptedSessionSequence p a.sequenceNumber
    (g.rememberPendingDispatch p context, activity ++ [.seqCmdBuffOut p a.innerCommand context])

def handleSecureCommandV2 (hmac : KeyedHash)
    (controller : SequenceControlRequest → SequenceControlResult) (p : Port) (context : UInt32)
    (outerPacket : CmdPacket) : CommandIngressAuthority × List GateOutput :=
  match g.admitSecureCommandV2 hmac p context outerPacket with
  | .error r => g.reject p context r
  | .ok a =>
    let key := sessionKeyFor p (g.ingressConfigs p) (g.activeSessions p).sessionId
    match CommandSequenceWindow.evaluateAndAccept g.sequenceWindow key a.sequenceNumber with
    | (.accepted, window) => { g with sequenceWindow := window }.handOn controller p context a
    | (.rejectedNotIncreasing, _) =>
      g.reject p context (.secure a.innerOpcode .sequenceNotIncreasing)
    | (.rejectedTableFull, _) => g.reject p context (.secure a.innerOpcode .sequenceWindowFull)

/-- The branch for ports outside COMM management: no session, plain packets. -/
def handleDirectCommand (controller : SequenceControlRequest → SequenceControlResult) (p : Port)
    (data : Bytes) (context : UInt32) (cmdPkt : CmdPacket) :
    CommandIngressAuthority × List GateOutput :=
  let config := g.ingressConfigs p
  let opcode := cmdPkt.opcode
  if isDeniedDirectOfficialSequencingOpcode opcode then
    g.reject p context (.authority opcode { reason := .policyDenied, response := .validationError })
  else if isGovernedSequenceWrapperOpcode opcode then
    match parseSequenceControlRequest opcode cmdPkt p config context with
    | none =>
      g.reject p context
        (.authority opcode { reason := .malformedRestricted, response := .formatError })
    | some request =>
      let result := controller request
      let status := .seqCmdStatusOut p opcode context (CmdResponse.ofCode result.cmdResponse)
      (g, .sequenceControlOut request ::
        if result.accepted && result.deferred then [] else [status])
  else
    let decision := evaluateCommandAuthority config opcode
    if decision.allow then
      (g.rememberPendingDispatch p context, [.seqCmdBuffOut p data context])
    else g.reject p context (.authority opcode decision)

def seqCmdBuffIn (hmac : KeyedHash) (controller : SequenceControlRequest → SequenceControlResult)
    (p : Port) (data : Bytes) (context : UInt32) : CommandIngressAuthority × List GateOutput :=
  let config := g.ingressConfigs p
  let stat := CmdPacket.deserializeFrom data
  if !config.valid then
    let opcode := (stat.map CmdPacket.opcode).getD unknownCommandOpcode
    g.reject p context (.authority opcode { reason := .invalidConfig, response := .executionError })
  else
    match stat with
    | none =>
      if requiresAuthenticatedEnvelope config then
        g.reject p context (.authority unknownCommandOpcode
          { reason := .malformedRestricted, response := .formatError })
      else (g, [.seqCmdBuffOut p data context])
    | some cmdPkt =>
      if cmdPkt.opcode = obcSecureCommandV2Opcode then
        g.handleSecureCommandV2 hmac controller p context cmdPkt
      else if cmdPkt.opcode = obcCommandEnvelopeV1Opcode then
        g.reject p context (.envelope cmdPkt.opcode)
      else if requiresAuthenticatedEnvelope config then
        g.reject p context (.authority cmdPkt.opcode (envelopeRequiredDecision cmdPkt.opcode))
      else g.handleDirectCommand controller p data context cmdPkt

def seqCmdStatusIn (opcode cmdSeq : UInt32) (response : CmdResponse) :
    CommandIngressAuthority × List GateOutput :=
  ({ g with pendingDispatches := g.pendingDispatches.consume p cmdSeq },
    [.seqCmdStatusOut p opcode cmdSeq response])

def sequenceControlStatusIn (status : SequenceControlStatus) :
    CommandIngressAuthority × List GateOutput :=
  (g, [.seqCmdStatusOut status.ingressPort status.originalOpcode status.originalCmdSeq
    (CmdResponse.ofCode status.cmdResponse)])

end CommandIngressAuthority

/-- Everything that can happen to the command gate. -/
inductive GateInput where
  | seqCmdBuffIn (port : Port) (data : Bytes) (context : UInt32)
      (controller : SequenceControlRequest → SequenceControlResult)
  | seqCmdStatusIn (port : Port) (opcode cmdSeq : UInt32) (response : CmdResponse)
  | authGrantedIn (grant : SecureAuthGrant)
  | authRevokedIn (revocation : SecureAuthRevocation)
  | sequenceControlStatusIn (status : SequenceControlStatus)
  | reconfigureIngressSource (port : Port) (config : AuthorityConfig)
  | revokeIngressSource (port : Port) (reason : UInt32) (notifyObserver : Bool)

def CommandIngressAuthority.step (hmac : KeyedHash) (g : CommandIngressAuthority) :
    GateInput → CommandIngressAuthority × List GateOutput
  | .seqCmdBuffIn p data context controller => g.seqCmdBuffIn hmac controller p data context
  | .seqCmdStatusIn p opcode cmdSeq response => g.seqCmdStatusIn p opcode cmdSeq response
  | .authGrantedIn grant => g.authGrantedIn grant
  | .authRevokedIn revocation => g.authRevokedIn revocation
  | .sequenceControlStatusIn status => g.sequenceControlStatusIn status
  | .reconfigureIngressSource p config => (g.reconfigureIngressSource p config, [])
  | .revokeIngressSource p reason notifyObserver => g.revokeIngressSource p reason notifyObserver

def commandGate (hmac : KeyedHash) : Machine CommandIngressAuthority GateInput GateOutput :=
  ⟨CommandIngressAuthority.step hmac⟩

end ObcFlight
