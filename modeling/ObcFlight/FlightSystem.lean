import ObcFlight.Action
import ObcFlight.FileIngressAuthority
import ObcFlight.SecureLink

/-!
# Command and file ingress as the topology wires them

The authorizer reports grants and revocations to both gates, both gates report activity
to the authorizer, and the link controller decides which band is primary: it revokes,
invalidates and reconfigures both ports whenever that choice is made. All these calls are
synchronous, so one operation of the outside world is one step.

What the link controller reads from link probes and fault detection is an input of the
operation that reads it. Its callbacks on session changes only touch its own
observability state and are left out.
-/

namespace ObcFlight

inductive CommPolicyTransitionReason where
  | operatorSwitch
  | linkFailover
  | passEnd
  | recoveryNoBackup
  | initialBootstrap
  deriving DecidableEq

def CommPolicyTransitionReason.toCode : CommPolicyTransitionReason → UInt32
  | .operatorSwitch => 1
  | .linkFailover => 2
  | .passEnd => 3
  | .recoveryNoBackup => 4
  | .initialBootstrap => 5

def withRole (config : AuthorityConfig) (role : AuthorityLinkRole) : AuthorityConfig :=
  { config with role := role }

def fileIngressAllowedForConfig (config : AuthorityConfig) : Bool :=
  config.valid &&
    ((config.identity = .sband && config.role = .primary) ||
      (config.identity = .uhf && config.role = .primaryAfterFailover))

structure CommController where
  primaryCommandLink : CommBand := .sband
  sbandIngressConfig : AuthorityConfig := {}
  sbandBackupIngressConfig : AuthorityConfig := {}
  uhfBackupIngressConfig : AuthorityConfig := {}
  uhfPrimaryIngressConfig : AuthorityConfig := {}
  sessionRevokeTotal : UInt32 := 0

def sbandIngressPort : Port := 0

def uhfIngressPort : Port := 1

/-- The profile that a port has while the controller's primary band stands. -/
def CommController.profile (c : CommController) (p : Port) : AuthorityConfig :=
  if p = sbandIngressPort then
    if c.primaryCommandLink = .sband then c.sbandIngressConfig else c.sbandBackupIngressConfig
  else
    if c.primaryCommandLink = .uhf then c.uhfPrimaryIngressConfig else c.uhfBackupIngressConfig

structure FlightSystem where
  link : SecureLink
  files : FileIngressAuthority
  comm : CommController

inductive SystemInput where
  | handshakeUplinkIn (port : Port) (data : Bytes) (randomNonce : Option RandomNonce) (now : FwTime)
  | authorizerSchedIn (now : FwTime)
  | seqCmdBuffIn (port : Port) (data : Bytes) (context : UInt32)
      (controller : SequenceControlRequest → SequenceControlResult) (now : FwTime)
  | seqCmdStatusIn (port : Port) (opcode cmdSeq : UInt32) (response : CmdResponse)
  | sequenceControlStatusIn (status : SequenceControlStatus)
  | bufferSendIn (port : Port) (buffer : FwBuffer) (lstat : Lstat) (now : FwTime)
  | bufferReturnIn (buffer : FwBuffer) (now : FwTime)
  | setActiveBand (band : CommBand) (available : Bool)
  | performRecoveryLinkFailover (currentAvailable backupAvailable fdirFaultLatched : Bool)
  | configureRuntime (initialPrimaryBand : CommBand)

inductive SystemOutput where
  | link (o : LinkOutput)
  | files (o : FileIngressOutput)
  | cmdResponse (response : CmdResponse)
  | recoveryResult (result : RecoveryCommActionResult)
  deriving DecidableEq

abbrev SystemAction := Action FlightSystem SystemOutput

namespace FlightSystem

/-- The authorizer's second output port of each kind goes to the file gate. -/
def notifyFiles (f : FileIngressAuthority) : List LinkOutput → FileIngressAuthority
  | [] => f
  | .authorizer (.authGrantedOut grant) :: os => notifyFiles (f.authGrantedIn grant) os
  | .authorizer (.authRevokedOut revocation) :: os => notifyFiles (f.authRevokedIn revocation) os
  | _ :: os => notifyFiles f os

def notifyAuthorizer (now : FwTime) (a : SecureLinkAuthorizer) :
    List FileIngressOutput → SecureLinkAuthorizer
  | [] => a
  | .authActivityOut activity :: os => notifyAuthorizer now (a.authActivityIn activity now) os
  | _ :: os => notifyAuthorizer now a os

/-- An input to the authorizer or the command gate, with what it means for the file gate. -/
def linkAction (hmac : KeyedHash) (i : LinkInput) : SystemAction := fun s =>
  let (link, outputs) := s.link.step hmac i
  ({ s with link := link, files := notifyFiles s.files outputs }, outputs.map .link)

def filesAction (format : FilePacketFormat) (now : FwTime) (i : FileIngressInput) : SystemAction :=
  fun s =>
    let (files, outputs) := s.files.step format i
    ({ s with
        link := { s.link with authorizer := notifyAuthorizer now s.link.authorizer outputs }
        files := files },
      outputs.map .files)

def countRevocation : SystemAction := .modify fun s =>
  { s with comm := { s.comm with sessionRevokeTotal := s.comm.sessionRevokeTotal + 1 } }

def revokeIngressSource (hmac : KeyedHash) (p : Port) (reason : UInt32) : SystemAction :=
  .guarded (fun s => (s.link.gate.activeSessions p).isOpen)
    ((linkAction hmac (.revokeIngressSource p reason false)).seq countRevocation)

def secureAuthInvalidate (hmac : KeyedHash) (p : Port) (serviceId : UInt8) : SystemAction :=
  if serviceId = 0 then .skip
  else linkAction hmac (.authInvalidateIn ⟨p, serviceId, revocationInvalidated⟩)

def reconfigureIngressSource (hmac : KeyedHash) (p : Port) (config : AuthorityConfig) :
    SystemAction := fun s =>
  let hadOpenSession := (s.link.gate.activeSessions p).isOpen
  (linkAction hmac (.reconfigureIngressSource p config)).seq
    (if hadOpenSession then countRevocation else .skip) s

def publishFileIngressPolicy (p : Port) (config : AuthorityConfig) : SystemAction := .modify fun s =>
  { s with
    files := s.files.filePolicyIn
      ⟨p, config.identity, config.role, fileIngressAllowedForConfig config⟩ }

def reconfigureIngressProfile (hmac : KeyedHash) (p : Port) (config : AuthorityConfig)
    (reason : UInt32) : SystemAction :=
  (revokeIngressSource hmac p reason).seq
    ((secureAuthInvalidate hmac p (secureServiceIdForAuthorityIdentity config.identity)).seq
      ((reconfigureIngressSource hmac p config).seq (publishFileIngressPolicy p config)))

def applyAuthorityProfiles (hmac : KeyedHash) (reason : UInt32) : SystemAction := fun s =>
  (reconfigureIngressProfile hmac sbandIngressPort (s.comm.profile sbandIngressPort) reason).seq
    (reconfigureIngressProfile hmac uhfIngressPort (s.comm.profile uhfIngressPort) reason) s

def selectPrimary (band : CommBand) : SystemAction := .modify fun s =>
  { s with comm := { s.comm with primaryCommandLink := band } }

def setPrimaryLinks (hmac : KeyedHash) (band : CommBand) (reason : CommPolicyTransitionReason) :
    SystemAction :=
  (selectPrimary band).seq (applyAuthorityProfiles hmac reason.toCode)

def respond (o : SystemOutput) : SystemAction := fun s => (s, [o])

def setActiveBandForRuntime (hmac : KeyedHash) (band : CommBand) (available : Bool) : SystemAction :=
  if !available then respond (.cmdResponse .executionError)
  else (setPrimaryLinks hmac band .operatorSwitch).seq (respond (.cmdResponse .ok))

def CommBand.backup : CommBand → CommBand
  | .sband => .uhf
  | .uhf => .sband

def CommBand.ingressPort : CommBand → Port
  | .sband => sbandIngressPort
  | .uhf => uhfIngressPort

/-- With no backup to go to, the primary port loses its session and its authentication. -/
def revokePrimary (hmac : KeyedHash) : SystemAction := fun s =>
  let p := CommBand.ingressPort s.comm.primaryCommandLink
  let config := s.link.gate.ingressConfigs p
  (revokeIngressSource hmac p CommPolicyTransitionReason.recoveryNoBackup.toCode).seq
    (secureAuthInvalidate hmac p (secureServiceIdForAuthorityIdentity config.identity)) s

def performRecoveryLinkFailoverForRuntime (hmac : KeyedHash)
    (currentAvailable backupAvailable fdirFaultLatched : Bool) : SystemAction := fun s =>
  let currentPrimary := s.comm.primaryCommandLink
  let report (result : RecoveryCommActionResult) (t : FlightSystem × List SystemOutput) :=
    (t.1, t.2 ++ [SystemOutput.recoveryResult { result with
      sessionsRevoked := t.1.comm.sessionRevokeTotal - s.comm.sessionRevokeTotal
      finalPrimaryCommandLink := t.1.comm.primaryCommandLink }])
  if currentAvailable && !fdirFaultLatched then
    report { alreadyOnHealthyPrimary := true } (s, [])
  else if backupAvailable then
    report { switched := CommBand.backup currentPrimary ≠ currentPrimary }
      (setPrimaryLinks hmac (CommBand.backup currentPrimary) .linkFailover s)
  else report { noHealthyBackup := true } (revokePrimary hmac s)

def storeProfiles (sbandIngressConfig uhfBackupIngressConfig : AuthorityConfig) : SystemAction :=
  .modify fun s =>
    { s with
      comm := { s.comm with
        sbandIngressConfig := sbandIngressConfig
        sbandBackupIngressConfig := withRole sbandIngressConfig .backup
        uhfBackupIngressConfig := uhfBackupIngressConfig
        uhfPrimaryIngressConfig := withRole uhfBackupIngressConfig .primaryAfterFailover } }

def configureRuntime (hmac : KeyedHash) (initialPrimaryBand : CommBand)
    (sbandIngressConfig uhfBackupIngressConfig : AuthorityConfig) : SystemAction :=
  (storeProfiles sbandIngressConfig uhfBackupIngressConfig).seq
    ((Action.guarded (fun s => initialPrimaryBand ≠ s.comm.primaryCommandLink)
        (setPrimaryLinks hmac initialPrimaryBand .initialBootstrap)).seq
      (applyAuthorityProfiles hmac 0))

def action (hmac : KeyedHash) (format : FilePacketFormat) : SystemInput → SystemAction
  | .handshakeUplinkIn p data randomNonce now =>
    linkAction hmac (.handshakeUplinkIn p data randomNonce now)
  | .authorizerSchedIn now => linkAction hmac (.schedIn now)
  | .seqCmdBuffIn p data context controller now =>
    linkAction hmac (.seqCmdBuffIn p data context controller now)
  | .seqCmdStatusIn p opcode cmdSeq response =>
    linkAction hmac (.seqCmdStatusIn p opcode cmdSeq response)
  | .sequenceControlStatusIn status => linkAction hmac (.sequenceControlStatusIn status)
  | .bufferSendIn p buffer lstat now => filesAction format now (.bufferSendIn p buffer lstat)
  | .bufferReturnIn buffer now => filesAction format now (.bufferReturnIn buffer)
  | .setActiveBand band available => setActiveBandForRuntime hmac band available
  | .performRecoveryLinkFailover currentAvailable backupAvailable fdirFaultLatched =>
    performRecoveryLinkFailoverForRuntime hmac currentAvailable backupAvailable fdirFaultLatched
  | .configureRuntime initialPrimaryBand => fun s =>
    configureRuntime hmac initialPrimaryBand s.comm.sbandIngressConfig
      s.comm.uhfBackupIngressConfig s

/-- What the deployment configures. -/
structure TopologyState where
  sbandCommandAuthorityConfig : AuthorityConfig
  uhfCommandAuthorityConfig : AuthorityConfig
  sbandSecureAuthKeyBytes : Bytes
  uhfSecureAuthKeyBytes : Bytes
  commandAuthModuleSerial : ModuleSerial
  fileIngressPolicy : FileIngressPolicy
  initialCommBand : CommBand

def configureSecureAuthIngressForAuthority (a : SecureLinkAuthorizer) (p : Port)
    (config : AuthorityConfig) (state : TopologyState) : Option SecureLinkAuthorizer :=
  let keyBytes :=
    match config.identity with
    | .sband => state.sbandSecureAuthKeyBytes
    | .uhf => state.uhfSecureAuthKeyBytes
    | .unknown => []
    | .devDirect => []
    | .internal => []
  let serviceId := secureServiceIdForAuthorityIdentity config.identity
  if !config.valid || serviceId = 0 then some a
  else a.configureIngressService p serviceId keyBytes

def setupTopology (hmac : KeyedHash) (state : TopologyState) : Option FlightSystem :=
  let gate := CommandIngressAuthority.initial.clearIngressSources
  let gate := gate.reconfigureIngressSource sbandIngressPort state.sbandCommandAuthorityConfig
  let gate := gate.reconfigureIngressSource uhfIngressPort state.uhfCommandAuthorityConfig
  let a := SecureLinkAuthorizer.initial state.commandAuthModuleSerial fun _ => none
  match configureSecureAuthIngressForAuthority a sbandIngressPort
      state.sbandCommandAuthorityConfig state with
  | none => none
  | some a =>
    match configureSecureAuthIngressForAuthority a uhfIngressPort
        state.uhfCommandAuthorityConfig state with
    | none => none
    | some a =>
      let s : FlightSystem := ⟨⟨a, gate⟩, FileIngressAuthority.initial state.fileIngressPolicy, {}⟩
      some (configureRuntime hmac state.initialCommBand state.sbandCommandAuthorityConfig
        state.uhfCommandAuthorityConfig s).1

end FlightSystem

def flightSystem (hmac : KeyedHash) (format : FilePacketFormat) :
    Machine FlightSystem SystemInput SystemOutput :=
  ⟨fun s i => FlightSystem.action hmac format i s⟩

end ObcFlight
