import ObcFlight.CommandGate
import ObcFlight.Numerals
import Mathlib.Data.List.DropRight

/-!
# The file ingress gate

FileIngressAuthority stands between the two uplinks and the framework's file uplink. A
START packet is checked against the staging policy, the port's authentication and the
port's role, and its destination is rewritten into the staging directory; every other
packet of a transfer passes or falls with the state of its port.

The framework's file packet reader and writer are parameters, and so is what lstat says
about the staging directory when a START arrives, and what the operating system answers while
the policy is configured. Calls that take a C string see a text up to its first zero byte.
-/

namespace ObcFlight

open WireCodec

inductive FileIngressRejectReason where
  | none
  | notConfigured
  | emptyPath
  | absolutePath
  | parentReference
  | prefixMismatch
  | subdirectoryUnsupported
  | invalidFilename
  | symlinkEscape
  | existingPathInvalid
  | aliasCreateFailed
  | runtimeRewriteFailed
  deriving DecidableEq

def FileIngressRejectReason.toCode : FileIngressRejectReason → UInt32
  | .none => 0
  | .notConfigured => 1
  | .emptyPath => 2
  | .absolutePath => 3
  | .parentReference => 4
  | .prefixMismatch => 5
  | .subdirectoryUnsupported => 6
  | .invalidFilename => 7
  | .symlinkEscape => 8
  | .existingPathInvalid => 9
  | .aliasCreateFailed => 10
  | .runtimeRewriteFailed => 11

inductive PacketDropReason where
  | deniedTransfer
  | invalidPacket
  | authRequired
  | roleDenied
  deriving DecidableEq

def PacketDropReason.toCode : PacketDropReason → UInt32
  | .deniedTransfer => 100
  | .invalidPacket => 101
  | .authRequired => 102
  | .roleDenied => 103

/-- What lstat finds at a path; failed is any error other than a missing entry. -/
inductive LstatResult where
  | symbolicLink
  | directory
  | otherEntry
  | noEntry
  | failed
  deriving DecidableEq

abbrev Lstat := Bytes → LstatResult

def slash : UInt8 := 47

def backslash : UInt8 := 92

def hasParentReference (path : Bytes) : Bool := (path.splitOn slash).any (· = ascii "..")

def joinPath (left right : Bytes) : Bytes :=
  if left.isEmpty then right
  else if right.isEmpty then left
  else if left.getLast? = some slash then left ++ right
  else left ++ [slash] ++ right

def parentDirectory (path : Bytes) : Bytes :=
  if !path.contains slash then ascii "."
  else
    let front := (path.rdropWhile (· ≠ slash)).dropLast
    if front.isEmpty then [slash] else front

def fnv1a32 (value : Bytes) : UInt32 :=
  value.foldl (fun hash byte => (hash ^^^ byte.toUInt32) * 16777619) 2166136261

/-- What the operating system answers while the policy is configured. -/
structure PolicyHost where
  getcwd : Option Bytes
  makeDirectories : Bytes → Bool
  realpath : Bytes → Option Bytes
  lstat : Lstat
  readlink : Bytes → Option Bytes
  unlink : Bytes → Bool
  /-- Whether the alias is there once a stale one has been removed. -/
  pathExists : Bytes → Bool
  symlink : Bytes → Bytes → Bool

namespace PolicyHost

def canonicalizeExistingPath (host : PolicyHost) (path : Bytes) : Option Bytes :=
  (host.realpath (cString path)).map cString

/-- The alias is a link to the staging root, or a stale link could be replaced by one. -/
def linkAlias (host : PolicyHost) (aliasPath canonicalPhysicalRoot : Bytes) : Bool :=
  (match host.lstat (cString aliasPath) with
    | .noEntry => true
    | .symbolicLink =>
      match (host.readlink (cString aliasPath)).map cString with
      | none => false
      | some target =>
        let targetPath :=
          if !target.isEmpty && target.head? ≠ some slash then joinPath (parentDirectory aliasPath) target
          else target
        match host.canonicalizeExistingPath targetPath with
        | none => false
        | some canonicalTargetPath =>
          canonicalTargetPath = canonicalPhysicalRoot || host.unlink (cString aliasPath)
    | _ => false) &&
  (host.pathExists (cString aliasPath) ||
    host.symlink (cString canonicalPhysicalRoot) (cString aliasPath))

end PolicyHost

structure FileIngressPolicy where
  configured : Bool := false
  logicalPrefix : Bytes := []
  physicalStagingRoot : Bytes := []
  runtimePrefix : Bytes := []

namespace FileIngressPolicy

def logicalPrefixConstant : Bytes := ascii ".sequence-staging/"

def physicalStagingSuffix : Bytes := ascii "sequences/staging"

/-- The name of the link in the working directory that stands for the staging root. -/
def aliasName (canonicalPhysicalRoot : Bytes) : Bytes :=
  ascii ".stg-" ++ bytesToHex (u32.encode (fnv1a32 canonicalPhysicalRoot))

/-- The policy after configure; it stays unconfigured when a step fails. -/
def configure (host : PolicyHost) (runtimeRoot workingRoot : Bytes) : FileIngressPolicy :=
  let cleared : FileIngressPolicy := { logicalPrefix := logicalPrefixConstant }
  let runtimePath := if runtimeRoot.isEmpty then ascii "runtime" else runtimeRoot
  match if workingRoot.isEmpty then host.getcwd.map cString else some workingRoot with
  | none => cleared
  | some resolvedWorkingRoot =>
    let physicalRoot := joinPath runtimePath physicalStagingSuffix
    if !host.makeDirectories physicalRoot then cleared
    else
      match host.canonicalizeExistingPath physicalRoot with
      | none => cleared
      | some canonicalPhysicalRoot =>
        let aliasPath := joinPath resolvedWorkingRoot (aliasName canonicalPhysicalRoot)
        if !host.linkAlias aliasPath canonicalPhysicalRoot then cleared
        else
          { configured := true
            logicalPrefix := logicalPrefixConstant
            physicalStagingRoot := canonicalPhysicalRoot
            runtimePrefix := aliasName canonicalPhysicalRoot ++ [slash] }

/-- The canonical physical path, or the first check that fails. -/
def validateDestinationPath (policy : FileIngressPolicy) (lstat : Lstat) (destinationPath : Bytes) :
    Except FileIngressRejectReason Bytes :=
  if !policy.configured then .error .notConfigured
  else if destinationPath.isEmpty then .error .emptyPath
  else if destinationPath.head? = some slash then .error .absolutePath
  else if hasParentReference destinationPath then .error .parentReference
  else if !policy.logicalPrefix.isPrefixOf destinationPath then .error .prefixMismatch
  else
    let leaf := destinationPath.drop policy.logicalPrefix.length
    if leaf.isEmpty || leaf = ascii "." || leaf = ascii ".." then .error .invalidFilename
    else if leaf.contains slash || leaf.contains backslash then .error .subdirectoryUnsupported
    else
      let candidate := joinPath policy.physicalStagingRoot leaf
      match lstat (cString candidate) with
      | .symbolicLink => .error .symlinkEscape
      | .directory | .failed => .error .existingPathInvalid
      | .otherEntry => .ok candidate
      | .noEntry => .ok candidate

end FileIngressPolicy

structure StartPacket where
  fileSize : UInt32
  sourcePath : Bytes
  destinationPath : Bytes
  deriving DecidableEq

inductive FilePacket where
  | startPacket (start : StartPacket)
  | dataPacket
  | endPacket
  | cancelPacket
  deriving DecidableEq

def FilePacket.headerType : FilePacket → UInt32
  | .startPacket _ => 0
  | .dataPacket => 1
  | .endPacket => 2
  | .cancelPacket => 3

/-- The framework's reader of file packets, and its writer of START packets over the
bytes of a buffer: what the buffer then holds and whether the packet fitted. -/
structure FilePacketFormat where
  fromBuffer : Bytes → Option FilePacket
  toBuffer : StartPacket → Bytes → Bytes × Bool

def fwPacketFile : UInt16 := 3

def fwPacketUnknown : UInt16 := 0x00FF

/-- A framework buffer: where its bytes live and what they are. -/
structure FwBuffer where
  address : ℕ
  data : Bytes
  deriving DecidableEq

structure FileIngressPolicyState where
  ingressPort : Port
  linkIdentity : AuthorityLinkIdentity
  linkRole : AuthorityLinkRole
  fileAllowed : Bool
  deriving DecidableEq

structure IngressRuntimeState where
  dropTransfer : Bool := false
  secureAuthActive : Bool := false
  serviceId : UInt8 := 0
  fileAllowed : Bool := false
  deriving DecidableEq

structure FileIngressAuthority where
  policy : FileIngressPolicy
  ingressState : Port → IngressRuntimeState
  /-- The port each forwarded buffer came from, by the buffer's address. -/
  forwardOrigins : ℕ → Option Port
  acceptedStarts : UInt32
  rejectedStarts : UInt32
  droppedPackets : UInt32

inductive FileIngressOutput where
  | bufferSendOut (buffer : FwBuffer)
  | bufferReturnOut (port : Port) (buffer : FwBuffer)
  | authActivityOut (activity : SecureAuthActivity)
  | startAccepted (path : Bytes)
  | startRejected (path : Bytes) (reason : UInt32)
  | packetDropped (packetType : UInt32) (reason : PacketDropReason)
  | assertionFailed
  deriving DecidableEq

inductive FileIngressInput where
  | bufferSendIn (port : Port) (buffer : FwBuffer) (lstat : Lstat)
  | bufferReturnIn (buffer : FwBuffer)
  | authGrantedIn (grant : SecureAuthGrant)
  | authRevokedIn (revocation : SecureAuthRevocation)
  | filePolicyIn (policy : FileIngressPolicyState)

namespace FileIngressAuthority

def initial (policy : FileIngressPolicy) : FileIngressAuthority :=
  ⟨policy, fun _ => {}, fun _ => none, 0, 0, 0⟩

variable (f : FileIngressAuthority)

def updatePort (p : Port) (state : IngressRuntimeState) : FileIngressAuthority :=
  { f with ingressState := Function.update f.ingressState p state }

def setDropTransfer (p : Port) (enabled : Bool) : FileIngressAuthority :=
  f.updatePort p { f.ingressState p with dropTransfer := enabled }

def refreshAuthActivity (p : Port) : List FileIngressOutput :=
  let state := f.ingressState p
  if !state.secureAuthActive || state.serviceId = 0 then []
  else [.authActivityOut ⟨p, state.serviceId, 0⟩]

def forwardBuffer (p : Port) (buffer : FwBuffer) : FileIngressAuthority × List FileIngressOutput :=
  ({ f with forwardOrigins := Function.update f.forwardOrigins buffer.address (some p) },
    [.bufferSendOut buffer])

def dropPacket (p : Port) (buffer : FwBuffer) (packetType : UInt32) (reason : PacketDropReason) :
    FileIngressAuthority × List FileIngressOutput :=
  ({ f with droppedPackets := f.droppedPackets + 1 },
    [.packetDropped packetType reason, .bufferReturnOut p buffer])

def rejectStart (p : Port) (buffer : FwBuffer) (path : Bytes) (reason : UInt32) :
    FileIngressAuthority × List FileIngressOutput :=
  ({ f.setDropTransfer p true with rejectedStarts := f.rejectedStarts + 1 },
    [.startRejected path reason, .bufferReturnOut p buffer])

/-- Why a START is refused before its destination is rewritten. -/
def startRejection (lstat : Lstat) (p : Port) (destinationPath : Bytes) : Option UInt32 :=
  match f.policy.validateDestinationPath lstat destinationPath with
  | .error reason => some reason.toCode
  | .ok _ =>
    if !(f.ingressState p).secureAuthActive then some PacketDropReason.authRequired.toCode
    else if !(f.ingressState p).fileAllowed then some PacketDropReason.roleDenied.toCode
    else none

variable (format : FilePacketFormat)

/-- The START packet's bytes with the destination moved into the staging directory. -/
def rewriteStartPacket (buffer : FwBuffer) (start : StartPacket)
    (rewrittenDestinationPath : Bytes) : FwBuffer × Bool :=
  let (rest, ok) := format.toBuffer
    { fileSize := start.fileSize
      sourcePath := cString start.sourcePath
      destinationPath := cString rewrittenDestinationPath }
    (buffer.data.drop 2)
  ({ buffer with data := buffer.data.take 2 ++ rest }, ok)

def startPacketIn (lstat : Lstat) (p : Port) (buffer : FwBuffer)
    (start : StartPacket) : FileIngressAuthority × List FileIngressOutput :=
  match f.startRejection lstat p start.destinationPath with
  | some reason => f.rejectStart p buffer start.destinationPath reason
  | none =>
    let leaf := start.destinationPath.drop FileIngressPolicy.logicalPrefixConstant.length
    let (rewritten, ok) := rewriteStartPacket format buffer start (f.policy.runtimePrefix ++ leaf)
    if !ok then
      f.rejectStart p rewritten start.destinationPath
        FileIngressRejectReason.runtimeRewriteFailed.toCode
    else
      let f := { f.setDropTransfer p false with acceptedStarts := f.acceptedStarts + 1 }
      let (f, forwarded) := f.forwardBuffer p rewritten
      (f, .startAccepted start.destinationPath :: (f.refreshAuthActivity p ++ forwarded))

def transferPacketIn (p : Port) (buffer : FwBuffer) (packet : FilePacket) :
    FileIngressAuthority × List FileIngressOutput :=
  if (f.ingressState p).dropTransfer then f.dropPacket p buffer packet.headerType .deniedTransfer
  else if !(f.ingressState p).secureAuthActive then
    (f.setDropTransfer p true).dropPacket p buffer packet.headerType .authRequired
  else if !(f.ingressState p).fileAllowed then
    (f.setDropTransfer p true).dropPacket p buffer packet.headerType .roleDenied
  else
    let (f, forwarded) := f.forwardBuffer p buffer
    (f, f.refreshAuthActivity p ++ forwarded)

/-- The file packet a buffer holds, or the packet type under which it is dropped. -/
def filePacketOf (data : Bytes) : Except UInt16 FilePacket :=
  match u16.decode data with
  | none => .error fwPacketUnknown
  | some (packetType, rest) =>
    if packetType ≠ fwPacketFile then .error packetType
    else
      match format.fromBuffer rest with
      | none => .error fwPacketFile
      | some packet => .ok packet

def bufferSendIn (p : Port) (buffer : FwBuffer) (lstat : Lstat) :
    FileIngressAuthority × List FileIngressOutput :=
  match filePacketOf format buffer.data with
  | .error packetType => f.dropPacket p buffer packetType.toUInt32 .invalidPacket
  | .ok (.startPacket start) => f.startPacketIn format lstat p buffer start
  | .ok packet => f.transferPacketIn p buffer packet

/-- A returned buffer goes back where it came from; an unknown one fails an assertion. -/
def bufferReturnIn (buffer : FwBuffer) : FileIngressAuthority × List FileIngressOutput :=
  match f.forwardOrigins buffer.address with
  | none => (f, [.assertionFailed])
  | some p =>
    ({ f with forwardOrigins := Function.update f.forwardOrigins buffer.address none },
      [.bufferReturnOut p buffer])

def authGrantedIn (grant : SecureAuthGrant) : FileIngressAuthority :=
  f.updatePort grant.ingressPort
    { f.ingressState grant.ingressPort with secureAuthActive := true, serviceId := grant.serviceId }

/-- The revocation is the one of the authentication the port holds. -/
def holdsAuth (revocation : SecureAuthRevocation) : Bool :=
  (f.ingressState revocation.ingressPort).secureAuthActive &&
    (f.ingressState revocation.ingressPort).serviceId = revocation.serviceId

def authRevokedIn (revocation : SecureAuthRevocation) : FileIngressAuthority :=
  if f.holdsAuth revocation then
    f.updatePort revocation.ingressPort
      { f.ingressState revocation.ingressPort with
        secureAuthActive := false, serviceId := 0, dropTransfer := true }
  else f

def filePolicyIn (policy : FileIngressPolicyState) : FileIngressAuthority :=
  let state := { f.ingressState policy.ingressPort with fileAllowed := policy.fileAllowed }
  f.updatePort policy.ingressPort
    (if !policy.fileAllowed then { state with dropTransfer := true } else state)

def step (f : FileIngressAuthority) :
    FileIngressInput → FileIngressAuthority × List FileIngressOutput
  | .bufferSendIn p buffer lstat => f.bufferSendIn format p buffer lstat
  | .bufferReturnIn buffer => f.bufferReturnIn buffer
  | .authGrantedIn grant => (f.authGrantedIn grant, [])
  | .authRevokedIn revocation => (f.authRevokedIn revocation, [])
  | .filePolicyIn policy => (f.filePolicyIn policy, [])

end FileIngressAuthority

def fileGate (format : FilePacketFormat) :
    Machine FileIngressAuthority FileIngressInput FileIngressOutput :=
  ⟨FileIngressAuthority.step format⟩

end ObcFlight
