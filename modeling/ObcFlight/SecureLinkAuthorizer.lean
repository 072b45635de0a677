import ObcFlight.CommandGate
import ObcFlight.SecureLinkHandshake

/-!
# The secure link authorizer

State and handlers of SecureLinkAuthorizer. The random source and the clock are
inputs of the handlers that read them. A grant or a revocation is one output here;
the topology delivers it to the command gate first and to the file gate second.
-/

namespace ObcFlight

structure FwTime where
  timeBase : UInt16
  timeContext : UInt8
  seconds : UInt32
  useconds : UInt32
  deriving DecidableEq

inductive TimeComparison where
  | lt
  | eq
  | gt
  | incomparable
  deriving DecidableEq

namespace FwTime

def compare (time1 time2 : FwTime) : TimeComparison :=
  if time1.timeBase ≠ time2.timeBase || time1.timeContext ≠ time2.timeContext then .incomparable
  else if time1.seconds < time2.seconds then .lt
  else if time1.seconds > time2.seconds then .gt
  else if time1.useconds < time2.useconds then .lt
  else if time1.useconds > time2.useconds then .gt
  else .eq

/-- Difference of comparable times, borrowing from the seconds. -/
def sub (minuend subtrahend : FwTime) : FwTime :=
  if subtrahend.useconds > minuend.useconds then
    { minuend with
      seconds := minuend.seconds - subtrahend.seconds - 1
      useconds := minuend.useconds + 1000000 - subtrahend.useconds }
  else
    { minuend with
      seconds := minuend.seconds - subtrahend.seconds
      useconds := minuend.useconds - subtrahend.useconds }

end FwTime

def secureLinkAuthTimeoutSeconds : UInt32 := 180

def computeElapsedTime (now since : FwTime) : Option FwTime :=
  match FwTime.compare now since with
  | .incomparable => none
  | .lt => none
  | .eq | .gt => some (FwTime.sub now since)

inductive SecureAuthStatusCode where
  | authenticated
  | notAuthenticated
  | malformed
  | unsupportedService
  | internalError
  deriving DecidableEq

def SecureAuthStatusCode.toCode : SecureAuthStatusCode → UInt32
  | .authenticated => 1
  | .notAuthenticated => 2
  | .malformed => 3
  | .unsupportedService => 4
  | .internalError => 5

def revocationTimeout : UInt32 := 1

def revocationInvalidated : UInt32 := 2

/-- The key of an ingress port, as configureIngressService admits it. -/
structure IngressKey where
  serviceId : UInt8
  keyBytes : Bytes
  supported : isSupportedSecureServiceId serviceId = true
  nonempty : keyBytes.length ≠ 0
  bounded : keyBytes.length ≤ 64

structure PendingChallenge where
  serviceId : UInt8
  challenge : Challenge
  deriving DecidableEq

structure ActiveAuth where
  serviceId : UInt8
  sessionKey : Digest
  lastActivityTime : FwTime
  deriving DecidableEq

inductive AuthorizerOutput where
  | bufferReturnOut (port : Port) (data : Bytes)
  | handshakePacketOut (port : Port) (packet : Bytes)
  | authGrantedOut (grant : SecureAuthGrant)
  | authRevokedOut (revocation : SecureAuthRevocation)
  deriving DecidableEq

structure SecureLinkAuthorizer where
  moduleSerial : ModuleSerial
  ingressKeys : Port → Option IngressKey
  pendingChallenges : Port → Option PendingChallenge
  activeAuth : Port → Option ActiveAuth
  challengeTotal : UInt32
  establishedTotal : UInt32
  revokeTotal : UInt32

namespace SecureLinkAuthorizer

variable (a : SecureLinkAuthorizer)

/-- The authorizer after start-up: keys configured, nothing pending, nobody authenticated. -/
def initial (moduleSerial : ModuleSerial) (ingressKeys : Port → Option IngressKey) :
    SecureLinkAuthorizer where
  moduleSerial := moduleSerial
  ingressKeys := ingressKeys
  pendingChallenges := fun _ => none
  activeAuth := fun _ => none
  challengeTotal := 0
  establishedTotal := 0
  revokeTotal := 0

variable (p : Port)

/-- none is the answer false, which leaves the component unchanged. -/
def configureIngressService (serviceId : UInt8) (keyBytes : Bytes) : Option SecureLinkAuthorizer :=
  if h : isSupportedSecureServiceId serviceId = true ∧ keyBytes.length ≠ 0 ∧
      keyBytes.length ≤ 64 then
    some { a with
      ingressKeys := Function.update a.ingressKeys p
        (some ⟨serviceId, keyBytes, h.1, h.2.1, h.2.2⟩) }
  else none

def rootKey : Bytes := ((a.ingressKeys p).map IngressKey.keyBytes).getD []

def emitAuthStatus_ (serviceId : UInt8) (status : SecureAuthStatusCode) : List AuthorizerOutput :=
  match buildSecureAuthStatusPacket serviceId status.toCode with
  | some packet => [.handshakePacketOut p packet]
  | none => []

def issueChallenge_ (serviceId : UInt8) (randomNonce : Option RandomNonce) :
    SecureLinkAuthorizer × List AuthorizerOutput :=
  match randomNonce with
  | none => (a, emitAuthStatus_ p serviceId .internalError)
  | some nonce =>
    let challenge := Challenge.ofParts a.moduleSerial nonce
    let a := { a with
      pendingChallenges := Function.update a.pendingChallenges p (some ⟨serviceId, challenge⟩) }
    match buildSecureChallengePacket serviceId challenge with
    | none => (a, emitAuthStatus_ p serviceId .internalError)
    | some packet =>
      ({ a with challengeTotal := a.challengeTotal + 1 }, [.handshakePacketOut p packet])

def establishAuth_ (hmac : KeyedHash) (p : Port) (serviceId : UInt8) (response : Digest)
    (now : FwTime) : SecureLinkAuthorizer × List AuthorizerOutput :=
  let refused := (a, emitAuthStatus_ p serviceId .notAuthenticated)
  match a.pendingChallenges p with
  | none => refused
  | some pending =>
    if pending.serviceId ≠ serviceId then refused
    else
      match deriveSecureSessionKey hmac (a.rootKey p) serviceId pending.challenge with
      | none => refused
      | some sessionKey =>
        if !verifySecureAuthResponse hmac sessionKey response then refused
        else
          ({ a with
              activeAuth := Function.update a.activeAuth p (some ⟨serviceId, sessionKey, now⟩)
              pendingChallenges := Function.update a.pendingChallenges p none
              establishedTotal := a.establishedTotal + 1 },
            .authGrantedOut ⟨p, serviceId, sessionKey⟩ ::
              emitAuthStatus_ p serviceId .authenticated)

def revokeActiveAuth_ (reason : UInt32) (notifyCommandGate : Bool) :
    SecureLinkAuthorizer × List AuthorizerOutput :=
  match a.activeAuth p with
  | none => (a, [])
  | some active =>
    ({ a with
        activeAuth := Function.update a.activeAuth p none
        revokeTotal := a.revokeTotal + 1 },
      if notifyCommandGate then [.authRevokedOut ⟨p, active.serviceId, reason⟩] else [])

def handshakeUplinkIn (hmac : KeyedHash) (p : Port) (data : Bytes)
    (randomNonce : Option RandomNonce) (now : FwTime) :
    SecureLinkAuthorizer × List AuthorizerOutput :=
  let parsed := parseSecureHandshakePacket (unwrapHandshakePacketPayload data)
  let serviceId := parsed.message.serviceId
  let (a, replies) :=
    if !parsed.valid then (a, [])
    else if (a.ingressKeys p).map IngressKey.serviceId ≠ some serviceId then
      (a, emitAuthStatus_ p serviceId .unsupportedService)
    else
      match parsed.message.type with
      | .reqAuth => a.issueChallenge_ p serviceId randomNonce
      | .response => a.establishAuth_ hmac p serviceId parsed.message.response now
      | .challenge => (a, [])
      | .authStatus => (a, [])
  (a, replies ++ [.bufferReturnOut p data])

def authActivityIn (activity : SecureAuthActivity) (now : FwTime) : SecureLinkAuthorizer :=
  match a.activeAuth activity.ingressPort with
  | none => a
  | some active =>
    if active.serviceId = activity.serviceId then
      { a with
        activeAuth := Function.update a.activeAuth activity.ingressPort
          (some { active with lastActivityTime := now }) }
    else a

def authInvalidateIn (revocation : SecureAuthRevocation) :
    SecureLinkAuthorizer × List AuthorizerOutput :=
  let p := revocation.ingressPort
  let a :=
    if (a.pendingChallenges p).map PendingChallenge.serviceId = some revocation.serviceId then
      { a with pendingChallenges := Function.update a.pendingChallenges p none }
    else a
  if (a.activeAuth p).map ActiveAuth.serviceId = some revocation.serviceId then
    a.revokeActiveAuth_ p revocation.reason true
  else (a, [])

def checkTimeout (now : FwTime) : SecureLinkAuthorizer × List AuthorizerOutput :=
  match a.activeAuth p with
  | none => (a, [])
  | some active =>
    match computeElapsedTime now active.lastActivityTime with
    | none =>
      ({ a with
          activeAuth := Function.update a.activeAuth p
            (some { active with lastActivityTime := now }) }, [])
    | some elapsed =>
      if elapsed.seconds ≥ secureLinkAuthTimeoutSeconds then
        a.revokeActiveAuth_ p revocationTimeout true
      else (a, [])

def schedIn (now : FwTime) : SecureLinkAuthorizer × List AuthorizerOutput :=
  let (a, first) := a.checkTimeout 0 now
  let (a, second) := a.checkTimeout 1 now
  (a, first ++ second)

end SecureLinkAuthorizer

end ObcFlight
