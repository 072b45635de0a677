import ObcFlight.WireCodec

/-!
# Authority types

The link identities and roles of CommandAuthorityTypes, the decision record, and
the pure predicates on an ingress configuration.
-/

namespace ObcFlight

/-- The two physical command ingress ports: 0 carries S-band, 1 carries UHF. -/
abbrev Port := Fin 2

instance two_neZero : NeZero 2 := ⟨by decide⟩

inductive CmdResponse where
  | ok
  | invalidOpcode
  | validationError
  | formatError
  | executionError
  | busy
  | other (code : UInt32)
  deriving DecidableEq

def CmdResponse.ofCode (code : UInt32) : CmdResponse :=
  if code = 0 then .ok
  else if code = 1 then .invalidOpcode
  else if code = 2 then .validationError
  else if code = 3 then .formatError
  else if code = 4 then .executionError
  else if code = 5 then .busy
  else .other code

inductive CommBand where
  | sband
  | uhf
  deriving DecidableEq

structure RecoveryCommActionResult where
  alreadyOnHealthyPrimary : Bool := false
  switched : Bool := false
  noHealthyBackup : Bool := false
  sessionsRevoked : UInt32 := 0
  finalPrimaryCommandLink : CommBand := .sband
  deriving DecidableEq

inductive AuthorityLinkIdentity where
  | unknown
  | sband
  | uhf
  | devDirect
  | internal
  deriving DecidableEq

inductive AuthorityLinkRole where
  | unknown
  | primary
  | backup
  | primaryAfterFailover
  | devFull
  | internal
  deriving DecidableEq

def AuthorityLinkIdentity.toCode : AuthorityLinkIdentity → UInt32
  | .unknown => 0
  | .sband => 1
  | .uhf => 2
  | .devDirect => 3
  | .internal => 4

def AuthorityLinkRole.toCode : AuthorityLinkRole → UInt32
  | .unknown => 0
  | .primary => 1
  | .backup => 2
  | .primaryAfterFailover => 3
  | .devFull => 4
  | .internal => 5

inductive AuthorityCommandClass where
  | unknown
  | readStatus
  | modeChange
  | safetyEmergency
  | fileTransfer
  | configUpdate
  | reset
  | payloadControl
  | adcsControl
  | powerControl
  | commControl
  | cspTraffic
  | devInternal
  | dataProduct
  deriving DecidableEq

inductive AuthorityResourceLabel where
  | none
  | modeState
  | eps
  | adcs
  | gps
  | radio
  | storage
  | boot
  | health
  | csp
  | commLink
  | fileTransferSession
  | configStore
  | dataProducts
  | eventFilter
  | commandDispatch
  | payload
  deriving DecidableEq

inductive AuthorityRejectReason where
  | none
  | policyDenied
  | malformedRestricted
  | invalidConfig
  | unknownOpcodeRestricted
  | envelopeRequired
  deriving DecidableEq

structure AuthorityConfig where
  identity : AuthorityLinkIdentity := .unknown
  role : AuthorityLinkRole := .unknown
  valid : Bool := false
  deriving DecidableEq

structure AuthorityDecision where
  allow : Bool := false
  reason : AuthorityRejectReason := .policyDenied
  response : CmdResponse := .validationError
  commandClass : AuthorityCommandClass := .unknown
  resource : AuthorityResourceLabel := .none
  deriving DecidableEq

def secureServiceIdForAuthorityIdentity : AuthorityLinkIdentity → UInt8
  | .sband => 1
  | .uhf => 2
  | .unknown => 0
  | .devDirect => 0
  | .internal => 0

def isCommManagedAuthority (config : AuthorityConfig) : Bool :=
  if !config.valid then true
  else config.identity = .sband || config.identity = .uhf

def isRestrictedAuthority (config : AuthorityConfig) : Bool :=
  if !config.valid then true
  else isCommManagedAuthority config && config.role = .backup

theorem isCommManagedAuthority_iff (c : AuthorityConfig) :
    isCommManagedAuthority c = true ↔
      c.valid = false ∨ c.identity = .sband ∨ c.identity = .uhf := by
  cases hv : c.valid <;> simp [isCommManagedAuthority, hv]

theorem secureServiceId_ne_zero_iff (i : AuthorityLinkIdentity) :
    secureServiceIdForAuthorityIdentity i ≠ 0 ↔ i = .sband ∨ i = .uhf := by
  cases i <;> decide

end ObcFlight
