import ObcFlight.FaultReports
import ObcFlight.FlightSystem
import ObcFlight.RecoveryTypes

/-!
# Link availability and fault detection of the link controller

The controller keeps for each band whether it is available. A band is judged by the health of
its ground link driver or, where the band is a node on the satellite's own network, by pings of
that node, which are answered at once or later. On every scheduled tick the detector looks at
the band that is primary then, counts bad cycles and tells the recovery executor when a fault
begins and when it ends.
-/

namespace ObcFlight

inductive GroundLinkBackendMode where
  | disabled
  | directTcp
  | commCsp
  deriving DecidableEq

structure CommLinkHealthView where
  backendMode : GroundLinkBackendMode := .disabled
  available : Bool := false
  errorGrowthThisCycle : Bool := false

structure CommSubsystemFdirConfig where
  pingTimeoutMs : UInt32 := 100
  unavailableFailureThreshold : UInt32 := 3
  useSubsystemResponsiveness : Bool := false
  primaryProbePeriodTicks : UInt32 := 3
  primaryProbeFailureThreshold : UInt32 := 2

def sanitizeProbePeriodTicks (ticks : UInt32) : UInt32 := if ticks = 0 then 1 else ticks

def sanitizeProbeFailureThreshold (threshold : UInt32) : UInt32 := if threshold = 0 then 1 else threshold

structure AsyncSubsystemProbeState where
  inFlight : Bool := false
  completionReady : Bool := false
  completionAvailable : Bool := false
  discardNextCompletion : Bool := false
  handle : UInt64 := 0

/-- What the controller is connected to, and how it judges the links. -/
structure CommLinkConfig where
  groundLinkHealthProvider : Bool := false
  commSubsystemHealthProbe : Bool := false
  cspRuntimeOwner : Bool := false
  fdir : CommSubsystemFdirConfig := {}

structure CommBandState where
  available : Bool := false
  lastHealth : CommLinkHealthView := {}
  subsystemHealthNodeId : UInt16 := 0
  subsystemProbeCooldownTicks : UInt32 := 0
  subsystemProbeFailureStreak : UInt32 := 0
  asyncSubsystemProbe : AsyncSubsystemProbeState := {}

/-- The answers of the outside world about one band: its health view, the answer of a ping
that is waited for, the completion of an earlier ping and whether a new one can be sent. -/
structure BandAnswers where
  health : CommLinkHealthView := {}
  probeNodeResponsive : Bool := false
  takeAsyncPingCompletion : UInt64 → Option Bool := fun _ => none
  submitAsyncPing : Option UInt64 := none

namespace CommBandState

variable (c : CommLinkConfig)

variable (b : CommBandState)

def usesSubsystemHealth : Bool :=
  c.commSubsystemHealthProbe && b.subsystemHealthNodeId != 0 &&
    (b.lastHealth.backendMode = .commCsp ||
      (c.fdir.useSubsystemResponsiveness && b.lastHealth.backendMode = .disabled)) &&
    c.fdir.pingTimeoutMs != 0

variable (env : BandAnswers)

def probeSubsystemAvailability : Bool :=
  if b.usesSubsystemHealth c then env.probeNodeResponsive else b.lastHealth.available

/-- An answered ping: one answer makes the band available, and it takes a streak of failures to
make an available band unavailable. -/
def noteProbeAnswer (answer : Bool) : CommBandState × Bool :=
  let cooldown := sanitizeProbePeriodTicks c.fdir.primaryProbePeriodTicks - 1
  if answer then
    ({ b with subsystemProbeCooldownTicks := cooldown, subsystemProbeFailureStreak := 0 }, true)
  else
    let failureStreak := b.subsystemProbeFailureStreak + 1
    ({ b with subsystemProbeCooldownTicks := cooldown, subsystemProbeFailureStreak := failureStreak },
      b.available &&
        failureStreak < sanitizeProbeFailureThreshold c.fdir.primaryProbeFailureThreshold)

def probePrimaryBandAvailabilityAsync : CommBandState × Bool :=
  if b.asyncSubsystemProbe.completionReady then
    noteProbeAnswer c { b with
      asyncSubsystemProbe := { b.asyncSubsystemProbe with completionReady := false } }
      b.asyncSubsystemProbe.completionAvailable
  else if b.subsystemProbeCooldownTicks > 0 then
    ({ b with subsystemProbeCooldownTicks := b.subsystemProbeCooldownTicks - 1 }, b.available)
  else if !b.asyncSubsystemProbe.inFlight then
    match env.submitAsyncPing with
    | some handle =>
      ({ b with
        asyncSubsystemProbe := { b.asyncSubsystemProbe with inFlight := true, handle := handle } },
        b.available)
    | none => (b, b.available)
  else (b, b.available)

/-- A forced probe makes the answer of a ping that is still under way worthless. -/
def discardAsyncProbe : CommBandState :=
  { b with
    asyncSubsystemProbe := { b.asyncSubsystemProbe with
      completionReady := false
      completionAvailable := false
      discardNextCompletion := b.asyncSubsystemProbe.inFlight } }

def forceProbe : CommBandState × Bool :=
  let b := if c.cspRuntimeOwner && b.usesSubsystemHealth c then b.discardAsyncProbe else b
  let available := b.probeSubsystemAvailability c env
  ({ b with
    subsystemProbeCooldownTicks := sanitizeProbePeriodTicks c.fdir.primaryProbePeriodTicks - 1
    subsystemProbeFailureStreak := if available then 0 else b.subsystemProbeFailureStreak + 1 },
    available)

def probePrimaryBandAvailability (force : Bool) (b : CommBandState) : CommBandState × Bool :=
  if force then b.forceProbe c env
  else if c.cspRuntimeOwner && b.usesSubsystemHealth c then b.probePrimaryBandAvailabilityAsync c env
  else if b.subsystemProbeCooldownTicks > 0 then
    ({ b with subsystemProbeCooldownTicks := b.subsystemProbeCooldownTicks - 1 }, b.available)
  else b.noteProbeAnswer c (b.probeSubsystemAvailability c env)

def pollAsyncSubsystemProbeCompletion : CommBandState :=
  if !b.asyncSubsystemProbe.inFlight then b
  else match env.takeAsyncPingCompletion b.asyncSubsystemProbe.handle with
    | none => b
    | some answered =>
      let probe := { b.asyncSubsystemProbe with inFlight := false }
      if probe.discardNextCompletion then
        { b with
          asyncSubsystemProbe := { probe with
            discardNextCompletion := false
            completionReady := false
            completionAvailable := false } }
      else
        { b with
          asyncSubsystemProbe := { probe with
            completionReady := true
            completionAvailable := answered } }

def refreshAvailability (isPrimary force : Bool) (b : CommBandState) : CommBandState × Bool :=
  let (b', available) :=
    if b.usesSubsystemHealth c && (force || isPrimary) then b.probePrimaryBandAvailability c env force
    else if b.usesSubsystemHealth c && !force then (b, b.available)
    else (b, b.probeSubsystemAvailability c env)
  ({ b' with available := available }, available)

def consumeAsyncProbeCompletionForQuery : CommBandState × Bool :=
  if !b.asyncSubsystemProbe.completionReady then (b, b.available)
  else
    noteProbeAnswer c { b with
      asyncSubsystemProbe := { b.asyncSubsystemProbe with completionReady := false } }
      b.asyncSubsystemProbe.completionAvailable

def recomputeAvailabilityForQuery : CommBandState :=
  let (b', available) :=
    if !b.usesSubsystemHealth c then (b, b.lastHealth.available)
    else if c.cspRuntimeOwner then b.consumeAsyncProbeCompletionForQuery c
    else (b, b.available)
  { b' with available := available }

end CommBandState

inductive CommFdirFaultKind where
  | none
  | primaryUnavailable
  | primaryTransport
  deriving DecidableEq

structure CommFdirDecision where
  shouldLatchFault : Bool := false
  shouldClearFault : Bool := false
  kind : CommFdirFaultKind := .none
  failureCount : UInt32 := 0

def CommFdirPolicy.evaluate (primaryAvailable primaryErrorGrowth : Bool)
    (consecutivePrimaryUnavailable consecutivePrimaryTransportGrowth unavailableFailureThreshold : UInt32)
    (currentlyLatched : Bool) (latchedKind : CommFdirFaultKind) : CommFdirDecision :=
  if primaryAvailable && !primaryErrorGrowth then
    { shouldClearFault := currentlyLatched, kind := if currentlyLatched then latchedKind else .none }
  else if currentlyLatched then { kind := latchedKind }
  else if consecutivePrimaryUnavailable ≥ unavailableFailureThreshold then
    { shouldLatchFault := true
      kind := .primaryUnavailable
      failureCount := consecutivePrimaryUnavailable }
  else if consecutivePrimaryTransportGrowth ≥ unavailableFailureThreshold then
    { shouldLatchFault := true
      kind := .primaryTransport
      failureCount := consecutivePrimaryTransportGrowth }
  else {}

/-- The report that a fault kind leads to: everything but an unavailable link is a transport
fault. -/
def CommFdirFaultKind.reported (kind : CommFdirFaultKind) : IncidentSource :=
  if kind = .primaryUnavailable then .commPrimaryUnavailable else .commPrimaryTransport

structure CommLinkControl where
  config : CommLinkConfig := {}
  primaryCommandLink : CommBand := .sband
  primaryFileLink : CommBand := .sband
  primaryLinkSelectionReason : UInt32 := 0
  sband : CommBandState := {}
  uhf : CommBandState := {}
  fdirFaultLatched : Bool := false
  fdirFaultKind : CommFdirFaultKind := .none
  consecutivePrimaryUnavailable : UInt32 := 0
  consecutivePrimaryTransportGrowth : UInt32 := 0

structure LinkAnswers where
  sband : BandAnswers := {}
  uhf : BandAnswers := {}

def LinkAnswers.of (env : LinkAnswers) : CommBand → BandAnswers
  | .sband => env.sband
  | .uhf => env.uhf

namespace CommLinkControl

variable (s : CommLinkControl)

def band : CommBand → CommBandState
  | .sband => s.sband
  | .uhf => s.uhf

def setBand (band : CommBand) (b : CommBandState) : CommLinkControl :=
  match band with
  | .sband => { s with sband := b }
  | .uhf => { s with uhf := b }

def currentPrimaryBand : CommBand := s.primaryCommandLink

def usesSubsystemHealthForBand (band : CommBand) : Bool :=
  (s.band band).usesSubsystemHealth s.config

def cachedAvailabilityForBand (band : CommBand) : Bool := (s.band band).available

variable (env : LinkAnswers)

def refreshBandAvailability (band : CommBand) (forceProbe : Bool) (s : CommLinkControl) :
    CommLinkControl × Bool :=
  let (b, available) :=
    (s.band band).refreshAvailability s.config (env.of band) (band = s.currentPrimaryBand)
      forceProbe
  (s.setBand band b, available)

def refreshLinkAvailability : CommLinkControl :=
  let backup := FlightSystem.CommBand.backup s.currentPrimaryBand
  let t := (s.refreshBandAvailability env s.currentPrimaryBand false).1
  if !t.usesSubsystemHealthForBand backup then (t.refreshBandAvailability env backup false).1 else t

def refreshStatusViews : CommLinkControl :=
  let view (band : CommBand) : CommLinkHealthView :=
    if s.config.groundLinkHealthProvider then (env.of band).health else {}
  { s with
    sband := { s.sband with lastHealth := view .sband }
    uhf := { s.uhf with lastHealth := view .uhf } }

def pollAsyncSubsystemProbeCompletions : CommLinkControl :=
  if !s.config.cspRuntimeOwner then s
  else
    { s with
      sband := s.sband.pollAsyncSubsystemProbeCompletion env.sband
      uhf := s.uhf.pollAsyncSubsystemProbeCompletion env.uhf }

def refreshForTick : CommLinkControl :=
  ((s.refreshStatusViews env).pollAsyncSubsystemProbeCompletions env).refreshLinkAvailability env

def primaryAvailable : Bool := s.cachedAvailabilityForBand s.currentPrimaryBand

def primaryErrorGrowth : Bool :=
  if s.usesSubsystemHealthForBand s.currentPrimaryBand then false
  else (s.band s.currentPrimaryBand).lastHealth.errorGrowthThisCycle

def latchCommFault (kind : CommFdirFaultKind) (s : CommLinkControl) : CommLinkControl :=
  { s with fdirFaultLatched := true, fdirFaultKind := kind }

def clearCommFault : CommLinkControl :=
  { s with fdirFaultLatched := false, fdirFaultKind := .none }

def countCycle : CommLinkControl :=
  if !s.primaryAvailable then
    { s with
      consecutivePrimaryUnavailable := s.consecutivePrimaryUnavailable + 1
      consecutivePrimaryTransportGrowth := 0 }
  else if s.primaryErrorGrowth then
    { s with
      consecutivePrimaryUnavailable := 0
      consecutivePrimaryTransportGrowth := s.consecutivePrimaryTransportGrowth + 1 }
  else { s with consecutivePrimaryUnavailable := 0, consecutivePrimaryTransportGrowth := 0 }

def detect : CommLinkControl × List (SinkCall IncidentSource) :=
  let decision := CommFdirPolicy.evaluate s.primaryAvailable s.primaryErrorGrowth
    s.consecutivePrimaryUnavailable s.consecutivePrimaryTransportGrowth
    s.config.fdir.unavailableFailureThreshold s.fdirFaultLatched s.fdirFaultKind
  if decision.shouldLatchFault then
    (s.latchCommFault decision.kind, [.submit decision.kind.reported decision.failureCount])
  else if decision.shouldClearFault then
    (s.clearCommFault, [.clear s.fdirFaultKind.reported decision.failureCount])
  else (s, [])

/-- A threshold of zero switches the detector off; a fault that is still latched is cleared. -/
def updateFdirState : CommLinkControl × List (SinkCall IncidentSource) :=
  if s.config.fdir.unavailableFailureThreshold = 0 then
    let t := { s with consecutivePrimaryUnavailable := 0, consecutivePrimaryTransportGrowth := 0 }
    if s.fdirFaultLatched then (t.clearCommFault, [.clear s.fdirFaultKind.reported 0]) else (t, [])
  else s.countCycle.detect

def schedIn : CommLinkControl × List (SinkCall IncidentSource) :=
  (s.refreshForTick env).updateFdirState

def setPrimaryLinks (band : CommBand) (reason : CommPolicyTransitionReason) (s : CommLinkControl) : CommLinkControl :=
  { s with
    primaryCommandLink := band
    primaryFileLink := band
    primaryLinkSelectionReason := reason.toCode }

def setActiveBandForRuntime (band : CommBand) (s : CommLinkControl) : CommLinkControl :=
  let (t, available) := s.refreshBandAvailability env band true
  if !available then t else t.setPrimaryLinks band .operatorSwitch

def performRecoveryLinkFailoverForRuntime : CommLinkControl :=
  let currentPrimary := s.currentPrimaryBand
  let backup := FlightSystem.CommBand.backup currentPrimary
  let (t, currentAvailable) := s.refreshBandAvailability env currentPrimary true
  let (u, backupAvailable) := t.refreshBandAvailability env backup true
  if currentAvailable && !u.fdirFaultLatched then u
  else if backupAvailable then u.setPrimaryLinks backup .linkFailover
  else u

def getStatusForRuntime : CommLinkControl :=
  let t := (s.refreshStatusViews env).pollAsyncSubsystemProbeCompletions env
  { t with
    sband := t.sband.recomputeAvailabilityForQuery t.config
    uhf := t.uhf.recomputeAvailabilityForQuery t.config }

def configureRuntime (config : CommLinkConfig) (nodeId : CommBand → UInt16) (initialPrimaryBand : CommBand)
    (s : CommLinkControl) : CommLinkControl :=
  let reset (band : CommBand) : CommBandState :=
    { s.band band with
      subsystemHealthNodeId := nodeId band
      subsystemProbeCooldownTicks := 0
      subsystemProbeFailureStreak := 0 }
  let t := { s with
    config := { config with cspRuntimeOwner := s.config.cspRuntimeOwner }
    sband := reset .sband
    uhf := reset .uhf }
  if initialPrimaryBand ≠ t.primaryCommandLink then t.setPrimaryLinks initialPrimaryBand .initialBootstrap
  else t

def configureCspRuntimeForRuntime (owner : Bool) (s : CommLinkControl) : CommLinkControl :=
  { s with config := { s.config with cspRuntimeOwner := owner } }

end CommLinkControl

inductive CommLinkInput where
  | schedIn (env : LinkAnswers)
  | setActiveBand (band : CommBand) (env : LinkAnswers)
  | performRecoveryLinkFailover (env : LinkAnswers)
  | getStatus (env : LinkAnswers)
  | configureRuntime (config : CommLinkConfig) (nodeId : CommBand → UInt16) (initialPrimaryBand : CommBand)
  | configureCspRuntime (owner : Bool)

namespace CommLinkControl

def step (s : CommLinkControl) : CommLinkInput → CommLinkControl × List (SinkCall IncidentSource)
  | .schedIn env => s.schedIn env
  | .setActiveBand band env => (s.setActiveBandForRuntime env band, [])
  | .performRecoveryLinkFailover env => (s.performRecoveryLinkFailoverForRuntime env, [])
  | .getStatus env => (s.getStatusForRuntime env, [])
  | .configureRuntime config nodeId band => (s.configureRuntime config nodeId band, [])
  | .configureCspRuntime owner => (s.configureCspRuntimeForRuntime owner, [])

end CommLinkControl

def commLinkControl : Machine CommLinkControl CommLinkInput (SinkCall IncidentSource) := ⟨CommLinkControl.step⟩

end ObcFlight
