import ObcFlight.RecoveryExecutor

/-!
# The calls of the recovery executor

Fault reports, clears, the scheduler tick and the hand-out of exit requests, each from its
locked section to the end of the action loop, and the executor as a machine whose inputs are
these calls and whatever the other components do to the world between them.
-/

namespace ObcFlight

namespace RecoveryExecutor

variable {ω : Type*}

variable (c : RecoveryControls ω)

def bootSafeFallbackRequired (world : ω) : Bool :=
  match c.boot with
  | none => false
  | some boot => boot.isBootSafeFallbackRequired world

def applyBootSafeFallbackClamp (source : IncidentSource) (world : ω)
    (mode : SatMode) (modeSource : ModeApplySource) (p : Pass) : Pass × Bool :=
  if bootSafeFallbackRequired c world then prepareSafeFallback c source mode modeSource true p
  else (p, false)

/-- A watchdog fault on an incident that is not active: the clamp, or else the restart. -/
def openForWatchdogFault (source : IncidentSource) (world : ω) (p : Pass) :
    Pass :=
  let clamped := applyBootSafeFallbackClamp c source world (currentMode c world) .watchdogFault
    (openIncident source p)
  if clamped.2 then clamped.1 else prepareProcessRestart source .watchdogFault clamped.1

def lockWatchdogFault (watchdog : WatchdogSource) (f : Frame ω) :
    Frame ω × List ExternalActionRequest :=
  let source := recoveryIncidentSourceFromWatchdog watchdog
  f.locked source fun p =>
    if !p.incident.active then openForWatchdogFault c source f.world p else p

def submitWatchdogFault (watchdog : WatchdogSource) (f : Frame ω) : Frame ω :=
  let locked := lockWatchdogFault c watchdog f
  executeExternalActions c locked.1 locked.2

def lockWatchdogSuppression (watchdog : WatchdogSource) (f : Frame ω) :
    Frame ω × List ExternalActionRequest :=
  let source := recoveryIncidentSourceFromWatchdog watchdog
  f.locked source fun p =>
    let opened := if !p.incident.active then openIncident source p else p
    if !opened.incident.rebootPending then prepareReboot source opened else opened

def submitWatchdogSuppression (watchdog : WatchdogSource) (f : Frame ω) : Frame ω :=
  let locked := lockWatchdogSuppression watchdog f
  executeExternalActions c locked.1 locked.2

def clearIncidentBySource (source : IncidentSource) (f : Frame ω) : Frame ω :=
  if !(f.incident source).active then f else (f.locked source (closeIncident source)).1

def clearWatchdogFault (watchdog : WatchdogSource) (f : Frame ω) : Frame ω :=
  clearIncidentBySource (recoveryIncidentSourceFromWatchdog watchdog) f

/-- A restart or a reboot has been asked for, or an exit request has been handed out. -/
def exitBusy (x : RecoveryExecutor) : Bool :=
  x.processRestartRequested || x.rebootRequested || x.exitRequestConsumed

def firstSubsystemActions (source : IncidentSource) (mode : SatMode)
    (world : ω) (p : Pass) : Pass :=
  match source with
  | .epsTimeout =>
      (prepareSafeFallback c source mode .fdirSubsystemFault false (prepareEpsReset source p)).1
  | .adcsPollTransport | .adcsPollFreshness =>
      let reset := prepareAdcsReset source p
      if bootSafeFallbackRequired c world then
        (prepareSafeFallback c source mode .fdirSubsystemFault true reset).1
      else reset
  | .commPrimaryUnavailable | .commPrimaryTransport => prepareCommFailover source p
  | _ => p

def lockSubsystemFault (source : IncidentSource) (mode : SatMode)
    (f : Frame ω) : Frame ω × List ExternalActionRequest :=
  f.locked source fun p =>
    let opened := openIncident source p
    if 0 < opened.incident.relatchCount then prepareReboot source opened
    else firstSubsystemActions c source mode f.world opened

def handleSubsystemFault (source : IncidentSource) (mode : SatMode) (f : Frame ω) : Frame ω :=
  if (f.incident source).active || exitBusy f.executor then f
  else
    let locked := lockSubsystemFault c source mode f
    executeExternalActions c locked.1 locked.2

inductive SubsystemFault
  | epsTimeout
  | adcsPollTransport
  | adcsPollFreshness
  | commPrimaryUnavailable
  | commPrimaryTransport
deriving DecidableEq, Repr

def SubsystemFault.source : SubsystemFault → IncidentSource
  | .epsTimeout => .epsTimeout
  | .adcsPollTransport => .adcsPollTransport
  | .adcsPollFreshness => .adcsPollFreshness
  | .commPrimaryUnavailable => .commPrimaryUnavailable
  | .commPrimaryTransport => .commPrimaryTransport

def submitEpsTimeoutFault (f : Frame ω) : Frame ω :=
  handleSubsystemFault c .epsTimeout (currentMode c f.world) f

def submitAdcsPollTransportFault (f : Frame ω) : Frame ω :=
  handleSubsystemFault c .adcsPollTransport (currentMode c f.world) f

def submitAdcsPollFreshnessFault (f : Frame ω) : Frame ω :=
  handleSubsystemFault c .adcsPollFreshness (currentMode c f.world) f

def submitCommPrimaryUnavailableFault (f : Frame ω) : Frame ω :=
  handleSubsystemFault c .commPrimaryUnavailable (currentMode c f.world) f

def submitCommPrimaryTransportFault (f : Frame ω) : Frame ω :=
  handleSubsystemFault c .commPrimaryTransport (currentMode c f.world) f

def submitSubsystemFault : SubsystemFault → Frame ω → Frame ω
  | .epsTimeout => submitEpsTimeoutFault c
  | .adcsPollTransport => submitAdcsPollTransportFault c
  | .adcsPollFreshness => submitAdcsPollFreshnessFault c
  | .commPrimaryUnavailable => submitCommPrimaryUnavailableFault c
  | .commPrimaryTransport => submitCommPrimaryTransportFault c

variable (c : RecoveryControls ω)

theorem submitSubsystemFault_eq (fault : SubsystemFault) (f : Frame ω) :
    submitSubsystemFault c fault f = handleSubsystemFault c fault.source (currentMode c f.world) f := by
  cases fault <;> rfl

def clearSubsystemFault (fault : SubsystemFault) (f : Frame ω) : Frame ω :=
  clearIncidentBySource fault.source f

def isSubsystemRecoverySource (source : IncidentSource) : Bool :=
  decide (source = .epsTimeout) || decide (source = .adcsPollTransport) ||
    decide (source = .adcsPollFreshness) || decide (source = .commPrimaryUnavailable) ||
    decide (source = .commPrimaryTransport)

def isUnclearedTimeoutRecoverySource (source : IncidentSource) : Bool :=
  isSubsystemRecoverySource source || recoveryIncidentSourceIsWatchdog source

def tickIncident (source : IncidentSource) (p : Pass) : Pass :=
  let i := p.incident
  if isUnclearedTimeoutRecoverySource source && i.active && i.awaitingClear &&
      !i.processRestartPending && !i.rebootPending && i.firstActionIssued then
    let openTicks := saturatingIncrement i.openTicks
    let counted := { p with incident := { i with openTicks } }
    if unclearedRebootTimeoutTicks ≤ openTicks then prepareReboot source counted else counted
  else if i.active && !i.processRestartPending && !i.rebootPending &&
      decide (i.currentLevel = .r6ObcReboot) then
    prepareReboot source p
  else p

/-- The loop over the table: each turn works on its own incident only. -/
def tickIncidents (f : Frame ω) : Frame ω × List ExternalActionRequest :=
  let passes source := tickIncident source { incident := f.incident source }
  ({ f with
      executor := { f.executor with status := { f.executor.status with
        incidents := fun source => (passes source).incident } }
      log := f.log ++ IncidentSource.all.flatMap fun source => (passes source).log },
    IncidentSource.all.flatMap fun source => (passes source).actions)

def applyBootClamp (f : Frame ω) : Frame ω :=
  match c.mode with
  | none => f
  | some mode =>
      if !f.executor.bootClampApplied && bootSafeFallbackRequired c f.world then
        { f with
          world := mode.applyMode .safe .recoveryBootFallback f.world
          executor := { f.executor with bootClampApplied := true } }
      else f

/-- The count of quiet ticks, and whether the runtime is now to be acknowledged as stable. -/
def countStableTicks (consecutiveResetCount : UInt32) (x : RecoveryExecutor) :
    RecoveryExecutor × List ExternalActionRequest :=
  let quiet := decide (x.status.activeIncidentCount = 0) && !x.status.pendingProcessRestart &&
    !x.status.pendingReboot
  if quiet && decide (0 < consecutiveResetCount) && !x.stableAcked then
    let counted := { x with stableTicks := saturatingIncrement x.stableTicks }
    (counted, if stableAckTicks ≤ counted.stableTicks then [.ackStable] else [])
  else if !quiet then ({ x with stableTicks := 0 }, [])
  else (x, [])

def getConsecutiveResetCount (world : ω) : UInt32 :=
  match c.boot with
  | none => 0
  | some boot => boot.getConsecutiveResetCount world

def lockTick (f : Frame ω) : Frame ω × List ExternalActionRequest :=
  let ticked := if !exitBusy f.executor then tickIncidents f else (f, [])
  let counted := countStableTicks (getConsecutiveResetCount c f.world)
    (updateStatusSummary none ticked.1.executor)
  ({ ticked.1 with executor := counted.1 }, ticked.2 ++ counted.2)

def schedIn (f : Frame ω) : Frame ω :=
  let locked := lockTick c (applyBootClamp c f)
  executeExternalActions c locked.1 locked.2

/-! ### Runs -/

inductive Call
  | submitWatchdogFault (watchdog : WatchdogSource)
  | submitWatchdogSuppression (watchdog : WatchdogSource)
  | clearWatchdogFault (watchdog : WatchdogSource)
  | submitSubsystemFault (fault : SubsystemFault)
  | clearSubsystemFault (fault : SubsystemFault)
  | schedIn
  | consumeRecoveryExitRequest
  | consumeRebootRequest
deriving DecidableEq

def call (f : Frame ω) : Call → Frame ω
  | .submitWatchdogFault watchdog => submitWatchdogFault c watchdog f
  | .submitWatchdogSuppression watchdog => submitWatchdogSuppression c watchdog f
  | .clearWatchdogFault watchdog => clearWatchdogFault watchdog f
  | .submitSubsystemFault fault => submitSubsystemFault c fault f
  | .clearSubsystemFault fault => clearSubsystemFault fault f
  | .schedIn => schedIn c f
  | .consumeRecoveryExitRequest => { f with executor := (consumeRecoveryExitRequest f.executor).2 }
  | .consumeRebootRequest => { f with executor := (consumeRebootRequest f.executor).2 }

inductive Input (ω : Type*)
  | call (call : Call)
  | environment (change : ω → ω)

/-- A call starts from the present executor and world with nothing reported yet. -/
def enter (s : RecoveryExecutor × ω) : Frame ω := { executor := s.1, world := s.2 }

def machine : Machine (RecoveryExecutor × ω) (Input ω) RecoveryEvent where
  step s
    | .call k => let f := call c (enter s) k; ((f.executor, f.world), f.log)
    | .environment change => ((s.1, change s.2), [])

def configured (hardwareWatchdogModeEnabled : Bool) : RecoveryExecutor :=
  { hardwareWatchdogModeEnabled }

abbrev reached (hardware : Bool) (world : ω) (inputs : List (Input ω)) : RecoveryExecutor × ω :=
  (machine c).run (configured hardware, world) inputs

abbrev reports (hardware : Bool) (world : ω) (inputs : List (Input ω)) : List RecoveryEvent :=
  (machine c).trace (configured hardware, world) inputs

theorem reached_call (b : Bool) (w : ω) (i : List (Input ω)) (k : Call) :
    reached c b w (i ++ [Input.call k]) =
      ((call c (enter (reached c b w i)) k).executor,
        (call c (enter (reached c b w i)) k).world) := by
  rw [reached, Machine.run_append]
  rfl

theorem reports_call (b : Bool) (w : ω) (i : List (Input ω)) (k : Call) :
    reports c b w (i ++ [Input.call k]) =
      reports c b w i ++ (call c (enter (reached c b w i)) k).log := by
  rw [reports, Machine.trace_append, Machine.trace_cons, Machine.trace_nil, List.append_nil]
  rfl

end RecoveryExecutor

end ObcFlight
