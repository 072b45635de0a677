import ObcFlight.AuthorityTypes
import ObcFlight.BootMetadata

/-!
# Vocabulary of the recovery and mode components

The enumerations that the recovery executor, the watchdog supervisor and the components that
set the satellite mode share, with the tables of RecoveryRuntime that are keyed by them.
-/

namespace ObcFlight

inductive SatMode
  | safe
  | idle
  | hell
  | payload
  | ttc
deriving DecidableEq, Repr

inductive ModeApplySource
  | safetyFallback
  | safetyRecovery
  | testSetup
  | safetyPayloadExit
  | fdirSubsystemFault
  | watchdogFault
  | recoveryBootFallback
  | ttcPassPolicy
deriving DecidableEq, Repr

inductive WatchdogSource
  | epsBridge
  | epsFdir
  | modeSafety
  | commController
  | adcsFdir
deriving DecidableEq, Repr

inductive RecoveryAction
  | none
  | processRestartIntent
  | subsystemInterfaceReset
  | safeFallback
  | obcReboot
  | incidentCleared
  | commLinkFailover
  | processRestart
deriving DecidableEq, Repr

inductive RecoveryExitRequest
  | none
  | processRestart
  | obcReboot
deriving DecidableEq, Repr

/-- The sources that have an entry in the incident table, in the order of the table. -/
inductive IncidentSource
  | watchdogEpsBridge
  | watchdogEpsFdir
  | watchdogModeSafety
  | watchdogCommController
  | epsTimeout
  | watchdogAdcsFdir
  | adcsPollTransport
  | adcsPollFreshness
  | commPrimaryUnavailable
  | commPrimaryTransport
deriving DecidableEq, Repr

namespace RecoveryLevel

def r1Retry : RecoveryLevel := 1
def r2RestartSoftwareComponent : RecoveryLevel := 2
def r3ResetSubsystemInterface : RecoveryLevel := 3
def r4PowerCycleSubsystem : RecoveryLevel := 4
def r5ModeFallback : RecoveryLevel := 5
def r6ObcReboot : RecoveryLevel := 6
def r7EnterHell : RecoveryLevel := 7

end RecoveryLevel

namespace CmdResponse

def code : CmdResponse → UInt32
  | ok => 0
  | invalidOpcode => 1
  | validationError => 2
  | formatError => 3
  | executionError => 4
  | busy => 5
  | other code => code

end CmdResponse

namespace IncidentSource

def all : List IncidentSource :=
  [watchdogEpsBridge, watchdogEpsFdir, watchdogModeSafety, watchdogCommController, epsTimeout,
    watchdogAdcsFdir, adcsPollTransport, adcsPollFreshness, commPrimaryUnavailable,
    commPrimaryTransport]

theorem mem_all (s : IncidentSource) : s ∈ all := by
  cases s <;> decide

theorem all_nodup : all.Nodup := by decide

/-- The value of the enumeration that is written to the boot metadata. -/
def toRecovery : IncidentSource → RecoveryIncidentSource
  | watchdogEpsBridge => 0
  | watchdogEpsFdir => 1
  | watchdogModeSafety => 2
  | watchdogCommController => 3
  | epsTimeout => 4
  | watchdogAdcsFdir => 5
  | adcsPollTransport => 6
  | adcsPollFreshness => 7
  | commPrimaryUnavailable => 8
  | commPrimaryTransport => 9

end IncidentSource

def recoveryIncidentSourceFromWatchdog : WatchdogSource → IncidentSource
  | .epsBridge => .watchdogEpsBridge
  | .epsFdir => .watchdogEpsFdir
  | .modeSafety => .watchdogModeSafety
  | .commController => .watchdogCommController
  | .adcsFdir => .watchdogAdcsFdir

theorem recoveryIncidentSourceFromWatchdog_injective :
    Function.Injective recoveryIncidentSourceFromWatchdog := by
  intro a b h
  cases a <;> cases b <;> first | rfl | cases h

def recoveryIncidentSourceIsWatchdog : IncidentSource → Bool
  | .watchdogEpsBridge | .watchdogEpsFdir | .watchdogModeSafety | .watchdogCommController
  | .watchdogAdcsFdir => true
  | _ => false

def recoveryInitialLevelForSource : IncidentSource → RecoveryLevel
  | .watchdogEpsBridge | .watchdogEpsFdir | .watchdogModeSafety | .watchdogCommController
  | .watchdogAdcsFdir => .r2RestartSoftwareComponent
  | .adcsPollTransport | .adcsPollFreshness | .epsTimeout | .commPrimaryUnavailable
  | .commPrimaryTransport => .r3ResetSubsystemInterface

def recoveryResetCauseForSource : IncidentSource → ResetCause
  | .epsTimeout => .recoveryEpsTimeout
  | .adcsPollTransport | .adcsPollFreshness => .recoveryAdcsFdir
  | .commPrimaryUnavailable | .commPrimaryTransport => .recoveryCommFdir
  | .watchdogEpsBridge | .watchdogEpsFdir | .watchdogModeSafety | .watchdogCommController
  | .watchdogAdcsFdir => .recoveryWatchdog

end ObcFlight
