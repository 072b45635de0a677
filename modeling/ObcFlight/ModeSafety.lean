import Mathlib.Data.Rat.Defs
import Mathlib.Algebra.Order.Ring.Unbundled.Rat
import ObcFlight.RecoveryExecutor

/-!
# The satellite mode and its safety rules

The mode manager holds the mode. The mode safety controller is the guard of the operator's
requests and, at its own tick, the owner of the fallbacks that depend on the battery charge.
-/

namespace ObcFlight

/-- The values of a binary32 number as comparisons see them. -/
inductive F32
  | nan
  | negInf
  | finite (value : ℚ)
  | posInf
deriving DecidableEq

namespace F32

def lt : F32 → F32 → Bool
  | negInf, finite _ | negInf, posInf | finite _, posInf => true
  | finite a, finite b => decide (a < b)
  | _, _ => false

end F32

inductive ModeTransitionRejectionReason
  | disallowedOperatorTransition
  | internalOnlyTarget
  | socGuardUnavailable
  | socGuardNotMet
  | guardUnconfigured
deriving DecidableEq, Repr

structure OperatorModeTransitionDecision where
  accepted : Bool := false
  reason : ModeTransitionRejectionReason := .disallowedOperatorTransition
deriving DecidableEq

inductive ModeSafetyAction
  | none
  | safeToHell
  | hellToSafe
  | activeToSafe
  | payloadToIdle
deriving DecidableEq, Repr

structure ModeSafetyDecision where
  hasValidEpsStatus : Bool := false
  currentMode : SatMode := .safe
  targetMode : SatMode := .safe
  soc : F32 := .finite 0
  action : ModeSafetyAction := .none
deriving DecidableEq

namespace ModeSafetyPolicy

def safeToHellSoc : F32 := .finite 10
def hellToSafeSoc : F32 := .finite 15
def activeToSafeSoc : F32 := .finite 40
def safeToIdleSoc : F32 := .finite 50
def payloadToIdleSoc : F32 := .finite 60
def idleToPayloadSoc : F32 := .finite 70

def isModeWithSafeFallbackFloor (mode : SatMode) : Bool := decide (mode = .idle) || decide (mode = .ttc)

def evaluate (currentMode : SatMode) (hasValidEpsStatus : Bool) (soc : F32) : ModeSafetyDecision :=
  let kept : ModeSafetyDecision := { hasValidEpsStatus, currentMode, targetMode := currentMode, soc }
  if !hasValidEpsStatus then kept
  else if currentMode = .safe && soc.lt safeToHellSoc then
    { kept with targetMode := .hell, action := .safeToHell }
  else if currentMode = .hell && hellToSafeSoc.lt soc then
    { kept with targetMode := .safe, action := .hellToSafe }
  else if currentMode = .payload && soc.lt activeToSafeSoc then
    { kept with targetMode := .safe, action := .activeToSafe }
  else if currentMode = .payload && soc.lt payloadToIdleSoc then
    { kept with targetMode := .idle, action := .payloadToIdle }
  else if isModeWithSafeFallbackFloor currentMode && soc.lt activeToSafeSoc then
    { kept with targetMode := .safe, action := .activeToSafe }
  else kept

end ModeSafetyPolicy

def ModeSafetyDecision.shouldTransition (decision : ModeSafetyDecision) : Bool :=
  decide (decision.action ≠ .none) && decide (decision.targetMode ≠ decision.currentMode)

/-! ### The controller -/

/-- The charge in the cached EPS status, if there is a valid one. -/
abbrev CachedCharge := Option F32

structure ModeSafetyController where
  transitionCount : UInt32 := 0
  epsUnavailableLatched : Bool := false

namespace ModeSafetyController

open ModeSafetyPolicy

variable (charge : CachedCharge)

/-- A guard on the charge. An EPS status that is not configured is one that is not valid. -/
def guardSoc (threshold : F32) : OperatorModeTransitionDecision :=
  match charge with
  | none => { reason := .socGuardUnavailable }
  | some soc => if threshold.lt soc then { accepted := true } else { reason := .socGuardNotMet }

def evaluateOperatorTransition (currentMode requestedMode : SatMode) :
    OperatorModeTransitionDecision :=
  if currentMode = requestedMode then { accepted := true }
  else if requestedMode = .hell then { reason := .internalOnlyTarget }
  else
    match currentMode with
    | .safe => if requestedMode = .idle then guardSoc charge safeToIdleSoc else {}
    | .idle =>
        if requestedMode = .safe || requestedMode = .ttc then { accepted := true }
        else if requestedMode = .payload then guardSoc charge idleToPayloadSoc
        else {}
    | .payload | .ttc => { accepted := requestedMode = .safe || requestedMode = .idle }
    | .hell => if requestedMode = .safe then guardSoc charge hellToSafeSoc else {}

variable (currentMode : SatMode)

/-- The decision of a cycle; the charge reads as zero when it is not valid. -/
def cycleDecision : ModeSafetyDecision :=
  evaluate currentMode charge.isSome (charge.getD (.finite 0))

def applySource (decision : ModeSafetyDecision) : ModeApplySource :=
  match decision.action with
  | .hellToSafe => .safetyRecovery
  | .payloadToIdle => .safetyPayloadExit
  | _ => .safetyFallback

def cycleTarget : Option SatMode :=
  let decision := cycleDecision charge currentMode
  if decision.hasValidEpsStatus && decision.shouldTransition then some decision.targetMode else none

def afterCycle (controller : ModeSafetyController) :
    ModeSafetyController :=
  if charge.isNone then { controller with epsUnavailableLatched := true }
  else
    { epsUnavailableLatched := false
      transitionCount := if (cycleTarget charge currentMode).isSome then controller.transitionCount + 1
        else controller.transitionCount }

end ModeSafetyController

/-! ### The mode manager -/

inductive ModeEvent
  | sysBoot
  | modeChange (mode : SatMode)
  | transitionRejected (fromMode toMode : SatMode) (reason : ModeTransitionRejectionReason)
deriving DecidableEq

/-- The component and the events it has reported. -/
structure ModeManager where
  bootAnnounced : Bool := false
  currentMode : SatMode := .safe
  events : List ModeEvent := []

namespace ModeManager

def announceBoot (m : ModeManager) : ModeManager :=
  if m.bootAnnounced then m else { m with bootAnnounced := true, events := m.events ++ [.sysBoot] }

variable (mode : SatMode)

def applyMode (m : ModeManager) : ModeManager :=
  if m.currentMode ≠ mode then { m with currentMode := mode, events := m.events ++ [.modeChange mode] }
  else m

def applyModeForInternalSource (_source : ModeApplySource) (m : ModeManager) :
    ModeManager :=
  m.announceBoot.applyMode mode

def rejectTransition (toMode : SatMode) (reason : ModeTransitionRejectionReason) (m : ModeManager) :
    ModeManager :=
  { m with events := m.events ++ [.transitionRejected m.currentMode toMode reason] }

/-- The guard is the mode safety controller's, or there is none. -/
def requestModeFromOperator
    (guard : Option (SatMode → SatMode → OperatorModeTransitionDecision)) (mode : SatMode)
    (m : ModeManager) : ModeManager × CmdResponse :=
  let announced := m.announceBoot
  match guard with
  | none => (announced.rejectTransition mode .guardUnconfigured, .executionError)
  | some evaluate =>
      let decision := evaluate announced.currentMode mode
      if decision.accepted then (announced.applyMode mode, .ok)
      else (announced.rejectTransition mode decision.reason, .validationError)

@[simp] theorem announceBoot_currentMode (m : ModeManager) : m.announceBoot.currentMode = m.currentMode := by
  unfold announceBoot
  split_ifs <;> rfl

@[simp] theorem applyMode_currentMode (m : ModeManager) :
    (m.applyMode mode).currentMode = mode := by
  unfold applyMode
  split_ifs with h
  · rfl
  · exact not_not.mp h

@[simp] theorem applyModeForInternalSource_currentMode (s : ModeApplySource)
    (m : ModeManager) : (m.applyModeForInternalSource mode s).currentMode = mode :=
  applyMode_currentMode mode _

end ModeManager

end ObcFlight
