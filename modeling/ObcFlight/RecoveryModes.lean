import ObcFlight.RecoverySteps

/-!
# When the recovery executor asks for SAFE

A call first works under the lock, where it may ask for SAFE if the mode it has just read
allows that, and then carries out what it queued. The only action that sets the mode is the
fallback to SAFE; the boot clamp of the tick sets it without looking.
-/

namespace ObcFlight

namespace RecoveryExecutor

variable {ω : Type*}

/-- The part of a call up to the action loop. For the tick this is what follows the clamp. -/
def beginCall (c : RecoveryControls ω) (f : Frame ω) : Call → Frame ω × List ExternalActionRequest
  | .submitWatchdogFault watchdog => lockWatchdogFault c watchdog f
  | .submitWatchdogSuppression watchdog => lockWatchdogSuppression watchdog f
  | .clearWatchdogFault watchdog => (clearWatchdogFault watchdog f, [])
  | .submitSubsystemFault fault =>
      if (f.incident fault.source).active || exitBusy f.executor then (f, [])
      else lockSubsystemFault c fault.source (currentMode c f.world) f
  | .clearSubsystemFault fault => (clearSubsystemFault fault f, [])
  | .schedIn => lockTick c f
  | .consumeRecoveryExitRequest =>
      ({ f with executor := (consumeRecoveryExitRequest f.executor).2 }, [])
  | .consumeRebootRequest => ({ f with executor := (consumeRebootRequest f.executor).2 }, [])

/-- What happens before that: the clamp of the tick, and nothing for the other calls. -/
def clampCall (c : RecoveryControls ω) (f : Frame ω) : Call → Frame ω
  | .schedIn => applyBootClamp c f
  | _ => f

variable (c : RecoveryControls ω)

theorem call_eq_beginCall (f : Frame ω) (k : Call) :
    call c f k = executeExternalActions c (beginCall c (clampCall c f k) k).1
      (beginCall c (clampCall c f k) k).2 := by
  cases k with
  | submitSubsystemFault =>
    rw [call, submitSubsystemFault_eq]
    dsimp only [beginCall, clampCall]
    unfold handleSubsystemFault
    split_ifs <;> rfl
  | _ => rfl

def allowsAlreadySafe (source : IncidentSource) : Bool :=
  recoveryIncidentSourceIsWatchdog source || decide (source = .adcsPollTransport) ||
    decide (source = .adcsPollFreshness)

/-- A fallback is permitted by the mode that was read for it; restarts are asked for by the
watchdog's sources only, so that a fallback in their place may be asked for in SAFE as well. -/
def Permits (mode : SatMode) : ExternalActionRequest → Prop
  | .applySafe source _ => canRequestSafe mode (allowsAlreadySafe source) = true
  | .recordProcessRestartIntent source _ => recoveryIncidentSourceIsWatchdog source = true
  | _ => True

def Permitted (mode : SatMode) (queue : List ExternalActionRequest) : Prop :=
  ∀ request ∈ queue, Permits mode request

namespace Permitted

variable {mode : SatMode} {queue later : List ExternalActionRequest} {source : IncidentSource} {p : Pass}

theorem nil (mode : SatMode) : Permitted mode [] := fun _ h => nomatch h

theorem append (h : Permitted mode queue) (h' : Permitted mode later) : Permitted mode (queue ++ later) := by
  intro r hmem
  rcases List.mem_append.mp hmem with hmem | hmem
  · exact h r hmem
  · exact h' r hmem

theorem concat (h : Permitted mode queue) {r : ExternalActionRequest} (hr : Permits mode r) :
    Permitted mode (queue ++ [r]) :=
  h.append fun _ hmem => (List.mem_singleton.mp hmem) ▸ hr

theorem prepareSafeFallback (h : Permitted mode p.actions) (c : RecoveryControls ω)
    (m : ModeApplySource) {a : Bool} (hal : a = true → allowsAlreadySafe source = true) :
    Permitted mode (RecoveryExecutor.prepareSafeFallback c source mode m a p).1.actions := by
  rcases prepareSafeFallback_cases c source mode m a p with
    ⟨heq, -⟩ | ⟨heq, -, -, hcan⟩
  · rw [heq]
    exact h
  · rw [heq]
    refine h.concat ?_
    cases a with
    | true => rwa [Permits, hal rfl]
    | false =>
      simp only [canRequestSafe, Bool.false_and, Bool.or_false] at hcan
      simp [Permits, canRequestSafe, hcan]

theorem prepareReboot (h : Permitted mode p.actions) :
    Permitted mode (RecoveryExecutor.prepareReboot source p).actions := by
  unfold RecoveryExecutor.prepareReboot
  split_ifs
  · exact h
  · exact h.concat trivial

theorem prepareProcessRestart (h : Permitted mode p.actions)
    (hs : recoveryIncidentSourceIsWatchdog source = true) (m : ModeApplySource) :
    Permitted mode (RecoveryExecutor.prepareProcessRestart source m p).actions := by
  unfold RecoveryExecutor.prepareProcessRestart
  split_ifs
  · exact h
  · exact h.concat hs

theorem prepareReset (h : Permitted mode p.actions) {request : IncidentSource → ExternalActionRequest}
    (hr : Permits mode (request source)) :
    Permitted mode (RecoveryExecutor.prepareReset request source p).actions := by
  unfold RecoveryExecutor.prepareReset
  split_ifs
  · exact h
  · exact h.concat hr

theorem prepareCommFailover (h : Permitted mode p.actions) :
    Permitted mode (RecoveryExecutor.prepareCommFailover source p).actions := by
  unfold RecoveryExecutor.prepareCommFailover
  split_ifs
  · exact h
  · exact h.concat trivial

end Permitted

/-! ### The section under the lock -/

theorem isWatchdog_fromWatchdog (w : WatchdogSource) :
    recoveryIncidentSourceIsWatchdog (recoveryIncidentSourceFromWatchdog w) = true := by
  cases w <;> rfl

theorem permitted_lockWatchdogFault (w : WatchdogSource) (f : Frame ω) :
    Permitted (currentMode c f.world) (lockWatchdogFault c w f).2 := by
  have hw := isWatchdog_fromWatchdog w
  rw [lockWatchdogFault, actions_locked]
  split_ifs
  · unfold openForWatchdogFault applyBootSafeFallbackClamp
    dsimp only
    split_ifs
    · exact (Permitted.nil _).prepareSafeFallback c _ fun _ => by simp [allowsAlreadySafe, hw]
    · exact ((Permitted.nil _).prepareSafeFallback c _ fun _ => by
        simp [allowsAlreadySafe, hw]).prepareProcessRestart hw _
    · exact .nil _
    · exact (Permitted.nil _).prepareProcessRestart hw _
  · exact .nil _

theorem permitted_lockWatchdogSuppression (mode : SatMode) (w : WatchdogSource) (f : Frame ω) :
    Permitted mode (lockWatchdogSuppression w f).2 := by
  rw [lockWatchdogSuppression, actions_locked]
  dsimp only
  split_ifs
  · exact (Permitted.nil _).prepareReboot
  · exact .nil _
  · exact (Permitted.nil _).prepareReboot
  · exact .nil _

theorem permitted_lockSubsystemFault (source : IncidentSource) (mode : SatMode) (f : Frame ω) :
    Permitted mode (lockSubsystemFault c source mode f).2 := by
  rw [lockSubsystemFault, actions_locked]
  dsimp only
  split_ifs
  · exact (Permitted.nil _).prepareReboot
  · unfold firstSubsystemActions
    split
    · exact Permitted.prepareSafeFallback (.prepareReset (.nil _) (by trivial)) c _ fun h => nomatch h
    iterate 2
      dsimp only
      split_ifs
      · exact Permitted.prepareSafeFallback (.prepareReset (.nil _) (by trivial)) c _ fun _ => rfl
      · exact .prepareReset (.nil _) trivial
    · exact (Permitted.nil _).prepareCommFailover
    · exact (Permitted.nil _).prepareCommFailover
    · exact .nil _

theorem permitted_tickIncident (mode : SatMode) (source : IncidentSource)
    (incident : RecoveryIncidentState) :
    Permitted mode (tickIncident source { incident }).actions := by
  unfold tickIncident
  dsimp only
  split_ifs
  · exact (Permitted.nil _).prepareReboot
  · exact .nil _
  · exact (Permitted.nil _).prepareReboot
  · exact .nil _

theorem permitted_countStableTicks (mode : SatMode) (n : UInt32) (x : RecoveryExecutor) :
    Permitted mode (countStableTicks n x).2 := by
  unfold countStableTicks
  dsimp only
  split_ifs
  · exact (Permitted.nil _).concat trivial
  · exact .nil _
  · exact .nil _
  · exact .nil _

theorem permitted_lockTick (mode : SatMode) (f : Frame ω) : Permitted mode (lockTick c f).2 := by
  unfold lockTick
  refine Permitted.append ?_ (permitted_countStableTicks _ _ _)
  split_ifs
  · intro r hmem
    obtain ⟨source, -, hmem⟩ := List.mem_flatMap.mp hmem
    exact permitted_tickIncident mode source _ r hmem
  · exact .nil _

variable (f : Frame ω)

theorem permitted_beginCall (k : Call) : Permitted (currentMode c f.world) (beginCall c f k).2 := by
  cases k with
  | submitWatchdogFault w => exact permitted_lockWatchdogFault c w f
  | submitWatchdogSuppression w => exact permitted_lockWatchdogSuppression _ w f
  | submitSubsystemFault fault =>
    dsimp only [beginCall]
    split_ifs
    · exact .nil _
    · exact permitted_lockSubsystemFault c fault.source _ f
  | schedIn => exact permitted_lockTick c _ f
  | _ => exact .nil _

theorem beginCall_world (k : Call) : (beginCall c f k).1.world = f.world := by
  cases k with
  | clearWatchdogFault =>
    dsimp only [beginCall, clearWatchdogFault, clearIncidentBySource]
    split_ifs <;> rfl
  | clearSubsystemFault =>
    dsimp only [beginCall, clearSubsystemFault, clearIncidentBySource]
    split_ifs <;> rfl
  | submitSubsystemFault =>
    dsimp only [beginCall]
    split_ifs <;> rfl
  | schedIn =>
    dsimp only [beginCall, lockTick]
    split_ifs <;> rfl
  | _ => rfl

/-! ### The actions -/

theorem permitted_executeExternalAction {mode : SatMode}
    {a : ExternalActionRequest} (h : Permits mode a) :
    Permitted (currentMode c (executeExternalAction c f a).1.world)
      (executeExternalAction c f a).2 := by
  cases a with
  | applySafe | epsReset | adcsReset | recordRebootIntent | ackStable => exact .nil _
  | commFailover =>
    dsimp only [executeExternalAction, commFailover]
    split_ifs
    · exact (Permitted.nil _).prepareSafeFallback c _ fun h => nomatch h
    · exact .nil _
  | recordProcessRestartIntent source =>
    have hw : recoveryIncidentSourceIsWatchdog source = true := h
    dsimp only [executeExternalAction, recordProcessRestartIntent]
    split_ifs
    · exact .nil _
    · exact (Permitted.nil _).prepareSafeFallback c _ fun _ => by simp [allowsAlreadySafe, hw]
    · exact .nil _

end RecoveryExecutor

end ObcFlight
