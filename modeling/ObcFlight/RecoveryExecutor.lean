import ObcFlight.Machine
import ObcFlight.RecoveryTypes
import ObcFlight.WorkQueue

/-!
# The recovery executor

Faults of the watchdog and of the subsystems open incidents, and each incident asks for its
recovery actions. A call works on the incident table under the component's lock and queues
actions; the actions are then carried out one after the other against the other components,
and some of them ask for one more.

The other components are a world of any type. The interfaces the executor calls on it may be
missing, as the pointers it is configured with may be null.
-/

namespace ObcFlight

structure ModeControl (ω : Type*) where
  getMode : ω → SatMode
  applyMode : SatMode → ModeApplySource → ω → ω

structure RecoveryBootControl (ω : Type*) where
  isBootSafeFallbackRequired : ω → Bool
  getConsecutiveResetCount : ω → UInt32
  recordRecoveryRestartIntent : ResetCause → RecoveryIncidentSource → RecoveryLevel → ω → Bool × ω
  acknowledgeRuntimeStable : ω → Bool × ω

structure RecoveryControls (ω : Type*) where
  mode : Option (ModeControl ω)
  eps : Option (ω → CmdResponse × ω)
  adcs : Option (ω → CmdResponse × ω)
  boot : Option (RecoveryBootControl ω)
  comm : Option (ω → RecoveryCommActionResult × ω)

structure RecoveryIncidentState where
  active : Bool := false
  awaitingClear : Bool := false
  hasOpenedBefore : Bool := false
  firstActionIssued : Bool := false
  restartIntentIssued : Bool := false
  processRestartPending : Bool := false
  safeFallbackIssued : Bool := false
  resetIssued : Bool := false
  commFailoverIssued : Bool := false
  rebootPending : Bool := false
  currentLevel : RecoveryLevel := .r0RecordOnly
  highestLevel : RecoveryLevel := .r0RecordOnly
  lastAction : RecoveryAction := .none
  epoch : UInt32 := 0
  relatchCount : UInt32 := 0
  openTicks : UInt32 := 0

/-- The table has one entry for each source, and the entry's own source is its place in it. -/
structure RecoveryRuntimeStatus where
  activeIncidentCount : UInt32 := 0
  activeSource : Option IncidentSource := none
  currentLevel : RecoveryLevel := .r0RecordOnly
  highestLevel : RecoveryLevel := .r0RecordOnly
  lastAction : RecoveryAction := .none
  pendingProcessRestart : Bool := false
  pendingReboot : Bool := false
  relatchCount : UInt32 := 0
  totalSafeFallbacks : UInt32 := 0
  totalResetActions : UInt32 := 0
  totalProcessRestarts : UInt32 := 0
  totalReboots : UInt32 := 0
  incidents : IncidentSource → RecoveryIncidentState := fun _ => {}

structure RecoveryExecutor where
  status : RecoveryRuntimeStatus := {}
  stableTicks : UInt32 := 0
  bootClampApplied : Bool := false
  stableAcked : Bool := false
  hardwareWatchdogModeEnabled : Bool := false
  processRestartRequested : Bool := false
  rebootRequested : Bool := false
  exitRequestConsumed : Bool := false

/-- What the component reports about its incidents. -/
inductive RecoveryEvent
  | incidentOpened (source : IncidentSource) (level : RecoveryLevel) (relatchCount : UInt32)
  | incidentCleared (source : IncidentSource) (level : RecoveryLevel) (relatchCount : UInt32)
  | actionRequested (source : IncidentSource) (level : RecoveryLevel) (action : RecoveryAction)
  | actionExecuted (source : IncidentSource) (action : RecoveryAction) (response : UInt32)
  | rebootPending (source : IncidentSource) (level : RecoveryLevel)
  | rebootIssued (source : IncidentSource) (level : RecoveryLevel)
deriving DecidableEq

namespace RecoveryExecutor

def stableAckTicks : UInt32 := 5
def unclearedRebootTimeoutTicks : UInt32 := 3

def saturatingIncrement (value : UInt32) : UInt32 := if value < 4294967295 then value + 1 else value

def modeIsSafeRequestable (mode : SatMode) : Bool :=
  decide (mode = .idle) || decide (mode = .payload) || decide (mode = .ttc)

def commActionResponseCode (result : RecoveryCommActionResult) : UInt32 :=
  if result.noHealthyBackup then 1 else if result.alreadyOnHealthyPrimary then 2 else 0

/-- The requests the component queues, with the fields that are read when they are carried out.
Nothing queues APPLY_BOOT_SAFE_FALLBACK. -/
inductive ExternalActionRequest
  | applySafe (source : IncidentSource) (modeSource : ModeApplySource)
  | epsReset (source : IncidentSource)
  | adcsReset (source : IncidentSource)
  | commFailover (source : IncidentSource)
  | recordProcessRestartIntent (source : IncidentSource) (modeSource : ModeApplySource)
  | recordRebootIntent (source : IncidentSource)
  | ackStable
deriving DecidableEq

/-! ### One incident under the lock -/

/-- What a locked section has in hand: the incident, the queued actions, the reports. -/
structure Pass where
  incident : RecoveryIncidentState
  actions : List ExternalActionRequest := []
  log : List RecoveryEvent := []

variable (source : IncidentSource)

def openIncident (p : Pass) : Pass :=
  let relatchCount := if p.incident.hasOpenedBefore then saturatingIncrement p.incident.relatchCount
    else p.incident.relatchCount
  let level := recoveryInitialLevelForSource source
  { p with
    incident := {
      active := true, awaitingClear := true, hasOpenedBefore := true
      currentLevel := level, highestLevel := level
      epoch := saturatingIncrement p.incident.epoch, relatchCount := relatchCount }
    log := p.log ++ [RecoveryEvent.incidentOpened source level relatchCount] }

def closeIncident (p : Pass) : Pass :=
  let incident := { p.incident with active := false, awaitingClear := false }
  { p with
    incident :=
      if !incident.processRestartPending && !incident.rebootPending then
        { incident with currentLevel := .r0RecordOnly, lastAction := .incidentCleared }
      else incident
    log := p.log ++ [RecoveryEvent.incidentCleared source incident.highestLevel incident.relatchCount] }

/-- The common part of the prepare functions: the incident stands at the level of the action,
and the request is reported. -/
def issueAction (level : RecoveryLevel) (action : RecoveryAction) (p : Pass) : Pass :=
  { p with
    incident := { p.incident with
      currentLevel := level
      highestLevel := if p.incident.highestLevel < level then level else p.incident.highestLevel
      lastAction := action }
    log := p.log ++ [RecoveryEvent.actionRequested source level action] }

def push (request : ExternalActionRequest) (p : Pass) : Pass :=
  { p with actions := p.actions ++ [request] }

def prepareProcessRestart (fallbackModeSource : ModeApplySource) (p : Pass) : Pass :=
  if p.incident.restartIntentIssued then p
  else
    push (.recordProcessRestartIntent source fallbackModeSource)
      (issueAction source .r2RestartSoftwareComponent .processRestart
        { p with incident := { p.incident with restartIntentIssued := true, firstActionIssued := true } })

/-- Whether the mode allows the fallback to SAFE to be asked for. -/
def canRequestSafe (currentMode : SatMode) (allowAlreadySafe : Bool) : Bool :=
  modeIsSafeRequestable currentMode || (allowAlreadySafe && decide (currentMode = .safe))

/-- The second component tells whether the fallback was asked for. -/
def prepareSafeFallback {ω : Type*} (c : RecoveryControls ω) (source : IncidentSource)
    (currentMode : SatMode) (modeSource : ModeApplySource) (allowAlreadySafe : Bool) (p : Pass) :
    Pass × Bool :=
  if p.incident.safeFallbackIssued || c.mode.isNone || !canRequestSafe currentMode allowAlreadySafe then
    (p, false)
  else
    (push (.applySafe source modeSource)
      (issueAction source .r5ModeFallback .safeFallback
        { p with incident := { p.incident with safeFallbackIssued := true } }), true)

/-- The reset of a subsystem's interface; EPS and ADCS differ in the action that is queued. -/
def prepareReset (request : IncidentSource → ExternalActionRequest) (source : IncidentSource)
    (p : Pass) : Pass :=
  if p.incident.resetIssued then p
  else
    push (request source)
      (issueAction source .r3ResetSubsystemInterface .subsystemInterfaceReset
        { p with incident := { p.incident with resetIssued := true, firstActionIssued := true } })

def prepareEpsReset : IncidentSource → Pass → Pass := prepareReset .epsReset

def prepareAdcsReset : IncidentSource → Pass → Pass := prepareReset .adcsReset

def prepareCommFailover (p : Pass) : Pass :=
  if p.incident.commFailoverIssued then p
  else
    push (.commFailover source)
      (issueAction source .r3ResetSubsystemInterface .commLinkFailover
        { p with incident := { p.incident with commFailoverIssued := true, firstActionIssued := true } })

def prepareReboot (p : Pass) : Pass :=
  if p.incident.rebootPending then p
  else
    let asked := issueAction source .r6ObcReboot .obcReboot p
    push (.recordRebootIntent source)
      { asked with log := asked.log ++ [RecoveryEvent.rebootPending source .r6ObcReboot] }

/-! ### The table and its summary -/

def setIncident (incident : RecoveryIncidentState) (x : RecoveryExecutor) : RecoveryExecutor :=
  { x with status := { x.status with
      incidents := Function.update x.status.incidents source incident } }

def noted (incident : RecoveryIncidentState) : Bool :=
  incident.active || incident.processRestartPending || incident.rebootPending

def outranks (incident summary : RecoveryIncidentState) : Bool :=
  decide (summary.currentLevel < incident.currentLevel) ||
    (decide (incident.currentLevel = summary.currentLevel) && decide (summary.epoch < incident.epoch))

def summaryIncident (incidents : IncidentSource → RecoveryIncidentState)
    (focus : Option IncidentSource) : Option IncidentSource :=
  IncidentSource.all.foldl
    (fun summary source =>
      if noted (incidents source) &&
          (match summary with
          | none => true
          | some shown => outranks (incidents source) (incidents shown)) then some source
      else summary)
    (focus.filter fun source => noted (incidents source))

def updateStatusSummary (focus : Option IncidentSource) (x : RecoveryExecutor) : RecoveryExecutor :=
  let incidents := x.status.incidents
  let counted : RecoveryRuntimeStatus := { x.status with
    activeIncidentCount := IncidentSource.all.foldl
      (fun count source => if (incidents source).active then saturatingIncrement count else count) 0
    pendingProcessRestart := IncidentSource.all.any fun source => (incidents source).processRestartPending
    pendingReboot := IncidentSource.all.any fun source => (incidents source).rebootPending }
  { x with status :=
      match summaryIncident incidents focus with
      | some source => { counted with
          activeSource := some source
          currentLevel := (incidents source).currentLevel
          highestLevel := (incidents source).highestLevel
          lastAction := (incidents source).lastAction
          relatchCount := (incidents source).relatchCount }
      | none =>
          if counted.activeIncidentCount = 0 then { counted with
            activeSource := none
            currentLevel := .r0RecordOnly
            highestLevel := .r0RecordOnly
            lastAction := .none
            relatchCount := 0 }
          else counted }

/-- The request that is handed out, and the executor that has handed it out. -/
def consumeRecoveryExitRequest (x : RecoveryExecutor) : RecoveryExitRequest × RecoveryExecutor :=
  if x.rebootRequested then
    (.obcReboot, updateStatusSummary none { x with
      rebootRequested := false
      exitRequestConsumed := true
      status := { x.status with
        incidents := fun source => { x.status.incidents source with rebootPending := false } } })
  else if x.processRestartRequested then
    (.processRestart, updateStatusSummary none { x with
      processRestartRequested := false
      exitRequestConsumed := true
      status := { x.status with
        incidents := fun source => { x.status.incidents source with processRestartPending := false } } })
  else (.none, x)

def consumeRebootRequest (x : RecoveryExecutor) : Bool × RecoveryExecutor :=
  if x.rebootRequested then
    (true, updateStatusSummary none { x with
      rebootRequested := false
      exitRequestConsumed := true
      status := { x.status with
        incidents := fun source => { x.status.incidents source with rebootPending := false } } })
  else (false, x)

/-! ### External actions -/

/-- The executor and the world during a call, and what has been reported in it. -/
structure Frame (ω : Type*) where
  executor : RecoveryExecutor
  world : ω
  log : List RecoveryEvent := []

variable {ω : Type*}

def Frame.incident (f : Frame ω) (source : IncidentSource) : RecoveryIncidentState :=
  f.executor.status.incidents source

/-- Work on one incident under the lock, put it back and bring the summary up to date. -/
def Frame.locked (work : Pass → Pass) (f : Frame ω) : Frame ω × List ExternalActionRequest :=
  let p := work { incident := f.incident source, log := f.log }
  ({ f with
      executor := updateStatusSummary (some source) (setIncident source p.incident f.executor)
      log := p.log }, p.actions)

def currentMode (c : RecoveryControls ω) (world : ω) : SatMode :=
  match c.mode with
  | none => .safe
  | some mode => mode.getMode world

def Frame.report (event : RecoveryEvent) (f : Frame ω) : Frame ω :=
  { f with log := f.log ++ [event] }

def Frame.summarize (f : Frame ω) : Frame ω :=
  { f with executor := updateStatusSummary (some source) f.executor }

def applySafe (c : RecoveryControls ω) (source : IncidentSource) (modeSource : ModeApplySource)
    (f : Frame ω) : Frame ω :=
  let world := match c.mode with
    | none => f.world
    | some mode => mode.applyMode .safe modeSource f.world
  let x := f.executor
  ({ f with
      world
      executor := { x with status := { x.status with
        totalSafeFallbacks := saturatingIncrement x.status.totalSafeFallbacks } } }
    |>.report (.actionExecuted source .safeFallback 0)).summarize source

def resetSubsystem (control : Option (ω → CmdResponse × ω)) (source : IncidentSource)
    (f : Frame ω) : Frame ω :=
  let answer := match control with
    | none => (CmdResponse.executionError, f.world)
    | some reset => reset f.world
  let x := f.executor
  ({ f with
      world := answer.2
      executor := { x with status := { x.status with
        totalResetActions := saturatingIncrement x.status.totalResetActions } } }
    |>.report (.actionExecuted source .subsystemInterfaceReset answer.1.code)).summarize source

def commFailover (c : RecoveryControls ω) (source : IncidentSource) (f : Frame ω) :
    Frame ω × List ExternalActionRequest :=
  let answer := match c.comm with
    | none => (({} : RecoveryCommActionResult), f.world)
    | some failover => failover f.world
  let done := ({ f with world := answer.2 }
    |>.report (.actionExecuted source .commLinkFailover (commActionResponseCode answer.1))).summarize source
  let incident := done.incident source
  if answer.1.noHealthyBackup && (incident.active && !incident.rebootPending) then
    done.locked source fun p =>
      (prepareSafeFallback c source (currentMode c done.world) .fdirSubsystemFault false p).1
  else (done, [])

/-- Whether the intent was written to the boot record, and the world after the attempt. -/
def recordIntent (c : RecoveryControls ω) (source : IncidentSource) (level : RecoveryLevel)
    (world : ω) : Bool × ω :=
  match c.boot with
  | none => (false, world)
  | some boot =>
      boot.recordRecoveryRestartIntent (recoveryResetCauseForSource source) source.toRecovery level world

def recordProcessRestartIntent (c : RecoveryControls ω) (source : IncidentSource)
    (modeSource : ModeApplySource) (f : Frame ω) : Frame ω × List ExternalActionRequest :=
  let answer := recordIntent c source .r2RestartSoftwareComponent f.world
  let x := f.executor
  let incident := f.incident source
  if answer.1 then
    let requested := setIncident source { incident with processRestartPending := true }
      { x with
        processRestartRequested := true
        status := { x.status with
          totalProcessRestarts := saturatingIncrement x.status.totalProcessRestarts } }
    (({ f with executor := requested, world := answer.2 }
      |>.report (.actionExecuted source .processRestart 0)).summarize source, [])
  else
    let failed := { f with world := answer.2 }.report
      (.actionExecuted source .processRestart CmdResponse.executionError.code)
    if incident.active && !incident.processRestartPending && !incident.rebootPending then
      failed.locked source fun p =>
        (prepareSafeFallback c source (currentMode c answer.2) modeSource true p).1
    else (failed.summarize source, [])

def recordRebootIntent (c : RecoveryControls ω) (source : IncidentSource) (f : Frame ω) : Frame ω :=
  let answer := recordIntent c source .r6ObcReboot f.world
  let x := f.executor
  let incident := f.incident source
  if answer.1 then
    let requestRuntimeExit :=
      !(x.hardwareWatchdogModeEnabled && recoveryIncidentSourceIsWatchdog source)
    let requested := setIncident source { incident with rebootPending := true }
      { x with
        rebootRequested := x.rebootRequested || requestRuntimeExit
        status := { x.status with totalReboots := saturatingIncrement x.status.totalReboots } }
    (({ f with executor := requested, world := answer.2 }
      |>.report (.rebootIssued source incident.currentLevel)).report
        (.actionExecuted source .obcReboot 0)).summarize source
  else
    ({ f with world := answer.2 }.report
      (.actionExecuted source .obcReboot CmdResponse.executionError.code)).summarize source

def ackStable (c : RecoveryControls ω) (f : Frame ω) : Frame ω :=
  let answer := match c.boot with
    | none => (false, f.world)
    | some boot => boot.acknowledgeRuntimeStable f.world
  if answer.1 then
    { f with world := answer.2, executor := { f.executor with stableAcked := true, stableTicks := 0 } }
  else { f with world := answer.2 }

def executeExternalAction (c : RecoveryControls ω) (f : Frame ω) :
    ExternalActionRequest → Frame ω × List ExternalActionRequest
  | .applySafe source modeSource => (applySafe c source modeSource f, [])
  | .epsReset source => (resetSubsystem c.eps source f, [])
  | .adcsReset source => (resetSubsystem c.adcs source f, [])
  | .commFailover source => commFailover c source f
  | .recordProcessRestartIntent source modeSource => recordProcessRestartIntent c source modeSource f
  | .recordRebootIntent source => (recordRebootIntent c source f, [])
  | .ackStable => (ackStable c f, [])

def ExternalActionRequest.spawns : ExternalActionRequest → Bool
  | .commFailover _ | .recordProcessRestartIntent _ _ => true
  | _ => false

def askedSafe (incident : RecoveryIncidentState) : RecoveryIncidentState :=
  { incident with
    safeFallbackIssued := true
    currentLevel := .r5ModeFallback
    highestLevel := if incident.highestLevel < .r5ModeFallback then .r5ModeFallback
      else incident.highestLevel
    lastAction := .safeFallback }

variable (c : RecoveryControls ω)

theorem prepareSafeFallback_cases (s : IncidentSource) (mode : SatMode)
    (m : ModeApplySource) (a : Bool) (p : Pass) :
    (prepareSafeFallback c s mode m a p = (p, false) ∧
      (p.incident.safeFallbackIssued = true ∨ c.mode = none ∨ canRequestSafe mode a = false)) ∨
    (prepareSafeFallback c s mode m a p =
        (⟨askedSafe p.incident, p.actions ++ [ExternalActionRequest.applySafe s m],
          p.log ++ [RecoveryEvent.actionRequested s .r5ModeFallback .safeFallback]⟩, true) ∧
      p.incident.safeFallbackIssued = false ∧ c.mode ≠ none ∧ canRequestSafe mode a = true) := by
  unfold prepareSafeFallback
  split_ifs with h
  · refine .inl ⟨rfl, ?_⟩
    simpa [or_assoc, Option.isNone_iff_eq_none] using h
  · refine .inr ⟨rfl, ?_⟩
    simpa [and_assoc, Option.isNone_iff_eq_none] using h

theorem executeExternalAction_followups (f : Frame ω) (a : ExternalActionRequest) :
    (executeExternalAction c f a).2 = [] ∨
      a.spawns = true ∧ ∃ s m, (executeExternalAction c f a).2 = [.applySafe s m] := by
  cases a with
  | applySafe | epsReset | adcsReset | recordRebootIntent | ackStable => exact .inl rfl
  | commFailover s =>
    dsimp only [executeExternalAction, commFailover, Frame.locked]
    split_ifs
    · rcases prepareSafeFallback_cases c s _ .fdirSubsystemFault false _ with ⟨h, -⟩ | ⟨h, -⟩
      · exact .inl (congrArg (fun done => done.1.actions) h)
      · exact .inr ⟨rfl, s, _, congrArg (fun done => done.1.actions) h⟩
    · exact .inl rfl
  | recordProcessRestartIntent s m =>
    dsimp only [executeExternalAction, recordProcessRestartIntent, Frame.locked]
    split_ifs
    · exact .inl rfl
    · rcases prepareSafeFallback_cases c s _ m true _ with ⟨h, -⟩ | ⟨h, -⟩
      · exact .inl (congrArg (fun done => done.1.actions) h)
      · exact .inr ⟨rfl, s, _, congrArg (fun done => done.1.actions) h⟩
    · exact .inl rfl

def externalActions (c : RecoveryControls ω) : WorkQueue (Frame ω) ExternalActionRequest where
  work := executeExternalAction c
  spawns := ExternalActionRequest.spawns
  followups_length f action := by
    rcases executeExternalAction_followups c f action with h | ⟨hspawns, source, modeSource, h⟩
    · rw [h]
      exact Nat.zero_le _
    · rw [h, hspawns]
      rfl
  followups_quiet f action next hnext := by
    rcases executeExternalAction_followups c f action with h | ⟨-, source, modeSource, h⟩
    · rw [h] at hnext
      cases hnext
    · rw [h, List.mem_singleton] at hnext
      rw [hnext]
      rfl

def executeExternalActions (c : RecoveryControls ω) (f : Frame ω)
    (actions : List ExternalActionRequest) : Frame ω :=
  (externalActions c).drain f actions

end RecoveryExecutor

end ObcFlight
